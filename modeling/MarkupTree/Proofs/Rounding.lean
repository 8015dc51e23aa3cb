import Mathlib.Algebra.Order.Field.Rat
import Mathlib.Algebra.Order.Field.Power
import Mathlib.Tactic.FieldSimp
import Mathlib.Tactic.Linarith
import Mathlib.Tactic.Ring
import MarkupTree.Proofs.Numerals

/-! Shortest decimals keep numbers apart. The decimal that stands for a number of a format lies among
the reals that round to the number, and these reach from the one neighbour to the other: where two
numbers share an end, the significand of one of them is odd and the end does not belong to it. -/
namespace MarkupTree

namespace RoundingInterval

variable {interval : RoundingInterval} {tie : Tie} {n : Nat} {x : Decimal}

def Holds (interval : RoundingInterval) (q : ℚ) : Prop :=
  if interval.closed then
    interval.low ≤ q * interval.denominator ∧ q * interval.denominator ≤ interval.high
  else interval.low < q * interval.denominator ∧ q * interval.denominator < interval.high

theorem contains_iff : interval.contains n ↔ interval.Holds n := by
  unfold contains Holds
  by_cases hc : interval.closed
  · simp only [hc, if_true, Bool.and_eq_true, decide_eq_true_eq]
    norm_cast
  · simp only [hc, if_false, Bool.false_eq_true, Bool.and_eq_true, decide_eq_true_eq]
    norm_cast

theorem holds_inUnits (interval : RoundingInterval) (e : Int) (q : ℚ) :
    (interval.inUnits e).Holds q ↔ interval.Holds (q * 10 ^ e) := by
  have hup : (0 : ℚ) < 10 ^ (-e).toNat := by positivity
  have hunit : (10 : ℚ) ^ e * 10 ^ (-e).toNat = 10 ^ e.toNat := by
    rw [← zpow_natCast, ← zpow_natCast, ← zpow_add₀ (by norm_num)]
    congr 1
    omega
  have hscale : q * (interval.inUnits e).denominator =
      q * 10 ^ e * interval.denominator * 10 ^ (-e).toNat := by
    simp only [inUnits, Nat.pow_eq]
    push_cast
    rw [← hunit]
    ring
  have hlow : ((interval.inUnits e).low : ℚ) = interval.low * 10 ^ (-e).toNat := by
    simp [inUnits]
  have hhigh : ((interval.inUnits e).high : ℚ) = interval.high * 10 ^ (-e).toNat := by
    simp [inUnits]
  unfold Holds
  rw [hscale, hlow, hhigh, mul_le_mul_iff_left₀ hup, mul_le_mul_iff_left₀ hup,
    mul_lt_mul_iff_left₀ hup, mul_lt_mul_iff_left₀ hup]
  rfl

theorem contains_of_nearest? (h : interval.nearest? tie = some n) : interval.contains n := by
  unfold nearest? at h
  simp only at h
  split at h
  · cases h
  · rename_i hb _
    cases h
    exact hb
  · rename_i _ ha
    cases h
    exact ha
  · rename_i hb ha
    split at h
    · cases h
      exact hb
    · split at h
      · cases h
        exact ha
      · cases tie with
        | up =>
          cases h
          exact ha
        | even =>
          simp only [Option.some.injEq] at h
          rcases Nat.mod_two_eq_zero_or_one (interval.value / interval.denominator) with he | ho
          · rw [he, Nat.add_zero] at h
            rw [← h]
            exact hb
          · rw [ho] at h
            rw [← h]
            exact ha

theorem holds_of_shortest? (h : interval.shortest? tie = some x) : interval.Holds x.toRat := by
  unfold shortest? at h
  obtain ⟨more, -, hm⟩ := List.exists_of_findSome?_eq_some h
  simp only [Option.map_eq_some_iff] at hm
  obtain ⟨n, hn, rfl⟩ := hm
  have hc := contains_iff.1 (contains_of_nearest? hn)
  exact (holds_inUnits interval _ n).1 hc

end RoundingInterval

theorem Decimal.toRat_trim (x : Decimal) : x.trim.toRat = x.toRat := by
  induction x using Decimal.trim.induct with
  | case1 x h =>
    unfold trim
    simp [h, toRat]
  | case2 x h hm ih =>
    have hten : (10 : ℚ) ≠ 0 := by norm_num
    have hd : x.digits = x.digits / 10 * 10 := by omega
    unfold trim
    rw [if_neg h, if_pos hm, ih, toRat, toRat]
    simp only
    rw [zpow_add₀ hten, zpow_one]
    nth_rewrite 2 [hd]
    push_cast
    ring
  | case3 x h hm =>
    unfold trim
    rw [if_neg h, if_neg hm]

namespace Magnitude

/-- The least number that may round to this one. -/
def lower (x : Magnitude) : ℚ :=
  ((4 * x.significand - (if x.narrowBelow then 1 else 2) : Nat) : ℚ) * 2 ^ (x.exponent - 2)

/-- The greatest number that may round to this one. -/
def upper (x : Magnitude) : ℚ := (4 * x.significand + 2 : Nat) * 2 ^ (x.exponent - 2)

def toRat (x : Magnitude) : ℚ := x.significand * 2 ^ x.exponent

theorem lower_lt_upper (x : Magnitude) : x.lower < x.upper := by
  have hu : (0 : ℚ) < 2 ^ (x.exponent - 2) := by positivity
  have hn : 4 * x.significand - (if x.narrowBelow then 1 else 2) < 4 * x.significand + 2 := by
    omega
  exact mul_lt_mul_of_pos_right (by exact_mod_cast hn) hu

theorem holds_interval_iff (x : Magnitude) (q : ℚ) :
    x.interval.Holds q ↔
      if x.significand % 2 = 0 then x.lower ≤ q ∧ q ≤ x.upper else x.lower < q ∧ q < x.upper := by
  have hd : (0 : ℚ) < 2 ^ (-(x.exponent - 2)).toNat := by positivity
  have hunit : (2 : ℚ) ^ (x.exponent - 2) * 2 ^ (-(x.exponent - 2)).toNat =
      2 ^ (x.exponent - 2).toNat := by
    rw [← zpow_natCast, ← zpow_natCast, ← zpow_add₀ (by norm_num)]
    congr 1
    omega
  have hlow : (x.interval.low : ℚ) = x.lower * x.interval.denominator := by
    simp only [interval, Nat.pow_eq, lower]
    push_cast
    rw [mul_assoc, hunit]
  have hhigh : (x.interval.high : ℚ) = x.upper * x.interval.denominator := by
    simp only [interval, Nat.pow_eq, upper]
    push_cast
    rw [mul_assoc, hunit]
  have hpos : (0 : ℚ) < x.interval.denominator := by
    simp only [interval, Nat.pow_eq]
    push_cast
    exact hd
  have hclosed : x.interval.closed = (x.significand % 2 == 0) := rfl
  unfold RoundingInterval.Holds
  rw [hlow, hhigh, mul_le_mul_iff_left₀ hpos, mul_le_mul_iff_left₀ hpos,
    mul_lt_mul_iff_left₀ hpos, mul_lt_mul_iff_left₀ hpos, hclosed]
  simp

theorem bounds_of_holds {x : Magnitude} {q : ℚ} (h : x.interval.Holds q) :
    x.lower ≤ q ∧ q ≤ x.upper := by
  rw [holds_interval_iff] at h
  split at h
  · exact h
  · exact ⟨h.1.le, h.2.le⟩

/-- An end that rounds to the number does so because the significand is even. -/
theorem even_of_holds_end {x : Magnitude} {q : ℚ} (h : x.interval.Holds q)
    (hq : q = x.lower ∨ q = x.upper) : x.significand % 2 = 0 := by
  by_contra hodd
  rw [holds_interval_iff, if_neg hodd] at h
  rcases hq with rfl | rfl
  · exact lt_irrefl _ h.1
  · exact lt_irrefl _ h.2

theorem toRat_exact (x : Magnitude) : x.exact.toRat = x.toRat := by
  unfold exact toRat
  by_cases he : 0 ≤ x.exponent
  · obtain ⟨n, hn⟩ := Int.eq_ofNat_of_zero_le he
    rw [if_pos he, Decimal.toRat, hn]
    simp
  · obtain ⟨n, hn⟩ := Int.eq_ofNat_of_zero_le (by omega : 0 ≤ -x.exponent)
    have hx : x.exponent = -(n : Int) := by omega
    have hten : (10 : ℚ) ^ n = 5 ^ n * 2 ^ n := by
      rw [← mul_pow]
      norm_num
    have hfive : (5 : ℚ) ^ n ≠ 0 := by positivity
    have htwo : (2 : ℚ) ^ n ≠ 0 := by positivity
    rw [if_neg he, Decimal.toRat, hx]
    simp only [neg_neg, Int.toNat_natCast, Nat.pow_eq, zpow_neg, zpow_natCast, hten]
    push_cast
    field_simp

theorem holds_toRat (x : Magnitude) : x.interval.Holds x.toRat := by
  have hu : (0 : ℚ) < 2 ^ (x.exponent - 2) := by positivity
  have hq : x.toRat = (4 * x.significand : Nat) * 2 ^ (x.exponent - 2) := by
    have he : (2 : ℚ) ^ x.exponent = 4 * 2 ^ (x.exponent - 2) := by
      rw [zpow_sub₀ (by norm_num)]
      norm_num
      ring
    rw [toRat, he]
    push_cast
    ring
  have hhigh : x.toRat < x.upper := by
    rw [hq, upper]
    exact mul_lt_mul_of_pos_right (by exact_mod_cast Nat.lt_add_of_pos_right (by decide)) hu
  rw [holds_interval_iff]
  by_cases hs : x.significand % 2 = 0
  · have hlow : x.lower ≤ x.toRat := by
      rw [hq, lower]
      exact mul_le_mul_of_nonneg_right (by exact_mod_cast Nat.sub_le _ _) hu.le
    rw [if_pos hs]
    exact ⟨hlow, hhigh.le⟩
  · have hn : 4 * x.significand - (if x.narrowBelow then 1 else 2) < 4 * x.significand := by
      split <;> omega
    have hlow : x.lower < x.toRat := by
      rw [hq, lower]
      exact mul_lt_mul_of_pos_right (by exact_mod_cast hn) hu
    rw [if_neg hs]
    exact ⟨hlow, hhigh⟩

theorem holds_shortest (tie : Tie) (x : Magnitude) :
    x.interval.Holds (x.shortest tie).toRat := by
  unfold shortest
  by_cases hs : x.significand = 0
  · have hz : x.toRat = 0 := by rw [toRat, hs, Nat.cast_zero, zero_mul]
    have h := holds_toRat x
    rw [hz] at h
    simpa [hs, Decimal.toRat] using h
  · rw [if_neg hs, Decimal.toRat_trim]
    cases h : x.interval.shortest? tie with
    | none =>
      rw [Option.getD_none, toRat_exact]
      exact holds_toRat x
    | some y => exact RoundingInterval.holds_of_shortest? h

end Magnitude

namespace BinaryFormat

variable {format : BinaryFormat} {v w : Nat} {q : ℚ}

theorem magnitude_fields (format : BinaryFormat) {biased fraction : Nat}
    (hb : biased < 2 ^ format.exponentBits) (hf : fraction < 2 ^ format.fractionBits) :
    format.magnitude (biased * 2 ^ format.fractionBits + fraction) =
      if biased = 0 then ⟨fraction, format.leastExponent, false⟩
      else ⟨2 ^ format.fractionBits + fraction, format.leastExponent + (biased - 1),
        fraction = 0 && 1 < biased⟩ := by
  have hp : 0 < 2 ^ format.fractionBits := Nat.two_pow_pos _
  have hm : (biased * 2 ^ format.fractionBits + fraction) % 2 ^ format.fractionBits = fraction := by
    rw [Nat.mul_add_mod_self_right, Nat.mod_eq_of_lt hf]
  have hd : (biased * 2 ^ format.fractionBits + fraction) / 2 ^ format.fractionBits = biased := by
    rw [Nat.mul_comm, Nat.mul_add_div hp, Nat.div_eq_of_lt hf, Nat.add_zero]
  unfold magnitude
  simp only [Nat.pow_eq, hm, hd, Nat.mod_eq_of_lt hb]

theorem exists_fields (h : w < format.signWord) : ∃ biased fraction,
    biased < 2 ^ format.exponentBits ∧ fraction < 2 ^ format.fractionBits ∧
      w = biased * 2 ^ format.fractionBits + fraction := by
  have hp : 0 < 2 ^ format.fractionBits := Nat.two_pow_pos _
  rw [signWord, Nat.pow_eq, Nat.pow_add] at h
  refine ⟨w / 2 ^ format.fractionBits, w % 2 ^ format.fractionBits, ?_, Nat.mod_lt _ hp, ?_⟩
  · exact Nat.div_lt_of_lt_mul (by rwa [Nat.mul_comm])
  · rw [Nat.mul_comm, Nat.div_add_mod]

theorem significand_mod_two (hf : 0 < format.fractionBits) (h : w < format.signWord) :
    (format.magnitude w).significand % 2 = w % 2 := by
  obtain ⟨biased, fraction, hb, hr, rfl⟩ := exists_fields h
  obtain ⟨n, hn⟩ : ∃ n, 2 ^ format.fractionBits = 2 * n := by
    obtain ⟨m, hm⟩ := Nat.exists_eq_succ_of_ne_zero hf.ne'
    exact ⟨2 ^ m, by rw [hm, Nat.pow_succ, Nat.mul_comm]⟩
  have hw : biased * (2 * n) = 2 * (biased * n) := by ring
  rw [magnitude_fields format hb hr]
  split
  · simp only
    rw [hn, hw]
    omega
  · simp only
    rw [hn, hw]
    omega

/-- Neighbours share the end between them. -/
theorem upper_eq_lower (h : w + 1 < format.signWord) :
    (format.magnitude w).upper = (format.magnitude (w + 1)).lower := by
  have hp : 0 < 2 ^ format.fractionBits := Nat.two_pow_pos _
  obtain ⟨biased, fraction, hb, hr, rfl⟩ := exists_fields (Nat.lt_of_succ_lt h)
  by_cases hnext : fraction + 1 < 2 ^ format.fractionBits
  · rw [Nat.add_assoc, magnitude_fields format hb hr, magnitude_fields format hb hnext]
    unfold Magnitude.upper Magnitude.lower
    by_cases hz : biased = 0
    · have hn : 4 * fraction + 2 = 4 * (fraction + 1) - 2 := by omega
      simp [hz, hn]
    · have hn : 4 * (2 ^ format.fractionBits + fraction) + 2 =
          4 * (2 ^ format.fractionBits + (fraction + 1)) - 2 := by omega
      simp [hz, hn]
  · have hl : fraction = 2 ^ format.fractionBits - 1 := by omega
    have hs : biased * 2 ^ format.fractionBits + fraction + 1 =
        (biased + 1) * 2 ^ format.fractionBits + 0 := by
      rw [Nat.succ_mul]
      omega
    have hb' : biased + 1 < 2 ^ format.exponentBits := by
      rw [hs, Nat.add_zero, signWord, Nat.pow_eq, Nat.pow_add] at h
      exact Nat.lt_of_mul_lt_mul_right h
    rw [hs, magnitude_fields format hb hr, magnitude_fields format hb' hp]
    unfold Magnitude.upper Magnitude.lower
    by_cases hz : biased = 0
    · have hn : 4 * fraction + 2 = 4 * 2 ^ format.fractionBits - 2 := by omega
      simp [hz, hn]
    · have hn : 4 * (2 ^ format.fractionBits + fraction) + 2 =
          2 * (4 * 2 ^ format.fractionBits - 1) := by omega
      have hwide : 1 < biased + 1 := by omega
      have he : format.leastExponent + ((biased + 1 : Nat) - 1 : Int) - 2 =
          1 + (format.leastExponent + (biased - 1) - 2) := by omega
      simp only [hz, hn, hwide, he, if_false, Nat.add_eq_zero_iff, one_ne_zero, and_false,
        decide_true, Bool.and_self, if_true, Nat.add_zero]
      rw [zpow_add₀ (by norm_num : (2 : ℚ) ≠ 0), zpow_one]
      push_cast
      ring

theorem upper_le_lower (hvw : v < w) (h : w < format.signWord) :
    (format.magnitude v).upper ≤ (format.magnitude w).lower := by
  induction w, hvw using Nat.le_induction with
  | base => exact (upper_eq_lower h).le
  | succ w hvw ih =>
    calc (format.magnitude v).upper
        ≤ (format.magnitude w).lower := ih (Nat.lt_of_succ_lt h)
      _ ≤ (format.magnitude w).upper := (format.magnitude w).lower_lt_upper.le
      _ = (format.magnitude (w + 1)).lower := upper_eq_lower h

theorem not_holds_of_lt (hf : 0 < format.fractionBits) (hvw : v < w) (h : w < format.signWord)
    (hv : (format.magnitude v).interval.Holds q) :
    ¬ (format.magnitude w).interval.Holds q := by
  intro hw
  have hend := upper_le_lower hvw h
  have hup := (Magnitude.bounds_of_holds hv).2
  have hlow := (Magnitude.bounds_of_holds hw).1
  have hq : q = (format.magnitude v).upper := le_antisymm hup (hend.trans hlow)
  have hq' : q = (format.magnitude w).lower := le_antisymm (hup.trans hend) hlow
  have hev := Magnitude.even_of_holds_end hv (.inr hq)
  have hew := Magnitude.even_of_holds_end hw (.inl hq')
  rw [significand_mod_two hf (hvw.trans h)] at hev
  rw [significand_mod_two hf h] at hew
  by_cases hnext : w = v + 1
  · omega
  · have hmid := upper_le_lower (show v + 1 < w by omega) h
    have hlt := (format.magnitude (v + 1)).lower_lt_upper
    rw [← upper_eq_lower (show v + 1 < format.signWord by omega)] at hlt
    exact absurd (hq.symm.trans hq') (hlt.trans_le hmid).ne

theorem word_eq_of_holds (hf : 0 < format.fractionBits) (hv : v < format.signWord)
    (hw : w < format.signWord) (hqv : (format.magnitude v).interval.Holds q)
    (hqw : (format.magnitude w).interval.Holds q) : v = w := by
  rcases Nat.lt_trichotomy v w with h | h | h
  · exact absurd hqw (not_holds_of_lt hf h hw hqv)
  · exact h
  · exact absurd hqv (not_holds_of_lt hf h hv hqw)

end BinaryFormat

namespace NumberLayout

theorem exists_digit_decimalChars (layout : NumberLayout) (x : Decimal) :
    ∃ c cs, layout.decimalChars x = c :: cs ∧ c.isDigit := by
  obtain ⟨c, cs, hds, hc⟩ := exists_toDigits x.digits
  unfold decimalChars
  simp only [hds]
  split
  · unfold positionalChars
    split
    · exact ⟨c, _, rfl, hc⟩
    · dsimp only
      split
      · rename_i hp
        obtain ⟨n, hn⟩ : ∃ n, (((c :: cs).length : Int) + x.exponent).toNat = n + 1 :=
          ⟨(((c :: cs).length : Int) + x.exponent).toNat - 1, by omega⟩
        rw [hn, List.take_succ_cons]
        exact ⟨c, _, rfl, hc⟩
      · exact ⟨'0', _, rfl, rfl⟩
  · exact ⟨c, _, rfl, hc⟩

theorem finite_eq_of_chars (layout : NumberLayout) {negative negative' : Bool} {v w : Nat}
    {format : BinaryFormat} (hf : 0 < format.fractionBits)
    (hv : v < format.signWord) (hw : w < format.signWord)
    (h : layout.chars (.finite negative (format.magnitude v)) =
      layout.chars (.finite negative' (format.magnitude w))) :
    negative = negative' ∧ v = w := by
  have hsame (hd : layout.decimalChars ((format.magnitude v).shortest layout.tie) =
      layout.decimalChars ((format.magnitude w).shortest layout.tie)) : v = w := by
    have hr := congrArg numeralValue hd
    rw [numeralValue_decimalChars, numeralValue_decimalChars] at hr
    have hqv := (format.magnitude v).holds_shortest layout.tie
    have hqw := (format.magnitude w).holds_shortest layout.tie
    rw [← hr] at hqw
    exact BinaryFormat.word_eq_of_holds hf hv hw hqv hqw
  have hsign {x y : Decimal} : layout.decimalChars x ≠ '-' :: layout.decimalChars y := by
    intro hxy
    obtain ⟨c, cs, hcs, hc⟩ := layout.exists_digit_decimalChars x
    rw [hcs] at hxy
    rw [(List.cons.inj hxy).1] at hc
    exact absurd hc (by decide)
  cases negative <;> cases negative'
  · exact ⟨rfl, hsame h⟩
  · exact absurd h hsign
  · exact absurd h.symm hsign
  · exact ⟨rfl, hsame (List.cons.inj h).2⟩

end NumberLayout

namespace Binary64

variable {x y : Binary64}

theorem toNat_magnitudeBits (x : Binary64) :
    x.magnitudeBits.toNat = x.bits.toNat % BinaryFormat.double.signWord := by
  rw [magnitudeBits, UInt64.toNat_and]
  exact Nat.and_two_pow_sub_one_eq_mod _ 63

theorem value_of_isFinite (h : x.isFinite) :
    x.value = .finite (BinaryFormat.double.signWord ≤ x.bits.toNat)
      (BinaryFormat.double.magnitude (x.bits.toNat % BinaryFormat.double.signWord)) := by
  have hlt : x.bits.toNat % BinaryFormat.double.signWord < BinaryFormat.double.infinityWord := by
    rw [isFinite, decide_eq_true_eq, UInt64.lt_iff_toNat_lt, toNat_magnitudeBits] at h
    exact h
  rw [value, BinaryFormat.decode]
  simp only [if_neg (Nat.lt_asymm hlt), if_neg (Nat.ne_of_lt hlt)]

/-- Different finite numbers have different texts in every layout. -/
theorem eq_of_text (layout : NumberLayout) (hx : x.isFinite) (hy : y.isFinite)
    (h : layout.text x.value = layout.text y.value) : x = y := by
  have hpos : 0 < BinaryFormat.double.signWord := by decide
  have hc : layout.chars x.value = layout.chars y.value := String.ofList_injective h
  rw [value_of_isFinite hx, value_of_isFinite hy] at hc
  obtain ⟨hs, hm⟩ := layout.finite_eq_of_chars (by decide) (Nat.mod_lt _ hpos) (Nat.mod_lt _ hpos) hc
  have hxb : x.bits.toNat < 2 ^ 64 := x.bits.toNat_lt
  have hyb : y.bits.toNat < 2 ^ 64 := y.bits.toNat_lt
  have hw : BinaryFormat.double.signWord = 2 ^ 63 := rfl
  rw [decide_eq_decide, hw] at hs
  rw [hw] at hm
  have hbits : x.bits = y.bits := UInt64.toNat_inj.1 (by omega)
  cases x
  cases y
  exact congrArg Binary64.mk hbits

end Binary64

end MarkupTree
