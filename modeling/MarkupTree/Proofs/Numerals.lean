import Mathlib.Algebra.Order.Field.Rat
import Mathlib.Algebra.Order.Field.Power
import MarkupTree.Template.Literal
import MarkupTree.Proofs.Escaping
import MarkupTree.Proofs.Spans

/-! Numerals stand for numbers. Wherever the point is set and whether or not a power of ten follows, the
digits of a decimal are read back as the number that the decimal is. -/
namespace MarkupTree

def Decimal.toRat (x : Decimal) : ℚ := x.digits * 10 ^ x.exponent

/-- The number that a numeral without a sign stands for: its digits, with the point where it is and
the power of ten behind them. -/
def numeralValue (cs : List Char) : ℚ :=
  let mantissa := cs.takeWhile (· != 'e')
  let power := (Template.readPower ((cs.dropWhile (· != 'e')).drop 1)).map Prod.fst
  Template.digitsValue mantissa * 10 ^ Template.lastPower (mantissa.dropWhile (· != '.')) power

def AllDigits (cs : List Char) : Prop := ∀ c ∈ cs, c.isDigit

section Digits

variable {ds es : List Char}

theorem allDigits_toDigits (n : Nat) : AllDigits (Nat.toDigits 10 n) := fun _ hc =>
  Nat.isDigit_of_mem_toDigits (by decide) (by decide) hc

theorem allDigits_zeros (count : Int) : AllDigits (NumberLayout.zeros count) := by
  intro c hc
  rw [List.eq_of_mem_replicate hc]
  rfl

theorem exists_toDigits (n : Nat) : ∃ c cs, Nat.toDigits 10 n = c :: cs ∧ c.isDigit := by
  have hd := allDigits_toDigits n
  obtain ⟨c, cs, hcs⟩ := List.exists_cons_of_ne_nil (Nat.toDigits_ne_nil (b := 10) (n := n))
  rw [hcs] at hd
  exact ⟨c, cs, hcs, hd c List.mem_cons_self⟩

theorem AllDigits.append (hd : AllDigits ds) (he : AllDigits es) : AllDigits (ds ++ es) := by
  intro c hc
  rcases List.mem_append.1 hc with h | h
  · exact hd c h
  · exact he c h

theorem AllDigits.take (h : AllDigits ds) (n : Nat) : AllDigits (ds.take n) := fun c hc =>
  h c (List.mem_of_mem_take hc)

theorem AllDigits.drop (h : AllDigits ds) (n : Nat) : AllDigits (ds.drop n) := fun c hc =>
  h c (List.mem_of_mem_drop hc)

theorem AllDigits.notMem (h : AllDigits ds) {c : Char} (hc : c.isDigit = false) : c ∉ ds := by
  intro hm
  have hd := h c hm
  rw [hc] at hd
  cases hd

theorem AllDigits.filter_isDigit (h : AllDigits ds) : ds.filter Char.isDigit = ds :=
  List.filter_eq_self.2 h

theorem digitsValue_eq (cs : List Char) :
    Template.digitsValue cs = Nat.ofDigitChars 10 (cs.filter Char.isDigit) 0 := by
  rw [Template.digitsValue, Nat.ofDigitChars_eq_foldl]
  congr 1
  funext value c
  rw [Nat.mul_comm]

theorem ofDigitChars_append_zeros (ds : List Char) (count : Nat) :
    Nat.ofDigitChars 10 (ds ++ List.replicate count '0') 0 =
      Nat.ofDigitChars 10 ds 0 * 10 ^ count := by
  rw [Nat.ofDigitChars_append, Nat.ofDigitChars_replicate_zero, Nat.mul_comm]

theorem ofDigitChars_zeros_append (ds : List Char) (count : Nat) :
    Nat.ofDigitChars 10 (List.replicate count '0' ++ ds) 0 = Nat.ofDigitChars 10 ds 0 := by
  rw [Nat.ofDigitChars_append, Nat.ofDigitChars_replicate_zero, Nat.mul_zero]

end Digits

section Reading

variable {cs ds whole fraction power rest : List Char} {p : Int}

theorem takeWhile_before {c : Char} (h : c ∉ cs) (r : List Char) :
    (cs ++ c :: r).takeWhile (· != c) = cs ∧ (cs ++ c :: r).dropWhile (· != c) = c :: r := by
  have hcs : ∀ d ∈ cs, (d != c) = true := fun d hd => bne_iff_ne.2 fun hdc => h (hdc ▸ hd)
  have hr : Ends (· != c) (c :: r) := ends_cons (bne_self_eq_false c)
  exact ⟨takeWhile_span hcs hr, dropWhile_span hcs hr⟩

theorem takeWhile_throughout {c : Char} (h : c ∉ cs) :
    cs.takeWhile (· != c) = cs ∧ cs.dropWhile (· != c) = [] := by
  have hcs : ∀ d ∈ cs, (d != c) = true := fun d hd => bne_iff_ne.2 fun hdc => h (hdc ▸ hd)
  have ht := takeWhile_span hcs ends_nil
  have hd := dropWhile_span hcs ends_nil
  rw [List.append_nil] at ht hd
  exact ⟨ht, hd⟩

theorem numeralValue_of_notMem (h : 'e' ∉ cs) :
    numeralValue cs =
      Template.digitsValue cs * 10 ^ Template.lastPower (cs.dropWhile (· != '.')) none := by
  rw [numeralValue, (takeWhile_throughout h).1, (takeWhile_throughout h).2]
  rfl

theorem numeralValue_power (h : 'e' ∉ cs) (hp : Template.readPower power = some (p, rest)) :
    numeralValue (cs ++ 'e' :: power) = numeralValue cs * 10 ^ p := by
  have hten : (10 : ℚ) ≠ 0 := by norm_num
  rw [numeralValue_of_notMem h, numeralValue, (takeWhile_before h power).1,
    (takeWhile_before h power).2]
  simp only [List.drop_one, List.tail_cons, hp, Option.map_some, Template.lastPower,
    Option.getD_some, Option.getD_none]
  rw [mul_assoc, ← zpow_add₀ hten]
  congr 2
  omega

theorem numeralValue_whole (hw : AllDigits whole) :
    numeralValue whole = Nat.ofDigitChars 10 whole 0 := by
  have he : 'e' ∉ whole := hw.notMem rfl
  have hp : '.' ∉ whole := hw.notMem rfl
  rw [numeralValue_of_notMem he, digitsValue_eq, hw.filter_isDigit, (takeWhile_throughout hp).2]
  simp [Template.lastPower]

theorem numeralValue_point (hw : AllDigits whole) (hf : AllDigits fraction) :
    numeralValue (whole ++ '.' :: fraction) =
      Nat.ofDigitChars 10 (whole ++ fraction) 0 * 10 ^ (-(fraction.length : Int)) := by
  have hew : 'e' ∉ whole := hw.notMem rfl
  have hef : 'e' ∉ fraction := hf.notMem rfl
  have hpw : '.' ∉ whole := hw.notMem rfl
  have he : 'e' ∉ whole ++ '.' :: fraction := by simp [hew, hef]
  have hp : ¬ Char.isDigit '.' := by decide
  rw [numeralValue_of_notMem he, digitsValue_eq, (takeWhile_before hpw fraction).2,
    List.filter_append, List.filter_cons_of_neg hp, hw.filter_isDigit, hf.filter_isDigit,
    Template.lastPower, List.filter_cons_of_neg hp, hf.filter_isDigit]
  simp

theorem readPower_digits (hd : AllDigits ds) (hne : ds ≠ []) :
    Template.readPower ds = some ((Template.digitsValue ds : Int), []) ∧
    Template.readPower ('+' :: ds) = some ((Template.digitsValue ds : Int), []) ∧
    Template.readPower ('-' :: ds) = some (-(Template.digitsValue ds : Int), []) := by
  have hbar : ∀ c ∈ ds, Template.isDigitOrBar c := fun c hc => by
    simp [Template.isDigitOrBar, hd c hc]
  have ht := takeWhile_span hbar ends_nil
  have hr := dropWhile_span hbar ends_nil
  rw [List.append_nil] at ht hr
  obtain ⟨c, cs, rfl⟩ := List.exists_cons_of_ne_nil hne
  have hc : c.isDigit := hd c List.mem_cons_self
  have hany : (c :: cs).any Char.isDigit := by simp [hc]
  have hother {d : Char} (hd : d.isDigit = false) : c ≠ d := by
    rintro rfl
    exact Bool.false_ne_true (hd.symm.trans hc)
  refine ⟨?_, ?_, ?_⟩
  · rw [Template.readPower_unsigned (hother (by decide)) (hother (by decide)) (hother (by decide)),
      ht, hr, if_pos hany]
  · simp [Template.readPower, ht, hr, hany]
  · simp [Template.readPower, ht, hr, hany]

theorem readPower_toString (p : Int) :
    Template.readPower (toString p).toList = some (p, []) ∧
    (0 ≤ p → Template.readPower ('+' :: (toString p).toList) = some (p, [])) := by
  have hv (n : Nat) : Template.digitsValue (Nat.toDigits 10 n) = n := by
    rw [digitsValue_eq, (allDigits_toDigits n).filter_isDigit, Nat.ofDigitChars_ten_toDigits]
  have hread (n : Nat) := readPower_digits (allDigits_toDigits n) Nat.toDigits_ne_nil
  simp only [hv] at hread
  cases p with
  | ofNat n =>
    have ht : (toString (Int.ofNat n)).toList = Nat.toDigits 10 n := Nat.toList_repr
    rw [ht]
    exact ⟨(hread n).1, fun _ => (hread n).2.1⟩
  | negSucc n =>
    rw [toList_toString_negSucc]
    exact ⟨(hread (n + 1)).2.2, fun h => absurd h (by omega)⟩

end Reading

namespace NumberLayout

variable {ds : List Char} {e : Int}

theorem numeralValue_positionalChars (layout : NumberLayout) (hd : AllDigits ds) :
    numeralValue (layout.positionalChars ds e) = Nat.ofDigitChars 10 ds 0 * 10 ^ e := by
  unfold positionalChars
  by_cases he : 0 ≤ e
  · have hw : AllDigits (ds ++ zeros e) := hd.append (allDigits_zeros e)
    have hz : AllDigits ['0'] := allDigits_zeros 1
    have hv : ((Nat.ofDigitChars 10 (ds ++ zeros e) 0 : Nat) : ℚ) =
        Nat.ofDigitChars 10 ds 0 * 10 ^ e := by
      obtain ⟨n, rfl⟩ := Int.eq_ofNat_of_zero_le he
      rw [zeros, ofDigitChars_append_zeros]
      push_cast
      rw [Int.toNat_natCast, zpow_natCast]
    rw [if_pos he]
    split
    · have hone := ofDigitChars_append_zeros (ds ++ zeros e) 1
      rw [numeralValue_point hw hz, show ['0'] = List.replicate 1 '0' from rfl, hone]
      push_cast
      rw [hv]
      simp
    · rw [List.append_nil, numeralValue_whole hw, hv]
  · rw [if_neg he]
    by_cases hp : 0 < (ds.length : Int) + e
    · have hl : ((ds.drop ((ds.length : Int) + e).toNat).length : Int) = -e := by
        rw [List.length_drop]
        omega
      rw [if_pos hp, numeralValue_point (hd.take _) (hd.drop _), List.take_append_drop, hl, neg_neg]
    · have hz : AllDigits ['0'] := allDigits_zeros 1
      have hf : AllDigits (zeros (-((ds.length : Int) + e)) ++ ds) := (allDigits_zeros _).append hd
      have hl : ((zeros (-((ds.length : Int) + e)) ++ ds).length : Int) = -e := by
        rw [List.length_append, zeros, List.length_replicate]
        omega
      have hv : Nat.ofDigitChars 10 (['0'] ++ (zeros (-((ds.length : Int) + e)) ++ ds)) 0 =
          Nat.ofDigitChars 10 ds 0 := by
        rw [zeros, ← List.append_assoc, List.singleton_append, ← List.replicate_succ,
          ofDigitChars_zeros_append]
      have hvalue := numeralValue_point hz hf
      rw [hl, neg_neg, hv] at hvalue
      rw [if_neg hp]
      exact hvalue

theorem numeralValue_mantissa (hd : AllDigits ds) (hne : ds ≠ []) :
    numeralValue (ds.take 1 ++ if ds.length ≤ 1 then [] else '.' :: ds.drop 1) =
      Nat.ofDigitChars 10 ds 0 * 10 ^ (1 - (ds.length : Int)) := by
  have hpos : 0 < ds.length := List.length_pos_iff.2 hne
  by_cases hl : ds.length ≤ 1
  · have he : (1 : Int) - ds.length = 0 := by omega
    rw [if_pos hl, List.append_nil, List.take_of_length_le hl, numeralValue_whole hd, he]
    simp
  · have he : -((ds.drop 1).length : Int) = 1 - ds.length := by
      rw [List.length_drop]
      omega
    rw [if_neg hl, numeralValue_point (hd.take 1) (hd.drop 1), List.take_append_drop, he]

theorem notMem_mantissa (hd : AllDigits ds) :
    'e' ∉ ds.take 1 ++ if ds.length ≤ 1 then [] else '.' :: ds.drop 1 := by
  have ht : 'e' ∉ ds.take 1 := (hd.take 1).notMem rfl
  have hr : 'e' ∉ ds.drop 1 := (hd.drop 1).notMem rfl
  rw [List.mem_append, not_or]
  split <;> simp_all

theorem numeralValue_scientificChars (layout : NumberLayout) (hd : AllDigits ds) (hne : ds ≠ []) :
    numeralValue (layout.scientificChars ds e) = Nat.ofDigitChars 10 ds 0 * 10 ^ e := by
  have hten : (10 : ℚ) ≠ 0 := by norm_num
  have hread : Template.readPower ((if layout.plusSign && decide (0 ≤ (ds.length : Int) + e - 1)
      then ['+'] else []) ++ (toString ((ds.length : Int) + e - 1)).toList) =
      some ((ds.length : Int) + e - 1, []) := by
    obtain ⟨hplain, hplus⟩ := readPower_toString ((ds.length : Int) + e - 1)
    split
    · rename_i h
      rw [Bool.and_eq_true, decide_eq_true_eq] at h
      exact hplus h.2
    · exact hplain
  have hv := numeralValue_power (notMem_mantissa hd) hread
  have he : (1 : Int) - ds.length + (ds.length + e - 1) = e := by omega
  rw [numeralValue_mantissa hd hne, mul_assoc, ← zpow_add₀ hten, he] at hv
  rw [← hv, scientificChars, List.append_assoc, List.cons_append]

/-- However the digits of a decimal are set, they stand for the number that the decimal is. -/
theorem numeralValue_decimalChars (layout : NumberLayout) (x : Decimal) :
    numeralValue (layout.decimalChars x) = x.toRat := by
  have hd := allDigits_toDigits x.digits
  have hv : Nat.ofDigitChars 10 (Nat.toDigits 10 x.digits) 0 = x.digits :=
    Nat.ofDigitChars_ten_toDigits
  unfold decimalChars
  simp only
  split
  · rw [numeralValue_positionalChars layout hd, hv, Decimal.toRat]
  · rw [numeralValue_scientificChars layout hd Nat.toDigits_ne_nil, hv, Decimal.toRat]

end NumberLayout

end MarkupTree
