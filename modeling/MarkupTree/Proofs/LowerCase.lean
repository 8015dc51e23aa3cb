import MarkupTree.Text.Kebab

/-! Lower case of characters. The table of capitals leads out of itself: no character that it answers is a
capital of any script, and none is an underscore. So lower case leaves alone what it has made. -/
namespace MarkupTree.Text

section Ascii

variable {c : Char}

theorem of_ascii {p : Char → Prop} (h : ∀ n < 128, p (Char.ofNat n)) (hc : c.toNat < 128) : p c := by
  have hn := h c.toNat hc
  rwa [Char.ofNat_toNat] at hn

theorem isCapital_eq_isUpper (c : Char) : isCapital c = c.isUpper :=
  (Bool.decide_and ('A' ≤ c) (c ≤ 'Z')).symm

theorem isAlphanum_eq_or (c : Char) : c.isAlphanum = (isCapital c || c.isLower || c.isDigit) := by
  rw [isCapital_eq_isUpper]
  rfl

theorem toNat_lt_of_between (first : Char) {last : Char} (hlast : last.toNat < 128)
    (h : (decide (first ≤ c) && decide (c ≤ last)) = true) : c.toNat < 128 := by
  rw [Bool.and_eq_true, decide_eq_true_eq, decide_eq_true_eq] at h
  exact Nat.lt_of_le_of_lt (UInt32.le_iff_toNat_le.1 h.2) hlast

theorem toNat_lt_of_isAlphanum (h : c.isAlphanum) : c.toNat < 128 := by
  rw [isAlphanum_eq_or, Bool.or_eq_true, Bool.or_eq_true] at h
  rcases h with (h | h) | h
  · exact toNat_lt_of_between 'A' (by decide : 'Z'.toNat < 128) h
  · exact toNat_lt_of_between 'a' (by decide : 'z'.toNat < 128) h
  · exact toNat_lt_of_between '0' (by decide : '9'.toNat < 128) h

theorem toNat_lt_of_isCapital (h : isCapital c) : c.toNat < 128 :=
  toNat_lt_of_isAlphanum (by rw [isAlphanum_eq_or, h]; rfl)

theorem lowerCode_ne_of_isCapital (h : isCapital c) : lowerCode c.toNat ≠ c.toNat :=
  of_ascii (p := fun c => isCapital c → lowerCode c.toNat ≠ c.toNat) (by decide +kernel)
    (toNat_lt_of_isCapital h) h

end Ascii

namespace CaseRun

def lowered (run : CaseRun) (code : Nat) : Nat := (code + run.offset).toNat

/-- Nothing that the run moves comes into the other run. -/
def misses (run other : CaseRun) : Bool :=
  Nat.blt (run.lowered run.last) other.first || Nat.blt other.last (run.lowered run.first) ||
    (List.range (run.last + 1 - run.first)).all fun i =>
      !run.contains (run.first + i) || !other.contains (run.lowered (run.first + i))

/-- What the run moves becomes a character behind the ASCII capitals and the underscore, and none whose
lower case is two characters. -/
def Settles (run : CaseRun) : Prop :=
  '_'.toNat < run.lowered run.first ∧
    (run.lowered run.last < 0x130 ∨ 0x130 < run.lowered run.first) ∧
    (run.lowered run.last < 0xD800 ∨ 0xDFFF < run.lowered run.first ∧ run.lowered run.last < 0x110000)

instance (run : CaseRun) : Decidable run.Settles := by
  unfold Settles
  infer_instance

variable {run other : CaseRun} {code : Nat}

theorem bounds_of_contains (h : run.contains code) : run.first ≤ code ∧ code ≤ run.last := by
  rw [contains, Bool.and_eq_true, Bool.and_eq_true, decide_eq_true_eq, decide_eq_true_eq] at h
  exact h.1

theorem lowered_bounds_of_contains (h : run.contains code) :
    run.lowered run.first ≤ run.lowered code ∧ run.lowered code ≤ run.lowered run.last := by
  obtain ⟨hfirst, hlast⟩ := bounds_of_contains h
  unfold lowered
  omega

theorem not_contains_lowered (hm : run.misses other) (hc : run.contains code) :
    ¬ other.contains (run.lowered code) := by
  obtain ⟨hfirst, hlast⟩ := bounds_of_contains hc
  obtain ⟨hlow, hhigh⟩ := lowered_bounds_of_contains hc
  intro ho
  obtain ⟨hofirst, holast⟩ := bounds_of_contains ho
  rw [misses, Bool.or_eq_true, Bool.or_eq_true, Nat.blt_eq, Nat.blt_eq, List.all_eq_true] at hm
  rcases hm with (hm | hm) | hm
  · omega
  · omega
  · have hi := hm (code - run.first) (List.mem_range.2 (by omega))
    rw [Nat.add_sub_cancel' hfirst, hc, ho] at hi
    cases hi

theorem Settles.lowered (h : run.Settles) (hc : run.contains code) :
    '_'.toNat < run.lowered code ∧ run.lowered code ≠ 0x130 ∧ (run.lowered code).isValidChar := by
  obtain ⟨hlow, hhigh⟩ := lowered_bounds_of_contains hc
  obtain ⟨hunderscore, hdotted, hvalid⟩ := h
  refine ⟨by omega, by omega, ?_⟩
  unfold Nat.isValidChar
  omega

end CaseRun

section Table

theorem misses_of_mem {run other : CaseRun} (hr : run ∈ caseRuns) (ho : other ∈ caseRuns) :
    run.misses other := by
  have hall : (caseRuns.all fun run => caseRuns.all run.misses) = true := by decide +kernel
  exact List.all_eq_true.1 (List.all_eq_true.1 hall run hr) other ho

theorem settles_of_mem : ∀ run ∈ caseRuns, run.Settles := by decide +kernel

theorem lowerCode_cases (code : Nat) :
    lowerCode code = code ∨
      ∃ run ∈ caseRuns, run.contains code ∧ lowerCode code = run.lowered code := by
  unfold lowerCode
  cases hf : caseRuns.find? (·.contains code) with
  | none => exact .inl rfl
  | some run =>
    have hc : run.contains code := by simpa using List.find?_some hf
    exact .inr ⟨run, List.mem_of_find?_eq_some hf, hc, rfl⟩

theorem lowerCode_lowered {run : CaseRun} (hr : run ∈ caseRuns) {code : Nat} (hc : run.contains code) :
    lowerCode (run.lowered code) = run.lowered code := by
  rcases lowerCode_cases (run.lowered code) with h | ⟨other, ho, hoc, -⟩
  · exact h
  · exact absurd hoc (CaseRun.not_contains_lowered (misses_of_mem hr ho) hc)

end Table

/-- A character that neither lower case nor kebab case changes. -/
structure Plain (c : Char) : Prop where
  lowercase_eq : lowercase c = [c]
  ne_underscore : c ≠ '_'
  not_capital : ¬ isCapital c

instance : DecidablePred Plain := fun c =>
  decidable_of_iff (lowercase c = [c] ∧ c ≠ '_' ∧ ¬ isCapital c)
    ⟨fun h => ⟨h.1, h.2.1, h.2.2⟩, fun h => ⟨h.lowercase_eq, h.ne_underscore, h.not_capital⟩⟩

theorem not_isCapital_of_lt {c : Char} (h : '_'.toNat < c.toNat) : ¬ isCapital c := by
  rw [isCapital, Bool.and_eq_true, decide_eq_true_eq, decide_eq_true_eq, Char.le_def, Char.le_def,
    UInt32.le_iff_toNat_le, UInt32.le_iff_toNat_le]
  rintro ⟨-, hz⟩
  change c.toNat ≤ 90 at hz
  change 95 < c.toNat at h
  omega

/-- Whatever lower case answers stays as it is, except for an underscore. -/
theorem plain_of_mem_lowercase {c d : Char} (hc : c ≠ '_') (hd : d ∈ lowercase c) : Plain d := by
  unfold lowercase at hd
  split at hd
  · rw [List.mem_cons, List.mem_singleton] at hd
    rcases hd with rfl | rfl
    · decide +kernel
    · decide +kernel
  · rename_i hdotted
    rw [List.mem_singleton] at hd
    subst hd
    rcases lowerCode_cases c.toNat with h | ⟨run, hr, hrc, h⟩
    · rw [h, Char.ofNat_toNat]
      refine ⟨?_, hc, fun hcap => lowerCode_ne_of_isCapital hcap h⟩
      rw [lowercase, if_neg hdotted, h, Char.ofNat_toNat]
    · obtain ⟨hlt, hne, hvalid⟩ := (settles_of_mem run hr).lowered hrc
      have hn : (Char.ofNat (run.lowered c.toNat)).toNat = run.lowered c.toNat := by
        rw [Char.ofNat, dif_pos hvalid]
        rfl
      rw [h]
      refine ⟨?_, ?_, not_isCapital_of_lt (by rwa [hn])⟩
      · have hnd : Char.ofNat (run.lowered c.toNat) ≠ '\u0130' := fun he =>
          hne (hn ▸ congrArg Char.toNat he)
        rw [lowercase, if_neg hnd, hn, lowerCode_lowered hr hrc]
      · intro he
        rw [he] at hn
        omega

end MarkupTree.Text
