/-! Spans of characters. Characters of one class that are followed by none of it are what is taken off the
front while the class lasts. Words of a code, each of which tells itself from the others, can be read off
however many of them stand behind one another. -/
namespace MarkupTree

def Ends (p : Char → Bool) (r : List Char) : Prop := ∀ c ∈ r.head?, p c = false

section Spans

variable {p q : Char → Bool} {cs r : List Char} {c : Char}

theorem ends_nil : Ends p [] := nofun

theorem ends_cons (h : p c = false) : Ends p (c :: r) := by
  intro d hd
  rw [← Option.some.inj (Option.mem_def.1 hd)]
  exact h

theorem Ends.head (h : Ends p (c :: r)) : p c = false := h c rfl

theorem Ends.or (hp : Ends p r) (hq : Ends q r) : Ends (fun c => p c || q c) r := fun c hc =>
  Bool.or_eq_false_iff.2 ⟨hp c hc, hq c hc⟩

/-- What is behind characters does not tell whether one of the class is their first. -/
theorem Ends.head?_any (h : Ends p r) (cs : List Char) : (cs ++ r).head?.any p = cs.head?.any p := by
  cases cs with
  | nil =>
    cases r with
    | nil => rfl
    | cons c r => exact h.head
  | cons c cs => rfl

theorem Ends.takeWhile (h : Ends p r) : r.takeWhile p = [] := by
  cases r with
  | nil => rfl
  | cons c r => rw [List.takeWhile_cons, h.head]; rfl

theorem Ends.dropWhile (h : Ends p r) : r.dropWhile p = r := by
  cases r with
  | nil => rfl
  | cons c r => rw [List.dropWhile_cons, h.head]; rfl

theorem Ends.takeWhile_append (h : Ends p r) (cs : List Char) :
    (cs ++ r).takeWhile p = cs.takeWhile p := by
  induction cs with
  | nil => exact h.takeWhile
  | cons c cs ih =>
    rw [List.cons_append, List.takeWhile_cons, List.takeWhile_cons, ih]

theorem Ends.dropWhile_append (h : Ends p r) (cs : List Char) :
    (cs ++ r).dropWhile p = cs.dropWhile p ++ r := by
  induction cs with
  | nil => exact h.dropWhile
  | cons c cs ih =>
    rw [List.cons_append, List.dropWhile_cons, List.dropWhile_cons, ih]
    split <;> rfl

theorem takeWhile_span (hc : ∀ c ∈ cs, p c) (hr : Ends p r) : (cs ++ r).takeWhile p = cs := by
  rw [List.takeWhile_append_of_pos hc, hr.takeWhile, List.append_nil]

theorem dropWhile_span (hc : ∀ c ∈ cs, p c) (hr : Ends p r) : (cs ++ r).dropWhile p = r := by
  rw [List.dropWhile_append_of_pos hc, hr.dropWhile]

theorem span_append_inj {ds s : List Char} (hc : ∀ c ∈ cs, p c) (hd : ∀ d ∈ ds, p d)
    (hr : Ends p r) (hs : Ends p s) (h : cs ++ r = ds ++ s) : cs = ds ∧ r = s := by
  have htake := congrArg (List.takeWhile p) h
  have hdrop := congrArg (List.dropWhile p) h
  rw [takeWhile_span hc hr, takeWhile_span hd hs] at htake
  rw [dropWhile_span hc hr, dropWhile_span hd hs] at hdrop
  exact ⟨htake, hdrop⟩

end Spans

section Words

/-- Lists of code words are read in one way only, if a code word tells itself from any other whatever comes
behind the two. -/
theorem flatMap_inj_of_prefix {α β : Type} {f : α → List β} {p : α → Prop} (hne : ∀ a, p a → f a ≠ [])
    (hf : ∀ a b, p a → p b → ∀ xs ys, f a ++ xs = f b ++ ys → a = b) {as bs : List α}
    (ha : ∀ a ∈ as, p a) (hb : ∀ b ∈ bs, p b) (h : as.flatMap f = bs.flatMap f) : as = bs := by
  induction as generalizing bs with
  | nil =>
    cases bs with
    | nil => rfl
    | cons b bs => exact absurd (List.append_eq_nil_iff.1 h.symm).1 (hne b (hb b List.mem_cons_self))
  | cons a as ih =>
    cases bs with
    | nil => exact absurd (List.append_eq_nil_iff.1 h).1 (hne a (ha a List.mem_cons_self))
    | cons b bs =>
      rw [List.flatMap_cons, List.flatMap_cons] at h
      obtain rfl := hf a b (ha a List.mem_cons_self) (hb b List.mem_cons_self) _ _ h
      rw [ih (fun c hc => ha c (List.mem_cons_of_mem a hc)) (fun c hc => hb c (List.mem_cons_of_mem a hc))
        (List.append_cancel_left h)]

theorem intercalate_cons_eq_flatMap {α : Type} (sep x : List α) (xs : List (List α)) :
    sep.intercalate (x :: xs) = x ++ xs.flatMap (sep ++ ·) := by
  induction xs generalizing x with
  | nil => simp
  | cons y ys ih => rw [List.intercalate_cons_cons, ih, List.flatMap_cons, List.append_assoc,
      List.append_assoc]

end Words

end MarkupTree
