import Mathlib.Data.List.Induction
import Mathlib.Data.List.Nodup
import MarkupTree.Attributes

/-! Attributes as an ordered map. What a run of insertions comes to is read off the list of what is
inserted: the new keys stand behind the old ones in the order in which they first come, and a key has the
value that came last for it. So it makes no difference to insertions whether their list has been made a
set before. -/
namespace MarkupTree

section Latest

variable {α β γ : Type} [DecidableEq β]

/-- The last member of the list that comes to the value. -/
def latest (f : α → β) (b : β) (xs : List α) : Option α := (xs.filter (f · == b)).getLast?

variable (f : α → β) (b : β)

@[simp] theorem latest_nil : latest f b [] = none := rfl

theorem latest_append (xs ys : List α) :
    latest f b (xs ++ ys) = (latest f b ys).or (latest f b xs) := by
  rw [latest, List.filter_append, List.getLast?_append]
  rfl

theorem latest_singleton (x : α) : latest f b [x] = if f x = b then some x else none := by
  by_cases h : f x = b <;> simp [latest, h]

theorem latest_cons (x : α) (xs : List α) :
    latest f b (x :: xs) = (latest f b xs).or (if f x = b then some x else none) := by
  rw [← List.singleton_append, latest_append, latest_singleton]

theorem latest_map (g : γ → α) (xs : List γ) :
    latest f b (xs.map g) = (latest (f ∘ g) b xs).map g := by
  rw [latest, List.filter_map, List.getLast?_map]
  rfl

variable {f b}

theorem latest_eq_none_iff {xs : List α} : latest f b xs = none ↔ ∀ x ∈ xs, f x ≠ b := by
  simp [latest]

theorem mem_of_latest {xs : List α} {x : α} (h : latest f b xs = some x) : x ∈ xs ∧ f x = b := by
  simpa using List.mem_of_getLast? h

/-- The last that comes to a value is the last of those that agree with it on the way there. -/
theorem latest_of_latest_comp [DecidableEq γ] {g : β → γ} {c : γ} {xs : List α} {x : α}
    (h : latest (g ∘ f) c xs = some x) : latest f (f x) xs = some x := by
  induction xs with
  | nil => cases h
  | cons y ys ih =>
    rw [latest_cons] at h ⊢
    cases hl : latest (g ∘ f) c ys with
    | some later =>
      rw [hl, Option.some_or] at h
      rw [ih (hl.trans h), Option.some_or]
    | none =>
      rw [hl, Option.none_or, Option.ite_none_right_eq_some, Option.some.injEq] at h
      obtain ⟨hc, rfl⟩ := h
      have hn : latest f (f y) ys = none :=
        latest_eq_none_iff.2 fun z hz he => latest_eq_none_iff.1 hl z hz ((congrArg g he).trans hc)
      rw [hn, Option.none_or, if_pos rfl]

end Latest

section Repeats

variable {α β : Type} [BEq α] [LawfulBEq α] [BEq β] [LawfulBEq β]

theorem eraseDups_concat (xs : List α) (x : α) :
    (xs ++ [x]).eraseDups = xs.eraseDups ++ if x ∈ xs then [] else [x] := by
  rw [List.eraseDups_append]
  by_cases h : x ∈ xs <;> simp [List.removeAll, h, List.eraseDups_cons]

theorem eraseDups_map_eraseDups (f : α → β) (xs : List α) :
    (xs.eraseDups.map f).eraseDups = (xs.map f).eraseDups := by
  induction xs using List.reverseRecOn with
  | nil => rfl
  | append_singleton xs x ih =>
    rw [eraseDups_concat, List.map_append, List.map_append, List.map_singleton, eraseDups_concat]
    by_cases h : x ∈ xs
    · have hm : f x ∈ xs.map f := List.mem_map_of_mem h
      simp [h, hm, ih]
    · have hm : f x ∈ xs.eraseDups.map f ↔ f x ∈ xs.map f := by simp
      simp only [if_neg h, List.map_singleton, eraseDups_concat, ih, hm]

theorem eraseDups_eraseDups (xs : List α) : xs.eraseDups.eraseDups = xs.eraseDups := by
  simpa using eraseDups_map_eraseDups id xs

theorem filter_eraseDups (p : α → Bool) (xs : List α) :
    xs.eraseDups.filter p = (xs.filter p).eraseDups := by
  induction xs using List.reverseRecOn with
  | nil => rfl
  | append_singleton xs x ih =>
    rw [eraseDups_concat, List.filter_append, List.filter_append, ih]
    cases hp : p x with
    | false => by_cases h : x ∈ xs <;> simp [h, hp]
    | true => by_cases h : x ∈ xs <;> simp [h, hp, eraseDups_concat]

/-- Of values that repeat, the first places stay in their order. -/
theorem pairwise_idxOf_eraseDups (xs : List α) :
    xs.eraseDups.Pairwise fun x y => xs.idxOf x < xs.idxOf y := by
  induction xs using List.reverseRecOn with
  | nil => exact .nil
  | append_singleton xs x ih =>
    have hold : xs.eraseDups.Pairwise fun y z => (xs ++ [x]).idxOf y < (xs ++ [x]).idxOf z := by
      refine ih.imp_of_mem fun hy hz hlt => ?_
      rwa [List.idxOf_append_of_mem (List.mem_eraseDups.1 hy),
        List.idxOf_append_of_mem (List.mem_eraseDups.1 hz)]
    rw [eraseDups_concat]
    split
    · rwa [List.append_nil]
    · rename_i hx
      refine List.pairwise_append.2 ⟨hold, List.pairwise_singleton .., fun y hy z hz => ?_⟩
      have hy' : y ∈ xs := List.mem_eraseDups.1 hy
      rw [List.mem_singleton.1 hz, List.idxOf_append_of_mem hy', List.idxOf_append_of_notMem hx]
      exact Nat.lt_add_right _ (List.idxOf_lt_length_iff.2 hy')

end Repeats

namespace Attributes

variable {attributes other : Attributes} {a b : Attribute} {as : List Attribute}

@[simp] theorem insertAll_nil : attributes.insertAll [] = attributes := rfl

@[simp] theorem insertAll_cons :
    attributes.insertAll (a :: as) = (attributes.insert a).insertAll as := rfl

@[simp] theorem insertAll_append (bs : List Attribute) :
    attributes.insertAll (as ++ bs) = (attributes.insertAll as).insertAll bs :=
  List.foldl_append ..

theorem ofList_append (as bs : List Attribute) : ofList (as ++ bs) = (ofList as).insertAll bs :=
  insertAll_append bs

theorem mem_keys_insert {key : String} :
    key ∈ (attributes.insert a).keys ↔ key ∈ attributes.keys ∨ key = a.key := by
  rw [keys_insert]
  split <;> simp_all

theorem mem_keys_insertAll {key : String} :
    key ∈ (attributes.insertAll as).keys ↔ key ∈ attributes.keys ∨ key ∈ as.map Attribute.key := by
  induction as generalizing attributes with
  | nil => simp
  | cons a as ih => rw [insertAll_cons, ih, mem_keys_insert, List.map_cons, List.mem_cons, or_assoc]

theorem mem_keys_merge {key : String} :
    key ∈ (attributes.merge other).keys ↔ key ∈ attributes.keys ∨ key ∈ other.keys :=
  mem_keys_insertAll

section Keys

theorem removeAll_append_singleton (keys olds : List String) (key : String) :
    keys.removeAll (olds ++ [key]) = (keys.removeAll olds).filter fun later => !later == key := by
  simp only [List.removeAll, List.filter_filter]
  apply List.filter_congr
  intro later _
  rw [Bool.eq_iff_iff]
  simp [and_comm]

theorem keys_insertAll (attributes : Attributes) (as : List Attribute) :
    (attributes.insertAll as).keys =
      attributes.keys ++ ((as.map Attribute.key).removeAll attributes.keys).eraseDups := by
  induction as generalizing attributes with
  | nil => simp [List.removeAll]
  | cons a as ih =>
    rw [insertAll_cons, ih, keys_insert]
    by_cases h : a.key ∈ attributes.keys
    · simp [h, List.removeAll]
    · have hr : ((a :: as).map Attribute.key).removeAll attributes.keys =
          a.key :: (as.map Attribute.key).removeAll attributes.keys := by
        simp [h, List.removeAll]
      rw [if_neg h, hr, List.eraseDups_cons, removeAll_append_singleton, List.append_assoc,
        List.singleton_append]

theorem keys_ofList (as : List Attribute) : (ofList as).keys = (as.map Attribute.key).eraseDups := by
  rw [ofList, keys_insertAll]
  simp [empty, keys, List.removeAll]

theorem nodup_keys_insert (h : attributes.keys.Nodup) (a : Attribute) :
    (attributes.insert a).keys.Nodup := by
  rw [keys_insert]
  split
  · exact h
  · rename_i hm
    rw [← List.concat_eq_append]
    exact h.concat hm

theorem nodup_keys_insertAll (h : attributes.keys.Nodup) (as : List Attribute) :
    (attributes.insertAll as).keys.Nodup := by
  induction as generalizing attributes with
  | nil => exact h
  | cons a as ih => exact ih (nodup_keys_insert h a)

theorem nodup_keys_empty : empty.keys.Nodup := List.nodup_nil

theorem nodup_keys_ofList (as : List Attribute) : (ofList as).keys.Nodup :=
  nodup_keys_insertAll nodup_keys_empty as

end Keys

section Lookup

theorem get?_insert (attributes : Attributes) (a : Attribute) (key : String) :
    (attributes.insert a).get? key = if a.key = key then some a.value else attributes.get? key := by
  obtain ⟨entries⟩ := attributes
  simp only [insert, get?]
  induction entries with
  | nil => by_cases h : a.key = key <;> simp [insertInto, h]
  | cons b bs ih =>
    by_cases hb : b.key = a.key
    · by_cases h : a.key = key <;> simp [insertInto, hb, h]
    · by_cases hk : b.key = key
      · have h : a.key ≠ key := fun h => hb (hk.trans h.symm)
        rw [insertInto, if_neg hb]
        simp [hk, h]
      · simpa [insertInto, hb, hk] using ih

theorem get?_insertAll (attributes : Attributes) (as : List Attribute) (key : String) :
    (attributes.insertAll as).get? key =
      ((latest Attribute.key key as).map Attribute.value).or (attributes.get? key) := by
  induction as generalizing attributes with
  | nil => rfl
  | cons a as ih =>
    rw [insertAll_cons, ih, get?_insert, latest_cons]
    cases latest Attribute.key key as with
    | some later => rfl
    | none => by_cases h : a.key = key <;> simp [h]

theorem get?_ofList (as : List Attribute) (key : String) :
    (ofList as).get? key = (latest Attribute.key key as).map Attribute.value := by
  rw [ofList, get?_insertAll]
  exact Option.or_none

theorem get?_eq_none_iff (attributes : Attributes) (key : String) :
    attributes.get? key = none ↔ key ∉ attributes.keys := by
  simp [get?, keys]

end Lookup

section Fresh

theorem insert_of_notMem (h : a.key ∉ attributes.keys) :
    attributes.insert a = ⟨attributes.entries ++ [a]⟩ := by
  obtain ⟨entries⟩ := attributes
  simp only [insert, keys, mk.injEq] at h ⊢
  induction entries with
  | nil => rfl
  | cons b bs ih =>
    rw [List.map_cons, List.mem_cons, not_or] at h
    rw [insertInto, if_neg (Ne.symm h.1), ih h.2, List.cons_append]

theorem insertAll_of_nodup (h : (attributes.keys ++ as.map Attribute.key).Nodup) :
    attributes.insertAll as = ⟨attributes.entries ++ as⟩ := by
  induction as generalizing attributes with
  | nil => simp
  | cons a as ih =>
    have ha : a.key ∉ attributes.keys := fun ha =>
      (List.nodup_append.1 h).2.2 a.key ha a.key (by simp) rfl
    rw [insertAll_cons, insert_of_notMem ha, ih (by simpa [keys] using h), List.append_assoc,
      List.singleton_append]

theorem ofList_of_nodup (h : (as.map Attribute.key).Nodup) : ofList as = ⟨as⟩ :=
  insertAll_of_nodup h

theorem ofList_entries (h : attributes.keys.Nodup) : ofList attributes.entries = attributes :=
  ofList_of_nodup h

theorem get?_eq_latest (h : attributes.keys.Nodup) (key : String) :
    attributes.get? key = (latest Attribute.key key attributes.entries).map Attribute.value := by
  rw [← get?_ofList, ofList_entries h]

theorem get?_merge (attributes : Attributes) (h : other.keys.Nodup) (key : String) :
    (attributes.merge other).get? key = (other.get? key).or (attributes.get? key) := by
  rw [merge, get?_insertAll, get?_eq_latest h]

theorem get?_of_mem (h : attributes.keys.Nodup) (ha : a ∈ attributes.entries) :
    attributes.get? a.key = some a.value := by
  obtain ⟨entries⟩ := attributes
  induction entries with
  | nil => cases ha
  | cons b bs ih =>
    obtain ⟨hb, hbs⟩ := List.nodup_cons.1 h
    rcases List.mem_cons.1 ha with rfl | ha
    · simp [get?]
    · have hne : b.key ≠ a.key := fun hk => hb (hk ▸ List.mem_map_of_mem ha)
      simpa [get?, hne] using ih hbs ha

theorem get?_eq_some_iff (h : attributes.keys.Nodup) {key : String} {value : Option AttributeValue} :
    attributes.get? key = some value ↔ ⟨key, value⟩ ∈ attributes.entries := by
  constructor
  · intro hg
    rw [get?, Option.map_eq_some_iff] at hg
    obtain ⟨x, hx, rfl⟩ := hg
    have hk : x.key = key := by simpa using List.find?_some hx
    subst hk
    exact List.mem_of_find?_eq_some hx
  · intro hm
    exact get?_of_mem h hm

end Fresh

section Reordering

theorem insert_insert (h : a.key = b.key) : (attributes.insert a).insert b = attributes.insert b := by
  obtain ⟨entries⟩ := attributes
  simp only [insert, mk.injEq]
  induction entries with
  | nil => simp [insertInto, h]
  | cons c cs ih => by_cases hc : c.key = b.key <;> simp [insertInto, h, hc, ih]

/-- A key that is there already may take its value before or after another key. -/
theorem insert_comm (ha : a.key ∈ attributes.keys) (h : a.key ≠ b.key) :
    (attributes.insert a).insert b = (attributes.insert b).insert a := by
  obtain ⟨entries⟩ := attributes
  simp only [insert, keys, mk.injEq] at ha ⊢
  induction entries with
  | nil => cases ha
  | cons c cs ih =>
    by_cases hca : c.key = a.key
    · have hcb : c.key ≠ b.key := fun hcb => h (hca.symm.trans hcb)
      simp [insertInto, hca, h]
    · have hm : a.key ∈ cs.map Attribute.key := by
        simpa [Ne.symm hca] using ha
      by_cases hcb : c.key = b.key
      · simp [insertInto, hcb, Ne.symm h]
      · simp [insertInto, hca, hcb, ih hm]

theorem insertAll_insert_comm (ha : a.key ∈ attributes.keys) (h : a.key ∉ as.map Attribute.key) :
    (attributes.insert a).insertAll as = (attributes.insertAll as).insert a := by
  induction as generalizing attributes with
  | nil => rfl
  | cons b as ih =>
    rw [List.map_cons, List.mem_cons, not_or] at h
    rw [insertAll_cons, insertAll_cons, insert_comm ha h.1,
      ih (mem_keys_insert.2 (.inl ha)) h.2]

/-- A key that a list has at most once may as well be inserted after the list. -/
theorem insertAll_insertInto (attributes : Attributes) {bs : List Attribute}
    (h : (bs.map Attribute.key).count a.key ≤ 1) :
    attributes.insertAll (insertInto a bs) = (attributes.insertAll bs).insert a := by
  induction bs generalizing attributes with
  | nil => rfl
  | cons b bs ih =>
    rw [List.map_cons] at h
    by_cases hk : b.key = a.key
    · have hb : a.key ∉ bs.map Attribute.key := by
        rw [hk, List.count_cons_self] at h
        exact List.count_eq_zero.1 (by omega)
      have hm : a.key ∈ (attributes.insert b).keys := mem_keys_insert.2 (.inr hk.symm)
      have ha : (⟨b.key, a.value⟩ : Attribute) = a := by rw [hk]
      rw [insertInto, if_pos hk, ha, insertAll_cons, insertAll_cons,
        ← insertAll_insert_comm hm hb, insert_insert hk]
    · rw [List.count_cons_of_ne hk] at h
      rw [insertInto, if_neg hk, insertAll_cons, insertAll_cons, ih _ h]

/-- Inserting a set that an attribute was inserted into is inserting the attribute after the set. -/
theorem insertAll_entries_insert (attributes : Attributes) (h : other.keys.Nodup) (a : Attribute) :
    attributes.insertAll (other.insert a).entries = (attributes.insertAll other.entries).insert a :=
  insertAll_insertInto attributes (List.nodup_iff_count_le_one.1 h a.key)

theorem insertAll_entries_insertAll (attributes : Attributes) (h : other.keys.Nodup)
    (as : List Attribute) :
    attributes.insertAll (other.insertAll as).entries =
      (attributes.insertAll other.entries).insertAll as := by
  induction as generalizing other with
  | nil => rfl
  | cons a as ih =>
    rw [insertAll_cons, ih (nodup_keys_insert h a), insertAll_entries_insert _ h, insertAll_cons]

/-- Insertions may be made into a set of their own first. -/
theorem merge_ofList (attributes : Attributes) (as : List Attribute) :
    attributes.merge (ofList as) = attributes.insertAll as :=
  insertAll_entries_insertAll attributes nodup_keys_empty as

end Reordering

/-- The sets that can be made, from the empty set by insertions and merges. -/
inductive Made : Attributes → Prop where
  | empty : Made empty
  | insert {attributes : Attributes} (before : Made attributes) (a : Attribute) :
      Made (attributes.insert a)
  | merge {attributes other : Attributes} (before : Made attributes) (more : Made other) :
      Made (attributes.merge other)

theorem Made.insertAll (h : attributes.Made) (as : List Attribute) :
    (attributes.insertAll as).Made := by
  induction as generalizing attributes with
  | nil => exact h
  | cons a as ih => exact ih (h.insert a)

theorem Made.nodup_keys (h : attributes.Made) : attributes.keys.Nodup := by
  induction h with
  | empty => exact nodup_keys_empty
  | insert _ a ih => exact nodup_keys_insert ih a
  | @merge _ other _ _ ih _ => exact nodup_keys_insertAll ih other.entries

theorem made_iff_nodup_keys : attributes.Made ↔ attributes.keys.Nodup := by
  constructor
  · exact Made.nodup_keys
  · intro h
    rw [← ofList_entries h]
    exact Made.empty.insertAll attributes.entries

end Attributes

end MarkupTree
