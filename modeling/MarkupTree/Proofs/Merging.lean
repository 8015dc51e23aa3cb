import Mathlib.Logic.Function.Basic
import MarkupTree.Proofs.Insertion

/-! Sets of attributes that are merged into one another. Merging is associative, the empty set is neutral to
it, and what is merged in again changes nothing. So a set at the end of any history of insertions and
merges, over however many sets, is read off what was inserted into it: a merge counts as the insertions of
the other set's attributes in their order. -/
namespace MarkupTree
namespace Attributes

variable {a b : Attributes}

section Laws

theorem insert_of_get? {x : Attribute} (h : a.get? x.key = some x.value) : a.insert x = a := by
  obtain ⟨entries⟩ := a
  simp only [insert, get?, mk.injEq] at h ⊢
  induction entries with
  | nil => cases h
  | cons y ys ih =>
    by_cases hy : y.key = x.key
    · have hv : y.value = x.value := by simpa [hy] using h
      rw [insertInto, if_pos hy, ← hv]
    · rw [insertInto, if_neg hy, ih (by simpa [hy] using h)]

theorem insertAll_of_get? {xs : List Attribute} (h : ∀ x ∈ xs, a.get? x.key = some x.value) :
    a.insertAll xs = a := by
  induction xs with
  | nil => rfl
  | cons x xs ih =>
    rw [insertAll_cons, insert_of_get? (h x List.mem_cons_self)]
    exact ih fun y hy => h y (List.mem_cons_of_mem x hy)

theorem merge_empty (a : Attributes) : a.merge empty = a := rfl

theorem empty_merge (h : a.keys.Nodup) : empty.merge a = a := ofList_entries h

theorem merge_merge (a : Attributes) (h : b.keys.Nodup) (c : Attributes) :
    (a.merge b).merge c = a.merge (b.merge c) :=
  (insertAll_entries_insertAll a h c.entries).symm

theorem merge_self (h : a.keys.Nodup) : a.merge a = a :=
  insertAll_of_get? fun _ hx => get?_of_mem h hx

/-- Merging is an operation on the sets that can be made, which makes a monoid of them: merges may be
regrouped and repeated. What is merged in goes before what was there. -/
theorem merge_regroups (ha : a.Made) (hb : b.Made) (c : Attributes) :
    (a.merge b).Made ∧
    (a.merge b).merge c = a.merge (b.merge c) ∧
    a.merge empty = a ∧ empty.merge a = a ∧
    a.merge a = a ∧ (a.merge b).merge b = a.merge b ∧
    ∀ key, (a.merge b).get? key = (b.get? key).or (a.get? key) := by
  have hn : b.keys.Nodup := hb.nodup_keys
  refine ⟨ha.merge hb, merge_merge a hn c, merge_empty a, empty_merge ha.nodup_keys,
    merge_self ha.nodup_keys, ?_, get?_merge a hn⟩
  rw [merge_merge a hn, merge_self hn]

/-- Two sets that share a key, and a third one with the keys of the second in the other order. -/
theorem merge_regroups_of_shared :
    (⟨[Attribute.bare "id", ⟨"class", some (.int 1)⟩]⟩ : Attributes).Made ∧
    (⟨[⟨"title", some (.int 2)⟩, Attribute.bare "class"]⟩ : Attributes).Made ∧
    merge (merge ⟨[Attribute.bare "id", ⟨"class", some (.int 1)⟩]⟩
        ⟨[⟨"title", some (.int 2)⟩, Attribute.bare "class"]⟩)
        ⟨[⟨"class", some (.int 3)⟩, Attribute.bare "title"]⟩ =
      merge ⟨[Attribute.bare "id", ⟨"class", some (.int 1)⟩]⟩
        ⟨[Attribute.bare "title", ⟨"class", some (.int 3)⟩]⟩ ∧
    get? (merge ⟨[Attribute.bare "id", ⟨"class", some (.int 1)⟩]⟩
      ⟨[⟨"title", some (.int 2)⟩, Attribute.bare "class"]⟩) "class" = some none := by
  have ha : (⟨[Attribute.bare "id", ⟨"class", some (.int 1)⟩]⟩ : Attributes).Made :=
    made_iff_nodup_keys.2 (by decide)
  have hb : (⟨[⟨"title", some (.int 2)⟩, Attribute.bare "class"]⟩ : Attributes).Made :=
    made_iff_nodup_keys.2 (by decide)
  obtain ⟨-, hassoc, -, -, -, -, hget⟩ :=
    merge_regroups ha hb ⟨[⟨"class", some (.int 3)⟩, Attribute.bare "title"]⟩
  exact ⟨ha, hb, hassoc, hget "class"⟩

end Laws

section Histories

theorem mem_entries_iff_at? {x : Attribute} : x ∈ a.entries ↔ ∃ n < a.size, a.at? n = some x := by
  rw [List.mem_iff_getElem?]
  constructor
  · rintro ⟨n, hn⟩
    exact ⟨n, (List.getElem?_eq_some_iff.1 hn).1, hn⟩
  · rintro ⟨n, -, hn⟩
    exact ⟨n, hn⟩

theorem map_at?_range (a : Attributes) : (List.range a.size).map a.at? = a.entries.map some := by
  apply List.ext_getElem
  · simp [size]
  · intro n hn _
    simp [at?]

/-- What happens to sets that have names: an attribute is inserted into one of them, or another set is
merged into it, which stays as it was. -/
inductive Change (ι : Type) where
  | insert (target : ι) (x : Attribute)
  | merge (target source : ι)

namespace Change

variable {ι : Type} [DecidableEq ι]

def apply (sets : ι → Attributes) : Change ι → ι → Attributes
  | .insert target x => Function.update sets target ((sets target).insert x)
  | .merge target source => Function.update sets target ((sets target).merge (sets source))

def applyAll (sets : ι → Attributes) (changes : List (Change ι)) : ι → Attributes :=
  changes.foldl apply sets

/-- What the change inserts into a set, where a merge inserts the other set's attributes in their
order. -/
def inserted (sets : ι → Attributes) (i : ι) : Change ι → List Attribute
  | .insert target x => if i = target then [x] else []
  | .merge target source => if i = target then (sets source).entries else []

def insertedAll (sets : ι → Attributes) (i : ι) : List (Change ι) → List Attribute
  | [] => []
  | change :: changes => change.inserted sets i ++ insertedAll (change.apply sets) i changes

theorem apply_eq (sets : ι → Attributes) (change : Change ι) (i : ι) :
    change.apply sets i = (sets i).insertAll (change.inserted sets i) := by
  cases change with
  | insert target x => by_cases h : i = target <;> simp [apply, inserted, h]
  | merge target source => by_cases h : i = target <;> simp [apply, inserted, h, Attributes.merge]

theorem applyAll_eq (sets : ι → Attributes) (changes : List (Change ι)) (i : ι) :
    applyAll sets changes i = (sets i).insertAll (insertedAll sets i changes) := by
  induction changes generalizing sets with
  | nil => rfl
  | cons change changes ih =>
    rw [insertedAll, insertAll_append, ← apply_eq]
    exact ih (change.apply sets)

/-- The sets that a history makes out of empty ones. -/
def outcome (changes : List (Change ι)) : ι → Attributes := applyAll (fun _ => empty) changes

def history (changes : List (Change ι)) (i : ι) : List Attribute :=
  insertedAll (fun _ => empty) i changes

theorem outcome_eq (changes : List (Change ι)) (i : ι) : outcome changes i = ofList (history changes i) :=
  applyAll_eq ..

theorem outcome_append (changes later : List (Change ι)) (i : ι) :
    outcome (changes ++ later) i =
      (outcome changes i).insertAll (insertedAll (outcome changes) i later) := by
  rw [outcome, applyAll, List.foldl_append]
  exact applyAll_eq ..

/-- A set is a map in the order of insertion, whatever happened to it and to other sets. No key repeats.
The keys are those that were inserted, each at the place where it first came, and none ever moves. Each
has the value inserted last, and all ways of looking at the set show this. -/
theorem outcome_in_order (changes later : List (Change ι)) (i : ι) :
    (outcome changes i).keys.Nodup ∧
    (∀ key, key ∈ (outcome changes i).keys ↔ key ∈ (history changes i).map Attribute.key) ∧
    ((outcome changes i).keys.Pairwise fun key next =>
      ((history changes i).map Attribute.key).idxOf key <
        ((history changes i).map Attribute.key).idxOf next) ∧
    (outcome changes i).keys <+: (outcome (changes ++ later) i).keys ∧
    (∀ key, (outcome changes i).get? key =
      (latest Attribute.key key (history changes i)).map Attribute.value) ∧
    (∀ key value, (outcome changes i).get? key = some value ↔
      ∃ n < (outcome changes i).size, (outcome changes i).at? n = some ⟨key, value⟩) ∧
    (List.range (outcome changes i).size).map (outcome changes i).at? =
      (outcome changes i).entries.map some := by
  have hn : (outcome changes i).keys.Nodup := by
    rw [outcome_eq]
    exact nodup_keys_ofList _
  have hk : (outcome changes i).keys = ((history changes i).map Attribute.key).eraseDups := by
    rw [outcome_eq, keys_ofList]
  refine ⟨hn, fun key => ?_, ?_, ?_, fun key => ?_, fun key value => ?_, map_at?_range _⟩
  · rw [hk, List.mem_eraseDups]
  · rw [hk]
    exact pairwise_idxOf_eraseDups _
  · rw [outcome_append, keys_insertAll]
    exact List.prefix_append ..
  · rw [outcome_eq, get?_ofList]
  · rw [get?_eq_some_iff hn, mem_entries_iff_at?]

/-- A set that is merged into itself, and a bare attribute that goes over one with a value. -/
example : outcome [.insert 0 ⟨"id", some (.int 1)⟩, .insert 1 (Attribute.bare "title"),
    .insert 1 (Attribute.bare "id"), .merge 0 1, .merge 0 0] 0 =
      ⟨[Attribute.bare "id", Attribute.bare "title"]⟩ := by
  decide

end Change

end Histories

end Attributes
end MarkupTree
