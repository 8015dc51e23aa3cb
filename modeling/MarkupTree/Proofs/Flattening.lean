import MarkupTree.Invocation

/-! Content comes to its leaves. Whatever the lists, sequences and wrappers around them, the leaves are
read from left to right: if all of them are items, these are the items of the content, and else it fails
with the first leaf that fails. -/
namespace MarkupTree

/-- A leaf of content: an item, or the error that it comes to. -/
abbrev Leaf := Except TreeError Item

namespace Content

mutual

/-- The leaves from left to right. The unit value and absent values have none. -/
def leaves : Content → List Leaf
  | .item leaf => [.ok leaf]
  | .document whole => whole.children.map fun e => .ok (.element e)
  | .int value => [.error (.unknownContentType (toString value))]
  | .double value => [.error (.unknownContentType (NumberLayout.exact.text value.value))]
  | .single value => [.error (.unknownContentType (NumberLayout.exact.text value.value))]
  | .bool value => [.error (.unknownContentType (toString value))]
  | .unit => []
  | .absent => []
  | .present content => content.leaves
  | .succeeded content => content.leaves
  | .failed error => [.error error]
  | .list contents => leavesAll contents
  | .sequence contents => leavesAll contents
  | .copies count content => (List.replicate count content.leaves).flatten

def leavesAll : List Content → List Leaf
  | [] => []
  | content :: contents => content.leaves ++ leavesAll contents

end

end Content

/-- The items of leaves, or the error of the first leaf that fails. -/
def Leaf.collect : List Leaf → Except TreeError (List Item)
  | [] => .ok []
  | .ok item :: leaves => (Leaf.collect leaves).map (item :: ·)
  | .error error :: _ => .error error

namespace Leaf

theorem collect_append (leaves more : List Leaf) :
    collect (leaves ++ more) =
      (collect leaves).bind fun items => (collect more).map (items ++ ·) := by
  induction leaves with
  | nil => cases h : collect more <;> simp [collect, h, Except.bind, Except.map]
  | cons leaf leaves ih =>
    cases leaf with
    | error error => rfl
    | ok item =>
      rw [List.cons_append, collect, collect, ih]
      cases collect leaves with
      | error error => rfl
      | ok items => cases collect more <;> rfl

theorem collect_eq_ok_iff {leaves : List Leaf} {items : List Item} :
    collect leaves = .ok items ↔ leaves = items.map .ok := by
  induction leaves generalizing items with
  | nil => cases items <;> simp [collect]
  | cons leaf leaves ih =>
    cases leaf with
    | error error => cases items <;> simp [collect]
    | ok item =>
      cases items with
      | nil => cases h : collect leaves <;> simp [collect, h, Except.map]
      | cons first rest =>
        have hi := @ih rest
        cases h : collect leaves with
        | error error => simp_all [collect, Except.map]
        | ok found => simp_all [collect, Except.map]

theorem collect_eq_error_iff {leaves : List Leaf} {error : TreeError} :
    collect leaves = .error error ↔
      ∃ (before : List Item) (after : List Leaf),
        leaves = before.map .ok ++ .error error :: after := by
  induction leaves with
  | nil => simp [collect]
  | cons leaf leaves ih =>
    cases leaf with
    | error other =>
      rw [collect, Except.error.injEq]
      constructor
      · rintro rfl
        exact ⟨[], leaves, rfl⟩
      · rintro ⟨_ | ⟨item, before⟩, after, h⟩
        · cases h
          rfl
        · cases h
    | ok item =>
      have hm : collect (.ok item :: leaves) = .error error ↔ collect leaves = .error error := by
        cases h : collect leaves <;> simp [collect, h, Except.map]
      rw [hm, ih]
      constructor
      · rintro ⟨before, after, rfl⟩
        exact ⟨item :: before, after, rfl⟩
      · rintro ⟨_ | ⟨first, before⟩, after, h⟩
        · cases h
        · exact ⟨before, after, (List.cons.inj h).2⟩

end Leaf

namespace Content

theorem result_append {first second : Build (List Item)} {leaves more : List Leaf}
    (hf : first.result = Leaf.collect leaves) (hs : second.result = Leaf.collect more) :
    (first >>= fun items => second >>= fun rest => pure (items ++ rest)).result =
      Leaf.collect (leaves ++ more) := by
  simp only [Build.result_bind, hf, hs, Leaf.collect_append, Build.result_pure]
  rfl

theorem result_pullOne_bind (read : Build (List Item)) :
    (Build.pullOne >>= fun _ => read).result = read.result := by
  rw [Build.result_bind, Build.result_pullOne]
  rfl

theorem result_pullCopies {read : Build (List Item)} {leaves : List Leaf}
    (h : read.result = Leaf.collect leaves) (count : Nat) :
    (pullCopies read count).result = Leaf.collect (List.replicate count leaves).flatten := by
  induction count with
  | zero => rfl
  | succ count ih =>
    rw [List.replicate_succ, List.flatten_cons, pullCopies, result_pullOne_bind]
    exact result_append h ih

theorem collect_map_ok (items : List Item) : Leaf.collect (items.map .ok) = .ok items :=
  Leaf.collect_eq_ok_iff.2 rfl

mutual

theorem result_pull : (content : Content) → content.pull.result = Leaf.collect content.leaves
  | .item leaf => rfl
  | .document whole => by
    have hl : (Content.document whole).leaves =
        (whole.children.map Item.element).map .ok := by
      rw [leaves, List.map_map]
      rfl
    rw [hl, collect_map_ok, pull, Build.result_pure]
  | .int value => rfl
  | .double value => rfl
  | .single value => rfl
  | .bool value => rfl
  | .unit => rfl
  | .absent => rfl
  | .present content => by rw [pull, leaves, result_pull content]
  | .succeeded content => by rw [pull, leaves, result_pull content]
  | .failed error => rfl
  | .list contents => by rw [pull, leaves, result_pullAll contents]
  | .sequence contents => by rw [pull, leaves, result_pullEach contents]
  | .copies count content => by
    rw [pull, leaves, result_pullCopies (result_pull content)]

theorem result_pullAll : (contents : List Content) →
    (pullAll contents).result = Leaf.collect (leavesAll contents)
  | [] => rfl
  | content :: contents => by
    rw [pullAll, leavesAll]
    exact result_append (result_pull content) (result_pullAll contents)

theorem result_pullEach : (contents : List Content) →
    (pullEach contents).result = Leaf.collect (leavesAll contents)
  | [] => rfl
  | content :: contents => by
    rw [pullEach, leavesAll, result_pullOne_bind]
    exact result_append (result_pull content) (result_pullEach contents)

end

theorem flatten_eq_collect (content : Content) :
    content.flatten = Leaf.collect content.leaves :=
  result_pull content

end Content

namespace Invocation

theorem withContents_cons (invocation : Invocation) (content : Content)
    (contents : List Content) :
    invocation.withContents (content :: contents) =
      invocation.withContent (.list (content :: contents)) := by
  induction contents generalizing invocation content with
  | nil => simp [withContents, withContent, Content.pull, Content.pullAll]
  | cons next contents ih =>
    have hs : invocation.withContents (content :: next :: contents) =
        invocation.withContent content >>= fun later => later.withContents (next :: contents) :=
      rfl
    rw [hs]
    simp only [ih, withContent, Content.pull, Content.pullAll, bind_assoc, pure_bind,
      Option.getD_some, List.append_assoc]

end Invocation

namespace Content

/-- Flattening reads the leaves from left to right. It succeeds just when all of them are items, with
these items, and fails just with the first leaf that fails. So nothing but the sequence of the leaves
counts, and contents that are supplied one by one are supplied as one list, where none at all leave
the content as it is. -/
theorem flatten_iff_leaves (content : Content) :
    (∀ items, content.flatten = .ok items ↔ content.leaves = items.map .ok) ∧
    (∀ error, content.flatten = .error error ↔
      ∃ (before : List Item) (after : List Leaf),
        content.leaves = before.map .ok ++ .error error :: after) ∧
    (∀ other : Content, other.leaves = content.leaves → other.flatten = content.flatten) ∧
    (∀ (invocation : Invocation) (contents : List Content), contents ≠ [] →
      invocation.withContents contents = invocation.withContent (.list contents)) ∧
    ∀ invocation : Invocation, invocation.withContents [] = pure invocation := by
  refine ⟨fun items => ?_, fun error => ?_, fun other h => ?_, fun invocation contents h => ?_,
    fun invocation => rfl⟩
  · rw [flatten_eq_collect, Leaf.collect_eq_ok_iff]
  · rw [flatten_eq_collect, Leaf.collect_eq_error_iff]
  · rw [flatten_eq_collect, flatten_eq_collect, h]
  · obtain ⟨first, rest, rfl⟩ := List.exists_cons_of_ne_nil h
    exact invocation.withContents_cons first rest

/-- Behind an absent value and a text in a list of its own, the truth value is the first that fails. -/
theorem flatten_of_regrouped :
    leaves (.sequence [.absent, text "a", .bool true, .failed (.badTagName "__")]) =
      leaves (.list [.list [.present (text "a")], .unit,
        .list [.bool true, .failed (.badTagName "__")]]) ∧
    flatten (.sequence [.absent, text "a", .bool true, .failed (.badTagName "__")]) =
      flatten (.list [.list [.present (text "a")], .unit,
        .list [.bool true, .failed (.badTagName "__")]]) ∧
    flatten (.sequence [.absent, text "a", .bool true, .failed (.badTagName "__")]) =
      .error (.unknownContentType "true") ∧
    ([.unit, text "a"] : List Content) ≠ [] ∧
    Invocation.empty.withContents [.unit, text "a"] =
      Invocation.empty.withContent (.list [.unit, text "a"]) := by
  have hl : leaves (.sequence [.absent, text "a", .bool true, .failed (.badTagName "__")]) =
      leaves (.list [.list [.present (text "a")], .unit,
        .list [.bool true, .failed (.badTagName "__")]]) := rfl
  have hn : ([.unit, text "a"] : List Content) ≠ [] := nofun
  have hs := flatten_iff_leaves (.sequence [.absent, text "a", .bool true, .failed (.badTagName "__")])
  obtain ⟨-, herror, -, hchain, -⟩ := hs
  refine ⟨hl, ?_, (herror _).2 ⟨[.text "a"], [.error (.badTagName "__")], rfl⟩, hn, hchain _ _ hn⟩
  exact (flatten_iff_leaves _).2.2.1 _ hl

end Content

end MarkupTree
