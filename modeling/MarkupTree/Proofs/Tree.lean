import MarkupTree.Element

/-! Properties of a whole tree, which are those that every element of it has by itself. -/
namespace MarkupTree
namespace Element

/-- The content, where one that was never assigned is as good as empty. -/
def items (e : Element) : List Item := e.content.getD []

inductive Everywhere (p : Element → Prop) : Element → Prop where
  | intro (e : Element) (here : p e)
    (inside : ∀ child, Item.element child ∈ e.items → Everywhere p child) : Everywhere p e

namespace Everywhere

variable {p : Element → Prop} {e : Element}

theorem here (h : Everywhere p e) : p e := by
  cases h with
  | intro _ here _ => exact here

theorem inside (h : Everywhere p e) {child : Element} (hc : Item.element child ∈ e.items) :
    Everywhere p child := by
  cases h with
  | intro _ _ inside => exact inside child hc

theorem iff_here_inside :
    e.Everywhere p ↔ p e ∧ ∀ child, Item.element child ∈ e.items → child.Everywhere p :=
  ⟨fun h => ⟨h.here, fun _ => h.inside⟩, fun h => .intro e h.1 h.2⟩

theorem imp {q : Element → Prop} (h : Everywhere p e) (hq : ∀ e, p e → q e) : Everywhere q e := by
  induction h with
  | intro e here _ ih => exact .intro e (hq e here) ih

end Everywhere

end Element

end MarkupTree
