import Mathlib.Data.List.Chain
import MarkupTree.Chunks

/-! The elements that are open at a place of the cursor. They lie on a path through the tree, from its root
down to the element that is being written, and all but the last of them stand just behind the item that the
path goes on with. So a cursor never looks for an item where there is none, and it never holds more frames
than the tree is high. -/
namespace MarkupTree

section Height

mutual

/-- The number of elements on the longest path down from the element, with itself. -/
def Element.height : Element → Nat
  | ⟨_, _, none⟩ => 1
  | ⟨_, _, some items⟩ => Item.heightAll items + 1

def Item.heightAll : List Item → Nat
  | [] => 0
  | .element e :: items => max e.height (Item.heightAll items)
  | .raw _ :: items => Item.heightAll items
  | .text _ :: items => Item.heightAll items

end

theorem Element.height_pos (e : Element) : 0 < e.height := by
  obtain ⟨name, attributes, content⟩ := e
  cases content <;> simp [height]

theorem Element.height_le_heightAll {child : Element} {items : List Item}
    (h : Item.element child ∈ items) : child.height ≤ Item.heightAll items := by
  induction items with
  | nil => cases h
  | cons item items ih =>
    rcases List.mem_cons.1 h with rfl | h
    · exact Nat.le_max_left ..
    · have hi := ih h
      cases item with
      | element e => exact Nat.le_trans hi (Nat.le_max_right ..)
      | raw html => exact hi
      | text text => exact hi

theorem Element.height_lt_of_mem {e child : Element} {items : List Item} (hc : e.content = some items)
    (h : Item.element child ∈ items) : child.height < e.height := by
  obtain ⟨name, attributes, content⟩ := e
  cases hc
  have hi := height_le_heightAll h
  simp only [height]
  omega

end Height

/-- The frame stands just behind that item of its element which is the other element. -/
def Frame.Holds (frame : Frame) (child : Element) : Prop :=
  ∃ index items, frame.step = .inBody (index + 1) ∧ frame.element.content = some items ∧
    items[index]? = some (.element child)

/-- The index of the frame is one that its element has: an attribute of it or the end of its start tag, an
item of it or its end tag. -/
def Frame.InRange : Frame → Prop
  | ⟨_, .opening⟩ => True
  | ⟨e, .inTag index⟩ => index ≤ e.attributes.size
  | ⟨e, .inBody index⟩ => ¬ e.isVoid ∧ ∃ items, e.content = some items ∧ index ≤ items.length
  | ⟨_, .closed⟩ => True

/-- What is open behind a turn, unless nothing was open before it. -/
def Turn.stack? : Turn → Option (List Frame)
  | .ended => none
  | .found _ stack => some stack
  | .moved stack => some stack

namespace Chunks

/-- The stacks that the cursor of a tree comes to, with those between two of its turns. -/
inductive Reached (root : Element) : List Frame → Prop where
  | start : Reached root (Chunks.start root).stack
  | turn {stack later : List Frame} (before : Reached root stack)
      (made : (turn stack).stack? = some later) : Reached root later

/-- The frames lead from the root of a tree to an element in it. Each of them stands behind the item that
the path goes on with. -/
inductive Leads (root : Element) : Element → List Frame → Prop where
  | here : Leads root root []
  | into {e child : Element} {items : List Item} {index : Nat} {stack : List Frame}
      (above : Leads root e stack) (nonvoid : ¬ e.isVoid) (content : e.content = some items)
      (item : items[index]? = some (.element child)) :
      Leads root child (⟨e, .inBody (index + 1)⟩ :: stack)

/-- Nothing is open, or the element of the top frame lies where the frames below lead to. -/
def OnPath (root : Element) : List Frame → Prop
  | [] => True
  | frame :: stack => Leads root frame.element stack ∧ frame.InRange

/-- The open elements of a stack lie on one path through the tree. -/
structure IsPath (root : Element) (stack : List Frame) : Prop where
  from_root : ∀ frame, stack.getLast? = some frame → frame.element = root
  linked : stack.IsChain fun upper lower => lower.Holds upper.element
  below_top : ∀ frame ∈ stack.tail, ∃ index, frame.step = .inBody (index + 1)
  in_tag : ∀ e index, ⟨e, .inTag index⟩ ∈ stack → index ≤ e.attributes.size
  in_body : ∀ e index, ⟨e, .inBody index⟩ ∈ stack →
    ¬ e.isVoid ∧ ∃ items, e.content = some items ∧ index ≤ items.length
  length_le : stack.length ≤ root.height

variable {root e : Element} {frame : Frame} {index calls : Nat} {stack later : List Frame}

section Turns

theorem onPath_turnTag (h : Leads root e stack)
    (made : (turnTag e index stack).stack? = some later) : OnPath root later := by
  unfold turnTag at made
  split at made
  · rename_i a ha
    cases made
    have hi : index < e.attributes.size := (List.getElem?_eq_some_iff.1 ha).1
    exact ⟨h, hi⟩
  · by_cases hv : e.isVoid
    · rw [if_pos hv] at made
      cases made
      exact ⟨h, trivial⟩
    · rw [if_neg hv] at made
      by_cases hc : e.content.isSome
      · obtain ⟨items, hitems⟩ := Option.isSome_iff_exists.1 hc
        rw [if_pos hc] at made
        cases made
        exact ⟨h, hv, items, hitems, Nat.zero_le _⟩
      · rw [if_neg hc] at made
        cases made
        exact ⟨h, trivial⟩

theorem onPath_turnBody (h : Leads root e stack) (hr : Frame.InRange ⟨e, .inBody index⟩)
    (made : (turnBody e index stack).stack? = some later) : OnPath root later := by
  obtain ⟨hv, items, hc, -⟩ := hr
  have hlater : ∀ item, items[index]? = some item → Frame.InRange ⟨e, .inBody (index + 1)⟩ :=
    fun item hi => ⟨hv, items, hc, (List.getElem?_eq_some_iff.1 hi).1⟩
  unfold turnBody at made
  rw [hc, Option.getD_some] at made
  split at made
  · rename_i child hi
    cases made
    exact ⟨.into h hv hc hi, trivial⟩
  · rename_i html hi
    cases made
    exact ⟨h, hlater _ hi⟩
  · rename_i text hi
    cases made
    exact ⟨h, hlater _ hi⟩
  · cases made
    exact ⟨h, trivial⟩

theorem OnPath.turn (h : OnPath root stack) (made : (turn stack).stack? = some later) :
    OnPath root later := by
  rcases stack with _ | ⟨⟨e, step⟩, stack⟩
  · cases made
  · obtain ⟨hl, hr⟩ := h
    cases step with
    | opening =>
      cases made
      exact ⟨hl, Nat.zero_le _⟩
    | inTag index => exact onPath_turnTag hl made
    | inBody index => exact onPath_turnBody hl hr made
    | closed =>
      cases made
      cases hl with
      | here => trivial
      | into above nonvoid content item =>
        have hi := (List.getElem?_eq_some_iff.1 item).1
        exact ⟨above, nonvoid, _, content, hi⟩

theorem Reached.onPath (h : Reached root stack) : OnPath root stack := by
  induction h with
  | start => exact ⟨.here, trivial⟩
  | turn _ made ih => exact ih.turn made

end Turns

section Calls

theorem Reached.advance (h : Reached root stack) : Reached root (advance stack).2 := by
  fun_induction Chunks.advance stack with
  | case1 stack ht => exact h
  | case2 stack chunk later ht => exact h.turn (by rw [ht]; rfl)
  | case3 stack later ht ih => exact ih (h.turn (by rw [ht]; rfl))

theorem reached_after (root : Element) (calls : Nat) :
    Reached root ((start root).after calls).stack := by
  induction calls with
  | zero => exact .start
  | succ calls ih => exact ih.advance

end Calls

section Paths

theorem Leads.from_root (h : Leads root e stack) (step : Step) :
    ∀ frame, (⟨e, step⟩ :: stack).getLast? = some frame → frame.element = root := by
  induction h generalizing step with
  | here =>
    intro frame hl
    cases hl
    rfl
  | into _ _ _ _ ih => exact ih _

theorem Leads.linked (h : Leads root e stack) (step : Step) :
    (⟨e, step⟩ :: stack).IsChain fun upper lower => lower.Holds upper.element := by
  induction h generalizing step with
  | here => exact .singleton _
  | into _ _ content item ih => exact .cons_cons ⟨_, _, rfl, content, item⟩ (ih _)

theorem Leads.of_mem (h : Leads root e stack) (hf : frame ∈ stack) :
    (∃ index, frame.step = .inBody (index + 1)) ∧ frame.InRange := by
  induction h with
  | here => cases hf
  | into _ nonvoid content item ih =>
    rcases List.mem_cons.1 hf with rfl | hf
    · have hi := (List.getElem?_eq_some_iff.1 item).1
      exact ⟨⟨_, rfl⟩, nonvoid, _, content, hi⟩
    · exact ih hf

/-- Each step of the path goes down in the tree. -/
theorem Leads.length_add_height_le (h : Leads root e stack) :
    stack.length + e.height ≤ root.height := by
  induction h with
  | here => simp
  | into _ _ content item ih =>
    have hlt := Element.height_lt_of_mem content (List.mem_of_getElem? item)
    simp only [List.length_cons]
    omega

theorem OnPath.isPath (h : OnPath root stack) : IsPath root stack := by
  rcases stack with _ | ⟨⟨e, step⟩, stack⟩
  · exact ⟨nofun, .nil, nofun, nofun, nofun, Nat.zero_le _⟩
  · obtain ⟨hl, hr⟩ := h
    have hrange : ∀ frame ∈ (⟨e, step⟩ :: stack : List Frame), frame.InRange := by
      intro frame hf
      rcases List.mem_cons.1 hf with rfl | hf
      · exact hr
      · exact (hl.of_mem hf).2
    have hlength : stack.length + 1 ≤ root.height := by
      have hh := hl.length_add_height_le
      have hpos := e.height_pos
      simp only at hh hpos
      omega
    exact ⟨hl.from_root step, hl.linked step, fun frame hf => (hl.of_mem hf).1,
      fun e index hf => hrange _ hf, fun e index hf => hrange _ hf, hlength⟩

end Paths

/-- Wherever a cursor stands, between two calls or between two turns of a call, the elements that are open
lie on one path through its tree. -/
theorem open_elements_are_path (root : Element) :
    (∀ calls, IsPath root ((start root).after calls).stack) ∧
    ∀ stack, Reached root stack → IsPath root stack :=
  ⟨fun calls => (reached_after root calls).onPath.isPath, fun _ h => h.onPath.isPath⟩

def listItem : Element := ⟨"li", ⟨[Attribute.bare "id"]⟩, none⟩

def listWithItem : Element := ⟨"ul", Attributes.empty, some [.text "a", .element listItem]⟩

/-- Between two turns of its fourth call the cursor has come to the item, of which nothing is written yet. -/
theorem open_elements_of_list :
    Reached listWithItem [⟨listItem, .opening⟩, ⟨listWithItem, .inBody 2⟩] ∧
    IsPath listWithItem [⟨listItem, .opening⟩, ⟨listWithItem, .inBody 2⟩] ∧
    IsPath listWithItem ((start listWithItem).after 4).stack := by
  have hstart : Reached listWithItem [⟨listWithItem, .opening⟩] := .start
  have htag : Reached listWithItem [⟨listWithItem, .inTag 0⟩] := hstart.turn rfl
  have hbody : Reached listWithItem [⟨listWithItem, .inBody 0⟩] := htag.turn rfl
  have htext : Reached listWithItem [⟨listWithItem, .inBody 1⟩] := hbody.turn rfl
  have hitem : Reached listWithItem [⟨listItem, .opening⟩, ⟨listWithItem, .inBody 2⟩] :=
    htext.turn rfl
  obtain ⟨hcalls, hreached⟩ := open_elements_are_path listWithItem
  exact ⟨hitem, hreached _ hitem, hcalls 4⟩

end Chunks
end MarkupTree
