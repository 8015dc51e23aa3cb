import MarkupTree.Pieces

/-! A cursor over the markup of an element. It holds the elements that are open at its place, the
innermost first, and how far each of them has been written, so the next chunk is found without the
rest of the tree. A call of the cursor takes turns until one of them gives a chunk; a turn that gives
none enters an element or leaves one. What is still to come is `pending`: a call answers its head
and leaves its tail. -/
namespace MarkupTree

/-- How far an element has been written. -/
inductive Step where
  | opening
  /-- The attribute of this index comes next, or the end of the start tag. -/
  | inTag (index : Nat)
  /-- The item of this index comes next, or the end tag. -/
  | inBody (index : Nat)
  | closed
  deriving DecidableEq, Repr

structure Frame where
  element : Element
  step : Step

structure Chunks where
  stack : List Frame

/-- What a turn of the cursor comes to. -/
inductive Turn where
  /-- Nothing is open. -/
  | ended
  /-- A chunk, and what is open behind it. -/
  | found (chunk : String) (stack : List Frame)
  /-- No chunk yet. -/
  | moved (stack : List Frame)

namespace Chunks

def start (e : Element) : Chunks := ⟨[⟨e, .opening⟩]⟩

def turnTag (e : Element) (index : Nat) (stack : List Frame) : Turn :=
  match e.attributes.at? index with
  | some a => .found a.html (⟨e, .inTag (index + 1)⟩ :: stack)
  | none =>
    if e.isVoid then .found " />" (⟨e, .closed⟩ :: stack)
    else if e.content.isSome then .found ">" (⟨e, .inBody 0⟩ :: stack)
    else .found ("></" ++ e.name ++ ">") (⟨e, .closed⟩ :: stack)

def turnBody (e : Element) (index : Nat) (stack : List Frame) : Turn :=
  match (e.content.getD [])[index]? with
  | some (.element child) => .moved (⟨child, .opening⟩ :: ⟨e, .inBody (index + 1)⟩ :: stack)
  | some (.raw html) => .found html (⟨e, .inBody (index + 1)⟩ :: stack)
  | some (.text text) =>
    .found (if e.isRawText then text else Text.escape text) (⟨e, .inBody (index + 1)⟩ :: stack)
  | none => .found ("</" ++ e.name ++ ">") (⟨e, .closed⟩ :: stack)

def turn : List Frame → Turn
  | [] => .ended
  | ⟨e, .opening⟩ :: stack => .found ("<" ++ e.name) (⟨e, .inTag 0⟩ :: stack)
  | ⟨e, .inTag index⟩ :: stack => turnTag e index stack
  | ⟨e, .inBody index⟩ :: stack => turnBody e index stack
  | ⟨_, .closed⟩ :: stack => .moved stack

/-- No more turns than these can pass without a chunk: one for each element that is left, and one
to enter the next. -/
def slack : List Frame → Nat
  | ⟨_, .closed⟩ :: stack => slack stack + 1
  | ⟨_, .inBody _⟩ :: _ => 1
  | _ => 0

theorem turnTag_ne_moved (e : Element) (index : Nat) (stack later : List Frame) :
    turnTag e index stack ≠ .moved later := by
  unfold turnTag
  split
  · simp
  · by_cases hv : e.isVoid
    · simp [hv]
    · by_cases hc : e.content.isSome <;> simp [hv, hc]

theorem slack_lt_of_turn {stack later : List Frame} (h : turn stack = .moved later) :
    slack later < slack stack := by
  rcases stack with _ | ⟨⟨e, step⟩, stack⟩
  · simp [turn] at h
  · cases step with
    | opening => simp [turn] at h
    | inTag index => exact absurd h (turnTag_ne_moved e index stack later)
    | inBody index =>
      simp only [turn, turnBody] at h
      split at h <;> cases h
      exact Nat.one_pos
    | closed =>
      cases h
      exact Nat.lt_succ_self _

def advance (stack : List Frame) : Option String × List Frame :=
  match _h : turn stack with
  | .ended => (none, stack)
  | .found chunk later => (some chunk, later)
  | .moved later => advance later
termination_by slack stack
decreasing_by exact slack_lt_of_turn _h

theorem advance_eq (stack : List Frame) :
    advance stack = match turn stack with
      | .ended => (none, stack)
      | .found chunk later => (some chunk, later)
      | .moved later => advance later := by
  rw [advance]
  split <;> rename_i h <;> simp only [h]

def call (chunks : Chunks) : Option String × Chunks :=
  let (answer, stack) := advance chunks.stack
  (answer, ⟨stack⟩)

/-- The next chunk with the cursor behind it, unless there is none. -/
def next (chunks : Chunks) : Option (String × Chunks) :=
  let (answer, later) := chunks.call
  answer.map fun chunk => (chunk, later)

def after (chunks : Chunks) : Nat → Chunks
  | 0 => chunks
  | calls + 1 => (chunks.after calls).call.2

end Chunks

def Frame.pending : Frame → List String
  | ⟨e, .opening⟩ => e.pieces
  | ⟨e, .inTag index⟩ => (e.attributes.entries.drop index).map Attribute.html ++ e.rest
  | ⟨e, .inBody index⟩ =>
    ((e.content.getD []).drop index).flatMap (Item.pieces e.isRawText) ++ ["</" ++ e.name ++ ">"]
  | ⟨_, .closed⟩ => []

/-- What is to come of the elements that are open. -/
def Chunks.pendingOf (stack : List Frame) : List String := stack.flatMap Frame.pending

/-- The chunk of a turn, if it has one, before what is to come after it. -/
def Turn.pending : Turn → List String
  | .ended => []
  | .found chunk stack => chunk :: Chunks.pendingOf stack
  | .moved stack => Chunks.pendingOf stack

namespace Chunks

/-- The chunks that are still to come. -/
def pending (chunks : Chunks) : List String := pendingOf chunks.stack

@[simp] theorem pendingOf_nil : pendingOf [] = [] := rfl

@[simp] theorem pendingOf_cons (frame : Frame) (stack : List Frame) :
    pendingOf (frame :: stack) = frame.pending ++ pendingOf stack := List.flatMap_cons ..

theorem pending_turnTag (e : Element) (index : Nat) (stack : List Frame) :
    (turnTag e index stack).pending = pendingOf (⟨e, .inTag index⟩ :: stack) := by
  unfold turnTag Attributes.at?
  cases ha : e.attributes.entries[index]? with
  | some a =>
    obtain ⟨hlt, hget⟩ := List.getElem?_eq_some_iff.1 ha
    have hd := List.drop_eq_getElem_cons hlt
    rw [hget] at hd
    simp [Turn.pending, Frame.pending, hd]
  | none =>
    have hd : e.attributes.entries.drop index = [] :=
      List.drop_eq_nil_of_le (List.getElem?_eq_none_iff.1 ha)
    by_cases hv : e.isVoid
    · simp [Turn.pending, Frame.pending, Element.rest, hv, hd]
    · cases hc : e.content <;> simp [Turn.pending, Frame.pending, Element.rest, hv, hd, hc]

theorem pending_turnBody (e : Element) (index : Nat) (stack : List Frame) :
    (turnBody e index stack).pending = pendingOf (⟨e, .inBody index⟩ :: stack) := by
  unfold turnBody
  cases hi : (e.content.getD [])[index]? with
  | none =>
    have hd : (e.content.getD []).drop index = [] :=
      List.drop_eq_nil_of_le (List.getElem?_eq_none_iff.1 hi)
    simp [Turn.pending, Frame.pending, hd]
  | some item =>
    obtain ⟨hlt, hget⟩ := List.getElem?_eq_some_iff.1 hi
    have hd := List.drop_eq_getElem_cons hlt
    rw [hget] at hd
    cases item <;> simp [Turn.pending, Frame.pending, hd, Item.pieces]

theorem pending_turn (stack : List Frame) : (turn stack).pending = pendingOf stack := by
  rcases stack with _ | ⟨⟨e, step⟩, stack⟩
  · rfl
  · cases step with
    | opening => simp [turn, Turn.pending, Frame.pending, Element.pieces_eq]
    | inTag index => exact pending_turnTag e index stack
    | inBody index => exact pending_turnBody e index stack
    | closed => simp [turn, Turn.pending, Frame.pending]

theorem pendingOf_advance (stack : List Frame) :
    (advance stack).1 = (pendingOf stack).head? ∧
      pendingOf (advance stack).2 = (pendingOf stack).tail := by
  fun_induction advance stack with
  | case1 stack h => simp [← pending_turn, h, Turn.pending]
  | case2 stack chunk later h => simp [← pending_turn stack, h, Turn.pending]
  | case3 stack later h ih => rwa [← pending_turn stack, h]

@[simp] theorem call_answer (chunks : Chunks) : chunks.call.1 = chunks.pending.head? :=
  (pendingOf_advance chunks.stack).1

@[simp] theorem pending_call (chunks : Chunks) : chunks.call.2.pending = chunks.pending.tail :=
  (pendingOf_advance chunks.stack).2

theorem pending_eq_nil_of_next {chunks : Chunks} (h : chunks.next = none) :
    chunks.pending = [] := by
  simpa [next] using h

theorem pending_eq_cons_of_next {chunks later : Chunks} {chunk : String}
    (h : chunks.next = some (chunk, later)) : chunks.pending = chunk :: later.pending := by
  simp only [next, call_answer, Option.map_eq_some_iff, Prod.mk.injEq] at h
  obtain ⟨answer, hanswer, rfl, rfl⟩ := h
  obtain ⟨rest, hrest⟩ := List.head?_eq_some_iff.1 hanswer
  rw [pending_call, hrest, List.tail_cons]

theorem pending_start (e : Element) : (start e).pending = e.pieces := by
  simp [start, pending, Frame.pending]

def toList (chunks : Chunks) : List String :=
  match _h : chunks.next with
  | some (chunk, later) => chunk :: later.toList
  | none => []
termination_by chunks.pending.length
decreasing_by simp [pending_eq_cons_of_next _h]

theorem toList_eq_pending (chunks : Chunks) : chunks.toList = chunks.pending := by
  fun_induction toList chunks with
  | case1 chunks chunk later h ih => rw [ih, pending_eq_cons_of_next h]
  | case2 chunks h => rw [pending_eq_nil_of_next h]

end Chunks

def Element.chunks (e : Element) : List String := (Chunks.start e).toList

theorem Element.chunks_eq_pieces (e : Element) : e.chunks = e.pieces := by
  rw [chunks, Chunks.toList_eq_pending, Chunks.pending_start]

def Element.html (e : Element) : String := String.join e.chunks

def Document.html (d : Document) : String := String.join (d.children.flatMap Element.chunks)

end MarkupTree
