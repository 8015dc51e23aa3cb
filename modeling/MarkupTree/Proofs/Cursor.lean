import MarkupTree.Chunks

/-! The cursor refines the recursive writing of a tree: whatever it has been asked for before, a call
answers the piece of its number, and it does so within a number of turns that is known beforehand. -/
namespace MarkupTree.Chunks

def within : Nat → List Frame → Option (Option String × List Frame)
  | 0, _ => none
  | turns + 1, stack =>
    match turn stack with
    | .ended => some (none, stack)
    | .found chunk later => some (some chunk, later)
    | .moved later => within turns later

theorem within_of_slack_lt {turns : Nat} {stack : List Frame} (h : slack stack < turns) :
    within turns stack = some (advance stack) := by
  induction turns generalizing stack with
  | zero => exact absurd h (Nat.not_lt_zero _)
  | succ turns ih =>
    rw [within, advance_eq]
    cases ht : turn stack with
    | ended => rfl
    | found chunk later => rfl
    | moved later =>
      have hl := slack_lt_of_turn ht
      exact ih (by omega)

theorem slack_le_length (stack : List Frame) : slack stack ≤ stack.length := by
  induction stack with
  | nil => exact Nat.le_refl 0
  | cons frame stack ih =>
    obtain ⟨e, step⟩ := frame
    cases step <;> simp [slack, ih]

@[simp] theorem pending_after (chunks : Chunks) (calls : Nat) :
    (chunks.after calls).pending = chunks.pending.drop calls := by
  induction calls with
  | zero => rfl
  | succ calls ih => rw [after, pending_call, ih, List.tail_drop]

/-- The call of any number answers the piece of that number, or nothing behind the last piece. It
takes at most one turn more than elements are open before it. -/
theorem call_after_start (e : Element) (calls : Nat) :
    ((start e).after calls).call.1 = e.pieces[calls]? ∧
      ∃ turns ≤ ((start e).after calls).stack.length + 1,
        within turns ((start e).after calls).stack =
          some (advance ((start e).after calls).stack) := by
  constructor
  · rw [call_answer, pending_after, pending_start, List.head?_drop]
  · have hs := slack_le_length ((start e).after calls).stack
    exact ⟨_, Nat.le_refl _, within_of_slack_lt (by omega)⟩

end MarkupTree.Chunks
