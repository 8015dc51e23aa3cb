import MarkupTree.Render

/-! A rendering hands its text out from left to right and to its end. What a step answers and what is
still to be handed out make up what was to be handed out before the step, so all strings together make
up the text, and after them there is nothing. -/
namespace MarkupTree
namespace Render

def remaining (render : Render) : String :=
  if render.finished then "" else render.buffer ++ String.join render.pending

/-- No more strings than these are still to be handed out. -/
def budget (render : Render) : Nat := if render.finished then 0 else render.pending.length + 1

theorem remaining_of_finished {render : Render} (h : render.finished) : render.remaining = "" := by
  rw [remaining, if_pos h]

theorem remaining_of_running {render : Render} (h : render.finished = false) :
    render.remaining = render.buffer ++ String.join render.pending := by
  simp [remaining, h]

theorem budget_of_finished {render : Render} (h : render.finished) : render.budget = 0 := by
  rw [budget, if_pos h]

theorem budget_of_running {render : Render} (h : render.finished = false) :
    render.budget = render.pending.length + 1 := by
  simp [budget, h]

theorem remaining_withBuffer {render : Render} (h : render.finished = false) (text : String) :
    remaining { render with buffer := text } = text ++ String.join render.pending :=
  remaining_of_running h

theorem budget_withBuffer {render : Render} (h : render.finished = false) (text : String) :
    budget { render with buffer := text } = render.pending.length + 1 :=
  budget_of_running h

theorem eq_of_pull {render later : Render} {chunk : String}
    (h : render.pull = some (chunk, later)) :
    later.buffer = render.buffer ∧ later.chunkSize = render.chunkSize ∧
      later.finished = render.finished := by
  simp only [pull, Option.map_eq_some_iff, Prod.mk.injEq] at h
  obtain ⟨⟨piece, current, elements⟩, -, -, rfl⟩ := h
  exact ⟨rfl, rfl, rfl⟩

/-- What a step does: the string that it hands out comes next in the text, and it hands out nothing
only when all of the text has been handed out. -/
structure Advances (render : Render) (answer : Option String) (later : Render) : Prop where
  remaining_eq : render.remaining = answer.getD "" ++ later.remaining
  budget_lt : answer.isSome → later.budget < render.budget
  finished_of_none : answer = none → later.finished
  chunkSize_eq : later.chunkSize = render.chunkSize

theorem advances_of_finished {render : Render} (h : render.finished) :
    Advances render none render where
  remaining_eq := String.empty_append.symm
  budget_lt := nofun
  finished_of_none _ := h
  chunkSize_eq := rfl

theorem advances_finish {render : Render} (h : render.finished = false)
    (hp : render.pending = []) :
    Advances render render.finish.value.1 render.finish.value.2 := by
  have hr := remaining_of_running h
  have hb := budget_of_running h
  rw [hp] at hr hb
  unfold finish
  by_cases he : render.chunkSize.isSome && render.buffer.isEmpty
  · have hempty : render.buffer = "" := by simp_all [String.isEmpty_iff]
    simp only [he, if_true, Logged.value_pure]
    refine ⟨?_, nofun, fun _ => rfl, rfl⟩
    rw [hr, hempty, remaining_of_finished rfl]
    rfl
  · simp only [he, Bool.false_eq_true, if_false, flush, Logged.value_bind, Logged.value_pure]
    refine ⟨?_, fun _ => ?_, nofun, rfl⟩
    · rw [hr, remaining_of_finished rfl]
      rfl
    · rw [hb, budget_of_finished rfl]
      exact Nat.succ_pos _

/-- A step of a rendering whose buffer has taken in the chunk that was pulled first. -/
theorem Advances.of_pull {render later last : Render} {chunk : String} {answer : Option String}
    (h : render.finished = false) (hp : render.pull = some (chunk, later))
    (ha : Advances { later with buffer := later.buffer ++ chunk } answer last) :
    Advances render answer last := by
  obtain ⟨hbuffer, hsize, hfinished⟩ := eq_of_pull hp
  have hpending := pending_eq_cons_of_pull hp
  have hl : later.finished = false := hfinished.trans h
  have hremaining := ha.remaining_eq
  have hbudget := ha.budget_lt
  rw [remaining_withBuffer hl] at hremaining
  rw [budget_withBuffer hl] at hbudget
  refine ⟨?_, fun hs => ?_, ha.finished_of_none, ha.chunkSize_eq.trans hsize⟩
  · rw [← hremaining, remaining_of_running h, hpending, String.join_cons, ← String.append_assoc,
      hbuffer]
  · have hlt := hbudget hs
    rw [budget_of_running h, hpending, List.length_cons]
    exact Nat.lt_succ_of_lt hlt

theorem advances_gather (render : Render) (h : render.finished = false) :
    Advances render render.gather.value.1 render.gather.value.2 := by
  fun_induction gather render with
  | case1 render hp => exact advances_finish h (pending_eq_nil_of_pull hp)
  | case2 render chunk later hp ho =>
    obtain ⟨hbuffer, hsize, hfinished⟩ := eq_of_pull hp
    have hpending := pending_eq_cons_of_pull hp
    have hl : later.finished = false := hfinished.trans h
    simp only [flush, Logged.value_bind, Logged.value_pure]
    refine ⟨?_, fun _ => ?_, nofun, hsize⟩
    · rw [remaining_of_running h, hpending, String.join_cons, ← hbuffer, remaining_withBuffer hl]
      rfl
    · rw [budget_of_running h, hpending, budget_withBuffer hl, List.length_cons]
      exact Nat.lt_succ_self _
  | case3 render chunk later hp ho ih => exact (ih ((eq_of_pull hp).2.2.trans h)).of_pull h hp

theorem advances_next (render : Render) :
    Advances render render.next.value.1 render.next.value.2 := by
  unfold next
  by_cases h : render.finished
  · rw [if_pos h]
    exact advances_of_finished h
  · rw [if_neg h]
    exact advances_gather render (by simpa using h)

/-- The rendering hands out these strings, step by step, and then nothing. -/
inductive HandsOut : Render → List String → Prop where
  | ended {render : Render} (answer : render.next.value.1 = none) : HandsOut render []
  | handed {render : Render} {text : String} {texts : List String}
      (answer : render.next.value.1 = some text) (rest : HandsOut render.next.value.2 texts) :
      HandsOut render (text :: texts)

theorem exists_handsOut (render : Render) :
    ∃ texts, HandsOut render texts ∧ texts.length ≤ render.budget := by
  induction hb : render.budget using Nat.strongRecOn generalizing render with
  | _ budget ih =>
    subst hb
    have ha := advances_next render
    cases hn : render.next.value.1 with
    | none => exact ⟨[], .ended hn, Nat.zero_le _⟩
    | some text =>
      have hlt := ha.budget_lt (by rw [hn]; rfl)
      obtain ⟨texts, ht, hl⟩ := ih _ hlt _ rfl
      exact ⟨text :: texts, .handed hn ht, Nat.succ_le_of_lt (Nat.lt_of_le_of_lt hl hlt)⟩

theorem nextTimes_eq_of_finished {render : Render} (h : render.finished) (times : Nat) :
    render.nextTimes times = pure (List.replicate times none, render) := by
  have hn : render.next = pure (none, render) := if_pos h
  induction times with
  | zero => rfl
  | succ times ih =>
    rw [nextTimes, hn, pure_bind]
    dsimp only
    rw [ih]
    rfl

theorem next_of_finished {render : Render} (h : render.finished) :
    render.next.value = (none, render) := by
  rw [next, if_pos h]
  rfl

theorem value_nextTimes_succ (render : Render) (times : Nat) :
    (render.nextTimes (times + 1)).value.1 =
      render.next.value.1 :: (render.next.value.2.nextTimes times).value.1 := rfl

namespace HandsOut

variable {render : Render} {texts : List String}

theorem join_eq (h : HandsOut render texts) : String.join texts = render.remaining := by
  induction h with
  | @ended render hn =>
    have ha := advances_next render
    rw [ha.remaining_eq, remaining_of_finished (ha.finished_of_none hn), hn]
    rfl
  | @handed render text texts hn _ ih =>
    rw [(advances_next render).remaining_eq, hn, String.join_cons, ih]
    rfl

/-- However often the rendering is asked, it answers these strings and then nothing. -/
theorem nextTimes_eq (h : HandsOut render texts) (more : Nat) :
    (render.nextTimes (texts.length + more)).value.1 =
      texts.map some ++ List.replicate more none := by
  induction h with
  | @ended render hn =>
    have hf := (advances_next render).finished_of_none hn
    cases more with
    | zero => rfl
    | succ more =>
      rw [List.length_nil, Nat.zero_add, value_nextTimes_succ, hn, nextTimes_eq_of_finished hf,
        Logged.value_pure, List.replicate_succ]
      rfl
  | @handed render text texts hn _ ih =>
    rw [List.length_cons, Nat.add_right_comm, value_nextTimes_succ, hn, ih]
    rfl

theorem take_eq (h : HandsOut render texts) {times : Nat} (ht : texts.length ≤ times) :
    (render.take times).value = texts := by
  induction h generalizing times with
  | @ended render hn =>
    cases times with
    | zero => rfl
    | succ times =>
      obtain ⟨later, hl⟩ : ∃ later, render.next.value = (none, later) := ⟨_, Prod.ext hn rfl⟩
      simp only [take, Logged.value_bind, hl, Logged.value_pure]
  | @handed render text texts hn _ ih =>
    cases times with
    | zero => cases ht
    | succ times =>
      have hl : render.next.value = (some text, render.next.value.2) := Prod.ext hn rfl
      rw [take, Logged.value_bind, hl]
      simp only [Logged.value_bind, Logged.value_pure, ih (Nat.le_of_succ_le_succ ht)]

theorem eq_nil_of_finished (h : HandsOut render texts) (hf : render.finished) : texts = [] := by
  cases h with
  | ended hn => rfl
  | handed hn _ =>
    rw [next_of_finished hf] at hn
    cases hn

end HandsOut

section Unbounded

variable {render : Render}

/-- Without a chunk size a step goes on to the end of the text. -/
theorem gather_of_unbounded (h : render.chunkSize = none) :
    render.gather.value.1 = some (render.buffer ++ String.join render.pending) ∧
      render.gather.value.2.finished := by
  fun_induction gather render with
  | case1 render hp =>
    have hb : render.buffer ++ String.join render.pending = render.buffer := by
      rw [pending_eq_nil_of_pull hp, String.join_nil, String.append_empty]
    rw [hb, finish, if_neg (by simp [h])]
    exact ⟨rfl, rfl⟩
  | case2 render chunk later hp ho =>
    have hn : later.chunkSize = none := (eq_of_pull hp).2.1.trans h
    simp [overflows, hn] at ho
  | case3 render chunk later hp ho ih =>
    obtain ⟨hbuffer, hsize, -⟩ := eq_of_pull hp
    have ha : render.buffer ++ String.join render.pending =
        later.buffer ++ chunk ++ String.join later.pending := by
      rw [pending_eq_cons_of_pull hp, String.join_cons, hbuffer, String.append_assoc]
    rw [ha]
    exact ih (hsize.trans h)

theorem HandsOut.eq_singleton_of_unbounded {texts : List String} (h : HandsOut render texts)
    (hr : render.finished = false) (hn : render.chunkSize = none) :
    texts = [render.remaining] := by
  obtain ⟨hanswer, hfinished⟩ := gather_of_unbounded hn
  have hg : render.next = render.gather := by simp [next, hr]
  rw [← remaining_of_running hr, ← hg] at hanswer
  rw [← hg] at hfinished
  cases h with
  | ended he =>
    rw [he] at hanswer
    cases hanswer
  | handed he rest =>
    rw [he] at hanswer
    rw [rest.eq_nil_of_finished hfinished, Option.some.inj hanswer]

end Unbounded

section Start

def fresh (elements : List Element) (chunkSize : Option Nat) : Render :=
  ⟨elements, none, "", chunkSize, false⟩

variable {elements : List Element} {options : RenderOptions}

theorem pending_fresh (elements : List Element) (chunkSize : Option Nat) :
    (fresh elements chunkSize).pending = elements.flatMap Element.chunks := by
  rw [funext Element.chunks_eq_pieces]
  rfl

theorem remaining_fresh (elements : List Element) (chunkSize : Option Nat) :
    (fresh elements chunkSize).remaining = Document.html ⟨elements⟩ := by
  rw [remaining_of_running rfl, pending_fresh]
  exact String.empty_append

theorem result_start (h : options.chunkSize ≠ some 0) (atLeast : Nat) :
    (start elements atLeast options).result = .ok (fresh elements options.chunkSize) := by
  simp [start, RenderOptions.validate, h, Except.bind, Except.map, fresh]

theorem result_renderAll (h : options.chunkSize ≠ some 0) :
    (renderAll elements options).result = .ok (fresh elements options.chunkSize).toList.value := by
  simp [renderAll, result_start h, Except.bind]

theorem HandsOut.toList_eq {render : Render} {texts : List String} (h : HandsOut render texts)
    (hr : render.finished = false) (hl : texts.length ≤ render.budget) :
    render.toList.value = texts :=
  h.take_eq (by rwa [← budget_of_running hr])

end Start

end Render
end MarkupTree
