import Mathlib.Algebra.GroupWithZero.Nat
import MarkupTree.Proofs.Gathering
import MarkupTree.Proofs.Serialization

/-! What a rendering reports. Its beginning is reported once, and then every string that it hands out,
with its length, and nothing besides: a call that answers nothing reports nothing. So the lengths that are
reported until the end add up to the length of the markup. -/
namespace MarkupTree

def Event.flushed? : Event → Option Nat
  | .flushingBuffer length => some length
  | _ => none

def flushings (texts : List String) : List Event :=
  texts.map fun text => .flushingBuffer text.utf8ByteSize

@[simp] theorem flushings_nil : flushings [] = [] := rfl

@[simp] theorem flushings_cons (text : String) (texts : List String) :
    flushings (text :: texts) = .flushingBuffer text.utf8ByteSize :: flushings texts := rfl

theorem flushings_append (texts more : List String) :
    flushings (texts ++ more) = flushings texts ++ flushings more := List.map_append

theorem sum_flushed_flushings (texts : List String) :
    ((flushings texts).filterMap Event.flushed?).sum = (String.join texts).utf8ByteSize := by
  induction texts with
  | nil => rfl
  | cons text texts ih =>
    have hf : (Event.flushingBuffer text.utf8ByteSize).flushed? = some text.utf8ByteSize := rfl
    rw [flushings_cons, List.filterMap_cons_some hf, List.sum_cons, ih, String.join_cons,
      String.utf8ByteSize_append]

namespace Render

section Steps

variable (render : Render)

theorem events_finish : render.finish.events = flushings render.finish.value.1.toList := by
  unfold finish
  by_cases h : render.chunkSize.isSome && render.buffer.isEmpty
  · rw [if_pos h]
    rfl
  · rw [if_neg h]
    rfl

theorem events_gather : render.gather.events = flushings render.gather.value.1.toList := by
  fun_induction gather render with
  | case1 render hp => exact render.events_finish
  | case2 render chunk later hp ho => rfl
  | case3 render chunk later hp ho ih => exact ih

theorem events_next : render.next.events = flushings render.next.value.1.toList := by
  unfold next
  by_cases h : render.finished
  · rw [if_pos h]
    rfl
  · rw [if_neg h]
    exact render.events_gather

end Steps

section Runs

variable {elements : List Element} {options : RenderOptions} {atLeast : Nat}

theorem events_nextTimes (render : Render) (calls : Nat) :
    (render.nextTimes calls).events = flushings (render.answered calls) := by
  induction calls generalizing render with
  | zero => rfl
  | succ calls ih =>
    rw [answered_succ, flushings_append, ← events_next, ← ih]
    simp [nextTimes]

theorem length_nextTimes (render : Render) (calls : Nat) :
    (render.nextTimes calls).value.1.length = calls := by
  induction calls generalizing render with
  | zero => rfl
  | succ calls ih => rw [value_nextTimes_succ, List.length_cons, ih]

theorem events_take (render : Render) (times : Nat) :
    (render.take times).events = flushings (render.take times).value := by
  induction times generalizing render with
  | zero => rfl
  | succ times ih =>
    have he := render.events_next
    rw [take, Logged.events_bind, Logged.value_bind, he]
    obtain ⟨answer, later⟩ := render.next.value
    cases answer with
    | none => rfl
    | some text => simp [ih]

theorem start_of_zero (h : options.chunkSize = some 0) :
    start elements atLeast options = throw (.invalidBufferSize 0) := by
  simp [start, RenderOptions.validate, h, Build.ofExcept]
  rfl

theorem events_start (h : options.chunkSize ≠ some 0) :
    (start elements atLeast options).events = [.startingRender options.chunkSize atLeast] := by
  simp [start, RenderOptions.validate, h, Build.events_bind]

/-- A rendering that is begun and then called so many times: the answers, and the rendering afterwards. -/
def session (elements : List Element) (atLeast : Nat) (options : RenderOptions) (calls : Nat) :
    Build (List (Option String) × Render) := do
  let render ← start elements atLeast options
  ExceptT.lift (render.nextTimes calls)

theorem session_of_zero (h : options.chunkSize = some 0) (calls : Nat) :
    session elements atLeast options calls = throw (.invalidBufferSize 0) := by
  rw [session, start_of_zero h]
  rfl

theorem result_session (h : options.chunkSize ≠ some 0) (calls : Nat) :
    (session elements atLeast options calls).result =
      .ok ((fresh elements options.chunkSize).nextTimes calls).value := by
  rw [session, Build.result_bind, result_start h]
  rfl

theorem events_session (h : options.chunkSize ≠ some 0) (calls : Nat) :
    (session elements atLeast options calls).events =
      .startingRender options.chunkSize atLeast ::
        flushings ((fresh elements options.chunkSize).answered calls) := by
  rw [session, Build.events_bind, events_start h, result_start h]
  simp [events_nextTimes]

theorem events_renderAll (h : options.chunkSize ≠ some 0) :
    (renderAll elements options).events =
      .startingRender options.chunkSize elements.length ::
        flushings (fresh elements options.chunkSize).toList.value := by
  rw [renderAll, Build.events_bind, events_start h, result_start h]
  simp [toList, events_take]

end Runs

section Ends

theorem finished_after {render : Render} (h : render.finished) (calls : Nat) :
    (render.after calls).finished := by
  rw [after, nextTimes_eq_of_finished h]
  exact h

/-- An answer that is nothing comes from the end, and a rendering does not leave its end. -/
theorem finished_of_none_mem {render : Render} {calls : Nat}
    (h : none ∈ (render.nextTimes calls).value.1) : (render.after calls).finished := by
  induction calls generalizing render with
  | zero => cases h
  | succ calls ih =>
    rw [value_nextTimes_succ, List.mem_cons] at h
    rw [after_succ]
    rcases h with hn | hlater
    · exact finished_after ((advances_next render).finished_of_none hn.symm) calls
    · exact ih hlater

theorem join_answered_of_finished {elements : List Element} {chunkSize : Option Nat} {calls : Nat}
    (h : ((fresh elements chunkSize).after calls).finished) :
    String.join ((fresh elements chunkSize).answered calls) = Document.html ⟨elements⟩ := by
  have hempty : (fresh elements chunkSize).EndsEmpty := nofun
  obtain ⟨hbuffer, hcome⟩ := hempty.after calls h
  obtain ⟨pulled, hp, hjoin⟩ := pulls_after (fresh elements chunkSize) calls
  have hpulled : elements.flatMap Element.chunks = pulled := by
    rw [← pending_fresh elements chunkSize, ← toCome_place, hp.toCome_eq, hcome, List.append_nil]
  rw [Document.html, hpulled, ← String.append_empty (s := String.join (answered _ calls)), ← hbuffer,
    ← hjoin]
  exact String.empty_append

end Ends

/-- All that a rendering reports, after any number of calls. A size of zero is refused and nothing is
reported. Otherwise there is one report of the beginning, and then one of every string so far, in
their order and each with its length in bytes; a call that answers nothing adds nothing. Once the end
has been reached the lengths add up to the length of the markup, and so they do where the strings are
asked for all at once. -/
theorem reports_every_string (elements : List Element) (options : RenderOptions) :
    (options.chunkSize = some 0 → ∀ atLeast calls,
      (session elements atLeast options calls).result = .error (.invalidBufferSize 0) ∧
      (session elements atLeast options calls).events = []) ∧
    (options.chunkSize ≠ some 0 → ∀ atLeast calls, ∃ answers later,
      (session elements atLeast options calls).result = .ok (answers, later) ∧
      answers.length = calls ∧
      (session elements atLeast options calls).events =
        .startingRender options.chunkSize atLeast :: flushings (answers.filterMap id) ∧
      later.next.events = flushings later.next.value.1.toList ∧
      (none ∈ answers ∨ later.finished →
        ((session elements atLeast options calls).events.filterMap Event.flushed?).sum =
          (Document.html ⟨elements⟩).utf8ByteSize)) ∧
    (options.chunkSize ≠ some 0 → ∃ texts,
      (renderAll elements options).result = .ok texts ∧
      (renderAll elements options).events =
        .startingRender options.chunkSize elements.length :: flushings texts ∧
      ((renderAll elements options).events.filterMap Event.flushed?).sum =
        (Document.html ⟨elements⟩).utf8ByteSize) := by
  refine ⟨fun h atLeast calls => ?_, fun h atLeast calls => ?_, fun h => ?_⟩
  · rw [session_of_zero h]
    exact ⟨rfl, rfl⟩
  · refine ⟨_, _, result_session h calls, ?_, events_session h calls, events_next _, fun hend => ?_⟩
    · exact length_nextTimes _ calls
    · have hfinished : ((fresh elements options.chunkSize).after calls).finished :=
        hend.elim finished_of_none_mem id
      rw [events_session h calls, List.filterMap_cons_none rfl, sum_flushed_flushings,
        join_answered_of_finished hfinished]
  · obtain ⟨texts, hr, -, hjoin, -⟩ := Document.exists_rendered ⟨elements⟩ h
    have htexts : (fresh elements options.chunkSize).toList.value = texts :=
      Except.ok.inj ((result_renderAll h).symm.trans hr)
    have hevents : (renderAll elements options).events =
        .startingRender options.chunkSize elements.length :: flushings texts := by
      rw [events_renderAll h, htexts]
    refine ⟨texts, hr, hevents, ?_⟩
    rw [hevents, List.filterMap_cons_none rfl, sum_flushed_flushings, hjoin]

/-- Text in a paragraph, refused in strings of no bytes, and asked for in strings of four bytes until
nothing is answered. -/
theorem reports_of_short_strings :
    (some 0 : Option Nat) = some 0 ∧
    (session [⟨"p", Attributes.empty, some [.text "<"]⟩] 1 ⟨some 0⟩ 2).events = [] ∧
    (some 4 : Option Nat) ≠ some 0 ∧
    ∃ answers later,
      (session [⟨"p", Attributes.empty, some [.text "<"]⟩] 1 ⟨some 4⟩ 4).result =
        .ok (answers, later) ∧
      none ∈ answers ∧
      (session [⟨"p", Attributes.empty, some [.text "<"]⟩] 1 ⟨some 4⟩ 4).events =
        [.startingRender (some 4) 1, .flushingBuffer 3, .flushingBuffer 4, .flushingBuffer 4] ∧
      ((session [⟨"p", Attributes.empty, some [.text "<"]⟩] 1 ⟨some 4⟩ 4).events.filterMap
        Event.flushed?).sum = 11 := by
  have hs : (some 4 : Option Nat) ≠ some 0 := by decide
  obtain ⟨hzero, -, -⟩ :=
    reports_every_string [⟨"p", Attributes.empty, some [.text "<"]⟩] ⟨some 0⟩
  obtain ⟨-, hsized, -⟩ :=
    reports_every_string [⟨"p", Attributes.empty, some [.text "<"]⟩] ⟨some 4⟩
  obtain ⟨answers, later, hr, -, hevents, -, hsum⟩ := hsized hs 1 4
  have hanswers : ((fresh [⟨"p", Attributes.empty, some [.text "<"]⟩] (some 4)).nextTimes 4).value.1 =
      [some "<p>", some "&lt;", some "</p>", none] := by decide +kernel
  obtain rfl : [some "<p>", some "&lt;", some "</p>", none] = answers := by
    rw [result_session hs] at hr
    rw [← hanswers]
    exact congrArg Prod.fst (Except.ok.inj hr)
  have hnone : none ∈ [some "<p>", some "&lt;", some "</p>", none] := by decide
  have hhtml : (Document.html ⟨[⟨"p", Attributes.empty, some [.text "<"]⟩]⟩).utf8ByteSize = 11 := by
    decide +kernel
  exact ⟨rfl, (hzero rfl 1 2).2, hs, _, later, hr, hnone, hevents, (hsum (.inl hnone)).trans hhtml⟩

end Render
end MarkupTree
