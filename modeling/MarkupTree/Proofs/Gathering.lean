import MarkupTree.Proofs.Rendering

/-! A rendering can be left at any time. What it has answered and what its buffer holds is made up
of the chunks that were pulled, and these and the chunks that are still to come are all there are.
Once the end has been reached, nothing is asked of the elements any more. -/
namespace MarkupTree
namespace Render

section Places

/-- A place among the chunks: what is left of the element that was begun last, and the elements
behind it. -/
abbrev Place := Option Chunks × List Element

def place (render : Render) : Place := (render.current, render.elements)

def Place.toCome (place : Place) : List String :=
  (place.1.map Chunks.toList).getD [] ++ place.2.flatMap Element.chunks

/-- From one place to another by pulling these chunks one after the other. Where there is none left,
the element that was begun last is done with. -/
inductive Pulls : Place → List String → Place → Prop where
  | here (place : Place) : Pulls place [] place
  | more {current : Option Chunks} {elements : List Element} {chunk : String} {place last : Place}
    {chunks : List String} (pulled : pullFrom current elements = some (chunk, place))
    (rest : Pulls place chunks last) : Pulls (current, elements) (chunk :: chunks) last
  | ended {current : Option Chunks} {elements : List Element} {last : Place} {chunks : List String}
    (nothing : pullFrom current elements = none) (rest : Pulls (none, elements) chunks last) :
    Pulls (current, elements) chunks last

theorem Place.toCome_eq (place : Place) : place.toCome =
    (place.1.map Chunks.pending).getD [] ++ place.2.flatMap Element.pieces := by
  rw [toCome, funext Element.chunks_eq_pieces, funext Chunks.toList_eq_pending]

theorem toCome_place (render : Render) : render.place.toCome = render.pending :=
  render.place.toCome_eq

theorem pullFrom_of_pull {render later : Render} {chunk : String}
    (h : render.pull = some (chunk, later)) :
    pullFrom render.current render.elements = some (chunk, later.place) := by
  simp only [pull, Option.map_eq_some_iff, Prod.mk.injEq] at h
  obtain ⟨⟨piece, current, elements⟩, hf, rfl, rfl⟩ := h
  exact hf

theorem pullFrom_of_pull_eq_none {render : Render} (h : render.pull = none) :
    pullFrom render.current render.elements = none := by
  simpa [pull] using h

namespace Pulls

variable {first middle last : Place} {chunks others : List String}

theorem trans (h : Pulls first chunks middle) (ho : Pulls middle others last) :
    Pulls first (chunks ++ others) last := by
  induction h with
  | here place => exact ho
  | more pulled _ ih => exact .more pulled (ih ho)
  | ended nothing _ ih => exact .ended nothing (ih ho)

theorem toCome_eq (h : Pulls first chunks last) : first.toCome = chunks ++ last.toCome := by
  induction h with
  | here place => rfl
  | @more current elements chunk place last chunks pulled _ ih =>
    have hp := pending_of_pullFrom current elements
    rw [pulled] at hp
    rw [Place.toCome_eq, List.cons_append, ← ih, Place.toCome_eq place]
    exact hp.symm
  | @ended current elements last chunks nothing _ ih =>
    have hp := pending_of_pullFrom current elements
    rw [nothing] at hp
    have helements : elements.flatMap Element.pieces = [] := (List.append_eq_nil_iff.1 hp.symm).2
    rw [Place.toCome_eq, ← ih, Place.toCome_eq, ← hp, helements]
    rfl

end Pulls

end Places

section Gathering

/-- Going on from one state to another by taking these chunks into the buffer in turn. -/
inductive Gathers : Render → List String → Render → Prop where
  | nothing (render : Render) : Gathers render [] render
  | more {render later last : Render} {chunk : String} {chunks : List String}
    (pulled : render.pull = some (chunk, later)) (fits : later.overflows chunk = false)
    (rest : Gathers { later with buffer := later.buffer ++ chunk } chunks last) :
    Gathers render (chunk :: chunks) last

/-- What a call under way comes to. It takes chunks into the buffer up to one that does not fit,
which is what the buffer holds then, or up to the end. -/
inductive ComesTo (render : Render) : Option String × Render → Prop where
  | full {last later : Render} {chunk : String} {chunks : List String}
    (gathers : Gathers render chunks last) (pulled : last.pull = some (chunk, later))
    (large : later.overflows chunk) :
    ComesTo render (some later.buffer, { later with buffer := chunk })
  | ended {last : Render} {chunks : List String} (gathers : Gathers render chunks last)
    (nothing : last.pull = none) : ComesTo render last.finish.value

theorem comesTo_gather (render : Render) : ComesTo render render.gather.value := by
  fun_induction gather render with
  | case1 render hp => exact .ended (.nothing render) hp
  | case2 render chunk later hp ho => exact .full (.nothing render) hp ho
  | case3 render chunk later hp ho ih =>
    have hfits : later.overflows chunk = false := by simpa using ho
    generalize (gather { later with buffer := later.buffer ++ chunk }).value = outcome at ih ⊢
    cases ih with
    | full gathers pulled large => exact .full (.more hp hfits gathers) pulled large
    | ended gathers nothing => exact .ended (.more hp hfits gathers) nothing

theorem comesTo_next {render : Render} (h : render.finished = false) :
    ComesTo render render.next.value := by
  have hn : render.next = render.gather := by simp [next, h]
  rw [hn]
  exact comesTo_gather render

namespace Gathers

variable {render last : Render} {chunks : List String}

theorem keeps (h : Gathers render chunks last) :
    last.buffer = render.buffer ++ String.join chunks ∧ last.chunkSize = render.chunkSize ∧
      last.finished = render.finished := by
  induction h with
  | nothing render => exact ⟨String.append_empty.symm, rfl, rfl⟩
  | more pulled fits _ ih =>
    obtain ⟨hbuffer, hsize, hfinished⟩ := eq_of_pull pulled
    obtain ⟨hb, hs, hf⟩ := ih
    refine ⟨?_, hs.trans hsize, hf.trans hfinished⟩
    rw [hb, hbuffer, String.join_cons, String.append_assoc]

theorem pulls (h : Gathers render chunks last) : Pulls render.place chunks last.place := by
  induction h with
  | nothing render => exact .here render.place
  | more pulled fits _ ih => exact .more (pullFrom_of_pull pulled) ih

end Gathers

theorem overflows_iff {render : Render} {size : Nat} (h : render.chunkSize = some size)
    (chunk : String) : render.overflows chunk ↔
      render.buffer ≠ "" ∧ size < render.buffer.utf8ByteSize + chunk.utf8ByteSize := by
  simp [overflows, h]

/-- At the end the buffer is handed out, unless it is empty and the strings are bounded. Nothing
stays in it. -/
theorem finish_eq (render : Render) :
    ∃ answer, render.finish.value =
        (answer, { render with current := none, buffer := "", finished := true }) ∧
      answer.getD "" = render.buffer ∧
      (answer = none ↔ render.chunkSize.isSome ∧ render.buffer = "") := by
  unfold finish
  by_cases h : render.chunkSize.isSome && render.buffer.isEmpty
  · have hboth : render.chunkSize.isSome ∧ render.buffer = "" := by
      simpa [String.isEmpty_iff] using h
    refine ⟨none, ?_, hboth.2.symm, fun _ => hboth, fun _ => rfl⟩
    rw [if_pos h, ← hboth.2]
    rfl
  · refine ⟨some render.buffer, ?_, rfl, nofun, fun hboth => absurd ?_ h⟩
    · rw [if_neg h]
      rfl
    · simpa [String.isEmpty_iff] using hboth

end Gathering

section Calls

variable {render : Render}

/-- What a call answers, and the buffer behind it, is the buffer before it and the chunks that the
call pulled. -/
theorem pulls_next (render : Render) :
    ∃ taken, Pulls render.place taken render.next.value.2.place ∧
      render.buffer ++ String.join taken =
        render.next.value.1.getD "" ++ render.next.value.2.buffer := by
  cases h : render.finished with
  | true =>
    rw [next_of_finished h]
    refine ⟨[], .here render.place, ?_⟩
    rw [String.join_nil, String.append_empty]
    exact String.empty_append.symm
  | false =>
    have hc := comesTo_next h
    generalize render.next.value = outcome at hc ⊢
    cases hc with
    | @full last later chunk chunks gathers pulled large =>
      refine ⟨chunks ++ [chunk], gathers.pulls.trans
        (.more (pullFrom_of_pull pulled) (.here later.place)), ?_⟩
      rw [String.join_append, ← String.append_assoc, ← gathers.keeps.1, ← (eq_of_pull pulled).1]
      simp
    | @ended last chunks gathers nothing =>
      obtain ⟨answer, hf, hanswer, -⟩ := last.finish_eq
      have hend : Pulls last.place [] (none, last.elements) :=
        .ended (pullFrom_of_pull_eq_none nothing) (.here _)
      refine ⟨chunks ++ [], gathers.pulls.trans ?_, ?_⟩
      · rw [hf]
        exact hend
      · rw [hf, List.append_nil, ← gathers.keeps.1, hanswer]
        exact String.append_empty.symm

def after (render : Render) (calls : Nat) : Render := (render.nextTimes calls).value.2

def answered (render : Render) (calls : Nat) : List String :=
  (render.nextTimes calls).value.1.filterMap id

theorem after_succ (render : Render) (calls : Nat) :
    render.after (calls + 1) = render.next.value.2.after calls := rfl

theorem answered_succ (render : Render) (calls : Nat) :
    render.answered (calls + 1) =
      render.next.value.1.toList ++ render.next.value.2.answered calls := by
  rw [answered, value_nextTimes_succ]
  cases render.next.value.1 <;> simp [answered]

theorem after_add (render : Render) (calls more : Nat) :
    render.after (calls + more) = (render.after calls).after more := by
  induction calls generalizing render with
  | zero => rw [Nat.zero_add]; rfl
  | succ calls ih => rw [Nat.add_right_comm, after_succ, ih, after_succ]

theorem chunkSize_after (render : Render) (calls : Nat) :
    (render.after calls).chunkSize = render.chunkSize := by
  induction calls generalizing render with
  | zero => rfl
  | succ calls ih => rw [after_succ, ih, (advances_next render).chunkSize_eq]

/-- The strings answered so far and the buffer are made up of the chunks pulled so far. -/
theorem pulls_after (render : Render) (calls : Nat) :
    ∃ pulled, Pulls render.place pulled (render.after calls).place ∧
      render.buffer ++ String.join pulled =
        String.join (render.answered calls) ++ (render.after calls).buffer := by
  induction calls generalizing render with
  | zero =>
    refine ⟨[], .here render.place, ?_⟩
    rw [String.join_nil, String.append_empty]
    exact String.empty_append.symm
  | succ calls ih =>
    obtain ⟨taken, ht, htaken⟩ := render.pulls_next
    obtain ⟨pulled, hp, hpulled⟩ := ih render.next.value.2
    refine ⟨taken ++ pulled, ht.trans hp, ?_⟩
    have hanswer : String.join render.next.value.1.toList = render.next.value.1.getD "" := by
      cases render.next.value.1 <;> simp
    rw [String.join_append, ← String.append_assoc, htaken, String.append_assoc, hpulled,
      answered_succ, String.join_append, hanswer, after_succ, String.append_assoc]

/-- A string before the end goes out because of the chunk that was pulled last, and that chunk alone
is what the buffer holds then. -/
theorem next_before_end {text : String} {later : Render}
    (h : render.next.value = (some text, later)) (hl : later.finished = false) :
    ∃ size taken chunk, render.chunkSize = some size ∧
      Pulls render.place (taken ++ [chunk]) later.place ∧
      text = render.buffer ++ String.join taken ∧ later.buffer = chunk ∧
      size < text.utf8ByteSize + chunk.utf8ByteSize := by
  have hr : render.finished = false := by
    cases hr : render.finished with
    | false => rfl
    | true =>
      rw [next_of_finished hr] at h
      cases h
  have hc := comesTo_next hr
  rw [h] at hc
  generalize hout : (some text, later) = outcome at hc
  cases hc with
  | @full last later chunk chunks gathers pulled large =>
    cases hout
    obtain ⟨hbuffer, hsize, -⟩ := gathers.keeps
    obtain ⟨hb, hs, -⟩ := eq_of_pull pulled
    cases hchunkSize : later.chunkSize with
    | none =>
      rw [overflows, hchunkSize] at large
      cases large
    | some size =>
      refine ⟨size, chunks, chunk, ?_, ?_, hb.trans hbuffer, rfl, ?_⟩
      · rw [← hsize, ← hs, hchunkSize]
      · exact gathers.pulls.trans (.more (pullFrom_of_pull pulled) (.here _))
      · exact ((overflows_iff hchunkSize chunk).1 large).2
  | @ended last chunks gathers nothing =>
    obtain ⟨answer, hf, -⟩ := last.finish_eq
    rw [hf] at hout
    cases hout
    cases hl

/-- Where a rendering has ended, everything has been handed out. -/
def EndsEmpty (render : Render) : Prop :=
  render.finished → render.buffer = "" ∧ render.place.toCome = []

theorem EndsEmpty.next (h : render.EndsEmpty) : EndsEmpty render.next.value.2 := by
  cases hr : render.finished with
  | true =>
    rw [next_of_finished hr]
    exact h
  | false =>
    have hc := comesTo_next hr
    generalize render.next.value = outcome at hc ⊢
    cases hc with
    | @full last later chunk chunks gathers pulled large =>
      intro hf
      rw [show later.finished = false from
        (eq_of_pull pulled).2.2.trans (gathers.keeps.2.2.trans hr)] at hf
      cases hf
    | @ended last chunks gathers nothing =>
      obtain ⟨answer, hf, -⟩ := last.finish_eq
      rw [hf]
      intro _
      have hend : Pulls last.place [] (none, last.elements) :=
        .ended (pullFrom_of_pull_eq_none nothing) (.here _)
      refine ⟨rfl, ?_⟩
      rw [place, ← List.nil_append (Place.toCome _), ← hend.toCome_eq, toCome_place,
        pending_eq_nil_of_pull nothing]

theorem EndsEmpty.after (h : render.EndsEmpty) (calls : Nat) : (render.after calls).EndsEmpty := by
  induction calls generalizing render with
  | zero => exact h
  | succ calls ih => exact ih h.next

end Calls

/-- A rendering can be left after any number of calls. The strings so far and the buffer are made up
of the chunks that were pulled, and with those to come they are all chunks. A string before the end
leaves the one chunk in the buffer that would have made it too long. A call that answers nothing has
reached the end, and a call that has reached it has handed out the rest. From there on calls answer
nothing and leave the elements alone. -/
theorem stops_anywhere (elements : List Element) (options : RenderOptions)
    (h : options.chunkSize ≠ some 0) (atLeast calls : Nat) :
    ∃ render, (start elements atLeast options).result = .ok render ∧
      (∃ pulled, Pulls render.place pulled (render.after calls).place ∧
        String.join (render.answered calls) ++ (render.after calls).buffer = String.join pulled ∧
        pulled ++ (render.after calls).place.toCome = elements.flatMap Element.chunks) ∧
      (∀ text later, (render.after calls).next.value = (some text, later) →
        later.finished = false →
        ∃ size taken chunk, options.chunkSize = some size ∧
          Pulls (render.after calls).place (taken ++ [chunk]) later.place ∧
          text = (render.after calls).buffer ++ String.join taken ∧ later.buffer = chunk ∧
          size < text.utf8ByteSize + chunk.utf8ByteSize) ∧
      ∀ answer later, (render.after calls).next.value = (answer, later) →
        (answer = none → later.finished) ∧
        (later.finished →
          String.join (render.answered (calls + 1)) =
            String.join (elements.flatMap Element.chunks) ∧
          ∀ others more, nextTimes { later with elements := others } more =
            pure (List.replicate more none, { later with elements := others })) := by
  have hall : (fresh elements options.chunkSize).place.toCome =
      elements.flatMap Element.chunks := by
    rw [toCome_place, pending_fresh]
  refine ⟨fresh elements options.chunkSize, result_start h atLeast, ?_, ?_, ?_⟩
  · obtain ⟨pulled, hp, hjoin⟩ := pulls_after (fresh elements options.chunkSize) calls
    refine ⟨pulled, hp, ?_, ?_⟩
    · rw [← hjoin]
      exact String.empty_append
    · rw [← hp.toCome_eq, hall]
  · intro text later hn hl
    obtain ⟨size, taken, chunk, hs, hrest⟩ := next_before_end hn hl
    exact ⟨size, taken, chunk, (chunkSize_after _ calls).symm.trans hs, hrest⟩
  · intro answer later hn
    have hlater : later = (fresh elements options.chunkSize).after (calls + 1) := by
      rw [after_add]
      exact (congrArg Prod.snd hn).symm
    have hadvances := advances_next ((fresh elements options.chunkSize).after calls)
    rw [hn] at hadvances
    refine ⟨hadvances.finished_of_none, fun hl => ⟨?_, fun others => ?_⟩⟩
    · obtain ⟨pulled, hp, hjoin⟩ := pulls_after (fresh elements options.chunkSize) (calls + 1)
      have hempty : (fresh elements options.chunkSize).EndsEmpty := nofun
      obtain ⟨hbuffer, hcome⟩ := hempty.after (calls + 1) (hlater ▸ hl)
      have hpulled := hp.toCome_eq
      rw [hcome, List.append_nil, hall] at hpulled
      rw [hbuffer, String.append_empty] at hjoin
      rw [hpulled, ← hjoin]
      exact String.empty_append
    · exact nextTimes_eq_of_finished hl

/-- Text in a paragraph, in strings of four bytes, left after the first of them. -/
theorem stops_after_first_string :
    (some 4 : Option Nat) ≠ some 0 ∧
    ∃ render, (start [⟨"p", Attributes.empty, some [.text "<"]⟩] 1 ⟨some 4⟩).result = .ok render ∧
      render.answered 1 = ["<p>"] ∧ (render.after 1).buffer = "&lt;" ∧
      ∃ pulled, Pulls render.place pulled (render.after 1).place ∧
        "<p>&lt;" = String.join pulled ∧ pulled ++ ["</p>"] = ["<p", ">", "&lt;", "</p>"] := by
  have hs : (some 4 : Option Nat) ≠ some 0 := by decide
  obtain ⟨render, hstart, ⟨pulled, hp, hjoin, hall⟩, -⟩ :=
    stops_anywhere [⟨"p", Attributes.empty, some [.text "<"]⟩] ⟨some 4⟩ hs 1 1
  have hrender : fresh [⟨"p", Attributes.empty, some [.text "<"]⟩] (some 4) = render :=
    Except.ok.inj ((result_start hs 1).symm.trans hstart)
  have hanswered : render.answered 1 = ["<p>"] := by
    rw [← hrender]
    decide +kernel
  have hbuffer : (render.after 1).buffer = "&lt;" := by
    rw [← hrender]
    decide +kernel
  have hcome : (render.after 1).place.toCome = ["</p>"] := by
    rw [← hrender]
    decide +kernel
  have hchunks : [(⟨"p", Attributes.empty, some [.text "<"]⟩ : Element)].flatMap Element.chunks =
      ["<p", ">", "&lt;", "</p>"] := by decide +kernel
  rw [hanswered, hbuffer] at hjoin
  rw [hcome, hchunks] at hall
  exact ⟨hs, render, hstart, hanswered, hbuffer, pulled, hp, hjoin, hall⟩

end Render
end MarkupTree
