import MarkupTree.Chunks
import MarkupTree.Factory

/-! Rendering elements as a lazy sequence of strings. Without a chunk size there is one string with
everything. With a chunk size, chunks are gathered in a buffer, and the buffer is handed out when
the next chunk would take it over that size; a chunk is never split. -/
namespace MarkupTree

structure RenderOptions where
  /-- The size of the strings in bytes. -/
  chunkSize : Option Nat
  deriving DecidableEq, Repr, Inhabited

namespace RenderOptions

def standard : RenderOptions := ⟨none⟩

def validate (options : RenderOptions) : Except TreeError Unit :=
  if options.chunkSize = some 0 then .error (.invalidBufferSize 0) else .ok ()

end RenderOptions

structure Render where
  /-- The elements that have not been begun. -/
  elements : List Element
  /-- The place in the element that was begun last. -/
  current : Option Chunks
  buffer : String
  chunkSize : Option Nat
  finished : Bool

namespace Render

/-- Begins a rendering of elements of which at least `atLeast` are known to come. -/
def start (elements : List Element) (atLeast : Nat) (options : RenderOptions) : Build Render := do
  Build.ofExcept options.validate
  Build.tell (.startingRender options.chunkSize atLeast)
  return ⟨elements, none, "", options.chunkSize, false⟩

/-- The next chunk of an element under way or of the elements behind it. -/
def pullFrom : Option Chunks → List Element → Option (String × Option Chunks × List Element)
  | current, [] =>
    match current.bind Chunks.next with
    | some (chunk, later) => some (chunk, some later, [])
    | none => none
  | current, e :: rest =>
    match current.bind Chunks.next with
    | some (chunk, later) => some (chunk, some later, e :: rest)
    | none => pullFrom (some (Chunks.start e)) rest

def pull (render : Render) : Option (String × Render) :=
  (pullFrom render.current render.elements).map fun (chunk, current, elements) =>
    (chunk, { render with current, elements })

def pending (render : Render) : List String :=
  (render.current.map Chunks.pending).getD [] ++ render.elements.flatMap Element.pieces

theorem pending_of_current {current : Option Chunks} (h : current.bind Chunks.next = none) :
    (current.map Chunks.pending).getD [] = [] := by
  cases current with
  | none => rfl
  | some cursor => exact Chunks.pending_eq_nil_of_next h

theorem pending_of_pullFrom (current : Option Chunks) (elements : List Element) :
    (match pullFrom current elements with
      | some (chunk, current', elements') =>
        chunk :: ((current'.map Chunks.pending).getD [] ++ elements'.flatMap Element.pieces)
      | none => []) =
      (current.map Chunks.pending).getD [] ++ elements.flatMap Element.pieces := by
  induction elements generalizing current with
  | nil =>
    cases hn : current.bind Chunks.next with
    | none => simp [pullFrom, hn, pending_of_current hn]
    | some step =>
      obtain ⟨cursor, rfl, hc⟩ := Option.bind_eq_some_iff.1 hn
      simp [pullFrom, hc, Chunks.pending_eq_cons_of_next hc]
  | cons e elements ih =>
    cases hn : current.bind Chunks.next with
    | none =>
      simp only [pullFrom, hn, ih, pending_of_current hn]
      simp [Chunks.pending_start]
    | some step =>
      obtain ⟨cursor, rfl, hc⟩ := Option.bind_eq_some_iff.1 hn
      simp [pullFrom, hc, Chunks.pending_eq_cons_of_next hc]

theorem pending_eq_cons_of_pull {render later : Render} {chunk : String}
    (h : render.pull = some (chunk, later)) : render.pending = chunk :: later.pending := by
  have hp := pending_of_pullFrom render.current render.elements
  cases hf : pullFrom render.current render.elements with
  | none => simp [pull, hf] at h
  | some step =>
    obtain ⟨piece, current, elements⟩ := step
    rw [hf] at hp
    simp only [pull, hf, Option.map_some, Option.some.injEq, Prod.mk.injEq] at h
    obtain ⟨rfl, rfl⟩ := h
    exact hp.symm

theorem pending_eq_nil_of_pull {render : Render} (h : render.pull = none) :
    render.pending = [] := by
  have hp := pending_of_pullFrom render.current render.elements
  cases hf : pullFrom render.current render.elements with
  | none => rw [hf] at hp; exact hp.symm
  | some step => simp [pull, hf] at h

/-- Hands out the buffer; `kept` stands in it afterwards. -/
def flush (render : Render) (kept : String) : Logged (String × Render) := do
  Logged.tell (.flushingBuffer render.buffer.utf8ByteSize)
  return (render.buffer, { render with buffer := kept })

/-- Whether the buffer has to be handed out before it takes the chunk. -/
def overflows (render : Render) (chunk : String) : Bool :=
  match render.chunkSize with
  | some size => !render.buffer.isEmpty && size < render.buffer.utf8ByteSize + chunk.utf8ByteSize
  | none => false

/-- The last string: what the buffer holds, unless the strings are bounded and it is empty. -/
def finish (render : Render) : Logged (Option String × Render) :=
  let done := { render with current := none, finished := true }
  if render.chunkSize.isSome && render.buffer.isEmpty then return (none, done)
  else do
    let (text, done) ← done.flush ""
    return (some text, done)

def gather (render : Render) : Logged (Option String × Render) :=
  match _h : render.pull with
  | none => render.finish
  | some (chunk, later) =>
    if later.overflows chunk then do
      let (text, kept) ← later.flush chunk
      return (some text, kept)
    else gather { later with buffer := later.buffer ++ chunk }
termination_by render.pending.length
decreasing_by
  rw [pending_eq_cons_of_pull _h]
  exact Nat.lt_succ_self later.pending.length

/-- The next string, or nothing once the rendering has ended. -/
def next (render : Render) : Logged (Option String × Render) :=
  if render.finished then return (none, render) else render.gather

def nextTimes (render : Render) : Nat → Logged (List (Option String) × Render)
  | 0 => return ([], render)
  | times + 1 => do
    let (text, later) ← render.next
    let (texts, last) ← later.nextTimes times
    return (text :: texts, last)

def take (render : Render) : Nat → Logged (List String)
  | 0 => return []
  | times + 1 => do
    match ← render.next with
    | (some text, later) => return text :: (← later.take times)
    | (none, _) => return []

/-- All strings. Every one but the last takes a chunk with it, so there are no more than one more
than chunks. -/
def toList (render : Render) : Logged (List String) := render.take (render.pending.length + 1)

end Render

def renderAll (elements : List Element) (options : RenderOptions) : Build (List String) := do
  let render ← Render.start elements elements.length options
  ExceptT.lift render.toList

def Document.render (d : Document) (options : RenderOptions) : Build (List String) :=
  renderAll d.children options

end MarkupTree
