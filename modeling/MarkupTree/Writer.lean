import MarkupTree.Chunks

/-! Writing markup out. It goes to a place chunk by chunk. Any chunk may fail there, and writing stops
with the first one that does. -/
namespace MarkupTree

/-- Puts text into a place: whether all of it went in, and the place afterwards. -/
abbrev Writer (σ : Type) := σ → String → Bool × σ

namespace Writer

variable {σ : Type}

def writeAll (writer : Writer σ) (place : σ) : List String → Bool × σ
  | [] => (true, place)
  | text :: texts =>
    match writer place text with
    | (true, later) => writer.writeAll later texts
    | (false, later) => (false, later)

def writeElement (writer : Writer σ) (place : σ) (e : Element) : Bool × σ :=
  writer.writeAll place e.chunks

def writeElements (writer : Writer σ) (place : σ) : List Element → Bool × σ
  | [] => (true, place)
  | e :: es =>
    match writer.writeElement place e with
    | (true, later) => writer.writeElements later es
    | (false, later) => (false, later)

theorem writeAll_append (writer : Writer σ) (place : σ) (texts more : List String) :
    writer.writeAll place (texts ++ more) =
      match writer.writeAll place texts with
      | (true, later) => writer.writeAll later more
      | (false, later) => (false, later) := by
  induction texts generalizing place with
  | nil => rfl
  | cons text texts ih =>
    rw [List.cons_append, writeAll, writeAll]
    cases writer place text with
    | mk ok later =>
      cases ok with
      | true => exact ih later
      | false => rfl

theorem writeElements_eq_writeAll (writer : Writer σ) (place : σ) (es : List Element) :
    writer.writeElements place es = writer.writeAll place (es.flatMap Element.chunks) := by
  induction es generalizing place with
  | nil => rfl
  | cons e es ih =>
    rw [List.flatMap_cons, writeAll_append, writeElements, writeElement]
    cases writer.writeAll place e.chunks with
    | mk ok later =>
      cases ok with
      | true => exact ih later
      | false => rfl

def writeDocument (writer : Writer σ) (place : σ) (d : Document) : Bool × σ :=
  writer.writeElements place d.children

/-- A string that grows, where nothing fails. -/
def growing : Writer String := fun text more => (true, text ++ more)

end Writer

/-- An element is shown as its markup. -/
instance : ToString Element := ⟨fun e => (Writer.growing.writeElement "" e).2⟩

end MarkupTree
