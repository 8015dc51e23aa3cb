import MarkupTree.Writer

/-! Writing markup to a place with room for a number of bytes. A chunk that does not fit is written
as far as it goes, and writing stops there. -/
namespace MarkupTree

def Text.bytes (text : String) : List UInt8 := text.toUTF8.data.toList

structure Sink where
  /-- The bytes that still fit. -/
  room : Nat
  written : List UInt8

namespace Sink

def ofSize (size : Nat) : Sink := ⟨size, []⟩

/-- The part of a text that fits goes in, and the text fails if that is not all of it. -/
def write : Writer Sink := fun sink text =>
  let all := Text.bytes text
  (all.length ≤ sink.room, ⟨sink.room - all.length, sink.written ++ all.take sink.room⟩)

def writeElement (sink : Sink) (e : Element) : Bool × Sink := Writer.writeElement write sink e

def writeDocument (sink : Sink) (d : Document) : Bool × Sink := Writer.writeDocument write sink d

end Sink

end MarkupTree
