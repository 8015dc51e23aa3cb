import MarkupTree.Proofs.Serialization

/-! A place with room for a number of bytes takes in what fits and no more. Writing chunk after chunk
to it is writing them as one text, so what it holds in the end is the beginning of the markup, as much
of it as there is room for, and writing fails just when that is not all. -/
namespace MarkupTree

theorem Text.length_bytes (text : String) : (bytes text).length = text.utf8ByteSize := rfl

namespace Sink

theorem write_of_fits {sink : Sink} {text : String} (h : (Text.bytes text).length ≤ sink.room) :
    write sink text =
      (true, ⟨sink.room - (Text.bytes text).length, sink.written ++ Text.bytes text⟩) := by
  simp [write, h, List.take_of_length_le h]

theorem write_of_exceeds {sink : Sink} {text : String}
    (h : sink.room < (Text.bytes text).length) :
    write sink text = (false, ⟨0, sink.written ++ (Text.bytes text).take sink.room⟩) := by
  simp [write, Nat.not_le_of_lt h, Nat.sub_eq_zero_of_le (Nat.le_of_lt h)]

theorem write_append (sink : Sink) (text more : String) :
    write sink (text ++ more) =
      match write sink text with
      | (true, later) => write later more
      | (false, later) => (false, later) := by
  have hb := Text.bytes_append text more
  rcases Nat.lt_or_ge sink.room (Text.bytes text).length with hexceeds | hfits
  · rw [write_of_exceeds hexceeds, write_of_exceeds (by rw [hb, List.length_append]; omega), hb,
      List.take_append_of_le_length (Nat.le_of_lt hexceeds)]
  · rw [write_of_fits hfits]
    simp only [write, hb, List.length_append, List.take_append, List.take_of_length_le hfits,
      List.append_assoc, Nat.sub_sub, Nat.le_sub_iff_add_le' hfits]

theorem write_empty (sink : Sink) : write sink "" = (true, sink) := by
  rw [write_of_fits (Nat.zero_le _)]
  cases sink
  simp [Text.bytes]

/-- Chunks that are written in turn go in like all of them as one text, wherever there is no more
room. -/
theorem writeAll_eq_write_join (sink : Sink) (texts : List String) :
    Writer.writeAll write sink texts = write sink (String.join texts) := by
  induction texts generalizing sink with
  | nil => rw [Writer.writeAll, String.join_nil, write_empty]
  | cons text texts ih =>
    rw [Writer.writeAll, String.join_cons, write_append]
    cases write sink text with
    | mk ok later =>
      cases ok with
      | true => exact ih later
      | false => rfl

theorem writeElement_eq_write (sink : Sink) (e : Element) :
    sink.writeElement e = write sink e.html :=
  sink.writeAll_eq_write_join e.chunks

theorem writeDocument_eq_write (sink : Sink) (d : Document) :
    sink.writeDocument d = write sink d.html := by
  rw [writeDocument, Writer.writeDocument, Writer.writeElements_eq_writeAll]
  exact sink.writeAll_eq_write_join (d.children.flatMap Element.chunks)

/-- What a place of this size has taken in of a text, and whether that is all of it. -/
structure HoldsStart (size : Nat) (text : String) (outcome : Bool × Sink) : Prop where
  written_eq : outcome.2.written = (Text.bytes text).take (min size text.utf8ByteSize)
  length_written : outcome.2.written.length = min size text.utf8ByteSize
  ok_iff : outcome.1 ↔ text.utf8ByteSize ≤ size
  room_eq : outcome.2.room = size - text.utf8ByteSize

theorem holdsStart_write (size : Nat) (text : String) :
    HoldsStart size text (write (ofSize size) text) := by
  rw [write, Text.length_bytes]
  refine ⟨?_, ?_, ?_, rfl⟩
  · rw [← Text.length_bytes, ← List.take_eq_take_min]
    exact List.nil_append _
  · rw [ofSize, List.nil_append, List.length_take, Text.length_bytes]
  · exact decide_eq_true_iff

/-- Whatever its size, a place holds the first bytes of the markup of an element or a document that
is written to it, as many as it has room for, and writing succeeds just when these are all. -/
theorem written_is_start (size : Nat) :
    (∀ e : Element, HoldsStart size e.html ((ofSize size).writeElement e)) ∧
    ∀ d : Document, HoldsStart size d.html ((ofSize size).writeDocument d) := by
  refine ⟨fun e => ?_, fun d => ?_⟩
  · rw [writeElement_eq_write]
    exact holdsStart_write size e.html
  · rw [writeDocument_eq_write]
    exact holdsStart_write size d.html

end Sink

end MarkupTree
