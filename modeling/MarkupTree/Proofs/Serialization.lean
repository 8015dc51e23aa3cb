import MarkupTree.Proofs.Rendering
import MarkupTree.Sink

/-! All ways to write markup agree. The strings of a rendering of any size, the text and the bytes of a
document, and what its elements are written as one by one, all make up the same markup. -/
namespace MarkupTree

theorem Text.bytes_append (a b : String) : bytes (a ++ b) = bytes a ++ bytes b := by
  simp [bytes, String.toByteArray_append, ByteArray.data_append]

theorem Text.bytes_join (texts : List String) :
    bytes (String.join texts) = texts.flatMap bytes := by
  induction texts with
  | nil => rfl
  | cons text texts ih => rw [String.join_cons, bytes_append, ih, List.flatMap_cons]

namespace Writer

variable {σ : Type} {writer : Writer σ} {received : σ → List UInt8}

/-- Nothing that is written fails, and a place has received the bytes of all that was written. -/
structure Keeps (writer : Writer σ) (received : σ → List UInt8) : Prop where
  goes_in : ∀ place text, (writer place text).1 = true
  received_eq : ∀ place text, received (writer place text).2 = received place ++ Text.bytes text

theorem Keeps.writeAll (h : writer.Keeps received) (place : σ) (texts : List String) :
    ∃ later, writer.writeAll place texts = (true, later) ∧
      received later = received place ++ Text.bytes (String.join texts) := by
  induction texts generalizing place with
  | nil => exact ⟨place, rfl, (List.append_nil _).symm⟩
  | cons text texts ih =>
    have hw : writer place text = (true, (writer place text).2) :=
      Prod.ext (h.goes_in place text) rfl
    obtain ⟨later, hl, hr⟩ := ih (writer place text).2
    refine ⟨later, ?_, ?_⟩
    · rw [Writer.writeAll, hw]
      exact hl
    · rw [hr, h.received_eq, List.append_assoc, ← Text.bytes_append, String.join_cons]

theorem Keeps.writeElement (h : writer.Keeps received) (place : σ) (e : Element) :
    ∃ later, writer.writeElement place e = (true, later) ∧
      received later = received place ++ Text.bytes e.html :=
  h.writeAll place e.chunks

theorem Keeps.writeDocument (h : writer.Keeps received) (place : σ) (d : Document) :
    ∃ later, writer.writeDocument place d = (true, later) ∧
      received later = received place ++ Text.bytes d.html := by
  rw [Writer.writeDocument, writeElements_eq_writeAll]
  exact h.writeAll place (d.children.flatMap Element.chunks)

theorem writeAll_growing (text : String) (texts : List String) :
    growing.writeAll text texts = (true, text ++ String.join texts) := by
  induction texts generalizing text with
  | nil => rw [writeAll, String.join_nil, String.append_empty]
  | cons more texts ih =>
    rw [String.join_cons, ← String.append_assoc]
    exact ih (text ++ more)

end Writer

theorem Element.toString_eq_html (e : Element) : toString e = e.html := by
  change (Writer.growing.writeAll "" e.chunks).2 = e.html
  rw [Writer.writeAll_growing]
  exact String.empty_append

theorem Document.html_eq_join (d : Document) : d.html = String.join (d.children.map Element.html) := by
  obtain ⟨es⟩ := d
  induction es with
  | nil => rfl
  | cons e es ih =>
    rw [List.map_cons, String.join_cons, ← ih, html, List.flatMap_cons, String.join_append]
    rfl

namespace Document

/-- The strings of a rendering, whatever their size, make up the markup, and without a size there is
one string. -/
theorem exists_rendered (d : Document) {options : RenderOptions}
    (h : options.chunkSize ≠ some 0) :
    ∃ texts, (d.render options).result = .ok texts ∧
      (Render.fresh d.children options.chunkSize).HandsOut texts ∧
      String.join texts = d.html ∧ (options.chunkSize = none → texts = [d.html]) := by
  obtain ⟨texts, ht, hl⟩ := (Render.fresh d.children options.chunkSize).exists_handsOut
  have hr := Render.remaining_fresh d.children options.chunkSize
  refine ⟨texts, ?_, ht, ht.join_eq.trans hr, fun hn => ?_⟩
  · rw [render, Render.result_renderAll h, ht.toList_eq rfl hl]
  · rw [ht.eq_singleton_of_unbounded rfl hn, hr]

/-- Each element is written to a place of its own. -/
theorem flatMap_received {σ : Type} {writer : Writer σ} {received : σ → List UInt8}
    (hw : writer.Keeps received) {place : σ} (hp : received place = []) (d : Document) :
    (d.children.flatMap fun e => received (writer.writeElement place e).2) =
      Text.bytes d.html := by
  have he : (fun e => received (writer.writeElement place e).2) =
      fun e => Text.bytes (Element.html e) := by
    funext e
    obtain ⟨later, hl, hr⟩ := hw.writeElement place e
    rw [hl, hr, hp, List.nil_append]
  rw [he, html_eq_join, Text.bytes_join, List.flatMap_map]

/-- All ways to write the elements of a document agree, for every size of the strings. A rendering
succeeds, answers its strings and then nothing, and they make up the text of the document, which is
one string of it if there is no size. The same text is made up of the elements written one by one, and
its bytes are what a writer takes in for which nothing fails. -/
theorem serializations_agree (d : Document) (options : RenderOptions)
    (h : options.chunkSize ≠ some 0) :
    (∃ texts, (renderAll d.children options).result = .ok texts ∧
      (d.render options).result = .ok texts ∧
      (∀ atLeast, ∃ render, (Render.start d.children atLeast options).result = .ok render ∧
        ∀ more, (render.nextTimes (texts.length + more)).value.1 =
          texts.map some ++ List.replicate more none) ∧
      String.join texts = d.html ∧
      (options.chunkSize = none → texts = [d.html])) ∧
    (d.children = [] → d.html = "") ∧
    d.html = String.join (d.children.map toString) ∧
    d.html = String.join (d.children.map Element.html) ∧
    d.html = String.join (d.children.flatMap Element.chunks) ∧
    ∀ (σ : Type) (writer : Writer σ) (received : σ → List UInt8), writer.Keeps received →
      ∀ place, received place = [] →
        (∃ later, writer.writeDocument place d = (true, later) ∧
          received later = Text.bytes d.html) ∧
        (∀ e ∈ d.children, (writer.writeElement place e).1) ∧
        (d.children.flatMap fun e => received (writer.writeElement place e).2) =
          Text.bytes d.html := by
  obtain ⟨texts, hr, ht, hj, hn⟩ := d.exists_rendered h
  refine ⟨⟨texts, hr, hr, fun atLeast => ?_, hj, hn⟩, fun he => ?_, ?_, d.html_eq_join, rfl, ?_⟩
  · exact ⟨_, Render.result_start h atLeast, ht.nextTimes_eq⟩
  · rw [html_eq_join, he]
    rfl
  · rw [funext Element.toString_eq_html]
    exact d.html_eq_join
  · intro σ writer received hw place hp
    refine ⟨?_, fun e _ => ?_, flatMap_received hw hp d⟩
    · obtain ⟨later, hl, hrec⟩ := hw.writeDocument place d
      exact ⟨later, hl, by rw [hrec, hp, List.nil_append]⟩
    · obtain ⟨later, hl, -⟩ := hw.writeElement place e
      rw [hl]

/-- Two elements of which one is void, in strings of four bytes, and their bytes. -/
theorem serializations_of_two :
    (some 4 : Option Nat) ≠ some 0 ∧
    Writer.Keeps (fun place text => (true, place ++ Text.bytes text)) id ∧
    (∃ texts, (render ⟨[⟨"p", ⟨[Attribute.bare "id"]⟩, some [.text "<"]⟩,
        ⟨"br", Attributes.empty, none⟩]⟩ ⟨some 4⟩).result = .ok texts ∧
      String.join texts = "<p id>&lt;</p><br />") ∧
    (Writer.writeDocument (fun place text => (true, place ++ Text.bytes text)) []
      ⟨[⟨"p", ⟨[Attribute.bare "id"]⟩, some [.text "<"]⟩, ⟨"br", Attributes.empty, none⟩]⟩) =
      (true, Text.bytes "<p id>&lt;</p><br />") := by
  have hk : Writer.Keeps (fun place text => (true, place ++ Text.bytes text)) id :=
    ⟨fun _ _ => rfl, fun _ _ => rfl⟩
  have hs : (some 4 : Option Nat) ≠ some 0 := by decide
  have hh : html ⟨[⟨"p", ⟨[Attribute.bare "id"]⟩, some [.text "<"]⟩,
      ⟨"br", Attributes.empty, none⟩]⟩ = "<p id>&lt;</p><br />" := by
    rw [html, funext Element.chunks_eq_pieces]
    decide
  obtain ⟨⟨texts, -, hr, -, hj, -⟩, -, -, -, -, hw⟩ := serializations_agree
    ⟨[⟨"p", ⟨[Attribute.bare "id"]⟩, some [.text "<"]⟩, ⟨"br", Attributes.empty, none⟩]⟩ ⟨some 4⟩ hs
  obtain ⟨⟨later, hl, hrec⟩, -, -⟩ := hw _ _ id hk [] rfl
  rw [hh] at hj hrec
  exact ⟨hs, hk, ⟨texts, hr, hj⟩, hl.trans (congrArg (Prod.mk true) hrec)⟩

end Document

end MarkupTree
