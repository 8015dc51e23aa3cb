import MarkupTree.Chunks
import MarkupTree.Proofs.Escaping

/-! Values and texts cannot change the markup around them. Trees of one shape are written in chunks
that correspond one by one: those that are not made from a value or an escaped text are the same, and
the others differ in no character that delimits markup. -/
namespace MarkupTree

/-- A chunk by what it is made from. -/
inductive Part where
  /-- Anything that is written as it is. -/
  | markup (text : String)
  /-- An attribute with a value. -/
  | valued (key : String) (value : AttributeValue)
  /-- A text that is escaped. -/
  | escaped (text : String)

namespace Part

def chunk : Part → String
  | .markup text => text
  | .valued key value => " " ++ key ++ "=\"" ++ value.html ++ "\""
  | .escaped text => Text.escape text

/-- The part with nothing in the place of the value or the text. -/
def blank : Part → Part
  | .markup text => .markup text
  | .valued key _ => .valued key (.string "")
  | .escaped _ => .escaped ""

@[simp] theorem chunk_markup (text : String) : (markup text).chunk = text := rfl

@[simp] theorem blank_markup (text : String) : (markup text).blank = markup text := rfl

theorem blank_eq_markup_iff {part : Part} {text : String} :
    part.blank = markup text ↔ part = markup text := by
  cases part <;> simp [blank]

end Part

section Parts

def Attribute.part (a : Attribute) : Part :=
  match a.value with
  | some value => .valued a.key value
  | none => .markup (" " ++ a.key)

mutual

/-- What the chunks of an element are made from, one by one. -/
def Element.parts : Element → List Part
  | ⟨name, attributes, none⟩ =>
    .markup ("<" ++ name) :: (attributes.entries.map Attribute.part ++
      [.markup (if Tag.isVoid name then " />" else "></" ++ name ++ ">")])
  | ⟨name, attributes, some items⟩ =>
    .markup ("<" ++ name) :: (attributes.entries.map Attribute.part ++
      if Tag.isVoid name then [.markup " />"]
      else .markup ">" ::
        (Item.partsAll (Tag.isRawText name) items ++ [.markup ("</" ++ name ++ ">")]))

def Item.partsAll (inRawText : Bool) : List Item → List Part
  | [] => []
  | .element e :: items => e.parts ++ Item.partsAll inRawText items
  | .raw html :: items => .markup html :: Item.partsAll inRawText items
  | .text text :: items =>
    (if inRawText then .markup text else .escaped text) :: Item.partsAll inRawText items

end

@[simp] theorem Attribute.chunk_part (a : Attribute) : a.part.chunk = a.html := by
  obtain ⟨key, value⟩ := a
  cases value <;> rfl

mutual

theorem Element.map_chunk_parts : (e : Element) → e.parts.map Part.chunk = e.pieces
  | ⟨name, attributes, none⟩ => by
    simp [Element.parts, Element.pieces]
  | ⟨name, attributes, some items⟩ => by
    have hi := Item.map_chunk_partsAll (Tag.isRawText name) items
    by_cases hv : Tag.isVoid name <;>
      simp [Element.parts, Element.pieces, hv, hi]

theorem Item.map_chunk_partsAll (inRawText : Bool) : (items : List Item) →
    (Item.partsAll inRawText items).map Part.chunk = Item.piecesAll inRawText items
  | [] => rfl
  | .element e :: items => by
    rw [Item.partsAll, Item.piecesAll, List.map_append, Element.map_chunk_parts e,
      Item.map_chunk_partsAll inRawText items, Item.pieces]
  | .raw html :: items => by
    rw [Item.partsAll, Item.piecesAll, List.map_cons, Item.map_chunk_partsAll inRawText items]
    rfl
  | .text text :: items => by
    rw [Item.partsAll, Item.piecesAll, List.map_cons, Item.map_chunk_partsAll inRawText items]
    cases inRawText <;> rfl

end

theorem Element.chunks_eq_parts (e : Element) : e.chunks = e.parts.map Part.chunk := by
  rw [chunks_eq_pieces, map_chunk_parts]

end Parts

section Blank

def Attribute.blank (a : Attribute) : Attribute := ⟨a.key, a.value.map fun _ => .string ""⟩

def Attributes.blank (attributes : Attributes) : Attributes :=
  ⟨attributes.entries.map Attribute.blank⟩

mutual

/-- The tree with nothing in the places of its values and of its texts that are escaped. -/
def Element.blank : Element → Element
  | ⟨name, attributes, none⟩ => ⟨name, attributes.blank, none⟩
  | ⟨name, attributes, some items⟩ =>
    ⟨name, attributes.blank, some (Item.blankAll (Tag.isRawText name) items)⟩

def Item.blankAll (inRawText : Bool) : List Item → List Item
  | [] => []
  | .element e :: items => .element e.blank :: Item.blankAll inRawText items
  | .raw html :: items => .raw html :: Item.blankAll inRawText items
  | .text text :: items =>
    .text (if inRawText then text else "") :: Item.blankAll inRawText items

end

/-- The trees are the same but for values of attributes and texts that are escaped. -/
def Element.SameShape (a b : Element) : Prop := a.blank = b.blank

@[simp] theorem Attribute.part_blank (a : Attribute) : a.blank.part = a.part.blank := by
  obtain ⟨key, value⟩ := a
  cases value <;> rfl

mutual

theorem Element.parts_blank : (e : Element) → e.blank.parts = e.parts.map Part.blank
  | ⟨name, attributes, none⟩ => by
    simp [Element.blank, Element.parts, Attributes.blank]
  | ⟨name, attributes, some items⟩ => by
    have hi := Item.partsAll_blankAll (Tag.isRawText name) items
    by_cases hv : Tag.isVoid name <;>
      simp [Element.blank, Element.parts, Attributes.blank, hv, hi]

theorem Item.partsAll_blankAll (inRawText : Bool) : (items : List Item) →
    Item.partsAll inRawText (Item.blankAll inRawText items) =
      (Item.partsAll inRawText items).map Part.blank
  | [] => rfl
  | .element e :: items => by
    rw [Item.blankAll, Item.partsAll, Item.partsAll, List.map_append, Element.parts_blank e,
      Item.partsAll_blankAll inRawText items]
  | .raw html :: items => by
    rw [Item.blankAll, Item.partsAll, Item.partsAll, List.map_cons,
      Item.partsAll_blankAll inRawText items]
    rfl
  | .text text :: items => by
    rw [Item.blankAll, Item.partsAll, Item.partsAll, List.map_cons,
      Item.partsAll_blankAll inRawText items]
    cases inRawText <;> rfl

end

end Blank

section Delimiters

/-- Whether the character can begin or end a tag or a value. -/
def isDelimiter (c : Char) : Bool := ['<', '>', '"', '\x27'].contains c

def delimiters (text : String) : List Char := text.toList.filter isDelimiter

theorem delimiters_append (a b : String) : delimiters (a ++ b) = delimiters a ++ delimiters b := by
  rw [delimiters, String.toList_append, List.filter_append]
  rfl

theorem delimiters_join (texts : List String) :
    delimiters (String.join texts) = texts.flatMap delimiters := by
  rw [delimiters, String.toList_join, List.filter_flatMap]
  rfl

theorem delimiters_escape (text : String) : delimiters (Text.escape text) = [] := by
  rw [delimiters, List.filter_eq_nil_iff]
  intro c hc hd
  obtain ⟨entity, he, ha⟩ : ∃ entity, Text.entity? c = some entity ∧ c ≠ '&' := by
    simp only [isDelimiter, List.contains_eq_mem, decide_eq_true_eq, List.mem_cons,
      List.not_mem_nil, or_false] at hd
    rcases hd with rfl | rfl | rfl | rfl <;> exact ⟨_, rfl, by decide⟩
  exact Text.not_mem_escape he ha text hc

theorem Part.delimiters_blank (part : Part) :
    delimiters part.blank.chunk = delimiters part.chunk := by
  cases part with
  | markup text => rfl
  | valued key value =>
    simp only [blank, chunk, delimiters_append, AttributeValue.html_eq_escape_display,
      delimiters_escape]
  | escaped text => rw [blank, chunk, chunk, delimiters_escape, delimiters_escape]

theorem Element.delimiters_html (e : Element) :
    delimiters e.html = e.blank.parts.flatMap fun part => delimiters part.chunk := by
  rw [html, delimiters_join, chunks_eq_parts, List.flatMap_map, parts_blank, List.flatMap_map]
  congr 1
  funext part
  exact part.delimiters_blank.symm

end Delimiters

namespace Element.SameShape

variable {a b : Element}

theorem map_blank_parts (h : a.SameShape b) : a.parts.map Part.blank = b.parts.map Part.blank := by
  rw [← parts_blank, ← parts_blank, h]

theorem getElem?_parts_iff (h : a.SameShape b) (i : Nat) (text : String) :
    a.parts[i]? = some (.markup text) ↔ b.parts[i]? = some (.markup text) := by
  have hb : ∀ e : Element, e.parts[i]? = some (.markup text) ↔
      (e.parts.map Part.blank)[i]? = some (.markup text) := by
    intro e
    simp [Part.blank_eq_markup_iff]
  rw [hb a, hb b, h.map_blank_parts]

theorem delimiters_html_eq (h : a.SameShape b) : delimiters a.html = delimiters b.html := by
  rw [delimiters_html, delimiters_html, h]

end Element.SameShape

theorem Element.getElem?_chunks_of_markup {e : Element} {i : Nat} {text : String}
    (h : e.parts[i]? = some (.markup text)) : e.chunks[i]? = some text := by
  rw [chunks_eq_parts, List.getElem?_map, h]
  rfl

/-- Trees of one shape are written in as many chunks. A chunk that is made neither from the value of an
attribute nor from an escaped text is the same in both, and the delimiters are the same altogether. -/
theorem Element.chunks_of_sameShape (a b : Element) (h : a.SameShape b) :
    (a.chunks = a.parts.map Part.chunk ∧ b.chunks = b.parts.map Part.chunk) ∧
    a.chunks.length = b.chunks.length ∧
    (∀ (i : Nat) (text : String),
      a.parts[i]? = some (.markup text) ↔ b.parts[i]? = some (.markup text)) ∧
    (∀ (i : Nat) (text : String), a.parts[i]? = some (.markup text) →
      a.chunks[i]? = some text ∧ b.chunks[i]? = some text) ∧
    delimiters a.html = delimiters b.html := by
  refine ⟨⟨a.chunks_eq_parts, b.chunks_eq_parts⟩, ?_, h.getElem?_parts_iff, fun i text ht => ?_,
    h.delimiters_html_eq⟩
  · have hl := congrArg List.length h.map_blank_parts
    rw [List.length_map, List.length_map] at hl
    rw [chunks_eq_parts, chunks_eq_parts, List.length_map, List.length_map, hl]
  · exact ⟨getElem?_chunks_of_markup ht,
      getElem?_chunks_of_markup ((h.getElem?_parts_iff i text).1 ht)⟩

/-- The text of the script is the same, and the one below it, the value beside it and its type are not. -/
theorem Element.delimiters_of_script :
    SameShape
      ⟨"script", ⟨[⟨"id", some (.string "\"><b>")⟩]⟩,
        some [.text "a<b", .element ⟨"p", Attributes.empty, some [.text "</script>"]⟩]⟩
      ⟨"script", ⟨[⟨"id", some (.bool true)⟩]⟩,
        some [.text "a<b", .element ⟨"p", Attributes.empty, some [.text ""]⟩]⟩ ∧
    delimiters (html ⟨"script", ⟨[⟨"id", some (.string "\"><b>")⟩]⟩,
        some [.text "a<b", .element ⟨"p", Attributes.empty, some [.text "</script>"]⟩]⟩) =
      delimiters (html ⟨"script", ⟨[⟨"id", some (.bool true)⟩]⟩,
        some [.text "a<b", .element ⟨"p", Attributes.empty, some [.text ""]⟩]⟩) := by
  have hs : SameShape
      ⟨"script", ⟨[⟨"id", some (.string "\"><b>")⟩]⟩,
        some [.text "a<b", .element ⟨"p", Attributes.empty, some [.text "</script>"]⟩]⟩
      ⟨"script", ⟨[⟨"id", some (.bool true)⟩]⟩,
        some [.text "a<b", .element ⟨"p", Attributes.empty, some [.text ""]⟩]⟩ := by
    have hp : Tag.isRawText "p" = false := by decide
    have hr : Tag.isRawText "script" = true := by decide
    simp [SameShape, blank, Item.blankAll, Attributes.blank, Attribute.blank, hp, hr]
  exact ⟨hs, (chunks_of_sameShape _ _ hs).2.2.2.2⟩

end MarkupTree
