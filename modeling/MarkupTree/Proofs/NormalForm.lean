import MarkupTree.Chunks
import MarkupTree.Proofs.Escaping
import MarkupTree.Proofs.Tree

/-! What of a tree its markup does not tell. The type of a value, where one text ends and the next one
begins, and whether empty content was assigned are not written; a tree in normal form has none of
these choices, and every tree is written like its normal form. -/
namespace MarkupTree

section Writing

def Attribute.chars (a : Attribute) : List Char := a.html.toList

def Item.written (inRawText : Bool) (text : String) : String :=
  if inRawText then text else Text.escape text

def Item.charsAll (inRawText : Bool) (items : List Item) : List Char :=
  (Item.piecesAll inRawText items).flatMap String.toList

def Element.chars (e : Element) : List Char := e.pieces.flatMap String.toList

/-- The characters after the attributes. -/
def Element.ending (e : Element) : List Char :=
  if e.isVoid then " />".toList
  else '>' :: (Item.charsAll e.isRawText e.items ++ '<' :: '/' :: (e.name.toList ++ ['>']))

theorem Item.written_append (inRawText : Bool) (a b : String) :
    written inRawText (a ++ b) = written inRawText a ++ written inRawText b := by
  cases inRawText with
  | false => exact Text.escape_append a b
  | true => rfl

@[simp] theorem Item.charsAll_nil (inRawText : Bool) : charsAll inRawText [] = [] := rfl

@[simp] theorem Item.charsAll_element (inRawText : Bool) (e : Element) (items : List Item) :
    charsAll inRawText (.element e :: items) = e.chars ++ charsAll inRawText items :=
  List.flatMap_append

@[simp] theorem Item.charsAll_raw (inRawText : Bool) (html : String) (items : List Item) :
    charsAll inRawText (.raw html :: items) = html.toList ++ charsAll inRawText items := rfl

@[simp] theorem Item.charsAll_text (inRawText : Bool) (text : String) (items : List Item) :
    charsAll inRawText (.text text :: items) =
      (written inRawText text).toList ++ charsAll inRawText items := rfl

theorem Element.chars_eq (e : Element) :
    e.chars = '<' :: (e.name.toList ++
      (e.attributes.entries.flatMap Attribute.chars ++ e.ending)) := by
  have hr : e.rest.flatMap String.toList = e.ending := by
    unfold rest ending
    by_cases hv : e.isVoid
    · simp [hv]
    · cases hc : e.content <;>
        simp [hv, hc, items, Item.charsAll, Item.piecesAll_eq_flatMap]
  rw [chars, pieces_eq, List.flatMap_cons, List.flatMap_append, hr, List.flatMap_map,
    String.toList_append]
  rfl

theorem Document.toList_html (d : Document) :
    d.html.toList = d.children.flatMap Element.chars := by
  rw [html, String.toList_join, List.flatMap_assoc]
  congr 1
  funext e
  rw [Element.chunks_eq_pieces, Element.chars]

end Writing

section Normal

def Attribute.normal (a : Attribute) : Attribute :=
  ⟨a.key, a.value.map fun value => .string value.display⟩

def Attributes.normal (attributes : Attributes) : Attributes :=
  ⟨attributes.entries.map Attribute.normal⟩

/-- Puts text before items. It joins a text that comes first there, and is nothing if it is empty. -/
def Item.consText (text : String) (items : List Item) : List Item :=
  if text = "" then items
  else match items with
    | .text later :: items => .text (text ++ later) :: items
    | items => .text text :: items

mutual

/-- The tree in normal form: values are strings, texts are not empty and do not meet, and content
is assigned, unless the element is void. -/
def Element.normal : Element → Element
  | ⟨name, attributes, none⟩ =>
    ⟨name, attributes.normal, if Tag.isVoid name then none else some []⟩
  | ⟨name, attributes, some items⟩ => ⟨name, attributes.normal, some (Item.normalAll items)⟩

def Item.normalAll : List Item → List Item
  | [] => []
  | .element e :: items => .element e.normal :: Item.normalAll items
  | .raw html :: items => .raw html :: Item.normalAll items
  | .text text :: items => Item.consText text (Item.normalAll items)

end

def Document.normal (d : Document) : Document := ⟨d.children.map Element.normal⟩

@[simp] theorem Item.normalAll_nil : normalAll [] = [] := rfl

@[simp] theorem Item.normalAll_element (e : Element) (items : List Item) :
    normalAll (.element e :: items) = .element e.normal :: normalAll items := rfl

@[simp] theorem Item.normalAll_raw (html : String) (items : List Item) :
    normalAll (.raw html :: items) = .raw html :: normalAll items := rfl

@[simp] theorem Item.normalAll_text (text : String) (items : List Item) :
    normalAll (.text text :: items) = consText text (normalAll items) := rfl

@[simp] theorem Item.consText_empty (items : List Item) : consText "" items = items := by
  simp [consText]

theorem Item.consText_append (a b : String) (items : List Item) :
    consText (a ++ b) items = consText a (consText b items) := by
  by_cases ha : a = ""
  · rw [ha, String.empty_append, consText_empty]
  · by_cases hb : b = ""
    · rw [hb, String.append_empty, consText_empty]
    · cases items with
      | nil => simp [consText, ha, hb]
      | cons item items => cases item <;> simp [consText, ha, hb, String.append_assoc]

theorem Item.charsAll_consText (inRawText : Bool) (text : String) (items : List Item) :
    charsAll inRawText (consText text items) =
      (written inRawText text).toList ++ charsAll inRawText items := by
  by_cases h : text = ""
  · have hw : (written inRawText "").toList = [] := by cases inRawText <;> rfl
    rw [h, consText_empty, hw, List.nil_append]
  · cases items with
    | nil => simp [consText, h]
    | cons item items =>
      cases item <;> simp [consText, h, written_append, String.toList_append]

theorem Attribute.chars_normal (a : Attribute) : a.normal.chars = a.chars := by
  obtain ⟨key, value⟩ := a
  cases value with
  | none => rfl
  | some value =>
    have hv : AttributeValue.html (.string value.display) = value.html :=
      value.html_eq_escape_display.symm
    simp only [chars, html, normal, Option.map_some, hv]

theorem Element.normal_eq (e : Element) :
    e.normal = ⟨e.name, e.attributes.normal,
      if e.isVoid then e.content.map Item.normalAll else some (Item.normalAll e.items)⟩ := by
  obtain ⟨name, attributes, content⟩ := e
  cases content with
  | none => rfl
  | some items => by_cases h : Tag.isVoid name <;> simp [normal, isVoid, h, Element.items]

theorem Attributes.chars_normal (attributes : Attributes) :
    attributes.normal.entries.flatMap Attribute.chars =
      attributes.entries.flatMap Attribute.chars := by
  rw [normal, List.flatMap_map]
  congr 1
  funext a
  exact a.chars_normal

mutual

theorem Element.chars_normal : (e : Element) → e.normal.chars = e.chars
  | ⟨name, attributes, none⟩ => by
    rw [Element.chars_eq, Element.chars_eq, Element.normal]
    simp only [attributes.chars_normal, Element.ending, Element.isVoid, Element.items]
    by_cases hv : Tag.isVoid name <;> simp [hv, Element.isRawText]
  | ⟨name, attributes, some items⟩ => by
    have hi := Item.charsAll_normalAll (Tag.isRawText name) items
    rw [Element.chars_eq, Element.chars_eq, Element.normal]
    simp only [attributes.chars_normal, Element.ending, Element.isVoid, Element.isRawText,
      Element.items, Option.getD_some, hi]
    by_cases hv : Tag.isVoid name <;> simp [hv]

theorem Item.charsAll_normalAll (inRawText : Bool) : (items : List Item) →
    Item.charsAll inRawText (Item.normalAll items) = Item.charsAll inRawText items
  | [] => rfl
  | .element e :: items => by
    rw [Item.normalAll_element, Item.charsAll_element, Item.charsAll_element,
      Element.chars_normal e, Item.charsAll_normalAll inRawText items]
  | .raw html :: items => by
    rw [Item.normalAll_raw, Item.charsAll_raw, Item.charsAll_raw,
      Item.charsAll_normalAll inRawText items]
  | .text text :: items => by
    rw [Item.normalAll_text, Item.charsAll_consText, Item.charsAll_text,
      Item.charsAll_normalAll inRawText items]

end

theorem Document.html_normal (d : Document) : d.normal.html = d.html := by
  apply String.toList_inj.1
  rw [toList_html, toList_html, normal, List.flatMap_map]
  congr 1
  funext e
  exact e.chars_normal

end Normal

end MarkupTree
