import MarkupTree.Element

/-! The markup of a tree, in the pieces that it is written in: the opening of the tag, one piece for
each attribute, and then the end of the tag alone or the content between the end of the start tag
and the end tag. Text is escaped unless it stands directly in a raw text tag. -/
namespace MarkupTree

mutual

def Element.pieces : Element → List String
  | ⟨name, attributes, none⟩ =>
    ("<" ++ name) :: (attributes.entries.map Attribute.html ++
      [if Tag.isVoid name then " />" else "></" ++ name ++ ">"])
  | ⟨name, attributes, some items⟩ =>
    ("<" ++ name) :: (attributes.entries.map Attribute.html ++
      if Tag.isVoid name then [" />"]
      else ">" :: (Item.piecesAll (Tag.isRawText name) items ++ ["</" ++ name ++ ">"]))

def Item.pieces (inRawText : Bool) : Item → List String
  | .element e => e.pieces
  | .raw html => [html]
  | .text text => [if inRawText then text else Text.escape text]

def Item.piecesAll (inRawText : Bool) : List Item → List String
  | [] => []
  | item :: items => item.pieces inRawText ++ Item.piecesAll inRawText items

end

theorem Item.piecesAll_eq_flatMap (inRawText : Bool) (items : List Item) :
    Item.piecesAll inRawText items = items.flatMap (Item.pieces inRawText) := by
  induction items with
  | nil => rfl
  | cons item items ih => rw [Item.piecesAll, ih, List.flatMap_cons]

/-- The pieces after the start tag's attributes. -/
def Element.rest (e : Element) : List String :=
  if e.isVoid then [" />"]
  else match e.content with
    | some items => ">" :: (items.flatMap (Item.pieces e.isRawText) ++ ["</" ++ e.name ++ ">"])
    | none => ["></" ++ e.name ++ ">"]

theorem Element.pieces_eq (e : Element) :
    e.pieces = ("<" ++ e.name) :: (e.attributes.entries.map Attribute.html ++ e.rest) := by
  obtain ⟨name, attributes, content⟩ := e
  cases content with
  | none =>
    by_cases h : Tag.isVoid name <;> simp [Element.pieces, Element.rest, Element.isVoid, h]
  | some items =>
    by_cases h : Tag.isVoid name <;>
      simp [Element.pieces, Element.rest, Element.isVoid, Element.isRawText, h,
        Item.piecesAll_eq_flatMap]

end MarkupTree
