import MarkupTree.Attributes
import MarkupTree.Tag

/-! Trees of markup. An element whose content was never assigned differs from one whose content is
empty: `content` is `none` in the first. -/
namespace MarkupTree

mutual

structure Element where
  name : String
  attributes : Attributes
  content : Option (List Item)

inductive Item where
  | element (element : Element)
  /-- Markup that is written as it is. -/
  | raw (html : String)
  | text (text : String)

end

instance : Inhabited Element := ⟨⟨"", Attributes.empty, none⟩⟩
instance : Inhabited Item := ⟨.text ""⟩

/-- A list of elements with nothing around or between them. -/
structure Document where
  children : List Element
  deriving Inhabited

namespace Element

def ofTag (name : String) : Element := ⟨name, Attributes.empty, none⟩

def isVoid (e : Element) : Bool := Tag.isVoid e.name

def isRawText (e : Element) : Bool := Tag.isRawText e.name

end Element

mutual

def Element.equal : Element → Element → Bool
  | ⟨name, attributes, none⟩, ⟨name', attributes', none⟩ =>
    name == name' && attributes == attributes'
  | ⟨name, attributes, some items⟩, ⟨name', attributes', some items'⟩ =>
    name == name' && attributes == attributes' && Item.equalAll items items'
  | _, _ => false

def Item.equal : Item → Item → Bool
  | .element a, .element b => a.equal b
  | .raw a, .raw b => a == b
  | .text a, .text b => a == b
  | _, _ => false

def Item.equalAll : List Item → List Item → Bool
  | [], [] => true
  | a :: as, b :: bs => a.equal b && Item.equalAll as bs
  | _, _ => false

end

instance : BEq Element := ⟨Element.equal⟩
instance : BEq Item := ⟨Item.equal⟩

def Document.equal (a b : Document) : Bool := a.children == b.children

instance : BEq Document := ⟨Document.equal⟩

end MarkupTree
