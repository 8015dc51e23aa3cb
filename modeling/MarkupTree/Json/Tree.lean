import MarkupTree.Json.Value
import MarkupTree.Element

/-! Trees as JSON. A number that is not finite has no JSON text and is written as null. -/
namespace MarkupTree

def Json.typed (type : String) (members : List JsonMember) : Json :=
  .object (⟨"type", .string type⟩ :: members)

def Binary64.json (x : Binary64) : Json :=
  if x.isFinite then .number (NumberLayout.json.text x.value) else .null

def AttributeValue.json : AttributeValue → Json
  | .string text => .typed "String" [⟨"value", .string text⟩]
  | .int value => .typed "Int" [⟨"value", .number (toString value)⟩]
  | .float value => .typed "Float" [⟨"value", value.json⟩]
  | .bool value => .typed "Bool" [⟨"value", .bool value⟩]

def Attribute.json (a : Attribute) : Json :=
  .object [⟨"key", .string a.key⟩, ⟨"value", (a.value.map AttributeValue.json).getD .null⟩]

def Attributes.json (attributes : Attributes) : Json :=
  .array (attributes.entries.map Attribute.json)

mutual

def Element.jsonMembers : Element → List JsonMember
  | ⟨name, attributes, none⟩ =>
    [⟨"name", .string name⟩, ⟨"attributes", attributes.json⟩, ⟨"content", .null⟩]
  | ⟨name, attributes, some items⟩ =>
    [⟨"name", .string name⟩, ⟨"attributes", attributes.json⟩,
     ⟨"content", .array (Item.jsonAll items)⟩]

def Item.json : Item → Json
  | .element e => .typed "Element" e.jsonMembers
  | .raw html => .typed "Raw" [⟨"html", .string html⟩]
  | .text text => .typed "Text" [⟨"text", .string text⟩]

def Item.jsonAll : List Item → List Json
  | [] => []
  | item :: items => item.json :: Item.jsonAll items

end

def Element.json (e : Element) : Json := .object e.jsonMembers

def Document.json (d : Document) : Json :=
  .object [⟨"children", .array (d.children.map Element.json)⟩]

end MarkupTree
