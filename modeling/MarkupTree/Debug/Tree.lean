import MarkupTree.Debug.Outline
import MarkupTree.Pipeline
import MarkupTree.Text.Quoted

/-! How trees and pipelines are shown to a programmer. -/
namespace MarkupTree

def AttributeValue.outline : AttributeValue → Outline
  | .string text => .applied "String" [.leaf (Text.quoted text)]
  | .int value => .applied "Int" [.leaf (toString value)]
  | .float value => .applied "Float" [.leaf (NumberLayout.exact.text value.value)]
  | .bool value => .applied "Bool" [.leaf (toString value)]

def Attribute.outline (a : Attribute) : Outline :=
  .record "Attribute"
    [⟨"key", .leaf (Text.quoted a.key)⟩,
     ⟨"value", match a.value with
      | some value => Outline.some value.outline
      | none => Outline.none⟩]

def Attributes.outline (attributes : Attributes) : Outline :=
  .record "Attributes" [⟨"entries", .list (attributes.entries.map Attribute.outline)⟩]

def Element.outlineWith (name : String) (attributes : Attributes) (content : Outline) : Outline :=
  .record "Element"
    [⟨"name", .leaf (Text.quoted name)⟩,
     ⟨"attributes", attributes.outline⟩,
     ⟨"content", content⟩]

mutual

def Element.outline : Element → Outline
  | ⟨name, attributes, none⟩ => Element.outlineWith name attributes Outline.none
  | ⟨name, attributes, some items⟩ =>
    Element.outlineWith name attributes (Outline.some (.list (Item.outlines items)))

def Item.outline : Item → Outline
  | .element e => .applied "Element" [e.outline]
  | .raw html => .applied "Raw" [.record "Raw" [⟨"html", .leaf (Text.quoted html)⟩]]
  | .text text => .record "Text" [⟨"text", .leaf (Text.quoted text)⟩]

def Item.outlines : List Item → List Outline
  | [] => []
  | item :: items => item.outline :: Item.outlines items

end

def Document.outline (d : Document) : Outline :=
  .record "Document" [⟨"children", .list (d.children.map Element.outline)⟩]

/-- Stages are functions, so only their number can be shown. -/
def Pipeline.outline (pipeline : Pipeline) : Outline :=
  .record "Pipeline" [⟨"stages", .leaf (toString pipeline.stages.length)⟩]

end MarkupTree
