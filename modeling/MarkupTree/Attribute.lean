import MarkupTree.Number.Layout
import MarkupTree.Text.Escape

/-! A single attribute: a key, and a typed value unless the attribute is bare. -/
namespace MarkupTree

inductive AttributeValue where
  | string (text : String)
  | int (value : Int)
  | float (value : Binary64)
  | bool (value : Bool)
  deriving DecidableEq, Repr, Inhabited

namespace AttributeValue

def asString? : AttributeValue → Option String
  | .string text => some text
  | _ => none

/-- The text between the quotes. Only a string can hold characters that need escaping. -/
def html : AttributeValue → String
  | .string text => Text.escape text
  | .int value => toString value
  | .float value => NumberLayout.plain.text value.value
  | .bool value => toString value

def isPlain : AttributeValue → Bool
  | .string text => Text.isPlain text
  | _ => false

/-- Equal values have one type, and numbers are compared as numbers. -/
def equal : AttributeValue → AttributeValue → Bool
  | .string a, .string b => a == b
  | .int a, .int b => a == b
  | .float a, .float b => a == b
  | .bool a, .bool b => a == b
  | _, _ => false

instance : BEq AttributeValue := ⟨equal⟩

end AttributeValue

structure Attribute where
  key : String
  value : Option AttributeValue
  deriving DecidableEq, Repr, Inhabited

namespace Attribute

def ofStrings (key text : String) : Attribute := ⟨key, some (.string text)⟩

def bare (key : String) : Attribute := ⟨key, none⟩

def valueString? (a : Attribute) : Option String := a.value.bind AttributeValue.asString?

/-- The attribute inside a start tag, with the space before it. -/
def html (a : Attribute) : String :=
  match a.value with
  | some value => " " ++ a.key ++ "=\"" ++ value.html ++ "\""
  | none => " " ++ a.key

def equal (a b : Attribute) : Bool := a.key == b.key && a.value == b.value

instance : BEq Attribute := ⟨equal⟩

end Attribute

end MarkupTree
