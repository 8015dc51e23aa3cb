/-! JSON values and their text, without blanks and with the members of objects in their order. -/
namespace MarkupTree

mutual

inductive Json where
  | null
  | bool (value : Bool)
  /-- A number by its text. -/
  | number (text : String)
  | string (text : String)
  | array (items : List Json)
  | object (members : List JsonMember)

structure JsonMember where
  key : String
  value : Json

end

namespace Json

def hexPair (code : Nat) : List Char := [Nat.digitChar (code / 16), Nat.digitChar (code % 16)]

def escapeChar (c : Char) : List Char :=
  match c with
  | '"' => ['\\', '"']
  | '\\' => ['\\', '\\']
  | '\x08' => ['\\', 'b']
  | '\x0c' => ['\\', 'f']
  | '\n' => ['\\', 'n']
  | '\r' => ['\\', 'r']
  | '\t' => ['\\', 't']
  | c => if c.toNat < 0x20 then ['\\', 'u', '0', '0'] ++ hexPair c.toNat else [c]

def quote (text : String) : String :=
  String.ofList ('"' :: text.toList.flatMap escapeChar ++ ['"'])

mutual

def text : Json → String
  | .null => "null"
  | .bool value => toString value
  | .number text => text
  | .string text => quote text
  | .array items => "[" ++ ",".intercalate (texts items) ++ "]"
  | .object members => "\x7b" ++ ",".intercalate (memberTexts members) ++ "\x7d"

def texts : List Json → List String
  | [] => []
  | item :: items => item.text :: texts items

def memberTexts : List JsonMember → List String
  | [] => []
  | ⟨key, value⟩ :: members => (quote key ++ ":" ++ value.text) :: memberTexts members

end

end Json

end MarkupTree
