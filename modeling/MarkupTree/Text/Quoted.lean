import MarkupTree.Text.Printable

/-! Text in double quotes, as it is shown to a programmer: what cannot be seen on a page is written
with a backslash. -/
namespace MarkupTree.Text

/-- The character by its code, in lower-case hexadecimal digits without leading zeros. -/
def codeEscape (c : Char) : List Char :=
  "\\u\x7b".toList ++ Nat.toDigits 16 c.toNat ++ "\x7d".toList

def quotedChar (c : Char) : List Char :=
  match c with
  | '\x00' => "\\0".toList
  | '\t' => "\\t".toList
  | '\r' => "\\r".toList
  | '\n' => "\\n".toList
  | '"' => "\\\"".toList
  | '\\' => "\\\\".toList
  | c => if isPrintable c then [c] else codeEscape c

def quoted (text : String) : String :=
  String.ofList ('"' :: text.toList.flatMap quotedChar ++ ['"'])

end MarkupTree.Text
