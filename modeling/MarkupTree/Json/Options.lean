import MarkupTree.Json.Reader
import MarkupTree.Json.Value
import MarkupTree.Render

/-! Rendering options as JSON: an object with the member `chunk_size`, or a list of at most that one
value. Members with other names are passed over, and a member that comes twice is refused. -/
namespace MarkupTree.RenderOptions

def sizeLimit : Nat := Nat.pow 2 64

/-- A size or null, with the blanks before it. A number with a sign, a point or a power is none. -/
def readSize (cs : List Char) : Option (Option Nat × List Char) :=
  match Json.skipSpaces cs with
  | 'n' :: cs => (Json.skipWord "ull" cs).map fun rest => (none, rest)
  | cs => do
    let rest ← Json.skipWhole cs
    let size := Nat.ofDigitChars 10 (cs.takeWhile Char.isDigit) 0
    match rest with
    | c :: _ => if c == '.' || c == 'e' || c == 'E' then none else pure ()
    | [] => pure ()
    if size < sizeLimit then some (some size, rest) else none

def readMembers : Nat → Option (Option Nat) → List Char →
    Option (Option (Option Nat) × List Char)
  | 0, _, _ => none
  | bound + 1, found, cs => do
    let (key, cs) ← Json.readString (Json.skipSpaces cs)
    match Json.skipSpaces cs with
    | ':' :: cs =>
      let (found, cs) ←
        if key == "chunk_size" then
          match found with
          | none => (readSize cs).map fun (size, rest) => (some size, rest)
          | some _ => none
        else (Json.skipValue cs).map fun rest => (found, rest)
      match Json.skipSpaces cs with
      | ',' :: cs => readMembers bound found cs
      | '}' :: cs => some (found, cs)
      | _ => none
    | _ => none

def read (cs : List Char) : Option (RenderOptions × List Char) :=
  match Json.skipSpaces cs with
  | '{' :: cs =>
    match Json.skipSpaces cs with
    | '}' :: cs => some (standard, cs)
    | cs => (readMembers (cs.length + 1) none cs).map fun (found, rest) =>
      (⟨found.getD none⟩, rest)
  | '[' :: cs =>
    match Json.skipSpaces cs with
    | ']' :: cs => some (standard, cs)
    | cs => do
      let (size, cs) ← readSize cs
      match Json.skipSpaces cs with
      | ']' :: cs => some (⟨size⟩, cs)
      | _ => none
  | _ => none

def ofJson? (text : String) : Option RenderOptions := do
  let (options, rest) ← read text.toList
  if (Json.skipSpaces rest).isEmpty then some options else none

def json (options : RenderOptions) : Json :=
  .object [⟨"chunk_size",
    match options.chunkSize with
    | some size => .number (toString size)
    | none => .null⟩]

end MarkupTree.RenderOptions
