import MarkupTree.Text.Hex

/-! Reading JSON text from the left. A reader answers the characters that are left over, or nothing
where the text is not JSON. Strings are read for their text; a value that nobody asks for is only
checked to be one. -/
namespace MarkupTree.Json

def isSpace (c : Char) : Bool := c == ' ' || c == '\n' || c == '\t' || c == '\r'

def skipSpaces (cs : List Char) : List Char := cs.dropWhile isSpace

def skipWord (word : String) (cs : List Char) : Option (List Char) :=
  if word.toList.isPrefixOf cs then some (cs.drop word.length) else none

def readUnit : List Char → Option (Nat × List Char)
  | a :: b :: c :: d :: cs => do
    let a ← Text.hexDigit? a
    let b ← Text.hexDigit? b
    let c ← Text.hexDigit? c
    let d ← Text.hexDigit? d
    return (a * 0x1000 + b * 0x100 + c * 0x10 + d, cs)
  | _ => none

def simpleEscape? : Char → Option Char
  | '"' => some '"'
  | '\\' => some '\\'
  | '/' => some '/'
  | 'b' => some '\x08'
  | 'f' => some '\x0c'
  | 'n' => some '\n'
  | 'r' => some '\r'
  | 't' => some '\t'
  | _ => none

/-- A code point of one unit, or of two that are the halves of one. A half alone is no character. -/
def readCodePoint (cs : List Char) : Option (Char × List Char) := do
  let (high, rest) ← readUnit cs
  if 0xDC00 ≤ high && high ≤ 0xDFFF then none
  else if 0xD800 ≤ high && high < 0xDC00 then
    match rest with
    | '\\' :: 'u' :: rest =>
      let (low, rest) ← readUnit rest
      if 0xDC00 ≤ low && low ≤ 0xDFFF then
        some (Char.ofNat (0x10000 + (high - 0xD800) * 0x400 + (low - 0xDC00)), rest)
      else none
    | _ => none
  else some (Char.ofNat high, rest)

/-- The rest of a string, whose opening quote has been read. Every step takes a character at least,
so the length of the text bounds their number. -/
def readStringFrom : Nat → List Char → Option (List Char × List Char)
  | 0, _ => none
  | _ + 1, [] => none
  | _ + 1, '"' :: cs => some ([], cs)
  | bound + 1, '\\' :: 'u' :: cs => do
    let (c, cs) ← readCodePoint cs
    let (text, rest) ← readStringFrom bound cs
    return (c :: text, rest)
  | bound + 1, '\\' :: c :: cs => do
    let c ← simpleEscape? c
    let (text, rest) ← readStringFrom bound cs
    return (c :: text, rest)
  | bound + 1, c :: cs => do
    if c.toNat < 0x20 || c == '\\' then none
    else
      let (text, rest) ← readStringFrom bound cs
      return (c :: text, rest)

def readString : List Char → Option (String × List Char)
  | '"' :: cs => (readStringFrom (cs.length + 1) cs).map fun (text, rest) =>
    (String.ofList text, rest)
  | _ => none

/-- Passes the rest of a string, in which halves of code points are not looked at. -/
def skipStringFrom : List Char → Option (List Char)
  | [] => none
  | '"' :: cs => some cs
  | '\\' :: 'u' :: a :: b :: c :: d :: cs =>
    if [a, b, c, d].all fun x => (Text.hexDigit? x).isSome then skipStringFrom cs else none
  | '\\' :: c :: cs => if (simpleEscape? c).isSome then skipStringFrom cs else none
  | c :: cs => if c.toNat < 0x20 || c == '\\' then none else skipStringFrom cs

def skipDigits (cs : List Char) : List Char := cs.dropWhile Char.isDigit

/-- Passes one digit at least. -/
def skipDigits? : List Char → Option (List Char)
  | c :: cs => if c.isDigit then some (skipDigits cs) else none
  | [] => none

/-- Digits without a zero in front, unless it is the only one. -/
def skipWhole : List Char → Option (List Char)
  | '0' :: c :: cs => if c.isDigit then none else some (c :: cs)
  | cs => skipDigits? cs

def skipFraction : List Char → Option (List Char)
  | '.' :: cs => skipDigits? cs
  | cs => some cs

def skipPower : List Char → Option (List Char)
  | c :: cs =>
    if c == 'e' || c == 'E' then
      match cs with
      | '+' :: cs => skipDigits? cs
      | '-' :: cs => skipDigits? cs
      | cs => skipDigits? cs
    else some (c :: cs)
  | [] => some []

def skipNumber (cs : List Char) : Option (List Char) := do
  skipPower (← skipFraction (← skipWhole cs))

mutual

def skipValueFrom : Nat → List Char → Option (List Char)
  | 0, _ => none
  | bound + 1, cs =>
    match skipSpaces cs with
    | 'n' :: cs => skipWord "ull" cs
    | 't' :: cs => skipWord "rue" cs
    | 'f' :: cs => skipWord "alse" cs
    | '"' :: cs => skipStringFrom cs
    | '-' :: cs => skipNumber cs
    | '[' :: cs =>
      match skipSpaces cs with
      | ']' :: cs => some cs
      | cs => skipItems bound cs
    | '{' :: cs =>
      match skipSpaces cs with
      | '}' :: cs => some cs
      | cs => skipMembers bound cs
    | cs => skipNumber cs

def skipItems : Nat → List Char → Option (List Char)
  | 0, _ => none
  | bound + 1, cs => do
    match skipSpaces (← skipValueFrom bound cs) with
    | ',' :: cs => skipItems bound cs
    | ']' :: cs => some cs
    | _ => none

def skipMembers : Nat → List Char → Option (List Char)
  | 0, _ => none
  | bound + 1, cs =>
    match skipSpaces cs with
    | '"' :: cs => do
      match skipSpaces (← skipStringFrom cs) with
      | ':' :: cs =>
        match skipSpaces (← skipValueFrom bound cs) with
        | ',' :: cs => skipMembers bound cs
        | '}' :: cs => some cs
        | _ => none
      | _ => none
    | _ => none

end

/-- Passes a value. Every step takes a character within three steps, which bounds their number. -/
def skipValue (cs : List Char) : Option (List Char) := skipValueFrom (3 * cs.length + 3) cs

end MarkupTree.Json
