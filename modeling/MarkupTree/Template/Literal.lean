import MarkupTree.Text.Identifier
import MarkupTree.Text.Hex

/-! Literals of templates: texts, characters and numbers. Each reader answers what it read and the
characters behind it. -/
namespace MarkupTree.Template

/-- The kinds of quoted literals, by what may stand in them. -/
inductive QuoteKind where
  | text
  /-- ASCII only, with any byte by its code. -/
  | bytes
  /-- Any character but the one of code zero. -/
  | terminated
  deriving DecidableEq, Repr, Inhabited

inductive Literal where
  | text (kind : QuoteKind) (text suffix : String)
  /-- A character or a byte between apostrophes. -/
  | character (kind : QuoteKind) (c : Char) (suffix : String)
  | integer (value : Nat) (suffix : String)
  /-- A number with a point, a power of ten or both: its digits before and behind the point, with
  bars among them, and its power. -/
  | decimal (whole fraction : List Char) (power : Option Int) (suffix : String)
  deriving DecidableEq, Repr, Inhabited

abbrev Reader (α : Type) := List Char → Option (α × List Char)

def readIdentifier : Reader (List Char)
  | c :: cs =>
    if Text.isIdentifierStart c then
      some (c :: cs.takeWhile Text.isIdentifierPart, cs.dropWhile Text.isIdentifierPart)
    else none
  | [] => none

def readSuffix (cs : List Char) : String × List Char :=
  match readIdentifier cs with
  | some (name, rest) => (String.ofList name, rest)
  | none => ("", cs)

def readByteCode (kind : QuoteKind) : Reader Char
  | high :: low :: rest => do
    let code := (← Text.hexDigit? high) * 16 + (← Text.hexDigit? low)
    match kind with
    | .text => if code < 0x80 then some (Char.ofNat code, rest) else none
    | .bytes => some (Char.ofNat code, rest)
    | .terminated => if code = 0 then none else some (Char.ofNat code, rest)
  | _ => none

/-- A code of up to six hexadecimal digits before a closing brace. Underscores may follow the first
digit. -/
def readBracedCode : Nat → Nat → Reader Char
  | _, _, [] => none
  | count, code, c :: cs =>
    if c = '_' && 0 < count then readBracedCode count code cs
    else if c = '}' && 0 < count then
      if code < 0xD800 || (0xDFFF < code && code < 0x110000) then some (Char.ofNat code, cs)
      else none
    else if count = 6 then none
    else
      match Text.hexDigit? c with
      | some digit => readBracedCode (count + 1) (code * 16 + digit) cs
      | none => none

def readEscape (kind : QuoteKind) : Reader Char
  | 'n' :: cs => some ('\n', cs)
  | 'r' :: cs => some ('\r', cs)
  | 't' :: cs => some ('\t', cs)
  | '\\' :: cs => some ('\\', cs)
  | '\x27' :: cs => some ('\x27', cs)
  | '"' :: cs => some ('"', cs)
  | '0' :: cs => if kind = .terminated then none else some ('\x00', cs)
  | 'x' :: cs => readByteCode kind cs
  | 'u' :: '{' :: cs =>
    match kind with
    | .text => readBracedCode 0 0 cs
    | .bytes => none
    | .terminated => do
      let (c, rest) ← readBracedCode 0 0 cs
      if c = '\x00' then none else some (c, rest)
  | _ => none

def isAllowed (kind : QuoteKind) (c : Char) : Bool :=
  match kind with
  | .text => true
  | .bytes => c.toNat < 0x80
  | .terminated => c ≠ '\x00'

def isIndent (c : Char) : Bool := c == ' ' || c == '\t' || c == '\n'

/-- The rest of a quoted literal. A line may end in a backslash; the line end is then left out with
the blanks and line ends that follow it (`continued`). A carriage return stands before a line feed
only. The bound is on the number of steps. -/
def readQuoted (kind : QuoteKind) : Nat → Bool → Reader (List Char)
  | 0, _, _ => none
  | _ + 1, _, [] => none
  | _ + 1, _, '"' :: cs => some ([], cs)
  | bound + 1, continued, '\r' :: cs =>
    match cs with
    | '\n' :: cs =>
      (readQuoted kind bound continued cs).map fun (text, rest) =>
        (if continued then text else '\n' :: text, rest)
    | _ => none
  | bound + 1, _, '\\' :: '\n' :: cs => readQuoted kind bound true cs
  | bound + 1, _, '\\' :: '\r' :: cs =>
    match cs with
    | '\n' :: cs => readQuoted kind bound true cs
    | _ => none
  | bound + 1, _, '\\' :: cs => do
    let (c, cs) ← readEscape kind cs
    let (text, rest) ← readQuoted kind bound false cs
    return (c :: text, rest)
  | bound + 1, continued, c :: cs =>
    if continued && isIndent c then readQuoted kind bound true cs
    else if isAllowed kind c then
      (readQuoted kind bound false cs).map fun (text, rest) => (c :: text, rest)
    else none

/-- The rest of a quoted literal without escapes, which ends at a quote before so many marks. -/
def readVerbatim (kind : QuoteKind) (marks : Nat) : Reader (List Char)
  | [] => none
  | '\r' :: '\n' :: cs =>
    (readVerbatim kind marks cs).map fun (text, rest) => ('\r' :: '\n' :: text, rest)
  | c :: cs =>
    if c = '"' && (List.replicate marks '#').isPrefixOf cs then some ([], cs.drop marks)
    else if c = '\r' || !isAllowed kind c then none
    else (readVerbatim kind marks cs).map fun (text, rest) => (c :: text, rest)

/-- Marks, a quote, and the text up to the quote before as many marks. -/
def readMarked (kind : QuoteKind) (cs : List Char) : Option (List Char × List Char) :=
  let marks := (cs.takeWhile (· == '#')).length
  match cs.drop marks with
  | '"' :: rest => if 255 < marks then none else readVerbatim kind marks rest
  | _ => none

def readCooked (kind : QuoteKind) (cs : List Char) : Option (List Char × List Char) :=
  readQuoted kind (cs.length + 1) false cs

def readCharacter (kind : QuoteKind) : Reader Char := fun cs => do
  let (c, rest) ←
    match cs with
    | '\\' :: cs => readEscape kind cs
    | c :: cs => if isAllowed kind c then some (c, cs) else none
    | [] => none
  match rest with
  | '\x27' :: rest => some (c, rest)
  | _ => none

def readQuotation (cs : List Char) : Option (Literal × List Char) :=
  let suffixed {α : Type} (literal : α → String → Literal) (result : Option (α × List Char)) :
      Option (Literal × List Char) :=
    result.map fun (found, rest) => (literal found (readSuffix rest).1, (readSuffix rest).2)
  let text (kind : QuoteKind) := suffixed fun text => .text kind (String.ofList text)
  match cs with
  | '"' :: cs => text .text (readCooked .text cs)
  | 'r' :: cs => text .text (readMarked .text cs)
  | 'b' :: '"' :: cs => text .bytes (readCooked .bytes cs)
  | 'b' :: 'r' :: cs => text .bytes (readMarked .bytes cs)
  | 'c' :: '"' :: cs => text .terminated (readCooked .terminated cs)
  | 'c' :: 'r' :: cs => text .terminated (readMarked .terminated cs)
  | 'b' :: '\x27' :: cs => suffixed (.character .bytes) (readCharacter .bytes cs)
  | '\x27' :: cs => suffixed (.character .text) (readCharacter .text cs)
  | _ => none

def isDigitOrBar (c : Char) : Bool := c.isDigit || c == '_'

def digitsValue (cs : List Char) : Nat :=
  (cs.filter Char.isDigit).foldl (fun value c => value * 10 + (c.toNat - '0'.toNat)) 0

/-- The power of ten of the last digit of a number. -/
def lastPower (fraction : List Char) (power : Option Int) : Int :=
  power.getD 0 - (fraction.filter Char.isDigit).length

/-- A power of ten behind a number: a sign if there is one, and a digit at least. -/
def readPower (cs : List Char) : Option (Int × List Char) :=
  let cs := cs.dropWhile (· == '_')
  let (negative, cs) :=
    match cs with
    | '-' :: cs => (true, cs)
    | '+' :: cs => (false, cs)
    | cs => (false, cs)
  let digits := cs.takeWhile isDigitOrBar
  if digits.any Char.isDigit then
    let value : Int := digitsValue digits
    some (if negative then -value else value, cs.dropWhile isDigitOrBar)
  else none

theorem readPower_bar (cs : List Char) : readPower ('_' :: cs) = readPower cs := rfl

/-- A power of ten that begins with none of what may be in front of its digits. -/
theorem readPower_unsigned {c : Char} (hbar : c ≠ '_') (hminus : c ≠ '-') (hplus : c ≠ '+')
    (cs : List Char) :
    readPower (c :: cs) =
      if ((c :: cs).takeWhile isDigitOrBar).any Char.isDigit then
        some ((digitsValue ((c :: cs).takeWhile isDigitOrBar) : Int),
          (c :: cs).dropWhile isDigitOrBar)
      else none := by
  have hu : (c :: cs).dropWhile (· == '_') = c :: cs :=
    List.dropWhile_cons_of_neg fun h => hbar (eq_of_beq h)
  simp only [readPower, hu]
  split
  · rename_i heq
    exact absurd (List.cons.inj heq).1 hminus
  · rename_i heq
    exact absurd (List.cons.inj heq).1 hplus
  · rfl

def endsWord (cs : List Char) : Bool := !(cs.head?.any Text.isIdentifierPart)

/-- A number with a point, a power of ten or both. A point before another point or a name is none of
the number's. -/
def readDecimal (cs : List Char) : Option (Literal × List Char) := do
  if !(cs.head?.any Char.isDigit) then none
  else
    let whole := cs.takeWhile isDigitOrBar
    let build (fraction : List Char) (power : Option Int) (rest : List Char) :
        Option (Literal × List Char) :=
      let (suffix, rest) := readSuffix rest
      if endsWord rest then some (.decimal whole fraction power suffix, rest) else none
    match cs.dropWhile isDigitOrBar with
    | '.' :: cs =>
      if cs.head?.any fun c => c == '.' || Text.isIdentifierStart c then none
      else
        let fraction := cs.takeWhile isDigitOrBar
        let rest := cs.dropWhile isDigitOrBar
        match rest with
        | c :: cs =>
          if c == 'e' || c == 'E' then
            match readPower cs with
            | some (power, rest) => build fraction (some power) rest
            | none => build fraction none rest
          else build fraction none rest
        | [] => build fraction none []
    | c :: cs =>
      if c == 'e' || c == 'E' then
        match readPower cs with
        | some (power, rest) => build [] (some power) rest
        | none => none
      else none
    | [] => none

def readDigits (base : Nat) : List Char → List Nat × List Char
  | [] => ([], [])
  | c :: cs =>
    if c = '_' then readDigits base cs
    else
      match Text.hexDigit? c with
      | some digit =>
        if digit < base then
          let (digits, rest) := readDigits base cs
          (digit :: digits, rest)
        else ([], c :: cs)
      | none => ([], c :: cs)

/-- A whole number: decimal, or in the base that `0x`, `0o` or `0b` tells. -/
def readInteger (cs : List Char) : Option (Literal × List Char) :=
  let (base, body) :=
    match cs with
    | '0' :: 'x' :: cs => (16, cs)
    | '0' :: 'o' :: cs => (8, cs)
    | '0' :: 'b' :: cs => (2, cs)
    | cs => (10, cs)
  if base = 10 && !(body.head?.any Char.isDigit) then none
  else
    let (digits, rest) := readDigits base body
    if digits.isEmpty || rest.head?.any Char.isDigit then none
    else
      let (suffix, rest) := readSuffix rest
      if endsWord rest then
        some (.integer (digits.foldl (fun value digit => value * base + digit) 0) suffix, rest)
      else none

def readLiteral (cs : List Char) : Option (Literal × List Char) :=
  (readQuotation cs).or ((readDecimal cs).or (readInteger cs))

end MarkupTree.Template
