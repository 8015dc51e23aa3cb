import MarkupTree.Template.Literal
import MarkupTree.Text.Blank

/-! The tokens of a template. Brackets are matched here, so what stands between two of them is one
token with tokens inside. -/
namespace MarkupTree.Template

inductive Delimiter where
  | paren
  | bracket
  | brace
  deriving DecidableEq, Repr, Inhabited

/-- An identifier. A marked one is written with `r#` before it, and is none of the keywords. -/
structure Name where
  text : String
  marked : Bool
  deriving DecidableEq, Repr, Inhabited

def Name.spelling (name : Name) : String := if name.marked then "r#" ++ name.text else name.text

def Name.unmarked (name : Name) : String :=
  match name.spelling.toList with
  | 'r' :: '#' :: rest => String.ofList rest
  | _ => name.spelling

/-- Tokens before brackets are matched. -/
inductive Lexeme where
  | word (name : Name)
  /-- A sign, and whether another sign follows it at once. -/
  | sign (c : Char) (joint : Bool)
  | literal (literal : Literal)
  | opening (delimiter : Delimiter)
  | closing (delimiter : Delimiter)
  deriving DecidableEq, Repr, Inhabited

inductive Token where
  | word (name : Name)
  | sign (c : Char) (joint : Bool)
  | literal (literal : Literal)
  | group (delimiter : Delimiter) (tokens : List Token)
  deriving Repr, Inhabited

namespace Lexeme

def openingOf? : Char → Option Delimiter
  | '(' => some .paren
  | '[' => some .bracket
  | '{' => some .brace
  | _ => none

def closingOf? : Char → Option Delimiter
  | ')' => some .paren
  | ']' => some .bracket
  | '}' => some .brace
  | _ => none

def isSignChar (c : Char) : Bool := "~!@#$%^&*-=+|;:,<.>/?\x27".toList.contains c

/-- Whether a sign stands here. The beginning of a comment is none. -/
def beginsSign : List Char → Bool
  | '/' :: '/' :: _ => false
  | '/' :: '*' :: _ => false
  | c :: _ => isSignChar c
  | [] => false

/-- Blanks between tokens, direction marks among them. -/
def isGap (c : Char) : Bool := Text.isBlank c || c == '\u200e' || c == '\u200f'

def skipComment : Nat → List Char → Option (List Char)
  | _, [] => none
  | depth, '/' :: '*' :: cs => skipComment (depth + 1) cs
  | depth, '*' :: '/' :: cs => if depth ≤ 1 then some cs else skipComment (depth - 1) cs
  | depth, _ :: cs => skipComment depth cs

/-- The line up to its end, which stays with the rest. -/
def splitLine : List Char → List Char × List Char
  | [] => ([], [])
  | '\n' :: cs => ([], '\n' :: cs)
  | '\r' :: '\n' :: cs => ([], '\n' :: cs)
  | c :: cs => (c :: (splitLine cs).1, (splitLine cs).2)

def hasWholeLineEnds : List Char → Bool
  | [] => true
  | '\r' :: '\n' :: cs => hasWholeLineEnds cs
  | c :: cs => c != '\r' && hasWholeLineEnds cs

/-- What a documentation comment stands for: an attribute in brackets, whole or inner. -/
def documentation (inner : Bool) (text : List Char) : List Lexeme :=
  [.sign '#' inner] ++ (if inner then [.sign '!' false] else []) ++
    [.opening .bracket, .word ⟨"doc", false⟩, .sign '=' false,
      .literal (.text .text (String.ofList text) ""), .closing .bracket]

/-- The comment that the characters begin with, by the lexemes it stands for and what follows it.
The inner answer is nothing where the comment is not one that may stand there. -/
def readComment? : List Char → Option (Option (List Lexeme × List Char))
  | '/' :: '/' :: cs =>
    let (line, rest) := splitLine cs
    let documented (inner : Bool) : Option (List Lexeme × List Char) :=
      if hasWholeLineEnds line then some (documentation inner (line.drop 1), rest) else none
    match cs with
    | '/' :: '/' :: _ => some (some ([], rest))
    | '/' :: _ => some (documented false)
    | '!' :: _ => some (documented true)
    | _ => some (some ([], rest))
  | '/' :: '*' :: cs =>
    let rest := skipComment 1 cs
    let body := rest.map fun rest => cs.take (cs.length - rest.length - 2)
    let documented (inner : Bool) : Option (List Lexeme × List Char) := do
      let text ← body
      if hasWholeLineEnds text then some (documentation inner (text.drop 1), ← rest) else none
    match cs with
    | '*' :: '/' :: _ => some (rest.map fun rest => ([], rest))
    | '*' :: '*' :: _ => some (rest.map fun rest => ([], rest))
    | '*' :: _ => some (documented false)
    | '!' :: _ => some (documented true)
    | _ => some (rest.map fun rest => ([], rest))
  | _ => none

/-- Beginnings of literals, which no identifier has. -/
def literalBeginnings : List (List Char) :=
  [['r', '"'], ['r', '#', '"'], ['r', '#', '#'], ['b', '"'], ['b', '\x27'], ['b', 'r', '"'],
   ['b', 'r', '#'], ['c', '"'], ['c', 'r', '"'], ['c', 'r', '#']]

/-- The words that stay keywords also when they are marked. -/
def neverMarked : List String := ["_", "super", "self", "Self", "crate"]

def readName : List Char → Option (Name × List Char)
  | 'r' :: '#' :: cs => do
    let (name, rest) ← readIdentifier cs
    let name := String.ofList name
    if neverMarked.contains name then none else some (⟨name, true⟩, rest)
  | cs => (readIdentifier cs).map fun (name, rest) => (⟨String.ofList name, false⟩, rest)

/-- Whether the characters behind an apostrophe are a name, and not a character before another
apostrophe. -/
def beginsLabel (cs : List Char) : Bool :=
  match readName cs with
  | some (_, '\x27' :: _) => false
  | some (_, '#' :: _) => ['r', '#'].isPrefixOf cs
  | some _ => true
  | none => false

def readSign : List Char → Option (Lexeme × List Char)
  | '\x27' :: cs => if beginsLabel cs then some (.sign '\x27' true, cs) else none
  | c :: cs => if beginsSign (c :: cs) then some (.sign c (beginsSign cs), cs) else none
  | [] => none

def readWord (cs : List Char) : Option (Lexeme × List Char) :=
  if literalBeginnings.any (·.isPrefixOf cs) then none
  else (readName cs).map fun (name, rest) => (.word name, rest)

def readLeaf (cs : List Char) : Option (Lexeme × List Char) :=
  ((readLiteral cs).map fun (found, rest) => (.literal found, rest)).or
    ((readSign cs).or (readWord cs))

/-- The lexemes of a text. Each takes a character at least, so the length bounds their number. -/
def readAllFrom : Nat → List Char → Option (List Lexeme)
  | _, [] => some []
  | 0, _ => none
  | bound + 1, c :: cs =>
    if isGap c then readAllFrom bound cs
    else
      match readComment? (c :: cs) with
      | some comment => do
        let (lexemes, rest) ← comment
        return lexemes ++ (← readAllFrom bound rest)
      | none =>
        match openingOf? c, closingOf? c with
        | some delimiter, _ => (readAllFrom bound cs).map (.opening delimiter :: ·)
        | none, some delimiter => (readAllFrom bound cs).map (.closing delimiter :: ·)
        | none, none => do
          let (lexeme, rest) ← readLeaf (c :: cs)
          return lexeme :: (← readAllFrom bound rest)

def readAll (cs : List Char) : Option (List Lexeme) := readAllFrom cs.length cs

end Lexeme

namespace Token

/-- Matches brackets. `outer` holds the groups that are open, the innermost first, each by its
bracket and the tokens before it; `done` holds the tokens of the group that is being read. Both
hold the latest token first. -/
def ofLexemesFrom (outer : List (Delimiter × List Token)) (done : List Token) :
    List Lexeme → Option (List Token)
  | [] => if outer.isEmpty then some done.reverse else none
  | .word name :: lexemes => ofLexemesFrom outer (.word name :: done) lexemes
  | .sign c joint :: lexemes => ofLexemesFrom outer (.sign c joint :: done) lexemes
  | .literal value :: lexemes => ofLexemesFrom outer (.literal value :: done) lexemes
  | .opening delimiter :: lexemes => ofLexemesFrom ((delimiter, done) :: outer) [] lexemes
  | .closing delimiter :: lexemes =>
    match outer with
    | (opened, before) :: outer =>
      if opened = delimiter then
        ofLexemesFrom outer (.group delimiter done.reverse :: before) lexemes
      else none
    | [] => none

def ofLexemes? (lexemes : List Lexeme) : Option (List Token) := ofLexemesFrom [] [] lexemes

/-- The characters of a text behind a byte order mark, if there is one. -/
def bodyOf (text : String) : List Char :=
  match text.toList with
  | '\ufeff' :: cs => cs
  | cs => cs

def ofText? (text : String) : Option (List Token) := do
  ofLexemes? (← Lexeme.readAll (bodyOf text))

mutual

def count : Token → Nat
  | .group _ tokens => countAll tokens + 1
  | _ => 1

def countAll : List Token → Nat
  | [] => 0
  | token :: tokens => token.count + countAll tokens

end

end Token

end MarkupTree.Template
