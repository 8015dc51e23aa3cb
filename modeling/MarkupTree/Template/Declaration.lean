import MarkupTree.Template.Control

/-! Passing over the declarations in blocks. They are passed up to the semicolon or the braces that end
them, and what is in between is not looked at. -/
namespace MarkupTree.Template

def beginsWithOneOf (words : List String) (tokens : List Token) : Bool :=
  words.any fun word => beginsWithWord word tokens

def beginsFreeName : List Token → Bool
  | .word name :: _ => name.isFree
  | _ => false

/-- Whether a macro is given a name, and so declares it. -/
def beginsMacroDeclaration (tokens : List Token) : Bool :=
  match passPlainPath tokens with
  | .ok (.sign '!' _ :: rest) => beginsFreeName rest || beginsWithWord "try" rest
  | _ => false

/-- Whether a declaration begins here. Some of its words begin closures and blocks as well. -/
def beginsDeclaration (tokens : List Token) : Bool :=
  let behind := tokens.drop 1
  beginsMacroDeclaration tokens ||
    beginsWithOneOf
      ["pub", "extern", "use", "fn", "mod", "type", "struct", "enum", "trait", "impl", "macro"] tokens ||
    (beginsWithWord "crate" tokens && !beginsWith "::" behind) ||
    (beginsWithWord "static" tokens && (beginsWithWord "mut" behind || beginsFreeName behind)) ||
    (beginsWithWord "const" tokens &&
      !(beginsBrace behind || beginsWith "|" behind || beginsWithOneOf ["static", "move"] behind ||
        (beginsWithWord "async" behind &&
          !beginsWithOneOf ["unsafe", "extern", "fn"] (behind.drop 1)))) ||
    (beginsWithWord "unsafe" tokens && !beginsBrace behind) ||
    (beginsWithWord "async" tokens && beginsWithOneOf ["unsafe", "extern", "fn"] behind) ||
    (beginsWithWord "union" tokens && beginsFreeName behind) ||
    (beginsWithWord "auto" tokens && beginsWithWord "trait" behind) ||
    (beginsWithWord "default" tokens && beginsWithOneOf ["unsafe", "impl"] behind)

def leadingWords : List Token → List String
  | .word name :: tokens => name.text :: leadingWords tokens
  | .literal _ :: tokens => leadingWords tokens
  | .group .paren _ :: tokens => leadingWords tokens
  | _ => []

/-- Whether a declaration goes on behind braces, up to a semicolon. The first word that tells what is
declared decides, and a constant has none but its own. -/
def goesBehindBraces (tokens : List Token) : Bool :=
  let words := leadingWords tokens
  match words.find? (["fn", "mod", "struct", "enum", "union", "trait", "impl", "use", "type", "static",
      "crate", "macro"].contains ·) with
  | some word => ["use", "type", "static", "crate"].contains word
  | none => words.contains "const"

def passUpToEnd (behindBraces : Bool) : List Token → Option (List Token)
  | [] => none
  | .sign ';' _ :: tokens => some tokens
  | .group .brace _ :: tokens =>
    if behindBraces then passUpToEnd behindBraces tokens else some tokens
  | _ :: tokens => passUpToEnd behindBraces tokens

/-- A declaration. None begins with the word `crate` any more. -/
def passDeclaration : Scan Unit := do
  let tokens ← Scan.ahead
  if beginsWithWord "crate" tokens then Scan.fail
  Scan.required (Scan.optional (passUpToEnd (goesBehindBraces tokens)))

end MarkupTree.Template
