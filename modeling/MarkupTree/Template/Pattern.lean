import MarkupTree.Template.Type

/-! Passing over patterns: those of parameters, of bindings, and of the arms of a choice. -/
namespace MarkupTree.Template

open Scan

def beginsPathPattern : List Token → Bool
  | .word name :: tokens =>
    let continued :=
      match tokens with
      | .group .paren _ :: _ => true
      | .group .brace _ :: _ => true
      | tokens => beginsWith "::" tokens || beginsWith "!" tokens || beginsWith ".." tokens
    if name.isFree then continued
    else ["Self", "super", "crate"].contains name.text ||
      (name.text == "self" && beginsWith "::" tokens)
  | tokens => beginsWith "::" tokens || beginsWith "<" tokens

/-- Whether a range has no end before these tokens. -/
def endsRangePattern (tokens : List Token) : Bool :=
  tokens.isEmpty || (beginsWith ":" tokens && !beginsWith "::" tokens) ||
    beginsWithWord "if" tokens || ["|", "=", ",", ";"].any fun signs => beginsWith signs tokens

def passBoundName : Scan Unit := do
  match ← ahead with
  | .word name :: tokens =>
    if name.isFree || name.text == "self" then goTo tokens else fail
  | _ => fail

def beginsConstant (tokens : List Token) : Bool :=
  (passLiteral tokens).isSome || beginsWithWord "const" tokens

section

variable (parts : Parts)

/-- The end of a range, and whether there is one. -/
def passRangeEnd : Scan Bool := do
  if endsRangePattern (← ahead) then return false
  unless ← literal? do
    if ← word? "const" then parts.block
    else discard (passPath parts)
  return true

/-- The rest of a range, if one goes on here. One that is closed has an end. -/
def passRange : Scan Unit := do
  let tokens ← ahead
  if beginsWith ".." tokens then
    let closed := beginsWith "..." tokens || beginsWith "..=" tokens
    goTo (tokens.drop (if closed then 3 else 2))
    unless ← passRangeEnd parts do
      if closed then fail

mutual

def passSinglePatternFrom : Nat → Scan Unit
  | 0 => fail
  | bound + 1 => do
    let tokens ← ahead
    if beginsPathPattern tokens then passPathPatternFrom bound
    else if beginsConstant tokens then
      discard (passRangeEnd parts)
      passRange parts
    else if beginsWith ".." tokens && !beginsWith "..." tokens then passRange parts
    else
      match tokens with
      | .group .paren _ :: _ => group .paren (commas atEnd (passPatternFrom bound))
      | .group .bracket _ :: _ => group .bracket (commas atEnd (passPatternFrom bound))
      | .sign '&' _ :: tokens =>
        goTo tokens
        discard (word? "mut")
        passSinglePatternFrom bound
      | .word ⟨"_", false⟩ :: tokens => goTo tokens
      | .word ⟨"box", false⟩ :: tokens =>
        goTo tokens
        passSinglePatternFrom bound
      | _ =>
        discard (word? "ref")
        discard (word? "mut")
        passBoundName
        if ← signs? "@" then passSinglePatternFrom bound

def passPathPatternFrom : Nat → Scan Unit
  | 0 => fail
  | bound + 1 => do
    let shape ← passPath parts
    match ← ahead with
    | .group .brace _ :: _ => group .brace (passFieldPatternsFrom bound)
    | .group .paren _ :: _ => group .paren (commas atEnd (passPatternFrom bound))
    | .sign '!' joint :: tokens =>
      if shape.isPlain && !beginsWith "!=" (.sign '!' joint :: tokens) then
        goTo tokens
        passMacroInput
    | _ => passRange parts

/-- The fields of a pattern, up to two points in the place of those that are left out. -/
def passFieldPatternsFrom : Nat → Scan Unit
  | 0 => fail
  | bound + 1 => do
    unless ← atEnd do
      passAttributes parts
      unless ← signs? ".." do
        passFieldPatternFrom bound
        unless ← atEnd do
          signs ","
          passFieldPatternsFrom bound

def passFieldPatternFrom : Nat → Scan Unit
  | 0 => fail
  | bound + 1 => do
    let boxed ← word? "box"
    let borrowed ← word? "ref"
    let mutable ← word? "mut"
    let bare := !boxed && !borrowed && !mutable
    let named ← passMember
    if !named && !bare then fail
    if !named || (bare && beginsWith ":" (← ahead)) then
      signs ":"
      passPatternFrom bound

def passPatternFrom : Nat → Scan Unit
  | 0 => fail
  | bound + 1 => do
    discard (signs? "|")
    passSinglePatternFrom bound
    let tokens ← ahead
    if beginsWith "|" tokens && !beginsWith "||" tokens && !beginsWith "|=" tokens then
      passPatternFrom bound

end

def patternBound (tokens : List Token) : Nat := 4 * Token.countAll tokens + 4

def passSinglePattern : Scan Unit := do
  passSinglePatternFrom parts (patternBound (← ahead))

def passPattern : Scan Unit := do passPatternFrom parts (patternBound (← ahead))

end

end MarkupTree.Template
