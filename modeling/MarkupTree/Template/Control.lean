import MarkupTree.Template.Pattern

/-! Passing over the expressions that begin with a word or a bar: closures, choices, loops, blocks of
every kind, and what leaves them. -/
namespace MarkupTree.Template

open Scan

def beginsExpression : List Token → Bool
  | .word name :: _ => name != ⟨"as", false⟩
  | .literal _ :: _ => true
  | .group _ _ :: _ => true
  | tokens =>
    (beginsWith "!" tokens && !beginsWith "!=" tokens) ||
      (beginsWith "-" tokens && !beginsWith "-=" tokens && !beginsWith "->" tokens) ||
      (beginsWith "*" tokens && !beginsWith "*=" tokens) ||
      (beginsWith "|" tokens && !beginsWith "|=" tokens) ||
      (beginsWith "&" tokens && !beginsWith "&=" tokens) || beginsAngle tokens ||
      beginsWith ".." tokens || beginsWith "::" tokens || beginsWith "#" tokens ||
      (passLabel tokens).isSome

def beginsBrace : List Token → Bool
  | .group .brace _ :: _ => true
  | _ => false

def endsInBrace (tokens : List Token) : Bool :=
  match tokens.getLast? with
  | some (.group .brace _) => true
  | _ => false

/-- Whether lifetimes are bound behind the word `for`, as before a closure. -/
def beginsBinder : List Token → Bool
  | .sign '<' _ :: tokens => (passLabel tokens).isSome || beginsWith ">" tokens
  | _ => false

section

variable (parts : Parts)

def passParameter : Scan Unit := do
  passAttributes parts
  passSinglePattern parts
  if ← signs? ":" then passType parts true

def passClosure (fields : Bool) : Scan Unit := do
  discard passBinder
  for word in ["const", "static", "async", "move"] do discard (word? word)
  signs "|"
  commas (signs? "|") (passParameter parts)
  if ← signs? "->" then
    passType parts true
    parts.block
  else parts.expression fields

def passIfFrom : Nat → Scan Unit
  | 0 => fail
  | bound + 1 => do
    word "if"
    parts.expression false
    parts.block
    if ← word? "else" then
      if beginsWithWord "if" (← ahead) then passIfFrom bound else parts.block

def passIf : Scan Unit := do passIfFrom parts ((← ahead).length + 1)

/-- The arms of a choice. Behind a value that does not end its arm there is a comma, except behind the
last. -/
def passArmsFrom : Nat → Scan Unit
  | 0 => fail
  | bound + 1 => do
    unless ← atEnd do
      passAttributes parts
      passPattern parts
      if ← word? "if" then parts.expression true
      signs "=>"
      let ended ← parts.arm
      unless (← signs? ",") || ended do required atEnd
      passArmsFrom bound

def passMatch : Scan Unit := do
  word "match"
  parts.expression false
  group .brace do
    passInnerAttributes parts
    passArmsFrom parts ((← ahead).length + 1)

def passLoop : Scan Unit := do
  if ← label? then signs ":"
  if ← word? "while" then parts.expression false
  else if ← word? "for" then
    passPattern parts
    word "in"
    parts.expression false
  else discard (word? "loop")
  parts.block

def passLet (fields : Bool) : Scan Unit := do
  word "let"
  passPattern parts
  signs "="
  parts.matched fields

/-- A binding up to its semicolon. What is done where the pattern does not fit comes behind a value that
does not end with a brace. -/
def passBinding : Scan Unit := do
  word "let"
  passSinglePattern parts
  if ← signs? ":" then passType parts true
  if ← signs? "=" then
    let tokens ← ahead
    parts.expression true
    let behind ← ahead
    unless endsInBrace (tokens.take (tokens.length - behind.length)) do
      if ← word? "else" then parts.block
  unless beginsWith ";" (← ahead) do fail

def passFieldsFrom : Nat → Scan Unit
  | 0 => fail
  | bound + 1 => do
    unless ← atEnd do
      if ← signs? ".." then
        unless ← atEnd do parts.expression true
      else
        passAttributes parts
        let named ← passMember
        if !named || beginsWith ":" (← ahead) then
          signs ":"
          parts.expression true
        unless ← atEnd do
          signs ","
          passFieldsFrom bound

def passFields : Scan Unit := group .brace do passFieldsFrom parts ((← ahead).length + 1)

def passBreak (fields : Bool) : Scan Unit := do
  if (← label?) && beginsWith ":" (← ahead) then fail
  let tokens ← ahead
  if beginsExpression tokens && (fields || !beginsBrace tokens) then parts.expression true

/-- An expression that begins with a word which is no name. -/
def passKeyword (fields : Bool) : Scan Unit := do
  match ← ahead with
  | .word name :: tokens =>
    match name.text with
    | "if" => passIf parts
    | "match" => passMatch parts
    | "let" => passLet parts fields
    | "while" | "loop" => passLoop parts
    | "for" => if beginsBinder tokens then passClosure parts fields else passLoop parts
    | "move" | "static" => passClosure parts fields
    | "const" =>
      if beginsBrace tokens then
        goTo tokens
        parts.block
      else passClosure parts fields
    | "async" =>
      let moved := (passWord "move" tokens).getD tokens
      if beginsBrace moved then
        goTo moved
        parts.block
      else passClosure parts fields
    | "unsafe" | "try" =>
      goTo tokens
      parts.block
    | "return" | "yield" =>
      goTo tokens
      if beginsExpression tokens then parts.expression true
    | "become" =>
      goTo tokens
      parts.expression true
    | "break" =>
      goTo tokens
      passBreak parts fields
    | "continue" =>
      goTo tokens
      discard label?
    | "builtin" =>
      goTo tokens
      signs "#"
      passBoundName
      group .paren (goTo [])
    | "_" => goTo tokens
    | _ => fail
  | _ => fail

end

end MarkupTree.Template
