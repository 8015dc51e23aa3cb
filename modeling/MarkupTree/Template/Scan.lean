import MarkupTree.Template.Grammar

/-! Passing over tokens of which only the end matters. A scan goes through the tokens, and notes on the
way whether a bracket holds more than it should. -/
namespace MarkupTree.Template

/-- The tokens before a scan, and whether a bracket behind it holds too much. -/
structure ScanState where
  tokens : List Token
  full : Bool

abbrev Scan := StateT ScanState Reading

def passWord (word : String) : List Token → Option (List Token)
  | .word name :: tokens => if name == ⟨word, false⟩ then some tokens else none
  | _ => none

def passLabel : List Token → Option (List Token)
  | .sign '\x27' true :: .word _ :: tokens => some tokens
  | _ => none

def Literal.isNumber : Literal → Bool
  | .integer .. | .decimal .. => true
  | _ => false

def passLiteral : List Token → Option (List Token)
  | .literal _ :: tokens => some tokens
  | .sign '-' _ :: .literal literal :: tokens => if literal.isNumber then some tokens else none
  | .word ⟨"true", false⟩ :: tokens => some tokens
  | .word ⟨"false", false⟩ :: tokens => some tokens
  | _ => none

def isMemberNumber (value : Nat) : Bool := value < 4294967296

namespace Scan

variable {α : Type}

def fail : Scan α := throw .malformed

def ahead : Scan (List Token) := return (← get).tokens

def atEnd : Scan Bool := return (← ahead).isEmpty

def goTo (tokens : List Token) : Scan Unit := modify fun state => { state with tokens := tokens }

def note (full : Bool) : Scan Unit := modify fun state => { state with full := state.full || full }

/-- Passes what may be there, and tells whether it was. -/
def optional (pass? : List Token → Option (List Token)) : Scan Bool := do
  match pass? (← ahead) with
  | some tokens =>
    goTo tokens
    return true
  | none => return false

def signs? (signs : String) : Scan Bool := optional (passSigns signs.toList)

def word? (word : String) : Scan Bool := optional (passWord word)

def label? : Scan Bool := optional passLabel

def literal? : Scan Bool := optional passLiteral

def allowed? (condition : Bool) (scan? : Scan Bool) : Scan Bool :=
  if condition then scan? else pure false

def required (scan? : Scan Bool) : Scan Unit := do
  unless ← scan? do fail

def signs (signs : String) : Scan Unit := required (signs? signs)

def word (word : String) : Scan Unit := required (word? word)

/-- Scans what a group holds. Whether anything is left over there is noted only. -/
def group (opened : Delimiter) (scan : Scan Unit) : Scan Unit := do
  match ← ahead with
  | .group delimiter inner :: tokens =>
    if delimiter = opened then
      goTo inner
      scan
      note !(← atEnd)
      goTo tokens
    else fail
  | _ => fail

def commasFrom (ended? : Scan Bool) (scan : Scan Unit) : Nat → Scan Unit
  | 0 => fail
  | bound + 1 => do
    unless ← ended? do
      scan
      unless ← ended? do
        signs ","
        commasFrom ended? scan bound

/-- Things with a comma between them, and perhaps one behind the last, up to the end of them. -/
def commas (ended? : Scan Bool) (scan : Scan Unit) : Scan Unit := do
  commasFrom ended? scan ((← ahead).length + 1)

/-- What is behind the scan, and whether it has passed a bracket that holds too much. -/
def pass (scan : Scan Unit) (tokens : List Token) : Reading (Bool × List Token) := do
  let (_, state) ← scan.run ⟨tokens, false⟩
  return (state.full, state.tokens)

def passMember : Scan Bool := do
  match ← ahead with
  | .word name :: tokens =>
    if !name.isFree then fail
    goTo tokens
    return true
  | .literal (.integer number "") :: tokens =>
    if !isMemberNumber number then fail
    goTo tokens
    return false
  | _ => fail

end Scan

/-- The scans of expressions and blocks, to which other scans leave these parts. -/
structure Parts where
  /-- An expression, in which fields in braces may follow a path or not. -/
  expression : Bool → Scan Unit
  /-- What a pattern is compared with, which binds more tightly than an expression. -/
  matched : Bool → Scan Unit
  /-- The value of an arm, and whether the arm ends with it. -/
  arm : Scan Bool
  block : Scan Unit

end MarkupTree.Template
