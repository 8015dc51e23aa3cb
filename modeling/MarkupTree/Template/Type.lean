import MarkupTree.Template.Scan

/-! Passing over the attributes, paths and types in expressions. -/
namespace MarkupTree.Template

open Scan

def Name.isSegment (name : Name) : Bool :=
  name.isFree || ["self", "Self", "super", "crate"].contains name.text

def passNames : List Token → Reading (List Token)
  | .word name :: .sign ':' true :: .sign ':' _ :: tokens =>
    if name.isSegment then passNames tokens else .error .malformed
  | .word name :: tokens => if name.isSegment then .ok tokens else .error .malformed
  | _ => .error .malformed

def passPlainPath : List Token → Reading (List Token)
  | .sign ':' true :: .sign ':' _ :: tokens => passNames tokens
  | tokens => passNames tokens

/-- Whether arguments in angle brackets begin here, and not a comparison. -/
def beginsAngle (tokens : List Token) : Bool :=
  beginsWith "<" tokens && !beginsWith "<=" tokens && !beginsWith "<<=" tokens

def beginsBound : List Token → Bool
  | .word _ :: _ => true
  | .group .paren _ :: _ => true
  | tokens => beginsWith "::" tokens || beginsWith "?" tokens || (passLabel tokens).isSome

structure PathShape where
  /-- Whether a type in angle brackets is in front. -/
  qualified : Bool
  /-- Whether two colons are in front. -/
  rooted : Bool
  /-- For each of the names, whether it has arguments. -/
  arguments : List Bool

namespace PathShape

def isPlain (shape : PathShape) : Bool := !shape.qualified && !shape.arguments.any id

def isSingle (shape : PathShape) : Bool :=
  !shape.qualified && !shape.rooted && shape.arguments.length == 1

end PathShape

def passMacroInput : Scan Unit := do
  match ← ahead with
  | .group _ _ :: tokens => goTo tokens
  | _ => fail

/-- Names for which bound lifetimes hold. -/
def passBinder : Scan Bool := do
  if ← word? "for" then
    signs "<"
    commas (signs? ">") (required label?)
    return true
  else return false

section

variable (parts : Parts)

/-- A path, and behind it nothing, a group or a value. -/
def passAttribute : Scan Unit := do
  unless ← word? "unsafe" do goTo (← passPlainPath (← ahead))
  match ← ahead with
  | .group _ _ :: tokens => goTo tokens
  | .sign '=' _ :: .sign '#' _ :: _ => fail
  | .sign '=' _ :: tokens =>
    goTo tokens
    parts.expression true
  | _ => return

def passAttributesFrom : Nat → Scan Unit
  | 0 => fail
  | bound + 1 => do
    if ← signs? "#" then
      group .bracket (passAttribute parts)
      passAttributesFrom bound

def passAttributes : Scan Unit := do passAttributesFrom parts ((← ahead).length + 1)

def passInnerAttributesFrom : Nat → Scan Unit
  | 0 => fail
  | bound + 1 => do
    match ← ahead with
    | .sign '#' _ :: .sign '!' _ :: tokens =>
      goTo tokens
      group .bracket (passAttribute parts)
      passInnerAttributesFrom bound
    | _ => return

def passInnerAttributes : Scan Unit := do passInnerAttributesFrom parts ((← ahead).length + 1)

def constant? : Scan Bool := do
  match ← ahead with
  | .group .brace _ :: _ =>
    parts.block
    return true
  | _ => literal?

mutual

/-- A name of a path, and whether it has arguments. In types they may follow at once, elsewhere they
are behind two colons. -/
def passSegmentFrom (typed : Bool) : Nat → Scan Bool
  | 0 => fail
  | bound + 1 => do
    match ← ahead with
    | .word name :: tokens =>
      goTo tokens
      if !name.isSegment then fail
      else if name.isFree || name.text == "Self" then
        match tokens with
        | .sign ':' true :: .sign ':' _ :: .sign '<' joint :: tokens =>
          goTo (.sign '<' joint :: tokens)
          passArgumentsFrom bound
          return true
        | tokens =>
          if typed && beginsAngle tokens then
            passArgumentsFrom bound
            return true
          else return false
      else return false
    | _ => fail

def passSegmentsFrom (typed : Bool) : Nat → Scan (List Bool)
  | 0 => fail
  | bound + 1 => do
    let first ← passSegmentFrom typed bound
    match ← ahead with
    | .sign ':' true :: .sign ':' _ :: .group .paren _ :: _ => return [first]
    | .sign ':' true :: .sign ':' _ :: tokens =>
      goTo tokens
      return first :: (← passSegmentsFrom typed bound)
    | _ => return [first]

def passPathFrom (typed : Bool) : Nat → Scan PathShape
  | 0 => fail
  | bound + 1 => do
    if ← signs? "<" then
      discard (passTypeFrom true bound)
      if ← word? "as" then
        discard (signs? "::")
        discard (passSegmentsFrom true bound)
      signs ">"
      signs "::"
      return ⟨true, false, ← passSegmentsFrom typed bound⟩
    else
      let rooted ← signs? "::"
      return ⟨false, rooted, ← passSegmentsFrom typed bound⟩

def passArgumentsFrom : Nat → Scan Unit
  | 0 => fail
  | bound + 1 => do
    signs "<"
    commas (signs? ">") (passArgumentFrom bound)

/-- An argument: a lifetime, a constant or a type. A single name may be given a value or bounds. -/
def passArgumentFrom : Nat → Scan Unit
  | 0 => fail
  | bound + 1 => do
    match ← ahead with
    | .sign '\x27' true :: .word _ :: .sign '+' _ :: _ => discard (passTypeFrom true bound)
    | _ =>
      if ← label? then return
      if ← constant? parts then return
      if ← passTypeFrom true bound then
        if ← signs? "=" then
          unless ← constant? parts do discard (passTypeFrom true bound)
        else if ← signs? ":" then
          let tokens ← ahead
          unless beginsWith "," tokens || beginsWith ">" tokens do
            discard (passBoundsFrom true bound)

/-- The arguments in parentheses that a path may have in a type, and whether it has. -/
def passInputsFrom : Nat → Scan Bool
  | 0 => fail
  | bound + 1 => do
    match ← ahead with
    | .sign ':' true :: .sign ':' _ :: .group .paren inner :: tokens =>
      goTo (.group .paren inner :: tokens)
      passInputsFrom bound
    | .group .paren _ :: _ =>
      group .paren (commas atEnd (discard (passTypeFrom true bound)))
      passOutputFrom bound
      return true
    | _ => return false

def passOutputFrom : Nat → Scan Unit
  | 0 => fail
  | bound + 1 => do
    if ← signs? "->" then discard (passTypeFrom false bound)

def passTraitFrom : Nat → Scan Unit
  | 0 => fail
  | bound + 1 => do
    discard passBinder
    if ← signs? "?" then discard passBinder
    discard (signs? "::")
    let arguments ← passSegmentsFrom true bound
    unless arguments.getLastD true do discard (passInputsFrom bound)

/-- Bounds with plus signs between them, and whether one of them is not a lifetime. -/
def passBoundsFrom (plus : Bool) : Nat → Scan Bool
  | 0 => fail
  | bound + 1 => do
    let lifetime ← label?
    unless lifetime do
      match ← ahead with
      | .group .paren _ :: _ => group .paren (passTraitFrom bound)
      | _ => passTraitFrom bound
    let more ← allowed? plus (signs? "+")
    if more && beginsBound (← ahead) then return (← passBoundsFrom plus bound) || !lifetime
    else return !lifetime

def passFunctionFrom : Nat → Scan Unit
  | 0 => fail
  | bound + 1 => do
    discard (word? "unsafe")
    if ← word? "extern" then
      match ← ahead with
      | .literal (.text ..) :: tokens => goTo tokens
      | _ => pure ()
    word "fn"
    group .paren (commas atEnd (passInputFrom bound))
    passOutputFrom bound

def passInputFrom : Nat → Scan Unit
  | 0 => fail
  | bound + 1 => do
    passAttributes parts
    match ← ahead with
    | .word name :: .sign ':' joint :: tokens =>
      if !beginsWith "::" (.sign ':' joint :: tokens) &&
          (name.isFree || ["_", "self"].contains name.text) then
        goTo tokens
    | _ => pure ()
    discard (passTypeFrom true bound)

/-- What a type in parentheses may be: nothing, a type, or types with commas. -/
def passGroupedFrom : Nat → Scan Unit
  | 0 => fail
  | bound + 1 => do
    match ← ahead with
    | [] => return
    | .sign '?' _ :: _ => passTraitFrom bound
    | _ =>
      discard (passTypeFrom true bound)
      if ← signs? "," then commas atEnd (discard (passTypeFrom true bound))

/-- A type that begins with a path, and whether it is a single name. -/
def passNamedFrom (plus : Bool) : Nat → Scan Bool
  | 0 => fail
  | bound + 1 => do
    let shape ← passPathFrom true bound
    let applied ← allowed? (!shape.arguments.getLastD true) (passInputsFrom bound)
    match ← ahead with
    | .sign '!' joint :: tokens =>
      if shape.isPlain && !applied && !beginsWith "!=" (.sign '!' joint :: tokens) then
        goTo tokens
        passMacroInput
      return false
    | _ =>
      if ← allowed? (plus && !shape.qualified) (signs? "+") then
        if beginsBound (← ahead) then discard (passBoundsFrom true bound)
        return false
      else return shape.isSingle && !applied

/-- A type, and whether it is a single name. Behind some types no plus sign belongs to them. -/
def passTypeFrom (plus : Bool) : Nat → Scan Bool
  | 0 => fail
  | bound + 1 => do
    let bounded ← passBinder
    match ← ahead with
    | .word name :: tokens =>
      if name.marked then passNamedFrom plus bound
      else
        match name.text with
        | "fn" | "unsafe" | "extern" =>
          passFunctionFrom bound
          return false
        | "dyn" | "impl" =>
          goTo tokens
          if bounded then fail
          required (passBoundsFrom plus bound)
          return false
        | "_" =>
          goTo tokens
          if bounded then fail
          return false
        | _ => passNamedFrom plus bound
    | tokens =>
      if bounded then fail
      match tokens with
      | .group .paren _ :: _ =>
        group .paren (passGroupedFrom bound)
        if ← allowed? plus (signs? "+") then discard (passBoundsFrom true bound)
      | .group .bracket _ :: _ =>
        group .bracket do
          discard (passTypeFrom true bound)
          if ← signs? ";" then parts.expression true
      | .sign '&' _ :: tokens =>
        goTo tokens
        discard label?
        discard (word? "mut")
        discard (passTypeFrom false bound)
      | .sign '*' _ :: tokens =>
        goTo tokens
        unless ← word? "mut" do word "const"
        discard (passTypeFrom false bound)
      | .sign '!' _ :: tokens => goTo tokens
      | .sign '\x27' _ :: _ => required (passBoundsFrom plus bound)
      | _ => return (← passNamedFrom plus bound)
      return false

end

/-- As many steps as passing a type takes. No token is passed through more than eight functions before
the next one is, or one inside it. -/
def typeBound (tokens : List Token) : Nat := 8 * Token.countAll tokens + 8

def passType (plus : Bool) : Scan Unit := do
  discard (passTypeFrom parts plus (typeBound (← ahead)))

def passPath : Scan PathShape := do passPathFrom parts false (typeBound (← ahead))

def passArguments : Scan Unit := do passArgumentsFrom parts (typeBound (← ahead))

end

end MarkupTree.Template
