import MarkupTree.Template.Node
import MarkupTree.Template.Operator
import MarkupTree.Keyword

/-! Reading a template out of its tokens, with any reader of the expressions in it. The first error in
reading order is the answer, and the lone names of a call are looked at when its arguments have been
read. -/
namespace MarkupTree.Template

abbrev Reading (α : Type) := Except TemplateError α

/-- An expression that has been read, and how many tokens it takes: one at least. -/
structure Taken where
  value : Expression
  count : Nat
  pos : 0 < count

/-- What reads the expression that tokens begin with. -/
abbrev ExpressionReader := List Token → Reading Taken

namespace Taken

def rest (taken : Taken) (tokens : List Token) : List Token := tokens.drop taken.count

def held (taken : Taken) (inner : List Token) : Expression :=
  if (taken.rest inner).isEmpty then taken.value else .overfull

/-- The expression as the value of an attribute, where `None` makes the attribute bare. -/
def given? (taken : Taken) : Option Expression :=
  match taken.value with
  | .absent => none
  | value => some value

end Taken

def Name.isFree (name : Name) : Bool :=
  name.marked || name.text == "gen" || !(name.text == "_" || Keyword.all.contains name.text)

inductive ArgumentKind where
  | braced (inner rest : List Token)
  /-- A name with a value, which the tokens begin with. -/
  | named (name : Name) (tokens : List Token)
  | node
  | lone (name : Name) (rest : List Token)
  | expression

/-- A name is one with a value before an equals sign, but not before two; it is the tag of a node
before parentheses, and stands alone before a comma and at the end. -/
def argumentKind : List Token → ArgumentKind
  | .group .brace inner :: rest => .braced inner rest
  | .word name :: rest =>
    if name.isFree then
      match rest with
      | .sign '=' joint :: tokens =>
        if beginsWith "==" (.sign '=' joint :: tokens) then .expression else .named name tokens
      | .group .paren _ :: _ => .node
      | [] => .lone name []
      | .sign ',' joint :: tokens => .lone name (.sign ',' joint :: tokens)
      | _ => .expression
    else .expression
  | _ => .expression

section Readers

variable (expression : ExpressionReader)

mutual

def readArgument : Nat → List Token → Reading (Argument × List Token)
  | 0, _ => .error .malformed
  | bound + 1, tokens =>
    match argumentKind tokens with
    | .braced inner rest => do return (.content ((← expression inner).held inner), rest)
    | .named name tokens => do
      let taken ← expression tokens
      return (.attribute name taken.given?, taken.rest tokens)
    | .node => do
      let (node, rest) ← readNode bound tokens
      return (.node node, rest)
    | .lone name rest => .ok (.bare name, rest)
    | .expression => do
      let taken ← expression tokens
      return (.content taken.value, taken.rest tokens)

def readArguments : Nat → List Token → Reading (List Argument)
  | _, [] => .ok []
  | 0, _ => .error .malformed
  | bound + 1, tokens => do
    let (argument, rest) ← readArgument bound tokens
    match rest with
    | [] => return [argument]
    | .sign ',' _ :: rest => return argument :: (← readArguments bound rest)
    | _ => .error .malformed

def readCalls (later : Bool) : Nat → List Token → Reading (List Call × List Token)
  | 0, _ => .error .malformed
  | bound + 1, .group .paren inner :: tokens => do
    let arguments ← readArguments bound inner
    match ambiguity? later arguments with
    | some name => .error (.ambiguous name.spelling)
    | none =>
      let (calls, rest) ← readCalls true bound tokens
      return (⟨arguments⟩ :: calls, rest)
  | _ + 1, tokens => .ok ([], tokens)

def readNode : Nat → List Token → Reading (Node × List Token)
  | 0, _ => .error .malformed
  | bound + 1, .word tag :: tokens =>
    if tag.isFree then do
      let (calls, rest) ← readCalls false bound tokens
      return (⟨tag, calls⟩, rest)
    else .error .malformed
  | _ + 1, _ => .error .malformed

end

/-- As many steps as reading a node of so many tokens takes. A token is passed through two readers
before the next one is, or one inside it. -/
def readingBound (tokens : List Token) : Nat := 2 * Token.countAll tokens + 1

/-- What a template comes to that has been read up to its root. -/
def finish (source : Source) (behind : List Token) : Reading Source :=
  if !behind.isEmpty then .error .severalRoots
  else if source.isOverfull then .error .malformed
  else .ok source

/-- The word `in`, an expression for the factory, a semicolon, and the root. -/
def readTemplate : List Token → Reading Source
  | .word ⟨"in", false⟩ :: tokens => do
    let factory ← expression tokens
    match factory.rest tokens with
    | .sign ';' _ :: tokens =>
      let (root, behind) ← readNode expression (readingBound tokens) tokens
      finish ⟨factory.value, root⟩ behind
    | _ => .error .malformed
  | _ => .error .malformed

def readWith (text : String) : Reading Source :=
  match Token.ofText? text with
  | some tokens => readTemplate expression tokens
  | none => .error .malformed

end Readers

end MarkupTree.Template
