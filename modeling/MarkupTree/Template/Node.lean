import MarkupTree.Template.Token

/-! What a template says: a tag with calls, and in each call attributes and content in any order. -/
namespace MarkupTree.Template

inductive TemplateError where
  | malformed
  /-- A lone name that could be meant as an attribute or as content. -/
  | ambiguous (name : String)
  /-- Something follows the root. -/
  | severalRoots
  deriving DecidableEq, Repr, Inhabited

def TemplateError.message? : TemplateError → Option String
  | .malformed => none
  | .ambiguous name =>
    some ("`" ++ name ++ "` is ambiguous in a call with content; write `\x7b " ++ name ++
      " \x7d` for content or `" ++ name ++ " = None` for a bare attribute")
  | .severalRoots => some "expected a single root element"

def factoryWord : String := "dom"

/-- The name that a template binds the factory to. -/
def boundFactoryWord : String := "__dom"

/-- The name of an element in its own calls, as it was before each of them. -/
def boundElementWord : String := "__el"

mutual

inductive Expression where
  | literal (literal : Literal)
  | bool (value : Bool)
  | variable (name : String)
  /-- The word `None` by itself. -/
  | absent
  | unit
  | present (value : Expression)
  /-- An array or a tuple. -/
  | list (values : List Expression)
  | negate (value : Expression)
  | equal (left right : Expression)
  | raw (html : Expression)
  | sequence (values : Expression)
  /-- Values in turn, of which the last one counts. -/
  | block (values : List Expression)
  /-- A template in the template. -/
  | nested (source : Source)
  /-- A template in the template that cannot be read. Its error counts when its value is needed. -/
  | broken (error : TemplateError)
  /-- An expression in brackets, or behind a sign that leaves its value as it is. -/
  | wrapped (value : Expression)
  /-- An expression that is known by its tokens only. -/
  | other (tokens : List Token)
  /-- An expression in brackets with something behind it. -/
  | overfull

inductive Argument where
  | attribute (name : Name) (value : Option Expression)
  | bare (name : Name)
  | node (node : Node)
  | content (value : Expression)

structure Call where
  arguments : List Argument

structure Node where
  tag : Name
  calls : List Call

/-- A whole template: the expression of the factory, and the root. -/
structure Source where
  factory : Expression
  root : Node

end

instance : Inhabited Expression := ⟨.unit⟩

namespace Argument

def isContent : Argument → Bool
  | .node _ | .content _ => true
  | .attribute .. | .bare _ => false

def bareName? : Argument → Option Name
  | .bare name => some name
  | _ => none

end Argument

/-- The lone name that makes a call ambiguous: the first one, in a call that is not the first of its
node or that has content. -/
def ambiguity? (later : Bool) (arguments : List Argument) : Option Name :=
  if later || arguments.any Argument.isContent then arguments.findSome? Argument.bareName?
  else none

mutual

/-- Whether brackets around an expression hold more than it somewhere. -/
def Expression.isOverfull : Expression → Bool
  | .overfull => true
  | .present value | .negate value | .raw value | .sequence value | .wrapped value =>
    value.isOverfull
  | .equal left right => left.isOverfull || right.isOverfull
  | .list values | .block values => Expression.anyOverfull values
  | _ => false

def Expression.anyOverfull : List Expression → Bool
  | [] => false
  | value :: values => value.isOverfull || Expression.anyOverfull values

end

mutual

def Node.isOverfull : Node → Bool
  | ⟨_, calls⟩ => Call.anyOverfull calls

def Call.anyOverfull : List Call → Bool
  | [] => false
  | ⟨arguments⟩ :: calls => Argument.anyOverfull arguments || Call.anyOverfull calls

def Argument.isOverfull : Argument → Bool
  | .content value => value.isOverfull
  | .attribute _ (some value) => value.isOverfull
  | .node node => node.isOverfull
  | _ => false

def Argument.anyOverfull : List Argument → Bool
  | [] => false
  | argument :: arguments => argument.isOverfull || Argument.anyOverfull arguments

end

def Source.isOverfull (source : Source) : Bool :=
  source.factory.isOverfull || source.root.isOverfull

end MarkupTree.Template
