import MarkupTree.Template.Expression
import MarkupTree.Factory

/-! Building what a template says. A node becomes a chain: its tag, and then a link for each call,
which is passed over once the chain has failed. In a link the attributes of the call are evaluated,
then all of its content from left to right, and then the call is applied. Several pieces of content
become pairs in pairs. -/
namespace MarkupTree

/-- The value as the value of an attribute, where an absent one makes the attribute bare. -/
def Content.attributeValue? : Content → Option AttributeValue
  | .item (.text text) => some (.string text)
  | .int value => some (.int value)
  | .double value => some (.float value)
  | .single value => some (.float value.widen)
  | .bool value => some (.bool value)
  | .present content => content.attributeValue?
  | _ => none

namespace Template

/-- The error of a template inside a template stops everything. -/
abbrev Expansion := ExceptT TemplateError Logged

/-- What gives expressions their values: the variables, the words for the factory, and what comes of
the expressions that are known by their tokens only, given what names stand for where they are. -/
structure Scope where
  content? : String → Option Content
  factoryWords : List String
  other : (String → Option Content) → List Token → Expansion Content

namespace Scope

/-- The scope of a template that is in no other, where only variables have values. -/
def ofVariables (content? : String → Option Content) : Scope where
  content? := content?
  factoryWords := [factoryWord]
  other _ _ := throw .malformed

/-- The scope inside a call of an element. The names that the template binds hide others; the
factory itself is no content. -/
def within (scope : Scope) (e : Element) : Scope where
  content? name :=
    if name = boundElementWord then some (Content.element e)
    else if name = boundFactoryWord then none
    else scope.content? name
  factoryWords := Template.factoryWords
  other := scope.other

def evaluate (scope : Scope) (tokens : List Token) : Expansion Content :=
  scope.other scope.content? tokens

end Scope

def integerSuffixes : List String :=
  ["", "i8", "i16", "i32", "i64", "i128", "isize", "u8", "u16", "u32", "u64", "u128", "usize"]

def Literal.content? : Literal → Option Content
  | .text .text spelled _ => some (Content.text spelled)
  | .text _ _ _ => none
  | .character _ _ _ => none
  | .integer value suffix =>
    if integerSuffixes.contains suffix && value < Nat.pow 2 128 then some (.int value)
    else if suffix == "f64" then some (.double (Binary64.ofDecimal value 0))
    else if suffix == "f32" then some (.single (Binary32.ofDecimal value 0))
    else none
  | .decimal whole fraction power suffix =>
    let digits := digitsValue (whole ++ fraction)
    if suffix == "" || suffix == "f64" then
      some (.double (Binary64.ofDecimal digits (lastPower fraction power)))
    else if suffix == "f32" then
      some (.single (Binary32.ofDecimal digits (lastPower fraction power)))
    else none

def negative : Content → Expansion Content
  | .int value => pure (.int (-value))
  | .double value => pure (.double value.negate)
  | .single value => pure (.single value.negate)
  | _ => throw .malformed

def compared : Content → Content → Expansion Content
  | .item (.text left), .item (.text right) => pure (.bool (left == right))
  | _, _ => throw .malformed

def markup : Content → Expansion Content
  | .item (.text html) => pure (.raw html)
  | _ => throw .malformed

def lazily : Content → Content
  | .list contents => .sequence contents
  | content => content

/-- Any number of contents as one value: a pair of the first and the rest, to the right. -/
def pairs : List Content → Content
  | [] => .unit
  | [last] => last
  | first :: rest => .list [first, pairs rest]

/-- The contents of a call as one value. A single one stands in a list of its own. -/
def positional : List Content → Content
  | [only] => .list [only]
  | contents => pairs contents

def applyCall (factory : Factory) (e : Element) (attributes : List Attribute)
    (contents : List Content) : Build Element :=
  let invocation := attributes.foldl Invocation.withAttribute Invocation.empty
  if contents.isEmpty then factory.invoke e invocation
  else do factory.invoke e (← invocation.withContent (positional contents))

/-- A build whose failure is a value. -/
def attempt (build : Build Element) : Expansion (Except TreeError Element) := ExceptT.lift build.run

def andThen (chain : Expansion (Except TreeError Element))
    (link : Element → Expansion (Except TreeError Element)) :
    Expansion (Except TreeError Element) := do
  match ← chain with
  | .ok e => link e
  | .error error => return .error error

mutual

def Expression.evaluate (factory : Factory) (scope : Scope) :
    Expression → Expansion Content
  | .literal literal =>
    match literal.content? with
    | some content => pure content
    | none => scope.evaluate [.literal literal]
  | .bool value => pure (.bool value)
  | .variable name =>
    match scope.content? name with
    | some content => pure content
    | none => throw .malformed
  | .absent => pure .absent
  | .unit => pure .unit
  | .present value => return .present (← value.evaluate factory scope)
  | .list values => return .list (← Expression.evaluateAll factory scope values)
  | .negate value => do negative (← value.evaluate factory scope)
  | .equal left right => do
    let left ← left.evaluate factory scope
    compared left (← right.evaluate factory scope)
  | .raw html => do markup (← html.evaluate factory scope)
  | .sequence values => return lazily (← values.evaluate factory scope)
  | .block values => return (← Expression.evaluateAll factory scope values).getLast?.getD .unit
  | .nested source => return Content.ofResult (← source.expand factory scope)
  | .broken error => throw error
  | .wrapped value => value.evaluate factory scope
  | .other tokens => scope.evaluate tokens
  | .overfull => throw .malformed

def Expression.evaluateAll (factory : Factory) (scope : Scope) :
    List Expression → Expansion (List Content)
  | [] => pure []
  | value :: values => do
    let content ← value.evaluate factory scope
    return content :: (← Expression.evaluateAll factory scope values)

/-- Evaluates the expression that a template begins with, which has to be the factory. -/
def Expression.evaluateFactory (factory : Factory) (scope : Scope) : Expression → Expansion Unit
  | .variable name => if scope.factoryWords.contains name then pure () else throw .malformed
  | .wrapped value => value.evaluateFactory factory scope
  | .block values => Expression.evaluateFactoryLast factory scope values
  | value => do
    let _ ← value.evaluate factory scope
    throw .malformed

def Expression.evaluateFactoryLast (factory : Factory) (scope : Scope) :
    List Expression → Expansion Unit
  | [] => throw .malformed
  | [last] => last.evaluateFactory factory scope
  | value :: values => do
    let _ ← value.evaluate factory scope
    Expression.evaluateFactoryLast factory scope values

def Argument.attributes (factory : Factory) (scope : Scope) :
    List Argument → Expansion (List Attribute)
  | [] => pure []
  | .attribute name (some value) :: arguments => do
    let content ← value.evaluate factory scope
    return ⟨name.spelling, content.attributeValue?⟩ ::
      (← Argument.attributes factory scope arguments)
  | .attribute name none :: arguments =>
    return Attribute.bare name.spelling :: (← Argument.attributes factory scope arguments)
  | .bare name :: arguments =>
    return Attribute.bare name.spelling :: (← Argument.attributes factory scope arguments)
  | .node _ :: arguments => Argument.attributes factory scope arguments
  | .content _ :: arguments => Argument.attributes factory scope arguments

def Argument.contents (factory : Factory) (scope : Scope) :
    List Argument → Expansion (List Content)
  | [] => pure []
  | .node node :: arguments => do
    let content := Content.ofResult (← node.expand factory scope)
    return content :: (← Argument.contents factory scope arguments)
  | .content value :: arguments => do
    let content ← value.evaluate factory scope
    return content :: (← Argument.contents factory scope arguments)
  | .attribute .. :: arguments => Argument.contents factory scope arguments
  | .bare _ :: arguments => Argument.contents factory scope arguments

/-- The link of a call, inside which the element goes by a name of its own. -/
def Call.expand (factory : Factory) (scope : Scope) :
    Call → Element → Expansion (Except TreeError Element)
  | ⟨arguments⟩, e => do
    let attributes ← Argument.attributes factory (scope.within e) arguments
    let contents ← Argument.contents factory (scope.within e) arguments
    attempt (applyCall factory e attributes contents)

def Call.expandAll (factory : Factory) (scope : Scope) :
    List Call → Expansion (Except TreeError Element) → Expansion (Except TreeError Element)
  | [], chain => chain
  | call :: calls, chain =>
    Call.expandAll factory scope calls (andThen chain fun e => call.expand factory scope e)

def Node.expand (factory : Factory) (scope : Scope) :
    Node → Expansion (Except TreeError Element)
  | ⟨tag, calls⟩ => Call.expandAll factory scope calls (attempt (factory.tag tag.unmarked))

def Source.expand (factory : Factory) (scope : Scope) :
    Source → Expansion (Except TreeError Element)
  | ⟨word, root⟩ => do
    word.evaluateFactory factory scope
    root.expand factory scope

end

def build (factory : Factory) (content? : String → Option Content) (text : String) :
    Expansion (Except TreeError Element) := do
  let source ← ExceptT.mk (pure (read text))
  source.expand factory (Scope.ofVariables content?)

end Template

end MarkupTree
