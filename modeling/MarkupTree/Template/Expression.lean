import MarkupTree.Template.Declaration

/-! Reading the expressions of templates: literals, names, what is made of them by operators, brackets,
calls and members, blocks, and templates inside templates. Expressions of other kinds are read for their
end, and are known by their tokens. A template may be read with any reader of expressions, and this is the
one that it is read with here. -/
namespace MarkupTree.Template

/-- The names of the factory inside templates: the one that callers use, and the one that a
template binds. -/
def factoryWords : List String := [factoryWord, boundFactoryWord]

def templateWord : String := "domx"

/-- The expression of a single name. A variable is known by its whole spelling. -/
def ofName (name : Name) : Expression :=
  if name == ⟨"None", false⟩ then .absent else .variable name.spelling

def Expression.isVariable (word : String) : Expression → Bool
  | .variable name => name == word
  | _ => false

def beginsTrailer : List Token → Bool
  | .group .paren _ :: _ => true
  | .group .bracket _ :: _ => true
  | tokens => beginsWith "?" tokens || (beginsWith "." tokens && !beginsWith ".." tokens)

/-- Whether a block goes on as an operand behind its bracket. -/
def continuesBlock (tokens : List Token) : Bool :=
  beginsWith "?" tokens || (beginsWith "." tokens && !beginsWith ".." tokens)

/-- Whether an open range ends before the tokens. -/
def endsRange (fields : Bool) (tokens : List Token) : Bool :=
  tokens.isEmpty || (beginsWith "." tokens && !beginsWith ".." tokens) ||
    (!fields && beginsBrace tokens) || beginsWithWord "as" tokens ||
    [",", ";", "?", "=", "+", "/", "%", "^", ">", "<=", "!=", "-=", "*=", "&=", "|=", "<<="].any
      fun signs => beginsWith signs tokens

def beginsBlock : List Token → Bool
  | .group .brace _ :: _ => true
  | .word name :: tokens =>
    !name.marked &&
      (["if", "match", "while", "loop", "unsafe"].contains name.text ||
        (name.text == "for" && !beginsBinder tokens) ||
        (["const", "try"].contains name.text && beginsBrace tokens))
  | tokens => (passLabel tokens).isSome

/-- Whether a statement is a template in braces or its like, which ends it. -/
def beginsBracedTemplate (tokens : List Token) : Bool :=
  match passPlainPath tokens with
  | .ok (.sign '!' _ :: .group .brace _ :: rest) => !continuesBlock rest
  | _ => false

/-- What an expression is, as far as it matters to an operator behind it. -/
inductive Form where
  | plain
  | comparison
  | range
  deriving DecidableEq, Repr

/-- An expression that has been read: the tokens that it begins, and those behind it. -/
structure Phrase where
  start : List Token
  value : Expression
  form : Form
  rest : List Token

def Phrase.held (phrase : Phrase) : Expression :=
  if phrase.rest.isEmpty then phrase.value else .overfull

def Phrase.taken (phrase : Phrase) : Reading Taken :=
  if h : phrase.rest.length < phrase.start.length then
    .ok ⟨phrase.value, phrase.start.length - phrase.rest.length, Nat.sub_pos_of_lt h⟩
  else .error .malformed

/-- The expression, where brackets before it may hold more than they should. -/
def Expression.behind (full : Bool) (value : Expression) : Expression :=
  if full then .overfull else value

/-- The expression that the tokens spell up to the rest, of which the parts have been read. -/
def Expression.spelled (start rest : List Token) (parts : List Expression) : Expression :=
  if Expression.anyOverfull parts then .overfull
  else .other (start.take (start.length - rest.length))

namespace Scan

/-- The expression that is passed. -/
def phrase (scan : Scan Unit) (tokens : List Token) : Reading Phrase := do
  let (full, rest) ← scan.pass tokens
  return ⟨tokens, (Expression.spelled tokens rest []).behind full, .plain, rest⟩

def ofReader (read : List Token → Reading Phrase) : Scan Unit := do
  let phrase ← read (← ahead)
  note phrase.value.isOverfull
  goTo phrase.rest

end Scan

def Operator.join (operator : Operator) (left right : Phrase) : Phrase :=
  let spelled := Expression.spelled left.start right.rest [left.value, right.value]
  match operator with
  | .equals => ⟨left.start, .equal left.value right.value, .comparison, right.rest⟩
  | .comparison => ⟨left.start, spelled, .comparison, right.rest⟩
  | .range _ => ⟨left.start, spelled, .range, right.rest⟩
  | .binary _ | .cast => ⟨left.start, spelled, .plain, right.rest⟩

def ofCall? (word : Name) (values : List Expression) : Option Expression :=
  match values with
  | [value] => if word == ⟨"Some", false⟩ then some (.present value) else none
  | _ => none

/-- The expression without the brackets and signs that leave its value as it is. -/
def Expression.unwrapped : Expression → Expression
  | .wrapped value => value.unwrapped
  | value => value

/-- The value of a method call, if it has one. Only the factory has methods with a value. -/
def ofMethod? (receiver : Expression) (method : Name) (values : List Expression) :
    Option Expression :=
  match receiver.unwrapped, values with
  | .variable word, [value] =>
    if factoryWords.contains word && method == ⟨"raw", false⟩ then some (.raw value)
    else if factoryWords.contains word && method == ⟨"seq", false⟩ then some (.sequence value)
    else none
  | _, _ => none

mutual

/-- An expression and the tokens behind it. Fields in braces may follow a path in it or not. -/
def readExpression : Nat → Bool → List Token → Reading Phrase
  | 0, _, _ => .error .malformed
  | bound + 1, fields, tokens => do
    readOperations bound fields 0 (← readOperand bound fields tokens)

/-- Goes on with the operators that bind at least so tightly. Comparisons are not chained, and a
range is the operand of nothing. -/
def readOperations : Nat → Bool → Nat → Phrase → Reading Phrase
  | 0, _, _, _ => .error .malformed
  | bound + 1, fields, base, left => do
    match Operator.read? left.rest with
    | none => return left
    | some (operator, rest) =>
      if left.form = .range || operator.rank < base then return left
      else if operator.rank = Rank.compare && left.form = .comparison then .error .malformed
      else if beginsWith "..." left.rest then .error .malformed
      else if operator = .cast then
        let (full, rest) ← (passType (parts bound) false).pass rest
        if beginsTrailer rest then .error .malformed
        else
          let value := (Expression.spelled left.start rest [left.value]).behind full
          readOperations bound fields base ⟨left.start, value, .plain, rest⟩
      else if operator = .range false && endsRange fields rest then
        readOperations bound fields base
          ⟨left.start, .spelled left.start rest [left.value], .range, rest⟩
      else
        let right ← readRight bound fields operator.rank rest
        readOperations bound fields base (operator.join left right)

def readRight : Nat → Bool → Nat → List Token → Reading Phrase
  | 0, _, _, _ => .error .malformed
  | bound + 1, fields, rank, tokens => do
    raiseRight bound fields rank (← readOperand bound fields tokens)

/-- Gives a right operand what binds to it more tightly than to the operator before it.
Assignments bind to the right. -/
def raiseRight : Nat → Bool → Nat → Phrase → Reading Phrase
  | 0, _, _, _ => .error .malformed
  | bound + 1, fields, rank, right => do
    let next := nextRank right.rest
    if rank < next || (next = rank && rank = Rank.assign) then
      let raised ← readOperations bound fields next right
      if raised.rest.length = right.rest.length then return right
      else raiseRight bound fields rank raised
    else return right

def readOperand : Nat → Bool → List Token → Reading Phrase
  | 0, _, _ => .error .malformed
  | bound + 1, fields, tokens => do
    let (full, rest) ← (passAttributes (parts bound)).pass tokens
    let operand ← readSigned bound fields rest
    if operand.form = .range && beginsWith "#" tokens then .error .malformed
    else return ⟨tokens, operand.value.behind full, operand.form, operand.rest⟩

def readSigned : Nat → Bool → List Token → Reading Phrase
  | 0, _, _ => .error .malformed
  | bound + 1, fields, tokens => do
    match tokens with
    | .sign '&' _ :: .word ⟨"raw", false⟩ :: .word ⟨"mut", false⟩ :: rest =>
      let operand ← readOperand bound fields rest
      return ⟨tokens, .spelled tokens operand.rest [operand.value], .plain, operand.rest⟩
    | .sign '&' _ :: .word ⟨"raw", false⟩ :: .word ⟨"const", false⟩ :: rest =>
      let operand ← readOperand bound fields rest
      return ⟨tokens, .spelled tokens operand.rest [operand.value], .plain, operand.rest⟩
    | .sign '&' _ :: .word ⟨"mut", false⟩ :: rest =>
      let operand ← readOperand bound fields rest
      return ⟨tokens, .wrapped operand.value, .plain, operand.rest⟩
    | .sign '&' _ :: rest =>
      let operand ← readOperand bound fields rest
      return ⟨tokens, .wrapped operand.value, .plain, operand.rest⟩
    | .sign '*' _ :: rest =>
      let operand ← readOperand bound fields rest
      return ⟨tokens, .wrapped operand.value, .plain, operand.rest⟩
    | .sign '-' _ :: rest =>
      let operand ← readOperand bound fields rest
      return ⟨tokens, .negate operand.value, .plain, operand.rest⟩
    | .sign '!' _ :: rest =>
      let operand ← readOperand bound fields rest
      return ⟨tokens, .spelled tokens operand.rest [operand.value], .plain, operand.rest⟩
    | tokens => readTrailers bound (← readAtom bound fields tokens)

def readTrailers : Nat → Phrase → Reading Phrase
  | 0, _ => .error .malformed
  | bound + 1, ⟨start, value, form, .group .paren inner :: rest⟩ => do
    let values ← readList bound inner
    readTrailers bound ⟨start, .spelled start rest (value :: values), form, rest⟩
  | bound + 1, ⟨start, value, form, .group .bracket inner :: rest⟩ => do
    let index ← readExpression bound true inner
    readTrailers bound ⟨start, .spelled start rest [value, index.held], form, rest⟩
  | bound + 1, ⟨start, value, form, .sign '?' joint :: rest⟩ => do
    if form = .range then return ⟨start, value, form, .sign '?' joint :: rest⟩
    else readTrailers bound ⟨start, .spelled start rest [value], form, rest⟩
  | bound + 1, ⟨start, value, form, .sign '.' joint :: rest⟩ => do
    if form = .range || beginsWith ".." (.sign '.' joint :: rest) then
      return ⟨start, value, form, .sign '.' joint :: rest⟩
    else
      match rest with
      | .word ⟨"await", false⟩ :: rest =>
        readTrailers bound ⟨start, .spelled start rest [value], form, rest⟩
      | .literal (.decimal whole fraction none "") :: rest =>
        let owner := Expression.spelled start rest [value]
        if !isMemberNumber (digitsValue whole) then .error .malformed
        else if fraction.isEmpty then readMember bound ⟨start, owner, form, rest⟩
        else if isMemberNumber (digitsValue fraction) then
          readTrailers bound ⟨start, owner, form, rest⟩
        else .error .malformed
      | rest => readMember bound ⟨start, value, form, rest⟩
  | _ + 1, phrase => .ok phrase

/-- Goes on with a member behind the point: a number, a name, or a method and its arguments. Two
numbers and the point between them may be read as one. -/
def readMember : Nat → Phrase → Reading Phrase
  | 0, _ => .error .malformed
  | bound + 1, ⟨start, value, form, .word method :: .group .paren inner :: rest⟩ => do
    if method.isFree then
      let values ← readList bound inner
      let spelled := Expression.spelled start rest (value :: values)
      readTrailers bound ⟨start, (ofMethod? value method values).getD spelled, form, rest⟩
    else .error .malformed
  | bound + 1, ⟨start, value, form, .word method :: .sign ':' true :: .sign ':' _ :: rest⟩ => do
    let (full, rest) ← (passArguments (parts bound)).pass rest
    match rest with
    | .group .paren inner :: rest =>
      let values := value :: (← readList bound inner)
      if method.isFree then
        readTrailers bound ⟨start, (Expression.spelled start rest values).behind full, form, rest⟩
      else .error .malformed
    | _ => .error .malformed
  | bound + 1, ⟨start, value, form, rest⟩ => do
    let (_, rest) ← (discard Scan.passMember).pass rest
    readTrailers bound ⟨start, .spelled start rest [value], form, rest⟩

def readAtom : Nat → Bool → List Token → Reading Phrase
  | 0, _, _ => .error .malformed
  | bound + 1, fields, tokens => do
    match tokens with
    | .literal literal :: rest => return ⟨tokens, .literal literal, .plain, rest⟩
    | .word name :: rest => readWord bound fields name rest
    | .group .paren inner :: rest => return ⟨tokens, ← readGrouped bound inner, .plain, rest⟩
    | .group .bracket inner :: rest => return ⟨tokens, ← readArray bound inner, .plain, rest⟩
    | .group .brace inner :: rest => return ⟨tokens, ← readBlock bound inner, .plain, rest⟩
    | .sign '.' true :: .sign '.' _ :: rest =>
      let closed := beginsWith "..=" tokens
      if beginsWith "..." tokens then .error .malformed
      else if !closed && endsRange fields rest then
        return ⟨tokens, .spelled tokens rest [], .range, rest⟩
      else
        let right ← readRight bound fields Rank.range (if closed then rest.drop 1 else rest)
        return ⟨tokens, .spelled tokens right.rest [right.value], .range, right.rest⟩
    | .sign ':' _ :: _ => readPath bound fields tokens
    | .sign '<' _ :: _ => readPath bound fields tokens
    | .sign '|' _ :: _ => (passClosure (parts bound) fields).phrase tokens
    | .sign '\x27' _ :: _ => (passLoop (parts bound)).phrase tokens
    | _ => .error .malformed

/-- An operand that begins with a word: a truth value, a call, a path, or one of the words that are
no names. -/
def readWord : Nat → Bool → Name → List Token → Reading Phrase
  | 0, _, _, _ => .error .malformed
  | bound + 1, fields, name, rest => do
    let tokens := .word name :: rest
    if name == ⟨"true", false⟩ then return ⟨tokens, .bool true, .plain, rest⟩
    else if name == ⟨"false", false⟩ then return ⟨tokens, .bool false, .plain, rest⟩
    else if !name.isSegment || (name == ⟨"builtin", false⟩ && beginsWith "#" rest) then
      (passKeyword (parts bound) fields).phrase tokens
    else
      match rest with
      | .group .paren inner :: rest =>
        let values ← readList bound inner
        return ⟨tokens, (ofCall? name values).getD (.spelled tokens rest values), .plain, rest⟩
      | .sign ':' true :: .sign ':' _ :: _ => readPath bound fields tokens
      | rest => readApplied bound fields true ⟨tokens, ofName name, .plain, rest⟩

def readPath : Nat → Bool → List Token → Reading Phrase
  | 0, _, _ => .error .malformed
  | bound + 1, fields, tokens => do
    let (shape, state) ← (passPath (parts bound)).run ⟨tokens, false⟩
    let value := (Expression.spelled tokens state.tokens []).behind state.full
    readApplied bound fields shape.isPlain ⟨tokens, value, .plain, state.tokens⟩

/-- A path with what may follow it: what a template or its like is made of, or fields in braces. -/
def readApplied : Nat → Bool → Bool → Phrase → Reading Phrase
  | 0, _, _, _ => .error .malformed
  | bound + 1, fields, plain, path => do
    match path.rest with
    | .sign '!' joint :: others =>
      if !plain || beginsWith "!=" (.sign '!' joint :: others) then return path
      else
        match others with
        | .group _ inner :: rest =>
          if path.value.isVariable templateWord then
            let read tokens := do (← readExpression bound true tokens).taken
            match readTemplate read inner with
            | .ok source => return ⟨path.start, .nested source, .plain, rest⟩
            | .error error => return ⟨path.start, .broken error, .plain, rest⟩
          else return ⟨path.start, .spelled path.start rest [path.value], .plain, rest⟩
        | _ => .error .malformed
    | .group .brace inner :: rest =>
      if fields then
        let (full, rest) ← (passFields (parts bound)).pass (.group .brace inner :: rest)
        let value := (Expression.spelled path.start rest [path.value]).behind full
        return ⟨path.start, value, .plain, rest⟩
      else return path
    | _ => return path

def readGrouped : Nat → List Token → Reading Expression
  | 0, _ => .error .malformed
  | _ + 1, [] => .ok .unit
  | bound + 1, tokens => do
    let first ← readExpression bound true tokens
    match first.rest with
    | [] => return .wrapped first.value
    | .sign ',' _ :: rest => return .list (first.value :: (← readList bound rest))
    | _ => .error .malformed

/-- What square brackets hold: a list, or an expression and how often it is repeated. -/
def readArray : Nat → List Token → Reading Expression
  | 0, _ => .error .malformed
  | _ + 1, [] => .ok (.list [])
  | bound + 1, tokens => do
    let first ← readExpression bound true tokens
    match first.rest with
    | [] => return .list [first.value]
    | .sign ',' _ :: rest => return .list (first.value :: (← readList bound rest))
    | .sign ';' _ :: rest =>
      let count ← readExpression bound true rest
      return .spelled [.group .bracket tokens] [] [first.value, count.held]
    | _ => .error .malformed

def readList : Nat → List Token → Reading (List Expression)
  | 0, _ => .error .malformed
  | _ + 1, [] => .ok []
  | bound + 1, tokens => do
    let first ← readExpression bound true tokens
    match first.rest with
    | [] => return [first.value]
    | .sign ',' _ :: rest => return first.value :: (← readList bound rest)
    | _ => .error .malformed

/-- The value of a block, which is that of its last statement. -/
def readBlock : Nat → List Token → Reading Expression
  | 0, _ => .error .malformed
  | bound + 1, tokens => do
    let (full, rest) ← (passInnerAttributes (parts bound)).pass tokens
    match ← readStatements bound rest with
    | [] => return Expression.unit.behind full
    | [value] => return (Expression.wrapped value).behind full
    | values => return (Expression.block values).behind full

/-- The statements of a block by their values. One before a semicolon has none. -/
def readStatements : Nat → List Token → Reading (List Expression)
  | 0, _ => .error .malformed
  | _ + 1, [] => .ok []
  | bound + 1, .sign ';' joint :: tokens => do
    return .other [.sign ';' joint] :: (← readStatements bound tokens)
  | bound + 1, tokens => do
    let (full, rest) ← (passAttributes (parts bound)).pass tokens
    let (statement, ends) ← readStatement bound rest
    let value := statement.value.behind full
    match statement.rest with
    | [] => return [value]
    | .sign ';' _ :: rest =>
      return .spelled tokens rest [value] :: (← readStatements bound rest)
    | rest =>
      if ends then return value :: (← readStatements bound rest) else .error .malformed

def readStatement : Nat → List Token → Reading (Phrase × Bool)
  | 0, _ => .error .malformed
  | bound + 1, tokens => do
    if beginsBracedTemplate tokens then return (← readAtom bound true tokens, true)
    else if beginsWithWord "let" tokens then
      return (← (passBinding (parts bound)).phrase tokens, false)
    else if beginsDeclaration tokens then return (← passDeclaration.phrase tokens, true)
    else readBounded bound tokens

/-- An expression that ends with the block that it begins with, if it does and the block does not
go on as an operand. Tells whether it ends so. -/
def readBounded : Nat → List Token → Reading (Phrase × Bool)
  | 0, _ => .error .malformed
  | bound + 1, tokens => do
    let (full, rest) ← (passAttributes (parts bound)).pass tokens
    if beginsBlock rest then
      let block ← readAtom bound true rest
      let block := ⟨tokens, block.value.behind full, .plain, block.rest⟩
      if continuesBlock block.rest then
        return (← readOperations bound true 0 (← readTrailers bound block), false)
      else return (block, true)
    else return (← readExpression bound true tokens, false)

def parts : Nat → Parts
  | 0 => ⟨fun _ => Scan.fail, fun _ => Scan.fail, Scan.fail, Scan.fail⟩
  | bound + 1 => {
      expression := fun fields => Scan.ofReader (readExpression bound fields)
      matched := fun fields => Scan.ofReader fun tokens => do
        readOperations bound fields Rank.compare (← readOperand bound fields tokens)
      arm := do
        let (phrase, ended) ← readBounded bound (← Scan.ahead)
        Scan.note phrase.value.isOverfull
        Scan.goTo phrase.rest
        return ended
      block := do
        match ← Scan.ahead with
        | .group .brace inner :: tokens =>
          Scan.note (← readBlock bound inner).isOverfull
          Scan.goTo tokens
        | _ => Scan.fail }

end

/-- More steps than reading so many tokens takes: no token is passed through more than twelve
functions before one of its group or of those behind it is. -/
def expressionBound (tokens : List Token) : Nat := 12 * Token.countAll tokens + 12

def readTaken : ExpressionReader := fun tokens => do
  (← readExpression (expressionBound tokens) true tokens).taken

def read (text : String) : Reading Source := readWith readTaken text

end MarkupTree.Template
