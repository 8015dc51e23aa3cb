import MarkupTree.Template.Token

/-! The signs that join two operands of an expression, and how tightly each of them binds. -/
namespace MarkupTree.Template

/-- Takes signs that stand together off the tokens. -/
def passSigns : List Char → List Token → Option (List Token)
  | [], tokens => some tokens
  | [c], .sign d _ :: tokens => if c = d then some tokens else none
  | c :: cs, .sign d true :: tokens => if c = d then passSigns cs tokens else none
  | _, _ => none

def beginsWith (signs : String) (tokens : List Token) : Bool :=
  (passSigns signs.toList tokens).isSome

def beginsWithWord (word : String) : List Token → Bool
  | .word name :: _ => name == ⟨word, false⟩
  | _ => false

namespace Rank

def assign : Nat := 1
def range : Nat := 2
def compare : Nat := 6
def cast : Nat := 13

end Rank

inductive Operator where
  | equals
  | comparison
  | binary (rank : Nat)
  | range (closed : Bool)
  | cast
  deriving DecidableEq, Repr

namespace Operator

def rank : Operator → Nat
  | .equals | .comparison => Rank.compare
  | .binary rank => rank
  | .range _ => Rank.range
  | .cast => Rank.cast

/-- The operators that are written in signs. Of two that begin alike the longer comes first. -/
def signs : List (String × Operator) :=
  [("+=", .binary Rank.assign), ("-=", .binary Rank.assign), ("*=", .binary Rank.assign),
   ("/=", .binary Rank.assign), ("%=", .binary Rank.assign), ("^=", .binary Rank.assign),
   ("&=", .binary Rank.assign), ("|=", .binary Rank.assign), ("<<=", .binary Rank.assign),
   (">>=", .binary Rank.assign), ("&&", .binary 4), ("||", .binary 3), ("<<", .binary 10),
   (">>", .binary 10), ("==", .equals), ("<=", .comparison), ("!=", .comparison),
   (">=", .comparison), ("+", .binary 11), ("-", .binary 11), ("*", .binary 12), ("/", .binary 12),
   ("%", .binary 12), ("^", .binary 8), ("&", .binary 9), ("|", .binary 7), ("<", .comparison),
   (">", .comparison)]

/-- The operator that the tokens begin with, and what follows it. Three points together are
none. -/
def read? (tokens : List Token) : Option (Operator × List Token) :=
  let found := signs.findSome? fun (spelling, operator) =>
    (passSigns spelling.toList tokens).map fun rest => (operator, rest)
  match found with
  | some result => some result
  | none =>
    if beginsWith "=>" tokens then none
    else if beginsWith "=" tokens then some (.binary Rank.assign, tokens.drop 1)
    else if beginsWith "..=" tokens then some (.range true, tokens.drop 3)
    else if beginsWith ".." tokens then some (.range false, tokens.drop 2)
    else if beginsWithWord "as" tokens then some (.cast, tokens.drop 1)
    else none

end Operator

def nextRank (tokens : List Token) : Nat :=
  match Operator.read? tokens with
  | some (operator, _) => operator.rank
  | none => 0

end MarkupTree.Template
