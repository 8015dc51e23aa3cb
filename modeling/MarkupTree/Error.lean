/-! Why a tree cannot be built or rendered. Every cause is a mistake of the caller. -/
namespace MarkupTree

inductive TreeError where
  /-- A reserved tag name was asked for. -/
  | badTagName (name : String)
  /-- Content was given to an element that already has content. -/
  | contentMutation (tag : String)
  /-- Content was given to a void element. -/
  | voidElementContent (tag : String)
  /-- A number or a truth value stands where content is expected. -/
  | unknownContentType (value : String)
  /-- A rendering was asked for in pieces of this size. -/
  | invalidBufferSize (size : Nat)
  deriving DecidableEq, Repr, Inhabited

def TreeError.message : TreeError → String
  | .badTagName name => "Bad tag: " ++ name
  | .contentMutation _ => "Content mutation not allowed"
  | .voidElementContent tag => tag ++ " can not have content body"
  | .unknownContentType value => "Unknown type for variable: " ++ value
  | .invalidBufferSize size => "Invalid buffer size " ++ toString size

end MarkupTree
