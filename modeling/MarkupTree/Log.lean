/-! What is reported while trees are built and rendered. -/
namespace MarkupTree

inductive Event where
  /-- An element was given content of so many items. -/
  | assignedContent (tag : String) (items : Nat)
  | rejectedTagName (tag : String)
  /-- A rendering began, of at least so many elements. -/
  | startingRender (chunkSize : Option Nat) (elements : Nat)
  /-- A rendering hands out so many bytes. -/
  | flushingBuffer (length : Nat)
  deriving DecidableEq, Repr

inductive Level where
  | trace
  | debug
  deriving DecidableEq, Repr

namespace Event

def level : Event → Level
  | .assignedContent .. | .flushingBuffer .. => .trace
  | .rejectedTagName .. | .startingRender .. => .debug

def message : Event → String
  | .assignedContent .. => "assigned content"
  | .rejectedTagName .. => "rejected reserved tag name"
  | .startingRender .. => "starting render"
  | .flushingBuffer .. => "flushing render buffer"

def fields : Event → List (String × String)
  | .assignedContent tag items => [("tag", tag), ("items", toString items)]
  | .rejectedTagName tag => [("tag", tag)]
  | .startingRender chunkSize elements =>
    [("chunk_size", match chunkSize with
      | some size => "Some(" ++ toString size ++ ")"
      | none => "None"),
     ("elements", toString elements)]
  | .flushingBuffer length => [("len", toString length)]

end Event

def Level.name : Level → String
  | .trace => "TRACE"
  | .debug => "DEBUG"

end MarkupTree
