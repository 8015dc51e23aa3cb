import MarkupTree.Content

/-! The arguments of one call on an element: attributes, and content if any was supplied. Content
that comes to no items is supplied all the same. -/
namespace MarkupTree

structure Invocation where
  attributes : Attributes
  content : Option (List Item)
  deriving Inhabited

namespace Invocation

def empty : Invocation := ⟨Attributes.empty, none⟩

def withAttribute (invocation : Invocation) (a : Attribute) : Invocation :=
  { invocation with attributes := invocation.attributes.insert a }

def withAttributes (invocation : Invocation) (as : List Attribute) : Invocation :=
  { invocation with attributes := invocation.attributes.insertAll as }

/-- Supplies content behind any that is there. -/
def withContent (invocation : Invocation) (content : Content) : Build Invocation := do
  let items ← content.pull
  return { invocation with content := some (invocation.content.getD [] ++ items) }

def withContents (invocation : Invocation) (contents : List Content) : Build Invocation :=
  contents.foldlM withContent invocation

/-- Gives every attribute the key that `rename` answers, if it answers one. -/
def renameAttributes (rename : String → Option String) (invocation : Invocation) : Invocation :=
  { invocation with attributes := invocation.attributes.rename rename }

end Invocation

end MarkupTree
