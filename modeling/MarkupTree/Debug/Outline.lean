/-! Values as they are shown to a programmer: names with their parts in brackets, on one line or
with every part on a line of its own. -/
namespace MarkupTree

mutual

inductive Outline where
  | leaf (text : String)
  /-- A name before unnamed parts. -/
  | applied (name : String) (parts : List Outline)
  /-- A name before named parts. -/
  | record (name : String) (fields : List OutlineField)
  | list (items : List Outline)

structure OutlineField where
  name : String
  value : Outline

end

namespace Outline

def none : Outline := .leaf "None"
def some (outline : Outline) : Outline := .applied "Some" [outline]

mutual

def line : Outline → String
  | .leaf text => text
  | .applied name parts => name ++ "(" ++ ", ".intercalate (lines parts) ++ ")"
  | .record name fields => name ++ " \x7b " ++ ", ".intercalate (fieldLines fields) ++ " \x7d"
  | .list items => "[" ++ ", ".intercalate (lines items) ++ "]"

def lines : List Outline → List String
  | [] => []
  | outline :: outlines => outline.line :: lines outlines

def fieldLines : List OutlineField → List String
  | [] => []
  | ⟨name, value⟩ :: fields => (name ++ ": " ++ value.line) :: fieldLines fields

end

def margin (depth : Nat) : String := String.ofList (List.replicate (4 * depth) ' ')

mutual

/-- The pieces of the text that is spread over lines, where the first line stands at this depth. -/
def spread (depth : Nat) : Outline → List String
  | .leaf text => [text]
  | .applied name parts => name :: "(\n" :: (spreadAll (depth + 1) parts ++ [margin depth, ")"])
  | .record name fields =>
    name :: " \x7b\n" :: (spreadFields (depth + 1) fields ++ [margin depth, "\x7d"])
  | .list [] => ["[]"]
  | .list (item :: items) =>
    "[\n" :: (spreadAll (depth + 1) (item :: items) ++ [margin depth, "]"])

def spreadAll (depth : Nat) : List Outline → List String
  | [] => []
  | outline :: outlines =>
    margin depth :: (outline.spread depth ++ ",\n" :: spreadAll depth outlines)

def spreadFields (depth : Nat) : List OutlineField → List String
  | [] => []
  | ⟨name, value⟩ :: fields =>
    margin depth :: name :: ": " :: (value.spread depth ++ ",\n" :: spreadFields depth fields)

end

def block (outline : Outline) : String := String.join (outline.spread 0)

end Outline

end MarkupTree
