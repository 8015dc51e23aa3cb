import MarkupTree.Text.Lowercase

/-! Names in kebab case. An underscore becomes a hyphen, an ASCII capital opens a new word, and
everything is written in lower case; hyphens that are there already stay. -/
namespace MarkupTree.Text

def isCapital (c : Char) : Bool := 'A' ≤ c && c ≤ 'Z'

def kebabLater (c : Char) : List Char :=
  if c = '_' then ['-']
  else if isCapital c then ['-', c.toLower]
  else lowercase c

/-- The spelling of the first character of a name: no hyphen goes before it. -/
def kebabFirst (c : Char) : List Char :=
  if c = '_' then ['-']
  else if isCapital c then [c.toLower]
  else lowercase c

def kebabChars : List Char → List Char
  | [] => []
  | c :: cs => kebabFirst c ++ cs.flatMap kebabLater

def kebabCase (name : String) : String := String.ofList (kebabChars name.toList)

end MarkupTree.Text
