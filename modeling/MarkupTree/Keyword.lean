/-! The words that a template cannot use as bare names. -/
namespace MarkupTree.Keyword

def all : List String :=
  ["abstract", "as", "async", "await", "become", "box", "break", "const", "continue", "crate",
   "do", "dyn", "else", "enum", "extern", "false", "final", "fn", "for", "gen", "if", "impl",
   "in", "let", "loop", "macro", "match", "mod", "move", "mut", "override", "priv", "pub",
   "ref", "return", "self", "Self", "static", "struct", "super", "trait", "true", "try",
   "type", "typeof", "unsafe", "unsized", "use", "virtual", "where", "while", "yield"]

/-- The name less the marks that tell it from a keyword: a leading `r#`, or one underscore behind
a keyword. -/
def unmark? (name : String) : Option String :=
  match name.toList with
  | 'r' :: '#' :: rest => some (String.ofList rest)
  | cs =>
    if cs.getLast? = some '_' then
      let word := String.ofList cs.dropLast
      if all.contains word then some word else none
    else none

end MarkupTree.Keyword
