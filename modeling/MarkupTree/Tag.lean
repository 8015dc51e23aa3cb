/-! What is known of tags by their names. -/
namespace MarkupTree.Tag

/-- The tags with a builder of their own that may have content. -/
def nonVoid : List String :=
  ["html", "head", "body", "title", "style", "script", "noscript", "template",
   "main", "header", "footer", "nav", "section", "article", "aside", "div", "span", "p",
   "h1", "h2", "h3", "h4", "h5", "h6", "a", "em", "strong", "small", "code", "pre", "blockquote",
   "ol", "ul", "li", "dl", "dt", "dd", "table", "caption", "colgroup", "thead", "tbody", "tfoot",
   "tr", "td", "th", "form", "label", "button", "select", "option", "textarea", "fieldset",
   "legend", "iframe", "video", "audio", "canvas", "svg", "sup", "sub", "q", "s", "time",
   "details", "summary", "dialog"]

def void : List String :=
  ["area", "img", "wbr", "command", "link", "meta", "embed", "param", "source", "br", "track",
   "input", "col", "base", "hr"]

/-- The tags whose text is written as it is. -/
def rawText : List String := ["script"]

def isVoid (name : String) : Bool := void.contains name

def isRawText (name : String) : Bool := rawText.contains name

def hasBuilder (name : String) : Bool := nonVoid.contains name || void.contains name

/-- Names that begin and end with two underscores, which may be the same two. -/
def isReserved (name : String) : Bool :=
  ['_', '_'].isPrefixOf name.toList && ['_', '_'].isSuffixOf name.toList

end MarkupTree.Tag
