import MarkupTree.Build
import MarkupTree.Element

/-! What callers give as content, and the items that it comes to. Lists in lists are read from left
to right and absent values are skipped; the first number, truth value or failure is the error of the
whole. Lazy sequences are pulled item by item, so an error leaves what follows it untouched. -/
namespace MarkupTree

inductive Content where
  | item (item : Item)
  | document (document : Document)
  | int (value : Int)
  | double (value : Binary64)
  | single (value : Binary32)
  | bool (value : Bool)
  /-- The unit value. -/
  | unit
  | absent
  | present (content : Content)
  | succeeded (content : Content)
  | failed (error : TreeError)
  /-- A list, an array or a tuple. -/
  | list (contents : List Content)
  /-- A lazy sequence of values that are there already; pulling one makes nothing but the pull. -/
  | sequence (contents : List Content)
  /-- A lazy sequence of copies. -/
  | copies (count : Nat) (content : Content)
  deriving Inhabited

namespace Content

def text (text : String) : Content := .item (.text text)
def raw (html : String) : Content := .item (.raw html)
def element (e : Element) : Content := .item (.element e)

/-- A built element as content. A failure waits until the content is read. -/
def ofResult : Except TreeError Element → Content
  | .ok e => .succeeded (element e)
  | .error error => .failed error

def rejected (value : String) : Build (List Item) := throw (.unknownContentType value)

/-- So many items pulled from a lazy sequence, each of them read by `read`. -/
def pullCopies (read : Build (List Item)) : Nat → Build (List Item)
  | 0 => pure []
  | count + 1 => do
    Build.pullOne
    let items ← read
    return items ++ (← pullCopies read count)

mutual

def pull : Content → Build (List Item)
  | .item leaf => pure [leaf]
  | .document whole => pure (whole.children.map Item.element)
  | .int value => rejected (toString value)
  | .double value => rejected (NumberLayout.exact.text value.value)
  | .single value => rejected (NumberLayout.exact.text value.value)
  | .bool value => rejected (toString value)
  | .unit => pure []
  | .absent => pure []
  | .present content => content.pull
  | .succeeded content => content.pull
  | .failed error => throw error
  | .list contents => pullAll contents
  | .sequence contents => pullEach contents
  | .copies count content => pullCopies content.pull count

def pullAll : List Content → Build (List Item)
  | [] => pure []
  | content :: contents => do
    let items ← content.pull
    return items ++ (← pullAll contents)

def pullEach : List Content → Build (List Item)
  | [] => pure []
  | content :: contents => do
    Build.pullOne
    let items ← content.pull
    return items ++ (← pullEach contents)

end

/-- The items of the content, or its first error. -/
def flatten (content : Content) : Except TreeError (List Item) := content.pull.run.value

/-- The number of items that flattening pulls from lazy sequences. -/
def pulled (content : Content) : Nat := content.pull.run.pulled

end Content

end MarkupTree
