import MarkupTree.Attribute

/-! Attributes in the order in which their keys first came. A key that comes again takes the new
value at its old place. -/
namespace MarkupTree

structure Attributes where
  entries : List Attribute
  deriving DecidableEq, Repr, Inhabited

namespace Attributes

def empty : Attributes := ⟨[]⟩

def insertInto (a : Attribute) : List Attribute → List Attribute
  | [] => [a]
  | b :: bs => if b.key = a.key then ⟨b.key, a.value⟩ :: bs else b :: insertInto a bs

def insert (attributes : Attributes) (a : Attribute) : Attributes :=
  ⟨insertInto a attributes.entries⟩

def insertAll (attributes : Attributes) (as : List Attribute) : Attributes :=
  as.foldl insert attributes

def ofList (as : List Attribute) : Attributes := empty.insertAll as

def merge (attributes other : Attributes) : Attributes := attributes.insertAll other.entries

/-- The value under a key: `some none` if the attribute is bare, `none` if there is none. -/
def get? (attributes : Attributes) (key : String) : Option (Option AttributeValue) :=
  (attributes.entries.find? (·.key == key)).map Attribute.value

def at? (attributes : Attributes) (index : Nat) : Option Attribute := attributes.entries[index]?

def keys (attributes : Attributes) : List String := attributes.entries.map Attribute.key

def size (attributes : Attributes) : Nat := attributes.entries.length

def isEmpty (attributes : Attributes) : Bool := attributes.entries.isEmpty

/-- Gives every attribute the key that `rename` answers, or leaves it its own. Attributes whose
new keys are the same become one. -/
def rename (rename : String → Option String) (attributes : Attributes) : Attributes :=
  ofList (attributes.entries.map fun a => ⟨(rename a.key).getD a.key, a.value⟩)

theorem keys_insert (attributes : Attributes) (a : Attribute) :
    (attributes.insert a).keys =
      if a.key ∈ attributes.keys then attributes.keys else attributes.keys ++ [a.key] := by
  obtain ⟨entries⟩ := attributes
  simp only [insert, keys]
  induction entries with
  | nil => simp [insertInto]
  | cons b bs ih =>
    by_cases hb : b.key = a.key
    · simp [insertInto, hb]
    · have hn : a.key ≠ b.key := fun h => hb h.symm
      by_cases hm : a.key ∈ bs.map Attribute.key <;> simp_all [insertInto]

def equal (a b : Attributes) : Bool := a.entries == b.entries

instance : BEq Attributes := ⟨equal⟩

end Attributes

end MarkupTree
