import MarkupTree.Chunks
import MarkupTree.Proofs.JsonTree
import MarkupTree.Proofs.Tree

/-! When elements are equal. Equality compares numbers as numbers, so it is sameness but for two things:
what is not a number is equal to nothing, and the two zeros are equal. Equal elements are therefore
written alike, as markup and as JSON, unless they hold different zeros in one place. -/
namespace MarkupTree

namespace Binary64

def zero : Binary64 := ⟨0⟩

def negativeZero : Binary64 := ⟨signBit⟩

/-- One of the numbers is zero and the other is negative zero. -/
def OppositeZeros (x y : Binary64) : Prop :=
  x = zero ∧ y = negativeZero ∨ x = negativeZero ∧ y = zero

/-- The number, where both zeros are taken for one. -/
def united (x : Binary64) : Binary64 := if x.isZero then zero else x

variable {x y : Binary64}

theorem isZero_iff : x.isZero ↔ x = zero ∨ x = negativeZero := by
  obtain ⟨bits⟩ := x
  have hlt := bits.toNat_lt
  have hmagnitude := toNat_magnitudeBits ⟨bits⟩
  simp only [isZero, beq_iff_eq, ← UInt64.toNat_inj, zero, negativeZero, mk.injEq, hmagnitude]
  simp only [BinaryFormat.signWord, BinaryFormat.double, signBit, Nat.pow_eq, UInt64.reduceToNat]
  omega

theorem united_of_isZero (h : x.isZero) : x.united = zero := if_pos h

theorem united_of_not_isZero (h : ¬ x.isZero) : x.united = x := if_neg h

theorem united_eq_iff : x.united = y.united ↔ x = y ∨ x.isZero ∧ y.isZero := by
  constructor
  · intro h
    by_cases hx : x.isZero <;> by_cases hy : y.isZero
    · exact .inr ⟨hx, hy⟩
    · rw [united_of_isZero hx, united_of_not_isZero hy] at h
      exact absurd (isZero_iff.2 (.inl h.symm)) hy
    · rw [united_of_not_isZero hx, united_of_isZero hy] at h
      exact absurd (isZero_iff.2 (.inl h)) hx
    · rw [united_of_not_isZero hx, united_of_not_isZero hy] at h
      exact .inl h
  · rintro (rfl | ⟨hx, hy⟩)
    · rfl
    · rw [united_of_isZero hx, united_of_isZero hy]

theorem beq_iff_united_eq :
    x == y ↔ x.isNaN = false ∧ y.isNaN = false ∧ x.united = y.united := by
  have hbits : x.bits = y.bits ↔ x = y := by
    cases x
    cases y
    simp
  change equal x y = true ↔ _
  simp [equal, united_eq_iff, hbits, and_assoc]

theorem eq_or_oppositeZeros_of_united (h : x.united = y.united) : x = y ∨ OppositeZeros x y := by
  rcases united_eq_iff.1 h with rfl | ⟨hx, hy⟩
  · exact .inl rfl
  · rcases isZero_iff.1 hx with rfl | rfl <;> rcases isZero_iff.1 hy with rfl | rfl
    · exact .inl rfl
    · exact .inr (.inl ⟨rfl, rfl⟩)
    · exact .inr (.inr ⟨rfl, rfl⟩)
    · exact .inl rfl

theorem OppositeZeros.settled_ne (h : OppositeZeros x y) : x.settled ≠ y.settled := by
  rcases h with ⟨rfl, rfl⟩ | ⟨rfl, rfl⟩ <;> decide

end Binary64

section Attributes

def AttributeValue.isNaN : AttributeValue → Bool
  | .float x => x.isNaN
  | _ => false

def Attribute.isNaN (a : Attribute) : Bool := a.value.any AttributeValue.isNaN

def AttributeValue.united : AttributeValue → AttributeValue
  | .float x => .float x.united
  | value => value

def Attribute.united (a : Attribute) : Attribute := ⟨a.key, a.value.map AttributeValue.united⟩

def Attributes.united (attributes : Attributes) : Attributes :=
  ⟨attributes.entries.map Attribute.united⟩

theorem AttributeValue.beq_iff_united_eq {value value' : AttributeValue} :
    value == value' ↔
      value.isNaN = false ∧ value'.isNaN = false ∧ value.united = value'.united := by
  change equal value value' = true ↔ _
  cases value <;> cases value' <;> simp [equal, isNaN, united]
  exact Binary64.beq_iff_united_eq

theorem Attribute.beq_iff_united_eq {a b : Attribute} :
    a == b ↔ a.isNaN = false ∧ b.isNaN = false ∧ a.united = b.united := by
  obtain ⟨key, value⟩ := a
  obtain ⟨key', value'⟩ := b
  change equal ⟨key, value⟩ ⟨key', value'⟩ = true ↔ _
  cases value <;> cases value' <;> simp [equal, isNaN, united, AttributeValue.beq_iff_united_eq]
  tauto

/-- None of the attributes is a number and not a number. -/
def Attributes.Comparable (attributes : Attributes) : Prop :=
  ∀ a ∈ attributes.entries, a.isNaN = false

theorem Attributes.beq_iff_united_eq {attributes attributes' : Attributes} :
    attributes == attributes' ↔
      attributes.Comparable ∧ attributes'.Comparable ∧ attributes.united = attributes'.united := by
  obtain ⟨as⟩ := attributes
  obtain ⟨bs⟩ := attributes'
  change (as == bs) = true ↔ _
  simp only [Comparable, united, mk.injEq]
  induction as generalizing bs with
  | nil => cases bs <;> simp
  | cons a as ih =>
    cases bs with
    | nil => simp
    | cons b bs =>
      rw [List.cons_beq_cons, Bool.and_eq_true, Attribute.beq_iff_united_eq, ih]
      simp only [List.forall_mem_cons, List.map_cons, List.cons.injEq]
      tauto

end Attributes

section Trees

/-- No attribute of the element or inside it is a number and not a number. -/
def Element.Comparable (e : Element) : Prop := e.Everywhere fun node => node.attributes.Comparable

def Item.Comparable : Item → Prop
  | .element e => e.Comparable
  | _ => True

mutual

def Element.united : Element → Element
  | ⟨name, attributes, none⟩ => ⟨name, attributes.united, none⟩
  | ⟨name, attributes, some items⟩ => ⟨name, attributes.united, some (Item.unitedAll items)⟩

def Item.united : Item → Item
  | .element e => .element e.united
  | .raw html => .raw html
  | .text text => .text text

def Item.unitedAll : List Item → List Item
  | [] => []
  | item :: items => item.united :: Item.unitedAll items

end

theorem Element.comparable_iff (name : String) (attributes : Attributes) (content : Option (List Item)) :
    Element.Comparable ⟨name, attributes, content⟩ ↔
      attributes.Comparable ∧ ∀ item ∈ content.getD [], item.Comparable := by
  rw [Comparable, Everywhere.iff_here_inside]
  refine and_congr_right fun _ => ⟨fun h item hi => ?_, fun h child hc => h _ hc⟩
  cases item with
  | element child => exact h child hi
  | raw html => trivial
  | text text => trivial

mutual

/-- Elements are equal if they are the same once the zeros are taken for one, and hold nothing that is
equal to nothing. -/
theorem Element.equal_iff : (e e' : Element) →
    (e.equal e' ↔ e.Comparable ∧ e'.Comparable ∧ e.united = e'.united)
  | ⟨name, attributes, none⟩, ⟨name', attributes', none⟩ => by
    simp only [Element.equal, Element.comparable_iff, Element.united, Bool.and_eq_true, beq_iff_eq,
      Attributes.beq_iff_united_eq, Element.mk.injEq, Option.getD_none, List.not_mem_nil]
    tauto
  | ⟨name, attributes, some items⟩, ⟨name', attributes', some items'⟩ => by
    simp only [Element.equal, Element.comparable_iff, Element.united, Bool.and_eq_true, beq_iff_eq,
      Attributes.beq_iff_united_eq, Element.mk.injEq, Option.getD_some, Option.some.injEq,
      Item.equalAll_iff items items']
    tauto
  | ⟨name, attributes, none⟩, ⟨name', attributes', some items'⟩ => by
    simp [Element.equal, Element.united]
  | ⟨name, attributes, some items⟩, ⟨name', attributes', none⟩ => by
    simp [Element.equal, Element.united]

theorem Item.equal_iff : (item item' : Item) →
    (item.equal item' ↔ item.Comparable ∧ item'.Comparable ∧ item.united = item'.united)
  | .element e, .element e' => by
    simp only [Item.equal, Item.Comparable, Item.united, Item.element.injEq, Element.equal_iff e e']
  | .raw html, .raw html' => by simp [Item.equal, Item.Comparable, Item.united]
  | .text text, .text text' => by simp [Item.equal, Item.Comparable, Item.united]
  | .element e, .raw html => by simp [Item.equal, Item.united]
  | .element e, .text text => by simp [Item.equal, Item.united]
  | .raw html, .element e => by simp [Item.equal, Item.united]
  | .raw html, .text text => by simp [Item.equal, Item.united]
  | .text text, .element e => by simp [Item.equal, Item.united]
  | .text text, .raw html => by simp [Item.equal, Item.united]

theorem Item.equalAll_iff : (items items' : List Item) →
    (Item.equalAll items items' ↔ (∀ item ∈ items, item.Comparable) ∧
      (∀ item ∈ items', item.Comparable) ∧ Item.unitedAll items = Item.unitedAll items')
  | [], [] => by simp [Item.equalAll]
  | [], item' :: items' => by simp [Item.equalAll, Item.unitedAll]
  | item :: items, [] => by simp [Item.equalAll, Item.unitedAll]
  | item :: items, item' :: items' => by
    simp only [Item.equalAll, Item.unitedAll, Bool.and_eq_true, List.forall_mem_cons,
      List.cons.injEq, Item.equal_iff item item', Item.equalAll_iff items items']
    tauto

end

end Trees

section Zeros

/-- Under one place of both there is zero in one and negative zero in the other. -/
def Attributes.OppositeZeros (attributes attributes' : Attributes) : Prop :=
  ∃ index key key' x y, attributes.at? index = some ⟨key, some (.float x)⟩ ∧
    attributes'.at? index = some ⟨key', some (.float y)⟩ ∧ Binary64.OppositeZeros x y

/-- In one place of both elements there is zero in one and negative zero in the other. -/
inductive Element.OppositeZeros : Element → Element → Prop where
  | here {e e' : Element} (opposite : e.attributes.OppositeZeros e'.attributes) :
    OppositeZeros e e'
  | inside {e e' : Element} {index : Nat} {child child' : Element}
    (left : e.items[index]? = some (.element child))
    (right : e'.items[index]? = some (.element child'))
    (opposite : OppositeZeros child child') : OppositeZeros e e'

theorem AttributeValue.eq_or_oppositeZeros {value value' : AttributeValue}
    (h : value.united = value'.united) :
    value = value' ∨
      ∃ x y, value = .float x ∧ value' = .float y ∧ Binary64.OppositeZeros x y := by
  cases value <;> cases value' <;> simp only [united, reduceCtorEq, float.injEq] at h
  case float.float x y =>
    rcases Binary64.eq_or_oppositeZeros_of_united h with rfl | hopposite
    · exact .inl rfl
    · exact .inr ⟨x, y, rfl, rfl, hopposite⟩
  all_goals exact .inl h

theorem Attribute.eq_or_oppositeZeros {a b : Attribute} (h : a.united = b.united) :
    a = b ∨ ∃ key x y, a = ⟨key, some (.float x)⟩ ∧ b = ⟨key, some (.float y)⟩ ∧
      Binary64.OppositeZeros x y := by
  obtain ⟨key, value⟩ := a
  obtain ⟨key', value'⟩ := b
  simp only [united, mk.injEq] at h
  obtain ⟨rfl, hvalue⟩ := h
  cases value with
  | none =>
    cases value' with
    | none => exact .inl rfl
    | some value' => cases hvalue
  | some value =>
    cases value' with
    | none => cases hvalue
    | some value' =>
      rcases AttributeValue.eq_or_oppositeZeros (Option.some.inj hvalue) with
        rfl | ⟨x, y, rfl, rfl, hopposite⟩
      · exact .inl rfl
      · exact .inr ⟨key, x, y, rfl, rfl, hopposite⟩

theorem Attributes.eq_or_oppositeZeros {attributes attributes' : Attributes}
    (h : attributes.united = attributes'.united) :
    attributes = attributes' ∨ attributes.OppositeZeros attributes' := by
  obtain ⟨as⟩ := attributes
  obtain ⟨bs⟩ := attributes'
  simp only [united, mk.injEq] at h
  induction as generalizing bs with
  | nil =>
    cases bs with
    | nil => exact .inl rfl
    | cons b bs => cases h
  | cons a as ih =>
    cases bs with
    | nil => cases h
    | cons b bs =>
      obtain ⟨hab, hrest⟩ := List.cons.inj h
      rcases Attribute.eq_or_oppositeZeros hab with rfl | ⟨key, x, y, rfl, rfl, hopposite⟩
      · rcases ih bs hrest with hsame | ⟨index, key, key', x, y, hx, hy, hopposite⟩
        · exact .inl (by rw [mk.inj hsame])
        · exact .inr ⟨index + 1, key, key', x, y, hx, hy, hopposite⟩
      · exact .inr ⟨0, key, key, x, y, rfl, rfl, hopposite⟩

mutual

theorem Element.eq_or_oppositeZeros : (e e' : Element) → e.united = e'.united →
    e = e' ∨ e.OppositeZeros e'
  | ⟨name, attributes, none⟩, ⟨name', attributes', none⟩, h => by
    simp only [Element.united, Element.mk.injEq, and_true] at h
    obtain ⟨rfl, hattributes⟩ := h
    rcases Attributes.eq_or_oppositeZeros hattributes with rfl | hopposite
    · exact .inl rfl
    · exact .inr (.here hopposite)
  | ⟨name, attributes, some items⟩, ⟨name', attributes', some items'⟩, h => by
    simp only [Element.united, Element.mk.injEq, Option.some.injEq] at h
    obtain ⟨rfl, hattributes, hitems⟩ := h
    rcases Attributes.eq_or_oppositeZeros hattributes with rfl | hopposite
    · rcases Item.all_eq_or_oppositeZeros items items' hitems with
        rfl | ⟨index, child, child', hleft, hright, hopposite⟩
      · exact .inl rfl
      · exact .inr (.inside hleft hright hopposite)
    · exact .inr (.here hopposite)
  | ⟨name, attributes, none⟩, ⟨name', attributes', some items'⟩, h => by
    simp [Element.united] at h
  | ⟨name, attributes, some items⟩, ⟨name', attributes', none⟩, h => by
    simp [Element.united] at h

theorem Item.eq_or_oppositeZeros : (item item' : Item) → item.united = item'.united →
    item = item' ∨ ∃ e e', item = .element e ∧ item' = .element e' ∧ e.OppositeZeros e'
  | .element e, .element e', h => by
    rcases Element.eq_or_oppositeZeros e e' (by simpa [Item.united] using h) with rfl | hopposite
    · exact .inl rfl
    · exact .inr ⟨e, e', rfl, rfl, hopposite⟩
  | .raw html, item', h => by cases item' <;> simp_all [Item.united]
  | .text text, item', h => by cases item' <;> simp_all [Item.united]
  | .element e, .raw html, h => by simp [Item.united] at h
  | .element e, .text text, h => by simp [Item.united] at h

theorem Item.all_eq_or_oppositeZeros : (items items' : List Item) →
    Item.unitedAll items = Item.unitedAll items' →
    items = items' ∨ ∃ (index : Nat) (child child' : Element),
      items[index]? = some (.element child) ∧ items'[index]? = some (.element child') ∧
        child.OppositeZeros child'
  | [], [], _ => .inl rfl
  | [], item' :: items', h => by simp [Item.unitedAll] at h
  | item :: items, [], h => by simp [Item.unitedAll] at h
  | item :: items, item' :: items', h => by
    simp only [Item.unitedAll, List.cons.injEq] at h
    rcases Item.eq_or_oppositeZeros item item' h.1 with rfl | ⟨e, e', rfl, rfl, hopposite⟩
    · rcases Item.all_eq_or_oppositeZeros items items' h.2 with
        rfl | ⟨index, child, child', hleft, hright, hopposite⟩
      · exact .inl rfl
      · exact .inr ⟨index + 1, child, child', hleft, hright, hopposite⟩
    · exact .inr ⟨0, e, e', rfl, rfl, hopposite⟩

end

theorem Attributes.OppositeZeros.settled_ne {attributes attributes' : Attributes}
    (h : attributes.OppositeZeros attributes') : attributes.settled ≠ attributes'.settled := by
  obtain ⟨index, key, key', x, y, hx, hy, hopposite⟩ := h
  intro hsettled
  have hat : attributes.settled.at? index = attributes'.settled.at? index := by rw [hsettled]
  simp only [at?] at hx hy
  simp only [Attributes.settled, at?, List.getElem?_map, hx, hy, Option.map_some,
    Attribute.settled, AttributeValue.settled, Option.some.injEq, Attribute.mk.injEq,
    AttributeValue.float.injEq] at hat
  exact hopposite.settled_ne hat.2

theorem Item.settledAll_eq_map (items : List Item) :
    Item.settledAll items = items.map Item.settled := by
  induction items with
  | nil => rfl
  | cons item items ih => rw [Item.settledAll, ih, List.map_cons]

theorem Element.attributes_settled (e : Element) : e.settled.attributes = e.attributes.settled := by
  obtain ⟨name, attributes, _ | items⟩ := e <;> rfl

theorem Element.items_settled (e : Element) : e.settled.items = e.items.map Item.settled := by
  obtain ⟨name, attributes, _ | items⟩ := e
  · rfl
  · exact Item.settledAll_eq_map items

/-- The zeros stay apart when elements are settled, so that the JSON of both shows which is where. -/
theorem Element.OppositeZeros.settled_ne {e e' : Element} (h : e.OppositeZeros e') :
    e.settled ≠ e'.settled := by
  induction h with
  | @here e e' hopposite =>
    intro hsettled
    have hattributes := congrArg Element.attributes hsettled
    rw [attributes_settled, attributes_settled] at hattributes
    exact hopposite.settled_ne hattributes
  | @inside e e' index child child' hleft hright _ ih =>
    intro hsettled
    have hitems := congrArg (fun e => e.items[index]?) hsettled
    simp only [items_settled, List.getElem?_map, hleft, hright, Option.map_some, Item.settled,
      Option.some.injEq, Item.element.injEq] at hitems
    exact ih hitems

end Zeros

theorem Element.comparable_iff_floats (e : Element) :
    e.Comparable ↔ e.Everywhere fun node => ∀ a ∈ node.attributes.entries,
      ∀ x, a.value = some (.float x) → x.isNaN = false := by
  have hattribute : ∀ a : Attribute,
      a.isNaN = false ↔ ∀ x, a.value = some (.float x) → x.isNaN = false := by
    rintro ⟨key, _ | value⟩
    · simp [Attribute.isNaN]
    · cases value <;> simp [Attribute.isNaN, AttributeValue.isNaN]
  simp only [Comparable, Attributes.Comparable, hattribute]

/-- Equality goes both ways and from one element to the next, and an element is equal to itself if and
only if it holds no number that is not a number. Equal elements have the same chunks and the same
JSON text, unless there is zero in one and negative zero in the other somewhere; then the texts differ.
The pipeline of an element is handed to its calls beside it; equality, chunks and JSON do not look at
it. -/
theorem Element.equality_laws :
    (∀ a b : Element, a == b → b == a) ∧
    (∀ a b c : Element, a == b → b == c → a == c) ∧
    (∀ e : Element, e == e ↔ e.Everywhere fun node => ∀ a ∈ node.attributes.entries,
      ∀ x, a.value = some (.float x) → x.isNaN = false) ∧
    (∀ a b : Element, a == b →
      a.chunks = b.chunks ∧ a.json.text = b.json.text ∨ a.OppositeZeros b) ∧
    ∀ a b : Element, a == b → (a.json.text = b.json.text ↔ ¬ a.OppositeZeros b) := by
  have hequal : ∀ a b : Element,
      a == b ↔ a.Comparable ∧ b.Comparable ∧ a.united = b.united := Element.equal_iff
  have hsame : ∀ a b : Element, a == b → a = b ∨ a.OppositeZeros b := fun a b h =>
    eq_or_oppositeZeros a b ((hequal a b).1 h).2.2
  refine ⟨fun a b h => ?symmetric, fun a b c h h' => ?transitive, fun e => ?reflexive,
    fun a b h => ?written, fun a b h => ⟨fun htext hopposite => ?apart, fun hopposite => ?together⟩⟩
  case symmetric =>
    obtain ⟨ha, hb, hunited⟩ := (hequal a b).1 h
    exact (hequal b a).2 ⟨hb, ha, hunited.symm⟩
  case transitive =>
    obtain ⟨ha, -, hab⟩ := (hequal a b).1 h
    obtain ⟨-, hc, hbc⟩ := (hequal b c).1 h'
    exact (hequal a c).2 ⟨ha, hc, hab.trans hbc⟩
  case reflexive => rw [hequal, ← comparable_iff_floats, eq_self, and_true, and_self]
  case written => exact (hsame a b h).imp_left fun hab => by rw [hab]; exact ⟨rfl, rfl⟩
  case apart =>
    have hjson := Json.eq_of_text a.numeric_json b.numeric_json htext
    exact hopposite.settled_ne (settled_eq_of_jsonMembers a b (Json.object.inj hjson))
  case together => rw [(hsame a b h).resolve_right hopposite]

def Element.listOf (x : Binary64) : Element :=
  ⟨"ul", .empty, some [.text "total", .element ⟨"li", ⟨[⟨"value", some (.float x)⟩]⟩, none⟩]⟩

/-- Lists of the zeros are equal both ways, and their JSON texts differ. -/
theorem Element.equality_of_zeros :
    Element.listOf .zero == .listOf .negativeZero ∧ Element.listOf .negativeZero == .listOf .zero ∧
      (Element.listOf .zero).json.text ≠ (Element.listOf .negativeZero).json.text := by
  have hequal : Element.listOf .zero == .listOf .negativeZero := by decide +kernel
  have hopposite : (Element.listOf .zero).OppositeZeros (.listOf .negativeZero) :=
    @OppositeZeros.inside _ _ 1 _ _ rfl rfl
      (.here ⟨0, _, _, _, _, rfl, rfl, .inl ⟨rfl, rfl⟩⟩)
  obtain ⟨symmetric, -, -, -, apart⟩ := equality_laws
  exact ⟨hequal, symmetric _ _ hequal, fun h => (apart _ _ hequal).1 h hopposite⟩

end MarkupTree
