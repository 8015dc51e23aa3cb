import MarkupTree.Json.Tree
import MarkupTree.Proofs.JsonText
import MarkupTree.Proofs.Rounding

/-! The JSON text of a tree loses nothing but which of the numbers that are not finite a value was.
Trees are settled by writing one of these for all of them, and two trees have one text if and only
if they are the same once they are settled. -/
namespace MarkupTree

section Settled

/-- The number, where all that are not finite are taken for one. -/
def Binary64.settled (x : Binary64) : Binary64 := if x.isFinite then x else ⟨0x7ff8000000000000⟩

def AttributeValue.settled : AttributeValue → AttributeValue
  | .float value => .float value.settled
  | value => value

def Attribute.settled (a : Attribute) : Attribute := ⟨a.key, a.value.map AttributeValue.settled⟩

def Attributes.settled (attributes : Attributes) : Attributes :=
  ⟨attributes.entries.map Attribute.settled⟩

mutual

def Element.settled : Element → Element
  | ⟨name, attributes, none⟩ => ⟨name, attributes.settled, none⟩
  | ⟨name, attributes, some items⟩ => ⟨name, attributes.settled, some (Item.settledAll items)⟩

def Item.settled : Item → Item
  | .element e => .element e.settled
  | .raw html => .raw html
  | .text text => .text text

def Item.settledAll : List Item → List Item
  | [] => []
  | item :: items => item.settled :: Item.settledAll items

end

def Document.settled (d : Document) : Document := ⟨d.children.map Element.settled⟩

end Settled

section Attributes

theorem Binary64.json_settled (x : Binary64) : x.settled.json = x.json := by
  by_cases hx : x.isFinite
  · rw [settled, if_pos hx]
  · have hnan : Binary64.isFinite ⟨0x7ff8000000000000⟩ = false := rfl
    rw [settled, if_neg hx, json, json, if_neg hx, hnan]
    rfl

theorem Binary64.settled_eq_of_json {x y : Binary64} (h : x.json = y.json) :
    x.settled = y.settled := by
  by_cases hx : x.isFinite
  · by_cases hy : y.isFinite
    · rw [json, json, if_pos hx, if_pos hy] at h
      rw [eq_of_text NumberLayout.json hx hy (Json.number.inj h)]
    · rw [json, json, if_pos hx, if_neg hy] at h
      cases h
  · by_cases hy : y.isFinite
    · rw [json, json, if_neg hx, if_pos hy] at h
      cases h
    · rw [settled, settled, if_neg hx, if_neg hy]

theorem toString_int_inj {a b : Int} (h : toString a = toString b) : a = b := by
  have ha := (readPower_toString a).1
  rw [h, (readPower_toString b).1] at ha
  cases ha
  rfl

theorem AttributeValue.json_settled (value : AttributeValue) : value.settled.json = value.json := by
  cases value with
  | float value => rw [settled, json, json, Binary64.json_settled]
  | string text => rfl
  | int value => rfl
  | bool value => rfl

theorem AttributeValue.settled_eq_of_json {value value' : AttributeValue}
    (h : value.json = value'.json) : value.settled = value'.settled := by
  cases value <;> cases value' <;>
    simp only [json, Json.typed, Json.object.injEq, List.cons.injEq, JsonMember.mk.injEq,
      Json.string.injEq, Json.number.injEq, Json.bool.injEq, String.reduceEq, true_and, and_true,
      false_and, and_false] at h
  case string.string => rw [h]
  case int.int => rw [toString_int_inj h]
  case float.float => rw [settled, settled, Binary64.settled_eq_of_json h]
  case bool.bool => rw [h]

theorem Attribute.json_settled (a : Attribute) : a.settled.json = a.json := by
  obtain ⟨key, value⟩ := a
  cases value with
  | none => rfl
  | some value =>
    simp only [settled, json, Option.map_some, AttributeValue.json_settled]

/-- A value is never written as null, which stands for none. -/
theorem AttributeValue.json_ne_null (value : AttributeValue) : value.json ≠ .null := by
  cases value <;> simp [json, Json.typed]

theorem Attribute.settled_eq_of_json {a b : Attribute} (h : a.json = b.json) :
    a.settled = b.settled := by
  obtain ⟨key, value⟩ := a
  obtain ⟨key', value'⟩ := b
  simp only [json, Json.object.injEq, List.cons.injEq, JsonMember.mk.injEq, Json.string.injEq,
    true_and, and_true] at h
  obtain ⟨rfl, hv⟩ := h
  cases value with
  | none =>
    cases value' with
    | none => rfl
    | some value' => exact absurd hv.symm value'.json_ne_null
  | some value =>
    cases value' with
    | none => exact absurd hv value.json_ne_null
    | some value' => simp [settled, AttributeValue.settled_eq_of_json hv]

theorem Attributes.json_settled (attributes : Attributes) :
    attributes.settled.json = attributes.json := by
  have hmap : attributes.settled.entries.map Attribute.json =
      attributes.entries.map Attribute.json := by
    rw [settled, List.map_map]
    exact List.map_congr_left fun a _ => a.json_settled
  rw [json, json, hmap]

theorem map_settled_eq_of_json {α β γ : Type} {json : α → β} {settled : α → γ} {as bs : List α}
    (ha : ∀ a ∈ as, ∀ b, json a = json b → settled a = settled b)
    (h : as.map json = bs.map json) : as.map settled = bs.map settled := by
  induction as generalizing bs with
  | nil =>
    cases bs with
    | nil => rfl
    | cons b bs => cases h
  | cons a as ih =>
    cases bs with
    | nil => cases h
    | cons b bs =>
      obtain ⟨ha, has⟩ := List.forall_mem_cons.1 ha
      obtain ⟨hb, hbs⟩ := List.cons.inj h
      rw [List.map_cons, List.map_cons, ha b hb, ih has hbs]

theorem Attributes.settled_eq_of_json {attributes attributes' : Attributes}
    (h : attributes.json = attributes'.json) : attributes.settled = attributes'.settled := by
  have hs := map_settled_eq_of_json (fun a _ b => Attribute.settled_eq_of_json)
    (Json.array.inj h)
  rw [settled, settled, hs]

end Attributes

section Trees

mutual

theorem Element.jsonMembers_settled : (e : Element) → e.settled.jsonMembers = e.jsonMembers
  | ⟨name, attributes, none⟩ => by
    rw [Element.settled, Element.jsonMembers, Element.jsonMembers, attributes.json_settled]
  | ⟨name, attributes, some items⟩ => by
    rw [Element.settled, Element.jsonMembers, Element.jsonMembers, attributes.json_settled,
      Item.jsonAll_settled items]

theorem Item.json_settled : (item : Item) → item.settled.json = item.json
  | .element e => by rw [Item.settled, Item.json, Item.json, e.jsonMembers_settled]
  | .raw _ => rfl
  | .text _ => rfl

theorem Item.jsonAll_settled : (items : List Item) →
    Item.jsonAll (Item.settledAll items) = Item.jsonAll items
  | [] => rfl
  | item :: items => by
    rw [Item.settledAll, Item.jsonAll, Item.jsonAll, item.json_settled,
      Item.jsonAll_settled items]

end

mutual

/-- Elements that are written alike are the same once they are settled. -/
theorem Element.settled_eq_of_jsonMembers : (e e' : Element) →
    e.jsonMembers = e'.jsonMembers → e.settled = e'.settled
  | ⟨name, attributes, none⟩, ⟨name', attributes', content'⟩, h => by
    cases content' with
    | none =>
      simp [Element.jsonMembers] at h
      rw [Element.settled, Element.settled, h.1, Attributes.settled_eq_of_json h.2]
    | some items' => simp [Element.jsonMembers] at h
  | ⟨name, attributes, some items⟩, ⟨name', attributes', content'⟩, h => by
    cases content' with
    | none => simp [Element.jsonMembers] at h
    | some items' =>
      simp [Element.jsonMembers] at h
      rw [Element.settled, Element.settled, h.1, Attributes.settled_eq_of_json h.2.1,
        Item.settledAll_eq_of_jsonAll items items' h.2.2]

theorem Item.settled_eq_of_json : (item item' : Item) →
    item.json = item'.json → item.settled = item'.settled
  | .element e, item', h => by
    cases item' with
    | element e' =>
      simp [Item.json, Json.typed] at h
      rw [Item.settled, Item.settled, Element.settled_eq_of_jsonMembers e e' h]
    | raw html' => simp [Item.json, Json.typed] at h
    | text text' => simp [Item.json, Json.typed] at h
  | .raw html, item', h => by
    cases item' with
    | element e' => simp [Item.json, Json.typed] at h
    | raw html' =>
      simp [Item.json, Json.typed] at h
      rw [h]
    | text text' => simp [Item.json, Json.typed] at h
  | .text text, item', h => by
    cases item' with
    | element e' => simp [Item.json, Json.typed] at h
    | raw html' => simp [Item.json, Json.typed] at h
    | text text' =>
      simp [Item.json, Json.typed] at h
      rw [h]

theorem Item.settledAll_eq_of_jsonAll : (items items' : List Item) →
    Item.jsonAll items = Item.jsonAll items' → Item.settledAll items = Item.settledAll items'
  | [], [], _ => rfl
  | [], item' :: items', h => by cases h
  | item :: items, [], h => by cases h
  | item :: items, item' :: items', h => by
    obtain ⟨hi, his⟩ := List.cons.inj h
    rw [Item.settledAll, Item.settledAll, Item.settled_eq_of_json item item' hi,
      Item.settledAll_eq_of_jsonAll items items' his]

end

theorem Document.json_settled (d : Document) : d.settled.json = d.json := by
  have hmap : d.settled.children.map Element.json = d.children.map Element.json := by
    rw [settled, List.map_map]
    exact List.map_congr_left fun e _ => congrArg Json.object e.jsonMembers_settled
  rw [json, json, hmap]

theorem Document.settled_eq_of_json {d d' : Document} (h : d.json = d'.json) :
    d.settled = d'.settled := by
  simp only [json, Json.object.injEq, List.cons.injEq, JsonMember.mk.injEq, Json.array.injEq,
    true_and, and_true] at h
  have hs := map_settled_eq_of_json (fun e _ e' he =>
    Element.settled_eq_of_jsonMembers e e' (Json.object.inj he)) h
  rw [settled, settled, hs]

end Trees

section Numbers

theorem isNumberText_toString (value : Int) : Json.isNumberText (toString value) := by
  have ha := all_isNumeral_toString value
  rw [Json.isNumberText, ha, Bool.true_and]
  cases value with
  | ofNat n =>
    have hl : (toString (Int.ofNat n)).toList = Nat.toDigits 10 n := Nat.toList_repr
    obtain ⟨c, cs, hcs, hc⟩ := exists_toDigits n
    rw [hl, hcs, List.head?_cons, Option.any_some, hc, Bool.true_or]
  | negSucc n =>
    rw [toList_toString_negSucc]
    rfl

theorem isNumberText_text (layout : NumberLayout) {x : Binary64} (hx : x.isFinite) :
    Json.isNumberText (layout.text x.value) := by
  have ha := layout.all_isNumeral_chars x.value
  rw [Json.isNumberText, NumberLayout.text, String.toList_ofList, ha, Bool.true_and,
    Binary64.value_of_isFinite hx, NumberLayout.chars]
  split
  · rfl
  · obtain ⟨c, cs, hcs, hc⟩ := layout.exists_digit_decimalChars
      ((BinaryFormat.double.magnitude
        (x.bits.toNat % BinaryFormat.double.signWord)).shortest layout.tie)
    simp [hcs, hc]

theorem AttributeValue.numeric_json (value : AttributeValue) : value.json.Numeric := by
  cases value with
  | string text => simp [json, Json.typed, Json.Numeric, Json.NumericMembers]
  | int value =>
    have hv : (Json.number (toString value)).Numeric := isNumberText_toString value
    simp only [json, Json.typed, Json.Numeric, Json.NumericMembers, true_and, and_true]
    exact hv
  | float value =>
    have hv : value.json.Numeric := by
      unfold Binary64.json
      split
      · rename_i hx
        rw [Json.Numeric]
        exact isNumberText_text NumberLayout.json hx
      · trivial
    simp [json, Json.typed, Json.Numeric, Json.NumericMembers, hv]
  | bool value => simp [json, Json.typed, Json.Numeric, Json.NumericMembers]

theorem Attributes.numeric_json (attributes : Attributes) : attributes.json.Numeric := by
  rw [json, Json.Numeric, Json.numericAll_iff]
  intro x hx
  obtain ⟨a, -, rfl⟩ := List.mem_map.1 hx
  cases hv : a.value with
  | none => simp [Attribute.json, hv, Json.Numeric, Json.NumericMembers]
  | some value =>
    simp [Attribute.json, hv, Json.Numeric, Json.NumericMembers, value.numeric_json]

mutual

theorem Element.numeric_jsonMembers : (e : Element) → Json.NumericMembers e.jsonMembers
  | ⟨_, attributes, none⟩ => by
    simp [Element.jsonMembers, Json.NumericMembers, Json.Numeric, attributes.numeric_json]
  | ⟨_, attributes, some items⟩ => by
    simp [Element.jsonMembers, Json.NumericMembers, Json.Numeric, attributes.numeric_json,
      Item.numeric_jsonAll items]

theorem Item.numeric_json : (item : Item) → item.json.Numeric
  | .element e => by
    simp [Item.json, Json.typed, Json.Numeric, Json.NumericMembers, e.numeric_jsonMembers]
  | .raw _ => by simp [Item.json, Json.typed, Json.Numeric, Json.NumericMembers]
  | .text _ => by simp [Item.json, Json.typed, Json.Numeric, Json.NumericMembers]

theorem Item.numeric_jsonAll : (items : List Item) → Json.NumericAll (Item.jsonAll items)
  | [] => trivial
  | item :: items => by
    rw [Item.jsonAll, Json.NumericAll]
    exact ⟨item.numeric_json, Item.numeric_jsonAll items⟩

end

theorem Element.numeric_json (e : Element) : e.json.Numeric := e.numeric_jsonMembers

theorem Document.numeric_json (d : Document) : d.json.Numeric := by
  have hc : Json.NumericAll (d.children.map Element.json) := by
    rw [Json.numericAll_iff]
    intro x hx
    obtain ⟨e, -, rfl⟩ := List.mem_map.1 hx
    exact e.numeric_json
  simp [json, Json.Numeric, Json.NumericMembers, hc]

end Numbers

/-- The JSON texts of two elements, and of two documents, are the same if and only if they are the
same once the numbers that are not finite are taken for one. -/
theorem jsonText_eq_iff_settled_eq :
    (∀ e e' : Element, e.json.text = e'.json.text ↔ e.settled = e'.settled) ∧
    ∀ d d' : Document, d.json.text = d'.json.text ↔ d.settled = d'.settled := by
  constructor
  · intro e e'
    constructor
    · intro h
      have hj := Json.eq_of_text e.numeric_json e'.numeric_json h
      exact Element.settled_eq_of_jsonMembers e e' (Json.object.inj hj)
    · intro h
      have hj : e.settled.jsonMembers = e'.settled.jsonMembers := congrArg Element.jsonMembers h
      rw [Element.jsonMembers_settled, Element.jsonMembers_settled] at hj
      rw [Element.json, Element.json, hj]
  · intro d d'
    constructor
    · intro h
      exact Document.settled_eq_of_json (Json.eq_of_text d.numeric_json d'.numeric_json h)
    · intro h
      rw [← d.json_settled, ← d'.json_settled, h]

end MarkupTree
