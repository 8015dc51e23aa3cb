import MarkupTree.Json.Value
import MarkupTree.Json.Reader
import MarkupTree.Proofs.Escaping
import MarkupTree.Proofs.Spans

/-! JSON text tells its value. The first character tells the kind of a value, a quote ends a string, a
number ends where its characters do, and the items of an array and the members of an object end at
a comma or at the bracket; so a text begins with the text of one value at most. -/
namespace MarkupTree

namespace Json

section Strings

theorem hexDigit?_digitChar : ∀ digit < 16, Text.hexDigit? (Nat.digitChar digit) = some digit := by
  decide

/-- The code of a control character, as it is written behind a backslash. -/
theorem readCodePoint_hexPair {code : Nat} (hc : code < 0x20) (r : List Char) :
    readCodePoint ('0' :: '0' :: (hexPair code ++ r)) = some (Char.ofNat code, r) := by
  have hz : Text.hexDigit? '0' = some 0 := rfl
  have hhigh := hexDigit?_digitChar (code / 16) (by omega)
  have hlow := hexDigit?_digitChar (code % 16) (by omega)
  have hcode : code / 16 * 0x10 + code % 16 = code := by omega
  have hunit : readUnit ('0' :: '0' :: (hexPair code ++ r)) = some (code, r) := by
    simp [readUnit, hexPair, hz, hhigh, hlow, hcode]
  have hl : ¬ 0xDC00 ≤ code := by omega
  have hh : ¬ 0xD800 ≤ code := by omega
  simp [readCodePoint, hunit, hl, hh]

theorem readStringFrom_escapeChar (bound : Nat) (c : Char) (r : List Char) :
    readStringFrom (bound + 1) (escapeChar c ++ r) =
      (readStringFrom bound r).map fun (text, rest) => (c :: text, rest) := by
  unfold escapeChar
  split
  case h_8 hquote hslash _ _ _ _ _ =>
    by_cases hc : c.toNat < 0x20
    · have hcode := readCodePoint_hexPair hc r
      rw [Char.ofNat_toNat] at hcode
      simp only [hc, if_true, List.cons_append, List.nil_append, readStringFrom, hcode,
        Option.pure_def, Option.bind_eq_bind, Option.bind_some, Option.map_eq_bind]
      rfl
    · have hs : (c == '\\') = false := beq_false_of_ne hslash
      rw [if_neg hc, List.singleton_append, readStringFrom]
      · simp only [hc, hs, decide_false, Bool.or_self, Bool.false_eq_true, if_false,
          Option.pure_def, Option.bind_eq_bind, Option.map_eq_bind]
        rfl
      · exact hquote
      · exact fun _ h _ => hslash h
      · exact fun _ _ h _ => hslash h
  all_goals
    simp only [List.cons_append, List.nil_append, Char.reduceEq, imp_self, readStringFrom,
      simpleEscape?, Option.pure_def, Option.bind_eq_bind, Option.bind_some, Option.map_eq_bind]
    rfl

theorem readStringFrom_flatMap {bound : Nat} {cs : List Char} (hb : cs.length < bound)
    (r : List Char) : readStringFrom bound (cs.flatMap escapeChar ++ '"' :: r) = some (cs, r) := by
  induction cs generalizing bound with
  | nil =>
    cases bound with
    | zero => exact absurd hb (Nat.not_lt_zero _)
    | succ bound => rfl
  | cons c cs ih =>
    cases bound with
    | zero => exact absurd hb (Nat.not_lt_zero _)
    | succ bound =>
      rw [List.flatMap_cons, List.append_assoc, readStringFrom_escapeChar,
        ih (Nat.lt_of_succ_lt_succ hb)]
      rfl

theorem toList_quote (text : String) :
    (quote text).toList = '"' :: (text.toList.flatMap escapeChar ++ ['"']) := String.toList_ofList

theorem readString_quote (text : String) (r : List Char) :
    readString ((quote text).toList ++ r) = some (text, r) := by
  have hlen (cs : List Char) : cs.length ≤ (cs.flatMap escapeChar).length := by
    induction cs with
    | nil => exact Nat.le_refl 0
    | cons c cs ih =>
      have hc : 0 < (escapeChar c).length := by
        unfold escapeChar
        split
        case h_8 => split <;> simp
        all_goals simp
      rw [List.flatMap_cons, List.length_append, List.length_cons]
      omega
  have hb : text.toList.length <
      (text.toList.flatMap escapeChar ++ '"' :: r).length + 1 := by
    have h := hlen text.toList
    rw [List.length_append]
    omega
  rw [toList_quote, List.cons_append, List.append_assoc, List.singleton_append, readString,
    readStringFrom_flatMap hb]
  simp

theorem quote_append_inj {a b : String} {r s : List Char}
    (h : (quote a).toList ++ r = (quote b).toList ++ s) : a = b ∧ r = s := by
  have hread := readString_quote a r
  rw [h, readString_quote b s] at hread
  cases hread
  exact ⟨rfl, rfl⟩

end Strings

section Kinds

/-- The kinds of values, which the first character tells. -/
inductive Kind where
  | null
  | bool (value : Bool)
  | number
  | string
  | array
  | object

def kind : Json → Kind
  | .null => .null
  | .bool value => .bool value
  | .number _ => .number
  | .string _ => .string
  | .array _ => .array
  | .object _ => .object

def kindOf? (c : Char) : Option Kind :=
  match c with
  | 'n' => some .null
  | 't' => some (.bool true)
  | 'f' => some (.bool false)
  | '"' => some .string
  | '[' => some .array
  | '\x7b' => some .object
  | c => if c.isDigit || c == '-' then some .number else none

/-- Whether the text is one that a number can have: characters of numbers, with a digit or a minus
sign in front. -/
def isNumberText (text : String) : Bool :=
  text.toList.all isNumeral && text.toList.head?.any fun c => c.isDigit || c == '-'

mutual

/-- Every number inside has the text of a number. -/
def Numeric : Json → Prop
  | .number text => isNumberText text
  | .array items => NumericAll items
  | .object members => NumericMembers members
  | _ => True

def NumericAll : List Json → Prop
  | [] => True
  | item :: items => item.Numeric ∧ NumericAll items

def NumericMembers : List JsonMember → Prop
  | [] => True
  | ⟨_, value⟩ :: members => value.Numeric ∧ NumericMembers members

end

theorem numericAll_iff {items : List Json} : NumericAll items ↔ ∀ x ∈ items, x.Numeric := by
  induction items with
  | nil => simp [NumericAll]
  | cons item items ih => rw [NumericAll, ih, List.forall_mem_cons]

theorem numericMembers_iff {members : List JsonMember} :
    NumericMembers members ↔ ∀ m ∈ members, m.value.Numeric := by
  induction members with
  | nil => simp [NumericMembers]
  | cons m members ih =>
    obtain ⟨key, value⟩ := m
    rw [NumericMembers, ih, List.forall_mem_cons]

end Kinds

section Lists

variable {α : Type} {chars : α → List Char} {p : Char → Bool}

def followers (chars : α → List Char) (xs : List α) : List Char :=
  xs.flatMap fun x => ',' :: chars x

theorem intercalate_eq_followers (x : α) (xs : List α) :
    [','].intercalate ((x :: xs).map chars) = chars x ++ followers chars xs := by
  rw [List.map_cons, intercalate_cons_eq_flatMap, List.flatMap_map]
  rfl

/-- Wherever the thing is written with something behind it that does not go on with it, it can be
told which thing it is. -/
def Told (P : α → Prop) (chars : α → List Char) (p : Char → Bool) (x : α) : Prop :=
  ∀ y, P y → ∀ r s, Ends p r → Ends p s → chars x ++ r = chars y ++ s → x = y ∧ r = s

theorem ends_followers {close : Char} (hcomma : p ',' = false) (hp : p close = false) (xs : List α)
    (r : List Char) : Ends p (followers chars xs ++ close :: r) := by
  cases xs with
  | nil => exact ends_cons hp
  | cons x xs => exact ends_cons hcomma

theorem followers_append_inj {P : α → Prop} {close : Char} (hcomma : p ',' = false)
    (hp : p close = false) (hclose : close ≠ ',') {xs ys : List α} {r s : List Char}
    (hx : ∀ x ∈ xs, Told P chars p x) (hy : ∀ y ∈ ys, P y)
    (h : followers chars xs ++ close :: r = followers chars ys ++ close :: s) :
    xs = ys ∧ r = s := by
  induction xs generalizing ys with
  | nil =>
    cases ys with
    | nil => exact ⟨rfl, (List.cons.inj h).2⟩
    | cons y ys => exact absurd (List.cons.inj h).1 hclose
  | cons x xs ih =>
    cases ys with
    | nil => exact absurd (List.cons.inj h).1.symm hclose
    | cons y ys =>
      obtain ⟨hx, hxs⟩ := List.forall_mem_cons.1 hx
      obtain ⟨hy, hys⟩ := List.forall_mem_cons.1 hy
      simp only [followers, List.flatMap_cons, List.cons_append, List.append_assoc,
        List.cons.injEq, true_and] at h
      obtain ⟨rfl, hrest⟩ := hx y hy _ _ (ends_followers hcomma hp xs r)
        (ends_followers hcomma hp ys s) h
      obtain ⟨rfl, hrs⟩ := ih hxs hys hrest
      exact ⟨rfl, hrs⟩

theorem intercalate_append_inj {P : α → Prop} {close : Char} (hcomma : p ',' = false)
    (hp : p close = false) (hclose : close ≠ ',')
    (hfirst : ∀ x, P x → ∀ t u, chars x ++ t ≠ close :: u) {xs ys : List α} {r s : List Char}
    (hx : ∀ x ∈ xs, P x ∧ Told P chars p x) (hy : ∀ y ∈ ys, P y)
    (h : [','].intercalate (xs.map chars) ++ close :: r =
      [','].intercalate (ys.map chars) ++ close :: s) :
    xs = ys ∧ r = s := by
  cases xs with
  | nil =>
    cases ys with
    | nil => exact ⟨rfl, (List.cons.inj h).2⟩
    | cons y ys =>
      rw [intercalate_eq_followers, List.append_assoc] at h
      exact absurd h.symm (hfirst y (hy y List.mem_cons_self) _ _)
  | cons x xs =>
    cases ys with
    | nil =>
      rw [intercalate_eq_followers, List.append_assoc] at h
      exact absurd h (hfirst x (hx x List.mem_cons_self).1 _ _)
    | cons y ys =>
      obtain ⟨hx, hxs⟩ := List.forall_mem_cons.1 hx
      obtain ⟨hy, hys⟩ := List.forall_mem_cons.1 hy
      rw [intercalate_eq_followers, intercalate_eq_followers, List.append_assoc,
        List.append_assoc] at h
      obtain ⟨rfl, hrest⟩ := hx.2 y hy _ _ (ends_followers hcomma hp xs r)
        (ends_followers hcomma hp ys s) h
      obtain ⟨rfl, hrs⟩ := followers_append_inj hcomma hp hclose (fun x h => (hxs x h).2) hys hrest
      exact ⟨rfl, hrs⟩

end Lists

section Values

def chars (a : Json) : List Char := a.text.toList

def memberChars (m : JsonMember) : List Char := (quote m.key).toList ++ ':' :: m.value.chars

theorem texts_eq_map (items : List Json) : texts items = items.map text := by
  induction items with
  | nil => rfl
  | cons item items ih => rw [texts, ih, List.map_cons]

theorem memberTexts_eq_map (members : List JsonMember) :
    memberTexts members = members.map fun m => quote m.key ++ ":" ++ m.value.text := by
  induction members with
  | nil => rfl
  | cons m members ih =>
    obtain ⟨key, value⟩ := m
    rw [memberTexts, ih, List.map_cons]

theorem chars_array (items : List Json) :
    (Json.array items).chars = '[' :: ([','].intercalate (items.map chars) ++ [']']) := by
  have hm : (items.map text).map String.toList = items.map chars := by
    rw [List.map_map]
    rfl
  rw [chars, text, texts_eq_map, String.toList_append, String.toList_append,
    String.toList_intercalate, hm]
  rfl

theorem chars_object (members : List JsonMember) :
    (Json.object members).chars =
      '\x7b' :: ([','].intercalate (members.map memberChars) ++ ['\x7d']) := by
  have hm : (members.map fun m => quote m.key ++ ":" ++ m.value.text).map String.toList =
      members.map memberChars := by
    rw [List.map_map]
    apply List.map_congr_left
    intro m _
    simp [memberChars, chars]
  rw [chars, text, memberTexts_eq_map, String.toList_append, String.toList_append,
    String.toList_intercalate, hm]
  rfl

theorem exists_kindOf? {a : Json} (h : a.Numeric) :
    ∃ c cs, a.chars = c :: cs ∧ kindOf? c = some a.kind := by
  cases a with
  | null => exact ⟨'n', _, rfl, rfl⟩
  | bool value =>
    cases value with
    | false => exact ⟨'f', _, rfl, rfl⟩
    | true => exact ⟨'t', _, rfl, rfl⟩
  | number text =>
    rw [Numeric, isNumberText, Bool.and_eq_true] at h
    cases hcs : text.toList with
    | nil =>
      rw [hcs] at h
      cases h.2
    | cons c cs =>
      have hc : c.isDigit || c == '-' := by simpa [hcs] using h.2
      refine ⟨c, cs, hcs, ?_⟩
      unfold kindOf?
      split <;> first | (exact absurd hc (by decide)) | rw [if_pos hc, kind]
  | string text => exact ⟨'"', _, toList_quote text, rfl⟩
  | array items => exact ⟨'[', _, chars_array items, rfl⟩
  | object members => exact ⟨'\x7b', _, chars_object members, rfl⟩

theorem kind_eq_of_append {a b : Json} {r s : List Char} (ha : a.Numeric) (hb : b.Numeric)
    (h : a.chars ++ r = b.chars ++ s) : a.kind = b.kind := by
  obtain ⟨c, cs, hcs, hc⟩ := exists_kindOf? ha
  obtain ⟨d, ds, hds, hd⟩ := exists_kindOf? hb
  rw [hcs, hds, List.cons_append, List.cons_append] at h
  rw [(List.cons.inj h).1, hd] at hc
  exact (Option.some.inj hc).symm

theorem chars_append_ne_bracket {a : Json} (h : a.Numeric) (t u : List Char) :
    a.chars ++ t ≠ ']' :: u := by
  obtain ⟨c, cs, hcs, hc⟩ := exists_kindOf? h
  rw [hcs, List.cons_append]
  intro he
  rw [(List.cons.inj he).1] at hc
  cases hc

theorem memberChars_append_ne_brace (m : JsonMember) (t u : List Char) :
    memberChars m ++ t ≠ '\x7d' :: u := by
  rw [memberChars, toList_quote]
  intro he
  exact absurd (List.cons.inj he).1 (by decide)

theorem told_member {key : String} {value : Json} (h : Told Numeric chars isNumeral value) :
    Told (fun m => m.value.Numeric) memberChars isNumeral ⟨key, value⟩ := by
  intro m hm r s hr hs he
  obtain ⟨key', value'⟩ := m
  simp only [memberChars, List.append_assoc, List.cons_append] at he
  obtain ⟨rfl, hv⟩ := quote_append_inj he
  obtain ⟨rfl, hrs⟩ := h value' hm r s hr hs (List.cons.inj hv).2
  exact ⟨rfl, hrs⟩

theorem told_number {text : String} (h : (Json.number text).Numeric) :
    Told Numeric chars isNumeral (.number text) := by
  intro b hb r s hr hs he
  have hk := kind_eq_of_append h hb he
  cases b with
  | number text' =>
    rw [Numeric, isNumberText, Bool.and_eq_true] at h hb
    obtain ⟨ht, hrs⟩ := span_append_inj (List.all_eq_true.1 h.1) (List.all_eq_true.1 hb.1) hr hs he
    exact ⟨congrArg Json.number (String.toList_injective ht), hrs⟩
  | _ => cases hk

mutual

theorem told : (a : Json) → a.Numeric → Told Numeric chars isNumeral a
  | .null, ha => by
    intro b hb r s hr hs h
    have hk := kind_eq_of_append ha hb h
    cases b with
    | null => exact ⟨rfl, List.append_cancel_left h⟩
    | _ => cases hk
  | .bool value, ha => by
    intro b hb r s hr hs h
    have hk := kind_eq_of_append ha hb h
    cases b with
    | bool value' =>
      cases hk
      exact ⟨rfl, List.append_cancel_left h⟩
    | _ => cases hk
  | .number text, ha => told_number ha
  | .string text, ha => by
    intro b hb r s hr hs h
    have hk := kind_eq_of_append ha hb h
    cases b with
    | string text' =>
      obtain ⟨rfl, hrs⟩ := quote_append_inj h
      exact ⟨rfl, hrs⟩
    | _ => cases hk
  | .array items, ha => by
    intro b hb r s hr hs h
    have hk := kind_eq_of_append ha hb h
    cases b with
    | array items' =>
      rw [chars_array, chars_array, List.cons_append, List.cons_append, List.append_assoc,
        List.append_assoc] at h
      obtain ⟨rfl, hrs⟩ := intercalate_append_inj rfl rfl (by decide)
        (fun x hx => chars_append_ne_bracket hx) (told_items items ha)
        (numericAll_iff.1 hb) (List.cons.inj h).2
      exact ⟨rfl, hrs⟩
    | _ => cases hk
  | .object members, ha => by
    intro b hb r s hr hs h
    have hk := kind_eq_of_append ha hb h
    cases b with
    | object members' =>
      rw [chars_object, chars_object, List.cons_append, List.cons_append, List.append_assoc,
        List.append_assoc] at h
      obtain ⟨rfl, hrs⟩ := intercalate_append_inj rfl rfl (by decide)
        (fun x _ => memberChars_append_ne_brace x) (told_members members ha)
        (numericMembers_iff.1 hb) (List.cons.inj h).2
      exact ⟨rfl, hrs⟩
    | _ => cases hk

theorem told_items : (items : List Json) → NumericAll items →
    ∀ x ∈ items, x.Numeric ∧ Told Numeric chars isNumeral x
  | [], _ => nofun
  | item :: items, h =>
    List.forall_mem_cons.2 ⟨⟨h.1, told item h.1⟩, told_items items h.2⟩

theorem told_members : (members : List JsonMember) → NumericMembers members →
    ∀ m ∈ members, m.value.Numeric ∧ Told (fun m => m.value.Numeric) memberChars isNumeral m
  | [], _ => nofun
  | ⟨_, value⟩ :: members, h =>
    List.forall_mem_cons.2 ⟨⟨h.1, told_member (told value h.1)⟩, told_members members h.2⟩

end

/-- Values whose numbers are numbers have different texts if they are different. -/
theorem eq_of_text {a b : Json} (ha : a.Numeric) (hb : b.Numeric) (h : a.text = b.text) :
    a = b := by
  have hc : a.chars ++ [] = b.chars ++ [] := by rw [chars, chars, h]
  exact (told a ha b hb [] [] ends_nil ends_nil hc).1

end Values

end Json

end MarkupTree
