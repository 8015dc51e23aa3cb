import MarkupTree.Attribute
import MarkupTree.Proofs.Spans

/-! Escaping loses nothing, and leaves no character that could end the text. Numbers and truth values
are written in characters that need no escaping, so the text between the quotes of an attribute is
always its text escaped. -/
namespace MarkupTree
namespace Text

def readChar? : List Char → Option (Char × List Char)
  | '&' :: 'a' :: 'm' :: 'p' :: ';' :: rest => some ('&', rest)
  | '&' :: 'l' :: 't' :: ';' :: rest => some ('<', rest)
  | '&' :: 'g' :: 't' :: ';' :: rest => some ('>', rest)
  | '&' :: 'q' :: 'u' :: 'o' :: 't' :: ';' :: rest => some ('"', rest)
  | '&' :: '#' :: 'x' :: '2' :: '7' :: ';' :: rest => some ('\x27', rest)
  | c :: rest => some (c, rest)
  | [] => none

theorem readChar?_escapeChar_append (c : Char) (rest : List Char) :
    readChar? (escapeChar c ++ rest) = some (c, rest) := by
  unfold escapeChar entity?
  split
  · rename_i entity he
    split at he <;> cases he <;> rfl
  · rename_i he
    have hc : c ≠ '&' := by
      rintro rfl
      cases he
    unfold readChar?
    split <;> simp_all

theorem escapeChar_ne_nil (c : Char) : escapeChar c ≠ [] := by
  intro h
  have hr := readChar?_escapeChar_append c []
  rw [h] at hr
  cases hr

theorem flatMap_escapeChar_injective {cs ds : List Char}
    (h : cs.flatMap escapeChar = ds.flatMap escapeChar) : cs = ds := by
  have hcode : ∀ c d xs ys, escapeChar c ++ xs = escapeChar d ++ ys → c = d := by
    intro c d xs ys he
    have hr := congrArg readChar? he
    rw [readChar?_escapeChar_append, readChar?_escapeChar_append] at hr
    exact (Prod.mk.inj (Option.some.inj hr)).1
  exact flatMap_inj_of_prefix (p := fun _ => True) (fun c _ => escapeChar_ne_nil c)
    (fun c d _ _ => hcode c d) (fun _ _ => trivial) (fun _ _ => trivial) h

theorem toList_escape (text : String) :
    (escape text).toList = text.toList.flatMap escapeChar := String.toList_ofList

theorem escape_injective {a b : String} (h : escape a = escape b) : a = b := by
  have hl := congrArg String.toList h
  rw [toList_escape, toList_escape] at hl
  exact String.toList_inj.1 (flatMap_escapeChar_injective hl)

theorem escape_append (a b : String) : escape (a ++ b) = escape a ++ escape b := by
  apply String.toList_inj.1
  rw [String.toList_append, toList_escape, toList_escape, toList_escape, String.toList_append,
    List.flatMap_append]

theorem eq_amp_or_entity?_of_mem_entity {c d : Char} {entity : String}
    (he : entity? c = some entity) (hd : d ∈ entity.toList) : d = '&' ∨ entity? d = none := by
  have hs : entity.toList.all fun d => d == '&' || (entity? d).isNone := by
    unfold entity? at he
    split at he <;> cases he <;> rfl
  have h := List.all_eq_true.1 hs d hd
  rwa [Bool.or_eq_true, beq_iff_eq, Option.isNone_iff_eq_none] at h

theorem eq_amp_or_entity?_of_mem_escapeChar {c d : Char} (h : d ∈ escapeChar c) :
    d = '&' ∨ entity? d = none := by
  unfold escapeChar at h
  cases he : entity? c with
  | none =>
    rw [he] at h
    rw [List.mem_singleton.1 h]
    exact .inr he
  | some entity =>
    rw [he] at h
    exact eq_amp_or_entity?_of_mem_entity he h

theorem not_mem_escape {c : Char} {entity : String} (hc : entity? c = some entity) (ha : c ≠ '&')
    (text : String) : c ∉ (escape text).toList := by
  intro h
  rw [toList_escape, List.mem_flatMap] at h
  obtain ⟨d, -, hd⟩ := h
  rcases eq_amp_or_entity?_of_mem_escapeChar hd with rfl | hn
  · exact ha rfl
  · rw [hc] at hn
    cases hn

end Text

section Numerals

def isNumeral (c : Char) : Bool := c.isDigit || "+-.aefinN".toList.contains c

theorem entity?_eq_none_of_isNumeral {c : Char} (h : isNumeral c) : Text.entity? c = none := by
  cases he : Text.entity? c with
  | none => rfl
  | some entity =>
    unfold Text.entity? at he
    split at he <;> cases he <;> cases h

theorem isPlain_of_all_isNumeral {text : String} (h : text.toList.all isNumeral) :
    Text.isPlain text := by
  rw [Text.isPlain, List.all_eq_true]
  intro c hc
  rw [entity?_eq_none_of_isNumeral (List.all_eq_true.1 h c hc)]
  rfl

theorem all_isNumeral_toDigits (n : Nat) : (Nat.toDigits 10 n).all isNumeral := by
  rw [List.all_eq_true]
  intro c hc
  have hd := Nat.isDigit_of_mem_toDigits (by decide) (by decide) hc
  rw [isNumeral, hd, Bool.true_or]

theorem toList_toString_negSucc (n : Nat) :
    (toString (Int.negSucc n)).toList = '-' :: Nat.toDigits 10 (n + 1) := by
  rw [← Nat.toList_repr]
  exact String.toList_append

theorem all_isNumeral_toString (value : Int) : (toString value).toList.all isNumeral := by
  cases value with
  | ofNat n =>
    have hl : (toString (Int.ofNat n)).toList = Nat.toDigits 10 n := Nat.toList_repr
    rw [hl]
    exact all_isNumeral_toDigits n
  | negSucc n =>
    rw [toList_toString_negSucc, List.all_cons, all_isNumeral_toDigits]
    rfl

namespace NumberLayout

variable {digits : List Char}

theorem all_isNumeral_take (h : digits.all isNumeral) (n : Nat) :
    (digits.take n).all isNumeral :=
  List.all_eq_true.2 fun c hc => List.all_eq_true.1 h c (List.mem_of_mem_take hc)

theorem all_isNumeral_drop (h : digits.all isNumeral) (n : Nat) :
    (digits.drop n).all isNumeral :=
  List.all_eq_true.2 fun c hc => List.all_eq_true.1 h c (List.mem_of_mem_drop hc)

theorem all_isNumeral_zeros (count : Int) : (zeros count).all isNumeral := by
  rw [zeros, List.all_replicate]
  split <;> rfl

theorem all_isNumeral_positionalChars (layout : NumberLayout) (exponent : Int)
    (h : digits.all isNumeral) : (layout.positionalChars digits exponent).all isNumeral := by
  have hp : isNumeral '.' := rfl
  have hz : isNumeral '0' := rfl
  unfold positionalChars
  by_cases he : 0 ≤ exponent
  · by_cases hk : layout.keepPoint <;> simp [he, hk, h, hp, hz, all_isNumeral_zeros]
  · by_cases hd : 0 < (digits.length : Int) + exponent
    · simp [he, hd, hp, all_isNumeral_take h, all_isNumeral_drop h]
    · simp [he, hd, h, hp, hz, all_isNumeral_zeros]

theorem all_isNumeral_scientificChars (layout : NumberLayout) (exponent : Int)
    (h : digits.all isNumeral) : (layout.scientificChars digits exponent).all isNumeral := by
  have he : isNumeral 'e' := rfl
  have hp : isNumeral '.' := rfl
  have hs : isNumeral '+' := rfl
  unfold scientificChars
  simp only [List.all_append, List.all_cons, all_isNumeral_take h, all_isNumeral_toString, he,
    Bool.true_and, Bool.and_true, Bool.and_eq_true]
  constructor
  · split
    · rfl
    · rw [List.all_cons, hp, all_isNumeral_drop h]
      rfl
  · split
    · rw [List.all_cons, hs]
      rfl
    · rfl

theorem all_isNumeral_decimalChars (layout : NumberLayout) (x : Decimal) :
    (layout.decimalChars x).all isNumeral := by
  have hd := all_isNumeral_toDigits x.digits
  unfold decimalChars
  simp only
  split
  · exact all_isNumeral_positionalChars layout _ hd
  · exact all_isNumeral_scientificChars layout _ hd

theorem all_isNumeral_chars (layout : NumberLayout) (x : BinaryValue) :
    (layout.chars x).all isNumeral := by
  cases x with
  | notANumber => rfl
  | infinite negative => cases negative <;> rfl
  | finite negative magnitude =>
    rw [chars, List.all_append, all_isNumeral_decimalChars, Bool.and_true]
    cases negative <;> rfl

end NumberLayout

end Numerals

namespace AttributeValue

/-- The text that a value stands for: a string itself, and what a number or a truth value is written
as. -/
def display : AttributeValue → String
  | .string text => text
  | .int value => toString value
  | .float value => NumberLayout.plain.text value.value
  | .bool value => toString value

theorem html_eq_escape_display (value : AttributeValue) :
    value.html = Text.escape value.display := by
  cases value with
  | string text => rfl
  | int value =>
    have hp := isPlain_of_all_isNumeral (all_isNumeral_toString value)
    exact (Text.escape_of_isPlain hp).symm
  | float value =>
    have hp : Text.isPlain (NumberLayout.plain.text value.value) := by
      apply isPlain_of_all_isNumeral
      rw [NumberLayout.text, String.toList_ofList]
      exact NumberLayout.all_isNumeral_chars _ _
    exact (Text.escape_of_isPlain hp).symm
  | bool value => cases value <;> decide

end AttributeValue

end MarkupTree
