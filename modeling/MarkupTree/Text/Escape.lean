/-! Text as it stands between tags or quotes. Five characters are written as entities and all
others as they are, so a reader of the markup never takes text for markup. -/
namespace MarkupTree.Text

def entity? : Char → Option String
  | '&' => some "&amp;"
  | '<' => some "&lt;"
  | '>' => some "&gt;"
  | '"' => some "&quot;"
  | '\x27' => some "&#x27;"
  | _ => none

def escapeChar (c : Char) : List Char :=
  match entity? c with
  | some entity => entity.toList
  | none => [c]

def escape (text : String) : String := String.ofList (text.toList.flatMap escapeChar)

def isPlain (text : String) : Bool := text.toList.all fun c => (entity? c).isNone

theorem flatMap_escapeChar_of_plain {cs : List Char}
    (h : ∀ c ∈ cs, (entity? c).isNone) : cs.flatMap escapeChar = cs := by
  induction cs with
  | nil => rfl
  | cons c cs ih =>
    have hc : entity? c = none := Option.isNone_iff_eq_none.1 (h c (by simp))
    rw [List.flatMap_cons, ih fun d hd => h d (by simp [hd])]
    simp [escapeChar, hc]

theorem escape_of_isPlain {text : String} (h : isPlain text) : escape text = text := by
  rw [escape, flatMap_escapeChar_of_plain (List.all_eq_true.1 h), String.ofList_toList]

end MarkupTree.Text
