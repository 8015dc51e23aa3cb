import MarkupTree.Proofs.Literals

/-! Lexemes are read back from the texts that spell them. Any white space may stand between them, and
some has to between two words; brackets are matched again as they were nested. -/
namespace MarkupTree.Template

section Words

variable {c : Char} {cs r t : List Char}

/-- The name is spelled like an identifier, and no mark is on one of the words that have none. -/
structure Name.Lexable (name : Name) : Prop where
  reads : readIdentifier name.text.toList = some (name.text.toList, [])
  unmarked : name.text ∈ Lexeme.neverMarked → name.marked = false

theorem Name.Lexable.exists_cons {name : Name} (h : name.Lexable) :
    ∃ c cs, name.text.toList = c :: cs ∧ Text.isIdentifierStart c ∧
      ∀ d ∈ cs, Text.isIdentifierPart d := by
  have hreads := h.reads
  cases hcs : name.text.toList with
  | nil =>
    rw [hcs] at hreads
    cases hreads
  | cons c cs =>
    rw [hcs, readIdentifier] at hreads
    split at hreads
    · rename_i hc
      refine ⟨c, cs, rfl, hc, ?_⟩
      have ht : cs.takeWhile Text.isIdentifierPart = cs :=
        (List.cons.inj (Prod.mk.inj (Option.some.inj hreads)).1).2
      intro d hd
      rw [← ht] at hd
      exact List.all_eq_true.1 List.all_takeWhile d hd
    · cases hreads

/-- The rest of a word, and what may be behind it. -/
def Continues (t : List Char) : Prop :=
  ∃ cs r, t = cs ++ r ∧ (∀ d ∈ cs, Text.isIdentifierPart d) ∧ Bounded r

def isMark (c : Char) : Bool := c == '"' || c == '#' || c == '\x27'

theorem Continues.ends (h : Continues t) : Ends isMark t := by
  obtain ⟨cs, r, rfl, hcs, hr⟩ := h
  cases cs with
  | nil =>
    have hquotes : Ends (fun c => c == '"' || c == '#') r :=
      (hr.ends_beq (by decide)).or (hr.ends_beq (by decide))
    exact hquotes.or (hr.ends_beq (by decide))
  | cons c cs =>
    apply ends_cons
    have hc := hcs c List.mem_cons_self
    apply Bool.eq_false_iff.2
    intro hm
    have hq : c = '"' ∨ c = '#' ∨ c = '\x27' := by
      simpa [isMark, or_assoc] using hm
    rcases hq with rfl | rfl | rfl <;> exact absurd hc (by decide)

theorem Continues.tail (h : Continues (c :: t)) (hc : isBoundary c = false) : Continues t := by
  obtain ⟨cs, r, he, hcs, hr⟩ := h
  cases cs with
  | nil =>
    rw [List.nil_append] at he
    rw [← he] at hr
    exact absurd (hr c rfl) (by rw [hc]; decide)
  | cons d cs => exact ⟨cs, r, (List.cons.inj he).2, (List.forall_mem_cons.1 hcs).2, hr⟩

theorem readMarked_eq_none {kind : QuoteKind} (h : Ends isMark t) : readMarked kind t = none := by
  cases t with
  | nil => rfl
  | cons c t =>
    have hm := h.head
    simp only [isMark, Bool.or_eq_false_iff] at hm
    have ht : (c :: t).takeWhile (· == '#') = [] := List.takeWhile_cons_of_neg (by simp [hm])
    unfold readMarked
    rw [ht]
    dsimp only [List.length_nil, List.drop_zero]
    split
    · rename_i heq
      rw [(List.cons.inj heq).1] at hm
      exact absurd hm.1.1 (by decide)
    · rfl

theorem not_isBoundary_of_start (hc : Text.isIdentifierStart c) : isBoundary c = false := by
  apply Bool.eq_false_iff.2
  intro hb
  rw [eq_false_of_isBoundary isIdentifierStart_boundary hb] at hc
  cases hc

theorem readQuotation_word (hc : Text.isIdentifierStart c) (ht : Continues t) :
    readQuotation (c :: t) = none := by
  have hquote {u : List Char} : t ≠ '"' :: u := by
    rintro rfl
    exact absurd ht.ends.head (by decide)
  have hapostrophe {u : List Char} : t ≠ '\x27' :: u := by
    rintro rfl
    exact absurd ht.ends.head (by decide)
  have hr {u : List Char} (h : t = 'r' :: u) : Continues u := by
    rw [h] at ht
    exact ht.tail (by decide)
  unfold readQuotation
  dsimp only
  split
  case h_1 h => exact absurd hc (by rw [(List.cons.inj h).1]; decide)
  case h_2 h =>
    rw [← (List.cons.inj h).2, readMarked_eq_none ht.ends]
    rfl
  case h_3 h => exact absurd (List.cons.inj h).2 hquote
  case h_4 h =>
    rw [readMarked_eq_none (hr (List.cons.inj h).2).ends]
    rfl
  case h_5 h => exact absurd (List.cons.inj h).2 hquote
  case h_6 h =>
    rw [readMarked_eq_none (hr (List.cons.inj h).2).ends]
    rfl
  case h_7 h => exact absurd (List.cons.inj h).2 hapostrophe
  case h_8 h => exact absurd hc (by rw [(List.cons.inj h).1]; decide)
  case h_9 => rfl

theorem readQuotation_marked (hc : Text.isIdentifierStart c) (t : List Char) :
    readQuotation ('r' :: '#' :: c :: t) = none := by
  have hmark : (c == '#') = false := by
    apply beq_false_of_ne
    rintro rfl
    exact absurd hc (by decide)
  have hquote : c ≠ '"' := by
    rintro rfl
    exact absurd hc (by decide)
  have hr : readMarked .text ('#' :: c :: t) = none := by
    have ht : ('#' :: c :: t).takeWhile (· == '#') = ['#'] := by simp [hmark]
    unfold readMarked
    rw [ht]
    dsimp only [List.length_singleton, List.drop_succ_cons, List.drop_zero]
    split
    · rename_i heq
      exact absurd (List.cons.inj heq).1 hquote
    · rfl
  rw [readQuotation, hr]
  rfl

theorem readSign_word (hc : Text.isIdentifierStart c) (t : List Char) :
    Lexeme.readSign (c :: t) = none := by
  have hsign : Lexeme.isSignChar c = false := by
    have hall : "~!@#$%^&*-=+|;:,<.>/?\x27".toList.any Text.isIdentifierStart = false := by decide
    apply Bool.eq_false_iff.2
    intro hm
    exact List.any_eq_false.1 hall c (List.contains_iff_mem.1 hm) hc
  have hslash : c ≠ '/' := by
    rintro rfl
    cases hsign
  have hapostrophe : c ≠ '\x27' := by
    rintro rfl
    cases hsign
  have hbegins : Lexeme.beginsSign (c :: t) = false := by
    rw [Lexeme.beginsSign, hsign]
    · exact fun _ h _ => hslash h
    · exact fun _ h _ => hslash h
  rw [Lexeme.readSign, hbegins]
  · rfl
  · exact fun h => hapostrophe h

theorem isDigit_of_start (hc : Text.isIdentifierStart c) : c.isDigit = false := by
  have hall : ∀ code ∈ List.range' 48 10, Text.isIdentifierStart (Char.ofNat code) = false := by
    decide
  apply Bool.eq_false_iff.2
  intro hd
  rw [Char.isDigit, Bool.and_eq_true, decide_eq_true_eq, decide_eq_true_eq] at hd
  have hlow : 48 ≤ c.toNat := hd.1
  have hhigh : c.toNat ≤ 57 := hd.2
  have hm := hall c.toNat (List.mem_range'_1.2 ⟨hlow, by omega⟩)
  rw [Char.ofNat_toNat, hc] at hm
  cases hm

theorem readLiteral_word (hc : Text.isIdentifierStart c) (h : readQuotation (c :: t) = none) :
    readLiteral (c :: t) = none := by
  rw [readLiteral_of_not_isDigit (isDigit_of_start hc), h]

theorem literalBeginnings_word (ht : Continues t) :
    Lexeme.literalBeginnings.any (·.isPrefixOf (c :: t)) = false := by
  have hmark {m : Char} {ms u : List Char} (hm : isMark m) (hu : Continues u) :
      (m :: ms).isPrefixOf u = false := by
    cases u with
    | nil => rfl
    | cons d u =>
      have hd : (m == d) = false := by
        apply beq_false_of_ne
        rintro rfl
        rw [hu.ends.head] at hm
        cases hm
      rw [List.isPrefixOf_cons_cons, hd]
      rfl
  have hletter {m : Char} {ms : List Char} (hm : isMark m) :
      ('r' :: m :: ms).isPrefixOf t = false := by
    cases t with
    | nil => rfl
    | cons d u =>
      rw [List.isPrefixOf_cons_cons]
      by_cases hd : 'r' = d
      · subst hd
        rw [hmark hm (ht.tail (by decide)), Bool.and_false]
      · rw [beq_false_of_ne hd, Bool.false_and]
  have hquote : ['"'].isPrefixOf t = false := hmark rfl ht
  have hquoted : ['#', '"'].isPrefixOf t = false := hmark rfl ht
  have hmarked : ['#', '#'].isPrefixOf t = false := hmark rfl ht
  have hapostrophe : ['\x27'].isPrefixOf t = false := hmark rfl ht
  have hraw : ['r', '"'].isPrefixOf t = false := hletter rfl
  have hrawMarked : ['r', '#'].isPrefixOf t = false := hletter rfl
  simp only [Lexeme.literalBeginnings, List.any_cons, List.any_nil, List.isPrefixOf_cons_cons,
    hquote, hquoted, hmarked, hapostrophe, hraw, hrawMarked, Bool.and_false, Bool.or_false]

theorem literalBeginnings_marked (hc : Text.isIdentifierStart c) (t : List Char) :
    Lexeme.literalBeginnings.any (·.isPrefixOf ('r' :: '#' :: c :: t)) = false := by
  have hquote : ('"' == c) = false := by
    apply beq_false_of_ne
    rintro rfl
    exact absurd hc (by decide)
  have hmark : ('#' == c) = false := by
    apply beq_false_of_ne
    rintro rfl
    exact absurd hc (by decide)
  simp [Lexeme.literalBeginnings, List.isPrefixOf_cons_cons, hquote, hmark]

/-- A word is read from its spelling, whatever is behind it before which words end. -/
theorem readLeaf_word {name : Name} (h : name.Lexable) (hr : Bounded r) :
    Lexeme.readLeaf (name.spelling.toList ++ r) = some (.word name, r) := by
  obtain ⟨c, cs, hcs, hc, hparts⟩ := h.exists_cons
  have hread : readIdentifier (name.text.toList ++ r) = some (name.text.toList, r) := by
    rw [readIdentifier_append hr, h.reads]
    rfl
  have ht : Continues (cs ++ r) := ⟨cs, r, rfl, hparts, hr⟩
  obtain ⟨text, marked⟩ := name
  have htext : String.ofList (c :: cs) = text := by
    rw [← hcs, String.ofList_toList]
  cases marked with
  | true =>
    have hspelling : (Name.spelling ⟨text, true⟩).toList = 'r' :: '#' :: c :: cs := by
      rw [← hcs]
      exact String.toList_append
    have hnever : text ∉ Lexeme.neverMarked := fun hm => nomatch h.unmarked hm
    have hliteral : readLiteral ('r' :: '#' :: (c :: cs ++ r)) = none :=
      readLiteral_word rfl (readQuotation_marked hc _)
    have hsign : Lexeme.readSign ('r' :: '#' :: (c :: cs ++ r)) = none := readSign_word rfl _
    have hword : Lexeme.readWord ('r' :: '#' :: (c :: cs ++ r)) =
        some (.word ⟨text, true⟩, r) := by
      dsimp only at hcs hread
      rw [hcs] at hread
      rw [Lexeme.readWord, List.cons_append, literalBeginnings_marked hc, Lexeme.readName,
        ← List.cons_append, hread]
      simp [htext, hnever]
    rw [hspelling, Lexeme.readLeaf]
    simp only [List.cons_append] at hliteral hsign hword ⊢
    rw [hliteral, hsign, hword]
    rfl
  | false =>
    have hspelling : (Name.spelling ⟨text, false⟩).toList = c :: cs := hcs
    have hliteral : readLiteral (c :: (cs ++ r)) = none :=
      readLiteral_word hc (readQuotation_word hc ht)
    have hsign : Lexeme.readSign (c :: (cs ++ r)) = none := readSign_word hc _
    have hword : Lexeme.readWord (c :: (cs ++ r)) = some (.word ⟨text, false⟩, r) := by
      dsimp only at hcs hread
      rw [hcs, List.cons_append] at hread
      rw [Lexeme.readWord, literalBeginnings_word ht, Lexeme.readName, hread]
      · simp [htext]
      · intro u he
        have hend := ht.ends
        rw [(List.cons.inj he).2] at hend
        exact absurd hend.head (by decide)
    rw [hspelling, List.cons_append, Lexeme.readLeaf, hliteral, hsign, hword]
    rfl

end Words

namespace Lexeme

def templateSigns : List Char := ['=', ',', ';']

/-- The characters spell the lexemes: white space may stand before each of them and at the end, and
what is behind a word or a literal does not go on with it. -/
inductive Spells : List Lexeme → List Char → Prop where
  | done : Spells [] []
  | gap {c : Char} {lexemes : List Lexeme} {cs : List Char} (hc : isGap c)
    (h : Spells lexemes cs) : Spells lexemes (c :: cs)
  | opening {c : Char} {delimiter : Delimiter} {lexemes : List Lexeme} {cs : List Char}
    (hc : openingOf? c = some delimiter) (h : Spells lexemes cs) :
    Spells (.opening delimiter :: lexemes) (c :: cs)
  | closing {c : Char} {delimiter : Delimiter} {lexemes : List Lexeme} {cs : List Char}
    (hc : closingOf? c = some delimiter) (h : Spells lexemes cs) :
    Spells (.closing delimiter :: lexemes) (c :: cs)
  | sign {c : Char} {lexemes : List Lexeme} {cs : List Char} (hc : c ∈ templateSigns)
    (h : Spells lexemes cs) : Spells (.sign c (beginsSign cs) :: lexemes) (c :: cs)
  | word {name : Name} {lexemes : List Lexeme} {cs : List Char} (hn : name.Lexable)
    (hr : Bounded cs) (h : Spells lexemes cs) :
    Spells (.word name :: lexemes) (name.spelling.toList ++ cs)
  | literal {l : Literal} {spelling : List Char} {lexemes : List Lexeme} {cs : List Char}
    (hl : readLiteral spelling = some (l, [])) (hr : Bounded cs) (h : Spells lexemes cs) :
    Spells (.literal l :: lexemes) (spelling ++ cs)

section Reading

variable {c : Char} {cs r : List Char} {lexeme : Lexeme} {lexemes : List Lexeme}

/-- Whether a word, a sign or a literal may begin with the character. -/
def BeginsLeaf (c : Char) : Prop :=
  isGap c = false ∧ c ≠ '/' ∧ openingOf? c = none ∧ closingOf? c = none

theorem beginsLeaf_of_not_isBoundary (hc : isBoundary c = false) (hs : c ≠ '/') : BeginsLeaf c := by
  have hgap : isGap c = false := (Bool.or_eq_false_iff.1 hc).1
  refine ⟨hgap, hs, ?_, ?_⟩
  · unfold openingOf?
    split <;> first | rfl | exact absurd hc (by decide)
  · unfold closingOf?
    split <;> first | rfl | exact absurd hc (by decide)

theorem beginsLeaf_of_start (hc : Text.isIdentifierStart c) : BeginsLeaf c := by
  apply beginsLeaf_of_not_isBoundary (not_isBoundary_of_start hc)
  rintro rfl
  exact absurd hc (by decide)

theorem beginsLeaf_spelling {name : Name} (h : name.Lexable) :
    ∃ c cs, name.spelling.toList = c :: cs ∧ BeginsLeaf c := by
  obtain ⟨c, cs, hcs, hc, -⟩ := h.exists_cons
  obtain ⟨text, marked⟩ := name
  cases marked with
  | true => exact ⟨'r', _, String.toList_append, beginsLeaf_of_start rfl⟩
  | false => exact ⟨c, cs, hcs, beginsLeaf_of_start hc⟩

theorem beginsLeaf_literal {l : Literal} {spelling rest : List Char}
    (h : readLiteral spelling = some (l, rest)) :
    ∃ c cs, spelling = c :: cs ∧ BeginsLeaf c := by
  cases spelling with
  | nil => cases h
  | cons c cs =>
    refine ⟨c, cs, rfl, ?_⟩
    cases hd : c.isDigit with
    | true =>
      apply beginsLeaf_of_not_isBoundary
      · apply Bool.eq_false_iff.2
        intro hb
        have hnot := eq_false_of_isBoundary isDigit_boundary hb
        rw [hd] at hnot
        cases hnot
      · rintro rfl
        cases hd
    | false =>
      have hboundary : quotationBeginnings.any isBoundary = false := by decide
      by_cases hq : c ∈ quotationBeginnings
      · apply beginsLeaf_of_not_isBoundary
        · exact Bool.eq_false_iff.2 (List.any_eq_false.1 hboundary c hq)
        · rintro rfl
          exact absurd hq (by decide)
      · rw [readLiteral_of_not_isDigit hd, readQuotation_of_notMem hq] at h
        cases h

theorem readAllFrom_leaf {bound : Nat} (hc : BeginsLeaf c)
    (h : readLeaf (c :: cs) = some (lexeme, r)) :
    readAllFrom (bound + 1) (c :: cs) = (readAllFrom bound r).map (lexeme :: ·) := by
  obtain ⟨hgap, hslash, hopening, hclosing⟩ := hc
  have hcomment : readComment? (c :: cs) = none := by
    rw [readComment?]
    · exact fun _ h => hslash (List.cons.inj h).1
    · exact fun _ h => hslash (List.cons.inj h).1
  rw [readAllFrom, hgap, hcomment, hopening, hclosing, h, Option.map_eq_bind]
  rfl

theorem eq_of_mem_templateSigns (hc : c ∈ templateSigns) : c = '=' ∨ c = ',' ∨ c = ';' := by
  simpa [templateSigns] using hc

theorem readLeaf_sign (hc : c ∈ templateSigns) (cs : List Char) :
    readLeaf (c :: cs) = some (.sign c (beginsSign cs), cs) := by
  rcases eq_of_mem_templateSigns hc with rfl | rfl | rfl <;> rfl

theorem beginsLeaf_sign (hc : c ∈ templateSigns) : BeginsLeaf c := by
  rcases eq_of_mem_templateSigns hc with rfl | rfl | rfl <;> exact ⟨rfl, by decide, rfl, rfl⟩

theorem opening_is_nothing_else {delimiter : Delimiter} (hc : openingOf? c = some delimiter) :
    isGap c = false ∧ ∀ cs, readComment? (c :: cs) = none := by
  unfold openingOf? at hc
  split at hc
  case h_4 => cases hc
  all_goals exact ⟨by decide, fun _ => rfl⟩

theorem closing_is_nothing_else {delimiter : Delimiter} (hc : closingOf? c = some delimiter) :
    isGap c = false ∧ openingOf? c = none ∧ ∀ cs, readComment? (c :: cs) = none := by
  unfold closingOf? at hc
  split at hc
  case h_4 => cases hc
  all_goals exact ⟨by decide, rfl, fun _ => rfl⟩

/-- A leaf in front of what has been read. -/
theorem readAllFrom_spelling {spelling : List Char} {bound : Nat}
    (hbegin : ∃ c cs, spelling = c :: cs ∧ BeginsLeaf c)
    (hleaf : readLeaf (spelling ++ r) = some (lexeme, r))
    (ih : ∀ {bound : Nat}, r.length ≤ bound → readAllFrom bound r = some lexemes)
    (hb : (spelling ++ r).length ≤ bound) :
    readAllFrom bound (spelling ++ r) = some (lexeme :: lexemes) := by
  obtain ⟨c, cs, rfl, hc⟩ := hbegin
  rw [List.length_append, List.length_cons] at hb
  cases bound with
  | zero => exact absurd hb (by omega)
  | succ bound =>
    have hr : r.length ≤ bound := by omega
    rw [List.cons_append] at hleaf ⊢
    rw [readAllFrom_leaf hc hleaf, ih hr]
    rfl

/-- The lexemes of a text that spells them are read from it. -/
theorem readAllFrom_of_spells (h : Spells lexemes cs) {bound : Nat} (hb : cs.length ≤ bound) :
    readAllFrom bound cs = some lexemes := by
  induction h generalizing bound with
  | done => cases bound <;> rfl
  | gap hc _ ih =>
    cases bound with
    | zero => cases hb
    | succ bound =>
      rw [readAllFrom, hc]
      exact ih (Nat.le_of_succ_le_succ hb)
  | @opening c delimiter lexemes cs hc _ ih =>
    cases bound with
    | zero => cases hb
    | succ bound =>
      obtain ⟨hgap, hcomment⟩ := opening_is_nothing_else hc
      rw [readAllFrom, hgap, hcomment, hc, ih (Nat.le_of_succ_le_succ hb)]
      rfl
  | @closing c delimiter lexemes cs hc _ ih =>
    cases bound with
    | zero => cases hb
    | succ bound =>
      obtain ⟨hgap, hopening, hcomment⟩ := closing_is_nothing_else hc
      rw [readAllFrom, hgap, hcomment, hopening, hc, ih (Nat.le_of_succ_le_succ hb)]
      rfl
  | @sign c lexemes cs hc _ ih =>
    exact readAllFrom_spelling ⟨c, [], rfl, beginsLeaf_sign hc⟩ (readLeaf_sign hc cs) ih hb
  | word hn hr _ ih =>
    exact readAllFrom_spelling (beginsLeaf_spelling hn) (readLeaf_word hn hr) ih hb
  | @literal l spelling lexemes cs hl hr _ ih =>
    have hread : readLiteral (spelling ++ cs) = some (l, cs) := by
      rw [readLiteral_append hr hl]
      rfl
    have hleaf : readLeaf (spelling ++ cs) = some (.literal l, cs) := by
      rw [readLeaf, hread]
      rfl
    exact readAllFrom_spelling (beginsLeaf_literal hl) hleaf ih hb

theorem readAll_of_spells (h : Spells lexemes cs) : readAll cs = some lexemes :=
  readAllFrom_of_spells h (Nat.le_refl _)

end Reading

section Writing

/-- Whether there is a spelling of the lexeme. A sign is not joined to what follows it. -/
def Spellable : Lexeme → Prop
  | .word name => name.Lexable
  | .sign c joint => c ∈ templateSigns ∧ joint = false
  | .literal l => ∃ spelling, readLiteral spelling = some (l, [])
  | .opening _ | .closing _ => True

theorem exists_spells {lexemes : List Lexeme} (h : ∀ lexeme ∈ lexemes, lexeme.Spellable) :
    ∃ cs, Spells lexemes cs := by
  induction lexemes with
  | nil => exact ⟨[], .done⟩
  | cons lexeme lexemes ih =>
    obtain ⟨hlexeme, hlexemes⟩ := List.forall_mem_cons.1 h
    obtain ⟨cs, hcs⟩ := ih hlexemes
    have hspace : Spells lexemes (' ' :: cs) := .gap rfl hcs
    have hbounded : Bounded (' ' :: cs) := bounded_cons rfl
    cases lexeme with
    | word name => exact ⟨_, .word hlexeme hbounded hspace⟩
    | sign c joint =>
      obtain ⟨hc, rfl⟩ := hlexeme
      exact ⟨_, .sign hc hspace⟩
    | literal l =>
      obtain ⟨spelling, hl⟩ := hlexeme
      exact ⟨_, .literal hl hbounded hspace⟩
    | opening delimiter =>
      have hc : ∃ c, openingOf? c = some delimiter := by
        cases delimiter
        · exact ⟨'(', rfl⟩
        · exact ⟨'[', rfl⟩
        · exact ⟨'\x7b', rfl⟩
      obtain ⟨c, hc⟩ := hc
      exact ⟨_, .opening hc hspace⟩
    | closing delimiter =>
      have hc : ∃ c, closingOf? c = some delimiter := by
        cases delimiter
        · exact ⟨')', rfl⟩
        · exact ⟨']', rfl⟩
        · exact ⟨'\x7d', rfl⟩
      obtain ⟨c, hc⟩ := hc
      exact ⟨_, .closing hc hspace⟩

end Writing

end Lexeme

namespace Token

mutual

def lexemes : Token → List Lexeme
  | .word name => [.word name]
  | .sign c joint => [.sign c joint]
  | .literal l => [.literal l]
  | .group delimiter tokens => .opening delimiter :: (lexemesAll tokens ++ [.closing delimiter])

def lexemesAll : List Token → List Lexeme
  | [] => []
  | token :: tokens => token.lexemes ++ lexemesAll tokens

end

theorem lexemesAll_append (tokens others : List Token) :
    lexemesAll (tokens ++ others) = lexemesAll tokens ++ lexemesAll others := by
  induction tokens with
  | nil => rfl
  | cons token tokens ih => rw [List.cons_append, lexemesAll, lexemesAll, ih, List.append_assoc]

/-- Whether there is a spelling of each lexeme of the tokens. -/
def AllSpellable (tokens : List Token) : Prop := ∀ lexeme ∈ lexemesAll tokens, lexeme.Spellable

@[simp] theorem allSpellable_nil : AllSpellable [] := nofun

@[simp] theorem allSpellable_word {name : Name} {tokens : List Token} :
    AllSpellable (.word name :: tokens) ↔ name.Lexable ∧ AllSpellable tokens :=
  List.forall_mem_cons

@[simp] theorem allSpellable_sign {c : Char} {tokens : List Token} :
    AllSpellable (.sign c false :: tokens) ↔ c ∈ Lexeme.templateSigns ∧ AllSpellable tokens :=
  List.forall_mem_cons.trans (and_congr_left fun _ => and_iff_left rfl)

@[simp] theorem allSpellable_literal {l : Literal} {tokens : List Token} :
    AllSpellable (.literal l :: tokens) ↔
      (∃ spelling, readLiteral spelling = some (l, [])) ∧ AllSpellable tokens :=
  List.forall_mem_cons

theorem allSpellable_append {tokens others : List Token} :
    AllSpellable (tokens ++ others) ↔ AllSpellable tokens ∧ AllSpellable others := by
  rw [AllSpellable, lexemesAll_append, List.forall_mem_append]
  rfl

theorem allSpellable_group {delimiter : Delimiter} {inner tokens : List Token} :
    AllSpellable (.group delimiter inner :: tokens) ↔ AllSpellable inner ∧ AllSpellable tokens := by
  rw [AllSpellable, lexemesAll, lexemes, List.forall_mem_append, List.forall_mem_cons,
    List.forall_mem_append]
  constructor
  · rintro ⟨⟨-, hinner, -⟩, htokens⟩
    exact ⟨hinner, htokens⟩
  · rintro ⟨hinner, htokens⟩
    exact ⟨⟨trivial, hinner, List.forall_mem_singleton.2 trivial⟩, htokens⟩

mutual

/-- The lexemes of a token are matched to the token, in whatever groups they stand. -/
theorem ofLexemesFrom_lexemes (outer : List (Delimiter × List Token)) (done : List Token)
    (rest : List Lexeme) : (token : Token) →
    ofLexemesFrom outer done (token.lexemes ++ rest) = ofLexemesFrom outer (token :: done) rest
  | .word _ => rfl
  | .sign _ _ => rfl
  | .literal _ => rfl
  | .group delimiter tokens => by
    rw [lexemes, List.cons_append, List.append_assoc, List.singleton_append, ofLexemesFrom,
      ofLexemesFrom_lexemesAll _ _ _ tokens, ofLexemesFrom, if_pos rfl, List.append_nil,
      List.reverse_reverse]

theorem ofLexemesFrom_lexemesAll (outer : List (Delimiter × List Token)) (done : List Token)
    (rest : List Lexeme) : (tokens : List Token) →
    ofLexemesFrom outer done (lexemesAll tokens ++ rest) =
      ofLexemesFrom outer (tokens.reverse ++ done) rest
  | [] => rfl
  | token :: tokens => by
    rw [lexemesAll, List.append_assoc, ofLexemesFrom_lexemes outer done _ token,
      ofLexemesFrom_lexemesAll outer _ _ tokens, List.reverse_cons, List.append_assoc]
    rfl

end

theorem ofLexemes?_lexemesAll (tokens : List Token) :
    ofLexemes? (lexemesAll tokens) = some tokens := by
  have h := ofLexemesFrom_lexemesAll [] [] [] tokens
  rw [List.append_nil, List.append_nil] at h
  rw [ofLexemes?, h, ofLexemesFrom, List.reverse_reverse]
  rfl

theorem ofText?_of_spells {tokens : List Token} {text : String}
    (h : Lexeme.Spells (lexemesAll tokens) text.toList) (hbody : bodyOf text = text.toList) :
    ofText? text = some tokens := by
  rw [ofText?, hbody, Lexeme.readAll_of_spells h]
  exact ofLexemes?_lexemesAll tokens

end Token

end MarkupTree.Template
