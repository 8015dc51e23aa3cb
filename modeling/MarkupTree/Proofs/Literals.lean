import MarkupTree.Template.Token
import MarkupTree.Proofs.Spans

/-! Literals end where they end. What is behind a literal is neither read nor looked at, as long as it
begins with a blank, a bracket or a sign of templates: the same literal is read with anything of
that kind behind it. -/
namespace MarkupTree

def Text.Ranges.codes (ranges : Ranges) : List Nat :=
  ranges.flatMap fun range => List.range' range.1 (range.2 + 1 - range.1)

theorem Text.Ranges.mem_codes {ranges : Ranges} {c : Char} (h : ranges.contains c) :
    c.toNat ∈ ranges.codes := by
  obtain ⟨range, hr, hc⟩ := List.any_eq_true.1 h
  rw [Bool.and_eq_true, decide_eq_true_eq, decide_eq_true_eq] at hc
  refine List.mem_flatMap.2 ⟨range, hr, List.mem_range'_1.2 ⟨hc.1, ?_⟩⟩
  omega

namespace Template

section Boundaries

def boundarySigns : List Char := "()[]\x7b\x7d,;=".toList

/-- Whether a word or a literal ends before the character. -/
def isBoundary (c : Char) : Bool := Lexeme.isGap c || boundarySigns.contains c

def boundaryCodes : List Nat :=
  Text.blanks.codes ++ ['\u200e', '\u200f'].map Char.toNat ++ boundarySigns.map Char.toNat

theorem mem_boundaryCodes {c : Char} (h : isBoundary c) : c.toNat ∈ boundaryCodes := by
  rw [isBoundary, Lexeme.isGap, Bool.or_eq_true, Bool.or_eq_true, Bool.or_eq_true, Text.isBlank] at h
  unfold boundaryCodes
  rcases h with ((hb | hl) | hr) | hs
  · simp [Text.Ranges.mem_codes hb]
  · simp [eq_of_beq hl]
  · simp [eq_of_beq hr]
  · have hm := List.mem_map_of_mem (f := Char.toNat) (List.contains_iff_mem.1 hs)
    simp only [List.mem_append, hm, or_true]

theorem eq_false_of_isBoundary {q : Char → Bool} {c : Char}
    (hq : ∀ code ∈ boundaryCodes, q (Char.ofNat code) = false) (h : isBoundary c) : q c = false := by
  have hc := hq c.toNat (mem_boundaryCodes h)
  rwa [Char.ofNat_toNat] at hc

/-- Nothing follows, or something before which words and literals end. -/
def Bounded (r : List Char) : Prop := ∀ c ∈ r.head?, isBoundary c

theorem bounded_cons {c : Char} {r : List Char} (hc : isBoundary c) : Bounded (c :: r) := by
  intro d hd
  rw [← Option.some.inj hd]
  exact hc

theorem Bounded.ends {q : Char → Bool} {r : List Char} (h : Bounded r)
    (hq : ∀ code ∈ boundaryCodes, q (Char.ofNat code) = false) : Ends q r := fun c hc =>
  eq_false_of_isBoundary hq (h c hc)

theorem isIdentifierPart_boundary :
    ∀ code ∈ boundaryCodes, Text.isIdentifierPart (Char.ofNat code) = false := by
  decide +kernel

theorem isIdentifierStart_boundary :
    ∀ code ∈ boundaryCodes, Text.isIdentifierStart (Char.ofNat code) = false := by
  decide +kernel

theorem isDigitOrBar_boundary : ∀ code ∈ boundaryCodes, isDigitOrBar (Char.ofNat code) = false := by
  decide +kernel

theorem isDigit_boundary : ∀ code ∈ boundaryCodes, (Char.ofNat code).isDigit = false :=
  fun code hc => (Bool.or_eq_false_iff.1 (isDigitOrBar_boundary code hc)).1

theorem hexDigit?_boundary :
    ∀ code ∈ boundaryCodes, (Text.hexDigit? (Char.ofNat code)).isSome = false := by
  decide +kernel

theorem Bounded.ends_beq {d : Char} {r : List Char} (h : Bounded r) (hd : isBoundary d = false) :
    Ends (· == d) r := by
  intro c hc
  apply beq_false_of_ne
  rintro rfl
  exact Bool.false_ne_true (hd.symm.trans (h c hc))

theorem Bounded.ne {c d : Char} {r : List Char} (h : Bounded (c :: r)) (hd : isBoundary d = false) :
    c ≠ d :=
  ne_of_beq_false (h.ends_beq hd).head

end Boundaries

section Quotations

variable {kind : QuoteKind} {cs r rest text : List Char}

/-- What is behind what a reader reads makes no difference to it. -/
def Steady {α : Type} (read : Reader α) : Prop :=
  ∀ ⦃cs x rest⦄, read cs = some (x, rest) → ∀ r, read (cs ++ r) = some (x, rest ++ r)

theorem steady_readByteCode (kind : QuoteKind) : Steady (readByteCode kind) := by
  intro cs c rest h r
  match cs with
  | [] => cases h
  | [_] => cases h
  | high :: low :: cs =>
    simp only [readByteCode, List.cons_append, Option.bind_eq_bind, Option.bind_eq_some_iff] at h ⊢
    obtain ⟨a, ha, b, hb, h⟩ := h
    refine ⟨a, ha, b, hb, ?_⟩
    cases kind with
    | text =>
      simp only [Option.ite_none_right_eq_some, Option.some.injEq, Prod.mk.injEq] at h ⊢
      obtain ⟨hlt, hc, rfl⟩ := h
      exact ⟨hlt, hc, rfl⟩
    | bytes => cases h; rfl
    | terminated =>
      simp only [Option.ite_none_left_eq_some, Option.some.injEq, Prod.mk.injEq] at h ⊢
      obtain ⟨hlt, hc, rfl⟩ := h
      exact ⟨hlt, hc, rfl⟩

theorem steady_readBracedCode (count code : Nat) : Steady (readBracedCode count code) := by
  intro cs c rest h r
  induction cs generalizing count code with
  | nil => cases h
  | cons d cs ih =>
    rw [readBracedCode] at h
    rw [List.cons_append, readBracedCode]
    split at h
    · rename_i hbar
      rw [if_pos hbar]
      exact ih _ _ h
    · rename_i hbar
      rw [if_neg hbar]
      split at h
      · rename_i hend
        rw [if_pos hend]
        split at h
        · rename_i hcode
          rw [if_pos hcode]
          cases h
          rfl
        · cases h
      · rename_i hend
        rw [if_neg hend]
        split at h
        · cases h
        · rename_i hfull
          rw [if_neg hfull]
          split at h
          · exact ih _ _ h
          · cases h

theorem steady_readEscape (kind : QuoteKind) : Steady (readEscape kind) := by
  intro cs c rest h r
  unfold readEscape at h
  split at h
  case h_7 =>
    split at h
    · cases h
    · rename_i hkind
      cases h
      simp [readEscape, hkind]
  case h_8 => exact steady_readByteCode kind h r
  case h_9 =>
    cases kind with
    | text => exact steady_readBracedCode 0 0 h r
    | bytes => cases h
    | terminated =>
      have hbraced (cs : List Char) : readEscape .terminated ('u' :: '{' :: cs) =
          (readBracedCode 0 0 cs).bind fun x => if x.1 = '\x00' then none else some x := rfl
      obtain ⟨x, hx, h⟩ := Option.bind_eq_some_iff.1 h
      rw [List.cons_append, List.cons_append, hbraced, steady_readBracedCode 0 0 hx r]
      simp only [Option.ite_none_left_eq_some, Option.some.injEq, Prod.mk.injEq] at h
      obtain ⟨hzero, rfl, rfl⟩ := h
      exact if_neg hzero
  case h_10 => cases h
  all_goals
    cases h
    rfl

/-- A quoted literal ends at its quote, also with more steps than it takes. -/
theorem readQuoted_append {bound : Nat} {continued : Bool} (extra : Nat)
    (h : readQuoted kind bound continued cs = some (text, rest)) (r : List Char) :
    readQuoted kind (extra + bound) continued (cs ++ r) = some (text, rest ++ r) := by
  fun_induction readQuoted kind bound continued cs generalizing text rest
  case case1 => cases h
  case case2 => cases h
  case case3 =>
    cases h
    rfl
  case case4 bound continued cs ih =>
    obtain ⟨⟨text', rest'⟩, hread, heq⟩ := Option.map_eq_some_iff.1 h
    cases heq
    rw [Nat.add_succ, List.cons_append, List.cons_append, readQuoted, ih hread]
    rfl
  case case5 => cases h
  case case6 bound _ cs ih => exact ih h
  case case7 bound _ cs ih => exact ih h
  case case8 => cases h
  case case9 bound _ cs hfeed hreturn ih =>
    simp only [Option.bind_eq_bind, Option.bind_eq_some_iff] at h
    obtain ⟨⟨c, cs'⟩, hescape, ⟨text', rest'⟩, hread, heq⟩ := h
    cases heq
    dsimp only at hread
    have hhead : ∃ d ds, cs = d :: ds := by
      cases cs with
      | nil => cases hescape
      | cons d ds => exact ⟨d, ds, rfl⟩
    obtain ⟨d, ds, rfl⟩ := hhead
    rw [Nat.add_succ, List.cons_append, List.cons_append, readQuoted]
    · rw [← List.cons_append, steady_readEscape kind hescape r]
      simp [ih _ hread]
    · exact fun _ he => hfeed ds (by rw [(List.cons.inj he).1])
    · exact fun _ he => hreturn ds (by rw [(List.cons.inj he).1])
  case case10 bound continued c cs hquote hreturn _ _ hslash hindent ih =>
    rw [Nat.add_succ, List.cons_append, readQuoted, if_pos hindent]
    · exact ih h
    all_goals intros; simp_all
  case case11 bound continued c cs hquote hreturn _ _ hslash hindent hallowed ih =>
    obtain ⟨⟨text', rest'⟩, hread, heq⟩ := Option.map_eq_some_iff.1 h
    cases heq
    rw [Nat.add_succ, List.cons_append, readQuoted, if_neg hindent, if_pos hallowed, ih hread]
    · rfl
    all_goals intros; simp_all
  case case12 => cases h

theorem readCooked_append (h : readCooked kind cs = some (text, rest)) (r : List Char) :
    readCooked kind (cs ++ r) = some (text, rest ++ r) := by
  have hlen : (cs ++ r).length + 1 = r.length + (cs.length + 1) := by
    rw [List.length_append]
    omega
  rw [readCooked, hlen]
  exact readQuoted_append r.length h r

theorem isPrefixOf_marks (hr : Ends (· == '#') r) (marks : Nat) :
    (List.replicate marks '#').isPrefixOf (cs ++ r) = (List.replicate marks '#').isPrefixOf cs := by
  induction marks generalizing cs with
  | zero => simp
  | succ marks ih =>
    cases cs with
    | nil =>
      cases r with
      | nil => rfl
      | cons d r =>
        have hd : ('#' == d) = false := by
          rw [Bool.beq_comm]
          exact hr.head
        rw [List.nil_append, List.replicate_succ, List.isPrefixOf_cons_cons, hd]
        rfl
    | cons c cs =>
      rw [List.cons_append, List.replicate_succ, List.isPrefixOf_cons_cons,
        List.isPrefixOf_cons_cons, ih]

theorem readVerbatim_append {marks : Nat} (hr : Ends (· == '#') r)
    (h : readVerbatim kind marks cs = some (text, rest)) :
    readVerbatim kind marks (cs ++ r) = some (text, rest ++ r) := by
  fun_induction readVerbatim kind marks cs generalizing text rest
  case case1 => cases h
  case case2 cs ih =>
    obtain ⟨⟨text', rest'⟩, hread, heq⟩ := Option.map_eq_some_iff.1 h
    cases heq
    rw [List.cons_append, List.cons_append, readVerbatim, ih hread]
    rfl
  case case3 c cs _ hend =>
    cases h
    obtain ⟨hquote, hmarks⟩ := Bool.and_eq_true_iff.1 hend
    have hlen : marks ≤ cs.length := by
      have hp := (List.isPrefixOf_iff_prefix.1 hmarks).length_le
      rwa [List.length_replicate] at hp
    have hreturn : c ≠ '\r' := by
      rw [of_decide_eq_true hquote]
      decide
    rw [List.cons_append, readVerbatim, isPrefixOf_marks hr, if_pos hend,
      List.drop_append_of_le_length hlen]
    exact fun _ hc _ => hreturn hc
  case case4 => cases h
  case case5 c cs _ hend hplain ih =>
    obtain ⟨⟨text', rest'⟩, hread, heq⟩ := Option.map_eq_some_iff.1 h
    cases heq
    have hreturn : c ≠ '\r' := by
      rintro rfl
      exact hplain rfl
    rw [List.cons_append, readVerbatim, isPrefixOf_marks hr, if_neg hend, if_neg hplain, ih hread]
    · rfl
    · exact fun _ hc _ => hreturn hc

theorem readMarked_append (hr : Ends (· == '#') r)
    (h : readMarked kind cs = some (text, rest)) :
    readMarked kind (cs ++ r) = some (text, rest ++ r) := by
  have hle : (cs.takeWhile (· == '#')).length ≤ cs.length := (List.takeWhile_sublist _).length_le
  unfold readMarked at h ⊢
  rw [hr.takeWhile_append]
  dsimp only at h ⊢
  rw [List.drop_append_of_le_length hle]
  split at h
  · rename_i cs' hcs
    rw [hcs]
    split at h
    · cases h
    · rename_i hmany
      exact (if_neg hmany).trans (readVerbatim_append hr h)
  · cases h

theorem steady_readCharacter (kind : QuoteKind) : Steady (readCharacter kind) := by
  intro cs c rest h r
  unfold readCharacter at h ⊢
  split at h
  · rename_i cs
    obtain ⟨⟨d, cs'⟩, hescape, h⟩ := Option.bind_eq_some_iff.1 h
    dsimp only at h
    split at h
    · cases h
      exact Option.bind_eq_some_iff.2 ⟨_, steady_readEscape kind hescape r, rfl⟩
    · cases h
  · rename_i d cs hslash
    split at h
    · rename_i hallowed
      dsimp only [bind, Option.bind] at h
      split at h
      · cases h
        simp only [List.cons_append]
        rw [if_pos hallowed]
        rfl
      · cases h
    · cases h
  · cases h

theorem readIdentifier_append (hr : Bounded r) (cs : List Char) :
    readIdentifier (cs ++ r) = (readIdentifier cs).map fun (name, rest) => (name, rest ++ r) := by
  have hpart := hr.ends isIdentifierPart_boundary
  cases cs with
  | nil =>
    cases r with
    | nil => rfl
    | cons d r =>
      have hd : Text.isIdentifierStart d = false := (hr.ends isIdentifierStart_boundary).head
      simp [readIdentifier, hd]
  | cons c cs =>
    rw [List.cons_append, readIdentifier, readIdentifier, hpart.takeWhile_append,
      hpart.dropWhile_append]
    split <;> rfl

theorem readSuffix_append (hr : Bounded r) (cs : List Char) :
    readSuffix (cs ++ r) = ((readSuffix cs).1, (readSuffix cs).2 ++ r) := by
  rw [readSuffix, readSuffix, readIdentifier_append hr]
  cases readIdentifier cs with
  | none => rfl
  | some x => rfl

theorem readQuotation_append {l : Literal} (hr : Bounded r)
    (h : readQuotation cs = some (l, rest)) : readQuotation (cs ++ r) = some (l, rest ++ r) := by
  have hmark : Ends (· == '#') r := hr.ends_beq (by decide)
  have hsuffixed {α : Type} (f : α → String → Literal) {read read' : Option (α × List Char)}
      (hread : ∀ {x rest}, read = some (x, rest) → read' = some (x, rest ++ r))
      (h : (read.map fun x => (f x.1 (readSuffix x.2).1, (readSuffix x.2).2)) = some (l, rest)) :
      (read'.map fun x => (f x.1 (readSuffix x.2).1, (readSuffix x.2).2)) =
        some (l, rest ++ r) := by
    obtain ⟨⟨x, rest'⟩, hr', heq⟩ := Option.map_eq_some_iff.1 h
    cases heq
    rw [hread hr', Option.map_some, readSuffix_append hr]
  have htext (kind : QuoteKind) {read read' : Option (List Char × List Char)}
      (hread : ∀ {x rest}, read = some (x, rest) → read' = some (x, rest ++ r)) :=
    hsuffixed (fun text => .text kind (String.ofList text)) hread
  unfold readQuotation at h
  dsimp only at h
  split at h
  · exact htext _ (fun h => readCooked_append h r) h
  · exact htext _ (readMarked_append hmark) h
  · exact htext _ (fun h => readCooked_append h r) h
  · exact htext _ (readMarked_append hmark) h
  · exact htext _ (fun h => readCooked_append h r) h
  · exact htext _ (readMarked_append hmark) h
  · exact hsuffixed (.character .bytes) (fun h => steady_readCharacter .bytes h r) h
  · exact hsuffixed (.character .text) (fun h => steady_readCharacter .text h r) h
  · cases h

end Quotations

section Numbers

variable {r : List Char}

theorem endsWord_append (hr : Bounded r) (cs : List Char) : endsWord (cs ++ r) = endsWord cs := by
  rw [endsWord, endsWord, (hr.ends isIdentifierPart_boundary).head?_any]

theorem readPower_append (hr : Bounded r) (cs : List Char) :
    readPower (cs ++ r) = (readPower cs).map fun (power, rest) => (power, rest ++ r) := by
  have hdigits := hr.ends isDigitOrBar_boundary
  have hvalue (value : List Char → Int) (ds : List Char) :
      (if ((ds ++ r).takeWhile isDigitOrBar).any Char.isDigit then
        some (value ((ds ++ r).takeWhile isDigitOrBar), (ds ++ r).dropWhile isDigitOrBar)
      else none) =
        (if (ds.takeWhile isDigitOrBar).any Char.isDigit then
          some (value (ds.takeWhile isDigitOrBar), ds.dropWhile isDigitOrBar)
        else none).map fun (power, rest) => (power, rest ++ r) := by
    rw [hdigits.takeWhile_append, hdigits.dropWhile_append]
    split <;> rfl
  induction cs with
  | nil =>
    cases r with
    | nil => rfl
    | cons d r =>
      have hbar : d ≠ '_' := hr.ne (by decide)
      have hminus : d ≠ '-' := hr.ne (by decide)
      have hplus : d ≠ '+' := hr.ne (by decide)
      rw [List.nil_append, readPower_unsigned hbar hminus hplus, hdigits.takeWhile]
      rfl
  | cons c cs ih =>
    by_cases hbar : c = '_'
    · rw [hbar, List.cons_append, readPower_bar, readPower_bar, ih]
    · by_cases hminus : c = '-'
      · subst hminus
        exact hvalue (fun ds => -(digitsValue ds : Int)) cs
      · by_cases hplus : c = '+'
        · subst hplus
          exact hvalue (fun ds => (digitsValue ds : Int)) cs
        · rw [readPower_unsigned hbar hminus hplus, List.cons_append,
            readPower_unsigned hbar hminus hplus, ← List.cons_append]
          exact hvalue (fun ds => (digitsValue ds : Int)) (c :: cs)

def behind (r : List Char) (found : Option (Literal × List Char)) : Option (Literal × List Char) :=
  found.map fun (l, rest) => (l, rest ++ r)

/-- A number with a point or a power of ten, which a suffix may follow. -/
def ended (whole fraction : List Char) (power : Option Int) (rest : List Char) :
    Option (Literal × List Char) :=
  if endsWord (readSuffix rest).2 then
    some (.decimal whole fraction power (readSuffix rest).1, (readSuffix rest).2)
  else none

def afterFraction (whole fraction rest : List Char) : Option (Literal × List Char) :=
  match rest with
  | c :: cs =>
    if c == 'e' || c == 'E' then
      match readPower cs with
      | some (power, rest) => ended whole fraction (some power) rest
      | none => ended whole fraction none rest
    else ended whole fraction none rest
  | [] => ended whole fraction none []

def afterWhole (whole rest : List Char) : Option (Literal × List Char) :=
  match rest with
  | c :: cs =>
    if c == 'e' || c == 'E' then
      match readPower cs with
      | some (power, rest) => ended whole [] (some power) rest
      | none => none
    else none
  | [] => none

def afterDigits (whole : List Char) : List Char → Option (Literal × List Char)
  | '.' :: rest =>
    if rest.head?.any fun c => c == '.' || Text.isIdentifierStart c then none
    else afterFraction whole (rest.takeWhile isDigitOrBar) (rest.dropWhile isDigitOrBar)
  | rest => afterWhole whole rest

theorem afterDigits_of_ne {c : Char} (hpoint : c ≠ '.') (whole cs : List Char) :
    afterDigits whole (c :: cs) = afterWhole whole (c :: cs) := by
  rw [afterDigits]
  exact fun _ h => hpoint (List.cons.inj h).1

theorem readDecimal_eq (cs : List Char) :
    readDecimal cs =
      if !(cs.head?.any Char.isDigit) then none
      else afterDigits (cs.takeWhile isDigitOrBar) (cs.dropWhile isDigitOrBar) := by
  unfold readDecimal
  split
  · rfl
  · dsimp only
    split
    · rename_i rest heq
      rw [heq]
      rfl
    · rename_i c rest hpoint heq
      rw [heq, afterDigits_of_ne hpoint]
      rfl
    · rename_i heq
      rw [heq]
      rfl

variable {whole fraction rest : List Char}

theorem ended_append (hr : Bounded r) (power : Option Int) (rest : List Char) :
    ended whole fraction power (rest ++ r) = behind r (ended whole fraction power rest) := by
  rw [ended, ended, readSuffix_append hr, endsWord_append hr]
  split <;> rfl

theorem Bounded.not_power {d : Char} (hr : Bounded (d :: r)) : (d == 'e' || d == 'E') = false := by
  have hsmall : d ≠ 'e' := hr.ne (by decide)
  have hlarge : d ≠ 'E' := hr.ne (by decide)
  simp [hsmall, hlarge]

theorem afterFraction_append (hr : Bounded r) :
    afterFraction whole fraction (rest ++ r) = behind r (afterFraction whole fraction rest) := by
  have hend (power : Option Int) (rest : List Char) : ended whole fraction power (rest ++ r) =
      behind r (ended whole fraction power rest) := ended_append hr power rest
  cases rest with
  | nil =>
    cases r with
    | nil => exact hend none []
    | cons d r =>
      rw [List.nil_append, afterFraction, hr.not_power]
      exact hend none []
  | cons c cs =>
    rw [List.cons_append, afterFraction, afterFraction, readPower_append hr]
    split
    · cases hp : readPower cs with
      | none => exact hend none (c :: cs)
      | some x => exact hend (some x.1) x.2
    · exact hend none (c :: cs)

theorem afterWhole_append (hr : Bounded r) (rest : List Char) :
    afterWhole whole (rest ++ r) = behind r (afterWhole whole rest) := by
  cases rest with
  | nil =>
    cases r with
    | nil => rfl
    | cons d r =>
      rw [List.nil_append, afterWhole, hr.not_power]
      rfl
  | cons c cs =>
    rw [List.cons_append, afterWhole, afterWhole, readPower_append hr]
    split
    · cases hp : readPower cs with
      | none => rfl
      | some x => exact ended_append hr (some x.1) x.2
    · rfl

theorem afterDigits_append (hr : Bounded r) :
    afterDigits whole (rest ++ r) = behind r (afterDigits whole rest) := by
  have hdigits := hr.ends isDigitOrBar_boundary
  have hother := (hr.ends_beq (d := '.') (by decide)).or (hr.ends isIdentifierStart_boundary)
  cases rest with
  | nil =>
    cases r with
    | nil => rfl
    | cons d r =>
      have hpoint : d ≠ '.' := hr.ne (by decide)
      rw [List.nil_append, afterDigits_of_ne hpoint]
      exact afterWhole_append hr []
  | cons c rest =>
    by_cases hpoint : c = '.'
    · subst hpoint
      rw [List.cons_append, afterDigits, afterDigits, hother.head?_any,
        hdigits.takeWhile_append, hdigits.dropWhile_append]
      split
      · rfl
      · exact afterFraction_append hr
    · rw [List.cons_append, afterDigits_of_ne hpoint, afterDigits_of_ne hpoint]
      exact afterWhole_append hr (c :: rest)

theorem readDecimal_append (hr : Bounded r) (cs : List Char) :
    readDecimal (cs ++ r) = behind r (readDecimal cs) := by
  have hdigits := hr.ends isDigitOrBar_boundary
  rw [readDecimal_eq, readDecimal_eq, (hr.ends isDigit_boundary).head?_any, hdigits.takeWhile_append,
    hdigits.dropWhile_append]
  split
  · rfl
  · exact afterDigits_append hr

theorem readDigits_append (hr : Bounded r) (base : Nat) (cs : List Char) :
    readDigits base (cs ++ r) = ((readDigits base cs).1, (readDigits base cs).2 ++ r) := by
  induction cs with
  | nil =>
    cases r with
    | nil => rfl
    | cons d r =>
      have hbar : d ≠ '_' := hr.ne (by decide)
      have hhex : Text.hexDigit? d = none := by
        have hend : Ends (fun c => (Text.hexDigit? c).isSome) (d :: r) := hr.ends hexDigit?_boundary
        exact Option.not_isSome_iff_eq_none.1 (by simp [hend.head])
      have hd : readDigits base (d :: r) = ([], d :: r) := by
        rw [readDigits, if_neg hbar, hhex]
      exact hd
  | cons c cs ih =>
    rw [List.cons_append, readDigits, readDigits, ih]
    split
    · rfl
    · split
      · split <;> rfl
      · rfl

def radix : List Char → Nat × List Char
  | '0' :: 'x' :: cs => (16, cs)
  | '0' :: 'o' :: cs => (8, cs)
  | '0' :: 'b' :: cs => (2, cs)
  | cs => (10, cs)

def readInBase (base : Nat) (body : List Char) : Option (Literal × List Char) :=
  if base = 10 && !(body.head?.any Char.isDigit) then none
  else
    let (digits, rest) := readDigits base body
    if digits.isEmpty || rest.head?.any Char.isDigit then none
    else
      let (suffix, rest) := readSuffix rest
      if endsWord rest then
        some (.integer (digits.foldl (fun value digit => value * base + digit) 0) suffix, rest)
      else none

theorem readInteger_eq (cs : List Char) : readInteger cs = readInBase (radix cs).1 (radix cs).2 := rfl

theorem not_begins_append {a b : Char} (ha : isBoundary a = false) (hb : isBoundary b = false)
    (hr : Bounded r) {cs : List Char} (h : ∀ t, cs = a :: b :: t → False) (t : List Char) :
    cs ++ r = a :: b :: t → False := by
  intro he
  match cs with
  | [] =>
    rw [List.nil_append] at he
    rw [he] at hr
    exact absurd (hr a rfl) (by rw [ha]; decide)
  | [c] =>
    have hr' : r = b :: t := (List.cons.inj he).2
    rw [hr'] at hr
    exact absurd (hr b rfl) (by rw [hb]; decide)
  | c :: d :: cs =>
    obtain ⟨rfl, ht⟩ := List.cons.inj he
    obtain ⟨rfl, -⟩ := List.cons.inj ht
    exact h cs rfl

theorem radix_append (hr : Bounded r) (cs : List Char) :
    radix (cs ++ r) = ((radix cs).1, (radix cs).2 ++ r) := by
  fun_cases radix cs
  · rfl
  · rfl
  · rfl
  · rename_i hx ho hb
    rw [radix]
    · exact not_begins_append (by decide) (by decide) hr hx
    · exact not_begins_append (by decide) (by decide) hr ho
    · exact not_begins_append (by decide) (by decide) hr hb

theorem readInteger_append (hr : Bounded r) (cs : List Char) :
    readInteger (cs ++ r) = behind r (readInteger cs) := by
  have hdigit := hr.ends isDigit_boundary
  rw [readInteger_eq, readInteger_eq, radix_append hr]
  unfold readInBase
  dsimp only
  rw [hdigit.head?_any, readDigits_append hr]
  dsimp only
  rw [hdigit.head?_any, readSuffix_append hr, endsWord_append hr]
  split
  · rfl
  · split
    · rfl
    · split <;> rfl

end Numbers

section Literals

variable {c : Char}

def quotationBeginnings : List Char := ['"', 'r', 'b', 'c', '\x27']

theorem readQuotation_of_notMem (hc : c ∉ quotationBeginnings) (cs : List Char) :
    readQuotation (c :: cs) = none := by
  unfold readQuotation
  dsimp only
  split <;> first | rfl | (rename_i h; exact absurd (by rw [(List.cons.inj h).1]; decide) hc)

theorem readLiteral_of_isDigit (hc : c.isDigit) (cs : List Char) :
    readLiteral (c :: cs) = (readDecimal (c :: cs)).or (readInteger (c :: cs)) := by
  have hq : c ∉ quotationBeginnings := by
    intro hm
    have hall : quotationBeginnings.any Char.isDigit = false := by decide
    exact List.any_eq_false.1 hall c hm hc
  rw [readLiteral, readQuotation_of_notMem hq, Option.none_or]

theorem readLiteral_of_not_isDigit (hc : c.isDigit = false) (cs : List Char) :
    readLiteral (c :: cs) = readQuotation (c :: cs) := by
  have hd : readDecimal (c :: cs) = none := by
    rw [readDecimal_eq]
    simp [hc]
  have hzero : c ≠ '0' := by
    rintro rfl
    cases hc
  have hi : readInteger (c :: cs) = none := by
    have hr : radix (c :: cs) = (10, c :: cs) := by
      rw [radix]
      all_goals exact fun _ h => hzero (List.cons.inj h).1
    rw [readInteger_eq, hr]
    simp [readInBase, hc]
  rw [readLiteral, hd, hi, Option.none_or, Option.or_none]

/-- A literal is the same with anything behind it before which literals end. -/
theorem readLiteral_append {l : Literal} {cs r rest : List Char} (hr : Bounded r)
    (h : readLiteral cs = some (l, rest)) : readLiteral (cs ++ r) = some (l, rest ++ r) := by
  cases cs with
  | nil => cases h
  | cons c cs =>
    cases hc : c.isDigit with
    | true =>
      rw [readLiteral_of_isDigit hc] at h
      have hd := readDecimal_append hr (c :: cs)
      have hi := readInteger_append hr (c :: cs)
      rw [List.cons_append] at hd hi ⊢
      rw [readLiteral_of_isDigit hc, hd, hi, behind, behind, ← Option.map_or, h]
      rfl
    | false =>
      rw [readLiteral_of_not_isDigit hc] at h
      have hq := readQuotation_append hr h
      rw [List.cons_append] at hq ⊢
      rw [readLiteral_of_not_isDigit hc, hq]

end Literals

end Template

end MarkupTree
