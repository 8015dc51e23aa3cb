import MarkupTree.Template.Expression
import MarkupTree.Proofs.Forms

/-! The rule about lone names. A call with a lone name is ambiguous if it is not the first of its
node or if it has content besides. A template that is grammatical but for this rule is read exactly
if no call in it is ambiguous, however deep. If there is such a call, the error is about the one
that closes first. -/
namespace MarkupTree.Template

/-- A lone name is among the arguments, and the call is a later one of its node or has content. -/
def Call.IsAmbiguous (later : Bool) (call : Call) : Prop :=
  (∃ name, .bare name ∈ call.arguments) ∧ (later ∨ ∃ a ∈ call.arguments, a.isContent)

section Rule

variable {later : Bool} {call : Call} {closings : List (Bool × Call)}

theorem isAmbiguous_of_ambiguity? {name : Name} (h : ambiguity? later call.arguments = some name) :
    call.IsAmbiguous later ∧ ∃ front others,
      call.arguments = front ++ .bare name :: others ∧ ∀ lone, .bare lone ∉ front := by
  rw [ambiguity?] at h
  split at h
  case isFalse => cases h
  case isTrue hwhen =>
    obtain ⟨front, a, others, hsplit, ha, hfront⟩ := List.findSome?_eq_some_iff.1 h
    obtain rfl : a = .bare name := by
      cases a <;> cases ha
      rfl
    refine ⟨⟨⟨name, by simp [hsplit]⟩, ?_⟩, front, others, hsplit, fun lone hm => ?_⟩
    · simpa using hwhen
    · cases hfront _ hm

theorem ambiguity?_eq_none_iff :
    ambiguity? later call.arguments = none ↔ ¬ call.IsAmbiguous later := by
  constructor
  · rintro h ⟨⟨name, hname⟩, hwhen⟩
    rw [ambiguity?, if_pos (by simpa using hwhen)] at h
    cases List.findSome?_eq_none_iff.1 h _ hname
  · intro h
    cases hrule : ambiguity? later call.arguments with
    | none => rfl
    | some name => exact absurd (isAmbiguous_of_ambiguity? hrule).1 h

theorem refused?_eq_none_iff :
    refused? closings = none ↔ ∀ c ∈ closings, ¬ c.2.IsAmbiguous c.1 :=
  List.findSome?_eq_none_iff.trans (forall₂_congr fun _ _ => ambiguity?_eq_none_iff)

theorem refused?_of_first {before after : List (Bool × Call)}
    (h : closings = before ++ (later, call) :: after)
    (hbefore : ∀ c ∈ before, ¬ c.2.IsAmbiguous c.1) (hcall : call.IsAmbiguous later) :
    ∃ name, refused? closings = some name ∧ ambiguity? later call.arguments = some name := by
  cases hrule : ambiguity? later call.arguments with
  | none => exact absurd hcall (ambiguity?_eq_none_iff.1 hrule)
  | some name =>
    refine ⟨name, ?_, rfl⟩
    have hnone : refused? before = none := refused?_eq_none_iff.2 hbefore
    rw [h, refused?_append, hnone, refused?, List.findSome?_cons]
    simp only [hrule, Option.none_or]

end Rule

section Names

variable {cs rest : List Char} {name : Name}

theorem eq_append_of_readIdentifier {found : List Char}
    (h : readIdentifier cs = some (found, rest)) : cs = found ++ rest := by
  unfold readIdentifier at h
  split at h
  · split at h <;> cases h
    rw [List.cons_append, List.takeWhile_append_dropWhile]
  · cases h

theorem Lexeme.readName_spelling (h : Lexeme.readName cs = some (name, rest)) :
    cs = name.spelling.toList ++ rest := by
  unfold Lexeme.readName at h
  split at h
  case h_1 cs =>
    cases hread : readIdentifier cs with
    | none =>
      rw [hread] at h
      cases h
    | some found =>
      rw [hread] at h
      dsimp only [bind, Option.bind] at h
      split at h <;> cases h
      rw [eq_append_of_readIdentifier hread]
      simp [Name.spelling]
  case h_2 =>
    obtain ⟨found, hread, hname⟩ := Option.map_eq_some_iff.1 h
    cases hname
    rw [eq_append_of_readIdentifier hread]
    simp [Name.spelling]

/-- A word of a text is the name with the spelling that stands there. -/
theorem Lexeme.readLeaf_spelling (h : Lexeme.readLeaf cs = some (.word name, rest)) :
    cs = name.spelling.toList ++ rest := by
  rw [Lexeme.readLeaf] at h
  rcases Option.or_eq_some_iff.1 h with hliteral | ⟨-, h⟩
  · obtain ⟨found, -, hfound⟩ := Option.map_eq_some_iff.1 hliteral
    cases hfound
  rcases Option.or_eq_some_iff.1 h with hsign | ⟨-, hword⟩
  · unfold Lexeme.readSign at hsign
    split at hsign
    · split at hsign <;> cases hsign
    · split at hsign <;> cases hsign
    · cases hsign
  · rw [Lexeme.readWord] at hword
    split at hword
    · cases hword
    · obtain ⟨found, hread, hfound⟩ := Option.map_eq_some_iff.1 hword
      cases hfound
      exact Lexeme.readName_spelling hread

end Names

section Templates

variable {expression : ExpressionReader} {text : String} {tokens opened behind : List Token}
variable {source : Source}

/-- What is said about a lone name, which is given with its mark. -/
def complaint (name : Name) : String :=
  let spelled := (if name.marked then "r#" else "") ++ name.text
  "`" ++ spelled ++ "` is ambiguous in a call with content; write `\x7b " ++ spelled ++
    " \x7d` for content or `" ++ spelled ++ " = None` for a bare attribute"

theorem message?_ambiguous (name : Name) :
    (TemplateError.ambiguous name.spelling).message? = some (complaint name) := by
  obtain ⟨text, marked⟩ := name
  cases marked with
  | false => simp [TemplateError.message?, complaint, Name.spelling]
  | true => rfl

theorem readWith_eq (expression : ExpressionReader) (ht : Token.ofText? text = some tokens) :
    readWith expression text = readTemplate expression tokens := by
  rw [readWith, ht]

def EndsIn (expression : ExpressionReader) (text message : String) : Prop :=
  ∃ error, readWith expression text = .error error ∧ error.message? = some message

/-- A text that is grammatical but for the rule, whatever reads the expressions in it, is read exactly
if no call is ambiguous and nothing stands behind the root. If calls are ambiguous, the complaint is
about the one that closes first, and names its first lone name as it is spelled. If none is, it is
that something stands behind the root. -/
theorem read_decided_by_rule (ht : Token.ofText? text = some tokens)
    (h : Grammatical expression tokens opened source behind) :
    Holds expression source.root.closings opened behind ∧
    ((∃ found, readWith expression text = .ok found) ↔
      (∀ c ∈ source.root.closings, ¬ c.2.IsAmbiguous c.1) ∧ behind = []) ∧
    (∀ found, readWith expression text = .ok found → found = source) ∧
    (∀ before later call after, source.root.closings = before ++ (later, call) :: after →
      (∀ c ∈ before, ¬ c.2.IsAmbiguous c.1) → call.IsAmbiguous later →
      ∃ front name others, call.arguments = front ++ .bare name :: others ∧
        (∀ lone, .bare lone ∉ front) ∧ EndsIn expression text (complaint name)) ∧
    ((∀ c ∈ source.root.closings, ¬ c.2.IsAmbiguous c.1) → behind ≠ [] →
      EndsIn expression text "expected a single root element") ∧
    (∀ cs name rest, Lexeme.readLeaf cs = some (.word name, rest) →
      cs = name.spelling.toList ++ rest) := by
  simp only [EndsIn, readWith_eq expression ht]
  have hnone (hall : ∀ c ∈ source.root.closings, ¬ c.2.IsAmbiguous c.1) :
      readTemplate expression tokens = if behind = [] then .ok source else .error .severalRoots :=
    h.read_of_not_refused (refused?_eq_none_iff.2 hall)
  refine ⟨source.root.holds_of_begins h.root, ⟨?_, ?_⟩, ?_, ?_, ?_, ?_⟩
  · rintro ⟨found, hread⟩
    obtain ⟨hr, hbehind, -⟩ := h.of_read hread
    exact ⟨refused?_eq_none_iff.1 hr, hbehind⟩
  · rintro ⟨hall, hbehind⟩
    exact ⟨source, (hnone hall).trans (if_pos hbehind)⟩
  · exact fun found hread => (h.of_read hread).2.2
  · intro before later call after hsplit hbefore hcall
    obtain ⟨name, hr, hrule⟩ := refused?_of_first hsplit hbefore hcall
    obtain ⟨-, front, others, harguments, hfront⟩ := isAmbiguous_of_ambiguity? hrule
    exact ⟨front, name, others, harguments, hfront, _, h.read_of_refused hr,
      message?_ambiguous name⟩
  · exact fun hall hbehind => ⟨_, (hnone hall).trans (if_neg hbehind), rfl⟩
  · exact fun cs name rest => Lexeme.readLeaf_spelling

/-- Three calls are ambiguous here. The one inside another is complained about. -/
theorem complaint_about_inner_call : EndsIn readTaken
    "in dom; a(\x7b map(|n| n) \x7d, b(r#x, c()), y)(z)" (complaint ⟨"x", true⟩) := by
  obtain ⟨braced, hbraced⟩ : ∃ braced : List Token, braced = [.word ⟨"map", false⟩,
      .group .paren [.sign '|' false, .word ⟨"n", false⟩, .sign '|' false, .word ⟨"n", false⟩]] :=
    ⟨_, rfl⟩
  obtain ⟨opened, hopened⟩ : ∃ opened : List Token, opened = [.word ⟨"a", false⟩,
      .group .paren [.group .brace braced, .sign ',' false, .word ⟨"b", false⟩,
        .group .paren [.word ⟨"x", true⟩, .sign ',' false, .word ⟨"c", false⟩, .group .paren []],
        .sign ',' false, .word ⟨"y", false⟩],
      .group .paren [.word ⟨"z", false⟩]] := ⟨_, rfl⟩
  have ht : Token.ofText? "in dom; a(\x7b map(|n| n) \x7d, b(r#x, c()), y)(z)" =
      some (.word ⟨"in", false⟩ :: .word ⟨"dom", false⟩ :: .sign ';' false :: opened) := by
    rw [hopened, hbraced]
    rfl
  have hb : Node.Begins readTaken
      ⟨⟨"b", false⟩, [⟨[.bare ⟨"x", true⟩, .node ⟨⟨"c", false⟩, [⟨[]⟩]⟩]⟩]⟩
      [.word ⟨"b", false⟩, .group .paren [.word ⟨"x", true⟩, .sign ',' false,
        .word ⟨"c", false⟩, .group .paren []], .sign ',' false, .word ⟨"y", false⟩]
      [.sign ',' false, .word ⟨"y", false⟩] := by
    refine ⟨rfl, _, rfl, _, _, rfl, ⟨nofun, _, rfl, .inr ⟨false, _, rfl, nofun, [], ?_,
      .inl ⟨rfl, rfl⟩⟩⟩, rfl, nofun⟩
    exact ⟨rfl, rfl, _, rfl, _, _, rfl, rfl, rfl, nofun⟩
  have h : Grammatical readTaken
      (.word ⟨"in", false⟩ :: .word ⟨"dom", false⟩ :: .sign ';' false :: opened) opened
      ⟨.variable "dom", ⟨⟨"a", false⟩, [⟨[.content (.other braced),
        .node ⟨⟨"b", false⟩, [⟨[.bare ⟨"x", true⟩, .node ⟨⟨"c", false⟩, [⟨[]⟩]⟩]⟩]⟩,
        .bare ⟨"y", false⟩]⟩, ⟨[.bare ⟨"z", false⟩]⟩]⟩⟩ [] := by
    have hfactory : readTaken (.word ⟨"dom", false⟩ :: .sign ';' false :: opened) =
        .ok ⟨.variable "dom", 1, Nat.one_pos⟩ := by
      rw [hopened, hbraced]
      rfl
    refine ⟨⟨_, ⟨.variable "dom", 1, Nat.one_pos⟩, false, rfl, hfactory, rfl, rfl⟩, ?_,
      fun _ => rfl⟩
    have hread : readTaken braced = .ok ⟨.other braced, 2, Nat.two_pos⟩ := by
      rw [hbraced]
      rfl
    have hheld : Taken.held ⟨.other braced, 2, Nat.two_pos⟩ braced = .other braced := by
      rw [hbraced]
      rfl
    have hy : Argument.AllFill readTaken [.bare ⟨"y", false⟩] [.word ⟨"y", false⟩] :=
      ⟨nofun, [], rfl, .inl ⟨rfl, rfl⟩⟩
    rw [hopened]
    refine ⟨rfl, _, rfl, _, _, rfl, ?_, _, _, rfl, ⟨nofun, [], rfl, .inl ⟨rfl, rfl⟩⟩, rfl, nofun⟩
    exact ⟨nofun, _, .inl ⟨braced, _, rfl, hread, hheld.symm⟩, .inr ⟨false, _, rfl, nofun, _,
      ⟨rfl, hb⟩, .inr ⟨false, _, rfl, hy⟩⟩⟩
  have hambiguous : Call.IsAmbiguous false ⟨[.bare ⟨"x", true⟩, .node ⟨⟨"c", false⟩, [⟨[]⟩]⟩]⟩ :=
    ⟨⟨_, .head _⟩, .inr ⟨_, .tail _ (.head _), rfl⟩⟩
  have hbefore : ∀ c ∈ [(false, (⟨[]⟩ : Call))], ¬ c.2.IsAmbiguous c.1 := by
    rintro c hc ⟨⟨name, hname⟩, -⟩
    cases List.mem_singleton.1 hc
    cases hname
  obtain ⟨front, name, others, harguments, hfront, hends⟩ :=
    (read_decided_by_rule ht h).2.2.2.1 [(false, ⟨[]⟩)] false _ _ rfl hbefore hambiguous
  cases front with
  | nil =>
    cases harguments
    exact hends
  | cons a front =>
    rw [← (List.cons.inj harguments).1] at hfront
    exact absurd List.mem_cons_self (hfront _)

end Templates

end MarkupTree.Template
