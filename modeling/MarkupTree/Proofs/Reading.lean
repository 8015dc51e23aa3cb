import MarkupTree.Template.Expression
import MarkupTree.Proofs.Forms
import MarkupTree.Proofs.Lexing

/-! Templates are read back. A tree of tags and calls can be written as a template in many ways: with any
white space, with or without a comma at the end of a call, and with braces around a literal or
without. Whichever way it is written, what is read is the tree. -/
namespace MarkupTree.Template

section Operands

variable {value : Expression} {token : Token} {rest : List Token} {name : Name} {n : Nat}

inductive IsLiteral : Expression → Token → Prop where
  | literal (l : Literal) : IsLiteral (.literal l) (.literal l)
  | truth (value : Bool) : IsLiteral (.bool value) (.word ⟨toString value, false⟩)

inductive IsVariable : Expression → Token → Prop where
  | named {name : Name} (hs : name.isSegment) (hn : name ≠ ⟨"None", false⟩) :
    IsVariable (.variable name.spelling) (.word name)

/-- The token stands for the value: a literal or a variable. -/
def IsValue (value : Expression) (token : Token) : Prop :=
  IsLiteral value token ∨ IsVariable value token

theorem IsValue.plain (h : IsValue value token) : value.isOverfull = false ∧ value ≠ .absent := by
  rcases h with h | h
  · cases h <;> exact ⟨rfl, nofun⟩
  · cases h
    exact ⟨rfl, nofun⟩

theorem IsValue.ne_sign (h : IsValue value token) (c : Char) (joint : Bool) :
    token ≠ .sign c joint := by
  rintro rfl
  rcases h with h | h <;> cases h

/-- What may stand behind an expression: nothing, a comma or a semicolon. -/
inductive Stops : List Token → Prop where
  | nothing : Stops []
  | comma (joint : Bool) (tokens : List Token) : Stops (.sign ',' joint :: tokens)
  | semicolon (joint : Bool) (tokens : List Token) : Stops (.sign ';' joint :: tokens)

theorem Stops.read? (h : Stops rest) : Operator.read? rest = none := by
  cases h with
  | nothing => rfl
  | comma joint tokens => cases joint <;> rfl
  | semicolon joint tokens => cases joint <;> rfl

theorem pass_passAttributes (parts : Parts) (htoken : ∀ c joint, token ≠ .sign c joint) :
    (passAttributes parts).pass (token :: rest) = .ok (false, token :: rest) := by
  cases token with
  | sign c joint => exact absurd rfl (htoken c joint)
  | _ => rfl

/-- An operand is an expression if nothing else follows it. -/
theorem readExpression_of_atom (htoken : ∀ c joint, token ≠ .sign c joint) (h : Stops rest)
    (hatom : readAtom (n + 3) true (token :: rest) = .ok ⟨token :: rest, value, .plain, rest⟩) :
    readExpression (n + 6) true (token :: rest) = .ok ⟨token :: rest, value, .plain, rest⟩ := by
  have htrailers : readTrailers (n + 3) ⟨token :: rest, value, .plain, rest⟩ =
      .ok ⟨token :: rest, value, .plain, rest⟩ := by
    cases h <;> rfl
  have hsigned : readSigned (n + 4) true (token :: rest) =
      .ok ⟨token :: rest, value, .plain, rest⟩ := by
    cases token with
    | sign c joint => exact absurd rfl (htoken c joint)
    | _ =>
      simp only [readSigned, hatom]
      exact htrailers
  have hoperand : readOperand (n + 5) true (token :: rest) =
      .ok ⟨token :: rest, value, .plain, rest⟩ := by
    simp [readOperand, pass_passAttributes _ htoken, hsigned, bind, Except.bind, pure, Except.pure,
      Expression.behind]
  have hoperations : readOperations (n + 5) true 0 ⟨token :: rest, value, .plain, rest⟩ =
      .ok ⟨token :: rest, value, .plain, rest⟩ := by
    rw [readOperations, h.read?]
    rfl
  rw [readExpression, hoperand]
  exact hoperations

theorem readExpression_literal (l : Literal) (h : Stops rest) :
    readExpression (n + 6) true (.literal l :: rest) =
      .ok ⟨.literal l :: rest, .literal l, .plain, rest⟩ :=
  readExpression_of_atom (by rintro _ _ ⟨⟩) h rfl

theorem readExpression_truth (value : Bool) (h : Stops rest) :
    readExpression (n + 6) true (.word ⟨toString value, false⟩ :: rest) =
      .ok ⟨.word ⟨toString value, false⟩ :: rest, .bool value, .plain, rest⟩ := by
  apply readExpression_of_atom (by rintro _ _ ⟨⟩) h
  cases value <;> rfl

theorem readExpression_name (hs : name.isSegment) (h : Stops rest) :
    readExpression (n + 6) true (.word name :: rest) =
      .ok ⟨.word name :: rest, ofName name, .plain, rest⟩ := by
  apply readExpression_of_atom (by rintro _ _ ⟨⟩) h
  have htrue : name ≠ ⟨"true", false⟩ := by
    rintro rfl
    cases hs
  have hfalse : name ≠ ⟨"false", false⟩ := by
    rintro rfl
    cases hs
  have hmark : beginsWith "#" rest = false := by
    cases h <;> rfl
  have happlied : readApplied (n + 1) true true ⟨.word name :: rest, ofName name, .plain, rest⟩ =
      .ok ⟨.word name :: rest, ofName name, .plain, rest⟩ := by
    cases h <;> rfl
  have hword : readWord (n + 2) true name rest =
      .ok ⟨.word name :: rest, ofName name, .plain, rest⟩ := by
    cases h <;> simp [readWord, htrue, hfalse, hmark, hs, happlied]
  exact hword

theorem readTaken_of_read (h : ∀ n, readExpression (n + 6) true (token :: rest) =
    .ok ⟨token :: rest, value, .plain, rest⟩) :
    readTaken (token :: rest) = .ok ⟨value, 1, Nat.one_pos⟩ := by
  rw [readTaken, show expressionBound (token :: rest) = _ + 6 from rfl, h]
  simp [bind, Except.bind, Phrase.taken]

theorem readTaken_name (hs : name.isSegment) (h : Stops rest) :
    readTaken (.word name :: rest) = .ok ⟨ofName name, 1, Nat.one_pos⟩ :=
  readTaken_of_read fun _ => readExpression_name hs h

theorem readTaken_value (hv : IsValue value token) (h : Stops rest) :
    readTaken (token :: rest) = .ok ⟨value, 1, Nat.one_pos⟩ := by
  rcases hv with hv | hv
  · cases hv with
    | literal l => exact readTaken_of_read fun _ => readExpression_literal l h
    | truth value => exact readTaken_of_read fun _ => readExpression_truth value h
  · cases hv with
    | named hs hn =>
      rw [readTaken_name hs h, ofName, if_neg (by simpa using hn)]

end Operands

section Forms

/-- The tokens are the pieces with a comma between them, and perhaps one behind the last. -/
inductive Listed : List (List Token) → List Token → Prop where
  | nothing : Listed [] []
  | last (piece : List Token) : Listed [piece] piece
  | closed (piece : List Token) (joint : Bool) : Listed [piece] (piece ++ [.sign ',' joint])
  | next (piece : List Token) (joint : Bool) {pieces : List (List Token)} {tokens : List Token}
    (hne : pieces ≠ []) (h : Listed pieces tokens) :
    Listed (piece :: pieces) (piece ++ .sign ',' joint :: tokens)

/-- The value is a literal or a variable, and can be spelled. -/
def Expression.Writable (value : Expression) : Prop :=
  ∃ token, IsValue value token ∧ Token.AllSpellable [token]

structure Name.IsIdentifier (name : Name) : Prop where
  lexable : name.Lexable
  isFree : name.isFree

mutual

/-- The argument can be written: its names are identifiers, its value a literal or a variable, and a
node in it has a call. -/
def Argument.Writable : Argument → Prop
  | .attribute name none => name.IsIdentifier
  | .attribute name (some value) => name.IsIdentifier ∧ value.Writable
  | .bare name => name.IsIdentifier
  | .node node => node.calls ≠ [] ∧ node.Writable
  | .content value => value.Writable

def Argument.AllWritable : List Argument → Prop
  | [] => True
  | argument :: arguments => argument.Writable ∧ Argument.AllWritable arguments

/-- The call can be written: a lone name is in no later call of its node, nor in one with content. -/
def Call.Writable (later : Bool) : Call → Prop
  | ⟨arguments⟩ =>
    (∀ name, .bare name ∈ arguments → later = false ∧ ∀ a ∈ arguments, a.isContent = false) ∧
      Argument.AllWritable arguments

def Call.AllWritable : List Call → Prop
  | [] => True
  | call :: calls => call.Writable true ∧ Call.AllWritable calls

def Node.Writable : Node → Prop
  | ⟨tag, []⟩ => tag.IsIdentifier
  | ⟨tag, call :: calls⟩ => tag.IsIdentifier ∧ call.Writable false ∧ Call.AllWritable calls

end

mutual

/-- The tokens are a form of the argument. An absent value is written as `None`, and a literal that
is content with braces or without. -/
def Argument.Written : Argument → List Token → Prop
  | .attribute name none, tokens =>
    ∃ joint, tokens = [.word name, .sign '=' joint, .word ⟨"None", false⟩]
  | .attribute name (some value), tokens =>
    ∃ joint token, IsValue value token ∧ tokens = [.word name, .sign '=' joint, token]
  | .bare name, tokens => tokens = [.word name]
  | .node node, tokens => node.Written tokens
  | .content value, tokens =>
    (∃ token, IsLiteral value token ∧ tokens = [token]) ∨
      ∃ token, IsValue value token ∧ tokens = [.group .brace [token]]

def Argument.AllWritten : List Argument → List (List Token) → Prop
  | [], [] => True
  | argument :: arguments, piece :: pieces =>
    argument.Written piece ∧ Argument.AllWritten arguments pieces
  | _, _ => False

def Call.Written : Call → List Token → Prop
  | ⟨arguments⟩, inner => ∃ pieces, Argument.AllWritten arguments pieces ∧ Listed pieces inner

def Call.AllWritten : List Call → List (List Token) → Prop
  | [], [] => True
  | call :: calls, inner :: inners => call.Written inner ∧ Call.AllWritten calls inners
  | _, _ => False

def Node.Written : Node → List Token → Prop
  | ⟨tag, calls⟩, tokens =>
    ∃ inners, tokens = .word tag :: inners.map (Token.group .paren) ∧ Call.AllWritten calls inners

end

/-- The template is of the factory by its name, and of a root that can be written. -/
structure Source.Writable (source : Source) : Prop where
  factory : source.factory = .variable factoryWord
  root : source.root.Writable

def Source.Written (source : Source) (tokens : List Token) : Prop :=
  ∃ joint root, source.root.Written root ∧
    tokens = .word ⟨"in", false⟩ :: .word ⟨factoryWord, false⟩ :: .sign ';' joint :: root

/-- The text is a form of the template. -/
def Source.WrittenAs (source : Source) (text : String) : Prop :=
  ∃ tokens, source.Written tokens ∧ Lexeme.Spells (Token.lexemesAll tokens) text.toList

end Forms

section Rule

theorem ambiguity?_eq_none {later : Bool} {arguments : List Argument}
    (h : ∀ name, .bare name ∈ arguments → later = false ∧ ∀ a ∈ arguments, a.isContent = false) :
    ambiguity? later arguments = none := by
  unfold ambiguity?
  split
  · rename_i hrule
    apply List.findSome?_eq_none_iff.2
    intro a ha
    cases a with
    | bare name =>
      obtain ⟨hl, hc⟩ := h name ha
      have hany : arguments.any Argument.isContent = false := by
        rw [List.any_eq_false]
        intro b hb
        rw [hc b hb]
        decide
      rw [hl, hany] at hrule
      cases hrule
    | _ => rfl
  · rfl

mutual

theorem Argument.not_refused : (a : Argument) → a.Writable → refused? a.closings = none
  | .attribute _ _, _ => rfl
  | .bare _, _ => rfl
  | .node node, ha => node.not_refused ha.2
  | .content _, _ => rfl

theorem Argument.none_refused : (arguments : List Argument) → Argument.AllWritable arguments →
    refused? (Argument.allClosings arguments) = none
  | [], _ => rfl
  | a :: arguments, ha => by
    rw [Argument.allClosings, refused?_append, a.not_refused ha.1,
      Argument.none_refused arguments ha.2, Option.or_none]

theorem Call.none_refused : (calls : List Call) → Call.AllWritable calls →
    refused? (Call.allClosings true calls) = none
  | [], _ => rfl
  | ⟨arguments⟩ :: calls, hc => by
    rw [Call.allClosings, refused?_append, refused?_cons, Argument.none_refused arguments hc.1.2,
      ambiguity?_eq_none hc.1.1, Call.none_refused calls hc.2]
    rfl

theorem Node.not_refused : (node : Node) → node.Writable → refused? node.closings = none
  | ⟨tag, []⟩, _ => rfl
  | ⟨tag, ⟨arguments⟩ :: calls⟩, hn => by
    rw [Node.closings, Call.allClosings, refused?_append, refused?_cons,
      Argument.none_refused arguments hn.2.1.2, ambiguity?_eq_none hn.2.1.1,
      Call.none_refused calls hn.2.2]
    rfl

end

end Rule

section Trees

variable {name : Name} {token : Token} {rest tokens : List Token}

inductive Closes : List Token → Prop where
  | nothing : Closes []
  | comma (joint : Bool) (tokens : List Token) : Closes (.sign ',' joint :: tokens)

theorem Closes.stops (h : Closes rest) : Stops rest := by
  cases h with
  | nothing => exact .nothing
  | comma joint tokens => exact .comma joint tokens

theorem argumentKind_named (hfree : name.isFree) (joint : Bool)
    (htoken : ∀ c joint, token ≠ .sign c joint) :
    argumentKind (.word name :: .sign '=' joint :: token :: rest) =
      .named name (token :: rest) := by
  have heq : beginsWith "==" (.sign '=' joint :: token :: rest) = false := by
    cases token with
    | sign c joint => exact absurd rfl (htoken c joint)
    | _ => cases joint <;> rfl
  simp [argumentKind, hfree, heq]

theorem argumentKind_lone (hfree : name.isFree) (h : Closes rest) :
    argumentKind (.word name :: rest) = .lone name rest := by
  cases h <;> simp [argumentKind, hfree]

theorem argumentKind_literal {value : Expression} (h : IsLiteral value token) :
    argumentKind (token :: rest) = .expression := by
  cases h with
  | literal l => rfl
  | truth value =>
    cases value <;> rfl

theorem given?_of_value {value : Expression} (h : IsValue value token) {count : Nat}
    (hc : 0 < count) : Taken.given? ⟨value, count, hc⟩ = some value := by
  unfold Taken.given?
  split
  · rename_i heq
    exact absurd heq h.plain.2
  · rfl

theorem Argument.ne_nil_of_written : (a : Argument) → a.Written tokens → tokens ≠ []
  | .attribute name none, h => by
    obtain ⟨joint, rfl⟩ := h
    nofun
  | .attribute name (some value), h => by
    obtain ⟨joint, token, -, rfl⟩ := h
    nofun
  | .bare name, h => by
    obtain rfl := h
    nofun
  | .node ⟨tag, calls⟩, h => by
    obtain ⟨inners, rfl, -⟩ := h
    nofun
  | .content value, h => by
    rcases h with ⟨token, -, rfl⟩ | ⟨token, -, rfl⟩ <;> nofun

mutual

/-- What an argument is written as is a form of it, whatever ends it. -/
theorem Argument.begins_of_written : (a : Argument) → a.Writable → {piece rest : List Token} →
    a.Written piece → Closes rest → a.Begins readTaken (piece ++ rest) rest
  | .attribute name none, ha, piece, rest, h, hr => by
    obtain ⟨joint, rfl⟩ := h
    exact ⟨_, _, argumentKind_named ha.isFree joint nofun, readTaken_name rfl hr.stops, rfl, rfl⟩
  | .attribute name (some value), ha, piece, rest, h, hr => by
    obtain ⟨joint, token, hv, rfl⟩ := h
    exact ⟨_, _, argumentKind_named ha.1.isFree joint hv.ne_sign, readTaken_value hv hr.stops,
      (given?_of_value hv _).symm, rfl⟩
  | .bare name, ha, piece, rest, h, hr => by
    obtain rfl := h
    exact argumentKind_lone ha.isFree hr
  | .node ⟨tag, []⟩, ha, piece, rest, h, hr => absurd rfl ha.1
  | .node ⟨tag, call :: calls⟩, ha, piece, rest, h, hr => by
    refine ⟨?_, Node.begins_of_written ⟨tag, call :: calls⟩ ha.2 h hr⟩
    match h with
    | ⟨inner :: inners, hw, _⟩ =>
      rw [hw]
      simp [argumentKind, ha.2.1.isFree]
  | .content value, ha, piece, rest, h, hr => by
    rcases h with ⟨token, hv, rfl⟩ | ⟨token, hv, rfl⟩
    · exact .inr ⟨_, argumentKind_literal hv, readTaken_value (.inl hv) hr.stops, rfl, rfl⟩
    · exact .inl ⟨_, _, rfl, readTaken_value hv .nothing, rfl⟩

theorem Argument.allFill_of_written : (arguments : List Argument) →
    Argument.AllWritable arguments → {pieces : List (List Token)} → {inner : List Token} →
      Argument.AllWritten arguments pieces → Listed pieces inner →
        Argument.AllFill readTaken arguments inner
  | [], _, [], inner, _, hl => by
    cases hl
    rfl
  | [], _, _ :: _, _, h, _ => h.elim
  | _ :: _, _, [], _, h, _ => h.elim
  | a :: arguments, ha, piece :: pieces, inner, h, hl => by
    have hne (rest : List Token) : piece ++ rest ≠ [] :=
      List.append_ne_nil_of_left_ne_nil (a.ne_nil_of_written h.1) rest
    cases hl with
    | last =>
      have hbegins := a.begins_of_written ha.1 h.1 .nothing
      rw [List.append_nil] at hbegins
      cases arguments with
      | nil => exact ⟨a.ne_nil_of_written h.1, [], hbegins, .inl ⟨rfl, rfl⟩⟩
      | cons second arguments => exact h.2.elim
    | closed _ joint =>
      refine ⟨hne _, _, a.begins_of_written ha.1 h.1 (.comma joint []), .inr ⟨joint, [], rfl, ?_⟩⟩
      exact Argument.allFill_of_written arguments ha.2 h.2 .nothing
    | next _ joint _ hl =>
      refine ⟨hne _, _, a.begins_of_written ha.1 h.1 (.comma joint _), .inr ⟨joint, _, rfl, ?_⟩⟩
      exact Argument.allFill_of_written arguments ha.2 h.2 hl

theorem Call.allBegin_of_written : (calls : List Call) → Call.AllWritable calls →
    {inners : List (List Token)} → {rest : List Token} → Call.AllWritten calls inners →
      Closes rest →
        Call.AllBegin readTaken calls (inners.map (Token.group .paren) ++ rest) rest
  | [], _, [], rest, _, hr => by
    refine ⟨rfl, ?_⟩
    cases hr <;> nofun
  | [], _, _ :: _, _, h, _ => h.elim
  | _ :: _, _, [], _, h, _ => h.elim
  | ⟨arguments⟩ :: calls, hc, inner :: inners, rest, h, hr => by
    obtain ⟨⟨pieces, hw, hl⟩, hcalls⟩ := h
    exact ⟨inner, _, rfl, Argument.allFill_of_written arguments hc.1.2 hw hl,
      Call.allBegin_of_written calls hc.2 hcalls hr⟩

/-- What a node is written as is a form of it, whatever ends it. -/
theorem Node.begins_of_written : (node : Node) → node.Writable → {tokens rest : List Token} →
    node.Written tokens → Closes rest → node.Begins readTaken (tokens ++ rest) rest
  | ⟨tag, []⟩, hn, tokens, rest, h, hr => by
    match h with
    | ⟨[], hw, _⟩ =>
      rw [hw]
      refine ⟨hn.isFree, _, rfl, rfl, ?_⟩
      cases hr <;> nofun
  | ⟨tag, ⟨arguments⟩ :: calls⟩, hn, tokens, rest, h, hr => by
    match h with
    | ⟨inner :: inners, hw, ⟨pieces, hpieces, hl⟩, hcalls⟩ =>
      rw [hw]
      exact ⟨hn.1.isFree, _, rfl, inner, _, rfl,
        Argument.allFill_of_written arguments hn.2.1.2 hpieces hl,
        Call.allBegin_of_written calls hn.2.2 hcalls hr⟩

end

end Trees

section Spellings

variable {pieces : List (List Token)}

theorem Name.IsIdentifier.bare {name : Name} (h : name.IsIdentifier) :
    Token.AllSpellable [.word name] :=
  Token.allSpellable_word.2 ⟨h.lexable, Token.allSpellable_nil⟩

theorem exists_listed (h : ∀ piece ∈ pieces, Token.AllSpellable piece) :
    ∃ tokens, Listed pieces tokens ∧ Token.AllSpellable tokens := by
  induction pieces with
  | nil => exact ⟨[], .nothing, Token.allSpellable_nil⟩
  | cons piece pieces ih =>
    obtain ⟨hpiece, hpieces⟩ := List.forall_mem_cons.1 h
    obtain ⟨tokens, hl, ht⟩ := ih hpieces
    cases pieces with
    | nil => exact ⟨piece, .last piece, hpiece⟩
    | cons second pieces =>
      have hcomma : Token.AllSpellable (.sign ',' false :: tokens) :=
        Token.allSpellable_sign.2 ⟨by decide, ht⟩
      exact ⟨_, .next piece false (List.cons_ne_nil _ _) hl,
        Token.allSpellable_append.2 ⟨hpiece, hcomma⟩⟩

theorem lexable_none : Name.Lexable ⟨"None", false⟩ := ⟨by decide, nofun⟩

mutual

theorem Argument.exists_written : (a : Argument) → a.Writable →
    ∃ tokens, a.Written tokens ∧ Token.AllSpellable tokens
  | .attribute name none, ha =>
    ⟨_, ⟨false, rfl⟩, by simp [ha.lexable, lexable_none, Lexeme.templateSigns]⟩
  | .attribute name (some value), ha => by
    obtain ⟨token, hv, ht⟩ := ha.2
    exact ⟨_, ⟨false, token, hv, rfl⟩, by simp [ha.1.lexable, ht, Lexeme.templateSigns]⟩
  | .bare name, ha => ⟨_, rfl, ha.bare⟩
  | .node node, ha => node.exists_written ha.2
  | .content value, ha => by
    obtain ⟨token, hv, ht⟩ := ha
    exact ⟨_, .inr ⟨token, hv, rfl⟩, Token.allSpellable_group.2 ⟨ht, Token.allSpellable_nil⟩⟩

theorem Argument.exists_allWritten : (arguments : List Argument) → Argument.AllWritable arguments →
    ∃ pieces, Argument.AllWritten arguments pieces ∧ ∀ piece ∈ pieces, Token.AllSpellable piece
  | [], _ => ⟨[], trivial, nofun⟩
  | a :: arguments, ha => by
    obtain ⟨piece, hw, hs⟩ := a.exists_written ha.1
    obtain ⟨pieces, hws, hss⟩ := Argument.exists_allWritten arguments ha.2
    exact ⟨piece :: pieces, ⟨hw, hws⟩, List.forall_mem_cons.2 ⟨hs, hss⟩⟩

theorem Call.exists_written {later : Bool} : (call : Call) → call.Writable later →
    ∃ inner, call.Written inner ∧ Token.AllSpellable inner
  | ⟨arguments⟩, hc => by
    obtain ⟨pieces, hw, hs⟩ := Argument.exists_allWritten arguments hc.2
    obtain ⟨inner, hl, hi⟩ := exists_listed hs
    exact ⟨inner, ⟨pieces, hw, hl⟩, hi⟩

theorem Call.exists_allWritten : (calls : List Call) → Call.AllWritable calls →
    ∃ inners, Call.AllWritten calls inners ∧
      Token.AllSpellable (inners.map (Token.group .paren))
  | [], _ => ⟨[], trivial, Token.allSpellable_nil⟩
  | call :: calls, hc => by
    obtain ⟨inner, hw, hs⟩ := call.exists_written hc.1
    obtain ⟨inners, hws, hss⟩ := Call.exists_allWritten calls hc.2
    exact ⟨inner :: inners, ⟨hw, hws⟩, Token.allSpellable_group.2 ⟨hs, hss⟩⟩

theorem Node.exists_written : (node : Node) → node.Writable →
    ∃ tokens, node.Written tokens ∧ Token.AllSpellable tokens
  | ⟨tag, []⟩, hn => ⟨_, ⟨[], rfl, trivial⟩, hn.bare⟩
  | ⟨tag, call :: calls⟩, hn => by
    obtain ⟨inner, hw, hs⟩ := call.exists_written hn.2.1
    obtain ⟨inners, hws, hss⟩ := Call.exists_allWritten calls hn.2.2
    have hgroups : Token.AllSpellable ((inner :: inners).map (Token.group .paren)) :=
      Token.allSpellable_group.2 ⟨hs, hss⟩
    exact ⟨_, ⟨inner :: inners, rfl, hw, hws⟩, Token.allSpellable_word.2 ⟨hn.1.lexable, hgroups⟩⟩

end

theorem Expression.Writable.isOverfull {value : Expression} (h : value.Writable) :
    value.isOverfull = false := by
  obtain ⟨token, hv, -⟩ := h
  exact hv.plain.1

mutual

theorem Argument.isOverfull_of_writable : (a : Argument) → a.Writable → a.isOverfull = false
  | .attribute _ none, _ => rfl
  | .attribute _ (some _), ha => ha.2.isOverfull
  | .bare _, _ => rfl
  | .node node, ha => node.isOverfull_of_writable ha.2
  | .content _, ha => Expression.Writable.isOverfull ha

theorem Argument.anyOverfull_of_writable : (arguments : List Argument) →
    Argument.AllWritable arguments → Argument.anyOverfull arguments = false
  | [], _ => rfl
  | a :: arguments, ha => Bool.or_eq_false_iff.2
    ⟨a.isOverfull_of_writable ha.1, Argument.anyOverfull_of_writable arguments ha.2⟩

theorem Call.anyOverfull_of_writable : (calls : List Call) → Call.AllWritable calls →
    Call.anyOverfull calls = false
  | [], _ => rfl
  | ⟨arguments⟩ :: calls, hc => Bool.or_eq_false_iff.2
    ⟨Argument.anyOverfull_of_writable arguments hc.1.2, Call.anyOverfull_of_writable calls hc.2⟩

theorem Node.isOverfull_of_writable : (node : Node) → node.Writable → node.isOverfull = false
  | ⟨_, []⟩, _ => rfl
  | ⟨_, ⟨arguments⟩ :: calls⟩, hn => Bool.or_eq_false_iff.2
    ⟨Argument.anyOverfull_of_writable arguments hn.2.1.2, Call.anyOverfull_of_writable calls hn.2.2⟩

end

end Spellings

namespace Source

variable {source : Source} {tokens : List Token} {text : String}

theorem Writable.isOverfull (h : source.Writable) : source.isOverfull = false := by
  rw [Source.isOverfull, h.factory, source.root.isOverfull_of_writable h.root]
  rfl

theorem grammatical_of_written (h : source.Writable) (hw : source.Written tokens) :
    ∃ opened, Grammatical readTaken tokens opened source [] := by
  obtain ⟨joint, root, hroot, rfl⟩ := hw
  have hfactory : readTaken (.word ⟨factoryWord, false⟩ :: .sign ';' joint :: root) = _ :=
    readTaken_name rfl (.semicolon joint root)
  have hbegins := source.root.begins_of_written h.root hroot .nothing
  rw [List.append_nil] at hbegins
  exact ⟨root, ⟨_, _, joint, rfl, hfactory, h.factory.symm, rfl⟩, hbegins, fun _ => h.isOverfull⟩

theorem bodyOf_of_spells {lexemes : List Lexeme}
    (h : Lexeme.Spells (.word ⟨"in", false⟩ :: lexemes) text.toList) :
    Token.bodyOf text = text.toList := by
  unfold Token.bodyOf
  split
  · rename_i cs heq
    rw [heq] at h
    generalize hcs : '\ufeff' :: cs = all at h
    cases h with
    | gap hc _ =>
      rw [← (List.cons.inj hcs).1] at hc
      exact absurd hc (by decide)
    | word _ _ _ => cases (List.cons.inj hcs).1
  · rfl

/-- A template that can be written has a text, and is read back from every text that is a form of
it. -/
theorem read_of_writtenAs (h : source.Writable) :
    (∃ text, source.WrittenAs text) ∧ ∀ text, source.WrittenAs text → read text = .ok source := by
  constructor
  · obtain ⟨root, hroot, hs⟩ := source.root.exists_written h.root
    have hin : Name.Lexable ⟨"in", false⟩ := ⟨by decide, nofun⟩
    have hfactory : Name.Lexable ⟨factoryWord, false⟩ := ⟨by decide, nofun⟩
    have hall : Token.AllSpellable (.word ⟨"in", false⟩ :: .word ⟨factoryWord, false⟩ ::
        .sign ';' false :: root) := by
      simp [hin, hfactory, hs, Lexeme.templateSigns]
    obtain ⟨cs, hcs⟩ := Lexeme.exists_spells hall
    refine ⟨String.ofList cs, _, ⟨false, root, hroot, rfl⟩, ?_⟩
    rw [String.toList_ofList]
    exact hcs
  · rintro text ⟨tokens, hw, hs⟩
    have hbody : Token.bodyOf text = text.toList := by
      obtain ⟨joint, root, -, rfl⟩ := hw
      exact bodyOf_of_spells hs
    obtain ⟨opened, hg⟩ := grammatical_of_written h hw
    rw [read, readWith, Token.ofText?_of_spells hs hbody]
    exact readTemplate_eq_ok_iff.2 ⟨opened, hg, source.root.not_refused h.root⟩

/-- A template with a marked tag, an absent value, a lone name before a comma at the end, a variable in
braces, and a node with a number. -/
theorem read_two_calls : read "in dom; r#type(id=None, a,)(\x7bx\x7d, b(7))" =
    .ok ⟨.variable factoryWord, ⟨"type", true⟩,
      [⟨[.attribute ⟨"id", false⟩ none, .bare ⟨"a", false⟩]⟩,
        ⟨[.content (.variable "x"), .node ⟨⟨"b", false⟩, [⟨[.content (.literal (.integer 7 ""))]⟩]⟩]⟩]⟩ := by
  have hread : ∀ text ∈ ["in", "dom", "id", "None", "a", "x", "b"],
      readIdentifier text.toList = some (text.toList, []) := by decide
  have hname (text : String) (hm : text ∈ ["in", "dom", "id", "None", "a", "x", "b"]) :
      Name.Lexable ⟨text, false⟩ := ⟨hread text hm, fun _ => rfl⟩
  have htype : Name.Lexable ⟨"type", true⟩ := ⟨by decide, by decide⟩
  have hseven : readLiteral ['7'] = some (.integer 7 "", []) := by decide
  have hx : IsVariable (.variable (Name.spelling ⟨"x", false⟩)) (.word ⟨"x", false⟩) :=
    .named rfl (by decide)
  have hnumber : IsLiteral (.literal (.integer 7 "")) (.literal (.integer 7 "")) := .literal (.integer 7 "")
  have hvariable : Expression.Writable (.variable "x") := ⟨_, .inr hx, by simp [hname]⟩
  have hliteral : Expression.Writable (.literal (.integer 7 "")) :=
    ⟨_, .inl hnumber, by simpa using ⟨_, hseven⟩⟩
  have hfirst : Call.Writable false ⟨[.attribute ⟨"id", false⟩ none, .bare ⟨"a", false⟩]⟩ := by
    refine ⟨fun _ _ => ⟨rfl, by simp [Argument.isContent]⟩, ?_, ?_, trivial⟩
    · exact ⟨hname "id" (by decide), rfl⟩
    · exact ⟨hname "a" (by decide), rfl⟩
  have hsecond : Call.Writable true
      ⟨[.content (.variable "x"), .node ⟨⟨"b", false⟩, [⟨[.content (.literal (.integer 7 ""))]⟩]⟩]⟩ := by
    refine ⟨nofun, hvariable, ⟨nofun, ?_, ⟨nofun, hliteral, trivial⟩, trivial⟩, trivial⟩
    exact ⟨hname "b" (by decide), rfl⟩
  refine (read_of_writtenAs ?writable).2 _ ⟨_, ⟨false, _, ⟨[[.word ⟨"id", false⟩, .sign '=' false,
    .word ⟨"None", false⟩, .sign ',' false, .word ⟨"a", false⟩, .sign ',' false],
    [.group .brace [.word ⟨"x", false⟩], .sign ',' false, .word ⟨"b", false⟩,
      .group .paren [.literal (.integer 7 "")]]],
    rfl, ?first, ?second, trivial⟩, rfl⟩, ?spells⟩
  case writable => exact ⟨rfl, ⟨htype, rfl⟩, hfirst, hsecond, trivial⟩
  case first =>
    refine ⟨[[.word ⟨"id", false⟩, .sign '=' false, .word ⟨"None", false⟩], [.word ⟨"a", false⟩]],
      ⟨⟨false, rfl⟩, rfl, trivial⟩, ?_⟩
    exact .next _ false (List.cons_ne_nil _ _) (.closed _ false)
  case second =>
    have hinner : Call.Written ⟨[.content (.literal (.integer 7 ""))]⟩ [.literal (.integer 7 "")] :=
      ⟨[[.literal (.integer 7 "")]], ⟨.inl ⟨_, hnumber, rfl⟩, trivial⟩, .last _⟩
    refine ⟨[[.group .brace [.word ⟨"x", false⟩]],
      [.word ⟨"b", false⟩, .group .paren [.literal (.integer 7 "")]]],
      ⟨.inr ⟨_, .inr hx, rfl⟩, ⟨[_], rfl, hinner, trivial⟩, trivial⟩, ?_⟩
    exact .next _ false (List.cons_ne_nil _ _) (.last _)
  case spells =>
    exact .word (hname "in" (by decide)) (bounded_cons rfl) (.gap (c := ' ') rfl
      (.word (hname "dom" (by decide)) (bounded_cons rfl) (.sign (c := ';') (by decide)
      (.gap (c := ' ') rfl (.word htype (bounded_cons rfl) (.opening (c := '(') rfl
      (.word (hname "id" (by decide)) (bounded_cons rfl) (.sign (c := '=') (by decide)
      (.word (hname "None" (by decide)) (bounded_cons rfl) (.sign (c := ',') (by decide)
      (.gap (c := ' ') rfl (.word (hname "a" (by decide)) (bounded_cons rfl)
      (.sign (c := ',') (by decide) (.closing (c := ')') rfl (.opening (c := '(') rfl
      (.opening (c := '\x7b') rfl (.word (hname "x" (by decide)) (bounded_cons rfl)
      (.closing (c := '\x7d') rfl (.sign (c := ',') (by decide) (.gap (c := ' ') rfl
      (.word (hname "b" (by decide)) (bounded_cons rfl) (.opening (c := '(') rfl
      (.literal hseven (bounded_cons (c := ')') rfl) (.closing (c := ')') rfl
      (.closing (c := ')') rfl .done)))))))))))))))))))))))))

end Source

end MarkupTree.Template
