import Mathlib.Data.List.Forall2
import MarkupTree.Template.Grammar

/-! What trees tokens are forms of, whatever reads the expressions in them. Lone names may stand
anywhere in a form. Reading comes to the tree that the tokens are a form of, unless a call in it is
ambiguous, and then to an error about the first such call in the order in which calls close. -/
namespace MarkupTree.Template

section Forms

variable (expression : ExpressionReader)

mutual

/-- The tokens begin with a form of the argument, behind which the rest stands. -/
def Argument.Begins : Argument → List Token → List Token → Prop
  | .attribute name value, tokens, rest =>
    ∃ others taken, argumentKind tokens = .named name others ∧ expression others = .ok taken ∧
      value = taken.given? ∧ rest = taken.rest others
  | .bare name, tokens, rest => argumentKind tokens = .lone name rest
  | .node node, tokens, rest => argumentKind tokens = .node ∧ node.Begins tokens rest
  | .content value, tokens, rest =>
    (∃ inner taken, argumentKind tokens = .braced inner rest ∧ expression inner = .ok taken ∧
      value = taken.held inner) ∨
    ∃ taken, argumentKind tokens = .expression ∧ expression tokens = .ok taken ∧
      value = taken.value ∧ rest = taken.rest tokens

/-- The tokens are a form of the arguments: a comma stands between them, and perhaps one behind the
last. -/
def Argument.AllFill : List Argument → List Token → Prop
  | [], tokens => tokens = []
  | a :: arguments, tokens =>
    tokens ≠ [] ∧ ∃ rest, a.Begins tokens rest ∧
      ((rest = [] ∧ arguments = []) ∨
        ∃ joint others, rest = .sign ',' joint :: others ∧ Argument.AllFill arguments others)

/-- The tokens begin with a group in parentheses for each call, and with no more of them. -/
def Call.AllBegin : List Call → List Token → List Token → Prop
  | [], tokens, rest => tokens = rest ∧ ∀ inner others, tokens ≠ .group .paren inner :: others
  | ⟨arguments⟩ :: calls, tokens, rest =>
    ∃ inner others, tokens = .group .paren inner :: others ∧ Argument.AllFill arguments inner ∧
      Call.AllBegin calls others rest

def Node.Begins : Node → List Token → List Token → Prop
  | ⟨tag, calls⟩, tokens, rest =>
    tag.isFree ∧ ∃ others, tokens = .word tag :: others ∧ Call.AllBegin calls others rest

end

end Forms

section Closings

mutual

/-- The calls in a node at any depth, in the order in which their parentheses close: those in the
arguments of a call before the call. Beside each stands whether it is a later one of its node. -/
def Node.closings : Node → List (Bool × Call)
  | ⟨_, calls⟩ => Call.allClosings false calls

def Call.allClosings (later : Bool) : List Call → List (Bool × Call)
  | [] => []
  | ⟨arguments⟩ :: calls =>
    Argument.allClosings arguments ++ (later, ⟨arguments⟩) :: Call.allClosings true calls

def Argument.closings : Argument → List (Bool × Call)
  | .node node => node.closings
  | .attribute _ _ | .bare _ | .content _ => []

def Argument.allClosings : List Argument → List (Bool × Call)
  | [] => []
  | argument :: arguments => argument.closings ++ Argument.allClosings arguments

end

end Closings

section Judgement

variable {α β : Type} {closings others : List (Bool × Call)}

/-- The first lone name of the first call that is ambiguous. -/
def refused? (closings : List (Bool × Call)) : Option Name :=
  closings.findSome? fun (later, call) => ambiguity? later call.arguments

theorem refused?_append (closings others : List (Bool × Call)) :
    refused? (closings ++ others) = (refused? closings).or (refused? others) :=
  List.findSome?_append

theorem refused?_cons (later : Bool) (call : Call) (closings : List (Bool × Call)) :
    refused? ((later, call) :: closings) =
      (ambiguity? later call.arguments).or (refused? closings) := by
  simp only [refused?, List.findSome?_cons]
  cases ambiguity? later call.arguments <;> rfl

/-- The value, unless one of the calls is ambiguous. -/
def judged (closings : List (Bool × Call)) (value : α) : Reading α :=
  match refused? closings with
  | some name => .error (.ambiguous name.spelling)
  | none => .ok value

theorem judged_of_refused {name : Name} (h : refused? closings = some name) (value : α) :
    judged closings value = .error (.ambiguous name.spelling) := by
  rw [judged, h]

theorem judged_of_not_refused (h : refused? closings = none) (value : α) :
    judged closings value = .ok value := by
  rw [judged, h]

theorem judged_cons (later : Bool) (call : Call) (closings : List (Bool × Call)) (value : α) :
    judged ((later, call) :: closings) value =
      match ambiguity? later call.arguments with
      | some name => .error (.ambiguous name.spelling)
      | none => judged closings value := by
  rw [judged, refused?_cons]
  cases ambiguity? later call.arguments <;> rfl

/-- Of readings one after the other, the first that refuses a call counts. -/
theorem judged_bind {first : α} {value : β} {use : α → Reading β}
    (h : use first = judged others value) :
    judged closings first >>= use = judged (closings ++ others) value := by
  cases hr : refused? closings with
  | some name =>
    have hall : refused? (closings ++ others) = some name := by
      rw [refused?_append, hr, Option.some_or]
    rw [judged_of_refused hr, judged_of_refused hall]
    rfl
  | none =>
    have hall : refused? (closings ++ others) = refused? others := by
      rw [refused?_append, hr, Option.none_or]
    rw [judged_of_not_refused hr, judged, hall]
    exact h

theorem judged_map {first : α} {value : β} {use : α → Reading β} (h : use first = .ok value) :
    judged closings first >>= use = judged closings value := by
  have hall : judged closings first >>= use = judged (closings ++ []) value := judged_bind h
  rwa [List.append_nil] at hall

end Judgement

section Order

mutual

/-- What stands between parentheses anywhere, in the order in which the parentheses close. -/
def Token.parens : Token → List (List Token)
  | .group .paren inner => Token.parensAll inner ++ [inner]
  | .group _ inner => Token.parensAll inner
  | _ => []

def Token.parensAll : List Token → List (List Token)
  | [] => []
  | token :: tokens => token.parens ++ Token.parensAll tokens

end

theorem Token.parensAll_append (tokens others : List Token) :
    parensAll (tokens ++ others) = parensAll tokens ++ parensAll others := by
  induction tokens with
  | nil => rfl
  | cons token tokens ih => rw [List.cons_append, parensAll, parensAll, ih, List.append_assoc]

variable {expression : ExpressionReader} {closings others : List (Bool × Call)}
variable {tokens between rest inner : List Token}

/-- The tokens between the parentheses of the call are a form of its arguments. -/
def IsReadFrom (expression : ExpressionReader) (found : Bool × Call) (inner : List Token) : Prop :=
  Argument.AllFill expression found.2.arguments inner

/-- Among what stands between parentheses before the rest are the calls, in their order. -/
def Holds (expression : ExpressionReader) (closings : List (Bool × Call))
    (tokens rest : List Token) : Prop :=
  ∃ used, tokens = used ++ rest ∧
    List.SublistForall₂ (IsReadFrom expression) closings (Token.parensAll used)

namespace Holds

theorem suffix (h : Holds expression closings tokens rest) : rest <:+ tokens := by
  obtain ⟨used, rfl, -⟩ := h
  exact List.suffix_append used rest

theorem nothing (h : rest <:+ tokens) : Holds expression [] tokens rest := by
  obtain ⟨used, rfl⟩ := h
  exact ⟨used, rfl, .nil⟩

theorem append (h : Holds expression closings tokens between)
    (ho : Holds expression others between rest) :
    Holds expression (closings ++ others) tokens rest := by
  obtain ⟨used, rfl, hu⟩ := h
  obtain ⟨used', rfl, hu'⟩ := ho
  obtain ⟨chosen, hchosen, hsub⟩ := List.sublistForall₂_iff.1 hu
  obtain ⟨chosen', hchosen', hsub'⟩ := List.sublistForall₂_iff.1 hu'
  refine ⟨used ++ used', (List.append_assoc ..).symm, ?_⟩
  rw [Token.parensAll_append]
  exact List.sublistForall₂_iff.2
    ⟨chosen ++ chosen', List.rel_append hchosen hchosen', hsub.append hsub'⟩

theorem cons (h : Holds expression closings tokens rest) (token : Token) :
    Holds expression closings (token :: tokens) rest :=
  (nothing (List.suffix_cons token tokens)).append h

theorem call (h : Holds expression closings inner []) {found : Bool × Call}
    (hc : IsReadFrom expression found inner) (rest : List Token) :
    Holds expression (closings ++ [found]) (.group .paren inner :: rest) rest := by
  obtain ⟨used, hused, hu⟩ := h
  rw [List.append_nil] at hused
  subst hused
  obtain ⟨chosen, hchosen, hsub⟩ := List.sublistForall₂_iff.1 hu
  refine ⟨[.group .paren inner], rfl, ?_⟩
  rw [Token.parensAll, Token.parens, Token.parensAll, List.append_nil]
  exact List.sublistForall₂_iff.2
    ⟨chosen ++ [inner], List.rel_append hchosen (.cons hc .nil), hsub.append_right [inner]⟩

end Holds

theorem Taken.rest_suffix (taken : Taken) (tokens : List Token) : taken.rest tokens <:+ tokens :=
  List.drop_suffix _ _

theorem eq_of_braced (h : argumentKind tokens = .braced inner rest) :
    tokens = .group .brace inner :: rest := by
  revert h
  fun_cases argumentKind tokens <;> rintro ⟨⟩
  rfl

theorem eq_of_named {name : Name} (h : argumentKind tokens = .named name rest) :
    ∃ joint, tokens = .word name :: .sign '=' joint :: rest := by
  revert h
  fun_cases argumentKind tokens <;> rintro ⟨⟩
  exact ⟨_, rfl⟩

theorem eq_of_lone {name : Name} (h : argumentKind tokens = .lone name rest) :
    tokens = .word name :: rest := by
  revert h
  fun_cases argumentKind tokens <;> rintro ⟨⟩ <;> rfl

mutual

/-- The calls in an argument stand in its tokens. -/
theorem Argument.holds_of_begins : (a : Argument) → {tokens rest : List Token} →
    a.Begins expression tokens rest → Holds expression a.closings tokens rest
  | .attribute name value, tokens, rest, h => by
    obtain ⟨others, taken, hkind, -, -, rfl⟩ := h
    obtain ⟨joint, rfl⟩ := eq_of_named hkind
    exact .cons (.cons (.nothing (taken.rest_suffix others)) _) _
  | .bare name, tokens, rest, h => by
    rw [eq_of_lone h]
    exact .cons (.nothing List.suffix_rfl) _
  | .node node, tokens, rest, h => node.holds_of_begins h.2
  | .content value, tokens, rest, h => by
    rcases h with ⟨inner, taken, hkind, -⟩ | ⟨taken, -, -, -, rfl⟩
    · rw [eq_of_braced hkind]
      exact .cons (.nothing List.suffix_rfl) _
    · exact .nothing (taken.rest_suffix tokens)

theorem Argument.holds_of_allFill : (arguments : List Argument) → {tokens : List Token} →
    Argument.AllFill expression arguments tokens →
      Holds expression (Argument.allClosings arguments) tokens []
  | [], tokens, h => .nothing (List.nil_suffix)
  | a :: arguments, tokens, h => by
    obtain ⟨-, rest, ha, hrest⟩ := h
    refine (a.holds_of_begins ha).append ?_
    rcases hrest with ⟨rfl, rfl⟩ | ⟨joint, others, rfl, harguments⟩
    · exact .nothing List.suffix_rfl
    · exact .cons (Argument.holds_of_allFill arguments harguments) _

theorem Call.holds_of_allBegin (later : Bool) : (calls : List Call) → {tokens rest : List Token} →
    Call.AllBegin expression calls tokens rest →
      Holds expression (Call.allClosings later calls) tokens rest
  | [], tokens, rest, h => by
    obtain ⟨rfl, -⟩ := h
    exact .nothing List.suffix_rfl
  | ⟨arguments⟩ :: calls, tokens, rest, h => by
    obtain ⟨inner, others, rfl, hinner, hcalls⟩ := h
    rw [Call.allClosings, List.append_cons]
    have hcall : IsReadFrom expression (later, ⟨arguments⟩) inner := hinner
    exact (Holds.call (Argument.holds_of_allFill arguments hinner) hcall others).append
      (Call.holds_of_allBegin true calls hcalls)

/-- The calls of a node and those inside them stand in its tokens, in their order. -/
theorem Node.holds_of_begins : (node : Node) → {tokens rest : List Token} →
    node.Begins expression tokens rest → Holds expression node.closings tokens rest
  | ⟨tag, calls⟩, tokens, rest, h => by
    obtain ⟨-, others, rfl, hcalls⟩ := h
    exact .cons (Call.holds_of_allBegin false calls hcalls) _

end

end Order

section Completeness

variable {expression : ExpressionReader}

theorem countAll_le_of_suffix {rest tokens : List Token} (h : rest <:+ tokens) :
    Token.countAll rest ≤ Token.countAll tokens := by
  obtain ⟨used, rfl⟩ := h
  induction used with
  | nil => exact Nat.le_refl _
  | cons token used ih => exact Nat.le_trans ih (Nat.le_add_left _ _)

mutual

/-- Reading comes to the argument that the tokens begin with, if no call in it is ambiguous. Four readers
are between a node and one inside it, and two tokens, a name and a group: two steps for each suffice. -/
theorem Argument.read_of_begins : (a : Argument) → {tokens rest : List Token} → {bound : Nat} →
    a.Begins expression tokens rest → 2 * Token.countAll tokens + 1 ≤ bound →
      readArgument expression bound tokens = judged a.closings (a, rest)
  | a, tokens, rest, 0, h, hb => absurd hb (Nat.not_succ_le_zero _)
  | .attribute name value, tokens, rest, bound + 1, h, hb => by
    obtain ⟨others, taken, hkind, hread, rfl, rfl⟩ := h
    simp only [readArgument, hkind, hread]
    rfl
  | .bare name, tokens, rest, bound + 1, h, hb => by
    have hkind : argumentKind tokens = .lone name rest := h
    simp only [readArgument, hkind]
    rfl
  | .node node, tokens, rest, bound + 1, h, hb => by
    have hread := node.read_of_begins h.2 (Nat.le_of_succ_le_succ hb)
    simp only [readArgument, h.1, hread]
    exact judged_map rfl
  | .content value, tokens, rest, bound + 1, h, hb => by
    rcases h with ⟨inner, taken, hkind, hread, rfl⟩ | ⟨taken, hkind, hread, rfl, rfl⟩
    · simp only [readArgument, hkind, hread]
      rfl
    · simp only [readArgument, hkind, hread]
      rfl

theorem Argument.readAll_of_allFill : (arguments : List Argument) → {tokens : List Token} →
    {bound : Nat} → Argument.AllFill expression arguments tokens →
      2 * Token.countAll tokens + 2 ≤ bound →
        readArguments expression bound tokens = judged (Argument.allClosings arguments) arguments
  | [], tokens, bound, h, hb => by
    rw [show tokens = [] from h]
    cases bound <;> rfl
  | a :: arguments, tokens, 0, h, hb => absurd hb (Nat.not_succ_le_zero _)
  | a :: arguments, tokens, bound + 1, h, hb => by
    obtain ⟨hne, rest, ha, hrest⟩ := h
    rw [readArguments, a.read_of_begins ha (Nat.le_of_succ_le_succ hb), Argument.allClosings]
    · rcases hrest with ⟨rfl, rfl⟩ | ⟨joint, others, rfl, harguments⟩
      · rw [Argument.allClosings, List.append_nil]
        exact judged_map rfl
      · have hle : 1 + Token.countAll others ≤ Token.countAll tokens :=
          countAll_le_of_suffix (a.holds_of_begins ha).suffix
        refine judged_bind ?_
        have hothers : readArguments expression bound others = _ :=
          Argument.readAll_of_allFill arguments harguments (by omega)
        simp only [hothers]
        exact judged_map rfl
    · exact hne

theorem Call.readAll_of_allBegin (later : Bool) : (calls : List Call) → {tokens rest : List Token} →
    {bound : Nat} → Call.AllBegin expression calls tokens rest →
      2 * Token.countAll tokens + 1 ≤ bound →
        readCalls expression later bound tokens = judged (Call.allClosings later calls) (calls, rest)
  | _, _, _, 0, h, hb => absurd hb (Nat.not_succ_le_zero _)
  | [], tokens, rest, bound + 1, h, hb => by
    obtain ⟨rfl, hnone⟩ := h
    rw [readCalls]
    · rfl
    · exact hnone
  | ⟨arguments⟩ :: calls, tokens, rest, bound + 1, h, hb => by
    obtain ⟨inner, others, rfl, hinner, hcalls⟩ := h
    rw [Token.countAll, Token.count] at hb
    have harguments : readArguments expression bound inner = _ :=
      Argument.readAll_of_allFill arguments hinner (by omega)
    have hothers : readCalls expression true bound others = _ :=
      Call.readAll_of_allBegin true calls hcalls (by omega)
    rw [readCalls, harguments, Call.allClosings]
    refine judged_bind ?_
    rw [judged_cons, hothers]
    cases ambiguity? later arguments with
    | some name => rfl
    | none => exact judged_map rfl

/-- Reading comes to the node that the tokens begin with, if no call in it is ambiguous. -/
theorem Node.read_of_begins : (node : Node) → {tokens rest : List Token} → {bound : Nat} →
    node.Begins expression tokens rest → 2 * Token.countAll tokens ≤ bound →
      readNode expression bound tokens = judged node.closings (node, rest)
  | ⟨tag, calls⟩, tokens, rest, bound, h, hb => by
    obtain ⟨hfree, others, rfl, hcalls⟩ := h
    replace hb : 2 * (1 + Token.countAll others) ≤ bound := hb
    obtain ⟨bound, rfl⟩ := Nat.exists_eq_add_of_le' (show 1 ≤ bound by omega)
    have hread : readCalls expression false bound others = _ :=
      Call.readAll_of_allBegin false calls hcalls (by omega)
    rw [readNode, if_pos hfree, hread]
    exact judged_map rfl

end

end Completeness

section Soundness

variable {expression : ExpressionReader} {bound : Nat}

theorem exists_of_bind {α β : Type} {first : Reading α} {use : α → Reading β} {value : β}
    (h : first >>= use = .ok value) : ∃ found, first = .ok found ∧ use found = .ok value := by
  cases first with
  | error error => cases h
  | ok found => exact ⟨found, rfl, h⟩

/-- What is read in so many steps is what the tokens are a form of. -/
structure Sound (expression : ExpressionReader) (bound : Nat) : Prop where
  argument : ∀ {tokens rest a}, readArgument expression bound tokens = .ok (a, rest) →
    a.Begins expression tokens rest
  arguments : ∀ {tokens arguments}, readArguments expression bound tokens = .ok arguments →
    Argument.AllFill expression arguments tokens
  calls : ∀ {later tokens rest calls}, readCalls expression later bound tokens = .ok (calls, rest) →
    Call.AllBegin expression calls tokens rest
  node : ∀ {tokens rest node}, readNode expression bound tokens = .ok (node, rest) →
    node.Begins expression tokens rest

namespace Sound

variable {tokens rest : List Token}

theorem readArgument (h : Sound expression bound) {a : Argument}
    (hr : readArgument expression (bound + 1) tokens = .ok (a, rest)) :
    a.Begins expression tokens rest := by
  rw [Template.readArgument] at hr
  split at hr
  case h_1 inner rest hkind =>
    obtain ⟨taken, hread, hr⟩ := exists_of_bind hr
    cases hr
    exact .inl ⟨inner, taken, hkind, hread, rfl⟩
  case h_2 name others hkind =>
    obtain ⟨taken, hread, hr⟩ := exists_of_bind hr
    cases hr
    exact ⟨others, taken, hkind, hread, rfl, rfl⟩
  case h_3 hkind =>
    obtain ⟨⟨node, rest⟩, hread, hr⟩ := exists_of_bind hr
    cases hr
    exact ⟨hkind, h.node hread⟩
  case h_4 name rest hkind =>
    cases hr
    exact hkind
  case h_5 hkind =>
    obtain ⟨taken, hread, hr⟩ := exists_of_bind hr
    cases hr
    exact .inr ⟨taken, hkind, hread, rfl, rfl⟩

theorem readArguments (h : Sound expression bound) {arguments : List Argument}
    (hr : readArguments expression (bound + 1) tokens = .ok arguments) :
    Argument.AllFill expression arguments tokens := by
  unfold Template.readArguments at hr
  split at hr
  case h_1 =>
    cases hr
    rfl
  case h_2 heq _ => cases heq
  case h_3 heq hne =>
    cases heq
    obtain ⟨⟨a, rest⟩, ha, hr⟩ := exists_of_bind hr
    dsimp only at hr
    split at hr
    case h_1 =>
      cases hr
      exact ⟨hne, [], h.argument ha, .inl ⟨rfl, rfl⟩⟩
    case h_2 joint others =>
      obtain ⟨arguments, harguments, hr⟩ := exists_of_bind hr
      cases hr
      exact ⟨hne, _, h.argument ha, .inr ⟨joint, others, rfl, h.arguments harguments⟩⟩
    case h_3 => cases hr

theorem readCalls (h : Sound expression bound) {later : Bool} {calls : List Call}
    (hr : readCalls expression later (bound + 1) tokens = .ok (calls, rest)) :
    Call.AllBegin expression calls tokens rest := by
  unfold Template.readCalls at hr
  split at hr
  case h_1 heq => cases heq
  case h_2 inner others heq =>
    cases heq
    obtain ⟨arguments, harguments, hr⟩ := exists_of_bind hr
    split at hr
    · cases hr
    · obtain ⟨⟨calls, rest⟩, hcalls, hr⟩ := exists_of_bind hr
      cases hr
      exact ⟨inner, others, rfl, h.arguments harguments, h.calls hcalls⟩
  case h_3 heq hne =>
    cases hr
    exact ⟨rfl, hne⟩

theorem readNode (h : Sound expression bound) {node : Node}
    (hr : readNode expression (bound + 1) tokens = .ok (node, rest)) :
    node.Begins expression tokens rest := by
  unfold Template.readNode at hr
  split at hr
  case h_1 heq => cases heq
  case h_2 tag others heq =>
    cases heq
    split at hr
    case isTrue hfree =>
      obtain ⟨⟨calls, rest⟩, hcalls, hr⟩ := exists_of_bind hr
      cases hr
      exact ⟨hfree, others, rfl, h.calls hcalls⟩
    case isFalse => cases hr
  case h_3 => cases hr

end Sound

theorem sound (expression : ExpressionReader) (bound : Nat) : Sound expression bound := by
  induction bound with
  | zero =>
    refine ⟨nofun, ?_, nofun, nofun⟩
    intro tokens arguments h
    cases tokens with
    | nil =>
      cases h
      rfl
    | cons token tokens => cases h
  | succ bound ih => exact ⟨ih.readArgument, ih.readArguments, ih.readCalls, ih.readNode⟩

end Soundness

section Templates

variable {expression : ExpressionReader} {tokens opened behind : List Token} {source : Source}

/-- The tokens are the word `in`, an expression for the factory, a semicolon, and what is opened: a
form of the root, and what stands behind it. -/
structure Grammatical (expression : ExpressionReader) (tokens opened : List Token) (source : Source)
    (behind : List Token) : Prop where
  opening : ∃ body factory joint, tokens = .word ⟨"in", false⟩ :: body ∧
    expression body = .ok factory ∧ factory.value = source.factory ∧
    factory.rest body = .sign ';' joint :: opened
  root : source.root.Begins expression opened behind
  notOverfull : behind = [] → source.isOverfull = false

theorem Grammatical.read_eq (h : Grammatical expression tokens opened source behind) :
    readTemplate expression tokens = judged source.root.closings behind >>= finish source := by
  obtain ⟨word, root⟩ := source
  obtain ⟨body, factory, joint, rfl, hfactory, rfl, hrest⟩ := h.opening
  have hroot := root.read_of_begins h.root (Nat.le_add_right _ 1)
  simp only [readTemplate, hfactory, hrest, readingBound, hroot, bind, Except.bind, judged]
  cases refused? root.closings <;> rfl

theorem finish_eq_ok_iff {found : Source} :
    finish source behind = .ok found ↔ behind = [] ∧ source.isOverfull = false ∧ source = found := by
  cases behind with
  | nil => cases h : source.isOverfull <;> simp [finish, h]
  | cons token behind => simp [finish]

namespace Grammatical

theorem read_of_refused {name : Name} (h : Grammatical expression tokens opened source behind)
    (hr : refused? source.root.closings = some name) :
    readTemplate expression tokens = .error (.ambiguous name.spelling) := by
  rw [h.read_eq, judged_of_refused hr]
  rfl

theorem read_of_not_refused (h : Grammatical expression tokens opened source behind)
    (hr : refused? source.root.closings = none) :
    readTemplate expression tokens = if behind = [] then .ok source else .error .severalRoots := by
  rw [h.read_eq, judged_of_not_refused hr]
  cases behind with
  | nil => exact finish_eq_ok_iff.2 ⟨rfl, h.notOverfull rfl, rfl⟩
  | cons token behind => rfl

theorem of_read {found : Source} (h : Grammatical expression tokens opened source behind)
    (hread : readTemplate expression tokens = .ok found) :
    refused? source.root.closings = none ∧ behind = [] ∧ found = source := by
  cases hr : refused? source.root.closings with
  | some name =>
    rw [h.read_of_refused hr] at hread
    cases hread
  | none =>
    rw [h.read_of_not_refused hr] at hread
    split at hread
    case isFalse => cases hread
    case isTrue hbehind =>
      cases hread
      exact ⟨rfl, hbehind, rfl⟩

end Grammatical

/-- What is read of a template is what its tokens are a form of. -/
theorem exists_grammatical (h : readTemplate expression tokens = .ok source) :
    ∃ opened, Grammatical expression tokens opened source [] := by
  unfold readTemplate at h
  split at h
  case h_1 body =>
    obtain ⟨factory, hfactory, h⟩ := exists_of_bind h
    split at h
    case h_1 joint opened hrest =>
      obtain ⟨⟨root, behind⟩, hroot, h⟩ := exists_of_bind h
      obtain ⟨rfl, hover, rfl⟩ := finish_eq_ok_iff.1 h
      exact ⟨opened, ⟨body, factory, joint, rfl, hfactory, rfl, hrest⟩, (sound _ _).node hroot,
        fun _ => hover⟩
    case h_2 => cases h
  case h_2 => cases h

/-- A template is read exactly if it is grammatical with nothing behind its root, and no call in it
is ambiguous. -/
theorem readTemplate_eq_ok_iff : readTemplate expression tokens = .ok source ↔
    ∃ opened, Grammatical expression tokens opened source [] ∧
      refused? source.root.closings = none := by
  constructor
  · intro h
    obtain ⟨opened, hg⟩ := exists_grammatical h
    exact ⟨opened, hg, (hg.of_read h).1⟩
  · rintro ⟨opened, hg, hr⟩
    rw [hg.read_of_not_refused hr, if_pos rfl]

end Templates

end MarkupTree.Template
