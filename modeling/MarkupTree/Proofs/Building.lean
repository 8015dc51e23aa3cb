import MarkupTree.Proofs.Expansion
import MarkupTree.Proofs.WellFormed

/-! Whatever the library makes out of elements that have a property has it too, if new elements have it and
calls keep it: calls of every form, documents as content, and templates, whatever their variables hold. So
all that is made out of elements that were built has been built. -/
namespace MarkupTree

def Invocation.Inside (p : Element → Prop) (invocation : Invocation) : Prop :=
  ∀ child, .element child ∈ invocation.content.getD [] → p child

/-- The elements among the leaves of the content have the property. -/
def Content.Inside (p : Element → Prop) (content : Content) : Prop :=
  ∀ child, .ok (.element child) ∈ content.leaves → p child

/-- The stages bring in no elements but such that have the property. -/
def Pipeline.BringsOnly (p : Element → Prop) (pipeline : Pipeline) : Prop :=
  ∀ stage ∈ pipeline.stages, ∀ invocation : Invocation, invocation.Inside p →
    (stage invocation).Inside p

/-- New elements of the factory have the property, and a call keeps it that brings in no elements but such
that have it. -/
structure Factory.Maintains (factory : Factory) (p : Element → Prop) : Prop where
  tag {name : String} {e : Element} (made : (factory.tag name).result = .ok e) : p e
  invoke {e called : Element} {invocation : Invocation} (before : p e) (inside : invocation.Inside p)
    (made : (factory.invoke e invocation).result = .ok called) : p called

section Calls

variable {p : Element → Prop} {factory : Factory} {e called : Element}

theorem Invocation.inside_withAttributes (as : List Attribute) :
    (Invocation.empty.withAttributes as).Inside p := nofun

/-- The items that content comes to are those of its leaves that are items. -/
theorem Content.Inside.of_result_pull {content : Content} (h : content.Inside p) {items : List Item}
    (hr : content.pull.result = .ok items) {child : Element} (hc : .element child ∈ items) :
    p child := by
  have hl := Leaf.collect_eq_ok_iff.1 ((result_pull content).symm.trans hr)
  apply h
  rw [hl]
  exact List.mem_map_of_mem hc

theorem Invocation.Inside.withContent {invocation later : Invocation} {content : Content}
    (hi : invocation.Inside p) (hc : content.Inside p)
    (hr : (invocation.withContent content).result = .ok later) : later.Inside p := by
  obtain ⟨items, hp, hlater⟩ := Build.exists_of_result_bind hr
  cases hlater
  intro child hchild
  rcases List.mem_append.1 hchild with hb | hb
  · exact hi child hb
  · exact hc.of_result_pull hp hb

theorem Factory.Maintains.attributes (hf : factory.Maintains p) (h : p e) {as : List Attribute}
    (hr : (factory.attributes e as).result = .ok called) : p called :=
  hf.invoke h (Invocation.inside_withAttributes as) hr

theorem Factory.Maintains.call (hf : factory.Maintains p) (h : p e) {content : Content}
    (hc : content.Inside p) {as : List Attribute}
    (hr : (factory.call e content as).result = .ok called) : p called := by
  obtain ⟨invocation, hi, hcalled⟩ := Build.exists_of_result_bind hr
  exact hf.invoke h ((Invocation.inside_withAttributes as).withContent hc hi) hcalled

theorem Factory.Maintains.content (hf : factory.Maintains p) (h : p e) {content : Content}
    (hc : content.Inside p) (hr : (factory.content e content).result = .ok called) : p called := by
  have hcall : (factory.call e content []).result = .ok called := hr
  exact hf.call h hc hcall

end Calls

section Contents

variable {p : Element → Prop} {contents : List Content}

theorem Content.inside_leavesAll (h : ∀ content ∈ contents, content.Inside p) {child : Element}
    (hc : .ok (.element child) ∈ leavesAll contents) : p child := by
  induction contents with
  | nil => cases hc
  | cons content contents ih =>
    rcases List.mem_append.1 hc with hb | hb
    · exact h content List.mem_cons_self child hb
    · exact ih (fun later hl => h later (List.mem_cons_of_mem _ hl)) hb

theorem Content.inside_list (h : ∀ content ∈ contents, content.Inside p) : (list contents).Inside p :=
  fun _ hc => inside_leavesAll h hc

theorem Content.inside_document {d : Document} (h : ∀ child ∈ d.children, p child) :
    (document d).Inside p := by
  intro child hc
  rw [leaves, List.mem_map] at hc
  obtain ⟨e, he, ⟨⟩⟩ := hc
  exact h _ he

theorem Content.inside_ofResult {result : Except TreeError Element}
    (h : ∀ e, result = .ok e → p e) : (ofResult result).Inside p := by
  cases result with
  | error error =>
    intro child hc
    cases List.mem_singleton.1 hc
  | ok e =>
    intro child hc
    cases List.mem_singleton.1 hc
    exact h e rfl

theorem Content.inside_lazily {content : Content} (h : content.Inside p) :
    (Template.lazily content).Inside p := by
  cases content <;> exact h

end Contents

namespace Template

def Expansion.Ensures {α : Type} (expansion : Expansion α) (p : α → Prop) : Prop :=
  ∀ a, expansion.run.value = .ok a → p a

namespace Expansion.Ensures

variable {α β : Type} {p : α → Prop} {q : β → Prop}

theorem pure {a : α} (h : p a) : Ensures (Pure.pure a) p := by
  intro b hb
  cases hb
  exact h

theorem throw (error : TemplateError) : Ensures (MonadExcept.throw error) p := nofun

theorem bind {first : Expansion α} {second : α → Expansion β} (hf : first.Ensures p)
    (hs : ∀ a, p a → (second a).Ensures q) : (first >>= second).Ensures q := by
  intro b hb
  change (ExceptT.bindCont second first.run.value).value = .ok b at hb
  cases hr : first.run.value with
  | error error =>
    rw [hr] at hb
    cases hb
  | ok a =>
    rw [hr] at hb
    exact hs a (hf a hr) b hb

theorem of_any {first : Expansion α} {second : α → Expansion β}
    (hs : ∀ a, (second a).Ensures q) : (first >>= second).Ensures q :=
  bind (fun _ _ => trivial) fun a (_ : True) => hs a

end Expansion.Ensures

def ResultIs (p : Element → Prop) (result : Except TreeError Element) : Prop :=
  ∀ e, result = .ok e → p e

def NamesInside (p : Element → Prop) (content? : String → Option Content) : Prop :=
  ∀ name content, content? name = some content → content.Inside p

structure Scope.Inside (p : Element → Prop) (scope : Scope) : Prop where
  names : NamesInside p scope.content?
  other : ∀ content?, NamesInside p content? → ∀ tokens,
    (scope.other content? tokens).Ensures (Content.Inside p)

variable {p : Element → Prop}

theorem Scope.Inside.within {scope : Scope} (h : scope.Inside p) {e : Element} (he : p e) :
    (scope.within e).Inside p := by
  refine ⟨fun name content hc => ?_, h.other⟩
  simp only [Scope.within] at hc
  split at hc
  · cases hc
    intro child hchild
    cases List.mem_singleton.1 hchild
    exact he
  · split at hc
    · cases hc
    · exact h.names name content hc

theorem Scope.Inside.evaluate {scope : Scope} (h : scope.Inside p) (tokens : List Token) :
    (scope.evaluate tokens).Ensures (Content.Inside p) :=
  h.other _ h.names tokens

theorem ensures_attempt {build : Build Element} (h : ResultIs p build.result) :
    (attempt build).Ensures (ResultIs p) := by
  intro result hr
  cases hr
  exact h

theorem ensures_andThen {chain : Expansion (Except TreeError Element)}
    {link : Element → Expansion (Except TreeError Element)} (hc : chain.Ensures (ResultIs p))
    (hl : ∀ e, p e → (link e).Ensures (ResultIs p)) :
    (andThen chain link).Ensures (ResultIs p) := by
  refine hc.bind fun result hr => ?_
  cases result with
  | ok e => exact hl e (hr e rfl)
  | error error => exact .pure nofun

section Values

theorem Literal.inside_content? {literal : Literal} {content : Content}
    (h : literal.content? = some content) : content.Inside p := by
  revert h
  fun_cases Literal.content? literal <;> rintro ⟨⟩ <;> nofun

theorem ensures_negative (content : Content) : (negative content).Ensures (Content.Inside p) := by
  cases content with
  | int value => exact .pure nofun
  | double value => exact .pure nofun
  | single value => exact .pure nofun
  | _ => exact .throw _

theorem ensures_compared (left right : Content) : (compared left right).Ensures (Content.Inside p) := by
  unfold compared
  split
  · exact .pure nofun
  · exact .throw _

theorem ensures_markup (content : Content) : (markup content).Ensures (Content.Inside p) := by
  unfold markup
  split
  · exact .pure nofun
  · exact .throw _

theorem inside_last {contents : List Content} (h : ∀ content ∈ contents, content.Inside p) :
    (contents.getLast?.getD .unit).Inside p := by
  cases hl : contents.getLast? with
  | none => exact nofun
  | some last => exact h last (List.mem_of_getLast? hl)

end Values

section Templates

variable {factory : Factory}

theorem ensures_applyCall (hf : factory.Maintains p) {e : Element} (he : p e)
    (as : List Attribute) {contents : List Content} (hc : ∀ content ∈ contents, content.Inside p) :
    (attempt (applyCall factory e as contents)).Ensures (ResultIs p) := by
  apply ensures_attempt
  intro called hr
  rw [applyCall_eq_directCall, directCall] at hr
  split at hr
  · exact hf.attributes he hr
  · exact hf.call he (Content.inside_list hc) hr

theorem ensures_cons {first : Expansion Content} {rest : Expansion (List Content)}
    (hf : first.Ensures (Content.Inside p))
    (hr : rest.Ensures fun contents => ∀ c ∈ contents, c.Inside p) :
    (first >>= fun content => rest >>= fun contents => pure (content :: contents)).Ensures
      fun contents => ∀ c ∈ contents, c.Inside p := by
  refine hf.bind fun content hc => hr.bind fun contents hcs => .pure fun c hmem => ?_
  rcases List.mem_cons.1 hmem with rfl | hmem
  · exact hc
  · exact hcs c hmem

mutual

theorem Expression.ensures_evaluate (hf : factory.Maintains p) :
    (x : Expression) → {scope : Scope} → scope.Inside p →
      (x.evaluate factory scope).Ensures (Content.Inside p)
  | .literal literal, scope, hs => by
    rw [Expression.evaluate]
    cases hc : literal.content? with
    | none => exact hs.evaluate _
    | some content => exact .pure (Literal.inside_content? hc)
  | .bool _, scope, hs => by
    rw [Expression.evaluate]
    exact .pure nofun
  | .variable name, scope, hs => by
    rw [Expression.evaluate]
    cases hc : scope.content? name with
    | none => exact .throw _
    | some content => exact .pure (hs.names name content hc)
  | .absent, scope, hs => by
    rw [Expression.evaluate]
    exact .pure nofun
  | .unit, scope, hs => by
    rw [Expression.evaluate]
    exact .pure nofun
  | .present value, scope, hs => by
    rw [Expression.evaluate]
    exact (Expression.ensures_evaluate hf value hs).bind fun content hc => .pure hc
  | .list values, scope, hs => by
    rw [Expression.evaluate]
    exact (Expression.ensures_evaluateAll hf values hs).bind fun contents hc =>
      .pure (Content.inside_list hc)
  | .negate value, scope, hs => by
    rw [Expression.evaluate]
    exact .of_any ensures_negative
  | .equal left right, scope, hs => by
    rw [Expression.evaluate]
    exact .of_any fun first => .of_any fun second => ensures_compared first second
  | .raw html, scope, hs => by
    rw [Expression.evaluate]
    exact .of_any ensures_markup
  | .sequence values, scope, hs => by
    rw [Expression.evaluate]
    exact (Expression.ensures_evaluate hf values hs).bind fun content hc =>
      .pure (Content.inside_lazily hc)
  | .block values, scope, hs => by
    rw [Expression.evaluate]
    exact (Expression.ensures_evaluateAll hf values hs).bind fun contents hc =>
      .pure (inside_last hc)
  | .nested source, scope, hs => by
    rw [Expression.evaluate]
    exact (Source.ensures_expand hf source hs).bind fun result hr =>
      .pure (Content.inside_ofResult hr)
  | .broken _, scope, hs => by
    rw [Expression.evaluate]
    exact .throw _
  | .wrapped value, scope, hs => by
    rw [Expression.evaluate]
    exact Expression.ensures_evaluate hf value hs
  | .other tokens, scope, hs => by
    rw [Expression.evaluate]
    exact hs.evaluate tokens
  | .overfull, scope, hs => by
    rw [Expression.evaluate]
    exact .throw _

theorem Expression.ensures_evaluateAll (hf : factory.Maintains p) :
    (values : List Expression) → {scope : Scope} → scope.Inside p →
      (Expression.evaluateAll factory scope values).Ensures fun contents => ∀ c ∈ contents, c.Inside p
  | [], scope, hs => by
    rw [Expression.evaluateAll]
    exact .pure nofun
  | value :: values, scope, hs => by
    rw [Expression.evaluateAll]
    exact ensures_cons (Expression.ensures_evaluate hf value hs)
      (Expression.ensures_evaluateAll hf values hs)

theorem Argument.ensures_contents (hf : factory.Maintains p) :
    (arguments : List Argument) → {scope : Scope} → scope.Inside p →
      (Argument.contents factory scope arguments).Ensures fun contents => ∀ c ∈ contents, c.Inside p
  | [], scope, hs => by
    rw [Argument.contents]
    exact .pure nofun
  | .node node :: arguments, scope, hs => by
    rw [Argument.contents]
    refine (Node.ensures_expand hf node hs).bind fun result hr => ?_
    exact ensures_cons (.pure (Content.inside_ofResult hr))
      (Argument.ensures_contents hf arguments hs)
  | .content value :: arguments, scope, hs => by
    rw [Argument.contents]
    exact ensures_cons (Expression.ensures_evaluate hf value hs)
      (Argument.ensures_contents hf arguments hs)
  | .attribute _ _ :: arguments, scope, hs => by
    rw [Argument.contents]
    exact Argument.ensures_contents hf arguments hs
  | .bare _ :: arguments, scope, hs => by
    rw [Argument.contents]
    exact Argument.ensures_contents hf arguments hs

theorem Call.ensures_expand (hf : factory.Maintains p) :
    (call : Call) → {scope : Scope} → scope.Inside p → {e : Element} → p e →
      (call.expand factory scope e).Ensures (ResultIs p)
  | ⟨arguments⟩, scope, hs, e, he => by
    rw [Call.expand]
    exact .of_any fun as => (Argument.ensures_contents hf arguments (hs.within he)).bind
      fun contents hc => ensures_applyCall hf he as hc

theorem Call.ensures_expandAll (hf : factory.Maintains p) :
    (calls : List Call) → {scope : Scope} → scope.Inside p →
      {chain : Expansion (Except TreeError Element)} → chain.Ensures (ResultIs p) →
        (Call.expandAll factory scope calls chain).Ensures (ResultIs p)
  | [], scope, hs, chain, hc => by
    rw [Call.expandAll]
    exact hc
  | call :: calls, scope, hs, chain, hc => by
    rw [Call.expandAll]
    exact Call.ensures_expandAll hf calls hs
      (ensures_andThen hc fun e he => Call.ensures_expand hf call hs he)

theorem Node.ensures_expand (hf : factory.Maintains p) :
    (node : Node) → {scope : Scope} → scope.Inside p →
      (node.expand factory scope).Ensures (ResultIs p)
  | ⟨tag, calls⟩, scope, hs => by
    rw [Node.expand]
    exact Call.ensures_expandAll hf calls hs (ensures_attempt fun e he => hf.tag he)

theorem Source.ensures_expand (hf : factory.Maintains p) :
    (source : Source) → {scope : Scope} → scope.Inside p →
      (source.expand factory scope).Ensures (ResultIs p)
  | ⟨word, root⟩, scope, hs => by
    rw [Source.expand]
    exact .of_any fun _ => Node.ensures_expand hf root hs

end

end Templates

end Template

section Built

variable {factory : Factory}

theorem Pipeline.BringsOnly.run {p : Element → Prop} {pipeline : Pipeline} (h : pipeline.BringsOnly p)
    {invocation : Invocation} (hi : invocation.Inside p) : (pipeline.run invocation).Inside p :=
  Pipeline.run_preserves h hi

/-- Stages that leave the content alone bring in nothing. -/
theorem Pipeline.bringsOnly_standard (p : Element → Prop) : Pipeline.standard.BringsOnly p := by
  intro stage hs invocation hi
  rw [standard] at hs
  simp only [List.mem_cons, List.not_mem_nil, or_false] at hs
  rcases hs with rfl | rfl <;> exact hi

theorem Factory.maintains_built (hf : factory.pipeline.BringsOnly Element.Built) :
    factory.Maintains Element.Built where
  tag made := .tag made
  invoke before inside made := .invoke before (hf.run inside) made

end Built

/-- Every element that has been built is well-formed, and so is every element inside it. Elements are
built by a tag or a builder and by calls of elements that have been built, be it with attributes, with
content or with an invocation, where a document of such elements is content, and by templates. -/
theorem built_everywhere_wellFormed (factory : Factory)
    (hf : factory.pipeline.BringsOnly Element.Built) :
    (∀ e : Element, e.Built → e.Everywhere Element.WellFormed) ∧
    (∀ name e, (factory.tag name).result = .ok e → e.Built) ∧
    (∀ name e, factory.builder? name = some e → e.Built) ∧
    (∀ (e : Element) as called, e.Built → (factory.attributes e as).result = .ok called →
      called.Built) ∧
    (∀ (e : Element) content called, e.Built → content.Inside Element.Built →
      (factory.content e content).result = .ok called → called.Built) ∧
    (∀ (e : Element) content as called, e.Built → content.Inside Element.Built →
      (factory.call e content as).result = .ok called → called.Built) ∧
    (∀ (e : Element) invocation called, e.Built → invocation.Inside Element.Built →
      (factory.invoke e invocation).result = .ok called → called.Built) ∧
    (∀ d : Document, (∀ child ∈ d.children, child.Built) →
      (Content.document d).Inside Element.Built) ∧
    ∀ (scope : Template.Scope) (source : Template.Source) (e : Element),
      scope.Inside Element.Built →
      (source.expand factory scope).run.value = .ok (.ok e) → e.Built := by
  have hm : factory.Maintains Element.Built := Factory.maintains_built hf
  exact ⟨fun _ h => h.everywhere_wellFormed, fun _ _ h => .tag h, fun _ _ h => .builder h,
    fun _ _ _ h hr => hm.attributes h hr, fun _ _ _ h hc hr => hm.content h hc hr,
    fun _ _ _ _ h hc hr => hm.call h hc hr, fun _ _ _ h hi hr => hm.invoke h hi hr,
    fun _ h => Content.inside_document h,
    fun _ source e hs hr => Template.Source.ensures_expand hm source hs _ hr e rfl⟩

/-- A list with a document in it, and with two keys that the stages make one. -/
theorem wellFormed_list_of_document :
    Factory.standard.pipeline.BringsOnly Element.Built ∧
    (Factory.standard.call (Element.ofTag "ul") (.document ⟨[Element.ofTag "br"]⟩)
      [Attribute.bare "type_", Attribute.ofStrings "r#type" "a"]).result =
        .ok ⟨"ul", ⟨[Attribute.ofStrings "type" "a"]⟩, some [.element (Element.ofTag "br")]⟩ ∧
    Element.Everywhere Element.WellFormed
      ⟨"ul", ⟨[Attribute.ofStrings "type" "a"]⟩, some [.element (Element.ofTag "br")]⟩ := by
  have hf : Factory.standard.pipeline.BringsOnly Element.Built := Pipeline.bringsOnly_standard _
  obtain ⟨hwell, -, hbuilder, -, -, hcall, -, hdocument, -⟩ :=
    built_everywhere_wellFormed Factory.standard hf
  have hr : (Factory.standard.call (Element.ofTag "ul") (.document ⟨[Element.ofTag "br"]⟩)
      [Attribute.bare "type_", Attribute.ofStrings "r#type" "a"]).result =
        .ok ⟨"ul", ⟨[Attribute.ofStrings "type" "a"]⟩, some [.element (Element.ofTag "br")]⟩ := by
    rfl
  refine ⟨hf, hr, hwell _ (hcall _ _ _ _ ?_ (hdocument _ ?_) hr)⟩
  · exact hbuilder "ul" _ rfl
  · intro child hc
    rw [List.mem_singleton.1 hc]
    exact hbuilder "br" _ rfl

end MarkupTree
