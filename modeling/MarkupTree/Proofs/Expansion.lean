import MarkupTree.Blueprint
import MarkupTree.Template.Expansion

/-! A template and direct calls build the same. The chain that a node becomes, with its links and its
pairs in pairs, comes to the calls of the node one after the other, each with its attributes and with
its contents in one flat list; and where the expressions have values, it is the blueprint with these
values that is built. -/
namespace MarkupTree.Template

section Chains

theorem andThen_assoc (chain : Expansion (Except TreeError Element))
    (first second : Element → Expansion (Except TreeError Element)) :
    andThen (andThen chain first) second =
      andThen chain fun e => andThen (first e) second := by
  simp only [andThen, bind_assoc]
  congr 1
  funext result
  cases result with
  | ok e => rfl
  | error error => rw [pure_bind]

theorem andThen_pure (chain : Expansion (Except TreeError Element)) :
    (andThen chain fun e => pure (.ok e)) = chain := by
  conv => rhs; rw [← bind_pure chain]
  unfold andThen
  congr 1
  funext result
  cases result <;> rfl

theorem attempt_bind (first : Build Element) (second : Element → Build Element) :
    attempt (first >>= second) = andThen (attempt first) fun e => attempt (second e) := by
  apply ExceptT.ext
  simp only [attempt, andThen, ExceptT.run_lift, ExceptT.run_bind, map_bind]
  rw [bind_map_left]
  congr 1
  funext result
  cases result <;> rfl

theorem attempt_lift_bind {α : Type} (first : Logged α) (second : α → Build Element) :
    attempt (ExceptT.lift first >>= second) =
      (ExceptT.lift first : Expansion α) >>= fun a => attempt (second a) := by
  apply ExceptT.ext
  simp only [attempt, ExceptT.run_bind_lift, ExceptT.run_lift, map_bind]

end Chains

section Pairs

theorem pullAll_singleton (content : Content) : Content.pullAll [content] = content.pull := by
  simp [Content.pullAll]

theorem pull_pairs (contents : List Content) :
    (pairs contents).pull = Content.pullAll contents := by
  induction contents with
  | nil => rfl
  | cons first rest ih =>
    cases rest with
    | nil => exact (pullAll_singleton first).symm
    | cons second rest =>
      rw [Content.pullAll, ← ih, ← pullAll_singleton (pairs (second :: rest))]
      rfl

theorem pull_positional (contents : List Content) :
    (positional contents).pull = (Content.list contents).pull := by
  cases contents with
  | nil => rfl
  | cons first rest =>
    cases rest with
    | nil => rfl
    | cons second rest => exact pull_pairs (first :: second :: rest)

theorem withContent_positional (invocation : Invocation) (contents : List Content) :
    invocation.withContent (positional contents) = invocation.withContent (.list contents) := by
  rw [Invocation.withContent, Invocation.withContent, pull_positional]

theorem foldl_withAttribute (attributes : List Attribute) (invocation : Invocation) :
    attributes.foldl Invocation.withAttribute invocation = invocation.withAttributes attributes := by
  induction attributes generalizing invocation with
  | nil => rfl
  | cons a attributes ih =>
    rw [List.foldl_cons, ih]
    rfl

end Pairs

/-- Calls an element with attributes only if there are no contents, and else with the contents as one
list. -/
def directCall (factory : Factory) (e : Element) (attributes : List Attribute)
    (contents : List Content) : Build Element :=
  if contents.isEmpty then factory.attributes e attributes
  else factory.call e (.list contents) attributes

theorem applyCall_eq_directCall (factory : Factory) (e : Element) (attributes : List Attribute)
    (contents : List Content) :
    applyCall factory e attributes contents = directCall factory e attributes contents := by
  unfold applyCall directCall
  by_cases h : contents.isEmpty
  · simp only [h, if_true, foldl_withAttribute]
    rfl
  · simp only [h, Bool.false_eq_true, if_false, foldl_withAttribute, withContent_positional]
    rfl

mutual

/-- A node by direct calls of its element, in their order and while none has failed. Everything in a
call is evaluated before it: its attributes, and then its contents, failed or not. -/
def Node.direct (factory : Factory) (scope : Scope) :
    Node → Expansion (Except TreeError Element)
  | ⟨tag, calls⟩ => do
    match ← attempt (factory.tag tag.unmarked) with
    | .ok e => Call.direct factory scope calls e
    | .error error => return .error error

def Call.direct (factory : Factory) (scope : Scope) :
    List Call → Element → Expansion (Except TreeError Element)
  | [], e => return .ok e
  | ⟨arguments⟩ :: calls, e => do
    let attributes ← Argument.attributes factory (scope.within e) arguments
    let contents ← Argument.directContents factory (scope.within e) arguments
    match ← attempt (directCall factory e attributes contents) with
    | .ok e => Call.direct factory scope calls e
    | .error error => return .error error

def Argument.directContents (factory : Factory) (scope : Scope) :
    List Argument → Expansion (List Content)
  | [] => pure []
  | .node node :: arguments => do
    let result ← node.direct factory scope
    return Content.ofResult result :: (← Argument.directContents factory scope arguments)
  | .content value :: arguments => do
    let content ← value.evaluate factory scope
    return content :: (← Argument.directContents factory scope arguments)
  | .attribute .. :: arguments => Argument.directContents factory scope arguments
  | .bare _ :: arguments => Argument.directContents factory scope arguments

end

theorem Node.direct_eq (factory : Factory) (scope : Scope) (tag : Name) (calls : List Call) :
    Node.direct factory scope ⟨tag, calls⟩ =
      andThen (attempt (factory.tag tag.unmarked)) (Call.direct factory scope calls) := by
  rw [Node.direct]
  rfl

theorem Call.direct_nil (factory : Factory) (scope : Scope) :
    Call.direct factory scope [] = fun e => pure (.ok e) := by
  funext e
  rw [Call.direct]

theorem Call.direct_cons (factory : Factory) (scope : Scope) (arguments : List Argument)
    (calls : List Call) (e : Element) :
    Call.direct factory scope (⟨arguments⟩ :: calls) e = (do
      let attributes ← Argument.attributes factory (scope.within e) arguments
      let contents ← Argument.directContents factory (scope.within e) arguments
      andThen (attempt (directCall factory e attributes contents))
        (Call.direct factory scope calls)) := by
  rw [Call.direct]
  rfl

mutual

theorem Node.expand_eq (factory : Factory) (scope : Scope) :
    (node : Node) → node.expand factory scope = node.direct factory scope
  | ⟨tag, calls⟩ => by
    rw [Node.expand, Call.expandAll_eq factory scope calls, Node.direct_eq]

theorem Call.expandAll_eq (factory : Factory) (scope : Scope) :
    (calls : List Call) → (chain : Expansion (Except TreeError Element)) →
      Call.expandAll factory scope calls chain = andThen chain (Call.direct factory scope calls)
  | [], chain => by
    rw [Call.expandAll, Call.direct_nil, andThen_pure]
  | ⟨arguments⟩ :: calls, chain => by
    rw [Call.expandAll, Call.expandAll_eq factory scope calls, andThen_assoc]
    congr 1
    funext e
    rw [Call.expand, Call.direct_cons, Argument.contents_eq factory _ arguments]
    simp only [andThen, bind_assoc, applyCall_eq_directCall]

theorem Argument.contents_eq (factory : Factory) (scope : Scope) :
    (arguments : List Argument) →
      Argument.contents factory scope arguments = Argument.directContents factory scope arguments
  | [] => by rw [Argument.contents, Argument.directContents]
  | .node node :: arguments => by
    rw [Argument.contents, Argument.directContents, Node.expand_eq factory scope node,
      Argument.contents_eq factory scope arguments]
  | .content value :: arguments => by
    rw [Argument.contents, Argument.directContents, Argument.contents_eq factory scope arguments]
  | .attribute name value :: arguments => by
    rw [Argument.contents, Argument.directContents, Argument.contents_eq factory scope arguments]
  | .bare name :: arguments => by
    rw [Argument.contents, Argument.directContents, Argument.contents_eq factory scope arguments]

end

section Blueprints

variable (value : Expression → Content)

def Argument.attribute? : Argument → Option Attribute
  | .attribute name (some x) => some ⟨name.spelling, (value x).attributeValue?⟩
  | .attribute name none => some (Attribute.bare name.spelling)
  | .bare name => some (Attribute.bare name.spelling)
  | .node _ => none
  | .content _ => none

/-- Nothing if there are no contents, and else all of them in one list. -/
def flatSupply (sketches : List Sketch) : Supply :=
  if sketches.isEmpty then .nothing else .whole (.list sketches)

mutual

/-- What a node asks for when its expressions have these values. -/
def Node.blueprint : Node → Blueprint
  | ⟨tag, calls⟩ => ⟨.tag tag.unmarked, Call.orders calls⟩

def Call.orders : List Call → List Order
  | [] => []
  | ⟨arguments⟩ :: calls =>
    ⟨arguments.filterMap (Argument.attribute? value), flatSupply (Argument.sketches arguments)⟩ ::
      Call.orders calls

def Argument.sketches : List Argument → List Sketch
  | [] => []
  | .node node :: arguments => .element node.blueprint :: Argument.sketches arguments
  | .content x :: arguments => .ready (value x) :: Argument.sketches arguments
  | .attribute .. :: arguments => Argument.sketches arguments
  | .bare _ :: arguments => Argument.sketches arguments

end

end Blueprints

mutual

def Node.expressions : Node → List Expression
  | ⟨_, calls⟩ => Call.expressions calls

def Call.expressions : List Call → List Expression
  | [] => []
  | ⟨arguments⟩ :: calls => Argument.expressions arguments ++ Call.expressions calls

def Argument.expressions : List Argument → List Expression
  | [] => []
  | .node node :: arguments => node.expressions ++ Argument.expressions arguments
  | .content x :: arguments => x :: Argument.expressions arguments
  | .attribute _ (some x) :: arguments => x :: Argument.expressions arguments
  | .attribute _ none :: arguments => Argument.expressions arguments
  | .bare _ :: arguments => Argument.expressions arguments

end

/-- In the calls of any element the expressions have these values, and nothing else happens when
they are evaluated. -/
def Assigns (factory : Factory) (scope : Scope) (value : Expression → Content)
    (expressions : List Expression) : Prop :=
  ∀ x ∈ expressions, ∀ e, x.evaluate factory (scope.within e) = pure (value x)

theorem Scope.within_within (scope : Scope) (outer inner : Element) :
    (scope.within outer).within inner = scope.within inner := by
  have hc : ((scope.within outer).within inner).content? = (scope.within inner).content? := by
    funext name
    by_cases h : name = boundElementWord
    · simp [Scope.within, h]
    · by_cases hf : name = boundFactoryWord <;> simp [Scope.within, h, hf]
  simp only [Scope.within] at hc ⊢
  rw [hc]

section Assigned

variable {factory : Factory} {scope : Scope} {value : Expression → Content}

theorem Assigns.within {expressions : List Expression} (h : Assigns factory scope value expressions)
    (e : Element) : Assigns factory (scope.within e) value expressions := by
  intro x hx inner
  rw [Scope.within_within]
  exact h x hx inner

theorem attributes_of_assigns {arguments : List Argument} {e : Element}
    (h : Assigns factory scope value (Argument.expressions arguments)) :
    Argument.attributes factory (scope.within e) arguments =
      pure (arguments.filterMap (Argument.attribute? value)) := by
  induction arguments with
  | nil => rw [Argument.attributes, List.filterMap_nil]
  | cons argument arguments ih =>
    cases argument with
    | «attribute» name x =>
      cases x with
      | none =>
        rw [Argument.attributes, ih h, pure_bind]
        rfl
      | some x =>
        rw [Argument.attributes, h x (by simp [Argument.expressions]), pure_bind,
          ih fun y hy => h y (by simp [Argument.expressions, hy]), pure_bind]
        rfl
    | bare name =>
      rw [Argument.attributes, ih h, pure_bind]
      rfl
    | node node =>
      rw [Argument.attributes, ih fun y hy => h y (by simp [Argument.expressions, hy])]
      rfl
    | content x =>
      rw [Argument.attributes, ih fun y hy => h y (by simp [Argument.expressions, hy])]
      rfl

/-- An order with its contents in one list: they are built, and then the element is called. -/
theorem attempt_apply (factory : Factory) (e : Element) (attributes : List Attribute)
    (sketches : List Sketch) :
    attempt (Order.apply factory e ⟨attributes, flatSupply sketches⟩) =
      (ExceptT.lift (Sketch.buildAll factory sketches) : Expansion (List Content)) >>=
        fun contents => attempt (directCall factory e attributes contents) := by
  cases sketches with
  | nil =>
    rw [Sketch.buildAll, ExceptT.lift_pure, pure_bind]
    rfl
  | cons sketch sketches =>
    have hs : flatSupply (sketch :: sketches) = .whole (.list (sketch :: sketches)) := rfl
    rw [hs, Order.apply, attempt_lift_bind, Sketch.build, Sketch.buildAll]
    simp only [ExceptT.lift_bind, bind_assoc, ExceptT.lift_pure, pure_bind]
    rfl

mutual

theorem Node.direct_eq_build : (node : Node) → {scope : Scope} →
    Assigns factory scope value node.expressions →
      node.direct factory scope = attempt ((node.blueprint value).build factory)
  | ⟨tag, calls⟩, scope, h => by
    have hc : Call.direct factory scope calls =
        fun e => attempt (Order.applyAll factory (Call.orders value calls) e) := by
      funext e
      exact Call.direct_eq_applyAll calls h e
    rw [Node.direct_eq, Node.blueprint, Blueprint.build, attempt_bind, hc, Origin.build]

theorem Call.direct_eq_applyAll : (calls : List Call) → {scope : Scope} →
    Assigns factory scope value (Call.expressions calls) → (e : Element) →
      Call.direct factory scope calls e =
        attempt (Order.applyAll factory (Call.orders value calls) e)
  | [], scope, h, e => by
    rw [Call.direct_nil, Call.orders, Order.applyAll]
    rfl
  | ⟨arguments⟩ :: calls, scope, h, e => by
    have ha : Assigns factory scope value (Argument.expressions arguments) :=
      fun x hx => h x (List.mem_append_left _ hx)
    have hc : Call.direct factory scope calls =
        fun e => attempt (Order.applyAll factory (Call.orders value calls) e) := by
      funext e
      exact Call.direct_eq_applyAll calls (fun x hx => h x (List.mem_append_right _ hx)) e
    rw [Call.direct_cons, Call.orders, Order.applyAll, attempt_bind, attempt_apply,
      attributes_of_assigns ha, pure_bind, Argument.directContents_eq_buildAll arguments ha e, hc]
    simp only [andThen, bind_assoc]

theorem Argument.directContents_eq_buildAll : (arguments : List Argument) → {scope : Scope} →
    Assigns factory scope value (Argument.expressions arguments) → (e : Element) →
      Argument.directContents factory (scope.within e) arguments =
        ExceptT.lift (Sketch.buildAll factory (Argument.sketches value arguments))
  | [], scope, h, e => by
    rw [Argument.directContents, Argument.sketches, Sketch.buildAll, ExceptT.lift_pure]
  | .node node :: arguments, scope, h, e => by
    have hn : Assigns factory scope value node.expressions :=
      fun x hx => h x (List.mem_append_left _ hx)
    have ha : Assigns factory scope value (Argument.expressions arguments) :=
      fun x hx => h x (List.mem_append_right _ hx)
    rw [Argument.directContents, Argument.sketches, Sketch.buildAll, Sketch.build,
      Node.direct_eq_build node (hn.within e), Argument.directContents_eq_buildAll arguments ha e]
    simp only [ExceptT.lift_bind, bind_assoc, ExceptT.lift_pure, pure_bind, attempt]
  | .content x :: arguments, scope, h, e => by
    have ha : Assigns factory scope value (Argument.expressions arguments) :=
      fun y hy => h y (List.mem_cons_of_mem _ hy)
    rw [Argument.directContents, Argument.sketches, Sketch.buildAll, Sketch.build,
      h x (List.mem_cons_self ..) e, Argument.directContents_eq_buildAll arguments ha e]
    simp only [ExceptT.lift_bind, ExceptT.lift_pure, pure_bind]
  | .attribute name none :: arguments, scope, h, e => by
    rw [Argument.directContents, Argument.sketches,
      Argument.directContents_eq_buildAll arguments h e]
  | .attribute name (some x) :: arguments, scope, h, e => by
    have ha : Assigns factory scope value (Argument.expressions arguments) :=
      fun y hy => h y (List.mem_cons_of_mem _ hy)
    rw [Argument.directContents, Argument.sketches,
      Argument.directContents_eq_buildAll arguments ha e]
  | .bare name :: arguments, scope, h, e => by
    rw [Argument.directContents, Argument.sketches,
      Argument.directContents_eq_buildAll arguments h e]

end

end Assigned

/-- Whatever its expressions do, a template comes to the direct calls of its nodes: the same element or
error, the same events in the same order. If the expressions merely have values, these are the calls
of the blueprint with the values in it, in which the nodes inside a call are built first. -/
theorem expand_eq_direct (factory : Factory) (scope : Scope) (source : Source) :
    source.expand factory scope = (do
      source.factory.evaluateFactory factory scope
      source.root.direct factory scope) ∧
    ∀ value, Assigns factory scope value source.root.expressions →
      source.expand factory scope = (do
        source.factory.evaluateFactory factory scope
        attempt ((source.root.blueprint value).build factory)) := by
  obtain ⟨word, root⟩ := source
  have hd : Source.expand factory scope ⟨word, root⟩ = (do
      word.evaluateFactory factory scope
      root.direct factory scope) := by
    rw [Source.expand, Node.expand_eq factory scope root]
  refine ⟨hd, fun value h => ?_⟩
  rw [hd, Node.direct_eq_build root h]

/-- The scope in which all names and all expressions known by their tokens have one value. -/
def Scope.constant (content : Content) : Scope :=
  ⟨fun _ => some content, [factoryWord], fun _ _ => pure content⟩

/-- A list whose item fails, and behind the item an expression of which only the tokens are known:
both are built before the list is called. -/
theorem expand_list :
    Assigns Factory.standard (Scope.constant (Content.text "v")) (fun _ => Content.text "v")
      [.variable "x", .literal (.text .text "v" ""),
        .other [.word ⟨"y", false⟩, .sign '?' false]] ∧
    Source.expand Factory.standard (Scope.constant (Content.text "v"))
        ⟨.variable "dom", ⟨⟨"ul", false⟩,
          [⟨[.attribute ⟨"class", false⟩ (some (.variable "x"))]⟩,
            ⟨[.node ⟨⟨"br", false⟩, [⟨[.content (.literal (.text .text "v" ""))]⟩]⟩,
              .content (.other [.word ⟨"y", false⟩, .sign '?' false]),
              .attribute ⟨"type", true⟩ none]⟩]⟩⟩ =
      (do
        (Expression.variable "dom").evaluateFactory Factory.standard
          (Scope.constant (Content.text "v"))
        attempt (Blueprint.build Factory.standard ⟨.tag "ul",
          [⟨[⟨"class", some (.string "v")⟩], .nothing⟩,
            ⟨[Attribute.bare "r#type"], .whole (.list
              [.element ⟨.tag "br", [⟨[], .whole (.list [.ready (Content.text "v")])⟩]⟩,
                .ready (Content.text "v")])⟩]⟩)) := by
  have hv : Assigns Factory.standard (Scope.constant (Content.text "v"))
      (fun _ => Content.text "v") [.variable "x", .literal (.text .text "v" ""),
        .other [.word ⟨"y", false⟩, .sign '?' false]] := by
    intro x hx e
    simp only [List.mem_cons, List.not_mem_nil, or_false] at hx
    rcases hx with rfl | rfl | rfl <;> rw [Expression.evaluate] <;> rfl
  refine ⟨hv, ?_⟩
  have hul : Name.unmarked ⟨"ul", false⟩ = "ul" := by decide
  have hbr : Name.unmarked ⟨"br", false⟩ = "br" := by decide
  have he := (expand_eq_direct Factory.standard (Scope.constant (Content.text "v"))
    ⟨.variable "dom", ⟨⟨"ul", false⟩,
      [⟨[.attribute ⟨"class", false⟩ (some (.variable "x"))]⟩,
        ⟨[.node ⟨⟨"br", false⟩, [⟨[.content (.literal (.text .text "v" ""))]⟩]⟩,
          .content (.other [.word ⟨"y", false⟩, .sign '?' false]),
          .attribute ⟨"type", true⟩ none]⟩]⟩⟩).2 (fun _ => Content.text "v") hv
  simp only [Node.blueprint, Call.orders, Argument.sketches, hul, hbr] at he
  exact he

end MarkupTree.Template
