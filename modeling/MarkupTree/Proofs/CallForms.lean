import MarkupTree.Factory
import MarkupTree.Proofs.Calls
import MarkupTree.Proofs.Flattening
import MarkupTree.Proofs.Tree

/-! Calls with attributes, with content, and with both. As long as the stages do no more than give
attributes new keys, a call with both can be taken apart, in either order, and nobody can tell: the
element or the error is the same, and so is what is reported. A call with attributes only is refused
just when the stages bring content into it that the element may not take. -/
namespace MarkupTree

section Renaming

/-- Every stage gives attributes new keys, each by a function of the old key alone. -/
def Pipeline.OnlyRenames (pipeline : Pipeline) : Prop :=
  ∀ stage ∈ pipeline.stages, ∃ rename, stage = Invocation.renameAttributes rename

theorem Pipeline.onlyRenames_standard : Pipeline.standard.OnlyRenames := by
  intro stage hs
  rcases List.mem_cons.1 hs with rfl | hs
  · exact ⟨Keyword.unmark?, rfl⟩
  · rw [List.mem_singleton.1 hs]
    exact ⟨kebabHypermedia?, rfl⟩

namespace Pipeline.OnlyRenames

variable {pipeline : Pipeline}

/-- Content goes through the stages as it is, and the attributes do not depend on it. -/
theorem run_eq (h : pipeline.OnlyRenames) (attributes : Attributes) (content : Option (List Item)) :
    pipeline.run ⟨attributes, content⟩ = ⟨(pipeline.run ⟨attributes, none⟩).attributes, content⟩ := by
  obtain ⟨stages⟩ := pipeline
  induction stages generalizing attributes with
  | nil => rfl
  | cons stage stages ih =>
    obtain ⟨rename, rfl⟩ := h stage (List.mem_cons_self ..)
    have hs : (Pipeline.mk stages).OnlyRenames := fun stage hs => h stage (List.mem_cons_of_mem _ hs)
    exact ih (attributes.rename rename) hs

theorem run_empty (h : pipeline.OnlyRenames) : pipeline.run Invocation.empty = Invocation.empty := by
  obtain ⟨stages⟩ := pipeline
  induction stages with
  | nil => rfl
  | cons stage stages ih =>
    obtain ⟨rename, rfl⟩ := h stage (List.mem_cons_self ..)
    have hs : (Pipeline.mk stages).OnlyRenames := fun stage hs => h stage (List.mem_cons_of_mem _ hs)
    exact ih hs

end Pipeline.OnlyRenames

end Renaming

namespace Content

theorem events_append {first second : Build (List Item)} (hf : first.events = [])
    (hs : second.events = []) :
    (first >>= fun items => second >>= fun rest => pure (items ++ rest)).events = [] :=
  Build.silent_bind hf fun _ => Build.silent_bind hs fun _ => rfl

theorem events_pullCopies {read : Build (List Item)} (h : read.events = []) (count : Nat) :
    (pullCopies read count).events = [] := by
  induction count with
  | zero => rfl
  | succ count ih => exact Build.silent_bind rfl fun _ => events_append h ih

mutual

theorem events_pull : (content : Content) → content.pull.events = []
  | .item _ => rfl
  | .document _ => rfl
  | .int _ => rfl
  | .double _ => rfl
  | .single _ => rfl
  | .bool _ => rfl
  | .unit => rfl
  | .absent => rfl
  | .present content => by rw [pull, events_pull content]
  | .succeeded content => by rw [pull, events_pull content]
  | .failed _ => rfl
  | .list contents => by rw [pull, events_pullAll contents]
  | .sequence contents => by rw [pull, events_pullEach contents]
  | .copies count content => by rw [pull, events_pullCopies (events_pull content)]

theorem events_pullAll : (contents : List Content) → (pullAll contents).events = []
  | [] => rfl
  | content :: contents => by
    rw [pullAll]
    exact events_append (events_pull content) (events_pullAll contents)

theorem events_pullEach : (contents : List Content) → (pullEach contents).events = []
  | [] => rfl
  | content :: contents => by
    rw [pullEach]
    exact Build.silent_bind rfl fun _ =>
      events_append (events_pull content) (events_pullEach contents)

end

end Content

namespace Factory

variable {factory : Factory} {e called : Element} {content : Content} {as : List Attribute}
  {items : List Item}

section Assigning

theorem assign_of_isSome (hc : e.content.isSome) :
    assign e items = throw (.contentMutation e.name) := by
  rw [assign, if_pos hc]

theorem assign_of_isVoid (hc : ¬ e.content.isSome) (hv : e.isVoid) :
    assign e items = throw (.voidElementContent e.name) := by
  rw [assign, if_neg hc, if_pos hv]

theorem assign_of_free (hc : ¬ e.content.isSome) (hv : ¬ e.isVoid) :
    assign e items = Build.tell (.assignedContent e.name items.length) >>= fun _ =>
      pure { e with content := some items } := by
  rw [assign, if_neg hc, if_neg hv]

theorem events_assign (e : Element) (items : List Item) :
    (assign e items).events =
      match (assign e items).result with
      | .ok called => [.assignedContent called.name called.items.length]
      | .error _ => [] := by
  by_cases hc : e.content.isSome
  · rw [assign_of_isSome hc]
    rfl
  · by_cases hv : e.isVoid
    · rw [assign_of_isVoid hc hv]
      rfl
    · rw [assign_of_free hc hv]
      rfl

end Assigning

/-- The element with the attributes of a call over its own. -/
def adorned (factory : Factory) (e : Element) (as : List Attribute) : Element :=
  { e with
    attributes := e.attributes.merge
      (factory.pipeline.run (Invocation.empty.withAttributes as)).attributes }

theorem assign_adorned (factory : Factory) (e : Element) (as : List Attribute) (items : List Item) :
    assign (factory.adorned e as) items =
      assign e items >>= fun called => pure (factory.adorned called as) := by
  by_cases hc : e.content.isSome
  · have hc' : (factory.adorned e as).content.isSome := hc
    rw [assign_of_isSome hc, assign_of_isSome hc']
    rfl
  · have hc' : ¬ (factory.adorned e as).content.isSome := hc
    by_cases hv : e.isVoid
    · have hv' : (factory.adorned e as).isVoid := hv
      rw [assign_of_isVoid hc hv, assign_of_isVoid hc' hv']
      rfl
    · have hv' : ¬ (factory.adorned e as).isVoid := hv
      rw [assign_of_free hc hv, assign_of_free hc' hv', bind_assoc]
      rfl

section Renaming

variable (h : factory.pipeline.OnlyRenames)
include h

theorem invoke_of_onlyRenames (as : List Attribute) (content : Option (List Item)) :
    factory.invoke e ⟨Attributes.empty.insertAll as, content⟩ =
      match content with
      | some items => assign (factory.adorned e as) items
      | none => pure (factory.adorned e as) := by
  rw [invoke, h.run_eq]
  rfl

theorem adorned_nil : factory.adorned e [] = e := by
  have he : factory.pipeline.run (Invocation.empty.withAttributes []) = Invocation.empty := h.run_empty
  rw [adorned, he]
  cases e
  rfl

theorem attributes_eq_pure : factory.attributes e as = pure (factory.adorned e as) :=
  invoke_of_onlyRenames h as none

theorem call_eq_assign :
    factory.call e content as = content.pull >>= fun items => assign (factory.adorned e as) items := by
  unfold call Invocation.withContent
  rw [bind_assoc]
  congr 1
  funext items
  rw [pure_bind]
  exact invoke_of_onlyRenames h as (some items)

theorem content_eq_assign :
    factory.content e content = content.pull >>= fun items => assign e items := by
  have hn : factory.call e content [] =
      content.pull >>= fun items => assign (factory.adorned e []) items := call_eq_assign h
  rw [adorned_nil h] at hn
  exact hn

/-- What a call with both comes to. An error of the content goes before those of the element. -/
theorem result_call :
    (factory.call e content as).result = content.flatten.bind fun items =>
      if e.content.isSome then .error (.contentMutation e.name)
      else if e.isVoid then .error (.voidElementContent e.name)
      else .ok { factory.adorned e as with content := some items } := by
  rw [call_eq_assign h, Build.result_bind]
  congr 1
  funext items
  rw [result_assign]
  rfl

theorem events_call :
    (factory.call e content as).events =
      match (factory.call e content as).result with
      | .ok called => [.assignedContent called.name called.items.length]
      | .error _ => [] := by
  rw [call_eq_assign h, Build.events_bind_of_silent content.events_pull, Build.result_bind]
  cases content.pull.result with
  | error error => rfl
  | ok items => exact events_assign _ items

/-- Where the stages only rename, a call with content and attributes is the same computation as a call
with the attributes and then one with the content, and as the two in the other order: they come to one
element or one error, report the same events and pull the same items. An error of the content goes
before those of the element, and the assignment is reported just when it happens. -/
theorem call_eq_calls_in_turn (e : Element) (content : Content) (as : List Attribute) :
    (factory.attributes e as >>= fun called => factory.content called content) =
      factory.call e content as ∧
    (factory.content e content >>= fun called => factory.attributes called as) =
      factory.call e content as ∧
    ((factory.call e content as).result = content.flatten.bind fun items =>
      if e.content.isSome then .error (.contentMutation e.name)
      else if e.isVoid then .error (.voidElementContent e.name)
      else .ok { factory.adorned e as with content := some items }) ∧
    (factory.call e content as).events =
      match (factory.call e content as).result with
      | .ok called => [.assignedContent called.name called.items.length]
      | .error _ => [] := by
  refine ⟨?_, ?_, result_call h, events_call h⟩
  · rw [attributes_eq_pure h, pure_bind, content_eq_assign h, call_eq_assign h]
  · rw [content_eq_assign h, call_eq_assign h, bind_assoc]
    congr 1
    funext items
    rw [assign_adorned]
    congr 1
    funext called
    exact attributes_eq_pure h

end Renaming

/-- The stock stages give the key another spelling, which the element has already. -/
theorem call_of_other_spelling :
    standard.pipeline.OnlyRenames ∧
    (standard.attributes ⟨"p", ⟨[⟨"hx-get", none⟩]⟩, none⟩
        [⟨"hxGet", some (.int 1)⟩, Attribute.bare "id"] >>= fun called =>
      standard.content called (.list [.absent, Content.text "a"])) =
      (standard.content ⟨"p", ⟨[⟨"hx-get", none⟩]⟩, none⟩ (.list [.absent, Content.text "a"]) >>=
        fun called => standard.attributes called
          [⟨"hxGet", some (.int 1)⟩, Attribute.bare "id"]) ∧
    (standard.call ⟨"p", ⟨[⟨"hx-get", none⟩]⟩, none⟩ (.list [.absent, Content.text "a"])
      [⟨"hxGet", some (.int 1)⟩, Attribute.bare "id"]).result =
      .ok ⟨"p", ⟨[⟨"hx-get", some (.int 1)⟩, Attribute.bare "id"]⟩, some [.text "a"]⟩ := by
  have h : standard.pipeline.OnlyRenames := Pipeline.onlyRenames_standard
  obtain ⟨hac, hca, hr, -⟩ := call_eq_calls_in_turn h ⟨"p", ⟨[⟨"hx-get", none⟩]⟩, none⟩
    (.list [.absent, Content.text "a"]) [⟨"hxGet", some (.int 1)⟩, Attribute.bare "id"]
  refine ⟨h, hac.trans hca.symm, hr.trans ?_⟩
  rfl

section AttributesOnly

/-- A call with attributes only, whatever the stages do. It leaves name and content as they are just
when no content comes out of the stages. Where some does, it is refused by an element that is void or
has content, and by no other. -/
theorem attributes_keeps_iff (stages : List Stage) (e : Element) (as : List Attribute) :
    ((∃ called, (attributes ⟨⟨stages⟩⟩ e as).result = .ok called ∧
        called.name = e.name ∧ called.content = e.content) ↔
      (Pipeline.run ⟨stages⟩ (Invocation.empty.withAttributes as)).content = none) ∧
    ((∃ called, (attributes ⟨⟨stages⟩⟩ e as).result = .ok called) ↔
      (Pipeline.run ⟨stages⟩ (Invocation.empty.withAttributes as)).content = none ∨
        e.content = none ∧ ¬ e.isVoid) := by
  unfold attributes
  rw [result_invoke]
  cases hp : (Pipeline.run ⟨stages⟩ (Invocation.empty.withAttributes as)).content with
  | none => simp
  | some items =>
    by_cases hc : e.content.isSome
    · have hn : e.content ≠ none := Option.isSome_iff_ne_none.1 hc
      simp [hc, hn]
    · have hn : e.content = none := by simpa using hc
      by_cases hv : e.isVoid <;> simp [hn, hv]

/-- A stage that supplies content which comes to nothing. -/
def supplying : Stage := fun invocation =>
  { invocation with content := some (invocation.content.getD []) }

/-- With that stage a void element refuses a lone attribute, and another element has content behind
one. -/
theorem attributes_of_supplying :
    (tag ⟨⟨[supplying]⟩⟩ "br").result = .ok (Element.ofTag "br") ∧
    (attributes ⟨⟨[supplying]⟩⟩ (Element.ofTag "br") [Attribute.bare "id"]).result =
      .error (.voidElementContent "br") ∧
    (tag ⟨⟨[supplying]⟩⟩ "p").result = .ok (Element.ofTag "p") ∧
    (attributes ⟨⟨[supplying]⟩⟩ (Element.ofTag "p") [Attribute.bare "id"]).result =
      .ok ⟨"p", ⟨[Attribute.bare "id"]⟩, some []⟩ := by
  refine ⟨?_, ?_, ?_, ?_⟩
  · rw [result_tag]
    rfl
  · rfl
  · rw [result_tag]
    rfl
  · rfl

end AttributesOnly

end Factory

end MarkupTree
