import MarkupTree.Pipeline

/-! Making elements and calling them. A factory is the pipeline that its calls go through; it is handed
to a call beside the element. Content is assigned once at most and never to a void element. -/
namespace MarkupTree

structure Factory where
  pipeline : Pipeline

namespace Factory

def standard : Factory := ⟨Pipeline.standard⟩

/-- A new element of any tag that is not reserved. -/
def tag (_ : Factory) (name : String) : Build Element :=
  if Tag.isReserved name then do
    Build.tell (.rejectedTagName name)
    throw (.badTagName name)
  else pure (Element.ofTag name)

theorem result_tag (factory : Factory) (name : String) :
    (factory.tag name).result =
      if Tag.isReserved name then .error (.badTagName name) else .ok (Element.ofTag name) := by
  unfold tag
  by_cases h : Tag.isReserved name
  · simp [h, Except.bind]
  · simp [h]

/-- A new element by the builder of its tag, if it has one. -/
def builder? (_ : Factory) (name : String) : Option Element :=
  if Tag.hasBuilder name then some (Element.ofTag name) else none

def assign (element : Element) (items : List Item) : Build Element :=
  if element.content.isSome then throw (.contentMutation element.name)
  else if element.isVoid then throw (.voidElementContent element.name)
  else do
    Build.tell (.assignedContent element.name items.length)
    return { element with content := some items }

theorem result_assign (e : Element) (items : List Item) :
    (assign e items).result =
      if e.content.isSome then .error (.contentMutation e.name)
      else if e.isVoid then .error (.voidElementContent e.name)
      else .ok { e with content := some items } := by
  unfold assign
  by_cases hc : e.content.isSome
  · simp [hc]
  · by_cases hv : e.isVoid
    · simp [hc, hv]
    · simp [hc, hv, Except.map]

/-- Applies a call: the attributes are merged over those of the element, and content that comes
out of the pipeline is assigned. -/
def invoke (factory : Factory) (element : Element) (invocation : Invocation) : Build Element :=
  let processed := factory.pipeline.run invocation
  let merged := { element with attributes := element.attributes.merge processed.attributes }
  match processed.content with
  | some items => assign merged items
  | none => pure merged

theorem result_invoke (factory : Factory) (e : Element) (invocation : Invocation) :
    (factory.invoke e invocation).result =
      match (factory.pipeline.run invocation).content with
      | none => .ok { e with
          attributes := e.attributes.merge (factory.pipeline.run invocation).attributes }
      | some items =>
        if e.content.isSome then .error (.contentMutation e.name)
        else if e.isVoid then .error (.voidElementContent e.name)
        else .ok ⟨e.name, e.attributes.merge (factory.pipeline.run invocation).attributes,
          some items⟩ := by
  unfold invoke
  cases hp : (factory.pipeline.run invocation).content with
  | none => simp only [hp, Build.result_pure]
  | some items =>
    simp only [hp, result_assign]
    rfl

/-- What a call that succeeds comes to. Content is never replaced, and no void element gets any. -/
theorem eq_of_invoke {factory : Factory} {e called : Element} {invocation : Invocation}
    (made : (factory.invoke e invocation).result = .ok called) :
    called = ⟨e.name, e.attributes.merge (factory.pipeline.run invocation).attributes,
      (factory.pipeline.run invocation).content.or e.content⟩ ∧
    ((factory.pipeline.run invocation).content.isSome → e.content = none ∧ ¬ e.isVoid) := by
  rw [result_invoke] at made
  cases hp : (factory.pipeline.run invocation).content with
  | none =>
    rw [hp] at made
    cases made
    exact ⟨rfl, nofun⟩
  | some items =>
    simp only [hp] at made
    split at made
    · cases made
    · rename_i hc
      split at made
      · cases made
      · rename_i hv
        cases made
        exact ⟨rfl, fun _ => ⟨by simpa using hc, hv⟩⟩

def attributes (factory : Factory) (element : Element) (as : List Attribute) : Build Element :=
  factory.invoke element (Invocation.empty.withAttributes as)

def call (factory : Factory) (element : Element) (content : Content) (as : List Attribute) :
    Build Element := do
  factory.invoke element (← (Invocation.empty.withAttributes as).withContent content)

def content (factory : Factory) (element : Element) (content : Content) : Build Element := do
  factory.invoke element (← Invocation.empty.withContent content)

end Factory

end MarkupTree
