import Mathlib.Data.Nat.Find
import MarkupTree.Factory

/-! Calls of one element in turn. What a run of calls comes to is read off the invocations that come
out of the pipeline: the element has the content of the one among them that brings any, and a call is
refused just when it brings content to a void element, or after another has. -/
namespace MarkupTree
namespace Factory

def invokeAll (factory : Factory) (e : Element) (invocations : List Invocation) : Build Element :=
  invocations.foldlM factory.invoke e

/-- The invocations as they come out of the pipeline. -/
def processed (factory : Factory) (invocations : List Invocation) : List Invocation :=
  invocations.map factory.pipeline.run

@[simp] theorem processed_nil (factory : Factory) : factory.processed [] = [] := rfl

@[simp] theorem processed_cons (factory : Factory) (invocation : Invocation)
    (invocations : List Invocation) : factory.processed (invocation :: invocations) =
      factory.pipeline.run invocation :: factory.processed invocations := rfl

theorem processed_take (factory : Factory) (invocations : List Invocation) (i : Nat) :
    factory.processed (invocations.take i) = (factory.processed invocations).take i :=
  List.map_take

theorem getElem?_processed (factory : Factory) (invocations : List Invocation) (i : Nat) :
    (factory.processed invocations)[i]? = invocations[i]?.map factory.pipeline.run :=
  List.getElem?_map

/-- Whether the invocation of this number brings content, be it empty. -/
def Supplies (processed : List Invocation) (i : Nat) : Prop :=
  ∃ p, processed[i]? = some p ∧ p.content.isSome

/-- The call of this number ends in the error, unless a call before it fails. -/
def Refuses (name : String) (processed : List Invocation) (i : Nat) (error : TreeError) : Prop :=
  Supplies processed i ∧
    (Tag.isVoid name ∧ error = .voidElementContent name ∨
      (∃ j < i, Supplies processed j) ∧ error = .contentMutation name)

/-- The attributes of all invocations, each over those of the ones before it. -/
def mergedAttributes (processed : List Invocation) : Attributes :=
  processed.foldl (fun attributes p => attributes.merge p.attributes) Attributes.empty

/-- The element of this name has what the invocations bring, of which one at most brings content. -/
structure Made (name : String) (processed : List Invocation) (e : Element) : Prop where
  name_eq : e.name = name
  attributes_eq : e.attributes = mergedAttributes processed
  contents_eq : processed.filterMap Invocation.content = e.content.toList
  content_of_void : Tag.isVoid name → e.content = none

section Lists

variable {processed : List Invocation} {i : Nat}

theorem supplies_iff_mem : (∃ j, Supplies processed j) ↔ ∃ p ∈ processed, p.content.isSome := by
  simp only [Supplies, List.mem_iff_getElem?]
  constructor
  · rintro ⟨j, p, hp, hc⟩
    exact ⟨p, ⟨j, hp⟩, hc⟩
  · rintro ⟨p, ⟨j, hp⟩, hc⟩
    exact ⟨j, p, hp, hc⟩

theorem supplies_take_iff :
    (∃ j, Supplies (processed.take i) j) ↔ ∃ j < i, Supplies processed j := by
  constructor
  · rintro ⟨j, p, hp, hc⟩
    by_cases hj : j < i
    · exact ⟨j, hj, p, by rwa [List.getElem?_take_of_lt hj] at hp, hc⟩
    · rw [List.getElem?_take_eq_none (Nat.le_of_not_lt hj)] at hp
      cases hp
  · rintro ⟨j, hj, p, hp, hc⟩
    exact ⟨j, p, by rw [List.getElem?_take_of_lt hj, hp], hc⟩

end Lists

theorem Made.content_isSome_iff {name : String} {processed : List Invocation} {e : Element}
    (h : Made name processed e) : e.content.isSome ↔ ∃ j, Supplies processed j := by
  rw [supplies_iff_mem]
  have hl : e.content.isSome ↔ e.content.toList ≠ [] := by cases e.content <;> simp
  rw [hl, ← h.contents_eq, ne_eq, List.filterMap_eq_nil_iff]
  simp [Option.isSome_iff_ne_none]

theorem Made.unique {name : String} {processed : List Invocation} {e e' : Element}
    (h : Made name processed e) (h' : Made name processed e') : e = e' := by
  obtain ⟨n, attributes, content⟩ := e
  obtain ⟨n', attributes', content'⟩ := e'
  have hn : n = n' := h.name_eq.trans h'.name_eq.symm
  have ha : attributes = attributes' := h.attributes_eq.trans h'.attributes_eq.symm
  have hl : content.toList = content'.toList := h.contents_eq.symm.trans h'.contents_eq
  have hc : content = content' := by simpa using congrArg List.head? hl
  rw [hn, ha, hc]

theorem made_ofTag (name : String) : Made name [] (Element.ofTag name) :=
  ⟨rfl, rfl, rfl, fun _ => rfl⟩

section Runs

variable {factory : Factory} {name : String} {processed : List Invocation} {e e' fresh : Element}
  {invocation : Invocation} {invocations : List Invocation} {error : TreeError}

theorem Made.invoke_eq_error_iff (h : Made name processed e) :
    (factory.invoke e invocation).result = .error error ↔
      (factory.pipeline.run invocation).content.isSome ∧
        (Tag.isVoid name ∧ error = .voidElementContent name ∨
          e.content.isSome ∧ error = .contentMutation name) := by
  have hv := h.content_of_void
  rw [result_invoke, Element.isVoid, h.name_eq]
  cases hp : (factory.pipeline.run invocation).content with
  | none => simp
  | some items =>
    by_cases hvoid : Tag.isVoid name
    · simp [hvoid, hv hvoid, eq_comm]
    · by_cases hc : e.content.isSome <;> simp [hvoid, hc, eq_comm]

theorem Made.invoke (h : Made name processed e)
    (hr : (factory.invoke e invocation).result = .ok e') :
    Made name (processed ++ [factory.pipeline.run invocation]) e' := by
  have hm : mergedAttributes (processed ++ [factory.pipeline.run invocation]) =
      e.attributes.merge (factory.pipeline.run invocation).attributes := by
    rw [h.attributes_eq, mergedAttributes, List.foldl_append]
    rfl
  obtain ⟨rfl, hfree⟩ := eq_of_invoke hr
  cases hp : (factory.pipeline.run invocation).content with
  | none => exact ⟨h.name_eq, hm.symm, by simp [hp, h.contents_eq], h.content_of_void⟩
  | some items =>
    obtain ⟨hn, hv⟩ := hfree (by rw [hp]; rfl)
    refine ⟨h.name_eq, hm.symm, by simp [hp, h.contents_eq, hn], fun hvoid => ?_⟩
    exact absurd (by rw [Element.isVoid, h.name_eq, hvoid]) hv

theorem result_invokeAll_append (xs ys : List Invocation) :
    (factory.invokeAll e (xs ++ ys)).result =
      (factory.invokeAll e xs).result.bind fun e => (factory.invokeAll e ys).result := by
  rw [invokeAll, List.foldlM_append, Build.result_bind]
  rfl

theorem result_invokeAll_cons (xs : List Invocation) :
    (factory.invokeAll e (invocation :: xs)).result =
      (factory.invoke e invocation).result.bind fun e => (factory.invokeAll e xs).result := by
  rw [invokeAll, List.foldlM_cons, Build.result_bind]
  rfl

theorem Made.invokeAll (h : Made name processed e)
    (hr : (factory.invokeAll e invocations).result = .ok e') :
    Made name (processed ++ factory.processed invocations) e' := by
  induction invocations generalizing processed e with
  | nil =>
    cases hr
    simpa using h
  | cons invocation invocations ih =>
    rw [result_invokeAll_cons] at hr
    cases hi : (factory.invoke e invocation).result with
    | error error =>
      rw [hi] at hr
      cases hr
    | ok next =>
      rw [hi] at hr
      simpa using ih (h.invoke hi) hr

theorem made_of_invokeAll (hf : (factory.tag name).result = .ok fresh)
    (hr : (factory.invokeAll fresh invocations).result = .ok e) :
    Made name (factory.processed invocations) e := by
  rw [result_tag] at hf
  split at hf
  · cases hf
  · cases hf
    exact (made_ofTag name).invokeAll hr

theorem supplies_processed_iff {i : Nat} (hi : invocations[i]? = some invocation) :
    Supplies (factory.processed invocations) i ↔
      (factory.pipeline.run invocation).content.isSome := by
  simp [Supplies, getElem?_processed, hi]

/-- Whether a call is refused shows before it: in the calls that were applied already. -/
theorem invoke_eq_error_iff_refuses {i : Nat} (hf : (factory.tag name).result = .ok fresh)
    (hi : invocations[i]? = some invocation)
    (hr : (factory.invokeAll fresh (invocations.take i)).result = .ok e) :
    (factory.invoke e invocation).result = .error error ↔
      Refuses name (factory.processed invocations) i error := by
  have hm := made_of_invokeAll hf hr
  rw [hm.invoke_eq_error_iff, hm.content_isSome_iff, processed_take, supplies_take_iff, Refuses,
    supplies_processed_iff hi]

theorem exists_of_not_refuses {i : Nat} (hf : (factory.tag name).result = .ok fresh)
    (h : ∀ j < i, ∀ error, ¬ Refuses name (factory.processed invocations) j error) :
    ∃ e, (factory.invokeAll fresh (invocations.take i)).result = .ok e := by
  induction i with
  | zero => exact ⟨fresh, rfl⟩
  | succ i ih =>
    obtain ⟨e, he⟩ := ih fun j hj => h j (Nat.lt_succ_of_lt hj)
    rw [List.take_add_one]
    cases hi : invocations[i]? with
    | none => exact ⟨e, by simpa using he⟩
    | some invocation =>
      rw [Option.toList_some, result_invokeAll_append, he]
      cases hs : (factory.invoke e invocation).result with
      | error error =>
        exact absurd ((invoke_eq_error_iff_refuses hf hi he).1 hs) (h i (Nat.lt_succ_self i) error)
      | ok next =>
        refine ⟨next, ?_⟩
        change (factory.invokeAll e [invocation]).result = _
        rw [result_invokeAll_cons, hs]
        rfl

theorem result_of_first_refused {i : Nat} (hf : (factory.tag name).result = .ok fresh)
    (hi : Refuses name (factory.processed invocations) i error)
    (h : ∀ j < i, ∀ error, ¬ Refuses name (factory.processed invocations) j error) :
    (factory.invokeAll fresh invocations).result = .error error := by
  obtain ⟨e, he⟩ := exists_of_not_refuses hf h
  obtain ⟨p, hp, -⟩ := hi.1
  rw [getElem?_processed, Option.map_eq_some_iff] at hp
  obtain ⟨invocation, hinv, -⟩ := hp
  obtain ⟨hlt, hget⟩ := List.getElem?_eq_some_iff.1 hinv
  have hsplit : invocations = invocations.take i ++ invocation :: invocations.drop (i + 1) := by
    rw [← hget, ← List.drop_eq_getElem_cons hlt, List.take_append_drop]
  have hs := (invoke_eq_error_iff_refuses hf hinv he).2 hi
  rw [hsplit, result_invokeAll_append, he]
  change (factory.invokeAll e (invocation :: invocations.drop (i + 1))).result = _
  rw [result_invokeAll_cons, hs]
  rfl

theorem exists_first_refused (h : ∃ i error, Refuses name processed i error) :
    ∃ i error, Refuses name processed i error ∧
      ∀ j < i, ∀ other, ¬ Refuses name processed j other := by
  classical
  obtain ⟨error, herror⟩ := Nat.find_spec h
  exact ⟨Nat.find h, error, herror, fun j hj other hother => Nat.find_min h hj ⟨other, hother⟩⟩

theorem invokeAll_eq_error_iff (hf : (factory.tag name).result = .ok fresh) :
    (factory.invokeAll fresh invocations).result = .error error ↔
      ∃ i, Refuses name (factory.processed invocations) i error ∧
        ∀ j < i, ∀ other, ¬ Refuses name (factory.processed invocations) j other := by
  constructor
  · intro h
    by_cases hr : ∃ i error, Refuses name (factory.processed invocations) i error
    · obtain ⟨i, other, hi, hbefore⟩ := exists_first_refused hr
      have ho := result_of_first_refused hf hi hbefore
      rw [h] at ho
      cases ho
      exact ⟨i, hi, hbefore⟩
    · obtain ⟨e, he⟩ := exists_of_not_refuses (i := invocations.length) hf
        fun j _ other hother => hr ⟨j, other, hother⟩
      rw [List.take_length, h] at he
      cases he
  · rintro ⟨i, hi, hbefore⟩
    exact result_of_first_refused hf hi hbefore

theorem invokeAll_eq_ok_iff (hf : (factory.tag name).result = .ok fresh) :
    (factory.invokeAll fresh invocations).result = .ok e ↔
      (∀ i error, ¬ Refuses name (factory.processed invocations) i error) ∧
        Made name (factory.processed invocations) e := by
  constructor
  · intro h
    refine ⟨fun i error hi => ?_, made_of_invokeAll hf h⟩
    obtain ⟨j, other, hj, hbefore⟩ := exists_first_refused ⟨i, error, hi⟩
    have ho := result_of_first_refused hf hj hbefore
    rw [h] at ho
    cases ho
  · rintro ⟨h, hm⟩
    obtain ⟨e', he'⟩ := exists_of_not_refuses (i := invocations.length) hf fun j _ => h j
    rw [List.take_length] at he'
    rw [he', hm.unique (made_of_invokeAll hf he')]

/-- A run of calls on a new element, whatever the stages do. A call that is reached fails just when
it is refused, the run ends in the error of the first call that is refused, and otherwise it ends in
the element that all of the calls make. -/
theorem invokeAll_of_tag (hf : (factory.tag name).result = .ok fresh)
    (invocations : List Invocation) :
    (∀ i invocation e error, invocations[i]? = some invocation →
      (factory.invokeAll fresh (invocations.take i)).result = .ok e →
      ((factory.invoke e invocation).result = .error error ↔
        Refuses name (factory.processed invocations) i error)) ∧
    (∀ error, (factory.invokeAll fresh invocations).result = .error error ↔
      ∃ i, Refuses name (factory.processed invocations) i error ∧
        ∀ j < i, ∀ other, ¬ Refuses name (factory.processed invocations) j other) ∧
    (∀ e, (factory.invokeAll fresh invocations).result = .ok e ↔
      (∀ i error, ¬ Refuses name (factory.processed invocations) i error) ∧
        Made name (factory.processed invocations) e) :=
  ⟨fun _ _ _ _ hi hr => invoke_eq_error_iff_refuses hf hi hr,
    fun _ => invokeAll_eq_error_iff hf, fun _ => invokeAll_eq_ok_iff hf⟩

end Runs

/-- Content that comes to nothing is content: the call behind it is refused. -/
theorem invokeAll_empty_then_text :
    (standard.tag "p").result = .ok (Element.ofTag "p") ∧
    (standard.invokeAll (Element.ofTag "p")
      [⟨⟨[Attribute.bare "id"]⟩, none⟩, ⟨Attributes.empty, some []⟩,
        ⟨Attributes.empty, some [.text "a"]⟩]).result = .error (.contentMutation "p") := by
  have hf : (standard.tag "p").result = .ok (Element.ofTag "p") := by
    rw [result_tag]
    rfl
  have hv : ¬ Tag.isVoid "p" := by decide
  refine ⟨hf, ((invokeAll_of_tag hf _).2.1 _).2 ⟨2, ?_, ?_⟩⟩
  · exact ⟨⟨_, rfl, rfl⟩, .inr ⟨⟨1, by decide, _, rfl, rfl⟩, rfl⟩⟩
  rintro j hj other ⟨⟨p, hp, hc⟩, ⟨hvoid, -⟩ | ⟨⟨k, hk, q, hq, hqc⟩, -⟩⟩
  · exact hv hvoid
  · have hk0 : k = 0 := by omega
    subst hk0
    cases hq
    cases hqc

end Factory
end MarkupTree
