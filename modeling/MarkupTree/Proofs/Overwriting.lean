import MarkupTree.Proofs.Building
import MarkupTree.Proofs.CallForms
import MarkupTree.Proofs.Renaming

/-! Attributes that are given more than once, in one call or in several. The names of a call are brought
together three times: as they are, when their marks have been taken off, and in kebab case. Each time a name
keeps the place where it first stood and takes the value that stands furthest behind. So among several
names for one key, it is not the attribute written last that stays, but one of the name that came up last;
and where no two names come to one key, a call is as good as several. -/
namespace MarkupTree

open Attributes

namespace Pipeline

/-- The key that an attribute of this name has behind the stock stages. -/
def standardKey (name : String) : String := newKey kebabHypermedia? (newKey Keyword.unmark? name)

theorem attributes_run_standard (attributes : Attributes) (content : Option (List Item)) :
    (standard.run ⟨attributes, content⟩).attributes =
      (attributes.rename Keyword.unmark?).rename kebabHypermedia? := rfl

/-- The attribute of a call whose value stays under a key. Of the unmarked spellings that come to the key
it has the one that came up last, of the names that come to this spelling the one that came up last, and
of the attributes of this name it is the last. -/
def winner? (as : List Attribute) (key : String) : Option Attribute := do
  let spelling ← latest (newKey kebabHypermedia?) key
    (as.map (newKey Keyword.unmark? ∘ Attribute.key)).eraseDups
  let name ← latest (newKey Keyword.unmark?) spelling (as.map Attribute.key).eraseDups
  latest Attribute.key name as

variable {as : List Attribute} {a : Attribute} {key : String}

theorem winner?_eq_some_iff :
    winner? as key = some a ↔
      latest (newKey kebabHypermedia?) key
          (as.map (newKey Keyword.unmark? ∘ Attribute.key)).eraseDups =
        some (newKey Keyword.unmark? a.key) ∧
      latest (newKey Keyword.unmark?) (newKey Keyword.unmark? a.key)
          (as.map Attribute.key).eraseDups = some a.key ∧
      latest Attribute.key a.key as = some a := by
  simp only [winner?, Option.bind_eq_bind, Option.bind_eq_some_iff]
  constructor
  · rintro ⟨spelling, hs, name, hn, ha⟩
    obtain ⟨-, rfl⟩ := mem_of_latest ha
    obtain ⟨-, rfl⟩ := mem_of_latest hn
    exact ⟨hs, hn, ha⟩
  · rintro ⟨hs, hn, ha⟩
    exact ⟨_, hs, _, hn, ha⟩

theorem mem_of_winner? (h : winner? as key = some a) : a ∈ as ∧ standardKey a.key = key := by
  obtain ⟨hs, -, ha⟩ := winner?_eq_some_iff.1 h
  exact ⟨(mem_of_latest ha).1, (mem_of_latest hs).2⟩

theorem keys_run_standard (as : List Attribute) (content : Option (List Item)) :
    (standard.run ⟨ofList as, content⟩).attributes.keys =
      (as.map (standardKey ∘ Attribute.key)).eraseDups := by
  rw [attributes_run_standard, keys_rename, keys_rename, keys_ofList, eraseDups_map_eraseDups,
    List.map_map, eraseDups_map_eraseDups, List.map_map]
  rfl

theorem get?_run_standard (as : List Attribute) (content : Option (List Item)) (key : String) :
    (standard.run ⟨ofList as, content⟩).attributes.get? key =
      (winner? as key).map Attribute.value := by
  have hk : ((ofList as).rename Keyword.unmark?).keys =
      (as.map (newKey Keyword.unmark? ∘ Attribute.key)).eraseDups := by
    rw [keys_rename, keys_ofList, eraseDups_map_eraseDups, List.map_map]
  have hg : ((ofList as).rename Keyword.unmark?).get? = fun spelling =>
      (latest (newKey Keyword.unmark?) spelling (as.map Attribute.key).eraseDups).bind fun name =>
        (latest Attribute.key name as).map Attribute.value := by
    funext spelling
    have hl : (ofList as).get? = fun name => (latest Attribute.key name as).map Attribute.value :=
      funext (get?_ofList as)
    rw [get?_rename_eq_bind (nodup_keys_ofList as), keys_ofList, hl]
  rw [attributes_run_standard, get?_rename_eq_bind (nodup_keys_rename ..), hk, hg]
  simp only [winner?, Option.bind_eq_bind, Option.map_bind, Function.comp_def]

/-- A key has an attribute that stays just when an attribute of the call comes to it. -/
theorem winner?_eq_none_iff (as : List Attribute) (key : String) :
    winner? as key = none ↔ ∀ a ∈ as, standardKey a.key ≠ key := by
  have hg := get?_run_standard as none key
  have hn := get?_eq_none_iff (standard.run ⟨ofList as, none⟩).attributes key
  rw [hg, Option.map_eq_none_iff, keys_run_standard] at hn
  simpa using hn

theorem winner?_of_one_name
    (h : ∀ a ∈ as, ∀ b ∈ as,
      standardKey a.key = key → standardKey b.key = key → a.key = b.key) :
    winner? as key = latest (standardKey ∘ Attribute.key) key as := by
  cases hw : winner? as key with
  | none =>
    exact (latest_eq_none_iff.2 ((winner?_eq_none_iff as key).1 hw)).symm
  | some a =>
    obtain ⟨ha, hk⟩ := mem_of_winner? hw
    obtain ⟨-, -, hl⟩ := winner?_eq_some_iff.1 hw
    rw [← hl, latest, latest]
    congr 1
    apply List.filter_congr
    intro b hb
    rw [Bool.eq_iff_iff, beq_iff_eq, beq_iff_eq, Function.comp_apply]
    constructor
    · intro he
      rw [he, hk]
    · exact fun he => h b hb a ha he hk

/-- Where no two names come to one key, the attributes of a call might as well be inserted one by one. -/
theorem merge_run_standard (attributes : Attributes) (content : Option (List Item))
    (h : KeepsApart standardKey (as.map Attribute.key)) :
    attributes.merge (standard.run ⟨ofList as, content⟩).attributes =
      attributes.insertAll (as.map (Attribute.mapKey standardKey)) := by
  have hs : KeepsApart (newKey (some ∘ standardKey)) (ofList as).keys := by
    refine KeepsApart.mono h fun key hk => ?_
    rwa [keys_ofList, List.mem_eraseDups] at hk
  have hu : KeepsApart (newKey Keyword.unmark?) (ofList as).keys := fun a ha b hb he =>
    hs a ha b hb (congrArg (newKey kebabHypermedia?) he)
  have hn := nodup_keys_ofList as
  have hr : ((ofList as).rename Keyword.unmark?).rename kebabHypermedia? =
      (ofList as).rename (some ∘ standardKey) := rename_rename hn hu fun _ _ => rfl
  rw [attributes_run_standard, hr, rename_of_keepsApart hn hs]
  change attributes.insertAll ((ofList as).entries.map (Attribute.mapKey standardKey)) = _
  rw [map_ofList h]
  exact merge_ofList ..

end Pipeline

/-- The invocation was given these attributes, in their order, and any content in between. -/
inductive Invocation.Given : List Attribute → Invocation → Prop where
  | empty : Given [] Invocation.empty
  | withAttribute {as : List Attribute} {invocation : Invocation} (before : Given as invocation)
      (a : Attribute) : Given (as ++ [a]) (invocation.withAttribute a)
  | withAttributes {as : List Attribute} {invocation : Invocation} (before : Given as invocation)
      (more : List Attribute) : Given (as ++ more) (invocation.withAttributes more)
  | withContent {as : List Attribute} {invocation later : Invocation} {content : Content}
      (before : Given as invocation) (made : (invocation.withContent content).result = .ok later) :
      Given as later

theorem Invocation.Given.attributes_eq {as : List Attribute} {invocation : Invocation}
    (h : Invocation.Given as invocation) : invocation.attributes = ofList as := by
  induction h with
  | empty => rfl
  | withAttribute _ a ih =>
    rw [ofList_append, ← ih]
    rfl
  | withAttributes _ more ih =>
    rw [ofList_append, ← ih]
    rfl
  | @withContent _ invocation _ content _ made ih =>
    rw [Invocation.withContent, Build.result_bind] at made
    cases hp : content.pull.result with
    | error error =>
      rw [hp] at made
      cases made
    | ok items =>
      rw [hp] at made
      cases made
      exact ih

namespace Factory

/-- One call of the element with these attributes, in any of its forms, comes to the other element.
-/
inductive CallsTo (factory : Factory) (e : Element) (as : List Attribute) (called : Element) :
    Prop where
  | attributes (made : (factory.attributes e as).result = .ok called)
  | call {content : Content} (made : (factory.call e content as).result = .ok called)
  | invoke {invocation : Invocation} (given : Invocation.Given as invocation)
      (made : (factory.invoke e invocation).result = .ok called)
  | template {scope : Template.Scope} {arguments : List Template.Argument}
      (given : (Template.Argument.attributes factory (scope.within e) arguments).run.value = .ok as)
      (made : (Template.Call.expand factory scope ⟨arguments⟩ e).run.value = .ok (.ok called))

variable {factory : Factory} {e called : Element} {as : List Attribute} {items : List Item}

theorem attributes_of_assign (made : (assign e items).result = .ok called) :
    called.attributes = e.attributes := by
  rw [result_assign] at made
  split at made
  · cases made
  · split at made
    · cases made
    · cases made
      rfl

section OnlyRenames

variable (h : factory.pipeline.OnlyRenames)
include h

theorem attributes_of_attributes (made : (factory.attributes e as).result = .ok called) :
    called.attributes = (factory.adorned e as).attributes := by
  rw [attributes_eq_pure h, Build.result_pure] at made
  cases made
  rfl

theorem attributes_of_call {content : Content}
    (made : (factory.call e content as).result = .ok called) :
    called.attributes = (factory.adorned e as).attributes := by
  rw [call_eq_assign h, Build.result_bind] at made
  cases hp : content.pull.result with
  | error error =>
    rw [hp] at made
    cases made
  | ok items =>
    rw [hp] at made
    exact attributes_of_assign made

/-- Whatever the form of the call, the attributes are those of the call with attributes only. -/
theorem CallsTo.attributes_eq (hc : factory.CallsTo e as called) :
    called.attributes = (factory.adorned e as).attributes := by
  cases hc with
  | «attributes» made => exact attributes_of_attributes h made
  | call made => exact attributes_of_call h made
  | @invoke invocation given made =>
    obtain ⟨attributes, content⟩ := invocation
    have ha : attributes = ofList as := given.attributes_eq
    subst ha
    rw [ofList, invoke_of_onlyRenames h] at made
    cases content with
    | none =>
      cases made
      rfl
    | some items => exact attributes_of_assign made
  | @template scope arguments given made =>
    have he : (Template.Call.expand factory scope ⟨arguments⟩ e).Ensures fun result =>
        result = .ok called → called.attributes = (factory.adorned e as).attributes := by
      rw [Template.Call.expand]
      refine Template.Expansion.Ensures.bind (p := (· = as)) (fun a ha => ?_) ?_
      · exact Except.ok.inj (ha.symm.trans given)
      · rintro _ rfl
        refine .of_any fun contents => ?_
        rintro _ ⟨⟩ hr
        rw [Template.applyCall_eq_directCall, Template.directCall] at hr
        split at hr
        · exact attributes_of_attributes h hr
        · exact attributes_of_call h hr
    exact he _ made rfl

end OnlyRenames

/-- What becomes of the attributes of a call, whatever its form. The keys of the element stay where they
are, and new ones follow in the order in which the attributes first come to them. A key to which none of
the attributes comes keeps its value, and any other has that of an attribute which comes to it. This is
the one written last if all that come to the key have one name. In general the one written last stays just
when its unmarked spelling came up after all others of the key, and its name after all others of the
spelling. -/
theorem attributes_after_call (e : Element) (as : List Attribute) :
    (∃ called, (standard.attributes e as).result = .ok called) ∧
    ∀ called, standard.CallsTo e as called →
      called.attributes.keys = e.attributes.keys ++
        ((as.map (Pipeline.standardKey ∘ Attribute.key)).removeAll e.attributes.keys).eraseDups ∧
      ∀ key,
        called.attributes.get? key =
          ((Pipeline.winner? as key).map Attribute.value).or (e.attributes.get? key) ∧
        (Pipeline.winner? as key = none ↔ ∀ a ∈ as, Pipeline.standardKey a.key ≠ key) ∧
        (∀ a, Pipeline.winner? as key = some a → a ∈ as ∧ Pipeline.standardKey a.key = key) ∧
        ((∀ a ∈ as, ∀ b ∈ as, Pipeline.standardKey a.key = key →
            Pipeline.standardKey b.key = key → a.key = b.key) →
          Pipeline.winner? as key = latest (Pipeline.standardKey ∘ Attribute.key) key as) ∧
        ∀ a, latest (Pipeline.standardKey ∘ Attribute.key) key as = some a →
          (Pipeline.winner? as key = some a ↔
            latest (newKey Pipeline.kebabHypermedia?) key
                (as.map (newKey Keyword.unmark? ∘ Attribute.key)).eraseDups =
              some (newKey Keyword.unmark? a.key) ∧
            latest (newKey Keyword.unmark?) (newKey Keyword.unmark? a.key)
              (as.map Attribute.key).eraseDups = some a.key) := by
  have hr : standard.pipeline.OnlyRenames := Pipeline.onlyRenames_standard
  refine ⟨⟨_, congrArg Build.result (attributes_eq_pure hr)⟩, fun called hc => ?_⟩
  have hm : called.attributes =
      e.attributes.merge (Pipeline.standard.run ⟨ofList as, none⟩).attributes :=
    CallsTo.attributes_eq hr hc
  have hn : (Pipeline.standard.run ⟨ofList as, none⟩).attributes.keys.Nodup := nodup_keys_rename ..
  refine ⟨?_, fun key => ⟨?_, Pipeline.winner?_eq_none_iff as key, fun a => Pipeline.mem_of_winner?,
    Pipeline.winner?_of_one_name, fun a hl => ?_⟩⟩
  · have hk := Pipeline.keys_run_standard as none
    rw [keys] at hk
    rw [hm, merge, keys_insertAll, hk, List.removeAll, filter_eraseDups, eraseDups_eraseDups]
    rfl
  · rw [hm, get?_merge _ hn, Pipeline.get?_run_standard]
  · rw [Pipeline.winner?_eq_some_iff, latest_of_latest_comp hl]
    simp

def twoSpellings : List Attribute :=
  [⟨"hxGet", some (.string "1")⟩, Attribute.bare "r#type", ⟨"hx_get", some (.string "2")⟩]

theorem attributes_after_template_call :
    standard.CallsTo ⟨"p", ⟨[Attribute.bare "type"]⟩, none⟩ twoSpellings
      ⟨"p", ⟨[Attribute.bare "type", ⟨"hx-get", some (.string "2")⟩]⟩, none⟩ ∧
    latest (Pipeline.standardKey ∘ Attribute.key) "hx-get" twoSpellings =
      some ⟨"hx_get", some (.string "2")⟩ ∧
    Pipeline.winner? twoSpellings "hx-get" = some ⟨"hx_get", some (.string "2")⟩ ∧
    Pipeline.winner? twoSpellings "type" =
      latest (Pipeline.standardKey ∘ Attribute.key) "type" twoSpellings := by
  have hc : standard.CallsTo ⟨"p", ⟨[Attribute.bare "type"]⟩, none⟩ twoSpellings
      ⟨"p", ⟨[Attribute.bare "type", ⟨"hx-get", some (.string "2")⟩]⟩, none⟩ := by
    refine @CallsTo.template _ _ _ _ (Template.Scope.ofVariables fun _ => none)
      [.attribute ⟨"hxGet", false⟩ (some (.literal (.text .text "1" ""))), .bare ⟨"type", true⟩,
        .attribute ⟨"hx_get", false⟩ (some (.literal (.text .text "2" "")))] ?_ ?_
    · simp only [Template.Argument.attributes, Template.Expression.evaluate, pure_bind]
      rfl
    · simp only [Template.Call.expand, Template.Argument.attributes, Template.Argument.contents,
        Template.Expression.evaluate, pure_bind]
      rfl
  have hl : latest (Pipeline.standardKey ∘ Attribute.key) "hx-get" twoSpellings =
      some ⟨"hx_get", some (.string "2")⟩ := by decide
  obtain ⟨-, happly⟩ := attributes_after_call ⟨"p", ⟨[Attribute.bare "type"]⟩, none⟩ twoSpellings
  obtain ⟨-, hkeys⟩ := happly _ hc
  refine ⟨hc, hl, ?_, ?_⟩
  · obtain ⟨-, -, -, -, hlast⟩ := hkeys "hx-get"
    exact (hlast _ hl).2 (by decide)
  · obtain ⟨-, -, -, hone, -⟩ := hkeys "type"
    exact hone (by decide)

def threeWrites : List Attribute :=
  [⟨"hxGet", some (.string "1")⟩, ⟨"hx_get", some (.string "2")⟩, ⟨"hxGet", some (.string "3")⟩]

/-- The last of the three is lost, where they are given in one call. One by one, it stays. -/
theorem last_of_three_writes_is_lost :
    (standard.attributes (Element.ofTag "p") threeWrites).result =
      .ok ⟨"p", ⟨[⟨"hx-get", some (.string "2")⟩]⟩, none⟩ ∧
    latest (Pipeline.standardKey ∘ Attribute.key) "hx-get" threeWrites =
      some ⟨"hxGet", some (.string "3")⟩ ∧
    (threeWrites.foldlM (fun e a => standard.attributes e [a]) (Element.ofTag "p")).result =
      .ok ⟨"p", ⟨[⟨"hx-get", some (.string "3")⟩]⟩, none⟩ := by
  refine ⟨?_, ?_, ?_⟩
  · rfl
  · decide
  · rfl

/-- Where no two names come to one key, it makes no difference to an element over how many calls its
attributes are spread: they come to the keys that it has and behind them, one after the other. -/
theorem attributes_append (e : Element) (as bs : List Attribute)
    (h : KeepsApart Pipeline.standardKey ((as ++ bs).map Attribute.key)) :
    standard.attributes e (as ++ bs) =
      (standard.attributes e as >>= fun called => standard.attributes called bs) ∧
    (standard.attributes e (as ++ bs)).result = .ok { e with
      attributes := e.attributes.insertAll
        ((as ++ bs).map (Attribute.mapKey Pipeline.standardKey)) } := by
  have hr : standard.pipeline.OnlyRenames := Pipeline.onlyRenames_standard
  have adorned_eq (e : Element) {as : List Attribute}
      (h : KeepsApart Pipeline.standardKey (as.map Attribute.key)) :
      standard.adorned e as = { e with
        attributes := e.attributes.insertAll (as.map (Attribute.mapKey Pipeline.standardKey)) } :=
    congrArg (fun attributes => { e with attributes })
      (Pipeline.merge_run_standard e.attributes none h)
  have ha : KeepsApart Pipeline.standardKey (as.map Attribute.key) :=
    h.mono fun key hk => by simp [List.map_append, hk]
  have hb : KeepsApart Pipeline.standardKey (bs.map Attribute.key) :=
    h.mono fun key hk => by simp [List.map_append, hk]
  rw [attributes_eq_pure hr, attributes_eq_pure hr, pure_bind, attributes_eq_pure hr, adorned_eq e h,
    adorned_eq e ha, adorned_eq _ hb, List.map_append, insertAll_append]
  exact ⟨rfl, rfl⟩

/-- Names that come again, in one call and in the next, and one that the element has. -/
theorem attributes_append_of_repeated :
    KeepsApart Pipeline.standardKey (([⟨"hxGet", some (.int 1)⟩, Attribute.bare "id",
      ⟨"hxGet", some (.int 2)⟩] ++ [⟨"id", some (.int 3)⟩, Attribute.bare "class"]).map
        Attribute.key) ∧
    standard.attributes ⟨"p", ⟨[Attribute.bare "class"]⟩, some []⟩ ([⟨"hxGet", some (.int 1)⟩,
        Attribute.bare "id", ⟨"hxGet", some (.int 2)⟩] ++
          [⟨"id", some (.int 3)⟩, Attribute.bare "class"]) =
      (standard.attributes ⟨"p", ⟨[Attribute.bare "class"]⟩, some []⟩ [⟨"hxGet", some (.int 1)⟩,
        Attribute.bare "id", ⟨"hxGet", some (.int 2)⟩] >>= fun called =>
          standard.attributes called [⟨"id", some (.int 3)⟩, Attribute.bare "class"]) := by
  have h : KeepsApart Pipeline.standardKey (([⟨"hxGet", some (.int 1)⟩, Attribute.bare "id",
      ⟨"hxGet", some (.int 2)⟩] ++ [⟨"id", some (.int 3)⟩, Attribute.bare "class"]).map
        Attribute.key) := by
    unfold KeepsApart
    decide
  exact ⟨h, (attributes_append _ _ _ h).1⟩

end Factory

end MarkupTree
