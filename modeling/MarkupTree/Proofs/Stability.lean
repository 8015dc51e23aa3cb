import MarkupTree.Proofs.Kebab
import MarkupTree.Proofs.Overwriting

/-! What the stock stages have made, they leave alone. A name in kebab case stays as it is, so the keys of
the hypermedia family are in kebab case on every element of a tree, however many calls it was made by. -/
namespace MarkupTree

namespace Text

section Names

variable {c d : Char} {cs : List Char}

theorem plain_toLower_of_isCapital (h : isCapital c) : Plain c.toLower :=
  of_ascii (p := fun c => isCapital c → Plain c.toLower) (by decide +kernel)
    (toNat_lt_of_isCapital h) h

theorem plain_hyphen : Plain '-' := by decide +kernel

theorem plain_of_mem_kebabFirst (h : d ∈ kebabFirst c) : Plain d := by
  unfold kebabFirst at h
  split at h
  · rw [List.mem_singleton.1 h]
    exact plain_hyphen
  · rename_i hu
    split at h
    · rename_i hc
      rw [List.mem_singleton.1 h]
      exact plain_toLower_of_isCapital hc
    · exact plain_of_mem_lowercase hu h

theorem plain_of_mem_kebabLater (h : d ∈ kebabLater c) : Plain d := by
  by_cases hc : isCapital c
  · rw [kebabLater_of_isCapital hc, List.mem_cons, List.mem_singleton] at h
    rcases h with rfl | rfl
    · exact plain_hyphen
    · exact plain_toLower_of_isCapital hc
  · have he : kebabLater c = kebabFirst c := by rw [kebabLater, kebabFirst, if_neg hc, if_neg hc]
    rw [he] at h
    exact plain_of_mem_kebabFirst h

theorem plain_of_mem_kebabChars (h : d ∈ kebabChars cs) : Plain d := by
  cases cs with
  | nil => cases h
  | cons c cs =>
    rw [kebabChars, List.mem_append, List.mem_flatMap] at h
    rcases h with h | ⟨e, -, h⟩
    · exact plain_of_mem_kebabFirst h
    · exact plain_of_mem_kebabLater h

theorem kebabChars_of_plain (h : ∀ c ∈ cs, Plain c) : kebabChars cs = cs := by
  cases cs with
  | nil => rfl
  | cons c cs =>
    rw [kebabChars, (h c List.mem_cons_self).kebabFirst,
      flatMap_kebabLater_of_plain fun d hd => h d (List.mem_cons_of_mem c hd), List.singleton_append]

/-- The name is in kebab case as far as underscores and capitals go, and kebab case leaves it alone. -/
structure InKebabCase (name : String) : Prop where
  kebabCase_eq : kebabCase name = name
  no_underscore : '_' ∉ name.toList
  no_capital : ∀ c ∈ name.toList, ¬ isCapital c

theorem inKebabCase_kebabCase (name : String) : InKebabCase (kebabCase name) := by
  have hl : (kebabCase name).toList = kebabChars name.toList := String.toList_ofList
  have hp : ∀ c ∈ (kebabCase name).toList, Plain c := fun c hc =>
    plain_of_mem_kebabChars (hl ▸ hc)
  refine ⟨?_, fun hu => (hp _ hu).ne_underscore rfl, fun c hc => (hp c hc).not_capital⟩
  rw [kebabCase, kebabChars_of_plain hp, String.ofList_toList]

end Names

end Text

namespace Keyword

/-- The name begins with the mark of a raw name. -/
def Marked (name : String) : Prop := ['r', '#'] <+: name.toList

instance : DecidablePred Marked := fun name =>
  inferInstanceAs (Decidable (['r', '#'] <+: name.toList))

variable {name : String}

/-- What may come off a name: a raw mark, the underscore behind a keyword, or nothing. -/
theorem unmark?_cases (name : String) :
    (∃ rest, name.toList = 'r' :: '#' :: rest ∧ unmark? name = some (String.ofList rest)) ∨
    (∃ word ∈ all, name.toList = word.toList ++ ['_'] ∧ unmark? name = some word) ∨
    unmark? name = none := by
  unfold unmark?
  split
  · rename_i rest h
    exact .inl ⟨rest, h, rfl⟩
  · right
    split
    · rename_i hl
      obtain ⟨cs, hcs⟩ := List.getLast?_eq_some_iff.1 hl
      by_cases hw : all.contains (String.ofList name.toList.dropLast)
      · refine .inl ⟨_, List.contains_iff_mem.1 hw, ?_, if_pos hw⟩
        rw [String.toList_ofList, hcs, List.dropLast_concat]
      · exact .inr (if_neg hw)
    · exact .inr rfl

theorem settled_of_mem_all : ∀ word ∈ all, ¬ Marked word ∧ unmark? word = none := by decide +kernel

/-- Without a raw mark, a name whose mark has come off has no other. -/
theorem settled_newKey (hm : ¬ Marked name) :
    ¬ Marked (Attributes.newKey unmark? name) ∧
      unmark? (Attributes.newKey unmark? name) = none := by
  rw [Attributes.newKey]
  rcases unmark?_cases name with ⟨rest, h, -⟩ | ⟨word, hw, -, h⟩ | h
  · exact absurd ⟨rest, h.symm⟩ hm
  · rw [h]
    exact settled_of_mem_all word hw
  · rw [h]
    exact ⟨hm, h⟩

end Keyword

namespace Pipeline

open Attributes

variable {key name : String}

theorem inKebabCase_newKey (h : IsHypermedia (newKey kebabHypermedia? key)) :
    Text.InKebabCase (newKey kebabHypermedia? key) := by
  by_cases hk : IsHypermedia key
  · rw [newKey_of_isHypermedia hk]
    exact Text.inKebabCase_kebabCase key
  · rw [newKey_of_not_isHypermedia hk] at h
    exact absurd h hk

theorem newKey_newKey_kebab (key : String) :
    newKey kebabHypermedia? (newKey kebabHypermedia? key) = newKey kebabHypermedia? key := by
  by_cases h : IsHypermedia (newKey kebabHypermedia? key)
  · rw [newKey_of_isHypermedia h, (inKebabCase_newKey h).kebabCase_eq]
  · exact newKey_of_not_isHypermedia h

/-- No mark comes off a name of the family. -/
theorem newKey_unmark_of_isHypermedia (h : IsHypermedia name) : newKey Keyword.unmark? name = name := by
  have hwords : ∀ word ∈ Keyword.all, ¬ ['h', 'x'] <+: word.toList ++ ['_'] := by decide +kernel
  rcases Keyword.unmark?_cases name with ⟨rest, hr, -⟩ | ⟨word, hw, hl, -⟩ | hu
  · obtain ⟨cs, hcs⟩ := isHypermedia_iff.1 h
    rw [hcs] at hr
    cases hr
  · rw [IsHypermedia, hl] at h
    exact absurd h (hwords word hw)
  · rw [newKey, hu, Option.getD_none]

/-- A key that the stock stages have made is left alone by both of them. -/
theorem newKey_standardKey (hm : ¬ Keyword.Marked name) :
    newKey Keyword.unmark? (standardKey name) = standardKey name ∧
      newKey kebabHypermedia? (standardKey name) = standardKey name := by
  refine ⟨?_, newKey_newKey_kebab _⟩
  rw [standardKey]
  by_cases h : IsHypermedia (newKey Keyword.unmark? name)
  · rw [newKey_of_isHypermedia h]
    exact newKey_unmark_of_isHypermedia h.kebabCase
  · have hn := (Keyword.settled_newKey hm).2
    rw [newKey_of_not_isHypermedia h, newKey, hn, Option.getD_none]

variable {attributes : Attributes} {invocation : Invocation}

theorem mem_keys_kebab (h : key ∈ (attributes.rename kebabHypermedia?).keys) :
    ∃ old ∈ attributes.keys, newKey kebabHypermedia? old = key := by
  rwa [keys_rename, List.mem_eraseDups, List.mem_map] at h

theorem mem_keys_standard
    (h : key ∈ ((attributes.rename Keyword.unmark?).rename kebabHypermedia?).keys) :
    ∃ name ∈ attributes.keys, standardKey name = key := by
  obtain ⟨old, ho, rfl⟩ := mem_keys_kebab h
  rw [keys_rename, List.mem_eraseDups, List.mem_map] at ho
  obtain ⟨name, hn, rfl⟩ := ho
  exact ⟨name, hn, rfl⟩

theorem kebabAttributes_kebabAttributes (invocation : Invocation) :
    kebabAttributes (kebabAttributes invocation) = kebabAttributes invocation := by
  have hr : (invocation.attributes.rename kebabHypermedia?).rename kebabHypermedia? =
      invocation.attributes.rename kebabHypermedia? := by
    refine rename_of_fixed (nodup_keys_rename ..) fun key hk => ?_
    obtain ⟨old, -, rfl⟩ := mem_keys_kebab hk
    exact newKey_newKey_kebab old
  exact congrArg (Invocation.mk · invocation.content) hr

theorem run_run_standard (h : ∀ key ∈ invocation.attributes.keys, ¬ Keyword.Marked key) :
    standard.run (standard.run invocation) = standard.run invocation := by
  have hfixed : ∀ key ∈ (standard.run invocation).attributes.keys,
      newKey Keyword.unmark? key = key ∧ newKey kebabHypermedia? key = key := by
    intro key hk
    obtain ⟨name, hn, rfl⟩ := mem_keys_standard hk
    exact newKey_standardKey (h name hn)
  have hn : (standard.run invocation).attributes.keys.Nodup := nodup_keys_rename ..
  have hr : ((standard.run invocation).attributes.rename Keyword.unmark?).rename kebabHypermedia? =
      (standard.run invocation).attributes := by
    rw [rename_of_fixed hn fun key hk => (hfixed key hk).1,
      rename_of_fixed hn fun key hk => (hfixed key hk).2]
  exact congrArg (Invocation.mk · invocation.content) hr

end Pipeline

namespace Element

/-- The elements that one factory makes: those of a tag or a builder, and those that calls come to, as long
as the elements in the content of the calls have been made by it too. -/
inductive BuiltBy (factory : Factory) : Element → Prop where
  | tag {name : String} {e : Element} (made : (factory.tag name).result = .ok e) : BuiltBy factory e
  | builder {name : String} {e : Element} (made : factory.builder? name = some e) : BuiltBy factory e
  | invoke {e called : Element} {invocation : Invocation} (before : BuiltBy factory e)
      (inside : ∀ child, .element child ∈ (factory.pipeline.run invocation).content.getD [] →
        BuiltBy factory child)
      (made : (factory.invoke e invocation).result = .ok called) : BuiltBy factory called

/-- The keys of the hypermedia family are in kebab case. -/
def KeysSettled (e : Element) : Prop :=
  ∀ key ∈ e.attributes.keys, Pipeline.IsHypermedia key → Text.InKebabCase key

theorem everywhere_keysSettled_ofTag (name : String) : (ofTag name).Everywhere KeysSettled :=
  .intro _ nofun nofun

theorem KeysSettled.invoke {e called : Element} {invocation : Invocation} (h : e.KeysSettled)
    (made : (Factory.standard.invoke e invocation).result = .ok called) : called.KeysSettled := by
  obtain ⟨rfl, -⟩ := Factory.eq_of_invoke made
  intro key hk hf
  rcases Attributes.mem_keys_merge.1 hk with hk | hk
  · exact h key hk hf
  · obtain ⟨old, -, rfl⟩ := Pipeline.mem_keys_kebab hk
    exact Pipeline.inKebabCase_newKey hf

theorem BuiltBy.everywhere_keysSettled {e : Element} (h : e.BuiltBy Factory.standard) :
    e.Everywhere KeysSettled := by
  induction h with
  | tag made =>
    rw [Factory.result_tag] at made
    split at made
    · cases made
    · cases made
      exact everywhere_keysSettled_ofTag _
  | builder made =>
    unfold Factory.builder? at made
    split at made
    · cases made
      exact everywhere_keysSettled_ofTag _
    · cases made
  | invoke _ _ made ih inside => exact ih.invoke inside made (ih.here.invoke made)

/-- The stock stages leave content as it is, so a call brings in what its invocation holds. -/
theorem maintains_builtBy : Factory.standard.Maintains (BuiltBy Factory.standard) where
  tag made := .tag made
  invoke before inside made := .invoke before inside made

end Element

/-- What has been normalized stays as it is. Kebab case changes nothing in a name that it has made, and so
does its stage in a call. Both stock stages together change nothing that they have made, unless a raw mark
stood before another mark. And in a tree of the stock factory, however it was built, all keys of the
hypermedia family are in kebab case. -/
theorem normalization_is_stable :
    (∀ name, Text.kebabCase (Text.kebabCase name) = Text.kebabCase name) ∧
    (∀ invocation, Pipeline.kebabAttributes (Pipeline.kebabAttributes invocation) =
      Pipeline.kebabAttributes invocation) ∧
    (∀ invocation : Invocation, (∀ key ∈ invocation.attributes.keys, ¬ Keyword.Marked key) →
      Pipeline.standard.run (Pipeline.standard.run invocation) = Pipeline.standard.run invocation) ∧
    (∀ e : Element, e.BuiltBy Factory.standard → e.Everywhere fun node =>
      ∀ key ∈ node.attributes.keys, Pipeline.IsHypermedia key →
        Text.kebabCase key = key ∧ '_' ∉ key.toList ∧ ∀ c ∈ key.toList, ¬ Text.isCapital c) ∧
    (∀ (e : Element) as called, e.BuiltBy Factory.standard →
      (Factory.standard.attributes e as).result = .ok called → called.BuiltBy Factory.standard) ∧
    (∀ (e : Element) (content : Content) called, e.BuiltBy Factory.standard →
      content.Inside (Element.BuiltBy Factory.standard) →
      (Factory.standard.content e content).result = .ok called → called.BuiltBy Factory.standard) ∧
    (∀ (e : Element) (content : Content) as called, e.BuiltBy Factory.standard →
      content.Inside (Element.BuiltBy Factory.standard) →
      (Factory.standard.call e content as).result = .ok called → called.BuiltBy Factory.standard) ∧
    ∀ (scope : Template.Scope) (source : Template.Source) (e : Element),
      scope.Inside (Element.BuiltBy Factory.standard) →
      (source.expand Factory.standard scope).run.value = .ok (.ok e) → e.BuiltBy Factory.standard := by
  have hf : Factory.standard.Maintains (Element.BuiltBy Factory.standard) := Element.maintains_builtBy
  refine ⟨fun name => (Text.inKebabCase_kebabCase name).kebabCase_eq,
    Pipeline.kebabAttributes_kebabAttributes, fun _ h => Pipeline.run_run_standard h, fun e h => ?_,
    fun _ _ _ h hr => hf.attributes h hr, fun _ _ _ h hc hr => hf.content h hc hr,
    fun _ _ _ _ h hc hr => hf.call h hc hr,
    fun _ source e hs hr => Template.Source.ensures_expand hf source hs _ hr e rfl⟩
  refine h.everywhere_keysSettled.imp fun node hkeys key hk hkf => ?_
  have hkey := hkeys key hk hkf
  exact ⟨hkey.kebabCase_eq, hkey.no_underscore, hkey.no_capital⟩

/-- Behind the raw mark of the first key stands another mark, which the stages take off the second time. -/
example :
    (Pipeline.standard.run ⟨⟨[Attribute.bare "r#type_"]⟩, none⟩).attributes.keys = ["type_"] ∧
    (Pipeline.standard.run (Pipeline.standard.run
      ⟨⟨[Attribute.bare "r#type_"]⟩, none⟩)).attributes.keys = ["type"] := by
  decide +kernel

def listOfOne : Element :=
  ⟨"ul", ⟨[Attribute.bare "hx-get", Attribute.bare "hx-swap"]⟩,
    some [.element ⟨"li", ⟨[Attribute.bare "hx-push-url"]⟩, none⟩]⟩

theorem normalization_of_list :
    (∀ key ∈ ["type_", "hx_get", "hxGet"], ¬ Keyword.Marked key) ∧
    Pipeline.standard.run (Pipeline.standard.run
        ⟨⟨[Attribute.bare "type_", ⟨"hx_get", some (.int 1)⟩, Attribute.bare "hxGet"]⟩, some []⟩) =
      Pipeline.standard.run
        ⟨⟨[Attribute.bare "type_", ⟨"hx_get", some (.int 1)⟩, Attribute.bare "hxGet"]⟩, some []⟩ ∧
    (Factory.standard.call ⟨"ul", ⟨[Attribute.bare "hx-get"]⟩, none⟩
        (.list [Content.element ⟨"li", ⟨[Attribute.bare "hx-push-url"]⟩, none⟩])
        [Attribute.bare "r#hxSwap", Attribute.bare "hx_get"]).result = .ok listOfOne ∧
    listOfOne.BuiltBy Factory.standard ∧
    listOfOne.Everywhere fun node => ∀ key ∈ node.attributes.keys, Pipeline.IsHypermedia key →
      Text.kebabCase key = key ∧ '_' ∉ key.toList ∧ ∀ c ∈ key.toList, ¬ Text.isCapital c := by
  obtain ⟨-, -, hrun, htree, hattributes, -, hcall, -⟩ := normalization_is_stable
  have hunmarked : ∀ key ∈ ["type_", "hx_get", "hxGet"], ¬ Keyword.Marked key := by decide
  have hitem : Element.BuiltBy Factory.standard ⟨"li", ⟨[Attribute.bare "hx-push-url"]⟩, none⟩ :=
    hattributes (Element.ofTag "li") [Attribute.bare "hxPushUrl"] _
      (@Element.BuiltBy.builder _ "li" _ rfl) rfl
  have hlist : Element.BuiltBy Factory.standard ⟨"ul", ⟨[Attribute.bare "hx-get"]⟩, none⟩ :=
    hattributes (Element.ofTag "ul") [Attribute.bare "hxGet"] _
      (@Element.BuiltBy.builder _ "ul" _ rfl) rfl
  have hr : (Factory.standard.call ⟨"ul", ⟨[Attribute.bare "hx-get"]⟩, none⟩
      (.list [Content.element ⟨"li", ⟨[Attribute.bare "hx-push-url"]⟩, none⟩])
      [Attribute.bare "r#hxSwap", Attribute.bare "hx_get"]).result = .ok listOfOne := rfl
  have hbuilt : listOfOne.BuiltBy Factory.standard := by
    refine hcall _ _ _ _ hlist (fun child hc => ?_) hr
    cases List.mem_singleton.1 hc
    exact hitem
  exact ⟨hunmarked, hrun _ hunmarked, hr, hbuilt, htree _ hbuilt⟩

end MarkupTree
