import MarkupTree.Proofs.Stability

/-! The order of the stock stages. One of them leaves the names of the hypermedia family alone and the other
one all other names, so they may as well run the other way round, whatever keys they join. Only a raw mark
before a name of the family lets it into the family on the way, and then the order matters. -/
namespace MarkupTree
namespace Pipeline

open Attributes

variable {key name : String} {keys : List String}

theorem newKey_unmark_marked (name : String) : newKey Keyword.unmark? ("r#" ++ name) = name := by
  have hl : ("r#" ++ name).toList = 'r' :: '#' :: name.toList := String.toList_append
  have hu : Keyword.unmark? ("r#" ++ name) = some name := by
    rw [Keyword.unmark?, hl]
    exact congrArg some String.ofList_toList
  rw [newKey, hu, Option.getD_some]

theorem not_isHypermedia_marked (name : String) : ¬ IsHypermedia ("r#" ++ name) := by
  intro h
  obtain ⟨cs, hcs⟩ := isHypermedia_iff.1 h
  rw [String.toList_append] at hcs
  cases hcs

theorem isHypermedia_newKey_kebab (h : IsHypermedia key) :
    IsHypermedia (newKey kebabHypermedia? key) := by
  rw [newKey_of_isHypermedia h]
  exact h.kebabCase

/-- A name comes into the family only from behind a raw mark. -/
theorem isHypermedia_of_newKey_unmark (hr : ¬ "r#hx".toList <+: key.toList)
    (h : IsHypermedia (newKey Keyword.unmark? key)) : IsHypermedia key := by
  have hwords : ∀ word ∈ Keyword.all, ¬ IsHypermedia word := by decide +kernel
  rcases Keyword.unmark?_cases key with ⟨rest, hl, hu⟩ | ⟨word, hw, -, hu⟩ | hu
  · rw [newKey, hu, Option.getD_some, IsHypermedia, String.toList_ofList] at h
    obtain ⟨cs, rfl⟩ := h
    exact absurd ⟨cs, hl.symm⟩ hr
  · rw [newKey, hu, Option.getD_some] at h
    exact absurd h (hwords word hw)
  · rwa [newKey, hu, Option.getD_none] at h

theorem newKey_kebab_unmark (hr : ¬ "r#hx".toList <+: key.toList) :
    newKey Keyword.unmark? (newKey kebabHypermedia? key) = standardKey key := by
  by_cases h : IsHypermedia key
  · have hk := isHypermedia_newKey_kebab h
    rw [standardKey, newKey_unmark_of_isHypermedia h, newKey_unmark_of_isHypermedia hk]
  · have hu : ¬ IsHypermedia (newKey Keyword.unmark? key) := fun hu =>
      h (isHypermedia_of_newKey_unmark hr hu)
    rw [standardKey, newKey_of_not_isHypermedia h, newKey_of_not_isHypermedia hu]

section Orders

variable (h : ∀ key ∈ keys, ¬ "r#hx".toList <+: key.toList)
include h

theorem joinsOnce_unmark_kebab :
    JoinsOnce (newKey Keyword.unmark?) (newKey kebabHypermedia?) keys := by
  refine JoinsOnce.of_family (p := IsHypermedia) (fun key _ => newKey_unmark_of_isHypermedia)
    (fun key hk hf => ?_) (fun key hk => isHypermedia_of_newKey_unmark (h key hk))
    (fun key _ => isHypermedia_newKey_kebab)
  exact newKey_of_not_isHypermedia fun hu => hf (isHypermedia_of_newKey_unmark (h key hk) hu)

/-- Seen from the other stage the family is that of all other names. -/
theorem joinsOnce_kebab_unmark :
    JoinsOnce (newKey kebabHypermedia?) (newKey Keyword.unmark?) keys := by
  refine JoinsOnce.of_family (p := fun key => ¬ IsHypermedia key)
    (fun key _ => newKey_of_not_isHypermedia) (fun key _ hf => ?_)
    (fun key _ hk hf => hk (isHypermedia_newKey_kebab hf))
    (fun key hk hf hu => hf (isHypermedia_of_newKey_unmark (h key hk) hu))
  exact newKey_unmark_of_isHypermedia (isHypermedia_newKey_kebab (not_not.1 hf))

end Orders

section Swap

variable {invocation : Invocation} (hm : invocation.attributes.Made)
  (hr : ∀ key ∈ invocation.attributes.keys, ¬ "r#hx".toList <+: key.toList)
include hm hr

theorem kebabAttributes_resolveKeywords : kebabAttributes (resolveKeywords invocation) =
    invocation.renameAttributes (some ∘ standardKey) := by
  have hone : (invocation.attributes.rename Keyword.unmark?).rename kebabHypermedia? =
      invocation.attributes.rename (some ∘ standardKey) :=
    rename_rename_of_joinsOnce hm.nodup_keys (joinsOnce_unmark_kebab hr) fun _ _ => rfl
  exact congrArg (Invocation.mk · invocation.content) hone

theorem resolveKeywords_kebabAttributes : resolveKeywords (kebabAttributes invocation) =
    invocation.renameAttributes (some ∘ standardKey) := by
  have hone : (invocation.attributes.rename kebabHypermedia?).rename Keyword.unmark? =
      invocation.attributes.rename (some ∘ standardKey) :=
    rename_rename_of_joinsOnce hm.nodup_keys (joinsOnce_kebab_unmark hr) fun key hk =>
      (newKey_kebab_unmark (hr key hk)).symm
  exact congrArg (Invocation.mk · invocation.content) hone

end Swap

/-- Behind a raw mark a name of the family gets into kebab case only if the mark comes off first. -/
theorem swap_of_marked_iff (hf : IsHypermedia name) (value : Option AttributeValue)
    (content : Option (List Item)) :
    kebabAttributes (resolveKeywords ⟨⟨[⟨"r#" ++ name, value⟩]⟩, content⟩) =
      resolveKeywords (kebabAttributes ⟨⟨[⟨"r#" ++ name, value⟩]⟩, content⟩) ↔
    Text.kebabCase name = name := by
  have hfirst : kebabAttributes (resolveKeywords ⟨⟨[⟨"r#" ++ name, value⟩]⟩, content⟩) =
      ⟨⟨[⟨Text.kebabCase name, value⟩]⟩, content⟩ := by
    rw [resolveKeywords, Invocation.renameAttributes_single, Attribute.mapKey, newKey_unmark_marked,
      kebabAttributes, Invocation.renameAttributes_single, Attribute.mapKey, newKey_of_isHypermedia hf]
  have hsecond : resolveKeywords (kebabAttributes ⟨⟨[⟨"r#" ++ name, value⟩]⟩, content⟩) =
      ⟨⟨[⟨name, value⟩]⟩, content⟩ := by
    rw [kebabAttributes, Invocation.renameAttributes_single, Attribute.mapKey,
      newKey_of_not_isHypermedia (not_isHypermedia_marked name), resolveKeywords,
      Invocation.renameAttributes_single, Attribute.mapKey, newKey_unmark_marked]
  rw [hfirst, hsecond]
  simp

/-- Unless a raw mark stands before a name of the hypermedia family, both orders of the stock stages come
to one renaming, whichever keys it joins. With such a mark the order matters as soon as the name is not in
kebab case. -/
theorem order_of_stages :
    (∀ invocation : Invocation, invocation.attributes.Made →
      (∀ key ∈ invocation.attributes.keys, ¬ "r#hx".toList <+: key.toList) →
      kebabAttributes (resolveKeywords invocation) = resolveKeywords (kebabAttributes invocation) ∧
      kebabAttributes (resolveKeywords invocation) =
        invocation.renameAttributes (some ∘ standardKey)) ∧
    ∀ name value content, IsHypermedia name →
      (kebabAttributes (resolveKeywords ⟨⟨[⟨"r#" ++ name, value⟩]⟩, content⟩) =
        resolveKeywords (kebabAttributes ⟨⟨[⟨"r#" ++ name, value⟩]⟩, content⟩) ↔
      Text.kebabCase name = name) := by
  refine ⟨fun invocation hm hr => ?_, fun name value content hf => swap_of_marked_iff hf value content⟩
  have hone := kebabAttributes_resolveKeywords hm hr
  have hother := resolveKeywords_kebabAttributes hm hr
  exact ⟨hone.trans hother.symm, hone⟩

/-- Two keys that the first stage joins, two that the second one does, and a raw mark. -/
def twoJoins : Invocation :=
  ⟨⟨[⟨"type", some (.int 1)⟩, ⟨"hxGet", some (.int 2)⟩, ⟨"type_", some (.int 3)⟩,
    ⟨"hx_get", some (.int 4)⟩, Attribute.bare "r#id"]⟩, some [.text "a"]⟩

theorem order_of_stages_on_joins :
    twoJoins.attributes.Made ∧
    (∀ key ∈ twoJoins.attributes.keys, ¬ "r#hx".toList <+: key.toList) ∧
    kebabAttributes (resolveKeywords twoJoins) = resolveKeywords (kebabAttributes twoJoins) ∧
    resolveKeywords (kebabAttributes twoJoins) =
      ⟨⟨[⟨"type", some (.int 3)⟩, ⟨"hx-get", some (.int 4)⟩, Attribute.bare "id"]⟩,
        some [.text "a"]⟩ ∧
    IsHypermedia "hxGet" ∧
    kebabAttributes (resolveKeywords ⟨⟨[⟨"r#" ++ "hxGet", none⟩]⟩, none⟩) ≠
      resolveKeywords (kebabAttributes ⟨⟨[⟨"r#" ++ "hxGet", none⟩]⟩, none⟩) := by
  have hm : twoJoins.attributes.Made := made_iff_nodup_keys.2 (by decide)
  have hr : ∀ key ∈ twoJoins.attributes.keys, ¬ "r#hx".toList <+: key.toList := by decide
  have hf : IsHypermedia "hxGet" := by decide
  have hk : Text.kebabCase "hxGet" ≠ "hxGet" := by decide +kernel
  obtain ⟨hboth, hmarked⟩ := order_of_stages
  obtain ⟨hswap, -⟩ := hboth twoJoins hm hr
  exact ⟨hm, hr, hswap, rfl, hf, fun he => hk ((hmarked "hxGet" none none hf).1 he)⟩

end Pipeline
end MarkupTree
