import MarkupTree.Pipeline
import MarkupTree.Proofs.Insertion

/-! New keys for attributes. Attributes whose new keys are the same become one: it stands where the first
of them stood, and has the value of the last. Where no two keys become the same, nothing but the keys
changes, so one renaming after another is a single one. -/
namespace MarkupTree

def Attribute.mapKey (f : String → String) (a : Attribute) : Attribute := ⟨f a.key, a.value⟩

@[simp] theorem Attribute.key_mapKey (f : String → String) (a : Attribute) :
    (a.mapKey f).key = f a.key := rfl

@[simp] theorem Attribute.value_mapKey (f : String → String) (a : Attribute) :
    (a.mapKey f).value = a.value := rfl

theorem Attribute.map_key_mapKey (f : String → String) (as : List Attribute) :
    (as.map (mapKey f)).map key = (as.map key).map f := by
  rw [List.map_map, List.map_map]
  rfl

/-- No two of the keys come to the same. -/
def KeepsApart (f : String → String) (keys : List String) : Prop :=
  ∀ a ∈ keys, ∀ b ∈ keys, f a = f b → a = b

theorem KeepsApart.mono {f : String → String} {keys fewer : List String} (h : KeepsApart f keys)
    (hs : ∀ key ∈ fewer, key ∈ keys) : KeepsApart f fewer :=
  fun a ha b hb => h a (hs a ha) b (hs b hb)

theorem KeepsApart.nodup_map {f : String → String} {keys : List String} (h : KeepsApart f keys)
    (hn : keys.Nodup) : (keys.map f).Nodup :=
  hn.map_on h

theorem count_map_le_one {f : String → String} {keys : List String} (hn : keys.Nodup) {key : String}
    (h : ∀ other ∈ keys, f other = f key → other = key) : (keys.map f).count (f key) ≤ 1 :=
  calc (keys.map f).count (f key)
      = keys.countP (f · == f key) := List.countP_map
    _ = keys.count key := by
        refine List.countP_congr fun other ho => ?_
        rw [beq_iff_eq, beq_iff_eq]
        exact ⟨h other ho, congrArg f⟩
    _ ≤ 1 := List.nodup_iff_count_le_one.1 hn key

/-- Keys that the first function brings together are joined by no others when the next one follows. -/
def JoinsOnce (f g : String → String) (keys : List String) : Prop :=
  ∀ a ∈ keys, ∀ b ∈ keys, f a = f b → a ≠ b → ∀ c ∈ keys, g (f c) = g (f a) → f c = f a

theorem JoinsOnce.mono {f g : String → String} {keys fewer : List String} (h : JoinsOnce f g keys)
    (hs : ∀ key ∈ fewer, key ∈ keys) : JoinsOnce f g fewer :=
  fun a ha b hb he hne c hc => h a (hs a ha) b (hs b hb) he hne c (hs c hc)

theorem KeepsApart.joinsOnce {f g : String → String} {keys : List String} (h : KeepsApart f keys) :
    JoinsOnce f g keys :=
  fun a ha b hb he hne => absurd (h a ha b hb he) hne

/-- The first function leaves the names of a family alone, and the next one all others. As long as no name
comes into the family by the first one or leaves it by the next one, a key is joined by one of them only. -/
theorem JoinsOnce.of_family {f g : String → String} {keys : List String} {p : String → Prop}
    (hfixed : ∀ a ∈ keys, p a → f a = a) (hnext : ∀ a ∈ keys, ¬ p a → g (f a) = f a)
    (hstay : ∀ a ∈ keys, p (f a) → p a) (hkeep : ∀ a ∈ keys, p a → p (g a)) :
    JoinsOnce f g keys := by
  intro a ha b hb he hne c hc hgc
  have hpa : ¬ p a := by
    intro hpa
    have hfa : f a = a := hfixed a ha hpa
    have hpb : p b := hstay b hb (by rwa [← he, hfa])
    have hfb : f b = b := hfixed b hb hpb
    exact hne (by rw [← hfa, he, hfb])
  have hga : g (f a) = f a := hnext a ha hpa
  rw [hga] at hgc
  have hpc : ¬ p c := by
    intro hpc
    have hfc : f c = c := hfixed c hc hpc
    have hgp : p (g c) := hkeep c hc hpc
    rw [hfc] at hgc
    exact hpa (hstay a ha (hgc ▸ hgp))
  rw [← hnext c hc hpc, hgc]

namespace Attributes

/-- The key after a renaming, which is the old one if the renaming answers none. -/
def newKey (rename : String → Option String) (key : String) : String := (rename key).getD key

variable {attributes : Attributes} {f : String → String} {rename next both : String → Option String}

theorem rename_eq (attributes : Attributes) (rename : String → Option String) :
    attributes.rename rename = ofList (attributes.entries.map (Attribute.mapKey (newKey rename))) :=
  rfl

theorem keys_rename (attributes : Attributes) (rename : String → Option String) :
    (attributes.rename rename).keys = (attributes.keys.map (newKey rename)).eraseDups := by
  rw [rename_eq, keys_ofList, Attribute.map_key_mapKey]
  rfl

theorem nodup_keys_rename (attributes : Attributes) (rename : String → Option String) :
    (attributes.rename rename).keys.Nodup :=
  nodup_keys_ofList _

theorem get?_rename (attributes : Attributes) (rename : String → Option String) (key : String) :
    (attributes.rename rename).get? key =
      (latest (newKey rename ∘ Attribute.key) key attributes.entries).map Attribute.value := by
  rw [rename_eq, get?_ofList, latest_map, Option.map_map]
  rfl

/-- The value under a key is that of the last of the old keys which come to it. -/
theorem get?_rename_eq_bind (h : attributes.keys.Nodup) (key : String) :
    (attributes.rename rename).get? key =
      (latest (newKey rename) key attributes.keys).bind attributes.get? := by
  rw [get?_rename, keys, latest_map]
  cases hl : latest (newKey rename ∘ Attribute.key) key attributes.entries with
  | none => rfl
  | some a => exact (get?_of_mem h (mem_of_latest hl).1).symm

section Apart

theorem rename_of_keepsApart (hn : attributes.keys.Nodup)
    (h : KeepsApart (newKey rename) attributes.keys) :
    attributes.rename rename = ⟨attributes.entries.map (Attribute.mapKey (newKey rename))⟩ := by
  rw [rename_eq, ofList_of_nodup]
  rw [Attribute.map_key_mapKey]
  exact h.nodup_map hn

theorem rename_of_fixed (hn : attributes.keys.Nodup)
    (h : ∀ key ∈ attributes.keys, newKey rename key = key) : attributes.rename rename = attributes := by
  have ha : KeepsApart (newKey rename) attributes.keys := fun a ha b hb he => by
    rwa [h a ha, h b hb] at he
  have hm : attributes.entries.map (Attribute.mapKey (newKey rename)) = attributes.entries.map id :=
    List.map_congr_left fun a hmem =>
      congrArg (Attribute.mk · a.value) (h a.key (List.mem_map_of_mem hmem))
  rw [rename_of_keepsApart hn ha, hm, List.map_id]

theorem map_insertInto {a : Attribute} {bs : List Attribute}
    (h : ∀ b ∈ bs, f b.key = f a.key → b.key = a.key) :
    (insertInto a bs).map (Attribute.mapKey f) =
      insertInto (a.mapKey f) (bs.map (Attribute.mapKey f)) := by
  induction bs with
  | nil => rfl
  | cons b bs ih =>
    by_cases hb : b.key = a.key
    · simp [insertInto, Attribute.mapKey, hb]
    · have hf : f b.key ≠ f a.key := fun hf => hb (h b List.mem_cons_self hf)
      have hi := ih fun c hc => h c (List.mem_cons_of_mem b hc)
      rw [insertInto, if_neg hb, List.map_cons, hi, List.map_cons, insertInto,
        Attribute.key_mapKey, Attribute.key_mapKey, if_neg hf]

theorem map_insertAll {as : List Attribute}
    (h : KeepsApart f (attributes.keys ++ as.map Attribute.key)) :
    (attributes.insertAll as).entries.map (Attribute.mapKey f) =
      (insertAll ⟨attributes.entries.map (Attribute.mapKey f)⟩
        (as.map (Attribute.mapKey f))).entries := by
  induction as generalizing attributes with
  | nil => rfl
  | cons a as ih =>
    have hi : (attributes.insert a).entries.map (Attribute.mapKey f) =
        insertInto (a.mapKey f) (attributes.entries.map (Attribute.mapKey f)) := by
      refine map_insertInto fun b hb => h _ ?_ _ (by simp)
      exact List.mem_append_left _ (List.mem_map_of_mem hb)
    have hs : KeepsApart f ((attributes.insert a).keys ++ as.map Attribute.key) := by
      refine h.mono fun key hk => ?_
      rw [List.mem_append, mem_keys_insert] at hk
      rw [List.map_cons, List.mem_append, List.mem_cons]
      tauto
    rw [insertAll_cons, ih hs, hi, List.map_cons, insertAll_cons]
    rfl

theorem map_ofList {as : List Attribute} (h : KeepsApart f (as.map Attribute.key)) :
    (ofList as).entries.map (Attribute.mapKey f) = (ofList (as.map (Attribute.mapKey f))).entries :=
  map_insertAll h

end Apart

section Joins

/-- A key that is new to the set, or that stays apart from the others, may be inserted after the renaming. -/
theorem rename_insert (hn : attributes.keys.Nodup) {a : Attribute}
    (h : a.key ∈ attributes.keys →
      ∀ key ∈ attributes.keys, newKey rename key = newKey rename a.key → key = a.key) :
    (attributes.insert a).rename rename =
      (attributes.rename rename).insert (a.mapKey (newKey rename)) := by
  by_cases ha : a.key ∈ attributes.keys
  · have hm : (insertInto a attributes.entries).map (Attribute.mapKey (newKey rename)) =
        insertInto (a.mapKey (newKey rename))
          (attributes.entries.map (Attribute.mapKey (newKey rename))) :=
      map_insertInto fun b hb => h ha b.key (List.mem_map_of_mem hb)
    have hcount : (attributes.keys.map (newKey rename)).count (newKey rename a.key) ≤ 1 :=
      count_map_le_one hn (h ha)
    rw [keys, ← Attribute.map_key_mapKey] at hcount
    rw [rename_eq, insert, hm]
    exact insertAll_insertInto empty hcount
  · rw [insert_of_notMem ha, rename_eq, List.map_append, ofList_append]
    rfl

theorem rename_ofList {as : List Attribute} (hn : (as.map Attribute.key).Nodup)
    (h : JoinsOnce f (newKey next) (as.map Attribute.key)) :
    (ofList (as.map (Attribute.mapKey f))).rename next =
      ofList (as.map (Attribute.mapKey (newKey next ∘ f))) := by
  induction as using List.reverseRecOn with
  | nil => rfl
  | append_singleton as a ih =>
    rw [List.map_append, List.nodup_append] at hn
    have hold : ∀ key ∈ as.map Attribute.key, key ∈ (as ++ [a]).map Attribute.key := by
      intro key hk
      rw [List.map_append]
      exact List.mem_append_left _ hk
    have ha : a.key ∈ (as ++ [a]).map Attribute.key := by simp
    have hapart : (a.mapKey f).key ∈ (ofList (as.map (Attribute.mapKey f))).keys →
        ∀ key ∈ (ofList (as.map (Attribute.mapKey f))).keys,
          newKey next key = newKey next (a.mapKey f).key → key = (a.mapKey f).key := by
      simp only [keys_ofList, List.mem_eraseDups, Attribute.map_key_mapKey, List.mem_map,
        Attribute.key_mapKey]
      rintro ⟨b, hb, hba⟩ _ ⟨c, hc, rfl⟩ he
      have hne : a.key ≠ b := fun hab => hn.2.2 b (List.mem_map.2 hb) a.key (by simp) hab.symm
      exact h a.key ha b (hold b (List.mem_map.2 hb)) hba.symm hne c (hold c (List.mem_map.2 hc)) he
    have hlast (g : String → String) : ofList ((as ++ [a]).map (Attribute.mapKey g)) =
        (ofList (as.map (Attribute.mapKey g))).insert (a.mapKey g) := by
      rw [List.map_append, ofList_append]
      rfl
    rw [hlast, rename_insert (nodup_keys_ofList _) hapart, ih hn.1 (h.mono hold), hlast]
    rfl

/-- Renamings of which no key has to go through two joins come to a single one. -/
theorem rename_rename_of_joinsOnce (hn : attributes.keys.Nodup)
    (h : JoinsOnce (newKey rename) (newKey next) attributes.keys)
    (hb : ∀ key ∈ attributes.keys, newKey both key = newKey next (newKey rename key)) :
    (attributes.rename rename).rename next = attributes.rename both := by
  rw [rename_eq attributes rename, rename_ofList hn h, rename_eq]
  congr 1
  apply List.map_congr_left
  intro a ha
  have hk : a.key ∈ attributes.keys := List.mem_map_of_mem ha
  simp [Attribute.mapKey, hb a.key hk]

theorem rename_rename (hn : attributes.keys.Nodup)
    (h : KeepsApart (newKey rename) attributes.keys)
    (hb : ∀ key ∈ attributes.keys, newKey both key = newKey next (newKey rename key)) :
    (attributes.rename rename).rename next = attributes.rename both :=
  rename_rename_of_joinsOnce hn h.joinsOnce hb

end Joins

end Attributes

namespace Invocation

open Attributes

theorem renameAttributes_single (rename : String → Option String) (a : Attribute)
    (content : Option (List Item)) :
    renameAttributes rename ⟨⟨[a]⟩, content⟩ = ⟨⟨[a.mapKey (newKey rename)]⟩, content⟩ :=
  rfl

/-- What a renaming does to an invocation. The content stays. The keys are the images of the old keys, each
at its first place, and each has the value of the last of the old attributes with this image. So if no two
keys have one image, nothing but the keys changes, and any renaming after this one can be made together
with it. -/
theorem renameAttributes_by_images (rename : String → Option String) (invocation : Invocation) :
    (invocation.renameAttributes rename).content = invocation.content ∧
    (invocation.renameAttributes rename).attributes.keys =
      (invocation.attributes.keys.map (newKey rename)).eraseDups ∧
    (∀ key, (invocation.renameAttributes rename).attributes.get? key =
      (latest (newKey rename ∘ Attribute.key) key invocation.attributes.entries).map
        Attribute.value) ∧
    (invocation.attributes.Made → KeepsApart (newKey rename) invocation.attributes.keys →
      (invocation.renameAttributes rename).attributes.entries =
        invocation.attributes.entries.map (Attribute.mapKey (newKey rename)) ∧
      ∀ next both, (∀ key ∈ invocation.attributes.keys,
          newKey both key = newKey next (newKey rename key)) →
        (invocation.renameAttributes rename).renameAttributes next =
          invocation.renameAttributes both) := by
  refine ⟨rfl, keys_rename _ _, get?_rename _ _, fun hm h => ⟨?_, fun next both hb => ?_⟩⟩
  · have hr := rename_of_keepsApart hm.nodup_keys h
    exact congrArg Attributes.entries hr
  · have hr := rename_rename hm.nodup_keys h hb
    simp only [renameAttributes, hr]

/-- Two spellings of one key come together in kebab case, and taking marks off keeps others apart. -/
theorem renameAttributes_of_spellings :
    (renameAttributes Pipeline.kebabHypermedia?
      ⟨⟨[⟨"hx_get", some (.int 1)⟩, Attribute.bare "id", ⟨"hxGet", some (.int 2)⟩]⟩,
        none⟩).attributes.get? "hx-get" = some (some (.int 2)) ∧
    (⟨[Attribute.bare "type_", ⟨"hx_get", some (.int 1)⟩]⟩ : Attributes).Made ∧
    KeepsApart (newKey Keyword.unmark?) ["type_", "hx_get"] ∧
    (∀ key ∈ ["type_", "hx_get"],
      newKey (fun key => some (newKey Pipeline.kebabHypermedia? (newKey Keyword.unmark? key))) key =
        newKey Pipeline.kebabHypermedia? (newKey Keyword.unmark? key)) ∧
    Pipeline.standard.run ⟨⟨[Attribute.bare "type_", ⟨"hx_get", some (.int 1)⟩]⟩, some []⟩ =
      renameAttributes
        (fun key => some (newKey Pipeline.kebabHypermedia? (newKey Keyword.unmark? key)))
        ⟨⟨[Attribute.bare "type_", ⟨"hx_get", some (.int 1)⟩]⟩, some []⟩ := by
  have hm : (⟨[Attribute.bare "type_", ⟨"hx_get", some (.int 1)⟩]⟩ : Attributes).Made :=
    made_iff_nodup_keys.2 (by decide)
  have ha : KeepsApart (newKey Keyword.unmark?) ["type_", "hx_get"] := by
    unfold KeepsApart
    decide
  obtain ⟨-, -, hget, -⟩ := renameAttributes_by_images Pipeline.kebabHypermedia?
    ⟨⟨[⟨"hx_get", some (.int 1)⟩, Attribute.bare "id", ⟨"hxGet", some (.int 2)⟩]⟩, none⟩
  obtain ⟨-, -, -, happly⟩ := renameAttributes_by_images Keyword.unmark?
    ⟨⟨[Attribute.bare "type_", ⟨"hx_get", some (.int 1)⟩]⟩, some []⟩
  refine ⟨(hget "hx-get").trans ?_, hm, ha, fun _ _ => rfl, ?_⟩
  · decide
  · exact (happly hm ha).2 _ _ fun _ _ => rfl

end Invocation

end MarkupTree
