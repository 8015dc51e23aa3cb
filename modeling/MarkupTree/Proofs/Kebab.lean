import MarkupTree.Proofs.LowerCase
import MarkupTree.Proofs.Renaming
import MarkupTree.Proofs.Spans

/-! Names in kebab case. Words that are set apart by capitals come to the same name as words with underscores
between them. Apart from that no names come together: two names that are both written with capitals, or both
with underscores, stay different. So a call whose names are of one style loses nothing in the kebab stage. -/
namespace MarkupTree

namespace Text

section Characters

variable {c : Char} {cs : List Char}

theorem Plain.kebabFirst (h : Plain c) : kebabFirst c = [c] := by
  rw [Text.kebabFirst, if_neg h.ne_underscore, if_neg h.not_capital, h.lowercase_eq]

theorem Plain.kebabLater (h : Plain c) : kebabLater c = [c] := by
  rw [Text.kebabLater, if_neg h.ne_underscore, if_neg h.not_capital, h.lowercase_eq]

theorem flatMap_kebabLater_of_plain (h : ∀ c ∈ cs, Plain c) : cs.flatMap kebabLater = cs := by
  induction cs with
  | nil => rfl
  | cons c cs ih =>
    rw [List.flatMap_cons, (h c List.mem_cons_self).kebabLater,
      ih fun d hd => h d (List.mem_cons_of_mem c hd), List.singleton_append]

def isLow (c : Char) : Bool := c.isLower || c.isDigit

theorem isAlphanum_eq (c : Char) : c.isAlphanum = (isCapital c || isLow c) := by
  rw [isAlphanum_eq_or, isLow, Bool.or_assoc]

theorem toNat_lt_of_isLow (h : isLow c) : c.toNat < 128 :=
  toNat_lt_of_isAlphanum (by rw [isAlphanum_eq, h, Bool.or_true])

theorem plain_of_isLow (h : isLow c) : Plain c :=
  of_ascii (p := fun c => isLow c → Plain c) (by decide +kernel) (toNat_lt_of_isLow h) h

theorem ne_hyphen_of_isLow (h : isLow c) : c ≠ '-' := by
  rintro rfl
  cases h

theorem kebabLater_of_isCapital (h : isCapital c) : kebabLater c = ['-', c.toLower] := by
  have hu : c ≠ '_' := by
    rintro rfl
    cases h
  rw [kebabLater, if_neg hu, if_pos h]

theorem kebabLater_underscore : kebabLater '_' = ['-'] := rfl

theorem toUpper_toLower_of_isCapital (h : isCapital c) : c.toLower.toUpper = c :=
  of_ascii (p := fun c => isCapital c → c.toLower.toUpper = c) (by decide +kernel)
    (toNat_lt_of_isCapital h) h

theorem isCapital_toUpper_of_isLower (h : c.isLower) : isCapital c.toUpper ∧ c.toUpper.toLower = c :=
  of_ascii (p := fun c => c.isLower → isCapital c.toUpper ∧ c.toUpper.toLower = c) (by decide +kernel)
    (toNat_lt_of_isLow (by rw [isLow, h, Bool.true_or])) h

end Characters

section Words

/-- Lower-case ASCII letters and digits, of which the first is a letter. -/
structure IsLowWord (word : String) : Prop where
  letter : word.toList.head?.any Char.isLower
  chars : ∀ c ∈ word.toList, isLow c

instance : DecidablePred IsLowWord := fun word =>
  decidable_of_iff (word.toList.head?.any Char.isLower ∧ word.toList.all isLow)
    ⟨fun h => ⟨h.1, List.all_eq_true.1 h.2⟩, fun h => ⟨h.letter, List.all_eq_true.2 h.chars⟩⟩

def capitalized (word : String) : String :=
  match word.toList with
  | [] => ""
  | c :: cs => String.ofList (c.toUpper :: cs)

theorem IsLowWord.exists_cons {word : String} (h : IsLowWord word) :
    ∃ c cs, word.toList = c :: cs ∧ c.isLower ∧ ∀ d ∈ cs, isLow d := by
  obtain ⟨hletter, hchars⟩ := h
  cases hw : word.toList with
  | nil =>
    rw [hw] at hletter
    cases hletter
  | cons c cs =>
    rw [hw] at hletter hchars
    exact ⟨c, cs, rfl, hletter, fun d hd => hchars d (List.mem_cons_of_mem c hd)⟩

theorem flatMap_kebabLater_capitalized {word : String} (h : IsLowWord word) :
    (capitalized word).toList.flatMap kebabLater = '-' :: word.toList := by
  obtain ⟨c, cs, hw, hc, hcs⟩ := h.exists_cons
  obtain ⟨hu, hl⟩ := isCapital_toUpper_of_isLower hc
  rw [capitalized, hw, String.toList_ofList, List.flatMap_cons, kebabLater_of_isCapital hu, hl,
    flatMap_kebabLater_of_plain fun d hd => plain_of_isLow (hcs d hd)]
  rfl

theorem flatMap_kebabLater_underscored {word : String} (h : IsLowWord word) :
    ('_' :: word.toList).flatMap kebabLater = '-' :: word.toList := by
  rw [List.flatMap_cons, kebabLater_underscore,
    flatMap_kebabLater_of_plain fun c hc => plain_of_isLow (h.chars c hc), List.singleton_append]

theorem kebabChars_hypermedia (cs : List Char) :
    kebabChars ('h' :: 'x' :: cs) = 'h' :: 'x' :: cs.flatMap kebabLater := rfl

variable {words : List String}

theorem toList_hyphenated (words : List String) : ("-".intercalate ("hx" :: words)).toList =
    'h' :: 'x' :: words.flatMap fun word => '-' :: word.toList := by
  rw [String.toList_intercalate, List.map_cons, intercalate_cons_eq_flatMap, List.flatMap_map]
  rfl

theorem kebabCase_camel (h : ∀ word ∈ words, IsLowWord word) :
    kebabCase (String.join ("hx" :: words.map capitalized)) = "-".intercalate ("hx" :: words) := by
  apply String.toList_inj.1
  have hl : (String.join ("hx" :: words.map capitalized)).toList =
      'h' :: 'x' :: words.flatMap fun word => (capitalized word).toList := by
    rw [String.toList_join, List.flatMap_cons, List.flatMap_map]
    rfl
  rw [kebabCase, String.toList_ofList, hl, kebabChars_hypermedia, toList_hyphenated,
    List.flatMap_assoc, List.flatMap_congr fun word hw => flatMap_kebabLater_capitalized (h word hw)]

theorem kebabCase_snake (h : ∀ word ∈ words, IsLowWord word) :
    kebabCase ("_".intercalate ("hx" :: words)) = "-".intercalate ("hx" :: words) := by
  apply String.toList_inj.1
  have hl : ("_".intercalate ("hx" :: words)).toList =
      'h' :: 'x' :: words.flatMap fun word => '_' :: word.toList := by
    rw [String.toList_intercalate, List.map_cons, intercalate_cons_eq_flatMap, List.flatMap_map]
    rfl
  rw [kebabCase, String.toList_ofList, hl, kebabChars_hypermedia, toList_hyphenated,
    List.flatMap_assoc, List.flatMap_congr fun word hw => flatMap_kebabLater_underscored (h word hw)]

end Words

end Text

namespace Pipeline

/-- The attribute belongs to the hypermedia family. -/
def IsHypermedia (key : String) : Prop := ['h', 'x'] <+: key.toList

instance : DecidablePred IsHypermedia := fun key =>
  inferInstanceAs (Decidable (['h', 'x'] <+: key.toList))

theorem isHypermedia_iff {key : String} : IsHypermedia key ↔ ∃ cs, key.toList = 'h' :: 'x' :: cs := by
  constructor
  · rintro ⟨cs, hcs⟩
    exact ⟨cs, hcs.symm⟩
  · rintro ⟨cs, hcs⟩
    exact ⟨cs, hcs.symm⟩

theorem newKey_of_isHypermedia {key : String} (h : IsHypermedia key) :
    Attributes.newKey kebabHypermedia? key = Text.kebabCase key := by
  rw [Attributes.newKey, kebabHypermedia?, if_pos (List.isPrefixOf_iff_prefix.2 h), Option.getD_some]

theorem newKey_of_not_isHypermedia {key : String} (h : ¬ IsHypermedia key) :
    Attributes.newKey kebabHypermedia? key = key := by
  rw [Attributes.newKey, kebabHypermedia?, if_neg fun hp => h (List.isPrefixOf_iff_prefix.1 hp),
    Option.getD_none]

theorem toList_kebabCase_of_isHypermedia {key : String} {cs : List Char}
    (h : key.toList = 'h' :: 'x' :: cs) :
    (Text.kebabCase key).toList = 'h' :: 'x' :: cs.flatMap Text.kebabLater := by
  rw [Text.kebabCase, String.toList_ofList, h, Text.kebabChars_hypermedia]

theorem IsHypermedia.kebabCase {key : String} (h : IsHypermedia key) :
    IsHypermedia (Text.kebabCase key) := by
  obtain ⟨cs, hcs⟩ := isHypermedia_iff.1 h
  exact isHypermedia_iff.2 ⟨_, toList_kebabCase_of_isHypermedia hcs⟩

end Pipeline

namespace Text

open Pipeline

section Styles

/-- A name of the family with characters of one kind only. -/
structure Spelled (p : Char → Bool) (name : String) : Prop where
  isHypermedia : IsHypermedia name
  chars : ∀ c ∈ name.toList, p c

instance (p : Char → Bool) : DecidablePred (Spelled p) := fun name =>
  decidable_of_iff (IsHypermedia name ∧ name.toList.all p)
    ⟨fun h => ⟨h.1, List.all_eq_true.1 h.2⟩, fun h => ⟨h.isHypermedia, List.all_eq_true.2 h.chars⟩⟩

/-- Names of the family that are written with capitals, such as `hxPushUrl`. -/
def IsCamel : String → Prop := Spelled Char.isAlphanum

instance : DecidablePred IsCamel := inferInstanceAs (DecidablePred (Spelled _))

/-- Names of the family that are written with underscores, such as `hx_push_url`. -/
def IsSnake : String → Prop := Spelled fun c => isLow c || c == '_'

instance : DecidablePred IsSnake := inferInstanceAs (DecidablePred (Spelled _))

variable {c d : Char} {xs ys : List Char}

theorem kebabLater_ne_nil (c : Char) : kebabLater c ≠ [] := by
  unfold kebabLater lowercase
  split
  · exact List.cons_ne_nil _ _
  · split
    · exact List.cons_ne_nil _ _
    · split <;> exact List.cons_ne_nil _ _

theorem eq_of_kebabLater_isLow (hc : isLow c) (hd : isLow d)
    (h : kebabLater c ++ xs = kebabLater d ++ ys) : c = d := by
  rw [(plain_of_isLow hc).kebabLater, (plain_of_isLow hd).kebabLater] at h
  exact (List.cons.inj h).1

theorem kebabLater_append_ne_hyphen (hc : isLow c) : kebabLater c ++ xs ≠ '-' :: ys := by
  rw [(plain_of_isLow hc).kebabLater]
  exact fun h => ne_hyphen_of_isLow hc (List.cons.inj h).1

theorem eq_of_kebabLater_camel (hc : c.isAlphanum) (hd : d.isAlphanum)
    (h : kebabLater c ++ xs = kebabLater d ++ ys) : c = d := by
  rw [isAlphanum_eq, Bool.or_eq_true] at hc hd
  rcases hc with hc | hc <;> rcases hd with hd | hd
  · rw [kebabLater_of_isCapital hc, kebabLater_of_isCapital hd] at h
    have hl : c.toLower = d.toLower := (List.cons.inj (List.cons.inj h).2).1
    rw [← toUpper_toLower_of_isCapital hc, hl, toUpper_toLower_of_isCapital hd]
  · rw [kebabLater_of_isCapital hc] at h
    exact absurd h.symm (kebabLater_append_ne_hyphen hd)
  · rw [kebabLater_of_isCapital hd] at h
    exact absurd h (kebabLater_append_ne_hyphen hc)
  · exact eq_of_kebabLater_isLow hc hd h

theorem eq_of_kebabLater_snake (hc : isLow c || c == '_') (hd : isLow d || d == '_')
    (h : kebabLater c ++ xs = kebabLater d ++ ys) : c = d := by
  rw [Bool.or_eq_true, beq_iff_eq] at hc hd
  rcases hc with hc | rfl <;> rcases hd with hd | rfl
  · exact eq_of_kebabLater_isLow hc hd h
  · exact absurd h (kebabLater_append_ne_hyphen hc)
  · exact absurd h.symm (kebabLater_append_ne_hyphen hd)
  · rfl

theorem kebabCase_inj {p : Char → Bool}
    (hp : ∀ c d, p c → p d → ∀ xs ys, kebabLater c ++ xs = kebabLater d ++ ys → c = d)
    {a b : String} (ha : Spelled p a) (hb : Spelled p b) (h : kebabCase a = kebabCase b) : a = b := by
  obtain ⟨cs, hcs⟩ := isHypermedia_iff.1 ha.isHypermedia
  obtain ⟨ds, hds⟩ := isHypermedia_iff.1 hb.isHypermedia
  have hk := congrArg String.toList h
  rw [toList_kebabCase_of_isHypermedia hcs, toList_kebabCase_of_isHypermedia hds] at hk
  have hflat : cs.flatMap kebabLater = ds.flatMap kebabLater := (List.cons.inj (List.cons.inj hk).2).2
  have hpc : ∀ c ∈ cs, p c := fun c hc => ha.chars c (by simp [hcs, hc])
  have hpd : ∀ d ∈ ds, p d := fun d hd => hb.chars d (by simp [hds, hd])
  apply String.toList_inj.1
  rw [hcs, hds, flatMap_inj_of_prefix (p := fun c => p c) (fun c _ => kebabLater_ne_nil c) hp hpc hpd
    hflat]

theorem kebabCase_inj_camel {a b : String} (ha : IsCamel a) (hb : IsCamel b)
    (h : kebabCase a = kebabCase b) : a = b :=
  kebabCase_inj (fun _ _ hc hd _ _ => eq_of_kebabLater_camel hc hd) ha hb h

theorem kebabCase_inj_snake {a b : String} (ha : IsSnake a) (hb : IsSnake b)
    (h : kebabCase a = kebabCase b) : a = b :=
  kebabCase_inj (fun _ _ hc hd _ _ => eq_of_kebabLater_snake hc hd) ha hb h

end Styles

end Text

namespace Pipeline

open Text

variable {invocation : Invocation} {keys : List String}

/-- Keys of the family that are all of one style come apart, and no other key becomes one of the
family. -/
theorem keepsApart_kebabHypermedia {style : String → Prop}
    (hs : ∀ a b, style a → style b → kebabCase a = kebabCase b → a = b)
    (h : ∀ key ∈ keys, IsHypermedia key → style key) :
    KeepsApart (Attributes.newKey kebabHypermedia?) keys := by
  intro a ha b hb he
  by_cases hfa : IsHypermedia a <;> by_cases hfb : IsHypermedia b
  · rw [newKey_of_isHypermedia hfa, newKey_of_isHypermedia hfb] at he
    exact hs a b (h a ha hfa) (h b hb hfb) he
  · rw [newKey_of_isHypermedia hfa, newKey_of_not_isHypermedia hfb] at he
    exact absurd (he ▸ hfa.kebabCase) hfb
  · rw [newKey_of_not_isHypermedia hfa, newKey_of_isHypermedia hfb] at he
    exact absurd (he.symm ▸ hfb.kebabCase) hfa
  · rwa [newKey_of_not_isHypermedia hfa, newKey_of_not_isHypermedia hfb] at he

/-- The words of a name may be set apart by capitals or by underscores: in kebab case both are one name.
Apart from this no two names of the family come together, so a call in one of the two styles keeps all of
its attributes with their values, each at its place. -/
theorem kebab_spellings :
    (∀ words : List String, (∀ word ∈ words, IsLowWord word) →
      kebabCase (String.join ("hx" :: words.map capitalized)) = "-".intercalate ("hx" :: words) ∧
      kebabCase ("_".intercalate ("hx" :: words)) = "-".intercalate ("hx" :: words)) ∧
    (∀ a b, IsCamel a → IsCamel b → kebabCase a = kebabCase b → a = b) ∧
    (∀ a b, IsSnake a → IsSnake b → kebabCase a = kebabCase b → a = b) ∧
    ∀ invocation : Invocation, invocation.attributes.Made →
      (∀ key ∈ invocation.attributes.keys, IsHypermedia key → IsCamel key) ∨
        (∀ key ∈ invocation.attributes.keys, IsHypermedia key → IsSnake key) →
      (kebabAttributes invocation).content = invocation.content ∧
      (kebabAttributes invocation).attributes.size = invocation.attributes.size ∧
      ∀ n a, invocation.attributes.at? n = some a →
        (IsHypermedia a.key →
          (kebabAttributes invocation).attributes.at? n = some ⟨kebabCase a.key, a.value⟩) ∧
        (¬ IsHypermedia a.key → (kebabAttributes invocation).attributes.at? n = some a) := by
  refine ⟨fun words h => ⟨kebabCase_camel h, kebabCase_snake h⟩, fun _ _ => kebabCase_inj_camel,
    fun _ _ => kebabCase_inj_snake, fun invocation hm hstyle => ?_⟩
  have hapart : KeepsApart (Attributes.newKey kebabHypermedia?) invocation.attributes.keys := by
    rcases hstyle with h | h
    · exact keepsApart_kebabHypermedia (fun _ _ => kebabCase_inj_camel) h
    · exact keepsApart_kebabHypermedia (fun _ _ => kebabCase_inj_snake) h
  have he : (kebabAttributes invocation).attributes =
      ⟨invocation.attributes.entries.map (Attribute.mapKey (Attributes.newKey kebabHypermedia?))⟩ :=
    Attributes.rename_of_keepsApart hm.nodup_keys hapart
  have hat : ∀ n a, invocation.attributes.at? n = some a →
      (kebabAttributes invocation).attributes.at? n =
        some (a.mapKey (Attributes.newKey kebabHypermedia?)) := by
    intro n a ha
    rw [he, Attributes.at?, List.getElem?_map]
    exact congrArg (Option.map _) ha
  refine ⟨rfl, ?_, fun n a ha => ⟨fun hf => ?_, fun hf => ?_⟩⟩
  · rw [he, Attributes.size, List.length_map]
    rfl
  · rw [hat n a ha, Attribute.mapKey, newKey_of_isHypermedia hf]
  · rw [hat n a ha, Attribute.mapKey, newKey_of_not_isHypermedia hf]

/-- Every capital of the first key opens a word, so the third one is another. -/
def capitals : Invocation :=
  ⟨⟨[⟨"hxURL", some (.int 1)⟩, Attribute.bare "dataHxURL", ⟨"hxUrl", some (.int 2)⟩]⟩, some []⟩

theorem kebab_spellings_of_capitals :
    (∀ word ∈ ["push", "url2"], IsLowWord word) ∧
    kebabCase "hxPushUrl2" = "hx-push-url2" ∧ kebabCase "hx_push_url2" = "hx-push-url2" ∧
    capitals.attributes.Made ∧
    (∀ key ∈ capitals.attributes.keys, IsHypermedia key → IsCamel key) ∧
    (kebabAttributes capitals).attributes.at? 0 = some ⟨"hx-u-r-l", some (.int 1)⟩ ∧
    (kebabAttributes capitals).attributes.at? 1 = some (Attribute.bare "dataHxURL") ∧
    (kebabAttributes capitals).attributes.at? 2 = some ⟨"hx-url", some (.int 2)⟩ := by
  have hw : ∀ word ∈ ["push", "url2"], IsLowWord word := by decide
  have hm : capitals.attributes.Made := Attributes.made_iff_nodup_keys.2 (by decide)
  have hc : ∀ key ∈ capitals.attributes.keys, IsHypermedia key → IsCamel key := by decide
  obtain ⟨hwords, -, -, hstage⟩ := kebab_spellings
  obtain ⟨hcamel, hsnake⟩ := hwords _ hw
  obtain ⟨-, -, hat⟩ := hstage capitals hm (.inl hc)
  refine ⟨hw, hcamel, hsnake, hm, hc, ?_, ?_, ?_⟩
  · exact (hat 0 _ rfl).1 (by decide)
  · exact (hat 1 _ rfl).2 (by decide)
  · exact (hat 2 _ rfl).1 (by decide)

end Pipeline
end MarkupTree
