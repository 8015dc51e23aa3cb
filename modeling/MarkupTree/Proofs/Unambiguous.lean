import MarkupTree.Proofs.NormalForm

/-! Markup tells its tree. Names and keys end at a space, an angle bracket or an equals sign, values at
a quote and texts at an angle bracket, none of which can occur inside; so two documents that are
written alike have one normal form. -/
namespace MarkupTree

section Words

/-- Whether the character can stand in a name, where it neither ends it nor opens what follows. -/
def isWordChar (c : Char) : Bool := !" <>/=\"".toList.contains c

def isWord (text : String) : Bool := !text.toList.isEmpty && text.toList.all isWordChar

def isAttributeChar (c : Char) : Bool := c != ' ' && c != '>'

def Stops (p : Char → Bool) : List Char → Prop
  | [] => False
  | c :: _ => p c = false

theorem stops_cons {p : Char → Bool} {c : Char} {r : List Char} (h : p c = false) :
    Stops p (c :: r) := h

theorem append_inj_of_stops {p : Char → Bool} {a b r s : List Char} (ha : a.all p) (hb : b.all p)
    (hr : Stops p r) (hs : Stops p s) (h : a ++ r = b ++ s) : a = b ∧ r = s := by
  induction a generalizing b with
  | nil =>
    cases b with
    | nil => exact ⟨rfl, h⟩
    | cons d b =>
      have hd : p d = true := List.all_eq_true.1 hb d (List.mem_cons_self ..)
      rw [List.nil_append] at h
      rw [h] at hr
      exact absurd (hd.symm.trans hr) (by decide)
  | cons c a ih =>
    cases b with
    | nil =>
      have hc : p c = true := List.all_eq_true.1 ha c (List.mem_cons_self ..)
      rw [List.nil_append] at h
      rw [← h] at hs
      exact absurd (hc.symm.trans hs) (by decide)
    | cons d b =>
      obtain ⟨rfl, ht⟩ := List.cons.inj h
      rw [List.all_cons, Bool.and_eq_true] at ha hb
      obtain ⟨rfl, hrs⟩ := ih ha.2 hb.2 ht
      exact ⟨rfl, hrs⟩

theorem stops_isWordChar {r : List Char} (h : Stops isAttributeChar r) : Stops isWordChar r := by
  cases r with
  | nil => exact h
  | cons c r =>
    have hc : c = ' ' ∨ c = '>' := by
      by_cases hs : c = ' '
      · exact .inl hs
      · by_cases hg : c = '>'
        · exact .inr hg
        · simp [Stops, isAttributeChar, hs, hg] at h
    rcases hc with rfl | rfl <;> rfl

theorem all_of_isWord {text : String} (h : isWord text) : text.toList.all isWordChar := by
  rw [isWord, Bool.and_eq_true] at h
  exact h.2

theorem exists_cons_of_isWord {text : String} (h : isWord text) :
    ∃ c cs, text.toList = c :: cs ∧ isWordChar c := by
  have ha := all_of_isWord h
  cases hl : text.toList with
  | nil => simp [isWord, hl] at h
  | cons c cs =>
    rw [hl, List.all_cons, Bool.and_eq_true] at ha
    exact ⟨c, cs, rfl, ha.1⟩

theorem escape_append_inj {c : Char} {entity a b : String} {r s : List Char}
    (hc : Text.entity? c = some entity) (ha : c ≠ '&')
    (h : (Text.escape a).toList ++ c :: r = (Text.escape b).toList ++ c :: s) : a = b ∧ r = s := by
  have hp : ∀ text, (Text.escape text).toList.all (· != c) := by
    intro text
    rw [List.all_eq_true]
    intro d hd
    rw [bne_iff_ne]
    rintro rfl
    exact Text.not_mem_escape hc ha text hd
  have hs : ∀ rest, Stops (· != c) (c :: rest) := fun _ => bne_self_eq_false c
  obtain ⟨he, ht⟩ := append_inj_of_stops (hp a) (hp b) (hs r) (hs s) h
  exact ⟨Text.escape_injective (String.toList_inj.1 he), (List.cons.inj ht).2⟩

end Words

section Attributes

variable {a b : Attribute} {as bs : List Attribute} {r s : List Char}

def Attribute.valueChars (a : Attribute) : List Char :=
  match a.value with
  | none => []
  | some value => '=' :: '"' :: ((Text.escape value.display).toList ++ ['"'])

theorem Attribute.chars_eq (a : Attribute) : a.chars = ' ' :: (a.key.toList ++ a.valueChars) := by
  obtain ⟨key, value⟩ := a
  cases value with
  | none => simp [chars, html, valueChars]
  | some value => simp [chars, html, valueChars, value.html_eq_escape_display]

theorem Attribute.stops_valueChars_append (hr : Stops isAttributeChar r) :
    Stops isWordChar (a.valueChars ++ r) := by
  obtain ⟨key, value⟩ := a
  cases value with
  | none => exact stops_isWordChar hr
  | some value => rfl

theorem Attribute.value_eq_of_append (hr : Stops isAttributeChar r) (hs : Stops isAttributeChar s)
    (h : a.valueChars ++ r = b.valueChars ++ s) :
    a.value.map AttributeValue.display = b.value.map AttributeValue.display ∧ r = s := by
  obtain ⟨key, value⟩ := a
  obtain ⟨key', value'⟩ := b
  cases value with
  | none =>
    cases value' with
    | none => exact ⟨rfl, h⟩
    | some value' =>
      have he : r = '=' :: _ := h
      rw [he] at hr
      cases hr
  | some value =>
    cases value' with
    | none =>
      have he : _ = s := h
      rw [← he] at hs
      cases hs
    | some value' =>
      simp only [valueChars, List.cons_append, List.append_assoc, List.cons.injEq, true_and] at h
      obtain ⟨hd, hrs⟩ := escape_append_inj rfl (by decide) h
      exact ⟨congrArg some hd, hrs⟩

theorem Attribute.normal_eq_of_append (ha : isWord a.key) (hb : isWord b.key)
    (hr : Stops isAttributeChar r) (hs : Stops isAttributeChar s)
    (h : a.chars ++ r = b.chars ++ s) : a.normal = b.normal ∧ r = s := by
  rw [chars_eq, chars_eq] at h
  simp only [List.cons_append, List.append_assoc, List.cons.injEq, true_and] at h
  obtain ⟨hk, hv⟩ := append_inj_of_stops (all_of_isWord ha) (all_of_isWord hb)
    (stops_valueChars_append hr) (stops_valueChars_append hs) h
  obtain ⟨hd, hrs⟩ := value_eq_of_append hr hs hv
  refine ⟨?_, hrs⟩
  have hm := congrArg (Option.map AttributeValue.string) hd
  rw [Option.map_map, Option.map_map] at hm
  rw [normal, normal, String.toList_inj.1 hk]
  exact congrArg _ hm

/-- The characters begin with the end of a start tag. -/
def EndsTag (r : List Char) : Prop := (∃ t, r = '>' :: t) ∨ ∃ t, r = ' ' :: '/' :: t

theorem stops_of_endsTag (h : EndsTag r) : Stops isAttributeChar r := by
  rcases h with ⟨t, rfl⟩ | ⟨t, rfl⟩ <;> rfl

theorem not_endsTag_attribute (ha : isWord a.key) : ¬ EndsTag (a.chars ++ r) := by
  obtain ⟨c, cs, hk, hc⟩ := exists_cons_of_isWord ha
  rw [Attribute.chars_eq, hk]
  rintro (⟨t, ht⟩ | ⟨t, ht⟩)
  · cases ht
  · obtain ⟨rfl, -⟩ := List.cons.inj (List.cons.inj ht).2
    cases hc

theorem stops_attributes (h : Stops isAttributeChar r) :
    Stops isAttributeChar (as.flatMap Attribute.chars ++ r) := by
  cases as with
  | nil => exact h
  | cons a as =>
    rw [List.flatMap_cons, Attribute.chars_eq]
    rfl

theorem attributes_eq_of_append (ha : ∀ a ∈ as, isWord a.key) (hb : ∀ b ∈ bs, isWord b.key)
    (hr : EndsTag r) (hs : EndsTag s)
    (h : as.flatMap Attribute.chars ++ r = bs.flatMap Attribute.chars ++ s) :
    as.map Attribute.normal = bs.map Attribute.normal ∧ r = s := by
  induction as generalizing bs with
  | nil =>
    cases bs with
    | nil => exact ⟨rfl, h⟩
    | cons b bs =>
      rw [List.flatMap_nil, List.nil_append, List.flatMap_cons, List.append_assoc] at h
      rw [h] at hr
      exact absurd hr (not_endsTag_attribute (hb b (List.mem_cons_self ..)))
  | cons a as ih =>
    rw [List.flatMap_cons, List.append_assoc] at h
    cases bs with
    | nil =>
      rw [List.flatMap_nil, List.nil_append] at h
      rw [← h] at hs
      exact absurd hs (not_endsTag_attribute (ha a (List.mem_cons_self ..)))
    | cons b bs =>
      rw [List.flatMap_cons, List.append_assoc] at h
      obtain ⟨hn, ht⟩ := Attribute.normal_eq_of_append (ha a (List.mem_cons_self ..))
        (hb b (List.mem_cons_self ..)) (stops_attributes (stops_of_endsTag hr))
        (stops_attributes (stops_of_endsTag hs)) h
      obtain ⟨hns, hrs⟩ := ih (fun a' h' => ha a' (List.mem_cons_of_mem _ h'))
        (fun b' h' => hb b' (List.mem_cons_of_mem _ h')) ht
      rw [List.map_cons, List.map_cons, hn, hns]
      exact ⟨rfl, hrs⟩

end Attributes

section Trees

/-- Whether the item is not markup as it is, nor text as it is. -/
def Item.isLegible (inRawText : Bool) : Item → Bool
  | .element _ => true
  | .raw _ => false
  | .text _ => !inRawText

/-- What has to hold of an element for its markup to tell it: its name and keys are words, it has no
content if it is void, and none of its items are written as they are. -/
structure Element.Legible (e : Element) : Prop where
  isWord_name : isWord e.name
  isWord_keys : ∀ a ∈ e.attributes.entries, isWord a.key
  content_of_void : e.isVoid → e.content = none
  isLegible_items : ∀ item ∈ e.items, item.isLegible e.isRawText

instance (e : Element) : Decidable e.Legible :=
  decidable_of_iff (isWord e.name ∧ (∀ a ∈ e.attributes.entries, isWord a.key) ∧
      (e.isVoid → e.content = none) ∧ ∀ item ∈ e.items, item.isLegible e.isRawText)
    ⟨fun ⟨hn, hk, hc, hi⟩ => ⟨hn, hk, hc, hi⟩, fun ⟨hn, hk, hc, hi⟩ => ⟨hn, hk, hc, hi⟩⟩

def Document.Legible (d : Document) : Prop := ∀ e ∈ d.children, e.Everywhere Element.Legible

/-- Legible trees that are written like this one, with anything behind them, have its normal form. -/
def Element.Determined (e : Element) : Prop :=
  ∀ e', Element.Everywhere Element.Legible e' →
    ∀ r s, e.chars ++ r = e'.chars ++ s → e.normal = e'.normal ∧ r = s

variable {e e' : Element} {r s : List Char}

theorem Element.chars_append_ne_close (h : isWord e.name) :
    e.chars ++ r ≠ '<' :: '/' :: s := by
  obtain ⟨c, cs, hn, hc⟩ := exists_cons_of_isWord h
  rw [chars_eq, hn]
  intro he
  obtain ⟨rfl, -⟩ := List.cons.inj (List.cons.inj he).2
  cases hc

theorem Element.stops_chars_append (e : Element) (r : List Char) :
    Stops (· != '<') (e.chars ++ r) := by
  rw [chars_eq]
  rfl

theorem escape_append_eq_of_stops {text text' : String} (hr : Stops (· != '<') r)
    (hs : Stops (· != '<') s)
    (h : (Text.escape text).toList ++ r = (Text.escape text').toList ++ s) :
    text = text' ∧ r = s := by
  cases r with
  | nil => cases hr
  | cons c r =>
    cases s with
    | nil => cases hs
    | cons d s =>
      obtain rfl : c = '<' := bne_eq_false_iff_eq.1 hr
      obtain rfl : d = '<' := bne_eq_false_iff_eq.1 hs
      obtain ⟨ht, hrs⟩ := escape_append_inj rfl (by decide) h
      exact ⟨ht, congrArg _ hrs⟩

/-- The item is no raw markup, and if it is an element, it has the property. -/
def Item.Clear (p : Element → Prop) : Item → Prop
  | .element e => p e
  | .raw _ => False
  | .text _ => True

/-- The characters of a text, of the items behind it and of the beginning of an end tag. -/
def Item.body (text : String) (items : List Item) (r : List Char) : List Char :=
  (Text.escape text).toList ++ (charsAll false items ++ '<' :: '/' :: r)

theorem Item.body_text (text later : String) (items : List Item) (r : List Char) :
    body text (.text later :: items) r = body (text ++ later) items r := by
  simp [body, written, Text.escape_append]

theorem Item.body_element (text : String) (e : Element) (items : List Item) (r : List Char) :
    body text (.element e :: items) r =
      (Text.escape text).toList ++ (e.chars ++ body "" items r) := by
  have he : (Text.escape "").toList = [] := rfl
  simp [body, he]

theorem Item.eq_of_body_nil {items : List Item} {text text' : String}
    (hi : ∀ item ∈ items, item.Clear (Element.Everywhere Element.Legible))
    (h : body text [] r = body text' items s) :
    consText text [] = consText text' (normalAll items) ∧ r = s := by
  induction items generalizing text' with
  | nil =>
    obtain ⟨rfl, hrs⟩ := escape_append_inj rfl (by decide) h
    rw [List.cons.injEq] at hrs
    exact ⟨rfl, hrs.2⟩
  | cons item items ih =>
    obtain ⟨hitem, hitems⟩ := List.forall_mem_cons.1 hi
    cases item with
    | element e =>
      rw [body_element] at h
      obtain ⟨-, hc⟩ := escape_append_eq_of_stops (stops_cons rfl) (e.stops_chars_append _) h
      exact absurd hc.symm (Element.chars_append_ne_close hitem.here.isWord_name)
    | raw html => exact hitem.elim
    | text later =>
      rw [body_text] at h
      rw [normalAll_text, ← consText_append]
      exact ih hitems h

theorem Item.eq_of_body {items items' : List Item} {text text' : String}
    (hi : ∀ item ∈ items, item.Clear fun e => Element.Everywhere Element.Legible e ∧ e.Determined)
    (hi' : ∀ item ∈ items', item.Clear (Element.Everywhere Element.Legible))
    (h : body text items r = body text' items' s) :
    consText text (normalAll items) = consText text' (normalAll items') ∧ r = s := by
  induction items generalizing text text' items' with
  | nil => exact eq_of_body_nil hi' h
  | cons item items ih =>
    obtain ⟨hitem, hitems⟩ := List.forall_mem_cons.1 hi
    cases item with
    | raw html => exact hitem.elim
    | text later =>
      rw [body_text] at h
      rw [normalAll_text, ← consText_append]
      exact ih hitems hi' h
    | element e =>
      induction items' generalizing text' with
      | nil =>
        rw [body_element] at h
        obtain ⟨-, hc⟩ := escape_append_eq_of_stops (e.stops_chars_append _) (stops_cons rfl) h
        exact absurd hc (Element.chars_append_ne_close hitem.1.here.isWord_name)
      | cons item' items' ih' =>
        obtain ⟨hitem', hitems'⟩ := List.forall_mem_cons.1 hi'
        cases item' with
        | raw html => exact hitem'.elim
        | text later =>
          rw [body_text] at h
          rw [normalAll_text, ← consText_append]
          exact ih' hitems' h
        | element e' =>
          rw [body_element, body_element] at h
          obtain ⟨rfl, hc⟩ :=
            escape_append_eq_of_stops (e.stops_chars_append _) (e'.stops_chars_append _) h
          obtain ⟨hn, hb⟩ := hitem.2 e' hitem' _ _ hc
          obtain ⟨hns, hrs⟩ := ih hitems hitems' hb
          rw [consText_empty, consText_empty] at hns
          rw [normalAll_element, normalAll_element, hn, hns]
          exact ⟨rfl, hrs⟩

theorem Item.charsAll_of_isLegible {inRawText : Bool} {items : List Item}
    (h : ∀ item ∈ items, item.isLegible inRawText) :
    charsAll inRawText items = charsAll false items := by
  induction items with
  | nil => rfl
  | cons item items ih =>
    obtain ⟨hitem, hitems⟩ := List.forall_mem_cons.1 h
    cases item with
    | element e => rw [charsAll_element, charsAll_element, ih hitems]
    | raw html => cases hitem
    | text text =>
      have hr : inRawText = false := by simpa [isLegible] using hitem
      rw [hr]

theorem Element.Legible.clear_items {p : Element → Prop} (h : e.Legible)
    (hp : ∀ child, Item.element child ∈ e.items → p child) : ∀ item ∈ e.items, item.Clear p := by
  intro item hi
  have hl := h.isLegible_items item hi
  cases item with
  | element child => exact hp child hi
  | raw html => cases hl
  | text text => trivial

theorem Element.endsTag_ending (e : Element) (r : List Char) : EndsTag (e.ending ++ r) := by
  unfold ending
  by_cases hv : e.isVoid
  · rw [if_pos hv]
    exact .inr ⟨_, rfl⟩
  · rw [if_neg hv]
    exact .inl ⟨_, rfl⟩

/-- Behind the attributes, elements of one name are told apart by what is in them. -/
theorem Element.content_eq_of_ending (hn : e.name = e'.name) (h : e.Legible) (h' : e'.Legible)
    (hi : ∀ child, Item.element child ∈ e.items → child.Everywhere Legible ∧ child.Determined)
    (hi' : ∀ child, Item.element child ∈ e'.items → child.Everywhere Legible)
    (he : e.ending ++ r = e'.ending ++ s) :
    e.normal.content = e'.normal.content ∧ r = s := by
  have hv : e'.isVoid = e.isVoid := by rw [isVoid, isVoid, hn]
  have hr : e'.isRawText = e.isRawText := by rw [isRawText, isRawText, hn]
  rw [normal_eq, normal_eq, hv]
  unfold ending at he
  rw [hv, hr] at he
  by_cases hev : e.isVoid
  · rw [if_pos hev, if_pos hev] at he
    refine ⟨?_, List.append_cancel_left he⟩
    simp only [hev, if_true, h.content_of_void hev, h'.content_of_void (hv.trans hev)]
  · simp only [hev] at he ⊢
    have hl := h'.isLegible_items
    rw [hr] at hl
    rw [Item.charsAll_of_isLegible h.isLegible_items, Item.charsAll_of_isLegible hl] at he
    have hb : Item.body "" e.items (e.name.toList ++ '>' :: r) =
        Item.body "" e'.items (e'.name.toList ++ '>' :: s) := by
      simpa [Item.body] using he
    obtain ⟨hc, hrs⟩ := Item.eq_of_body (h.clear_items hi) (h'.clear_items hi') hb
    rw [hn] at hrs
    rw [Item.consText_empty, Item.consText_empty] at hc
    exact ⟨congrArg some hc, (List.cons.inj (List.append_cancel_left hrs)).2⟩

theorem Element.determined_of_legible (h : e.Everywhere Element.Legible) : e.Determined := by
  induction h with
  | intro e here inside ih =>
    intro e' h' r s hc
    rw [chars_eq, chars_eq] at hc
    simp only [List.cons_append, List.append_assoc, List.cons.injEq, true_and] at hc
    obtain ⟨hn, ha⟩ := append_inj_of_stops (all_of_isWord here.isWord_name)
      (all_of_isWord h'.here.isWord_name)
      (stops_isWordChar (stops_attributes (stops_of_endsTag (e.endsTag_ending r))))
      (stops_isWordChar (stops_attributes (stops_of_endsTag (e'.endsTag_ending s)))) hc
    obtain ⟨has, he⟩ := attributes_eq_of_append here.isWord_keys h'.here.isWord_keys
      (e.endsTag_ending r) (e'.endsTag_ending s) ha
    have hname : e.name = e'.name := String.toList_inj.1 hn
    obtain ⟨hcontent, hrs⟩ := content_eq_of_ending hname here h'.here
      (fun child hchild => ⟨inside child hchild, ih child hchild⟩)
      (fun child hchild => h'.inside hchild) he
    rw [normal_eq, normal_eq] at hcontent ⊢
    refine ⟨?_, hrs⟩
    rw [hname, Attributes.normal, Attributes.normal, has]
    exact congrArg _ hcontent

theorem normal_eq_of_flatMap_chars {es es' : List Element}
    (h : ∀ e ∈ es, e.Everywhere Element.Legible) (h' : ∀ e ∈ es', e.Everywhere Element.Legible)
    (hc : es.flatMap Element.chars = es'.flatMap Element.chars) :
    es.map Element.normal = es'.map Element.normal := by
  induction es generalizing es' with
  | nil =>
    cases es' with
    | nil => rfl
    | cons e' es' =>
      rw [List.flatMap_cons, Element.chars_eq] at hc
      cases hc
  | cons e es ih =>
    obtain ⟨he, hes⟩ := List.forall_mem_cons.1 h
    cases es' with
    | nil =>
      rw [List.flatMap_cons, Element.chars_eq] at hc
      cases hc
    | cons e' es' =>
      obtain ⟨he', hes'⟩ := List.forall_mem_cons.1 h'
      obtain ⟨hn, ht⟩ := Element.determined_of_legible he e' he' _ _ hc
      rw [List.map_cons, List.map_cons, hn, ih hes hes' ht]

/-- Legible documents are written alike just when they have one normal form. -/
theorem Document.html_eq_iff_normal_eq {d d' : Document} (h : d.Legible) (h' : d'.Legible) :
    d.html = d'.html ↔ d.normal = d'.normal := by
  constructor
  · intro hh
    have hc := congrArg String.toList hh
    rw [toList_html, toList_html] at hc
    exact congrArg Document.mk (normal_eq_of_flatMap_chars h h' hc)
  · intro hn
    rw [← html_normal d, hn, html_normal]

/-- A number and its digits, and a text in parts and in one, with a void element beside it. -/
theorem html_eq_of_parts :
    Document.Legible ⟨[⟨"p", ⟨[⟨"id", some (.int 1)⟩, ⟨"hidden", none⟩]⟩,
      some [.text "a", .element ⟨"br", .empty, none⟩, .text "<", .text "", .text "b>"]⟩]⟩ ∧
    Document.Legible ⟨[⟨"p", ⟨[⟨"id", some (.string "1")⟩, ⟨"hidden", none⟩]⟩,
      some [.text "a", .element ⟨"br", .empty, none⟩, .text "<b>"]⟩]⟩ ∧
    Document.html ⟨[⟨"p", ⟨[⟨"id", some (.int 1)⟩, ⟨"hidden", none⟩]⟩,
      some [.text "a", .element ⟨"br", .empty, none⟩, .text "<", .text "", .text "b>"]⟩]⟩ =
      Document.html ⟨[⟨"p", ⟨[⟨"id", some (.string "1")⟩, ⟨"hidden", none⟩]⟩,
        some [.text "a", .element ⟨"br", .empty, none⟩, .text "<b>"]⟩]⟩ := by
  have hbr : Element.Everywhere Element.Legible ⟨"br", .empty, none⟩ :=
    .intro _ (by decide) (by simp [Element.items])
  refine ⟨?parts, ?whole, (Document.html_eq_iff_normal_eq ?parts ?whole).2 rfl⟩
  case parts =>
    intro e he
    rw [List.mem_singleton.1 he]
    refine .intro _ (by decide) fun child hc => ?_
    have hchild : child = ⟨"br", .empty, none⟩ := by simpa [Element.items] using hc
    rwa [hchild]
  case whole =>
    intro e he
    rw [List.mem_singleton.1 he]
    refine .intro _ (by decide) fun child hc => ?_
    have hchild : child = ⟨"br", .empty, none⟩ := by simpa [Element.items] using hc
    rwa [hchild]

end Trees

end MarkupTree
