import Mathlib.Data.List.Chain
import MarkupTree.Proofs.Gathering
import MarkupTree.Proofs.Serialization

/-! The strings of a bounded rendering. Each is made up of whole chunks, and a string that is too
long is a single one. The next string begins because its first chunk would have made this one too
long, so no other way to cut the chunks needs fewer strings. -/
namespace MarkupTree
namespace Render

section Blocks

variable {block others : List String} {size : Nat}

def weight (block : List String) : Nat := (String.join block).utf8ByteSize

def solid (block : List String) : List String := block.filter (· ≠ "")

@[simp] theorem weight_singleton (chunk : String) : weight [chunk] = chunk.utf8ByteSize := by
  simp [weight]

@[simp] theorem weight_append (block others : List String) :
    weight (block ++ others) = weight block + weight others := by
  simp [weight, String.join_append, String.utf8ByteSize_append]

@[simp] theorem solid_append (block others : List String) :
    solid (block ++ others) = solid block ++ solid others := List.filter_append ..

theorem join_solid (block : List String) : String.join (solid block) = String.join block := by
  induction block with
  | nil => rfl
  | cons chunk block ih =>
    by_cases h : chunk = ""
    · simpa [solid, h] using ih
    · simpa [solid, h] using ih

theorem solid_eq_nil_iff : solid block = [] ↔ String.join block = "" := by
  constructor
  · intro h
    rw [← join_solid, h, String.join_nil]
  · intro h
    apply List.filter_eq_nil_iff.2
    induction block with
    | nil => nofun
    | cons chunk block ih =>
      rw [String.join_cons, String.append_eq_empty_iff] at h
      simpa [h.1] using ih h.2

/-- The chunks can make up a string: where they have more bytes than it should have, only one of
them is not empty. -/
def Fits (size : Nat) (block : List String) : Prop :=
  size < weight block → solid block = [String.join block]

theorem fits_singleton (size : Nat) (chunk : String) : Fits size [chunk] := by
  intro h
  have hne : chunk ≠ "" := by
    rintro rfl
    simp at h
  simp [solid, hne]

/-- A chunk goes to those before it if they stay short enough, or if there is nothing before it. -/
theorem fits_append_chunk {chunk : String}
    (hc : String.join block = "" ∨ weight block + chunk.utf8ByteSize ≤ size) :
    Fits size (block ++ [chunk]) := by
  intro hlt
  rcases hc with hempty | hle
  · have hjoin : String.join (block ++ [chunk]) = String.join [chunk] := by
      rw [String.join_append, hempty, String.empty_append]
    have hweight : size < weight [chunk] := by
      rw [weight, ← hjoin]
      exact hlt
    rw [solid_append, solid_eq_nil_iff.2 hempty, List.nil_append, hjoin]
    exact fits_singleton size chunk hweight
  · rw [weight_append, weight_singleton] at hlt
    exact absurd hle (Nat.not_le.2 hlt)

/-- The blocks are those of a bounded rendering. -/
structure Packed (size : Nat) (blocks : List (List String)) : Prop where
  ne_empty : ∀ block ∈ blocks, String.join block ≠ ""
  fits : ∀ block ∈ blocks, Fits size block
  full : blocks.IsChain fun block next =>
    ∃ chunk, (solid next).head? = some chunk ∧ size < weight block + chunk.utf8ByteSize

theorem Packed.cons {blocks : List (List String)} (h : Packed size blocks)
    (hne : String.join block ≠ "") (hf : Fits size block)
    (hfull : ∀ next ∈ blocks.head?,
      ∃ chunk, (solid next).head? = some chunk ∧ size < weight block + chunk.utf8ByteSize) :
    Packed size (block :: blocks) where
  ne_empty := List.forall_mem_cons.2 ⟨hne, h.ne_empty⟩
  fits := List.forall_mem_cons.2 ⟨hf, h.fits⟩
  full := List.isChain_cons.2 ⟨hfull, h.full⟩

end Blocks

section Packing

variable {render last : Render} {chunks held : List String} {size : Nat}

theorem Gathers.fits (h : Gathers render chunks last) (hs : render.chunkSize = some size)
    (hb : String.join held = render.buffer) (hf : Fits size held) : Fits size (held ++ chunks) := by
  induction h generalizing held with
  | nothing render =>
    rw [List.append_nil]
    exact hf
  | @more render later last chunk chunks pulled fits rest ih =>
    obtain ⟨hbuffer, hsize, -⟩ := eq_of_pull pulled
    have hchunk : String.join held = "" ∨ weight held + chunk.utf8ByteSize ≤ size := by
      have hover := mt (overflows_iff (hsize.trans hs) chunk).2 (by simp [fits])
      rw [hbuffer, ← hb] at hover
      simpa [weight, or_iff_not_imp_left] using hover
    have hjoin : String.join (held ++ [chunk]) = later.buffer ++ chunk := by
      rw [String.join_append, hb, hbuffer]
      simp
    have hall := ih (hsize.trans hs) hjoin (fits_append_chunk hchunk)
    rwa [List.append_assoc] at hall

theorem Gathers.pending_eq (h : Gathers render chunks last) :
    render.pending = chunks ++ last.pending := by
  rw [← toCome_place, ← toCome_place, h.pulls.toCome_eq]

theorem exists_solid_of_weight {chunk : String} (h : size < weight chunks + chunk.utf8ByteSize)
    {block : List String} (hb : [chunk] <+: block) (hne : String.join block ≠ "") :
    ∃ first, (solid block).head? = some first ∧ size < weight chunks + first.utf8ByteSize := by
  obtain ⟨rest, rfl⟩ := hb
  by_cases hchunk : chunk = ""
  · obtain ⟨first, others, hs⟩ := List.exists_cons_of_ne_nil (mt solid_eq_nil_iff.1 hne)
    refine ⟨first, by rw [hs]; rfl, ?_⟩
    rw [hchunk, String.utf8ByteSize_empty] at h
    omega
  · exact ⟨chunk, by simp [solid, hchunk], h⟩

/-- The strings of a bounded rendering are those of packed blocks, which are what the buffer was
made of and what was to come, but for empty chunks behind the last string. -/
theorem HandsOut.exists_packed {texts : List String} (h : HandsOut render texts)
    (hs : render.chunkSize = some size) (hr : render.finished = false)
    (hb : String.join held = render.buffer) (hf : Fits size held) :
    ∃ blocks trailing, texts = blocks.map String.join ∧
      blocks.flatten ++ trailing = held ++ render.pending ∧ String.join trailing = "" ∧
      Packed size blocks ∧ ∀ block ∈ blocks.head?, held <+: block := by
  induction h generalizing held with
  | @ended render hn =>
    have hc := comesTo_next hr
    generalize render.next.value = outcome at hn hc
    cases hc with
    | full gathers pulled large => cases hn
    | @ended last chunks gathers nothing =>
      obtain ⟨answer, hfinish, hanswer, -⟩ := last.finish_eq
      rw [hfinish] at hn
      obtain rfl : answer = none := hn
      refine ⟨[], held ++ chunks, rfl, ?_, ?_, ⟨nofun, nofun, .nil⟩, nofun⟩
      · rw [gathers.pending_eq, pending_eq_nil_of_pull nothing]
        simp
      · rw [String.join_append, hb, ← gathers.keeps.1, ← hanswer]
        rfl
  | @handed render text texts hn rest ih =>
    have hc := comesTo_next hr
    generalize render.next.value = outcome at hn hc rest ih
    cases hc with
    | @full last later chunk chunks gathers pulled large =>
      obtain ⟨hbuffer, hsize, hfinished⟩ := gathers.keeps
      obtain ⟨hkept, hs', hf'⟩ := eq_of_pull pulled
      have hlater : later.chunkSize = some size := hs'.trans (hsize.trans hs)
      have hbegun : String.join [chunk] = chunk := by simp
      obtain ⟨blocks, trailing, rfl, hflat, htrailing, hpacked, hfirst⟩ :=
        ih hlater (hf'.trans (hfinished.trans hr)) hbegun (fits_singleton size chunk)
      have hjoin : String.join (held ++ chunks) = later.buffer := by
        rw [String.join_append, hb, hkept, hbuffer]
      obtain rfl : later.buffer = text := Option.some.inj hn
      obtain ⟨hne, hlt⟩ := (overflows_iff hlater chunk).1 large
      refine ⟨(held ++ chunks) :: blocks, trailing, ?_, ?_, htrailing, ?_, ?_⟩
      · rw [List.map_cons, hjoin]
      · rw [List.flatten_cons, List.append_assoc, hflat, gathers.pending_eq,
          pending_eq_cons_of_pull pulled, List.append_assoc]
        rfl
      · refine hpacked.cons (hjoin ▸ hne) (gathers.fits hs hb hf) fun next hnext => ?_
        rw [← hjoin] at hlt
        exact exists_solid_of_weight hlt (hfirst next hnext)
          (hpacked.ne_empty next (List.mem_of_mem_head? hnext))
      · rintro block ⟨⟩
        exact List.prefix_append held chunks
    | @ended last chunks gathers nothing =>
      obtain ⟨answer, hfinish, hanswer, hnone⟩ := last.finish_eq
      rw [hfinish] at hn rest
      obtain rfl := rest.eq_nil_of_finished rfl
      obtain rfl : answer = some text := hn
      have hjoin : String.join (held ++ chunks) = text := by
        rw [String.join_append, hb, ← gathers.keeps.1, ← hanswer]
        rfl
      have hne : text ≠ "" := by
        rintro rfl
        have hsome : last.chunkSize.isSome := by
          rw [gathers.keeps.2.1, hs]
          rfl
        exact absurd (hnone.2 ⟨hsome, hanswer.symm⟩) nofun
      refine ⟨[held ++ chunks], [], ?_, ?_, rfl, ?_, ?_⟩
      · rw [List.map_singleton, hjoin]
      · rw [gathers.pending_eq, pending_eq_nil_of_pull nothing]
        simp
      · have hpacked : Packed size [] := ⟨nofun, nofun, .nil⟩
        exact hpacked.cons (hjoin ▸ hne) (gathers.fits hs hb hf) nofun
      · rintro block ⟨⟩
        exact List.prefix_append held chunks

end Packing

section Rendered

variable {elements : List Element} {size : Nat}

theorem exists_last_chunk (e : Element) :
    ∃ before last, e.chunks = before ++ [last] ∧ last ≠ "" := by
  obtain ⟨before, last, hrest, hne⟩ : ∃ before last, e.rest = before ++ [last] ∧ last ≠ "" := by
    unfold Element.rest
    split
    · exact ⟨[], " />", rfl, by decide⟩
    · cases e.content with
      | none => exact ⟨[], "></" ++ e.name ++ ">", rfl, by simp [String.append_eq_empty_iff]⟩
      | some items =>
        exact ⟨">" :: items.flatMap (Item.pieces e.isRawText), "</" ++ e.name ++ ">", rfl,
          by simp [String.append_eq_empty_iff]⟩
  refine ⟨("<" ++ e.name) :: (e.attributes.entries.map Attribute.html ++ before), last, ?_, hne⟩
  rw [Element.chunks_eq_pieces, Element.pieces_eq, hrest, List.cons_append, List.append_assoc]

theorem eq_nil_of_join_eq_empty {chunks trailing : List String}
    (h : chunks ++ trailing = elements.flatMap Element.chunks)
    (ht : String.join trailing = "") : trailing = [] := by
  rcases List.eq_nil_or_concat trailing with rfl | ⟨others, chunk, rfl⟩
  · rfl
  · have hchunk : chunk = "" := by
      rw [List.concat_eq_append, String.join_append, String.append_eq_empty_iff] at ht
      simpa using ht.2
    rcases List.eq_nil_or_concat elements with rfl | ⟨es, e, rfl⟩
    · simp at h
    · obtain ⟨before, last, he, hne⟩ := exists_last_chunk e
      have hends := congrArg List.getLast? h
      simp [he, hchunk] at hends
      exact absurd hends hne

/-- The strings of a bounded rendering are those of packed blocks, into which the chunks of the
elements are cut. -/
theorem exists_blocks (elements : List Element) (h : 1 ≤ size) :
    ∃ blocks, (renderAll elements ⟨some size⟩).result = .ok (blocks.map String.join) ∧
      blocks.flatten = elements.flatMap Element.chunks ∧ Packed size blocks := by
  obtain ⟨texts, ht, hl⟩ := (fresh elements (some size)).exists_handsOut
  have hbuffer : String.join [] = (fresh elements (some size)).buffer := rfl
  obtain ⟨blocks, trailing, rfl, hflat, htrailing, hpacked, -⟩ :=
    ht.exists_packed rfl rfl hbuffer nofun
  rw [pending_fresh, List.nil_append] at hflat
  obtain rfl := eq_nil_of_join_eq_empty hflat htrailing
  rw [List.append_nil] at hflat
  have hsize : (some size : Option Nat) ≠ some 0 := by simp; omega
  exact ⟨blocks, by rw [result_renderAll hsize, ht.toList_eq rfl hl], hflat, hpacked⟩

/-- A bounded rendering cuts the chunks of its elements into blocks, one for each string. No string
is empty, one that is too long is a single chunk, and each but the last would be too long with the
first chunk of the next that is not empty. -/
theorem rendered_in_blocks (elements : List Element) (h : 1 ≤ size) :
    ∃ blocks, (renderAll elements ⟨some size⟩).result = .ok (blocks.map String.join) ∧
      blocks.flatten = elements.flatMap Element.chunks ∧ Packed size blocks ∧
      (elements = [] → blocks = []) := by
  obtain ⟨blocks, hr, hflat, hpacked⟩ := exists_blocks elements h
  refine ⟨blocks, hr, hflat, hpacked, ?_⟩
  rintro rfl
  cases blocks with
  | nil => rfl
  | cons block blocks =>
    have hblock : block = [] := (List.append_eq_nil_iff.1 hflat).1
    exact absurd (hblock ▸ rfl) (hpacked.ne_empty block List.mem_cons_self)

/-- Text that is too long for strings of four bytes, with empty text on both sides of it. -/
theorem blocks_of_long_text :
    1 ≤ 4 ∧ ∃ blocks,
      (renderAll [⟨"p", Attributes.empty, some [.text "", .text "<<", .text ""]⟩]
        ⟨some 4⟩).result = .ok (blocks.map String.join) ∧
      blocks.flatten = ["<p", ">", "", "&lt;&lt;", "", "</p>"] ∧ Packed 4 blocks ∧
      blocks.map String.join = ["<p>", "&lt;&lt;", "</p>"] := by
  obtain ⟨blocks, hr, hflat, hpacked, -⟩ := rendered_in_blocks
    [⟨"p", Attributes.empty, some [.text "", .text "<<", .text ""]⟩] (show 1 ≤ 4 by decide)
  refine ⟨by decide, blocks, hr, hflat.trans (by decide +kernel), hpacked, ?_⟩
  rw [result_renderAll (by decide)] at hr
  rw [← Except.ok.inj hr]
  decide +kernel

end Rendered

section Cuts

variable {size : Nat}

/-- The groups are a way to cut the chunks for strings of a size: a group of two chunks and more,
empty ones aside, has no more bytes than that. -/
structure IsCut (size : Nat) (chunks : List String) (groups : List (List String)) : Prop where
  flatten_eq : groups.flatten = chunks
  small : ∀ group ∈ groups, 2 ≤ (solid group).length → weight group ≤ size

/-- The groups that have a string. -/
def filled (groups : List (List String)) : List (List String) :=
  groups.filter fun group => String.join group ≠ ""

/-- A group that reaches from the beginning of a block into the next one is too large. -/
theorem lt_weight_of_beyond {block next beyond : List String} {chunk : String}
    (before : List String)
    (hchunk : next.head? = some chunk) (hlt : size < weight block + chunk.utf8ByteSize)
    {others rest : List String} (hne : beyond ≠ []) (h : next ++ others = beyond ++ rest) :
    size < weight (before ++ (block ++ beyond)) := by
  obtain ⟨first, more, rfl⟩ := List.exists_cons_of_ne_nil hne
  have hfirst : first = chunk := by
    have hhead := congrArg List.head? h
    simpa [List.head?_append, hchunk, eq_comm] using hhead
  have hcons : weight (first :: more) = chunk.utf8ByteSize + weight more := by
    rw [← List.singleton_append, weight_append, weight_singleton, hfirst]
  rw [weight_append, weight_append, hcons]
  omega

/-- A group that is small enough ends before the second of two blocks begins. -/
theorem exists_after_group {block before inside rest : List String} {blocks : List (List String)}
    (hb : ∀ b ∈ block :: blocks, b ≠ [])
    (hfull : (block :: blocks).IsChain fun block next =>
      ∃ chunk, next.head? = some chunk ∧ size < weight block + chunk.utf8ByteSize)
    (hsmall : 2 ≤ (before ++ inside).length → weight (before ++ inside) ≤ size)
    (h : (block :: blocks).flatten = inside ++ rest) : ∃ after, rest = after ++ blocks.flatten := by
  rw [List.flatten_cons] at h
  rcases List.append_eq_append_iff.1 h with ⟨beyond, rfl, hmore⟩ | ⟨after, -, hafter⟩
  · by_cases hne : beyond = []
    · exact ⟨[], by rw [hmore, hne]; rfl⟩
    · cases blocks with
      | nil => exact absurd (List.append_eq_nil_iff.1 hmore.symm).1 hne
      | cons next blocks =>
        obtain ⟨chunk, hchunk, hlt⟩ := (List.isChain_cons_cons.1 hfull).1
        have hlarge := lt_weight_of_beyond before hchunk hlt hne hmore
        have hblock := List.length_pos_of_ne_nil (hb block List.mem_cons_self)
        have hbeyond := List.length_pos_of_ne_nil hne
        have hlength : 2 ≤ (before ++ (block ++ beyond)).length := by
          simp only [List.length_append]
          omega
        exact absurd (hsmall hlength) (Nat.not_le.2 hlarge)
  · exact ⟨after, hafter⟩

/-- However chunks are cut, no group has the first chunks of two blocks, so there are as many groups
as blocks at least. -/
theorem length_le_of_flatten_eq {groups blocks : List (List String)} {before : List String}
    (hg : ∀ group ∈ groups, 2 ≤ group.length → weight group ≤ size)
    (hb : ∀ block ∈ blocks, block ≠ [])
    (hfull : blocks.IsChain fun block next =>
      ∃ chunk, next.head? = some chunk ∧ size < weight block + chunk.utf8ByteSize)
    (h : groups.flatten = before ++ blocks.flatten) :
    blocks.length ≤ (groups.filter (· ≠ [])).length := by
  induction groups generalizing before blocks with
  | nil =>
    cases blocks with
    | nil => exact Nat.le_refl 0
    | cons block blocks =>
      have hnil : block ++ blocks.flatten = [] := (List.append_eq_nil_iff.1 h.symm).2
      exact absurd (List.append_eq_nil_iff.1 hnil).1 (hb block List.mem_cons_self)
  | cons group groups ih =>
    obtain ⟨hgroup, hgroups⟩ := List.forall_mem_cons.1 hg
    have hle : (groups.filter (· ≠ [])).length ≤ ((group :: groups).filter (· ≠ [])).length :=
      ((List.sublist_cons_self group groups).filter _).length_le
    rcases List.append_eq_append_iff.1 h with ⟨after, -, hafter⟩ | ⟨inside, rfl, hrest⟩
    · exact (ih hgroups hb hfull hafter).trans hle
    · by_cases hempty : inside = []
      · rw [hempty, List.nil_append] at hrest
        have hrest' : groups.flatten = [] ++ blocks.flatten := hrest.symm
        exact (ih hgroups hb hfull hrest').trans hle
      · cases blocks with
        | nil => exact Nat.zero_le _
        | cons block blocks =>
          obtain ⟨after, hafter⟩ := exists_after_group hb hfull hgroup hrest
          have hlater := ih hgroups (List.forall_mem_cons.1 hb).2 hfull.tail hafter
          have hsucc : ((before ++ inside) :: groups).filter (· ≠ []) =
              (before ++ inside) :: groups.filter (· ≠ []) :=
            List.filter_cons_of_pos (by simp [hempty])
          rw [hsucc]
          exact Nat.succ_le_succ hlater

theorem weight_solid (block : List String) : weight (solid block) = weight block := by
  rw [weight, join_solid, weight]

/-- No way to cut the chunks has fewer strings than there are packed blocks. -/
theorem Packed.length_le {blocks groups : List (List String)} (h : Packed size blocks)
    (hc : IsCut size blocks.flatten groups) : blocks.length ≤ (filled groups).length := by
  have hg : ∀ group ∈ groups.map solid, 2 ≤ group.length → weight group ≤ size := by
    intro _ hm hlength
    obtain ⟨group, hmem, rfl⟩ := List.mem_map.1 hm
    rw [weight_solid]
    exact hc.small group hmem hlength
  have hb : ∀ block ∈ blocks.map solid, block ≠ [] := by
    intro _ hm
    obtain ⟨block, hmem, rfl⟩ := List.mem_map.1 hm
    exact mt solid_eq_nil_iff.1 (h.ne_empty block hmem)
  have hfull : (blocks.map solid).IsChain fun block next =>
      ∃ chunk, next.head? = some chunk ∧ size < weight block + chunk.utf8ByteSize := by
    rw [List.isChain_map]
    simpa only [weight_solid] using h.full
  have hflat : (groups.map solid).flatten = [] ++ (blocks.map solid).flatten := by
    have hsolid := congrArg solid hc.flatten_eq
    rw [solid, solid, List.filter_flatten, List.filter_flatten] at hsolid
    exact hsolid
  have hle := length_le_of_flatten_eq hg hb hfull hflat
  have hfilled : ((groups.map solid).filter (· ≠ [])).length = (filled groups).length := by
    rw [filled, List.filter_map, List.length_map]
    simp [Function.comp_def, solid_eq_nil_iff]
  rwa [List.length_map, hfilled] at hle

theorem Packed.isCut {blocks : List (List String)} (h : Packed size blocks) {larger : Nat}
    (hl : size ≤ larger) : IsCut larger blocks.flatten blocks where
  flatten_eq := rfl
  small block hm hlength := by
    by_contra hlt
    have hone := h.fits block hm (by omega)
    rw [hone] at hlength
    simp at hlength

theorem filled_eq_self {blocks : List (List String)} (h : Packed size blocks) :
    filled blocks = blocks :=
  List.filter_eq_self.2 fun block hm => by simpa using h.ne_empty block hm

theorem Packed.eq_singleton {blocks : List (List String)} (h : Packed size blocks)
    (hne : blocks ≠ []) (hle : weight blocks.flatten ≤ size) : blocks = [blocks.flatten] := by
  have hcut : IsCut size blocks.flatten [blocks.flatten] := ⟨by simp, by simp [hle]⟩
  have hfew : (filled [blocks.flatten]).length ≤ 1 := List.length_filter_le _ _
  obtain ⟨block, more, rfl⟩ := List.exists_cons_of_ne_nil hne
  have hmore : more = [] := by
    have hlength := (h.length_le hcut).trans hfew
    simpa using hlength
  rw [hmore]
  simp

theorem result_renderAll_unbounded (elements : List Element) :
    (renderAll elements ⟨none⟩).result = .ok [Document.html ⟨elements⟩] := by
  have hnone : (⟨none⟩ : RenderOptions).chunkSize ≠ some 0 := nofun
  obtain ⟨texts, hr, -, -, hone⟩ := Document.exists_rendered ⟨elements⟩ hnone
  rw [← hone rfl]
  exact hr

/-- No way to cut the chunks of the elements has fewer strings than a bounded rendering, which is
itself such a way. So longer strings are not more, and if all that there is fits into one, there is
one. -/
theorem rendering_is_optimal (elements : List Element) (h : 1 ≤ size) :
    ∃ texts, (renderAll elements ⟨some size⟩).result = .ok texts ∧
      (∀ groups, IsCut size (elements.flatMap Element.chunks) groups →
        texts.length ≤ (filled groups).length) ∧
      (∃ groups, IsCut size (elements.flatMap Element.chunks) groups ∧
        texts = (filled groups).map String.join) ∧
      (∀ larger, size ≤ larger → ∃ others, (renderAll elements ⟨some larger⟩).result = .ok others ∧
        others.length ≤ texts.length) ∧
      (elements ≠ [] → (Document.html ⟨elements⟩).utf8ByteSize ≤ size →
        texts = [Document.html ⟨elements⟩] ∧ (renderAll elements ⟨none⟩).result = .ok texts) := by
  obtain ⟨blocks, hr, hflat, hpacked⟩ := exists_blocks elements h
  refine ⟨blocks.map String.join, hr, fun groups hc => ?_, ⟨blocks, ?_, ?_⟩, fun larger hl => ?_,
    fun hne hle => ?_⟩
  · rw [← hflat] at hc
    rw [List.length_map]
    exact hpacked.length_le hc
  · rw [← hflat]
    exact hpacked.isCut (Nat.le_refl size)
  · rw [filled_eq_self hpacked]
  · obtain ⟨others, hro, hflato, hpackedo⟩ := exists_blocks elements (h.trans hl)
    refine ⟨others.map String.join, hro, ?_⟩
    have hcut := hpacked.isCut hl
    rw [hflat, ← hflato] at hcut
    have hle := hpackedo.length_le hcut
    rw [filled_eq_self hpacked] at hle
    rwa [List.length_map, List.length_map]
  · have hblocks : blocks ≠ [] := by
      rintro rfl
      obtain ⟨e, es, rfl⟩ := List.exists_cons_of_ne_nil hne
      obtain ⟨before, last, he, -⟩ := exists_last_chunk e
      simp [he] at hflat
    have hone := hpacked.eq_singleton hblocks (by rw [hflat]; exact hle)
    have htexts : blocks.map String.join = [Document.html ⟨elements⟩] := by
      rw [hone, hflat]
      rfl
    rw [htexts]
    exact ⟨rfl, result_renderAll_unbounded elements⟩

/-- No cut has fewer strings than the three of the paragraph with text that is too long. -/
theorem three_strings_of_long_text :
    1 ≤ 4 ∧ ∃ texts,
      (renderAll [⟨"p", Attributes.empty, some [.text "", .text "<<", .text ""]⟩]
        ⟨some 4⟩).result = .ok texts ∧ texts = ["<p>", "&lt;&lt;", "</p>"] ∧
      ∀ groups, IsCut 4 ["<p", ">", "", "&lt;&lt;", "", "</p>"] groups →
        3 ≤ (filled groups).length := by
  obtain ⟨texts, hr, hleast, -⟩ := rendering_is_optimal
    [⟨"p", Attributes.empty, some [.text "", .text "<<", .text ""]⟩] (show 1 ≤ 4 by decide)
  have hchunks : [(⟨"p", Attributes.empty, some [.text "", .text "<<", .text ""]⟩ :
      Element)].flatMap Element.chunks = ["<p", ">", "", "&lt;&lt;", "", "</p>"] := by
    decide +kernel
  have htexts : texts = ["<p>", "&lt;&lt;", "</p>"] := by
    have hvalue := hr
    rw [result_renderAll (by decide)] at hvalue
    rw [← Except.ok.inj hvalue]
    decide +kernel
  rw [hchunks, htexts] at hleast
  exact ⟨by decide, texts, hr, htexts, hleast⟩

end Cuts

end Render
end MarkupTree
