import MarkupTree.Template.Expansion
import MarkupTree.Proofs.Flattening
import MarkupTree.Proofs.Insertion
import MarkupTree.Proofs.Tree

/-! Every element that the library builds is well-formed, and so are the elements inside it: its name is
not reserved, no two of its attributes have one key, and it has no content if it is void. The elements
that are built are those that come from calls, whatever the stages do to a call, as long as they bring
in no elements but built ones. -/
namespace MarkupTree

namespace Element

structure WellFormed (e : Element) : Prop where
  not_reserved : ¬ ("__".toList <+: e.name.toList ∧ "__".toList <:+ e.name.toList)
  nodup_keys : e.attributes.keys.Nodup
  content_of_void : e.isVoid → e.content = none

/-- The elements that the library builds: those of a tag that is not reserved and those of a builder, and
out of these those that calls come to. What a call brings has come through the stages, and the elements
in it have been built. -/
inductive Built : Element → Prop where
  | tag {factory : Factory} {name : String} {e : Element}
      (made : (factory.tag name).result = .ok e) : Built e
  | builder {factory : Factory} {name : String} {e : Element}
      (made : factory.builder? name = some e) : Built e
  | invoke {factory : Factory} {e called : Element} {invocation : Invocation} (before : Built e)
      (inside : ∀ child, .element child ∈ (factory.pipeline.run invocation).content.getD [] →
        Built child)
      (made : (factory.invoke e invocation).result = .ok called) : Built called

end Element

section WellFormed

open Element

theorem isReserved_iff (name : String) :
    Tag.isReserved name ↔ "__".toList <+: name.toList ∧ "__".toList <:+ name.toList := by
  rw [Tag.isReserved, Bool.and_eq_true, List.isPrefixOf_iff_prefix, List.isSuffixOf_iff_suffix]
  rfl

theorem not_isReserved_of_hasBuilder {name : String} (h : Tag.hasBuilder name) :
    ¬ Tag.isReserved name := by
  have hall : ∀ name ∈ Tag.nonVoid ++ Tag.void, ¬ Tag.isReserved name := by decide
  apply hall
  simpa [Tag.hasBuilder] using h

theorem wellFormed_ofTag {name : String} (h : ¬ Tag.isReserved name) :
    (ofTag name).WellFormed where
  not_reserved hn := h ((isReserved_iff name).2 hn)
  nodup_keys := List.nodup_nil
  content_of_void _ := rfl

theorem everywhere_ofTag {name : String} (h : ¬ Tag.isReserved name) :
    (ofTag name).Everywhere WellFormed :=
  .intro _ (wellFormed_ofTag h) nofun

/-- A call keeps what holds everywhere in a tree, if it keeps it on the element itself. -/
theorem Element.Everywhere.invoke {p : Element → Prop} {factory : Factory} {e called : Element}
    {invocation : Invocation} (h : e.Everywhere p)
    (inside : ∀ child, .element child ∈ (factory.pipeline.run invocation).content.getD [] →
      child.Everywhere p)
    (made : (factory.invoke e invocation).result = .ok called) (here : p called) :
    called.Everywhere p := by
  obtain ⟨rfl, -⟩ := Factory.eq_of_invoke made
  refine .intro _ here fun child hc => ?_
  rw [items] at hc
  cases hp : (factory.pipeline.run invocation).content with
  | none =>
    rw [hp] at hc
    exact h.inside hc
  | some items =>
    rw [hp] at inside hc
    exact inside child hc

theorem everywhere_wellFormed_invoke {factory : Factory} {e called : Element}
    {invocation : Invocation} (h : e.Everywhere WellFormed)
    (inside : ∀ child, .element child ∈ (factory.pipeline.run invocation).content.getD [] →
      child.Everywhere WellFormed)
    (made : (factory.invoke e invocation).result = .ok called) :
    called.Everywhere WellFormed := by
  refine h.invoke inside made ?_
  obtain ⟨rfl, hfree⟩ := Factory.eq_of_invoke made
  refine ⟨h.here.not_reserved, Attributes.nodup_keys_insertAll h.here.nodup_keys _, fun hvoid => ?_⟩
  cases hp : (factory.pipeline.run invocation).content with
  | none => exact h.here.content_of_void hvoid
  | some items => exact absurd hvoid (hfree (by rw [hp]; rfl)).2

theorem Element.Built.everywhere_wellFormed {e : Element} (h : e.Built) :
    e.Everywhere WellFormed := by
  induction h with
  | tag made =>
    rw [Factory.result_tag] at made
    split at made
    · cases made
    · rename_i hn
      cases made
      exact everywhere_ofTag hn
  | @builder factory name e made =>
    unfold Factory.builder? at made
    split at made
    · rename_i hb
      cases made
      exact everywhere_ofTag (not_isReserved_of_hasBuilder hb)
    · cases made
  | invoke _ _ made ih inside => exact everywhere_wellFormed_invoke ih inside made

end WellFormed

end MarkupTree
