import Mathlib.Data.List.Basic
import Mathlib.Data.List.TakeWhile
import MarkupTree.Proofs.Flattening

/-! Lazy sequences are pulled no further than they have to be. Of the items of all the sequences in
content, wherever they stand, those are pulled that begin before the first leaf that fails, each of them
once and in the order in which they stand. To tell the items apart, content is read with a note of the
place of each item pulled; where the note only counts, that is the reading of content as it is. -/
namespace MarkupTree
namespace Content

/-- A place in content: the index in the list around it, then the index of that list in the one around
it, and so on outwards. -/
abbrev Address := List Nat

/-- What a reader comes to from left to right. -/
inductive Stop where
  /-- An item of a lazy sequence begins. -/
  | item (address : Address)
  | leaf (address : Address) (leaf : Leaf)

def stopsCopies (address : Address) (stops : Address → List Stop) (index : Nat) : Nat → List Stop
  | 0 => []
  | count + 1 =>
    .item (index :: address) ::
      (stops (index :: address) ++ stopsCopies address stops (index + 1) count)

mutual

/-- All stops of content, as if none of them failed. -/
def stops (address : Address) : Content → List Stop
  | .present content => content.stops address
  | .succeeded content => content.stops address
  | .list contents => stopsAll address 0 contents
  | .sequence contents => stopsEach address 0 contents
  | .copies count content => stopsCopies address (fun place => content.stops place) 0 count
  | content => content.leaves.map (.leaf address)

def stopsAll (address : Address) (index : Nat) : List Content → List Stop
  | [] => []
  | content :: contents => content.stops (index :: address) ++ stopsAll address (index + 1) contents

def stopsEach (address : Address) (index : Nat) : List Content → List Stop
  | [] => []
  | content :: contents =>
    .item (index :: address) ::
      (content.stops (index :: address) ++ stopsEach address (index + 1) contents)

end

def pullCopiesNoting (note : Address → Logged Unit) (address : Address)
    (read : Address → Build (List Item)) (index : Nat) : Nat → Build (List Item)
  | 0 => pure []
  | count + 1 => do
    ExceptT.lift (note (index :: address))
    let items ← read (index :: address)
    return items ++ (← pullCopiesNoting note address read (index + 1) count)

mutual

/-- Reads content at a place, and notes each item of a lazy sequence when it is pulled. -/
def pullNoting (note : Address → Logged Unit) (address : Address) : Content → Build (List Item)
  | .present content => content.pullNoting note address
  | .succeeded content => content.pullNoting note address
  | .list contents => pullAllNoting note address 0 contents
  | .sequence contents => pullEachNoting note address 0 contents
  | .copies count content =>
    pullCopiesNoting note address (fun place => content.pullNoting note place) 0 count
  | content => content.pull

def pullAllNoting (note : Address → Logged Unit) (address : Address) (index : Nat) :
    List Content → Build (List Item)
  | [] => pure []
  | content :: contents => do
    let items ← content.pullNoting note (index :: address)
    return items ++ (← pullAllNoting note address (index + 1) contents)

def pullEachNoting (note : Address → Logged Unit) (address : Address) (index : Nat) :
    List Content → Build (List Item)
  | [] => pure []
  | content :: contents => do
    ExceptT.lift (note (index :: address))
    let items ← content.pullNoting note (index :: address)
    return items ++ (← pullEachNoting note address (index + 1) contents)

end

section Counting

theorem pullCopiesNoting_pullOne {read : Address → Build (List Item)} {pulled : Build (List Item)}
    (h : ∀ place, read place = pulled) (address : Address) (index count : Nat) :
    pullCopiesNoting (fun _ => Logged.pullOne) address read index count =
      pullCopies pulled count := by
  induction count generalizing index with
  | zero => rfl
  | succ count ih =>
    rw [pullCopiesNoting, pullCopies, h, ih]
    rfl

mutual

/-- A reading that notes nothing but the number of items is the reading of the content. -/
theorem pullNoting_pullOne : (content : Content) → (address : Address) →
    content.pullNoting (fun _ => Logged.pullOne) address = content.pull
  | .item _, _ => rfl
  | .document _, _ => rfl
  | .int _, _ => rfl
  | .double _, _ => rfl
  | .single _, _ => rfl
  | .bool _, _ => rfl
  | .unit, _ => rfl
  | .absent, _ => rfl
  | .present content, address => by rw [pullNoting, pull, pullNoting_pullOne content]
  | .succeeded content, address => by rw [pullNoting, pull, pullNoting_pullOne content]
  | .failed _, _ => rfl
  | .list contents, address => by rw [pullNoting, pull, pullAllNoting_pullOne contents]
  | .sequence contents, address => by rw [pullNoting, pull, pullEachNoting_pullOne contents]
  | .copies count content, address => by
    rw [pullNoting, pull, pullCopiesNoting_pullOne fun place => pullNoting_pullOne content place]

theorem pullAllNoting_pullOne : (contents : List Content) → (address : Address) → (index : Nat) →
    pullAllNoting (fun _ => Logged.pullOne) address index contents = pullAll contents
  | [], _, _ => rfl
  | content :: contents, address, index => by
    rw [pullAllNoting, pullAll, pullNoting_pullOne content, pullAllNoting_pullOne contents]

theorem pullEachNoting_pullOne : (contents : List Content) → (address : Address) → (index : Nat) →
    pullEachNoting (fun _ => Logged.pullOne) address index contents = pullEach contents
  | [], _, _ => rfl
  | content :: contents, address, index => by
    rw [pullEachNoting, pullEach, pullNoting_pullOne content, pullEachNoting_pullOne contents]
    rfl

end

end Counting

/-- Goes through stops up to the first that fails. -/
def visit (note : Address → Logged Unit) : List Stop → Build (List Item)
  | [] => pure []
  | .item address :: stops => do
    ExceptT.lift (note address)
    visit note stops
  | .leaf _ (.ok found) :: stops => do return found :: (← visit note stops)
  | .leaf _ (.error error) :: _ => throw error

section Visiting

variable (note : Address → Logged Unit)

theorem visit_append (stops more : List Stop) :
    visit note (stops ++ more) =
      visit note stops >>= fun items => visit note more >>= fun rest => pure (items ++ rest) := by
  induction stops with
  | nil => simp only [List.nil_append, visit, pure_bind, bind_pure]
  | cons stop stops ih =>
    cases stop with
    | item address => simp only [List.cons_append, visit, ih, bind_assoc]
    | leaf address leaf =>
      cases leaf with
      | ok found => simp only [List.cons_append, visit, ih, bind_assoc, pure_bind]
      | error error => rfl

theorem visit_leaves (address : Address) (items : List Item) :
    visit note (items.map fun found => .leaf address (.ok found)) = pure items := by
  induction items with
  | nil => rfl
  | cons found items ih => rw [List.map_cons, visit, ih, pure_bind]

theorem pullCopiesNoting_eq_visit {read : Address → Build (List Item)}
    {stops : Address → List Stop} (h : ∀ place, read place = visit note (stops place))
    (address : Address) (index count : Nat) :
    pullCopiesNoting note address read index count =
      visit note (stopsCopies address stops index count) := by
  induction count generalizing index with
  | zero => rfl
  | succ count ih => rw [pullCopiesNoting, stopsCopies, visit, visit_append, h, ih]

mutual

theorem pullNoting_eq_visit : (content : Content) → (address : Address) →
    content.pullNoting note address = visit note (content.stops address)
  | .item _, _ => rfl
  | .document whole, address => by
    have hs : (Content.document whole).stops address =
        (whole.children.map Item.element).map fun found => .leaf address (.ok found) := by
      change (whole.children.map fun e => Except.ok (Item.element e)).map (Stop.leaf address) = _
      rw [List.map_map, List.map_map]
      rfl
    rw [hs, visit_leaves]
    rfl
  | .int _, _ => rfl
  | .double _, _ => rfl
  | .single _, _ => rfl
  | .bool _, _ => rfl
  | .unit, _ => rfl
  | .absent, _ => rfl
  | .present content, address => by rw [pullNoting, stops, pullNoting_eq_visit content]
  | .succeeded content, address => by rw [pullNoting, stops, pullNoting_eq_visit content]
  | .failed _, _ => rfl
  | .list contents, address => by rw [pullNoting, stops, pullAllNoting_eq_visit contents]
  | .sequence contents, address => by rw [pullNoting, stops, pullEachNoting_eq_visit contents]
  | .copies count content, address => by
    rw [pullNoting, stops,
      pullCopiesNoting_eq_visit note fun place => pullNoting_eq_visit content place]

theorem pullAllNoting_eq_visit : (contents : List Content) → (address : Address) →
    (index : Nat) →
    pullAllNoting note address index contents = visit note (stopsAll address index contents)
  | [], _, _ => rfl
  | content :: contents, address, index => by
    rw [pullAllNoting, stopsAll, visit_append, pullNoting_eq_visit content,
      pullAllNoting_eq_visit contents]

theorem pullEachNoting_eq_visit : (contents : List Content) → (address : Address) →
    (index : Nat) →
    pullEachNoting note address index contents = visit note (stopsEach address index contents)
  | [], _, _ => rfl
  | content :: contents, address, index => by
    rw [pullEachNoting, stopsEach, visit, visit_append, pullNoting_eq_visit content,
      pullEachNoting_eq_visit contents]

end

end Visiting

namespace Stop

def address : Stop → Address
  | .item place => place
  | .leaf place _ => place

def item? : Stop → Option Address
  | .item place => some place
  | .leaf .. => none

theorem item?_eq_some_iff {stop : Stop} {place : Address} :
    stop.item? = some place ↔ stop = .item place := by
  cases stop <;> simp [item?]

theorem mem_filterMap_item? {stops : List Stop} {place : Address} :
    place ∈ stops.filterMap item? ↔ .item place ∈ stops := by
  simp [item?_eq_some_iff]

def leaf? : Stop → Option Leaf
  | .item _ => none
  | .leaf _ found => some found

/-- Reading goes on behind the stop, which is no leaf that fails. -/
def passes : Stop → Bool
  | .leaf _ (.error _) => false
  | _ => true

end Stop

/-- The items of all lazy sequences, from left to right. -/
def sequenceItems (content : Content) : List Address := (content.stops []).filterMap Stop.item?

/-- The items of lazy sequences that begin before the first leaf that fails. -/
def pulledItems (content : Content) : List Address :=
  ((content.stops []).takeWhile Stop.passes).filterMap Stop.item?

section Outcome

theorem ofExcept_map {α β : Type} (f : α → β) (result : Except TreeError α) :
    Build.ofExcept (result.map f) = Build.ofExcept result >>= fun a => pure (f a) := by
  cases result <;> rfl

theorem collect_cons_ok (address : Address) (found : Item) (stops : List Stop) :
    Leaf.collect ((Stop.leaf address (.ok found) :: stops).filterMap Stop.leaf?) =
      (Leaf.collect (stops.filterMap Stop.leaf?)).map (found :: ·) := rfl

/-- Going through stops comes to a note of each item before the first leaf that fails, and then to what
the leaves come to. -/
theorem visit_eq (note : Address → Logged Unit) (stops : List Stop) :
    visit note stops =
      ExceptT.lift (forM ((stops.takeWhile Stop.passes).filterMap Stop.item?) note) >>= fun _ =>
        Build.ofExcept (Leaf.collect (stops.filterMap Stop.leaf?)) := by
  induction stops with
  | nil => rfl
  | cons stop stops ih =>
    cases stop with
    | item address =>
      have hf : ((Stop.item address :: stops).takeWhile Stop.passes).filterMap Stop.item? =
          address :: (stops.takeWhile Stop.passes).filterMap Stop.item? := rfl
      rw [visit, ih, hf, List.forM_cons, ExceptT.lift_bind, bind_assoc]
      rfl
    | leaf address leaf =>
      cases leaf with
      | error error => rfl
      | ok found =>
        have hf : ((Stop.leaf address (.ok found) :: stops).takeWhile Stop.passes).filterMap
            Stop.item? = (stops.takeWhile Stop.passes).filterMap Stop.item? := rfl
        rw [visit, ih, hf, collect_cons_ok, ofExcept_map, bind_assoc]

theorem leaves_stopsCopies {stops : Address → List Stop} {leaves : List Leaf}
    (h : ∀ place, (stops place).filterMap Stop.leaf? = leaves) (address : Address)
    (index count : Nat) :
    (stopsCopies address stops index count).filterMap Stop.leaf? =
      (List.replicate count leaves).flatten := by
  induction count generalizing index with
  | zero => rfl
  | succ count ih =>
    rw [stopsCopies, List.filterMap_cons_none rfl, List.filterMap_append, h, ih,
      List.replicate_succ, List.flatten_cons]

theorem leaves_map_leaf (address : Address) (leaves : List Leaf) :
    (leaves.map (.leaf address)).filterMap Stop.leaf? = leaves := by
  rw [List.filterMap_map]
  exact List.filterMap_some

mutual

theorem leaves_stops : (content : Content) → (address : Address) →
    (content.stops address).filterMap Stop.leaf? = content.leaves
  | .item _, address => leaves_map_leaf address _
  | .document _, address => leaves_map_leaf address _
  | .int _, address => leaves_map_leaf address _
  | .double _, address => leaves_map_leaf address _
  | .single _, address => leaves_map_leaf address _
  | .bool _, address => leaves_map_leaf address _
  | .unit, address => leaves_map_leaf address _
  | .absent, address => leaves_map_leaf address _
  | .present content, address => by rw [stops, leaves, leaves_stops content]
  | .succeeded content, address => by rw [stops, leaves, leaves_stops content]
  | .failed _, address => leaves_map_leaf address _
  | .list contents, address => by rw [stops, leaves, leaves_stopsAll contents]
  | .sequence contents, address => by rw [stops, leaves, leaves_stopsEach contents]
  | .copies count content, address => by
    rw [stops, leaves, leaves_stopsCopies fun place => leaves_stops content place]

theorem leaves_stopsAll : (contents : List Content) → (address : Address) → (index : Nat) →
    (stopsAll address index contents).filterMap Stop.leaf? = leavesAll contents
  | [], _, _ => rfl
  | content :: contents, address, index => by
    rw [stopsAll, leavesAll, List.filterMap_append, leaves_stops content, leaves_stopsAll contents]

theorem leaves_stopsEach : (contents : List Content) → (address : Address) → (index : Nat) →
    (stopsEach address index contents).filterMap Stop.leaf? = leavesAll contents
  | [], _, _ => rfl
  | content :: contents, address, index => by
    rw [stopsEach, leavesAll, List.filterMap_cons_none rfl, List.filterMap_append,
      leaves_stops content, leaves_stopsEach contents]

end

end Outcome

section Places

/-- The stop lies inside the content at the place, and is not the beginning of this content. -/
def Stop.Inside (address : Address) (stop : Stop) : Prop :=
  address <:+ stop.address ∧ stop ≠ .item address

/-- The stop lies in a list at the place, at this index or behind it. -/
def Stop.Under (address : Address) (index : Nat) (stop : Stop) : Prop :=
  ∃ i, index ≤ i ∧ (i :: address) <:+ stop.address

/-- The second stop does not begin an item in which the first lies. -/
def Stop.Precedes (first second : Stop) : Prop :=
  ∀ place, second = .item place → ¬ place <:+ first.address

variable {address : Address} {index : Nat} {first second stop : Stop}

theorem Stop.Under.inside (h : stop.Under address index) : stop.Inside address := by
  obtain ⟨i, -, hs⟩ := h
  refine ⟨(List.suffix_cons i address).trans hs, ?_⟩
  rintro rfl
  exact absurd hs.length_le (by simp [Stop.address])

theorem Stop.Under.later (h : stop.Under address (index + 1)) : stop.Under address index := by
  obtain ⟨i, hi, hs⟩ := h
  exact ⟨i, Nat.le_of_succ_le hi, hs⟩

theorem Stop.under_of_inside (h : stop.Inside (index :: address)) : stop.Under address index :=
  ⟨index, Nat.le_refl index, h.1⟩

/-- What lies at one index of a list precedes what lies behind it. -/
theorem Stop.Under.precedes (hf : (index :: address) <:+ first.address)
    (hs : second.Under address (index + 1)) : first.Precedes second := by
  rintro place rfl hp
  obtain ⟨i, hi, hs⟩ := hs
  have hl := List.suffix_of_suffix_length_le (hs.trans hp) hf (by simp)
  have he := hl.eq_of_length (by simp)
  rw [List.cons.injEq] at he
  omega

theorem Stop.Inside.precedes (h : stop.Inside address) : (Stop.item address).Precedes stop := by
  rintro place rfl hp
  obtain ⟨hs, hne⟩ := h
  exact hne (congrArg Stop.item (hp.eq_of_length_le hs.length_le))

/-- Stops at a place and at its items, where the beginning of an item comes before what lies inside
it. -/
structure Ordered (address : Address) (stops : List Stop) : Prop where
  inside : ∀ stop ∈ stops, stop.Inside address
  precedes : stops.Pairwise Stop.Precedes

structure OrderedFrom (address : Address) (index : Nat) (stops : List Stop) : Prop where
  under : ∀ stop ∈ stops, stop.Under address index
  precedes : stops.Pairwise Stop.Precedes

variable {stops more : List Stop}

theorem OrderedFrom.ordered (h : OrderedFrom address index stops) : Ordered address stops :=
  ⟨fun stop hs => (h.under stop hs).inside, h.precedes⟩

theorem orderedFrom_nil : OrderedFrom address index [] := ⟨nofun, .nil⟩

/-- An element of a list before those behind it. -/
theorem Ordered.append (h : Ordered (index :: address) stops)
    (hm : OrderedFrom address (index + 1) more) : OrderedFrom address index (stops ++ more) where
  under stop hs := by
    rcases List.mem_append.1 hs with hs | hs
    · exact Stop.under_of_inside (h.inside stop hs)
    · exact (hm.under stop hs).later
  precedes := List.pairwise_append.2 ⟨h.precedes, hm.precedes, fun first hf second hs =>
    Stop.Under.precedes (h.inside first hf).1 (hm.under second hs)⟩

/-- An item of a lazy sequence begins before what lies in it and behind it. -/
theorem Ordered.item_append (h : Ordered (index :: address) stops)
    (hm : OrderedFrom address (index + 1) more) :
    OrderedFrom address index (.item (index :: address) :: (stops ++ more)) where
  under stop hs := by
    rcases List.mem_cons.1 hs with rfl | hs
    · exact ⟨index, Nat.le_refl index, List.suffix_refl _⟩
    · exact (h.append hm).under stop hs
  precedes := by
    refine List.pairwise_cons.2 ⟨fun stop hs => ?_, (h.append hm).precedes⟩
    rcases List.mem_append.1 hs with hs | hs
    · exact (h.inside stop hs).precedes
    · exact Stop.Under.precedes (List.suffix_refl _) (hm.under stop hs)

theorem ordered_leaves (address : Address) (leaves : List Leaf) :
    Ordered address (leaves.map (.leaf address)) where
  inside stop hs := by
    obtain ⟨leaf, -, rfl⟩ := List.mem_map.1 hs
    exact ⟨List.suffix_refl _, nofun⟩
  precedes := by
    rw [List.pairwise_map]
    exact List.pairwise_of_forall fun _ _ => nofun

theorem orderedFrom_stopsCopies {stops : Address → List Stop}
    (h : ∀ place, Ordered place (stops place)) (address : Address) (index count : Nat) :
    OrderedFrom address index (stopsCopies address stops index count) := by
  induction count generalizing index with
  | zero => exact orderedFrom_nil
  | succ count ih => exact (h _).item_append (ih (index + 1))

mutual

theorem ordered_stops : (content : Content) → (address : Address) →
    Ordered address (content.stops address)
  | .item _, address => ordered_leaves address _
  | .document _, address => ordered_leaves address _
  | .int _, address => ordered_leaves address _
  | .double _, address => ordered_leaves address _
  | .single _, address => ordered_leaves address _
  | .bool _, address => ordered_leaves address _
  | .unit, address => ordered_leaves address _
  | .absent, address => ordered_leaves address _
  | .present content, address => by
    rw [stops]
    exact ordered_stops content address
  | .succeeded content, address => by
    rw [stops]
    exact ordered_stops content address
  | .failed _, address => ordered_leaves address _
  | .list contents, address => by
    rw [stops]
    exact (orderedFrom_stopsAll contents address 0).ordered
  | .sequence contents, address => by
    rw [stops]
    exact (orderedFrom_stopsEach contents address 0).ordered
  | .copies count content, address => by
    rw [stops]
    exact (orderedFrom_stopsCopies (fun place => ordered_stops content place) address 0 count).ordered

theorem orderedFrom_stopsAll : (contents : List Content) → (address : Address) → (index : Nat) →
    OrderedFrom address index (stopsAll address index contents)
  | [], _, _ => orderedFrom_nil
  | content :: contents, address, index => by
    rw [stopsAll]
    exact (ordered_stops content (index :: address)).append
      (orderedFrom_stopsAll contents address (index + 1))

theorem orderedFrom_stopsEach : (contents : List Content) → (address : Address) → (index : Nat) →
    OrderedFrom address index (stopsEach address index contents)
  | [], _, _ => orderedFrom_nil
  | content :: contents, address, index => by
    rw [stopsEach]
    exact (ordered_stops content (index :: address)).item_append
      (orderedFrom_stopsEach contents address (index + 1))

end

end Places

section Pulled

variable {stops : List Stop}

theorem nodup_sequenceItems (content : Content) : content.sequenceItems.Nodup := by
  rw [sequenceItems, List.Nodup, List.pairwise_filterMap]
  refine (ordered_stops content []).precedes.imp fun {first second} h => ?_
  rintro place hf _ hs rfl
  rw [Stop.item?_eq_some_iff] at hf hs
  subst hf
  exact h place hs (List.suffix_refl _)

theorem pulledItems_sublist (content : Content) :
    content.pulledItems.Sublist content.sequenceItems :=
  (List.takeWhile_sublist _).filterMap _

theorem takeWhile_eq_of_split {before after : List Stop} {stop : Stop}
    (h : ∀ other ∈ before, other.passes) :
    (before ++ stop :: after).takeWhile Stop.passes =
      before ++ if stop.passes then stop :: after.takeWhile Stop.passes else [] := by
  rw [List.takeWhile_append_of_pos h, List.takeWhile_cons]

theorem mem_pulledItems_iff {content : Content} {address : Address} :
    address ∈ content.pulledItems ↔ ∃ before after,
      content.stops [] = before ++ .item address :: after ∧ ∀ stop ∈ before, stop.passes := by
  rw [pulledItems, Stop.mem_filterMap_item?]
  constructor
  · intro hs
    obtain ⟨before, after, ht⟩ := List.append_of_mem hs
    refine ⟨before, after ++ (content.stops []).dropWhile Stop.passes, ?_, fun stop hb => ?_⟩
    · rw [← List.cons_append, ← List.append_assoc, ← ht, List.takeWhile_append_dropWhile]
    · exact List.mem_takeWhile_imp (ht ▸ List.mem_append_left _ hb)
  · rintro ⟨before, after, hs, hb⟩
    rw [hs, takeWhile_eq_of_split hb]
    exact List.mem_append_right _ List.mem_cons_self

theorem all_pass_of_collect {items : List Item}
    (h : Leaf.collect (stops.filterMap Stop.leaf?) = .ok items) : ∀ stop ∈ stops, stop.passes := by
  rw [Leaf.collect_eq_ok_iff] at h
  intro stop hs
  cases stop with
  | item address => rfl
  | leaf address leaf =>
    cases leaf with
    | ok found => rfl
    | error error =>
      have hm : .error error ∈ stops.filterMap Stop.leaf? := List.mem_filterMap.2 ⟨_, hs, rfl⟩
      rw [h] at hm
      obtain ⟨_, -, he⟩ := List.mem_map.1 hm
      cases he

theorem exists_of_collect {error : TreeError}
    (h : Leaf.collect (stops.filterMap Stop.leaf?) = .error error) :
    ∃ before place after, stops = before ++ .leaf place (.error error) :: after ∧
      ∀ stop ∈ before, stop.passes := by
  induction stops with
  | nil => cases h
  | cons stop stops ih =>
    have hcons (hp : stop.passes) (hr : Leaf.collect (stops.filterMap Stop.leaf?) = .error error) :
        ∃ before place after, stop :: stops = before ++ .leaf place (.error error) :: after ∧
          ∀ stop ∈ before, stop.passes := by
      obtain ⟨before, place, after, rfl, hb⟩ := ih hr
      exact ⟨stop :: before, place, after, rfl, List.forall_mem_cons.2 ⟨hp, hb⟩⟩
    cases stop with
    | item address => exact hcons rfl h
    | leaf address leaf =>
      cases leaf with
      | error other =>
        cases h
        exact ⟨[], address, stops, rfl, nofun⟩
      | ok found =>
        apply hcons rfl
        rw [collect_cons_ok] at h
        cases hr : Leaf.collect (stops.filterMap Stop.leaf?) with
        | error other =>
          rw [hr] at h
          cases h
          rfl
        | ok items =>
          rw [hr] at h
          cases h

theorem collect_stops (content : Content) :
    Leaf.collect ((content.stops []).filterMap Stop.leaf?) = content.flatten := by
  rw [leaves_stops, flatten_eq_collect]

theorem pulledItems_of_ok {content : Content} {items : List Item}
    (h : content.flatten = .ok items) : content.pulledItems = content.sequenceItems := by
  rw [← collect_stops] at h
  rw [pulledItems, List.takeWhile_eq_self_iff.2 (all_pass_of_collect h), sequenceItems]

/-- The items that contain the first leaf that fails have been pulled. -/
theorem pulledItems_of_error {content : Content} {error : TreeError}
    (h : content.flatten = .error error) :
    ∃ before place after, content.stops [] = before ++ .leaf place (.error error) :: after ∧
      (∀ stop ∈ before, stop.passes) ∧ content.pulledItems = before.filterMap Stop.item? ∧
      ∀ address ∈ content.sequenceItems, address <:+ place → address ∈ content.pulledItems := by
  rw [← collect_stops] at h
  obtain ⟨before, place, after, hs, hb⟩ := exists_of_collect h
  have hp : content.pulledItems = before.filterMap Stop.item? := by
    have hf : ¬ (Stop.leaf place (.error error)).passes := Bool.false_ne_true
    rw [pulledItems, hs, takeWhile_eq_of_split hb, if_neg hf, List.append_nil]
  refine ⟨before, place, after, hs, hb, hp, fun address ha hsuffix => ?_⟩
  rw [sequenceItems, Stop.mem_filterMap_item?, hs] at ha
  rw [hp, Stop.mem_filterMap_item?]
  rcases List.mem_append.1 ha with hm | hm
  · exact hm
  · rcases List.mem_cons.1 hm with hm | hm
    · cases hm
    · have ho := (ordered_stops content []).precedes
      rw [hs, List.pairwise_append] at ho
      exact absurd hsuffix ((List.pairwise_cons.1 ho.2.1).1 _ hm address rfl)

theorem pulled_forM (addresses : List Address) :
    (forM addresses fun _ => Logged.pullOne).pulled = addresses.length := by
  induction addresses with
  | nil => rfl
  | cons address addresses ih =>
    rw [List.forM_cons, Logged.pulled_bind, ih, List.length_cons, Nat.add_comm]
    rfl

end Pulled

/-- Which items of lazy sequences are pulled while content is read. Whatever is noted of an item when it is
pulled, and the reading of the content merely counts, this is noted of the pulled items one after the other,
and then the reading ends as it does. Each of them is another item, and they are those before which no leaf
fails: all there are if no leaf fails at all, and else those that begin before the first that does, among
them all that contain it. -/
theorem pulled_up_to_failure (content : Content) :
    content.pull = content.pullNoting (fun _ => Logged.pullOne) [] ∧
    (∀ note : Address → Logged Unit, content.pullNoting note [] =
      ExceptT.lift (forM content.pulledItems note) >>= fun _ => Build.ofExcept content.flatten) ∧
    content.pulled = content.pulledItems.length ∧
    content.pulledItems.Nodup ∧
    (∀ address, address ∈ content.pulledItems ↔ ∃ before after,
      content.stops [] = before ++ .item address :: after ∧ ∀ stop ∈ before, stop.passes) ∧
    (∀ items, content.flatten = .ok items → content.pulledItems = content.sequenceItems) ∧
    ∀ error, content.flatten = .error error →
      ∃ before place after, content.stops [] = before ++ .leaf place (.error error) :: after ∧
        (∀ stop ∈ before, stop.passes) ∧ content.pulledItems = before.filterMap Stop.item? ∧
        ∀ address ∈ content.sequenceItems, address <:+ place → address ∈ content.pulledItems := by
  have hn (note : Address → Logged Unit) : content.pullNoting note [] =
      ExceptT.lift (forM content.pulledItems note) >>= fun _ => Build.ofExcept content.flatten := by
    rw [pullNoting_eq_visit, visit_eq, collect_stops]
    rfl
  have hc : content.pull = content.pullNoting (fun _ => Logged.pullOne) [] :=
    (pullNoting_pullOne content []).symm
  refine ⟨hc, hn, ?_, (nodup_sequenceItems content).sublist (pulledItems_sublist content),
    fun address => mem_pulledItems_iff, fun items => pulledItems_of_ok,
    fun error => pulledItems_of_error⟩
  rw [pulled, hc, hn]
  exact pulled_forM content.pulledItems

/-- Three items, where the second is a list with a sequence in it that has its number in the middle.
-/
def numberInside : Content :=
  .sequence [.sequence [text "a"], .list [.sequence [text "b", .int 5, text "c"]], text "d"]

/-- The number is the last item that is pulled, and with two copies of a text there is none left behind. -/
theorem pulled_of_nested_sequences :
    numberInside.flatten = .error (.unknownContentType "5") ∧
    numberInside.pulled = 5 ∧
    numberInside.pulledItems = [[0], [0, 0], [1], [0, 0, 1], [1, 0, 1]] ∧
    (∃ before place after, numberInside.stops [] =
        before ++ .leaf place (.error (.unknownContentType "5")) :: after ∧
      (∀ stop ∈ before, stop.passes) ∧ numberInside.pulledItems = before.filterMap Stop.item? ∧
      ∀ address ∈ numberInside.sequenceItems, address <:+ place →
        address ∈ numberInside.pulledItems) ∧
    pulledItems (.copies 2 (text "a")) = sequenceItems (.copies 2 (text "a")) := by
  have he : numberInside.flatten = .error (.unknownContentType "5") := rfl
  have hi : numberInside.pulledItems = [[0], [0, 0], [1], [0, 0, 1], [1, 0, 1]] := rfl
  obtain ⟨-, -, hcount, -, -, -, hfailure⟩ := pulled_up_to_failure numberInside
  obtain ⟨-, -, -, -, -, hall, -⟩ := pulled_up_to_failure (.copies 2 (text "a"))
  refine ⟨he, ?_, hi, hfailure _ he, hall [.text "a", .text "a"] rfl⟩
  rw [hcount, hi]
  rfl

end Content

end MarkupTree
