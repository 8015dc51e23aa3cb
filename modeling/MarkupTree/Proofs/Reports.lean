import MarkupTree.Proofs.Accounts
import MarkupTree.Proofs.Building

/-! What building reports. As long as the stages leave content alone and every element comes out of a node
of its own, a build that ends well reports the content of the elements in it, in postorder. Whether it ends
well or not, what it reports is what its account says. -/
namespace MarkupTree

section Postorder

mutual

def Element.postorder : Element → List Element
  | ⟨name, attributes, none⟩ => [⟨name, attributes, none⟩]
  | ⟨name, attributes, some items⟩ =>
    Item.postorderAll items ++ [⟨name, attributes, some items⟩]

def Item.postorder : Item → List Element
  | .element e => e.postorder
  | .raw _ => []
  | .text _ => []

def Item.postorderAll : List Item → List Element
  | [] => []
  | item :: items => item.postorder ++ Item.postorderAll items

end

/-- What is reported of an element by itself: how many items it was given, if it was. -/
def Element.assignment? (e : Element) : Option Event :=
  e.content.map fun items => .assignedContent e.name items.length

/-- The assignments of all elements in a tree. -/
def Element.assignments (e : Element) : List Event := e.postorder.filterMap assignment?

def Item.assignments (items : List Item) : List Event :=
  (Item.postorderAll items).filterMap Element.assignment?

theorem Element.assignments_eq (e : Element) :
    e.assignments = Item.assignments e.items ++ e.assignment?.toList := by
  obtain ⟨name, attributes, _ | items⟩ := e
  · rfl
  · rw [assignments, postorder, List.filterMap_append]
    rfl

theorem Item.assignments_append (items more : List Item) :
    Item.assignments (items ++ more) = Item.assignments items ++ Item.assignments more := by
  induction items with
  | nil => rfl
  | cons item items ih =>
    simp only [Item.assignments, List.cons_append, Item.postorderAll, List.filterMap_append,
      List.append_assoc] at ih ⊢
    rw [ih]

theorem Item.assignments_element (e : Element) : Item.assignments [.element e] = e.assignments := by
  rw [Item.assignments, Item.postorderAll, Item.postorder, Item.postorderAll, List.append_nil,
    Element.assignments]

theorem Item.assignments_of_no_elements {items : List Item} (h : ∀ e, .element e ∉ items) :
    Item.assignments items = [] := by
  induction items with
  | nil => rfl
  | cons item items ih =>
    rw [← List.singleton_append, assignments_append, ih fun e he => h e (List.mem_cons_of_mem _ he)]
    cases item with
    | element e => exact absurd List.mem_cons_self (h e)
    | raw html => rfl
    | text text => rfl

end Postorder

section Fresh

mutual

/-- The nodes in content, without those inside them. -/
def Sketch.nodes : Sketch → List Blueprint
  | .ready _ => []
  | .element blueprint => [blueprint]
  | .present sketch => sketch.nodes
  | .succeeded sketch => sketch.nodes
  | .list sketches => Sketch.nodesAll sketches
  | .sequence sketches => Sketch.nodesAll sketches
  | .copies _ sketch => sketch.nodes

def Sketch.nodesAll : List Sketch → List Blueprint
  | [] => []
  | sketch :: sketches => sketch.nodes ++ Sketch.nodesAll sketches

end

mutual

/-- Every element in the content comes out of a node of its own: none is there before, and what is copied
holds none. -/
def Sketch.Fresh : Sketch → Prop
  | .ready content => content.Inside fun _ => False
  | .element blueprint => blueprint.Fresh
  | .present sketch => sketch.Fresh
  | .succeeded sketch => sketch.Fresh
  | .list sketches => Sketch.AllFresh sketches
  | .sequence sketches => Sketch.AllFresh sketches
  | .copies _ sketch => sketch.Fresh ∧ sketch.nodes = []

def Sketch.AllFresh : List Sketch → Prop
  | [] => True
  | sketch :: sketches => sketch.Fresh ∧ Sketch.AllFresh sketches

def Supply.Fresh : Supply → Prop
  | .nothing => True
  | .whole sketch => sketch.Fresh
  | .inTurn sketches => Sketch.AllFresh sketches

def Order.Fresh : Order → Prop
  | ⟨_, supply⟩ => supply.Fresh

def Order.AllFresh : List Order → Prop
  | [] => True
  | order :: orders => order.Fresh ∧ Order.AllFresh orders

def Blueprint.Fresh : Blueprint → Prop
  | ⟨_, orders⟩ => Order.AllFresh orders

end

variable {factory : Factory}

mutual

theorem Sketch.accounts_eq : (sketch : Sketch) →
    sketch.accounts factory = sketch.nodes.map (Blueprint.account factory)
  | .ready _ => rfl
  | .element _ => rfl
  | .present sketch => Sketch.accounts_eq sketch
  | .succeeded sketch => Sketch.accounts_eq sketch
  | .list sketches => Sketch.accountsAll_eq sketches
  | .sequence sketches => Sketch.accountsAll_eq sketches
  | .copies _ sketch => Sketch.accounts_eq sketch

theorem Sketch.accountsAll_eq : (sketches : List Sketch) →
    Sketch.accountsAll factory sketches =
      (Sketch.nodesAll sketches).map (Blueprint.account factory)
  | [] => rfl
  | sketch :: sketches => by
    rw [Sketch.accountsAll, Sketch.nodesAll, List.map_append, Sketch.accounts_eq sketch,
      Sketch.accountsAll_eq sketches]

end

theorem Content.inside_copies {p : Element → Prop} {content : Content} (h : content.Inside p)
    (count : Nat) : (copies count content).Inside p := by
  intro child hchild
  rw [leaves, List.mem_flatten] at hchild
  obtain ⟨leaves, hleaves, hchild⟩ := hchild
  rw [(List.mem_replicate.1 hleaves).2] at hchild
  exact h child hchild

mutual

theorem Sketch.inside_of_nodes : (sketch : Sketch) → sketch.Fresh → sketch.nodes = [] →
    (sketch.build factory).value.Inside fun _ => False
  | .ready _, hf, _ => hf
  | .element _, _, hn => by cases hn
  | .present sketch, hf, hn => by
    rw [Sketch.build]
    exact Sketch.inside_of_nodes sketch hf hn
  | .succeeded sketch, hf, hn => by
    rw [Sketch.build]
    exact Sketch.inside_of_nodes sketch hf hn
  | .list sketches, hf, hn => by
    rw [Sketch.build]
    exact Content.inside_list (Sketch.inside_of_nodesAll sketches hf hn)
  | .sequence sketches, hf, hn => by
    rw [Sketch.build]
    exact Content.inside_list (Sketch.inside_of_nodesAll sketches hf hn)
  | .copies count sketch, hf, hn => by
    rw [Sketch.build]
    exact Content.inside_copies (Sketch.inside_of_nodes sketch hf.1 hn) count

theorem Sketch.inside_of_nodesAll : (sketches : List Sketch) → Sketch.AllFresh sketches →
    Sketch.nodesAll sketches = [] →
      ∀ content ∈ (Sketch.buildAll factory sketches).value, content.Inside fun _ => False
  | [], _, _ => nofun
  | sketch :: sketches, hf, hn => by
    rw [Sketch.nodesAll, List.append_eq_nil_iff] at hn
    rw [Sketch.buildAll]
    exact List.forall_mem_cons.2 ⟨Sketch.inside_of_nodes sketch hf.1 hn.1,
      Sketch.inside_of_nodesAll sketches hf.2 hn.2⟩

end

end Fresh

section Failures

variable {factory : Factory}

theorem Content.flatten_of_failing {content : Content} {error : TreeError}
    (h : .error error ∈ content.leaves) : ∃ first, content.flatten = .error first := by
  cases hr : content.flatten with
  | error first => exact ⟨first, rfl⟩
  | ok items =>
    rw [flatten_eq_collect, Leaf.collect_eq_ok_iff] at hr
    rw [hr, List.mem_map] at h
    obtain ⟨item, -, hitem⟩ := h
    cases hitem

mutual

/-- A node that fails leaves its error among the leaves of the content. -/
theorem Sketch.failing_of_failed : (sketch : Sketch) → sketch.Fresh →
    (∃ node ∈ sketch.accounts factory, node.Failed) →
      ∃ error, .error error ∈ (sketch.build factory).value.leaves
  | .ready _, _, ⟨_, hnode, _⟩ => by cases hnode
  | .element blueprint, _, ⟨_, hnode, error, herror⟩ => by
    cases List.mem_singleton.1 hnode
    refine ⟨error, ?_⟩
    have hresult := blueprint.result_build_eq_error_iff.2 herror
    rw [Sketch.build, Logged.value_bind, Logged.value_pure]
    change _ ∈ (Content.ofResult (blueprint.build factory).result).leaves
    rw [hresult]
    exact List.mem_singleton_self _
  | .present sketch, hf, hn => by
    rw [Sketch.build]
    exact Sketch.failing_of_failed sketch hf hn
  | .succeeded sketch, hf, hn => by
    rw [Sketch.build]
    exact Sketch.failing_of_failed sketch hf hn
  | .list sketches, hf, hn => by
    rw [Sketch.build]
    exact Sketch.failing_of_failedAll sketches hf hn
  | .sequence sketches, hf, hn => by
    rw [Sketch.build]
    exact Sketch.failing_of_failedAll sketches hf hn
  | .copies _ sketch, hf, ⟨node, hnode, _⟩ => by
    rw [Sketch.accounts, Sketch.accounts_eq, hf.2] at hnode
    cases hnode

theorem Sketch.failing_of_failedAll : (sketches : List Sketch) → Sketch.AllFresh sketches →
    (∃ node ∈ Sketch.accountsAll factory sketches, node.Failed) →
      ∃ error, .error error ∈ Content.leavesAll (Sketch.buildAll factory sketches).value
  | [], _, ⟨_, hnode, _⟩ => by cases hnode
  | sketch :: sketches, hf, ⟨node, hnode, hfailed⟩ => by
    rw [Sketch.buildAll]
    rcases List.mem_append.1 hnode with hnode | hnode
    · obtain ⟨error, herror⟩ := Sketch.failing_of_failed sketch hf.1 ⟨node, hnode, hfailed⟩
      exact ⟨error, List.mem_append_left _ herror⟩
    · obtain ⟨error, herror⟩ := Sketch.failing_of_failedAll sketches hf.2 ⟨node, hnode, hfailed⟩
      exact ⟨error, List.mem_append_right _ herror⟩

end

theorem Sketch.flatten_of_failed {sketch : Sketch} (hf : sketch.Fresh)
    (h : ∃ node ∈ sketch.accounts factory, node.Failed) :
    ∃ error, (sketch.build factory).value.flatten = .error error := by
  obtain ⟨error, herror⟩ := Sketch.failing_of_failed sketch hf h
  exact Content.flatten_of_failing herror

theorem Sketch.supplyAll_of_failed {sketches : List Sketch} (hf : Sketch.AllFresh sketches)
    (h : ∃ node ∈ Sketch.accountsInTurn factory sketches, node.Failed) (invocation : Invocation) :
    ∃ error, (Sketch.supplyAll factory sketches invocation).result = .error error := by
  induction sketches generalizing invocation with
  | nil =>
    obtain ⟨_, hnode, _⟩ := h
    cases hnode
  | cons sketch sketches ih =>
    obtain ⟨node, hnode, hfailed⟩ := h
    simp only [Sketch.supplyAll, Build.result_bind, Build.result_lift, Except.bind,
      Invocation.result_withContent]
    cases hflatten : (sketch.build factory).value.flatten with
    | error error => exact ⟨error, rfl⟩
    | ok items =>
      rw [Sketch.accountsInTurn, hflatten] at hnode
      rcases List.mem_append.1 hnode with hnode | hnode
      · obtain ⟨error, herror⟩ := Sketch.flatten_of_failed hf.1 ⟨node, hnode, hfailed⟩
        rw [hflatten] at herror
        cases herror
      · exact ih hf.2 ⟨node, hnode, hfailed⟩ _

theorem Supply.invocation_of_failed {supply : Supply} (hf : supply.Fresh)
    (h : ∃ node ∈ supply.accounts factory, node.Failed) (invocation : Invocation) :
    ∃ error, (supply.invocation factory invocation).result = .error error := by
  cases supply with
  | nothing =>
    obtain ⟨_, hnode, _⟩ := h
    cases hnode
  | whole sketch =>
    obtain ⟨error, herror⟩ := Sketch.flatten_of_failed hf h
    refine ⟨error, ?_⟩
    simp only [Supply.invocation, Build.result_bind, Build.result_lift, Except.bind,
      Invocation.result_withContent, herror]
    rfl
  | inTurn sketches => exact Sketch.supplyAll_of_failed hf h invocation

theorem Order.failed_of_inside {order : Order} (hf : order.Fresh) {e : Element}
    (h : ∃ node ∈ (order.account factory e).inside, node.Failed) :
    (order.account factory e).Failed := by
  obtain ⟨as, supply⟩ := order
  obtain ⟨error, herror⟩ := Supply.invocation_of_failed hf h (Invocation.empty.withAttributes as)
  refine ⟨error, (Order.ending_eq_error_iff _ e).2 ?_⟩
  rw [Order.apply_eq, Build.result_bind, herror]
  rfl

theorem Order.failed_of_insideAll {orders : List Order} (hf : Order.AllFresh orders) (e : Element) :
    ∀ call ∈ Order.accountAll factory orders e,
      (∃ node ∈ call.inside, node.Failed) → call.Failed := by
  induction orders generalizing e with
  | nil => exact nofun
  | cons order orders ih =>
    rw [Order.accountAll, List.forall_mem_cons]
    refine ⟨Order.failed_of_inside hf.1, ?_⟩
    cases (Order.apply factory e order).result with
    | ok called => exact ih hf.2 called
    | error error => exact nofun

theorem Origin.isReserved_name {origin : Origin} (h : origin.isReserved) :
    Tag.isReserved origin.name := by
  cases origin with
  | tag name => exact h
  | builder name => cases h

mutual

theorem Sketch.sound : (sketch : Sketch) → sketch.Fresh →
    ∀ node ∈ Account.nodesAll (sketch.accounts factory), node.Sound
  | .ready _, _ => nofun
  | .element blueprint, hf => by
    rw [Sketch.accounts, Account.nodesAll, Account.nodesAll, List.append_nil]
    exact Blueprint.sound blueprint hf
  | .present sketch, hf => Sketch.sound sketch hf
  | .succeeded sketch, hf => Sketch.sound sketch hf
  | .list sketches, hf => Sketch.soundAll sketches hf
  | .sequence sketches, hf => Sketch.soundAll sketches hf
  | .copies _ sketch, hf => Sketch.sound sketch hf.1

theorem Sketch.soundAll : (sketches : List Sketch) → Sketch.AllFresh sketches →
    ∀ node ∈ Account.nodesAll (Sketch.accountsAll factory sketches), node.Sound
  | [], _ => nofun
  | sketch :: sketches, hf => by
    rw [Sketch.accountsAll, Account.nodesAll_append, List.forall_mem_append]
    exact ⟨Sketch.sound sketch hf.1, Sketch.soundAll sketches hf.2⟩

theorem Sketch.soundInTurn : (sketches : List Sketch) → Sketch.AllFresh sketches →
    ∀ node ∈ Account.nodesAll (Sketch.accountsInTurn factory sketches), node.Sound
  | [], _ => nofun
  | sketch :: sketches, hf => by
    rw [Sketch.accountsInTurn, Account.nodesAll_append, List.forall_mem_append]
    refine ⟨Sketch.sound sketch hf.1, ?_⟩
    cases (sketch.build factory).value.flatten with
    | ok items => exact Sketch.soundInTurn sketches hf.2
    | error error => exact nofun

theorem Supply.sound : (supply : Supply) → supply.Fresh →
    ∀ node ∈ Account.nodesAll (supply.accounts factory), node.Sound
  | .nothing, _ => nofun
  | .whole sketch, hf => Sketch.sound sketch hf
  | .inTurn sketches, hf => Sketch.soundInTurn sketches hf

theorem Order.sound : (order : Order) → order.Fresh → (e : Element) →
    ∀ node ∈ Account.nodesAll (order.account factory e).inside, node.Sound
  | ⟨_, supply⟩, hf, _ => Supply.sound supply hf

theorem Order.soundAll : (orders : List Order) → Order.AllFresh orders → (e : Element) →
    ∀ node ∈ CallAccount.nodesAll (Order.accountAll factory orders e), node.Sound
  | [], _, _ => nofun
  | order :: orders, hf, e => by
    rw [Order.accountAll, CallAccount.nodesAll_cons, List.forall_mem_append]
    refine ⟨Order.sound order hf.1 e, ?_⟩
    cases (Order.apply factory e order).result with
    | ok called => exact Order.soundAll orders hf.2 called
    | error error => exact nofun

theorem Blueprint.sound : (blueprint : Blueprint) → blueprint.Fresh →
    ∀ node ∈ (blueprint.account factory).nodes, node.Sound
  | ⟨origin, orders⟩, hf => by
    rw [Blueprint.account]
    by_cases h : origin.isReserved
    · rw [if_pos h, Account.nodes, List.forall_mem_singleton]
      exact Origin.isReserved_name h
    · rw [if_neg h, Account.nodes, List.forall_mem_cons]
      exact ⟨⟨h, Order.failed_of_insideAll hf _⟩, Order.soundAll orders hf _⟩

end

end Failures

section Successes

/-- The stages hand on the content that they are given. -/
def Pipeline.KeepsContent (pipeline : Pipeline) : Prop :=
  ∀ stage ∈ pipeline.stages, ∀ invocation, (stage invocation).content = invocation.content

theorem Pipeline.KeepsContent.content_run {pipeline : Pipeline} (h : pipeline.KeepsContent)
    (invocation : Invocation) : (pipeline.run invocation).content = invocation.content :=
  Pipeline.run_preserves (p := fun later => later.content = invocation.content)
    (fun stage hs later hl => (h stage hs later).trans hl) rfl

theorem Pipeline.keepsContent_standard : Pipeline.standard.KeepsContent := by
  intro stage hs invocation
  rcases List.mem_cons.1 hs with rfl | hs
  · rfl
  · rw [List.mem_singleton.1 hs]
    rfl

variable {factory : Factory} {e called : Element}

def Invocation.assignments (invocation : Invocation) : List Event :=
  Item.assignments (invocation.content.getD [])

/-- What a call that ends well adds to the assignments of its element. -/
theorem Factory.assignments_of_invoke (hk : factory.pipeline.KeepsContent) {invocation : Invocation}
    (hr : (factory.invoke e invocation).result = .ok called) :
    called.assignments = e.assignments ++ invocation.assignments ++
      (Ending.of e (.ok called)).events e.name := by
  obtain ⟨rfl, hfree⟩ := eq_of_invoke hr
  rw [hk.content_run] at hfree ⊢
  rw [Element.assignments_eq, Element.assignments_eq e, Invocation.assignments]
  cases hc : invocation.content with
  | none =>
    cases he : e.content <;>
      simp [Element.items, Element.assignment?, Ending.of, Ending.events, Except.map, he,
        Item.assignments, Item.postorderAll]
  | some items =>
    rw [hc] at hfree
    obtain ⟨hnone, -⟩ := hfree rfl
    simp [Element.items, Element.assignment?, Ending.of, Ending.events, Except.map, hnone,
      Item.assignments, Item.postorderAll]

theorem Content.eq_of_leaves_ofResult {result : Except TreeError Element} {items : List Item}
    (h : (ofResult result).leaves = items.map .ok) : ∃ e, result = .ok e ∧ items = [.element e] := by
  cases result with
  | error error => cases items <;> cases h
  | ok e =>
    cases items with
    | nil => cases h
    | cons item items =>
      obtain ⟨hitem, hrest⟩ := List.cons.inj h
      cases hitem
      exact ⟨e, rfl, by rw [List.map_eq_nil_iff.1 hrest.symm]⟩

theorem Item.assignments_of_inside {content : Content} (hi : content.Inside fun _ => False)
    {items : List Item} (hleaves : content.leaves = items.map .ok) : Item.assignments items = [] := by
  refine Item.assignments_of_no_elements fun e he => hi e ?_
  rw [hleaves]
  exact List.mem_map_of_mem he

theorem Invocation.assignments_withContent {invocation supplied : Invocation} {content : Content}
    (hr : (invocation.withContent content).result = .ok supplied) :
    ∃ items : List Item, content.leaves = items.map .ok ∧
      supplied.assignments = invocation.assignments ++ Item.assignments items := by
  rw [Invocation.result_withContent] at hr
  cases hflatten : content.flatten with
  | error error =>
    rw [hflatten] at hr
    cases hr
  | ok items =>
    rw [hflatten] at hr
    cases hr
    refine ⟨items, Leaf.collect_eq_ok_iff.1 ?_, Item.assignments_append _ _⟩
    rw [← Content.flatten_eq_collect, hflatten]

mutual

/-- Content that is read well brings in the elements that were reported when it was built. -/
theorem Sketch.assignments_of_ok (hk : factory.pipeline.KeepsContent) :
    (sketch : Sketch) → sketch.Fresh → {items : List Item} →
      (sketch.build factory).value.leaves = items.map .ok →
        Item.assignments items = (sketch.build factory).events
  | .ready content, hf, items, hleaves => Item.assignments_of_inside hf hleaves
  | .element blueprint, hf, items, hleaves => by
    rw [Sketch.build, Logged.events_bind, Logged.events_pure, List.append_nil]
    have hresult : (Content.ofResult (blueprint.build factory).result).leaves = items.map .ok := by
      rwa [Sketch.build, Logged.value_bind, Logged.value_pure] at hleaves
    obtain ⟨e, hr, rfl⟩ := Content.eq_of_leaves_ofResult hresult
    rw [Item.assignments_element]
    exact Blueprint.assignments_of_ok hk blueprint hf hr
  | .present sketch, hf, items, hleaves => by
    rw [Sketch.build, Logged.value_bind] at hleaves
    rw [Sketch.build, Logged.events_bind, Logged.events_pure, List.append_nil]
    exact Sketch.assignments_of_ok hk sketch hf hleaves
  | .succeeded sketch, hf, items, hleaves => by
    rw [Sketch.build, Logged.value_bind] at hleaves
    rw [Sketch.build, Logged.events_bind, Logged.events_pure, List.append_nil]
    exact Sketch.assignments_of_ok hk sketch hf hleaves
  | .list sketches, hf, items, hleaves => by
    rw [Sketch.build, Logged.value_bind] at hleaves
    rw [Sketch.build, Logged.events_bind, Logged.events_pure, List.append_nil]
    exact Sketch.assignments_of_okAll hk sketches hf hleaves
  | .sequence sketches, hf, items, hleaves => by
    rw [Sketch.build, Logged.value_bind] at hleaves
    rw [Sketch.build, Logged.events_bind, Logged.events_pure, List.append_nil]
    exact Sketch.assignments_of_okAll hk sketches hf hleaves
  | .copies count sketch, hf, items, hleaves => by
    have hevents : (Sketch.build factory (.copies count sketch)).events = [] := by
      rw [Sketch.events_build, Sketch.accounts_eq, Sketch.nodes, hf.2]
      rfl
    rw [hevents]
    exact Item.assignments_of_inside (Sketch.inside_of_nodes _ hf hf.2) hleaves

theorem Sketch.assignments_of_okAll (hk : factory.pipeline.KeepsContent) :
    (sketches : List Sketch) → Sketch.AllFresh sketches → {items : List Item} →
      Content.leavesAll (Sketch.buildAll factory sketches).value = items.map .ok →
        Item.assignments items = (Sketch.buildAll factory sketches).events
  | [], hf, items, hleaves => by
    cases List.map_eq_nil_iff.1 hleaves.symm
    rfl
  | sketch :: sketches, hf, items, hleaves => by
    simp only [Sketch.buildAll, Logged.value_bind, Logged.value_pure, Content.leavesAll] at hleaves
    obtain ⟨first, rest, rfl, hfirst, hrest⟩ := List.map_eq_append_iff.1 hleaves.symm
    simp only [Sketch.buildAll, Logged.events_bind, Logged.events_pure, List.append_nil]
    rw [Item.assignments_append, Sketch.assignments_of_ok hk sketch hf.1 hfirst.symm,
      Sketch.assignments_of_okAll hk sketches hf.2 hrest.symm]

theorem Sketch.assignments_of_supplyAll (hk : factory.pipeline.KeepsContent) :
    (sketches : List Sketch) → Sketch.AllFresh sketches → {invocation supplied : Invocation} →
      (Sketch.supplyAll factory sketches invocation).result = .ok supplied →
        supplied.assignments =
          invocation.assignments ++ (Sketch.supplyAll factory sketches invocation).events
  | [], hf, invocation, supplied, hr => by
    cases hr
    exact (List.append_nil _).symm
  | sketch :: sketches, hf, invocation, supplied, hr => by
    rw [Sketch.supplyAll] at hr ⊢
    obtain ⟨content, hcontent, hr⟩ := Build.exists_of_result_bind hr
    cases hcontent
    obtain ⟨next, hnext, hr⟩ := Build.exists_of_result_bind hr
    obtain ⟨items, hleaves, hadded⟩ := Invocation.assignments_withContent hnext
    rw [Build.events_lift_bind, Build.events_bind_of_silent (Invocation.events_withContent ..), hnext,
      Sketch.assignments_of_supplyAll hk sketches hf.2 hr, hadded,
      Sketch.assignments_of_ok hk sketch hf.1 hleaves, List.append_assoc]

theorem Supply.assignments_of_ok (hk : factory.pipeline.KeepsContent) :
    (supply : Supply) → supply.Fresh → {invocation supplied : Invocation} →
      (supply.invocation factory invocation).result = .ok supplied →
        supplied.assignments =
          invocation.assignments ++ (supply.invocation factory invocation).events
  | .nothing, hf, invocation, supplied, hr => by
    cases hr
    exact (List.append_nil _).symm
  | .whole sketch, hf, invocation, supplied, hr => by
    rw [Supply.invocation, Build.result_bind, Build.result_lift] at hr
    rw [Supply.invocation, Build.events_lift_bind, Invocation.events_withContent, List.append_nil]
    obtain ⟨items, hleaves, hadded⟩ := Invocation.assignments_withContent hr
    rw [hadded, Sketch.assignments_of_ok hk sketch hf hleaves]
  | .inTurn sketches, hf, invocation, supplied, hr => Sketch.assignments_of_supplyAll hk sketches hf hr

theorem Order.assignments_of_ok (hk : factory.pipeline.KeepsContent) :
    (order : Order) → order.Fresh → {e called : Element} →
      (Order.apply factory e order).result = .ok called →
        called.assignments = e.assignments ++ (Order.apply factory e order).events
  | ⟨as, supply⟩, hf, e, called, hr => by
    rw [Order.apply_eq] at hr ⊢
    rw [Factory.events_bind_invoke, hr]
    obtain ⟨invocation, hs, hcalled⟩ := Build.exists_of_result_bind hr
    have hstart : (Invocation.empty.withAttributes as).assignments = [] := rfl
    have hsupplied := Supply.assignments_of_ok hk supply hf hs
    rw [hstart, List.nil_append] at hsupplied
    rw [Factory.assignments_of_invoke hk hcalled, hsupplied, List.append_assoc]

theorem Order.assignments_of_okAll (hk : factory.pipeline.KeepsContent) :
    (orders : List Order) → Order.AllFresh orders → {e called : Element} →
      (Order.applyAll factory orders e).result = .ok called →
        called.assignments = e.assignments ++ (Order.applyAll factory orders e).events
  | [], hf, e, called, hr => by
    cases hr
    exact (List.append_nil _).symm
  | order :: orders, hf, e, called, hr => by
    rw [Order.applyAll] at hr ⊢
    obtain ⟨next, hnext, hr⟩ := Build.exists_of_result_bind hr
    rw [Build.events_bind, hnext, Order.assignments_of_okAll hk orders hf.2 hr,
      Order.assignments_of_ok hk order hf.1 hnext, List.append_assoc]

/-- A build that ends well reports the assignments of all elements in what it built. -/
theorem Blueprint.assignments_of_ok (hk : factory.pipeline.KeepsContent) :
    (blueprint : Blueprint) → blueprint.Fresh → {e : Element} →
      (blueprint.build factory).result = .ok e → e.assignments = (blueprint.build factory).events
  | ⟨origin, orders⟩, hf, e, hr => by
    rw [Blueprint.build] at hr ⊢
    by_cases h : origin.isReserved
    · rw [Origin.build_of_isReserved h] at hr
      cases hr
    · rw [Origin.build_of_not_isReserved h, pure_bind] at hr ⊢
      exact Order.assignments_of_okAll hk orders hf hr

end

end Successes

namespace Template

section Nodes

variable {value : Expression → Content}

theorem fresh_flatSupply {sketches : List Sketch} (h : Sketch.AllFresh sketches) :
    (flatSupply sketches).Fresh := by
  unfold flatSupply
  split
  · trivial
  · exact h

mutual

theorem Node.fresh_blueprint : (node : Node) →
    (∀ x ∈ node.expressions, (value x).Inside fun _ => False) → (node.blueprint value).Fresh
  | ⟨_, calls⟩, h => Call.fresh_orders calls h

theorem Call.fresh_orders : (calls : List Call) →
    (∀ x ∈ Call.expressions calls, (value x).Inside fun _ => False) →
      Order.AllFresh (Call.orders value calls)
  | [], _ => trivial
  | ⟨arguments⟩ :: calls, h => by
    rw [Call.expressions, List.forall_mem_append] at h
    exact ⟨fresh_flatSupply (Argument.fresh_sketches arguments h.1), Call.fresh_orders calls h.2⟩

theorem Argument.fresh_sketches : (arguments : List Argument) →
    (∀ x ∈ Argument.expressions arguments, (value x).Inside fun _ => False) →
      Sketch.AllFresh (Argument.sketches value arguments)
  | [], _ => trivial
  | .node node :: arguments, h => by
    rw [Argument.expressions, List.forall_mem_append] at h
    exact ⟨Node.fresh_blueprint node h.1, Argument.fresh_sketches arguments h.2⟩
  | .content x :: arguments, h => by
    rw [Argument.expressions, List.forall_mem_cons] at h
    exact ⟨h.1, Argument.fresh_sketches arguments h.2⟩
  | .attribute _ none :: arguments, h => Argument.fresh_sketches arguments h
  | .attribute _ (some x) :: arguments, h =>
    Argument.fresh_sketches arguments (List.forall_mem_cons.1 h).2
  | .bare _ :: arguments, h => Argument.fresh_sketches arguments h

end

end Nodes

theorem attempt_value (build : Build Element) : (attempt build).run.value = .ok build.result := rfl

theorem attempt_events (build : Build Element) : (attempt build).run.events = build.events :=
  Build.events_lift build.run

end Template

/-- The events of a build, by what it came to and by its account. -/
structure Reported (account : Account) (result : Except TreeError Element) (events : List Event) :
    Prop where
  /-- If it ends well, the assignments of the elements are reported in postorder, and no more. -/
  assigned : ∀ e, result = .ok e → events = e.postorder.filterMap Element.assignment?
  /-- Of each call first the nodes in its content are reported, and then the call, if it ended well. -/
  accounted : events = account.events
  /-- It ends in the error that its account says. -/
  failed : ∀ error, result = .error error ↔ account.FailedWith error
  /-- A call with a failed node anywhere in its content fails, so it is not reported. -/
  enclosing : ∀ node ∈ account.nodes, ∀ call ∈ node.calls,
    (∃ inner ∈ call.nodes, inner.Failed) → call.Failed
  /-- The names that are reported as rejected are those asked for that are reserved. -/
  rejected : events.filterMap Event.rejectedName? = account.requests.filter Tag.isReserved

theorem Blueprint.reported {factory : Factory} (hk : factory.pipeline.KeepsContent)
    {blueprint : Blueprint} (hf : blueprint.Fresh) :
    Reported (blueprint.account factory) (blueprint.build factory).result
      (blueprint.build factory).events := by
  have hsound : ∀ node ∈ (blueprint.account factory).nodes, node.Sound :=
    Blueprint.sound blueprint hf
  refine ⟨fun e hr => (blueprint.assignments_of_ok hk hf hr).symm, blueprint.events_build,
    fun error => blueprint.result_build_eq_error_iff,
    fun node hnode call hcall ⟨inner, hinner, hfailed⟩ =>
      Account.failed_of_inside hsound hnode hcall hinner hfailed, ?_⟩
  rw [blueprint.events_build, Account.rejected_events, Account.filterMap_refused? hsound]
  rfl

/-- As long as the stages leave content alone, the events of a build are those of its account, and if it
ends well, they are the assignments of the elements in what it built, in postorder. The same holds of a
template whose expressions have values without elements in them. -/
theorem building_is_reported (factory : Factory) (hk : factory.pipeline.KeepsContent) :
    (∀ blueprint : Blueprint, blueprint.Fresh →
      Reported (blueprint.account factory) (blueprint.build factory).result
        (blueprint.build factory).events) ∧
    ∀ (scope : Template.Scope) (source : Template.Source) (value : Template.Expression → Content),
      source.factory.evaluateFactory factory scope = pure () →
      Template.Assigns factory scope value source.root.expressions →
      (∀ x ∈ source.root.expressions, (value x).Inside fun _ => False) →
      ∃ result, (source.expand factory scope).run.value = .ok result ∧
        Reported ((source.root.blueprint value).account factory) result
          (source.expand factory scope).run.events := by
  refine ⟨fun blueprint hf => blueprint.reported hk hf, fun scope source value hword hvalues hleaf => ?_⟩
  obtain ⟨word, root⟩ := source
  have hexpand : Template.Source.expand factory scope ⟨word, root⟩ =
      Template.attempt ((root.blueprint value).build factory) := by
    rw [Template.Source.expand, hword, pure_bind, Template.Node.expand_eq,
      Template.Node.direct_eq_build root hvalues]
  rw [hexpand, Template.attempt_value, Template.attempt_events]
  exact ⟨_, rfl, Blueprint.reported hk (Template.Node.fresh_blueprint root hleaf)⟩

def Blueprint.listOf (sketches : List Sketch) : Blueprint :=
  ⟨.builder "ul", [⟨[], .whole (.list sketches)⟩]⟩

def Blueprint.entry (text : String) : Blueprint :=
  ⟨.builder "li", [⟨[], .whole (.ready (Content.text text))⟩]⟩

/-- The template of a list with one entry and a refused tag behind it. -/
def Template.Source.ofList : Template.Source :=
  ⟨.variable "dom", ⟨⟨"ul", false⟩,
    [⟨[.node ⟨⟨"li", false⟩, [⟨[.content (.literal (.text .text "a" ""))]⟩]⟩,
      .node ⟨⟨"__", false⟩, []⟩]⟩]⟩⟩

/-- An entry is reported before its list, and without it if another entry is refused. -/
theorem building_of_lists :
    Factory.standard.pipeline.KeepsContent ∧
    (Blueprint.listOf [.element (.entry "a"), .ready (Content.text "b")]).Fresh ∧
    ((Blueprint.listOf [.element (.entry "a"), .ready (Content.text "b")]).build
      Factory.standard).events = [.assignedContent "li" 1, .assignedContent "ul" 2] ∧
    (Blueprint.listOf [.element ⟨.tag "__", []⟩, .element (.entry "a")]).Fresh ∧
    ((Blueprint.listOf [.element ⟨.tag "__", []⟩, .element (.entry "a")]).build
      Factory.standard).events = [.rejectedTagName "__", .assignedContent "li" 1] ∧
    Template.Source.ofList.factory.evaluateFactory Factory.standard
      (Template.Scope.ofVariables fun _ => none) = pure () ∧
    Template.Assigns Factory.standard (Template.Scope.ofVariables fun _ => none)
      (fun _ => Content.text "a") Template.Source.ofList.root.expressions ∧
    (Content.text "a").Inside (fun _ => False) ∧
    (Template.Source.ofList.expand Factory.standard
      (Template.Scope.ofVariables fun _ => none)).run.events =
        [.assignedContent "li" 1, .rejectedTagName "__"] := by
  have hk : Factory.standard.pipeline.KeepsContent := Pipeline.keepsContent_standard
  obtain ⟨hblueprints, htemplates⟩ := building_is_reported Factory.standard hk
  have hlist : (Blueprint.listOf [.element (.entry "a"), .ready (Content.text "b")]).Fresh :=
    ⟨⟨⟨nofun, trivial⟩, nofun, trivial⟩, trivial⟩
  have hrefused : (Blueprint.listOf [.element ⟨.tag "__", []⟩, .element (.entry "a")]).Fresh :=
    ⟨⟨trivial, ⟨nofun, trivial⟩, trivial⟩, trivial⟩
  have hword : Template.Source.ofList.factory.evaluateFactory Factory.standard
      (Template.Scope.ofVariables fun _ => none) = pure () := by
    rw [Template.Source.ofList, Template.Expression.evaluateFactory]
    rfl
  have hvalues : Template.Assigns Factory.standard (Template.Scope.ofVariables fun _ => none)
      (fun _ => Content.text "a") Template.Source.ofList.root.expressions := by
    intro x hx e
    rw [List.mem_singleton.1 hx, Template.Expression.evaluate]
    rfl
  have hleaf : (Content.text "a").Inside fun _ => False := nofun
  refine ⟨hk, hlist, ?_, hrefused, ?_, hword, hvalues, hleaf, ?_⟩
  · exact (hblueprints _ hlist).assigned ⟨"ul", .empty, some [.element ⟨"li", .empty,
      some [.text "a"]⟩, .text "b"]⟩ rfl
  · exact (hblueprints _ hrefused).accounted
  · obtain ⟨result, -, hreported⟩ := htemplates _ _ _ hword hvalues fun _ _ => hleaf
    exact hreported.accounted

end MarkupTree
