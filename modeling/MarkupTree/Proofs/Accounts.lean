import Mathlib.Data.List.Basic
import MarkupTree.Blueprint
import MarkupTree.Proofs.CallForms

/-! The account of a build: what came of every node and every call of a description. It says who asked
for what and how it ended and knows nothing of reports; what a build reports can be read off it. -/
namespace MarkupTree

/-- How a call ended: in an error, or well, and then with content of so many items if it brought any. -/
abbrev Ending := Except TreeError (Option Nat)

mutual

/-- What came of a node. -/
inductive Account where
  /-- The tag was asked for by this name and refused. -/
  | refused (name : String)
  /-- There was an element, and it was called. The last call may have failed. -/
  | made (origin : Origin) (calls : List CallAccount)

/-- What came of a call: first of the nodes in its content, and then of itself. -/
structure CallAccount where
  inside : List Account
  ending : Ending

end

def Origin.name : Origin → String
  | .tag name => name
  | .builder name => name

def Origin.isReserved : Origin → Bool
  | .tag name => Tag.isReserved name
  | .builder _ => false

def Event.rejectedName? : Event → Option String
  | .rejectedTagName name => some name
  | _ => none

/-- A call is reported if it ended well and brought content. -/
def Ending.events (tag : String) : Ending → List Event
  | .ok (some items) => [.assignedContent tag items]
  | .ok none => []
  | .error _ => []

def Ending.of (e : Element) (result : Except TreeError Element) : Ending :=
  result.map fun called => if e.content.isSome then none else called.content.map List.length

mutual

/-- What is reported of a node: of the nodes in the content of each call, and then of the call. -/
def Account.events : Account → List Event
  | .refused name => [.rejectedTagName name]
  | .made origin calls => CallAccount.eventsAll origin.name calls

def CallAccount.eventsAll (tag : String) : List CallAccount → List Event
  | [] => []
  | ⟨inside, ending⟩ :: calls =>
    Account.eventsAll inside ++ Ending.events tag ending ++ CallAccount.eventsAll tag calls

def Account.eventsAll : List Account → List Event
  | [] => []
  | account :: accounts => account.events ++ Account.eventsAll accounts

end

def CallAccount.events (tag : String) (call : CallAccount) : List Event :=
  Account.eventsAll call.inside ++ call.ending.events tag

theorem CallAccount.eventsAll_cons (tag : String) (call : CallAccount) (calls : List CallAccount) :
    CallAccount.eventsAll tag (call :: calls) =
      call.events tag ++ CallAccount.eventsAll tag calls := by
  obtain ⟨inside, ending⟩ := call
  rw [eventsAll, events]

theorem CallAccount.eventsAll_eq (tag : String) (calls : List CallAccount) :
    CallAccount.eventsAll tag calls = calls.flatMap (CallAccount.events tag) := by
  induction calls with
  | nil => rfl
  | cons call calls ih => rw [eventsAll_cons, ih, List.flatMap_cons]

theorem Account.eventsAll_eq (accounts : List Account) :
    Account.eventsAll accounts = accounts.flatMap Account.events := by
  induction accounts with
  | nil => rfl
  | cons account accounts ih => rw [eventsAll, ih, List.flatMap_cons]

theorem Account.eventsAll_append (accounts more : List Account) :
    Account.eventsAll (accounts ++ more) = Account.eventsAll accounts ++ Account.eventsAll more := by
  simp only [Account.eventsAll_eq, List.flatMap_append]

/-- Induction on the nodes in the calls of a node. -/
theorem Account.induction {p : Account → Prop} (refused : ∀ name, p (.refused name))
    (made : ∀ origin calls, (∀ call ∈ calls, ∀ node ∈ call.inside, p node) →
      p (.made origin calls)) (account : Account) : p account :=
  @Account.rec p (fun call => ∀ node ∈ call.inside, p node)
    (fun calls => ∀ call ∈ calls, ∀ node ∈ call.inside, p node)
    (fun accounts => ∀ account ∈ accounts, p account) refused made (fun _ _ h => h)
    nofun (fun _ _ hcall hcalls => List.forall_mem_cons.2 ⟨hcall, hcalls⟩)
    nofun (fun _ _ haccount haccounts => List.forall_mem_cons.2 ⟨haccount, haccounts⟩) account

section Descriptions

mutual

/-- What came of the nodes in content, each of which is built, failed or not. -/
def Sketch.accounts (factory : Factory) : Sketch → List Account
  | .ready _ => []
  | .element blueprint => [blueprint.account factory]
  | .present sketch => sketch.accounts factory
  | .succeeded sketch => sketch.accounts factory
  | .list sketches => Sketch.accountsAll factory sketches
  | .sequence sketches => Sketch.accountsAll factory sketches
  | .copies _ sketch => sketch.accounts factory

def Sketch.accountsAll (factory : Factory) : List Sketch → List Account
  | [] => []
  | sketch :: sketches => sketch.accounts factory ++ Sketch.accountsAll factory sketches

/-- Of contents that are built and read in turn, those behind the first that fails are not built. -/
def Sketch.accountsInTurn (factory : Factory) : List Sketch → List Account
  | [] => []
  | sketch :: sketches => sketch.accounts factory ++
    match (sketch.build factory).value.flatten with
    | .ok _ => Sketch.accountsInTurn factory sketches
    | .error _ => []

def Supply.accounts (factory : Factory) : Supply → List Account
  | .nothing => []
  | .whole sketch => sketch.accounts factory
  | .inTurn sketches => Sketch.accountsInTurn factory sketches

def Order.account (factory : Factory) (e : Element) : Order → CallAccount
  | ⟨attributes, supply⟩ =>
    ⟨supply.accounts factory, Ending.of e (Order.apply factory e ⟨attributes, supply⟩).result⟩

/-- The calls up to the first that failed. -/
def Order.accountAll (factory : Factory) : List Order → Element → List CallAccount
  | [], _ => []
  | order :: orders, e => order.account factory e ::
    match (Order.apply factory e order).result with
    | .ok called => Order.accountAll factory orders called
    | .error _ => []

def Blueprint.account (factory : Factory) : Blueprint → Account
  | ⟨origin, orders⟩ =>
    if origin.isReserved then .refused origin.name
    else .made origin (Order.accountAll factory orders (Element.ofTag origin.name))

end

end Descriptions

section Calls

variable {factory : Factory} {e called : Element}

def Supply.invocation (factory : Factory) (invocation : Invocation) : Supply → Build Invocation
  | .nothing => pure invocation
  | .whole sketch => do
    let content ← ExceptT.lift (sketch.build factory)
    invocation.withContent content
  | .inTurn sketches => Sketch.supplyAll factory sketches invocation

theorem Order.apply_eq (factory : Factory) (e : Element) (as : List Attribute) (supply : Supply) :
    Order.apply factory e ⟨as, supply⟩ =
      supply.invocation factory (Invocation.empty.withAttributes as) >>= factory.invoke e := by
  cases supply with
  | nothing =>
    rw [Order.apply, Supply.invocation, pure_bind]
    rfl
  | whole sketch =>
    rw [Order.apply, Supply.invocation, bind_assoc]
    rfl
  | inTurn sketches => rw [Order.apply, Supply.invocation]

theorem Invocation.events_withContent (invocation : Invocation) (content : Content) :
    (invocation.withContent content).events = [] :=
  Build.silent_bind content.events_pull fun _ => rfl

theorem Invocation.result_withContent (invocation : Invocation) (content : Content) :
    (invocation.withContent content).result = content.flatten.map fun items =>
      { invocation with content := some (invocation.content.getD [] ++ items) } := by
  rw [withContent, Build.result_bind]
  change content.flatten.bind _ = _
  cases content.flatten <;> rfl

theorem Factory.events_assign_ending (e : Element) (items : List Item) :
    (assign e items).events = (Ending.of e (assign e items).result).events e.name := by
  by_cases hc : e.content.isSome
  · rw [assign_of_isSome hc]
    rfl
  · by_cases hv : e.isVoid
    · rw [assign_of_isVoid hc hv]
      rfl
    · rw [assign_of_free hc hv]
      simp [Ending.of, Ending.events, Except.map, hc]

theorem Factory.events_invoke (factory : Factory) (e : Element) (invocation : Invocation) :
    (factory.invoke e invocation).events =
      (Ending.of e (factory.invoke e invocation).result).events e.name := by
  rw [invoke]
  cases (factory.pipeline.run invocation).content with
  | none => cases hc : e.content <;> simp [Ending.of, Ending.events, Except.map, hc]
  | some items => exact events_assign_ending _ items

theorem Factory.events_bind_invoke (supplied : Build Invocation) (e : Element) :
    (supplied >>= factory.invoke e).events = supplied.events ++
      (Ending.of e (supplied >>= factory.invoke e).result).events e.name := by
  rw [Build.events_bind, Build.result_bind]
  cases supplied.result with
  | ok invocation => exact congrArg _ (events_invoke factory e invocation)
  | error error => rfl

theorem Order.name_of_apply {order : Order} (h : (Order.apply factory e order).result = .ok called) :
    called.name = e.name := by
  obtain ⟨as, supply⟩ := order
  rw [Order.apply_eq] at h
  obtain ⟨invocation, -, hcalled⟩ := Build.exists_of_result_bind h
  rw [(Factory.eq_of_invoke hcalled).1]

end Calls

section Reports

variable {factory : Factory}

theorem Origin.build_of_isReserved {origin : Origin} (h : origin.isReserved) :
    origin.build factory = (do
      Build.tell (.rejectedTagName origin.name)
      throw (.badTagName origin.name)) := by
  cases origin with
  | builder name => cases h
  | tag name => exact if_pos h

theorem Origin.build_of_not_isReserved {origin : Origin} (h : ¬ origin.isReserved) :
    origin.build factory = pure (Element.ofTag origin.name) := by
  cases origin with
  | builder name => rfl
  | tag name => exact if_neg h

mutual

theorem Sketch.events_build : (sketch : Sketch) →
    (sketch.build factory).events = Account.eventsAll (sketch.accounts factory)
  | .ready content => rfl
  | .element blueprint => by
    rw [Sketch.build, Sketch.accounts, Account.eventsAll, Account.eventsAll, List.append_nil,
      ← Blueprint.events_build blueprint, Logged.events_bind]
    exact List.append_nil _
  | .present sketch => by
    rw [Sketch.build, Sketch.accounts, ← Sketch.events_build sketch]
    exact List.append_nil _
  | .succeeded sketch => by
    rw [Sketch.build, Sketch.accounts, ← Sketch.events_build sketch]
    exact List.append_nil _
  | .list sketches => by
    rw [Sketch.build, Sketch.accounts, ← Sketch.events_buildAll sketches]
    exact List.append_nil _
  | .sequence sketches => by
    rw [Sketch.build, Sketch.accounts, ← Sketch.events_buildAll sketches]
    exact List.append_nil _
  | .copies count sketch => by
    rw [Sketch.build, Sketch.accounts, ← Sketch.events_build sketch]
    exact List.append_nil _

theorem Sketch.events_buildAll : (sketches : List Sketch) →
    (Sketch.buildAll factory sketches).events =
      Account.eventsAll (Sketch.accountsAll factory sketches)
  | [] => rfl
  | sketch :: sketches => by
    rw [Sketch.buildAll, Sketch.accountsAll, Account.eventsAll_append,
      ← Sketch.events_build sketch, ← Sketch.events_buildAll sketches]
    simp only [Logged.events_bind, Logged.events_pure, List.append_nil]

theorem Sketch.events_supplyAll : (sketches : List Sketch) → (invocation : Invocation) →
    (Sketch.supplyAll factory sketches invocation).events =
      Account.eventsAll (Sketch.accountsInTurn factory sketches)
  | [], invocation => rfl
  | sketch :: sketches, invocation => by
    rw [Sketch.supplyAll, Sketch.accountsInTurn, Account.eventsAll_append,
      ← Sketch.events_build sketch, Build.events_lift_bind, Build.events_bind,
      Invocation.events_withContent, List.nil_append, Invocation.result_withContent]
    cases (sketch.build factory).value.flatten with
    | error error => rfl
    | ok items => exact congrArg _ (Sketch.events_supplyAll sketches _)

theorem Supply.events_invocation : (supply : Supply) → (invocation : Invocation) →
    (supply.invocation factory invocation).events = Account.eventsAll (supply.accounts factory)
  | .nothing, invocation => rfl
  | .whole sketch, invocation => by
    rw [Supply.invocation, Supply.accounts, ← Sketch.events_build sketch, Build.events_lift_bind,
      Invocation.events_withContent, List.append_nil]
  | .inTurn sketches, invocation => Sketch.events_supplyAll sketches invocation

theorem Order.events_apply : (order : Order) → (e : Element) →
    (Order.apply factory e order).events = (order.account factory e).events e.name
  | ⟨as, supply⟩, e => by
    rw [Order.account, CallAccount.events, ← Supply.events_invocation supply (Invocation.empty.withAttributes as),
      Order.apply_eq, Factory.events_bind_invoke]

theorem Order.events_applyAll : (orders : List Order) → (e : Element) →
    (Order.applyAll factory orders e).events =
      CallAccount.eventsAll e.name (Order.accountAll factory orders e)
  | [], e => rfl
  | order :: orders, e => by
    rw [Order.applyAll, Order.accountAll, Build.events_bind, Order.events_apply order e,
      CallAccount.eventsAll_cons]
    cases h : (Order.apply factory e order).result with
    | error error => rfl
    | ok called =>
      have hrest := Order.events_applyAll orders called
      rw [Order.name_of_apply h] at hrest
      exact congrArg _ hrest

/-- What a build reports is what its account says. -/
theorem Blueprint.events_build : (blueprint : Blueprint) →
    (blueprint.build factory).events = (blueprint.account factory).events
  | ⟨origin, orders⟩ => by
    rw [Blueprint.build, Blueprint.account]
    by_cases h : origin.isReserved
    · rw [if_pos h, Origin.build_of_isReserved h]
      rfl
    · rw [if_neg h, Origin.build_of_not_isReserved h, pure_bind]
      exact Order.events_applyAll orders (Element.ofTag origin.name)

end

end Reports

section Nodes

mutual

/-- The nodes of an account, each before those inside it: the order in which tags are asked for. -/
def Account.nodes : Account → List Account
  | .refused name => [.refused name]
  | .made origin calls => .made origin calls :: CallAccount.nodesAll calls

def CallAccount.nodesAll : List CallAccount → List Account
  | [] => []
  | ⟨inside, _⟩ :: calls => Account.nodesAll inside ++ CallAccount.nodesAll calls

def Account.nodesAll : List Account → List Account
  | [] => []
  | account :: accounts => account.nodes ++ Account.nodesAll accounts

end

theorem Account.nodesAll_eq (accounts : List Account) :
    Account.nodesAll accounts = accounts.flatMap Account.nodes := by
  induction accounts with
  | nil => rfl
  | cons account accounts ih => rw [nodesAll, ih, List.flatMap_cons]

theorem Account.nodesAll_append (accounts more : List Account) :
    Account.nodesAll (accounts ++ more) = Account.nodesAll accounts ++ Account.nodesAll more := by
  simp only [Account.nodesAll_eq, List.flatMap_append]

/-- The nodes in the content of a call, and those inside them. -/
def CallAccount.nodes (call : CallAccount) : List Account := Account.nodesAll call.inside

theorem CallAccount.nodesAll_cons (call : CallAccount) (calls : List CallAccount) :
    CallAccount.nodesAll (call :: calls) = call.nodes ++ CallAccount.nodesAll calls := by
  obtain ⟨inside, ending⟩ := call
  rw [nodesAll, nodes]

theorem CallAccount.nodesAll_eq (calls : List CallAccount) :
    CallAccount.nodesAll calls = calls.flatMap CallAccount.nodes := by
  induction calls with
  | nil => rfl
  | cons call calls ih => rw [nodesAll_cons, ih, List.flatMap_cons]

theorem CallAccount.mem_nodes {call : CallAccount} {node : Account} :
    node ∈ call.nodes ↔ ∃ outer ∈ call.inside, node ∈ outer.nodes := by
  rw [nodes, Account.nodesAll_eq, List.mem_flatMap]

def Account.calls : Account → List CallAccount
  | .refused _ => []
  | .made _ calls => calls

def CallAccount.Failed (call : CallAccount) : Prop := ∃ error, call.ending = .error error

theorem Account.mem_nodes {account node : Account} :
    node ∈ account.nodes ↔ node = account ∨ ∃ call ∈ account.calls, node ∈ call.nodes := by
  cases account with
  | refused name => simp [nodes, calls]
  | made origin calls =>
    rw [nodes, CallAccount.nodesAll_eq, List.mem_cons, List.mem_flatMap]
    rfl

theorem Account.mem_nodes_of_call {account outer node : Account} {call : CallAccount}
    (hcall : call ∈ account.calls) (houter : outer ∈ call.inside) (hn : node ∈ outer.nodes) :
    node ∈ account.nodes :=
  Account.mem_nodes.2 (.inr ⟨call, hcall, CallAccount.mem_nodes.2 ⟨outer, houter, hn⟩⟩)

theorem Account.self_mem_nodes (account : Account) : account ∈ account.nodes :=
  Account.mem_nodes.2 (.inl rfl)

theorem Account.nodes_trans {account node inner : Account} (hi : inner ∈ node.nodes)
    (hn : node ∈ account.nodes) : inner ∈ account.nodes := by
  induction account using Account.induction with
  | refused name => rwa [List.mem_singleton.1 hn] at hi
  | made origin calls ih =>
    rcases Account.mem_nodes.1 hn with rfl | ⟨call, hcall, hn⟩
    · exact hi
    · obtain ⟨outer, houter, hn⟩ := CallAccount.mem_nodes.1 hn
      exact Account.mem_nodes_of_call hcall houter (ih call hcall outer houter hn)

/-- The node came to an error, which is that of one of its calls if there was an element. -/
def Account.FailedWith (error : TreeError) : Account → Prop
  | .refused name => error = .badTagName name
  | .made _ calls => ∃ call ∈ calls, call.ending = .error error

def Account.Failed (account : Account) : Prop := ∃ error, account.FailedWith error

/-- The name by which the node asked for its tag, unless it did by the builder of the tag. -/
def Account.requested? : Account → Option String
  | .refused name => some name
  | .made (.tag name) _ => some name
  | .made (.builder _) _ => none

def Account.refused? : Account → Option String
  | .refused name => some name
  | .made _ _ => none

/-- The names by which tags are asked for, in the order in which they are. -/
def Account.requests (account : Account) : List String := account.nodes.filterMap requested?

/-- Nothing but reserved names is refused, and a call fails if a node in its content has. -/
def Account.Sound : Account → Prop
  | .refused name => Tag.isReserved name
  | .made origin calls => ¬ origin.isReserved ∧
      ∀ call ∈ calls, (∃ node ∈ call.inside, node.Failed) → call.Failed

theorem Account.Sound.refused?_eq {node : Account} (h : node.Sound) :
    node.refused? = node.requested?.filter fun name => Tag.isReserved name := by
  cases node with
  | refused name =>
    have hr : Tag.isReserved name := h
    simp [refused?, requested?, Option.filter, hr]
  | made origin calls =>
    cases origin with
    | builder name => rfl
    | tag name =>
      have hr : ¬ Tag.isReserved name := h.1
      simp [refused?, requested?, Option.filter, hr]

/-- The nodes that are refused are reported in the order in which they asked. -/
theorem Account.rejected_events (account : Account) :
    account.events.filterMap Event.rejectedName? = account.nodes.filterMap Account.refused? := by
  induction account using Account.induction with
  | refused name => rfl
  | made origin calls ih =>
    rw [events, nodes, CallAccount.eventsAll_eq, CallAccount.nodesAll_eq, List.filterMap_cons_none rfl,
      List.filterMap_flatMap, List.filterMap_flatMap]
    refine List.flatMap_congr fun call hcall => ?_
    have hending : (call.ending.events origin.name).filterMap Event.rejectedName? = [] := by
      rcases call.ending with error | _ | items <;> rfl
    rw [CallAccount.events, List.filterMap_append, hending, List.append_nil, eventsAll_eq,
      CallAccount.nodes, nodesAll_eq, List.filterMap_flatMap, List.filterMap_flatMap]
    exact List.flatMap_congr (ih call hcall)

theorem Account.filterMap_refused? {nodes : List Account} (h : ∀ node ∈ nodes, node.Sound) :
    nodes.filterMap Account.refused? =
      (nodes.filterMap Account.requested?).filter Tag.isReserved := by
  induction nodes with
  | nil => rfl
  | cons node nodes ih =>
    obtain ⟨hnode, hnodes⟩ := List.forall_mem_cons.1 h
    simp only [List.filterMap_cons, hnode.refused?_eq, ih hnodes]
    cases node.requested? with
    | none => rfl
    | some name => by_cases hr : Tag.isReserved name <;> simp [hr, Option.filter]

end Nodes

section Failures

variable {factory : Factory} {error : TreeError}

theorem Order.ending_eq_error_iff (order : Order) (e : Element) :
    (order.account factory e).ending = .error error ↔
      (Order.apply factory e order).result = .error error := by
  obtain ⟨as, supply⟩ := order
  rw [Order.account, Ending.of]
  cases (Order.apply factory e ⟨as, supply⟩).result <;> simp [Except.map]

theorem Order.result_applyAll_eq_error_iff (orders : List Order) (e : Element) :
    (Order.applyAll factory orders e).result = .error error ↔
      ∃ call ∈ Order.accountAll factory orders e, call.ending = .error error := by
  induction orders generalizing e with
  | nil => simp [Order.applyAll, Order.accountAll]
  | cons order orders ih =>
    rw [Order.applyAll, Build.result_bind, Order.accountAll]
    simp only [List.mem_cons, exists_eq_or_imp, Order.ending_eq_error_iff]
    cases (Order.apply factory e order).result with
    | error other => simp [Except.bind]
    | ok called => simp [Except.bind, ih]

theorem Blueprint.result_build_eq_error_iff (blueprint : Blueprint) :
    (blueprint.build factory).result = .error error ↔
      (blueprint.account factory).FailedWith error := by
  obtain ⟨origin, orders⟩ := blueprint
  rw [Blueprint.build, Blueprint.account]
  by_cases h : origin.isReserved
  · rw [if_pos h, Origin.build_of_isReserved h]
    exact ⟨fun h => (Except.error.inj h).symm, fun h => congrArg Except.error h.symm⟩
  · rw [if_neg h, Origin.build_of_not_isReserved h, pure_bind]
    exact Order.result_applyAll_eq_error_iff orders (Element.ofTag origin.name)

/-- In a sound account failures go outwards: a node with a failed node inside has failed. -/
theorem Account.failed_of_node {account : Account} (hsound : ∀ node ∈ account.nodes, node.Sound)
    {node : Account} (hnode : node ∈ account.nodes) (hfailed : node.Failed) : account.Failed := by
  induction account using Account.induction with
  | refused name => exact ⟨_, rfl⟩
  | made origin calls ih =>
    rcases Account.mem_nodes.1 hnode with rfl | ⟨call, hcall, hnode⟩
    · exact hfailed
    · obtain ⟨outer, houter, hnode⟩ := CallAccount.mem_nodes.1 hnode
      have hinside : ∀ inner ∈ outer.nodes, inner.Sound := fun inner hi =>
        hsound inner (Account.mem_nodes_of_call hcall houter hi)
      have houterFailed := ih call hcall outer houter hinside hnode
      have hself := hsound _ (Account.self_mem_nodes _)
      obtain ⟨error, herror⟩ := hself.2 call hcall ⟨outer, houter, houterFailed⟩
      exact ⟨error, call, hcall, herror⟩

/-- In a sound account a call fails that has a failed node anywhere inside. -/
theorem Account.failed_of_inside {account : Account} (hsound : ∀ node ∈ account.nodes, node.Sound)
    {node : Account} (hnode : node ∈ account.nodes) {call : CallAccount} (hcall : call ∈ node.calls)
    {inner : Account} (hinner : inner ∈ call.nodes) (hfailed : inner.Failed) : call.Failed := by
  obtain ⟨outer, houter, hinner⟩ := CallAccount.mem_nodes.1 hinner
  have hmem := Account.mem_nodes_of_call hcall houter outer.self_mem_nodes
  have hinside : ∀ deep ∈ outer.nodes, deep.Sound := fun deep hd =>
    hsound deep (Account.nodes_trans hd (Account.nodes_trans hmem hnode))
  have houterFailed := Account.failed_of_node hinside hinner hfailed
  cases node with
  | refused name => cases hcall
  | made origin calls => exact (hsound _ hnode).2 call hcall ⟨outer, houter, houterFailed⟩

end Failures

end MarkupTree
