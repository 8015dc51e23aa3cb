import MarkupTree.Factory

/-! Descriptions of trees, and building them. Content is described with the elements in it, and all
of them are built, from left to right, before any of it is read. Sequences that build an item only
when it is pulled are left out: they have no description here, and the items of a sequence that is
described are built beforehand like those of a list. -/
namespace MarkupTree

inductive Origin where
  /-- By any name, which must not be reserved. -/
  | tag (name : String)
  /-- By the builder of the tag. -/
  | builder (name : String)
  deriving DecidableEq, Repr

mutual

/-- Content whose elements are still to be built. -/
inductive Sketch where
  | ready (content : Content)
  | element (blueprint : Blueprint)
  | present (sketch : Sketch)
  | succeeded (sketch : Sketch)
  | list (sketches : List Sketch)
  | sequence (sketches : List Sketch)
  /-- Copies of content that is built once. -/
  | copies (count : Nat) (sketch : Sketch)

inductive Supply where
  | nothing
  | whole (sketch : Sketch)
  /-- Contents that are built and read one after the other. -/
  | inTurn (sketches : List Sketch)

structure Order where
  attributes : List Attribute
  supply : Supply

structure Blueprint where
  origin : Origin
  orders : List Order

end

instance : Inhabited Sketch := ⟨.ready .unit⟩
instance : Inhabited Blueprint := ⟨⟨.tag "", []⟩⟩

def Origin.build (factory : Factory) : Origin → Build Element
  | .tag name => factory.tag name
  | .builder name => pure (Element.ofTag name)

mutual

def Sketch.build (factory : Factory) : Sketch → Logged Content
  | .ready content => pure content
  | .element blueprint => do return Content.ofResult (← (blueprint.build factory).run)
  | .present sketch => return .present (← sketch.build factory)
  | .succeeded sketch => return .succeeded (← sketch.build factory)
  | .list sketches => return .list (← Sketch.buildAll factory sketches)
  | .sequence sketches => return .sequence (← Sketch.buildAll factory sketches)
  | .copies count sketch => return .copies count (← sketch.build factory)

def Sketch.buildAll (factory : Factory) : List Sketch → Logged (List Content)
  | [] => pure []
  | sketch :: sketches => do
    let content ← sketch.build factory
    return content :: (← Sketch.buildAll factory sketches)

def Sketch.supplyAll (factory : Factory) : List Sketch → Invocation → Build Invocation
  | [], invocation => pure invocation
  | sketch :: sketches, invocation => do
    let content ← ExceptT.lift (sketch.build factory)
    let invocation ← invocation.withContent content
    Sketch.supplyAll factory sketches invocation

def Order.apply (factory : Factory) (e : Element) : Order → Build Element
  | ⟨attributes, .nothing⟩ => factory.attributes e attributes
  | ⟨attributes, .whole sketch⟩ => do
    let content ← ExceptT.lift (sketch.build factory)
    factory.call e content attributes
  | ⟨attributes, .inTurn sketches⟩ => do
    let invocation ←
      Sketch.supplyAll factory sketches (Invocation.empty.withAttributes attributes)
    factory.invoke e invocation

def Order.applyAll (factory : Factory) : List Order → Element → Build Element
  | [], e => pure e
  | order :: orders, e => do
    let called ← Order.apply factory e order
    Order.applyAll factory orders called

def Blueprint.build (factory : Factory) : Blueprint → Build Element
  | ⟨origin, orders⟩ => do
    let e ← origin.build factory
    Order.applyAll factory orders e

end

end MarkupTree
