import MarkupTree.Invocation
import MarkupTree.Keyword
import MarkupTree.Text.Kebab

/-! What happens to every call before its element sees it: stages, each of which makes a new
invocation out of the one before. -/
namespace MarkupTree

abbrev Stage := Invocation → Invocation

structure Pipeline where
  stages : List Stage

namespace Pipeline

def run (pipeline : Pipeline) (invocation : Invocation) : Invocation :=
  pipeline.stages.foldl (fun current stage => stage current) invocation

/-- Whatever every stage preserves, the whole pipeline does. -/
theorem run_preserves {pipeline : Pipeline} {p : Invocation → Prop}
    (h : ∀ stage ∈ pipeline.stages, ∀ invocation, p invocation → p (stage invocation))
    {invocation : Invocation} (hp : p invocation) : p (pipeline.run invocation) := by
  obtain ⟨stages⟩ := pipeline
  induction stages generalizing invocation with
  | nil => exact hp
  | cons stage stages ih =>
    exact ih (h stage List.mem_cons_self invocation hp) fun later hl =>
      h later (List.mem_cons_of_mem _ hl)

/-- The new key of an attribute that belongs to the hypermedia family. -/
def kebabHypermedia? (key : String) : Option String :=
  if ['h', 'x'].isPrefixOf key.toList then some (Text.kebabCase key) else none

/-- Takes the marks off attribute keys that would otherwise be keywords. -/
def resolveKeywords : Stage := Invocation.renameAttributes Keyword.unmark?

/-- Writes the keys that begin with `hx` in kebab case. -/
def kebabAttributes : Stage := Invocation.renameAttributes kebabHypermedia?

/-- Keywords first, so that a marked hypermedia key is written in kebab case too. -/
def standard : Pipeline := ⟨[resolveKeywords, kebabAttributes]⟩

/-- The invocation as it comes in and after each stage. -/
def trace (pipeline : Pipeline) (invocation : Invocation) : List Invocation :=
  (List.range (pipeline.stages.length + 1)).map fun count =>
    Pipeline.run ⟨pipeline.stages.take count⟩ invocation

end Pipeline

end MarkupTree
