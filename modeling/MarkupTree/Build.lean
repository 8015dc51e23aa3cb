import MarkupTree.Error
import MarkupTree.Log

/-! Results with what happened on the way to them. A build may fail, and what happened before it
failed stands all the same. -/
namespace MarkupTree

/-- A value, the events on the way to it in their order, and how many items were pulled from lazy
sequences. -/
@[ext]
structure Logged (α : Type) where
  value : α
  events : List Event
  pulled : Nat

namespace Logged

def tell (event : Event) : Logged Unit := ⟨(), [event], 0⟩

def pullOne : Logged Unit := ⟨(), [], 1⟩

instance : Monad Logged where
  pure a := ⟨a, [], 0⟩
  bind x f :=
    ⟨(f x.value).value, x.events ++ (f x.value).events, x.pulled + (f x.value).pulled⟩

variable {α β : Type}

@[simp] theorem value_pure (a : α) : (pure a : Logged α).value = a := rfl
@[simp] theorem events_pure (a : α) : (pure a : Logged α).events = [] := rfl
@[simp] theorem pulled_pure (a : α) : (pure a : Logged α).pulled = 0 := rfl
@[simp] theorem value_bind (x : Logged α) (f : α → Logged β) :
    (x >>= f).value = (f x.value).value := rfl
@[simp] theorem events_bind (x : Logged α) (f : α → Logged β) :
    (x >>= f).events = x.events ++ (f x.value).events := rfl
@[simp] theorem pulled_bind (x : Logged α) (f : α → Logged β) :
    (x >>= f).pulled = x.pulled + (f x.value).pulled := rfl

@[simp] theorem value_map (f : α → β) (x : Logged α) : (f <$> x).value = f x.value := rfl
@[simp] theorem events_map (f : α → β) (x : Logged α) : (f <$> x).events = x.events :=
  List.append_nil _

instance : LawfulMonad Logged := LawfulMonad.mk' Logged
  (fun x => by ext <;> simp [Functor.map])
  (fun a f => by ext <;> simp)
  (fun x f g => by ext <;> simp [Nat.add_assoc])

end Logged

abbrev Build := ExceptT TreeError Logged

namespace Build

def tell (event : Event) : Build Unit := ExceptT.lift (Logged.tell event)

def pullOne : Build Unit := ExceptT.lift Logged.pullOne

variable {α β : Type}

def ofExcept (result : Except TreeError α) : Build α := ExceptT.mk (pure result)

/-- What the build comes to, without what happened on the way. -/
def result (build : Build α) : Except TreeError α := build.run.value

@[simp] theorem result_pure (a : α) : (pure a : Build α).result = .ok a := rfl
@[simp] theorem result_throw (error : TreeError) : (throw error : Build α).result = .error error :=
  rfl
@[simp] theorem result_tell (event : Event) : (tell event).result = .ok () := rfl

@[simp] theorem result_pullOne : pullOne.result = .ok () := rfl

@[simp] theorem result_lift (logged : Logged α) :
    result (ExceptT.lift logged) = .ok logged.value := rfl

@[simp] theorem result_ofExcept (result : Except TreeError α) :
    (ofExcept result).result = result := rfl

@[simp] theorem result_bind (x : Build α) (f : α → Build β) :
    (x >>= f).result = x.result.bind fun a => (f a).result := by
  change (ExceptT.bindCont f x.run.value).value = x.run.value.bind fun a => (f a).run.value
  cases x.run.value <;> rfl

theorem exists_of_result_bind {x : Build α} {f : α → Build β} {b : β}
    (h : (x >>= f).result = .ok b) : ∃ a, x.result = .ok a ∧ (f a).result = .ok b := by
  rw [result_bind] at h
  cases hx : x.result with
  | error error =>
    rw [hx] at h
    cases h
  | ok a =>
    rw [hx] at h
    exact ⟨a, rfl, h⟩

@[simp] theorem result_map (f : α → β) (x : Build α) : (f <$> x).result = x.result.map f := by
  rw [map_eq_pure_bind, result_bind]
  cases x.result <;> rfl

/-- What is reported on the way, be it to a value or to an error. -/
def events (build : Build α) : List Event := build.run.events

@[simp] theorem events_pure (a : α) : (pure a : Build α).events = [] := rfl
@[simp] theorem events_throw (error : TreeError) : (throw error : Build α).events = [] := rfl
@[simp] theorem events_tell (event : Event) : (tell event).events = [event] := rfl
@[simp] theorem events_pullOne : pullOne.events = [] := rfl

@[simp] theorem events_ofExcept (result : Except TreeError α) : (ofExcept result).events = [] := rfl

@[simp] theorem events_lift (logged : Logged α) :
    events (ExceptT.lift logged) = logged.events :=
  List.append_nil _

theorem events_bind (x : Build α) (f : α → Build β) :
    (x >>= f).events = x.events ++
      match x.result with
      | .ok a => (f a).events
      | .error _ => [] := by
  change x.run.events ++ (ExceptT.bindCont f x.run.value).events = _
  congr 1
  unfold result
  cases x.run.value <;> rfl

theorem events_lift_bind (logged : Logged α) (f : α → Build β) :
    events (ExceptT.lift logged >>= f) = logged.events ++ (f logged.value).events := by
  rw [events_bind, events_lift, result_lift]

@[simp] theorem events_map (f : α → β) (x : Build α) : (f <$> x).events = x.events := by
  rw [map_eq_pure_bind, events_bind]
  cases x.result <;> exact List.append_nil _

/-- Behind a computation that reports nothing, the rest is reported, if it is reached. -/
theorem events_bind_of_silent {x : Build α} (h : x.events = []) (f : α → Build β) :
    (x >>= f).events =
      match x.result with
      | .ok a => (f a).events
      | .error _ => [] := by
  rw [events_bind, h, List.nil_append]

theorem silent_bind {x : Build α} {f : α → Build β} (hx : x.events = [])
    (hf : ∀ a, (f a).events = []) : (x >>= f).events = [] := by
  rw [events_bind_of_silent hx]
  cases x.result with
  | ok a => exact hf a
  | error error => rfl

end Build

end MarkupTree
