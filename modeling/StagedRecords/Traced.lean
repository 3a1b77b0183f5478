/-!
# Traced runs

A run ends in a value or an error and leaves the builds that completed on the way, in order of
completion. The builds stay when the run fails later.
-/

namespace StagedRecords

/-- A completed build: the builder, and the module that its log event belongs to. -/
structure Built where
  builder : String
  module : String
deriving DecidableEq

/-- A result together with the builds that completed before it. -/
structure Traced (ε : Type) (α : Type u) where
  events : List Built
  result : Except ε α

namespace Traced

variable {ε ε' : Type} {α : Type u} {β : Type v}

/-- Ends with `a`, building nothing. -/
protected def pure (a : α) : Traced ε α := ⟨[], .ok a⟩

/-- Ends with the error `e`, building nothing. -/
def fail (e : ε) : Traced ε α := ⟨[], .error e⟩

/-- Ends as `r` says, building nothing. -/
def of (r : Except ε α) : Traced ε α := ⟨[], r⟩

/-- Goes on with `f`, unless the first run failed. -/
protected def bind (t : Traced ε α) (f : α → Traced ε β) : Traced ε β :=
  match t.result with
  | .ok a => ⟨t.events ++ (f a).events, (f a).result⟩
  | .error e => ⟨t.events, .error e⟩

/-- Replaces the value. -/
def map (f : α → β) (t : Traced ε α) : Traced ε β := ⟨t.events, t.result.map f⟩

/-- Replaces the error. -/
def mapError (f : ε → ε') (t : Traced ε α) : Traced ε' α := ⟨t.events, t.result.mapError f⟩

/-- Runs `f` on the elements in order, up to and including the first that fails. -/
def each {β : Type v} {α : Type u} (f : β → Traced ε α) : List β → Traced ε (List α)
  | [] => .pure []
  | b :: bs => (f b).bind fun a => (each f bs).map (a :: ·)

@[simp] theorem result_map (f : α → β) (t : Traced ε α) : (t.map f).result = t.result.map f := rfl

@[simp] theorem events_map (f : α → β) (t : Traced ε α) : (t.map f).events = t.events := rfl

@[simp] theorem events_mapError (f : ε → ε') (t : Traced ε α) :
    (t.mapError f).events = t.events := rfl

end Traced

end StagedRecords
