import StagedRecords.Shape

/-!
# Sessions

A session works on one draft at a time. Built values and copies of drafts are kept under names, and
every build has identifiers of its own to draw from.
-/

namespace StagedRecords

/-- The current draft, the values and drafts kept so far, and the number of builds. -/
structure Session {V : Type} (s : Shape V) where
  draft : Draft s.toSchema
  values : Dict V
  drafts : Dict (Draft s.toSchema)
  builds : Nat

namespace Session

variable {V : Type} {s : Shape V}

/-- An empty draft and nothing kept. -/
def start : Session s := ⟨.empty, .empty, .empty, 0⟩

/-- Goes on with another draft. -/
def goOnWith (n : Session s) (d : Draft s.toSchema) : Session s := { n with draft := d }

/-- Writes a value to the current draft. -/
def write (n : Session s) (w : Write s.types) : Session s := n.goOnWith (n.draft.write w)

/-- Writes a JSON value to the current draft by name. -/
def set (n : Session s) (name : String) (j : Json) : Session s × Accepted Unit :=
  let attempt := n.draft.set name j
  (n.goOnWith attempt.draft, attempt.outcome)

/-- Applies an object to the current draft. -/
def apply (n : Session s) (o : Object) : Session s × Accepted Unit :=
  let attempt := n.draft.apply o
  (n.goOnWith attempt.draft, attempt.outcome)

/-- Keeps the value that a run ends in, if it does, under the name `as`. A name is free to be used
again and keeps its value when the run fails. -/
def keep {ε : Type} (n : Session s) (as : String) (run : (Nat → Uuid) → Traced ε V)
    (fresh : Nat → Nat → Uuid) : Session s × Traced ε V :=
  let outcome := run (fresh n.builds)
  let n := { n with builds := n.builds + 1 }
  match outcome.result with
  | .ok v => ({ n with values := n.values.insert (as, v) }, outcome)
  | .error _ => (n, outcome)

/-- Builds the current draft and keeps the value. -/
def build (n : Session s) (as : String) (fresh : Nat → Nat → Uuid) : Session s × Accepted V :=
  n.keep as (s.build · n.draft) fresh

/-- Goes on with the draft that starts from the value of that name, if there is one. -/
def reopen (n : Session s) (of : String) : Option (Session s) :=
  (n.values.get? of).map fun v => n.goOnWith (s.draft v)

/-- Keeps a copy of the current draft. -/
def save (n : Session s) (as : String) : Session s :=
  { n with drafts := n.drafts.insert (as, n.draft) }

/-- Goes on with the draft kept under that name, if there is one. -/
def restore (n : Session s) (of : String) : Option (Session s) :=
  (n.drafts.get? of).map n.goOnWith

end Session

end StagedRecords
