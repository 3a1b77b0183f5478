import StagedRecords.Fields

/-!
# Drafts

A draft is a record under construction: the slots of a schema. A write sets one slot, by place with
a value of its type or by name with a JSON value. A refused write changes nothing, and a build
reads the slots and leaves them as they are.
-/

namespace StagedRecords

/-- What a builder collects: its name, the module that its events belong to, and the fields. -/
structure Schema where
  builder : String
  module : String
  types : List Type
  fields : Fields types
  distinct : fields.names.Nodup

/-- The slots of a schema. -/
structure Draft (s : Schema) where
  slots : Slots s.types

/-- A value for the field at a place. -/
structure Write (ts : List Type) where
  {α : Type}
  place : Place ts α
  value : α

/-- What writes leave behind: the draft, and how they ended. -/
structure Attempt (s : Schema) where
  draft : Draft s
  outcome : Accepted Unit

/-- The write that a field of the name `name` makes of a JSON value. It does not depend on what
has been written before. -/
def Schema.accept (s : Schema) (name : String) (j : Json) : Accepted (Write s.types) :=
  match s.fields.find? name with
  | some w => (s.fields.accept s.builder j w.place).map fun a => ⟨w.place, a⟩
  | none => .fail ⟨s.builder, name, .unknownField⟩

/-- What is known of the field of that name. -/
def Schema.spec? (s : Schema) (name : String) : Option FieldSpec :=
  s.fields.specs.find? (·.name == name)

namespace Draft

variable {s : Schema}

/-- The draft without any value. -/
def empty : Draft s := ⟨Slots.none s.types⟩

/-- Whether no slot has a value. -/
def isEmpty (d : Draft s) : Bool := d.slots.allEmpty

/-- The draft after a write. -/
def write (d : Draft s) (w : Write s.types) : Draft s := ⟨w.place.put w.value d.slots⟩

/-- Writes a JSON value to the field of that name. -/
def set (d : Draft s) (name : String) (j : Json) : Attempt s :=
  match s.accept name j with
  | ⟨events, .ok w⟩ => ⟨d.write w, ⟨events, .ok ()⟩⟩
  | ⟨events, .error r⟩ => ⟨d, ⟨events, .error r⟩⟩

/-- Sets the members in their order, up to the first that is refused. -/
def setAll (d : Draft s) : List (String × Json) → Attempt s
  | [] => ⟨d, .pure ()⟩
  | (name, j) :: ms =>
    let one := d.set name j
    match one.outcome.result with
    | .error _ => one
    | .ok _ =>
      let others := one.draft.setAll ms
      ⟨others.draft, ⟨one.outcome.events ++ others.outcome.events, others.outcome.result⟩⟩

/-- Sets the members of an object in the order of their keys. -/
def apply (d : Draft s) (o : Object) : Attempt s := d.setAll o.toList

/-- Builds a row of values, drawing from the fresh identifiers, and records the build. -/
def build (d : Draft s) (fresh : Nat → Uuid) : Accepted (Row s.types) :=
  match s.fields.resolve fresh d.slots with
  | .ok row => ⟨[⟨s.builder, s.module⟩], .ok row⟩
  | .error name => .fail ⟨s.builder, name, .missing⟩

end Draft

end StagedRecords
