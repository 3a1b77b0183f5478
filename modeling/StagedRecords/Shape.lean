import StagedRecords.Draft
import StagedRecords.Json.Printer

/-!
# Shapes

A shape says what the rows of a schema are made into, and which slots a draft gets back from a
value. In a record shape the values are the rows in another form, so a draft gets back all of
them, and a record can be read from JSON and written as JSON.
-/

namespace StagedRecords

/-- A schema whose rows are made into values of the type `V`. -/
structure Shape (V : Type) extends Schema where
  make : Row types → V
  /-- The slots that a value fills again. -/
  refill : V → Slots types

namespace Shape

variable {V : Type}

/-- Builds a value. -/
def build (s : Shape V) (fresh : Nat → Uuid) (d : Draft s.toSchema) : Accepted V :=
  (d.build fresh).map s.make

/-- The draft that starts from a value: the conversion of values into drafts, which is there for
every shape. Records have two more ways to ask for it, `RecordShape.toDraft` and
`Buildable.toDraft`. -/
def draft (s : Shape V) (v : V) : Draft s.toSchema := ⟨s.refill v⟩

/-- Builds a value from the members of an object alone. -/
def ofMembers (s : Shape V) (fresh : Nat → Uuid) (ms : List (String × Json)) : Accepted V :=
  let filled := (Draft.empty (s := s.toSchema)).setAll ms
  filled.outcome.bind fun _ => s.build fresh filled.draft

/-- Builds a value from an object alone. -/
def ofObject (s : Shape V) (fresh : Nat → Uuid) (o : Object) : Accepted V :=
  s.ofMembers fresh o.toList

end Shape

/-- A schema whose rows are, in another form, the values of the type `V`. -/
structure RecordShape (V : Type) extends Schema where
  make : Row types → V
  row : V → Row types
  make_row : ∀ v, make (row v) = v
  row_make : ∀ r, row (make r) = r

namespace RecordShape

variable {V : Type}

/-- The shape whose values fill all slots again. -/
def toShape (s : RecordShape V) : Shape V where
  toSchema := s.toSchema
  make := s.make
  refill v := .ofRow (s.row v)

/-- The draft that starts from a record, as each record type has it for its own values. -/
def toDraft (s : RecordShape V) (v : V) : Draft s.toSchema := s.toShape.draft v

/-- The values of the fields under their names, in the order of declaration. -/
def members (s : RecordShape V) (v : V) : List (String × Json) := s.fields.encode (s.row v)

/-- The record as a JSON object. -/
def encode (s : RecordShape V) (v : V) : Json := .object (s.members v)

/-- Whether the record may be written so. Its fields are in the order of declaration. -/
def written (s : RecordShape V) (v : V) (j : Json) : Prop :=
  ∃ ms, s.fields.written (s.row v) ms ∧ j = .object ms

/-- Reads a record from an object. -/
def decode (s : RecordShape V) (fresh : Nat → Uuid) : Json → Decoded V
  | .object ms => (s.toShape.ofMembers fresh ms).mapError .refused
  | j => Codec.mismatch .map j

/-- The codec of a record inside another. Without drawn defaults no fresh identifier is used. -/
@[reducible]
def codec (s : RecordShape V) : Codec V where
  decode := s.decode fun _ => ⟨0⟩
  encode := s.encode
  written := s.written
  loose v := s.fields.loose (s.row v)

/-- The text of a record, unless it leaves the order of some elements open. -/
def text? (s : RecordShape V) (v : V) : Option String :=
  if s.fields.loose (s.row v) then none else some (s.encode v).text

end RecordShape

/-- The types of records, each with its one shape. -/
class Buildable (V : Type) where
  shape : RecordShape V

/-- The draft that starts from a record, for a record of any type. -/
def Buildable.toDraft {V : Type} [Buildable V] (v : V) :
    Draft (shape : RecordShape V).toSchema :=
  (shape : RecordShape V).toShape.draft v

end StagedRecords
