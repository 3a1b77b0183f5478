import StagedRecords.Codec.Basic
import StagedRecords.Json.NullScan

/-!
# Null policies

A field has one of four nullability classes. They decide whether the field takes null, whether it
must be set before a build, and, through the three ways of accepting a value here, which values a
write by name takes.
-/

namespace StagedRecords

/-- How a field stands to null and to not being set. -/
inductive Nullability
  /-- Must be set, and not to null. -/
  | required
  /-- May be null, and is null when never set. -/
  | nullable
  /-- Takes no null, and has a default when never set. -/
  | defaulted
  /-- Must be set to a collection without null elements. -/
  | strict
deriving DecidableEq

namespace Nullability

/-- Whether the field itself may be null. -/
def acceptsNull (n : Nullability) : Bool := n == .nullable

/-- Whether a build fails while the field is not set. -/
def mustBeSet (n : Nullability) : Bool := n == .required || n == .strict

/-- The name of the class. -/
def name : Nullability → String
  | .required => "Required"
  | .nullable => "Nullable"
  | .defaulted => "Defaulted"
  | .strict => "Strict"

end Nullability

/-- What is known of a field without its type. -/
structure FieldSpec where
  name : String
  nullability : Nullability
deriving DecidableEq

/-- A run that ends in a value or a refusal. -/
abbrev Accepted (α : Type u) := Traced Refusal α

namespace Policy

variable {α : Type} [Codec α]

/-- Decodes a value for a field; a fault makes it an invalid value. -/
def decoded (builder field : String) (j : Json) : Accepted α :=
  (Codec.decode j).mapError fun f => ⟨builder, field, .invalid f.message⟩

/-- Takes any value but null. -/
def required (builder field : String) (j : Json) : Accepted α :=
  if j.isNull then .fail ⟨builder, field, .nullValue⟩ else decoded builder field j

/-- Takes null for `null`, and any other value. -/
def nullable (null : α) (builder field : String) (j : Json) : Accepted α :=
  if j.isNull then .pure null else decoded builder field j

/-- Takes any value but null and collections with a null element. The search for nulls comes
before all decoding. -/
def strict (builder field : String) (j : Json) : Accepted α :=
  if j.isNull then .fail ⟨builder, field, .nullValue⟩
  else if j.hasNullElement then .fail ⟨builder, field, .nullElement⟩
  else decoded builder field j

end Policy

end StagedRecords
