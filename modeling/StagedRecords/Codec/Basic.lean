import StagedRecords.Fault
import StagedRecords.Traced

/-!
# Codecs

A codec says how the values of a type are read from JSON and written as JSON. Decoding may build
nested records, so it is traced. Collections without an order of their own may be written in any
order, so a codec says which values `a` may be written as, and `encode` is one of them.
-/

namespace StagedRecords

/-- A run that ends in a decoded value or a fault. -/
abbrev Decoded (α : Type u) := Traced Fault α

/-- How the values of a type are read and written. -/
class Codec (α : Type) where
  decode : Json → Decoded α
  encode : α → Json
  /-- Whether the value may be written so; `encode` settles what order is left open. -/
  written : α → Json → Prop := fun a j => j = encode a
  /-- The value that an absent member stands for, where there is one. -/
  absent : Option α := none
  /-- Whether the value has elements whose written order is left open. -/
  loose : α → Bool := fun _ => false

namespace Codec

variable {α : Type}

/-- Ends with the fault that `j` is not what was expected. -/
def mismatch (expected : Expected) (j : Json) : Decoded α := .fail (.kind j expected)

/-- A string that `read` makes sense of, with its fault put in place. -/
def ofString (expected : Expected) (read : String → Except Fault α) : Json → Decoded α
  | .string s => .of (read s)
  | j => mismatch expected j

/-- The elements of an array in order. -/
def elements (decode : Json → Decoded α) : Json → Decoded (List α)
  | .array js => Traced.each decode js
  | j => mismatch .sequence j

/-- The members of an object in order. -/
def members (decode : Json → Decoded α) : Json → Decoded (List (String × α))
  | .object ms => Traced.each (fun m => (decode m.2).map fun a => (m.1, a)) ms
  | j => mismatch .map j

/-- An array of the elements in their order, each as it may be written. -/
def arrayWritten [Codec α] (as : List α) (j : Json) : Prop :=
  ∃ ps : List (α × Json), (∀ p ∈ ps, written p.1 p.2) ∧ ps.map Prod.fst = as ∧
    j = .array (ps.map Prod.snd)

/-- An object of the entries in their order, each value as it may be written. -/
def objectWritten [Codec α] (es : List (String × α)) (j : Json) : Prop :=
  ∃ ps : List ((String × α) × Json), (∀ p ∈ ps, written p.1.2 p.2) ∧ ps.map Prod.fst = es ∧
    j = .object (ps.map fun p => (p.1.1, p.2))

/-- Any JSON value. -/
instance : Codec Json where
  decode := .pure
  encode j := j

instance : Codec String where
  decode := ofString .string .ok
  encode := .string

instance : Codec Bool where
  decode
    | .bool b => .pure b
    | j => mismatch .boolean j
  encode := .bool

instance : Codec Int64 where
  decode
    | .int n =>
      if Int64.minValue.toInt ≤ n ∧ n ≤ Int64.maxValue.toInt then .pure (Int64.ofInt n)
      else .fail (.integerRange n)
    | j => mismatch .integer j
  encode n := .int n.toInt

instance : Codec Char where
  decode := ofString .character fun s =>
    match s.toList with
    | [c] => .ok c
    | _ => .error (.characterCount s)
  encode c := .string (String.singleton c)

instance : Codec Date where
  decode := ofString .date fun s => (Date.ofText s).mapError .date
  encode d := .string d.text

instance : Codec Uuid where
  decode := ofString .uuid fun s => (Uuid.ofText s).mapError .uuid
  encode u := .string u.text

/-- Null stands for no value; anything else for a value of the inner type. -/
instance [Codec α] : Codec (Option α) where
  decode j := if j.isNull then .pure none else (decode j).map some
  encode
    | none => .null
    | some a => encode a
  written
    | none, j => j = .null
    | some a, j => written a j
  absent := some none
  loose a := a.any loose

end Codec

end StagedRecords
