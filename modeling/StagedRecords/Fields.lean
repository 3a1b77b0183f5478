import StagedRecords.Policy

/-!
# Declared fields

The fields of a record are declared one after the other. Each declaration knows the values of the
fields before it, so a default may be computed from them. A `Row` of values is a nested pair with
the last field outermost, and so are the slots, which may be empty.
-/

namespace StagedRecords

/-- What fills an empty slot of a field with values in `α`, after fields with values in `R`. -/
inductive Kind (R α : Type)
  | required
  | strict
  | nullable (null : α)
  | defaulted (value : R → α)
  /-- A default made from a fresh identifier at each build. -/
  | drawn (value : Uuid → α)

namespace Kind

variable {R α : Type}

/-- The nullability class. A drawn default is a default. -/
def nullability : Kind R α → Nullability
  | .required => .required
  | .strict => .strict
  | .nullable _ => .nullable
  | .defaulted _ => .defaulted
  | .drawn _ => .defaulted

/-- Takes a value that is written by name. -/
def accept [Codec α] (builder field : String) (j : Json) : Kind R α → Accepted α
  | .strict => Policy.strict builder field j
  | .nullable null => Policy.nullable null builder field j
  | .required | .defaulted _ | .drawn _ => Policy.required builder field j

/-- What an empty slot counts as, if the field need not be set. -/
def fallback? (earlier : R) (fresh : Uuid) : Kind R α → Option α
  | .required | .strict => none
  | .nullable null => some null
  | .defaulted value => some (value earlier)
  | .drawn value => some (value fresh)

end Kind

/-- The values of a record with fields of these types, the last field first. -/
@[reducible] def Row : List Type → Type
  | [] => Unit
  | α :: ts => Row ts × α

/-- The slots of a record under construction: for each field a value or nothing. -/
@[reducible] def Slots : List Type → Type
  | [] => Unit
  | α :: ts => Slots ts × Option α

namespace Slots

/-- Slots without any value. -/
def none : (ts : List Type) → Slots ts
  | [] => ()
  | _ :: ts => (none ts, Option.none)

/-- Slots that hold the values of a row. -/
def ofRow : {ts : List Type} → Row ts → Slots ts
  | [], _ => ()
  | _ :: _, (r, a) => (ofRow r, some a)

/-- Whether no slot has a value. -/
def allEmpty : {ts : List Type} → Slots ts → Bool
  | [], _ => true
  | _ :: _, (s, x) => allEmpty s && x.isNone

end Slots

/-- The place of one field with values in `α`. -/
inductive Place : List Type → Type → Type 1
  | last {α : Type} {ts : List Type} : Place (α :: ts) α
  | before {α β : Type} {ts : List Type} (p : Place ts β) : Place (α :: ts) β

namespace Place

/-- How many fields come before. -/
def index : {ts : List Type} → {α : Type} → Place ts α → Nat
  | _ :: ts, _, .last => ts.length
  | _, _, .before p => p.index

/-- The content of the slot. -/
def get : {ts : List Type} → {α : Type} → Place ts α → Slots ts → Option α
  | _ :: _, _, .last, (_, x) => x
  | _ :: _, _, .before p, (s, _) => p.get s

/-- The slots with the value `a` in this one. -/
def put : {ts : List Type} → {α : Type} → Place ts α → α → Slots ts → Slots ts
  | _ :: _, _, .last, a, (s, _) => (s, some a)
  | _ :: _, _, .before p, a, (s, x) => (p.put a s, x)

/-- The value of the field in a row. -/
def read : {ts : List Type} → {α : Type} → Place ts α → Row ts → α
  | _ :: _, _, .last, (_, a) => a
  | _ :: _, _, .before p, (r, _) => p.read r

end Place

/-- One declared field, after fields of the types `ts`. -/
structure Field (ts : List Type) (α : Type) where
  name : String
  kind : Kind (Row ts) α
  codec : Codec α

/-- Fields in the order of their declaration. -/
inductive Fields : List Type → Type 1
  | nil : Fields []
  | snoc {ts : List Type} {α : Type} (earlier : Fields ts) (field : Field ts α) : Fields (α :: ts)

namespace Fields

variable {ts : List Type}

/-- Declares a field that must be set. -/
def required (fs : Fields ts) (name : String) (α : Type) [c : Codec α] : Fields (α :: ts) :=
  .snoc fs ⟨name, .required, c⟩

/-- Declares a collection that must be set and holds no nulls. -/
def strict (fs : Fields ts) (name : String) (α : Type) [c : Codec α] : Fields (α :: ts) :=
  .snoc fs ⟨name, .strict, c⟩

/-- Declares a field that may be null. -/
def nullable (fs : Fields ts) (name : String) (α : Type) [c : Codec (Option α)] :
    Fields (Option α :: ts) :=
  .snoc fs ⟨name, .nullable none, c⟩

/-- Declares a field with a default, which may be computed from the fields before it. -/
def defaulted {α : Type} [c : Codec α] (fs : Fields ts) (name : String) (value : Row ts → α) :
    Fields (α :: ts) :=
  .snoc fs ⟨name, .defaulted value, c⟩

/-- Declares a field whose default is drawn anew at each build. -/
def drawn {α : Type} [c : Codec α] (fs : Fields ts) (name : String) (value : Uuid → α) :
    Fields (α :: ts) :=
  .snoc fs ⟨name, .drawn value, c⟩

/-- What is known of each field, in the order of declaration. -/
def specs : {ts : List Type} → Fields ts → List FieldSpec
  | _, .nil => []
  | _, .snoc fs f => fs.specs ++ [⟨f.name, f.kind.nullability⟩]

/-- The names of the fields, in the order of declaration. -/
def names (fs : Fields ts) : List String := fs.specs.map FieldSpec.name

/-- The row that the slots resolve to. Fields are resolved in the order of declaration, and an
empty slot takes its default from the resolved fields before it. The first field that must be set
and is not fails the whole, and its name is the error. The field with index `i` has the fresh
identifier `fresh i` to draw from. -/
def resolve (fresh : Nat → Uuid) : {ts : List Type} → Fields ts → Slots ts → Except String (Row ts)
  | _, .nil, _ => .ok ()
  | _, @snoc ts _ fs f, (s, x) =>
    match fs.resolve fresh s with
    | .error name => .error name
    | .ok r =>
      match x.or (f.kind.fallback? r (fresh ts.length)) with
      | some a => .ok (r, a)
      | none => .error f.name

/-- The values of a row as the members of an object, in the order of declaration. -/
def encode : {ts : List Type} → Fields ts → Row ts → List (String × Json)
  | _, .nil, _ => []
  | _, .snoc fs f, (r, a) => fs.encode r ++ [(f.name, f.codec.encode a)]

/-- Whether `ms` are the values of a row as members, each as it may be written. -/
def written : {ts : List Type} → Fields ts → Row ts → List (String × Json) → Prop
  | _, .nil, _, ms => ms = []
  | _, .snoc fs f, (r, a), ms =>
    ∃ earlier j, fs.written r earlier ∧ f.codec.written a j ∧ ms = earlier ++ [(f.name, j)]

/-- Whether the written order of some value is left open. -/
def loose : {ts : List Type} → Fields ts → Row ts → Bool
  | _, .nil, _ => false
  | _, .snoc fs f, (r, a) => fs.loose r || f.codec.loose a

/-- The name and the nullability class of the field at a place. -/
def spec : {ts : List Type} → {α : Type} → Fields ts → Place ts α → FieldSpec
  | _, _, .snoc _ f, .last => ⟨f.name, f.kind.nullability⟩
  | _, _, .snoc fs _, .before p => fs.spec p

/-- The codec of the field at a place. -/
@[reducible]
def codec : {ts : List Type} → {α : Type} → Fields ts → Place ts α → Codec α
  | _, _, .snoc _ f, .last => f.codec
  | _, _, .snoc fs _, .before p => fs.codec p

/-- Takes a value, written by name, for the field at a place. -/
def accept (builder : String) (j : Json) :
    {ts : List Type} → {α : Type} → Fields ts → Place ts α → Accepted α
  | _, _, .snoc _ f, .last => letI := f.codec; f.kind.accept builder f.name j
  | _, _, .snoc fs _, .before p => fs.accept builder j p

end Fields

/-- A place together with the type of its values. -/
structure Somewhere (ts : List Type) where
  {α : Type}
  place : Place ts α

/-- The place of the field of that name. -/
def Fields.find? (name : String) : {ts : List Type} → Fields ts → Option (Somewhere ts)
  | _, .nil => none
  | _, .snoc fs f =>
    if f.name = name then some ⟨.last⟩
    else (fs.find? name).map fun w => ⟨.before w.place⟩

end StagedRecords
