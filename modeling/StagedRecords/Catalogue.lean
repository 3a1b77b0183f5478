import StagedRecords.Catalogue.Collections
import StagedRecords.Catalogue.Constructed
import StagedRecords.Catalogue.Defaults
import StagedRecords.Catalogue.Samples
import StagedRecords.Catalogue.Scalars

/-!
# The catalogue of shapes

Every shape under its name, with the JSON object in which its values are presented.
-/

namespace StagedRecords

/-- A shape of the catalogue. -/
structure Entry where
  name : String
  {V : Type}
  shape : Shape V
  /-- Whether two values are equal. -/
  same : V → V → Bool
  /-- What can be read of a value, by name. -/
  members : V → List (String × Json)
  /-- The shape as a record, where it is one. -/
  record? : Option (RecordShape V)
  shape_eq : ∀ s, record? = some s → shape = s.toShape := by nofun

namespace Entry

/-- The entry of a record type, which presents the fields. -/
def ofRecord (name : String) (V : Type) [DecidableEq V] [Buildable V] : Entry where
  name := name
  shape := (Buildable.shape : RecordShape V).toShape
  same v w := v == w
  members := Buildable.shape.members
  record? := some Buildable.shape
  shape_eq _ h := congrArg RecordShape.toShape (Option.some.inj h)

/-- Presents a derived value as well. -/
def alongside (e : Entry) (extra : e.V → List (String × Json)) : Entry :=
  { e with members := fun v => e.members v ++ extra v }

end Entry

/-- All shapes. -/
def catalogue : List Entry :=
  [.ofRecord "SimpleDataClass" ScalarRecord,
   .ofRecord "CollectionsDataClass" CollectionRecord,
   .ofRecord "ArraysDataClass" ArrayRecord,
   .ofRecord "GenericTypeDataClass" WrapperRecord,
   (Entry.ofRecord "DataClassWithAdditionalFields" DerivedRecord).alongside fun v =>
     [("non_constructor_string()", .string (DerivedRecord.nonConstructorString v))],
   .ofRecord "DataClassWithLongPropertyNames" LongNameRecord,
   .ofRecord "WithDefaultValues" LiteralDefaults,
   .ofRecord "WithDefaultIdentifiers" IdentifierDefaults,
   .ofRecord "WithDefaultValuesReferringToOtherProperties" ChainedDefaults,
   .ofRecord "WithDefaultValuesUsingFunctions" FunctionDefaults,
   .ofRecord "WithDefaultRandomValues" DrawnDefaults,
   { name := "ClassWithConstructorParameters"
     shape := PersonName.shape
     same := (· == ·)
     members := fun v => [("full_name", Codec.encode v.fullName),
       ("other_name", Codec.encode v.otherName)]
     record? := none },
   .ofRecord "Account" Account,
   .ofRecord "Point" Point,
   { name := "Greeting"
     shape := Greeting.shape
     same := (· == ·)
     members := fun v => [("text", Codec.encode v.text),
       ("punctuation", Codec.encode v.punctuation)]
     record? := none },
   .ofRecord "Shelf" Shelf,
   .ofRecord "AllNullable" AllNullable]

/-- What holds of each shape under its name holds of all entries. -/
theorem forall_mem_catalogue {P : String → Schema → Prop}
    (scalars : P "SimpleDataClass" ScalarRecord.shape.toSchema)
    (collections : P "CollectionsDataClass" CollectionRecord.shape.toSchema)
    (arrays : P "ArraysDataClass" ArrayRecord.shape.toSchema)
    (wrappers : P "GenericTypeDataClass" WrapperRecord.shape.toSchema)
    (derived : P "DataClassWithAdditionalFields" DerivedRecord.shape.toSchema)
    (longNames : P "DataClassWithLongPropertyNames" LongNameRecord.shape.toSchema)
    (literals : P "WithDefaultValues" LiteralDefaults.shape.toSchema)
    (identifiers : P "WithDefaultIdentifiers" IdentifierDefaults.shape.toSchema)
    (chained : P "WithDefaultValuesReferringToOtherProperties" ChainedDefaults.shape.toSchema)
    (functions : P "WithDefaultValuesUsingFunctions" FunctionDefaults.shape.toSchema)
    (drawn : P "WithDefaultRandomValues" DrawnDefaults.shape.toSchema)
    (personNames : P "ClassWithConstructorParameters" PersonName.shape.toSchema)
    (accounts : P "Account" Account.shape.toSchema)
    (points : P "Point" Point.shape.toSchema)
    (greetings : P "Greeting" Greeting.shape.toSchema)
    (shelves : P "Shelf" Shelf.shape.toSchema)
    (nullables : P "AllNullable" AllNullable.shape.toSchema) :
    ∀ e ∈ catalogue, P e.name e.shape.toSchema := by
  simp only [catalogue, List.forall_mem_cons, List.not_mem_nil, false_imp_iff, implies_true,
    and_true]
  exact ⟨scalars, collections, arrays, wrappers, derived, longNames, literals, identifiers,
    chained, functions, drawn, personNames, accounts, points, greetings, shelves, nullables⟩

/-- The entry of that name. -/
def Entry.find? (name : String) : Option Entry := catalogue.find? (·.name == name)

end StagedRecords
