import StagedRecords.Codec.Containers
import StagedRecords.Shape

/-!
# Records of scalars

Strings, integers and dates in every nullability class but the strict one.
-/

namespace StagedRecords

/-- Scalars that must be set, may be null or have a default. -/
structure ScalarRecord where
  notNullString : String
  nullableString : Option String
  notNullLong : Int64
  nullableLong : Option Int64
  date : Date
  value : String
  stringWithDefault : String
  defaultDate : Date
deriving DecidableEq

namespace ScalarRecord

/-- The default of `string_with_default`. -/
def defaultString : String := "withDefaultValue"

@[reducible] def fields := Fields.nil
  |>.required "not_null_string" String
  |>.nullable "nullable_string" String
  |>.required "not_null_long" Int64
  |>.nullable "nullable_long" Int64
  |>.required "date" Date
  |>.required "value" String
  |>.defaulted "string_with_default" (fun _ => defaultString)
  |>.defaulted "default_date" (fun _ => Date.first)

@[reducible] def shape : RecordShape ScalarRecord where
  builder := "SimpleDataClassBuilder"
  module := "databuilder_shapes::simple"
  types := _
  fields := fields
  distinct := by decide
  make := fun ((((((((_, notNullString), nullableString), notNullLong), nullableLong), date),
      value), stringWithDefault), defaultDate) =>
    ⟨notNullString, nullableString, notNullLong, nullableLong, date, value, stringWithDefault,
      defaultDate⟩
  row v := (((((((((), v.notNullString), v.nullableString), v.notNullLong), v.nullableLong),
    v.date), v.value), v.stringWithDefault), v.defaultDate)
  make_row _ := rfl
  row_make _ := rfl

instance : Buildable ScalarRecord := ⟨shape⟩

end ScalarRecord

/-- Two strings, from the first of which a third is derived. -/
structure DerivedRecord where
  constructorString : String
  privateString : String
deriving DecidableEq

namespace DerivedRecord

/-- The derived string, which is no field. -/
def nonConstructorString (v : DerivedRecord) : String := v.constructorString ++ "foo"

@[reducible] def fields := Fields.nil
  |>.required "constructor_string" String
  |>.required "private_string" String

@[reducible] def shape : RecordShape DerivedRecord where
  builder := "DataClassWithAdditionalFieldsBuilder"
  module := "databuilder_shapes::additional_fields"
  types := _
  fields := fields
  distinct := by decide
  make := fun ((_, constructorString), privateString) => ⟨constructorString, privateString⟩
  row v := (((), v.constructorString), v.privateString)
  make_row _ := rfl
  row_make _ := rfl

instance : Buildable DerivedRecord := ⟨shape⟩

end DerivedRecord

/-- A field whose name is longer than a line. -/
structure LongNameRecord where
  stringWithLongName : String
  nullableString : Option String
deriving DecidableEq

namespace LongNameRecord

/-- The long name. -/
def longName : String :=
  "string_with_a_very_very_very_very_very_very_very_very_very_very_long_name_that_would_cause_" ++
    "line_wrapping"

@[reducible] def fields := Fields.nil
  |>.defaulted longName (fun _ => "myDefault")
  |>.nullable "nullable_string" String

@[reducible] def shape : RecordShape LongNameRecord where
  builder := "DataClassWithLongPropertyNamesBuilder"
  module := "databuilder_shapes::long_names"
  types := _
  fields := fields
  distinct := by decide
  make := fun ((_, stringWithLongName), nullableString) => ⟨stringWithLongName, nullableString⟩
  row v := (((), v.stringWithLongName), v.nullableString)
  make_row _ := rfl
  row_make _ := rfl

instance : Buildable LongNameRecord := ⟨shape⟩

end LongNameRecord

end StagedRecords
