import StagedRecords.Codec.Containers
import StagedRecords.Shape

/-!
# Records of collections

Lists, arrays, sets, maps and wrapped values, with and without elements that may be null. A strict
field refuses a null element as such; elsewhere it is an element that does not decode.
-/

namespace StagedRecords

/-- Lists, sets and maps. -/
structure CollectionRecord where
  listOfStrings : List String
  listOfNullableStrings : List (Option String)
  setOfLongs : LooseSet Int64
  setOfNullableLongs : LooseSet (Option Int64)
  hashSet : LooseSet Int64
  collectionOfDates : List Date
  mapOfStringToNullableDates : LooseMap (Option Date)
  treeMap : Dict Date
  nullableSetOfLongs : Option (OrderedSet Int64)
deriving DecidableEq

namespace CollectionRecord

@[reducible] def fields := Fields.nil
  |>.strict "list_of_strings" (List String)
  |>.required "list_of_nullable_strings" (List (Option String))
  |>.strict "set_of_longs" (LooseSet Int64)
  |>.required "set_of_nullable_longs" (LooseSet (Option Int64))
  |>.required "hash_set" (LooseSet Int64)
  |>.strict "collection_of_dates" (List Date)
  |>.required "map_of_string_to_nullable_dates" (LooseMap (Option Date))
  |>.strict "tree_map" (Dict Date)
  |>.nullable "nullable_set_of_longs" (OrderedSet Int64)

@[reducible] def shape : RecordShape CollectionRecord where
  builder := "CollectionsDataClassBuilder"
  module := "databuilder_shapes::collections"
  types := _
  fields := fields
  distinct := by decide
  make := fun (((((((((_, listOfStrings), listOfNullableStrings), setOfLongs),
      setOfNullableLongs), hashSet), collectionOfDates), mapOfStringToNullableDates), treeMap),
      nullableSetOfLongs) =>
    ⟨listOfStrings, listOfNullableStrings, setOfLongs, setOfNullableLongs, hashSet,
      collectionOfDates, mapOfStringToNullableDates, treeMap, nullableSetOfLongs⟩
  row v := ((((((((((), v.listOfStrings), v.listOfNullableStrings), v.setOfLongs),
    v.setOfNullableLongs), v.hashSet), v.collectionOfDates), v.mapOfStringToNullableDates),
    v.treeMap), v.nullableSetOfLongs)
  make_row _ := rfl
  row_make _ := rfl

instance : Buildable CollectionRecord := ⟨shape⟩

end CollectionRecord

/-- Arrays, one of them of lists. -/
structure ArrayRecord where
  arrayOfLongs : Array Int64
  arrayOfStrings : Array String
  arrayOfNullableStrings : Option (Array (Option String))
  arrayOfListOfStrings : Array (List String)
  arrayOfDates : Array Date
deriving DecidableEq

namespace ArrayRecord

@[reducible] def fields := Fields.nil
  |>.required "array_of_longs" (Array Int64)
  |>.required "array_of_strings" (Array String)
  |>.nullable "array_of_nullable_strings" (Array (Option String))
  |>.required "array_of_list_of_strings" (Array (List String))
  |>.required "array_of_dates" (Array Date)

@[reducible] def shape : RecordShape ArrayRecord where
  builder := "ArraysDataClassBuilder"
  module := "databuilder_shapes::arrays"
  types := _
  fields := fields
  distinct := by decide
  make := fun (((((_, arrayOfLongs), arrayOfStrings), arrayOfNullableStrings),
      arrayOfListOfStrings), arrayOfDates) =>
    ⟨arrayOfLongs, arrayOfStrings, arrayOfNullableStrings, arrayOfListOfStrings, arrayOfDates⟩
  row v := ((((((), v.arrayOfLongs), v.arrayOfStrings), v.arrayOfNullableStrings),
    v.arrayOfListOfStrings), v.arrayOfDates)
  make_row _ := rfl
  row_make _ := rfl

instance : Buildable ArrayRecord := ⟨shape⟩

end ArrayRecord

/-- Values in objects of their own. -/
structure WrapperRecord where
  myTypedObject : Wrapped String
  myOptionalTypedObject : Option (Wrapped Int64)
deriving DecidableEq

namespace WrapperRecord

@[reducible] def fields := Fields.nil
  |>.required "my_typed_object" (Wrapped String)
  |>.nullable "my_optional_typed_object" (Wrapped Int64)

@[reducible] def shape : RecordShape WrapperRecord where
  builder := "GenericTypeDataClassBuilder"
  module := "databuilder_shapes::generic"
  types := _
  fields := fields
  distinct := by decide
  make := fun ((_, myTypedObject), myOptionalTypedObject) => ⟨myTypedObject, myOptionalTypedObject⟩
  row v := (((), v.myTypedObject), v.myOptionalTypedObject)
  make_row _ := rfl
  row_make _ := rfl

instance : Buildable WrapperRecord := ⟨shape⟩

end WrapperRecord

end StagedRecords
