import StagedRecords.Codec.Containers
import StagedRecords.Shape

/-!
# Sample records

Small records that show each nullability class, defaults computed from earlier fields and a record
inside another.
-/

namespace StagedRecords

/-- An account with a label made from its owner and currency. -/
structure Account where
  owner : String
  nickname : Option String
  currency : String
  label : String
  tags : List String
deriving DecidableEq

namespace Account

@[reducible] def fields := Fields.nil
  |>.required "owner" String
  |>.nullable "nickname" String
  |>.defaulted "currency" (fun _ => "EUR")
  |>.defaulted "label" (fun (((_, owner), _), currency) => owner ++ " (" ++ currency ++ ")")
  |>.strict "tags" (List String)

@[reducible] def shape : RecordShape Account where
  builder := "AccountBuilder"
  module := "samples"
  types := _
  fields := fields
  distinct := by decide
  make := fun (((((_, owner), nickname), currency), label), tags) =>
    ⟨owner, nickname, currency, label, tags⟩
  row v := ((((((), v.owner), v.nickname), v.currency), v.label), v.tags)
  make_row _ := rfl
  row_make _ := rfl

instance : Buildable Account := ⟨shape⟩

end Account

/-- A point whose second coordinate is twice the first unless it is given. -/
structure Point where
  x : Int64
  y : Int64
  label : Option String
deriving DecidableEq

namespace Point

@[reducible] def fields := Fields.nil
  |>.required "x" Int64
  |>.defaulted "y" (fun (_, x) => x * 2)
  |>.nullable "label" String

@[reducible] def shape : RecordShape Point where
  builder := "PointBuilder"
  module := "samples"
  types := _
  fields := fields
  distinct := by decide
  make := fun (((_, x), y), label) => ⟨x, y, label⟩
  row v := ((((), v.x), v.y), v.label)
  make_row _ := rfl
  row_make _ := rfl

instance : Buildable Point := ⟨shape⟩

instance : Codec Point := shape.codec

end Point

/-- Points and other nested collections, with a count and a caption. -/
structure Shelf where
  points : List Point
  count : Int64
  grid : List (List String)
  byKey : Dict (List Int64)
  records : List (Dict (Option String))
  best : Option Point
  title : String
  caption : String
deriving DecidableEq

namespace Shelf

@[reducible] def fields := Fields.nil
  |>.strict "points" (List Point)
  |>.defaulted "count" (fun (_, points) => Int64.ofNat points.length)
  |>.strict "grid" (List (List String))
  |>.strict "by_key" (Dict (List Int64))
  |>.strict "records" (List (Dict (Option String)))
  |>.nullable "best" Point
  |>.required "title" String
  |>.defaulted "caption" (fun (((((((_, _), count), _), _), _), _), title) =>
      title ++ ": " ++ toString count)

@[reducible] def shape : RecordShape Shelf where
  builder := "ShelfBuilder"
  module := "samples"
  types := _
  fields := fields
  distinct := by decide
  make := fun ((((((((_, points), count), grid), byKey), records), best), title), caption) =>
    ⟨points, count, grid, byKey, records, best, title, caption⟩
  row v := (((((((((), v.points), v.count), v.grid), v.byKey), v.records), v.best), v.title),
    v.caption)
  make_row _ := rfl
  row_make _ := rfl

instance : Buildable Shelf := ⟨shape⟩

end Shelf

/-- A record in which every field may be null. -/
structure AllNullable where
  flag : Option Bool
  initial : Option Char
  words : Option (List (Option String))
deriving DecidableEq

namespace AllNullable

@[reducible] def fields := Fields.nil
  |>.nullable "flag" Bool
  |>.nullable "initial" Char
  |>.nullable "words" (List (Option String))

@[reducible] def shape : RecordShape AllNullable where
  builder := "AllNullableBuilder"
  module := "samples"
  types := _
  fields := fields
  distinct := by decide
  make := fun (((_, flag), initial), words) => ⟨flag, initial, words⟩
  row v := ((((), v.flag), v.initial), v.words)
  make_row _ := rfl
  row_make _ := rfl

instance : Buildable AllNullable := ⟨shape⟩

end AllNullable

end StagedRecords
