import StagedRecords.Codec.Containers
import StagedRecords.Shape

/-!
# Records with defaults

Defaults that are literals, identifiers, made from other fields, made by functions, or drawn anew
at each build.
-/

namespace StagedRecords

/-- Literals with characters that are special elsewhere. -/
structure LiteralDefaults where
  foo : List Char
  bar : String
  baz : String
deriving DecidableEq

namespace LiteralDefaults

@[reducible] def fields := Fields.nil
  |>.defaulted "foo" (fun _ => [',', ')', '\x7d', '"'])
  |>.defaulted "bar" (fun _ => "com.foo.Bar.baz(\"\", '\x7d')")
  |>.defaulted "baz" (fun _ => "A string containing // comment characters")

@[reducible] def shape : RecordShape LiteralDefaults where
  builder := "WithDefaultValuesBuilder"
  module := "databuilder_shapes::defaults"
  types := _
  fields := fields
  distinct := by decide
  make := fun (((_, foo), bar), baz) => ⟨foo, bar, baz⟩
  row v := ((((), v.foo), v.bar), v.baz)
  make_row _ := rfl
  row_make _ := rfl

instance : Buildable LiteralDefaults := ⟨shape⟩

end LiteralDefaults

/-- An identifier and its text. -/
structure IdentifierDefaults where
  id : Uuid
  idText : String
deriving DecidableEq

namespace IdentifierDefaults

/-- The identifier that is always the default. -/
def fixedId : Uuid := ⟨0x90055b91612d4f36a237f352acaf72a7⟩

@[reducible] def fields := Fields.nil
  |>.defaulted "id" (fun _ => fixedId)
  |>.defaulted "id_text" (fun _ => fixedId.text)

@[reducible] def shape : RecordShape IdentifierDefaults where
  builder := "WithDefaultIdentifiersBuilder"
  module := "databuilder_shapes::defaults"
  types := _
  fields := fields
  distinct := by decide
  make := fun ((_, id), idText) => ⟨id, idText⟩
  row v := (((), v.id), v.idText)
  make_row _ := rfl
  row_make _ := rfl

instance : Buildable IdentifierDefaults := ⟨shape⟩

end IdentifierDefaults

/-- Two strings that begin differently and end with a third. -/
structure ChainedDefaults where
  foo : String
  bar : String
  baz : String
deriving DecidableEq

namespace ChainedDefaults

@[reducible] def fields := Fields.nil
  |>.required "foo" String
  |>.defaulted "bar" (fun (_, foo) => "bar " ++ foo)
  |>.defaulted "baz" (fun ((_, foo), _) => "baz " ++ foo)

@[reducible] def shape : RecordShape ChainedDefaults where
  builder := "WithDefaultValuesReferringToOtherPropertiesBuilder"
  module := "databuilder_shapes::defaults"
  types := _
  fields := fields
  distinct := by decide
  make := fun (((_, foo), bar), baz) => ⟨foo, bar, baz⟩
  row v := ((((), v.foo), v.bar), v.baz)
  make_row _ := rfl
  row_make _ := rfl

instance : Buildable ChainedDefaults := ⟨shape⟩

end ChainedDefaults

/-- Strings that functions make from each other. -/
structure FunctionDefaults where
  foo : String
  bar : String
  foo2 : String
  baz : String
  baz2 : String
deriving DecidableEq

namespace FunctionDefaults

/-- The default of `foo`. -/
def defaultFoo : String := "This is a default foo"

/-- The default of `bar`. -/
def defaultBar : String := "A default bar"

/-- The text that `f` gives when it is asked. -/
def given (f : Unit → String) : String := f ()

/-- The default of `baz` after `a` and `b`. -/
def defaultBaz (a b : String) : String := "A default baz " ++ a ++ " " ++ b

/-- The text that `f` makes of the first two letters. -/
def ofLetters (f : String → String → String) : String := f "a" "b"

@[reducible] def fields := Fields.nil
  |>.defaulted "foo" (fun _ => defaultFoo)
  |>.defaulted "bar" (fun _ => defaultBar)
  |>.defaulted "foo2" (fun ((_, foo), bar) => given fun _ => foo ++ ", " ++ bar)
  |>.defaulted "baz" (fun (((_, foo), bar), _) => defaultBaz foo bar)
  |>.defaulted "baz2" (fun _ => ofLetters fun _ _ => "defaultBaz2")

@[reducible] def shape : RecordShape FunctionDefaults where
  builder := "WithDefaultValuesUsingFunctionsBuilder"
  module := "databuilder_shapes::defaults"
  types := _
  fields := fields
  distinct := by decide
  make := fun (((((_, foo), bar), foo2), baz), baz2) => ⟨foo, bar, foo2, baz, baz2⟩
  row v := ((((((), v.foo), v.bar), v.foo2), v.baz), v.baz2)
  make_row _ := rfl
  row_make _ := rfl

instance : Buildable FunctionDefaults := ⟨shape⟩

end FunctionDefaults

/-- Identifiers that every build draws anew for the slots that are empty. -/
structure DrawnDefaults where
  foo : String
  bar : Uuid
deriving DecidableEq

namespace DrawnDefaults

@[reducible] def fields := Fields.nil
  |>.drawn "foo" Uuid.text
  |>.drawn "bar" (fun fresh => fresh)

@[reducible] def shape : RecordShape DrawnDefaults where
  builder := "WithDefaultRandomValuesBuilder"
  module := "databuilder_shapes::defaults"
  types := _
  fields := fields
  distinct := by decide
  make := fun ((_, foo), bar) => ⟨foo, bar⟩
  row v := (((), v.foo), v.bar)
  make_row _ := rfl
  row_make _ := rfl

instance : Buildable DrawnDefaults := ⟨shape⟩

end DrawnDefaults

end StagedRecords
