import StagedRecords.Codec.Containers
import StagedRecords.Shape

/-!
# Constructed values

Values that a constructor makes of its arguments and that do not keep all of them. A draft gets
back only the arguments that the value keeps.
-/

namespace StagedRecords

/-- A person's full name, and another name if there is one. -/
structure PersonName where
  fullName : String
  otherName : Option String
deriving DecidableEq

namespace PersonName

/-- The surname of a person who gives none. -/
def anonymousSurname : String := "Anon"

/-- Only the full name is kept of a forename and a surname. -/
def construct (forename surname : String) (otherName : Option String) : PersonName :=
  ⟨forename ++ " " ++ surname, otherName⟩

@[reducible] def fields := Fields.nil
  |>.required "forename" String
  |>.defaulted "surname" (fun _ => anonymousSurname)
  |>.nullable "other_name" String

@[reducible] def shape : Shape PersonName where
  builder := "ClassWithConstructorParametersBuilder"
  module := "databuilder_shapes::constructor"
  types := _
  fields := fields
  distinct := by decide
  make := fun (((_, forename), surname), otherName) => construct forename surname otherName
  refill v := ((((), none), none), some v.otherName)

end PersonName

/-- A greeting and the mark at its end. -/
structure Greeting where
  text : String
  punctuation : Char
deriving DecidableEq

namespace Greeting

/-- Greets the name. -/
def construct (name : String) (punctuation : Char) : Greeting :=
  ⟨"Hello, " ++ name ++ punctuation.toString, punctuation⟩

@[reducible] def fields := Fields.nil
  |>.required "name" String
  |>.defaulted "punctuation" (fun _ => '!')

@[reducible] def shape : Shape Greeting where
  builder := "GreetingBuilder"
  module := "samples"
  types := _
  fields := fields
  distinct := by decide
  make := fun ((_, name), punctuation) => construct name punctuation
  refill v := (((), none), some v.punctuation)

end Greeting

end StagedRecords
