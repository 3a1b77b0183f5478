/-!
# Refusals

A builder refuses a value or a build for one of five causes. The wording of each is fixed here and
always holds the name of the field.
-/

namespace StagedRecords

/-- Why a builder refuses. -/
inductive Cause
  /-- The field takes no null and was given one. -/
  | nullValue
  /-- The field must be set and never was. -/
  | missing
  /-- The collection holds a null where it may not. -/
  | nullElement
  /-- The value does not decode as the field's type. -/
  | invalid (reason : String)
  /-- There is no field of that name. -/
  | unknownField
deriving DecidableEq

/-- A cause, with the builder that refuses and the field concerned. -/
structure Refusal where
  builder : String
  field : String
  cause : Cause
deriving DecidableEq

/-- The wording of a refusal. -/
def Refusal.message (r : Refusal) : String :=
  let place := r.builder ++ "." ++ r.field ++ ": "
  match r.cause with
  | .nullValue => place ++ r.field ++ " must not be null"
  | .missing => place ++ r.field ++ " must not be null (required field was never set)"
  | .nullElement => place ++ r.field ++ " must not contain null elements"
  | .invalid reason => place ++ "invalid value for " ++ r.field ++ ": " ++ reason
  | .unknownField => r.builder ++ ": unknown field " ++ r.field

end StagedRecords
