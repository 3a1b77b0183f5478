import StagedRecords.Json.Basic

/-!
# Nulls inside a collection

`hasNullElement` looks at the elements of an array, or at the values of an object, and goes on
through nested arrays only: an object below the root is a record with a null policy of its own.
-/

namespace StagedRecords.Json

mutual

/-- Whether the value is null or an array with a null at some depth of nested arrays. -/
def isOrHoldsNull : Json → Bool
  | .null => true
  | .array js => anyIsOrHoldsNull js
  | _ => false

/-- `isOrHoldsNull` of some element. -/
def anyIsOrHoldsNull : List Json → Bool
  | [] => false
  | j :: js => j.isOrHoldsNull || anyIsOrHoldsNull js

end

/-- Whether an element of the array, or a value of the object, is or holds a null. -/
def hasNullElement : Json → Bool
  | .array js => anyIsOrHoldsNull js
  | .object ms => anyIsOrHoldsNull (ms.map Prod.snd)
  | _ => false

theorem anyIsOrHoldsNull_eq_any (js : List Json) :
    anyIsOrHoldsNull js = js.any isOrHoldsNull := by
  induction js with
  | nil => rfl
  | cons j js ih => simp [anyIsOrHoldsNull, ih]

end StagedRecords.Json
