import StagedRecords.Ordered

/-!
# JSON values

Objects are lists of members. A value that was read has the members of each object in strictly
increasing key order; `Json.ofMembers` is what brings members into that form.
-/

namespace StagedRecords

/-- A JSON value. Whole numbers are kept apart from floating point numbers. -/
inductive Json
  | null
  | bool (b : Bool)
  | int (n : Int)
  | float (x : Float)
  | string (s : String)
  | array (elements : List Json)
  | object (members : List (String × Json))
deriving Inhabited

namespace Json

/-- The object with these members; of two with the same key the later one counts. -/
def ofMembers (members : List (String × Json)) : Json :=
  .object (Sorted.ofList members : Dict Json).toList

/-- Whether this is `null`. -/
def isNull : Json → Bool
  | .null => true
  | _ => false

@[simp] theorem isNull_iff {j : Json} : j.isNull = true ↔ j = .null := by
  cases j <;> simp [isNull]

mutual

/-- The same value with the members of every object, at any depth, in key order. -/
def normal : Json → Json
  | .array js => .array (normalElements js)
  | .object ms => ofMembers (normalMembers ms)
  | j => j

/-- `normal` of every element. -/
def normalElements : List Json → List Json
  | [] => []
  | j :: js => j.normal :: normalElements js

/-- `normal` of the value of every member. -/
def normalMembers : List (String × Json) → List (String × Json)
  | [] => []
  | (k, j) :: ms => (k, j.normal) :: normalMembers ms

end

end Json

/-- A JSON object: its members in increasing key order. -/
abbrev Object := Dict Json

end StagedRecords
