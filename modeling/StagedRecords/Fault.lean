import StagedRecords.Date
import StagedRecords.Decimal.Notation
import StagedRecords.Json.Basic
import StagedRecords.Refusal
import StagedRecords.Text.Quoted
import StagedRecords.Uuid

/-!
# Decoding faults

A value does not decode for one of these causes; each has its wording. A fault that comes from the
builder of a nested record carries that builder's own refusal.
-/

namespace StagedRecords

/-- What a decoder was ready to take. -/
inductive Expected
  | string
  | integer
  | boolean
  | character
  | sequence
  | map
  | wrapper
  | date
  | uuid
deriving DecidableEq

/-- The wording of what was expected. -/
def Expected.text : Expected → String
  | .string => "a string"
  | .integer => "i64"
  | .boolean => "a boolean"
  | .character => "a character"
  | .sequence => "a sequence"
  | .map => "a map"
  | .wrapper => "struct TypedObject"
  | .date => "a formatted date string"
  | .uuid => "a formatted UUID string"

/-- How a message names the value that it met. -/
def Json.described : Json → String
  | .null => "null"
  | .bool b => "boolean `" ++ toString b ++ "`"
  | .int n => "integer `" ++ toString n ++ "`"
  | .float x => "floating point `" ++ String.ofList (Decimal.floatText x) ++ "`"
  | .string s => "string " ++ Text.quoted s
  | .array _ => "sequence"
  | .object _ => "map"

/-- Why a value does not decode. -/
inductive Fault
  /-- The value is of another kind. -/
  | kind (found : Json) (expected : Expected)
  /-- The integer does not fit a signed 64-bit word. -/
  | integerRange (n : Int)
  /-- The string is not one character. -/
  | characterCount (s : String)
  /-- The object lacks a member that must be there. -/
  | missingMember (name : String)
  /-- The array that stands for a wrapped value is empty. -/
  | emptyWrapper
  /-- The array that stands for a wrapped value has so many elements instead of one. -/
  | crowdedWrapper (found : Nat)
  | date (fault : DateFault)
  | uuid (fault : UuidFault)
  /-- The builder of a nested record refuses. -/
  | refused (refusal : Refusal)

namespace Fault

/-- The number at the end of a text that is given backwards, if it fits 64 bits, and the rest. -/
def lastNumber? (cs : List Char) : Option (Nat × List Char) :=
  let ds := cs.takeWhile Char.isDigit
  let n := Nat.ofDigitChars 10 ds.reverse 0
  if ds.isEmpty ∨ UInt64.size ≤ n then none else some (n, cs.dropWhile Char.isDigit)

/-- What is left of a text that is given backwards without `last` at its end. -/
def without? (last : String) (cs : List Char) : Option (List Char) :=
  let l := last.toList.reverse
  if l.isPrefixOf cs then some (cs.drop l.length) else none

/-- The line and column that a text ends with, and the text before them. -/
def position? (s : String) : Option (String × Nat × Nat) := do
  let (column, cs) ← lastNumber? s.toList.reverse
  let cs ← without? " column " cs
  let (line, cs) ← lastNumber? cs
  let cs ← without? " at line " cs
  some (String.ofList cs.reverse, line, column)

/-- The text of a message with the position it belongs to. -/
def placed (message : String) (line column : Nat) : String :=
  message ++ " at line " ++ toString line ++ " column " ++ toString column

/-- A message handed on as the text of a fault. Words at its end that read as a position are taken
for one: they are written anew, and left out when the line is zero. -/
def handedOn (message : String) : String :=
  match position? message with
  | none => message
  | some (text, line, column) => if line = 0 then text else placed text line column

/-- The wording of a fault. -/
def message : Fault → String
  | .kind found expected =>
    "invalid type: " ++ found.described ++ ", expected " ++ expected.text
  | .integerRange n => "invalid value: integer `" ++ toString n ++ "`, expected i64"
  | .characterCount s => "invalid value: string " ++ Text.quoted s ++ ", expected a character"
  | .missingMember name => "missing field `" ++ name ++ "`"
  | .emptyWrapper => "invalid length 0, expected struct TypedObject with 1 element"
  | .crowdedWrapper n =>
    "invalid length " ++ toString n ++ ", expected fewer elements in array"
  | .date f => f.message
  | .uuid f => "UUID parsing failed: " ++ f.message
  | .refused r => handedOn r.message

end Fault

end StagedRecords
