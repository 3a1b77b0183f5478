import StagedRecords.Json.Reader
import StagedRecords.Shape

/-!
# Records in JSON text

A record is read from a text in three steps: the object at the front of the text, the record built
from it, and the end of the text after it. Something after the object is therefore found only once
the record is built.
-/

namespace StagedRecords

/-- Why a text is no record. -/
inductive TextFault
  /-- The text is not JSON. -/
  | malformed
  /-- What the text holds is no record; a fault of the reader has the line and column where the
  value was met. -/
  | data (fault : Fault) (position : Option (Nat × Nat))

/-- The wording of a fault of the data. -/
def TextFault.message? : TextFault → Option String
  | .malformed => none
  | .data fault none => some fault.message
  | .data fault (some (line, column)) => some (Fault.placed fault.message line column)

namespace Document

open Json (Lexeme)

/-- The line, counted from one, and the number of bytes on it after these characters. -/
def position (cs : List Char) : Nat × Nat :=
  (cs.count '\n' + 1,
    (String.ofList (cs.reverse.takeWhile (· != '\n'))).utf8ByteSize)

/-- The position `rest` characters before the end of the text. -/
def before (cs : List Char) (rest : Nat) : Nat × Nat := position (cs.take (cs.length - rest))

/-- The members of the object at the front of the text, and the lexemes after it. An array is met
at its bracket, and any other value after its last character. -/
def front (cs : List Char) : Except TextFault (List (String × Json) × List Lexeme) :=
  match Lexeme.first? cs with
  | some (.beginObject, _) =>
    match Json.read Json.maxDepth (Lexeme.all cs) with
    | some (.object ms, ls) => .ok (ms, ls)
    | _ => .error .malformed
  | some (.beginArray, rest) =>
    .error (.data (.kind (.array []) .map) (before cs (rest.length + 1)))
  | some (.plain j, rest) => .error (.data (.kind j .map) (before cs rest.length))
  | some (.text s, rest) => .error (.data (.kind (.string s) .map) (before cs rest.length))
  | _ => .error .malformed

end Document

/-- Reads a record from a text. -/
def RecordShape.ofText {V : Type} (s : RecordShape V) (fresh : Nat → Uuid) (text : String) :
    Traced TextFault V :=
  match Document.front text.toList with
  | .error f => .fail f
  | .ok (ms, ls) =>
    ((s.toShape.ofMembers fresh ms).mapError fun r => .data (.refused r) none).bind fun v =>
      if ls.isEmpty then .pure v else .fail .malformed

end StagedRecords
