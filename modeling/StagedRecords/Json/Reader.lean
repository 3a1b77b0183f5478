import StagedRecords.Json.Lexeme

/-!
# Reading JSON text

Values are read from the lexemes in one pass. What is still open is a stack of frames, each a
container that waits for a value, so the height of the stack is the depth of the nesting.
-/

namespace StagedRecords.Json

/-- A container that waits for the next of its values; what came before is kept newest first. -/
inductive Frame
  | element (before : List Json)
  | member (before : List (String × Json)) (key : String)

/-- What is read next. -/
inductive Awaiting
  | value
  /-- After the start of an array: a value or the end. -/
  | firstElement
  | afterElement (before : List Json)
  /-- After the start of an object: a key or the end. -/
  | firstKey
  | key (before : List (String × Json))
  | colon (before : List (String × Json)) (key : String)
  | afterMember (before : List (String × Json))

/-- The reader after a lexeme: either the whole value is there or more is awaited. -/
inductive Progress
  | done (j : Json)
  | more (next : Awaiting) (frames : List Frame)

/-- Hands a complete value to the innermost open container. -/
def complete (j : Json) : List Frame → Progress
  | [] => .done j
  | .element before :: frames => .more (.afterElement (j :: before)) frames
  | .member before key :: frames => .more (.afterMember ((key, j) :: before)) frames

/-- Starts a value; containers are nested at most `depth` deep. -/
def begin (depth : Nat) (frames : List Frame) : Lexeme → Option Progress
  | .plain j => some (complete j frames)
  | .text s => some (complete (.string s) frames)
  | .beginArray => if frames.length < depth then some (.more .firstElement frames) else none
  | .beginObject => if frames.length < depth then some (.more .firstKey frames) else none
  | _ => none

/-- Takes one lexeme; nothing if it may not stand there. -/
def advance (depth : Nat) (frames : List Frame) : Awaiting → Lexeme → Option Progress
  | .value, l => begin depth frames l
  | .firstElement, .endArray => some (complete (.array []) frames)
  | .firstElement, l => begin depth (.element [] :: frames) l
  | .afterElement before, .comma => some (.more .value (.element before :: frames))
  | .afterElement before, .endArray => some (complete (.array before.reverse) frames)
  | .firstKey, .endObject => some (complete (ofMembers []) frames)
  | .firstKey, .text k => some (.more (.colon [] k) frames)
  | .key before, .text k => some (.more (.colon before k) frames)
  | .colon before k, .colon => some (.more .value (.member before k :: frames))
  | .afterMember before, .comma => some (.more (.key before) frames)
  | .afterMember before, .endObject => some (complete (ofMembers before.reverse) frames)
  | _, _ => none

/-- Reads to the end of the value, and gives the lexemes after it. -/
def run (depth : Nat) : Awaiting → List Frame → List Lexeme → Option (Json × List Lexeme)
  | _, _, [] => none
  | a, frames, l :: ls =>
    match advance depth frames a l with
    | none => none
    | some (.done j) => some (j, ls)
    | some (.more a' frames') => run depth a' frames' ls

/-- The value at the front of the lexemes, and the lexemes after it. -/
def read (depth : Nat) (ls : List Lexeme) : Option (Json × List Lexeme) := run depth .value [] ls

/-- The value that the whole text stands for, with containers nested at most `depth` deep. -/
def parseWithin (depth : Nat) (text : String) : Option Json :=
  match read depth (Lexeme.all text.toList) with
  | some (j, []) => some j
  | _ => none

/-- How deep containers may be nested. -/
def maxDepth : Nat := 127

/-- The value that the whole text stands for. -/
def parse (text : String) : Option Json := parseWithin maxDepth text

end StagedRecords.Json
