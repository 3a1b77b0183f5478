import StagedRecords.Text.Hexadecimal

/-!
# UUIDs

A UUID is a number of 128 bits. Its text is five groups of hexadecimal digits; reading also takes
the digits without hyphens, the groups in braces and the groups after `urn:uuid:`.
-/

namespace StagedRecords

/-- A universally unique identifier. -/
structure Uuid where
  value : BitVec 128
deriving DecidableEq

/-- Why a text is no UUID. -/
inductive UuidFault
  /-- The text has so many bytes, which no form has. -/
  | length (found : Nat)
  /-- A character that is neither a digit nor a hyphen, at so many bytes from the start. -/
  | character (c : Char) (position : Nat)
  /-- There are so many groups instead of five. -/
  | groups (found : Nat)
  /-- A group has the wrong number of digits. -/
  | group (index expected found : Nat)
deriving DecidableEq

/-- The wording of the fault. -/
def UuidFault.message : UuidFault → String
  | .length n => "invalid length: found " ++ toString n
  | .character c i => "invalid character: found `" ++ c.toString ++ "` at " ++ toString i
  | .groups n => "invalid group count: expected 5, found " ++ toString n
  | .group i e n =>
    "invalid group length in group " ++ toString i ++ ": expected " ++ toString e ++ ", found " ++
      toString n

namespace Uuid

/-- The `i`-th of the 32 digits, the highest first. -/
def digit (u : Uuid) (i : Nat) : Nat := (u.value >>> (4 * (31 - i))).toNat % 16

/-- `count` digits from the `start`-th on. -/
def group (u : Uuid) (start count : Nat) : List Char :=
  (List.range' start count).map fun i => Text.hexDigit (u.digit i)

/-- The five groups with hyphens between them. -/
def chars (u : Uuid) : List Char :=
  u.group 0 8 ++ '-' :: (u.group 8 4 ++ '-' :: (u.group 12 4 ++ '-' :: (u.group 16 4 ++ '-' ::
    u.group 20 12)))

/-- The text of a UUID. -/
def text (u : Uuid) : String := String.ofList u.chars

/-- The version, which is the thirteenth digit. -/
def version (u : Uuid) : Nat := u.digit 12

/-- A UUID of version 7: 48 bits of time, then random bits around the version and the variant. -/
def ofTime (millis randomA randomB : Nat) : Uuid :=
  ⟨BitVec.ofNat 48 millis ++ (7#4 ++ (BitVec.ofNat 12 randomA ++ (2#2 ++ BitVec.ofNat 62 randomB)))⟩

/-- The number with these digits; nothing if one of them is none. -/
def number? (cs : List Char) : Option Nat :=
  cs.foldlM (fun n c => (Text.hexValue? c).map (16 * n + ·)) 0

/-- The groups between the hyphens. -/
def groups : List Char → List (List Char)
  | [] => [[]]
  | c :: cs =>
    if c = '-' then [] :: groups cs
    else match groups cs with
      | g :: gs => (c :: g) :: gs
      | [] => [[c]]

/-- The lengths of the groups. -/
def groupLengths : List Nat := [8, 4, 4, 4, 12]

/-- The number of bytes of the text. -/
def bytes (cs : List Char) : Nat := (String.ofList cs).utf8ByteSize

/-- What stands after `urn:uuid:`, in letters of either case. -/
def urn? (cs : List Char) : Option (List Char) :=
  if (cs.take 9).map Char.toLower = "urn:uuid:".toList then some (cs.drop 9) else none

/-- What stands between braces. -/
def braced? : List Char → Option (List Char)
  | '\x7b' :: cs => if cs.getLast? = some '\x7d' then some cs.dropLast else none
  | _ => none

/-- The part of a text that holds the digits. -/
structure Body where
  chars : List Char
  /-- The bytes in front of it that count for positions. -/
  offset : Nat
  /-- The bytes that count for the length of the last group. -/
  total : Nat
  /-- Whether digits without hyphens would do. -/
  plain : Bool

/-- The body of a text. A body of 36 bytes counts by itself. -/
def body (cs : List Char) : Body :=
  let within (inner : List Char) (offset : Nat) : Body :=
    if bytes inner = 36 then ⟨inner, 0, 36, false⟩ else ⟨inner, offset, bytes cs, false⟩
  if bytes cs = 36 then ⟨cs, 0, 36, false⟩
  else match braced? cs with
    | some inner => within inner 1
    | none =>
      match urn? cs with
      | some inner => within inner 9
      | none => ⟨cs, 0, bytes cs, true⟩

/-- The first group that has the wrong length, with the lengths it should and does have. The last
group is measured from the end of the text. -/
def misfit (total : Nat) (found : List Nat) : Nat × Nat × Nat :=
  match (found.zip groupLengths).take 4 |>.findIdx? fun (n, e) => n != e with
  | some i => (i, groupLengths.getD i 0, found.getD i 0)
  | none => (4, 12, total - 24)

/-- Why the body is refused. -/
def Body.fault (b : Body) : UuidFault :=
  let refused (c : Char) : Bool := (Text.hexValue? c).isNone && c != '-'
  match b.chars.find? refused with
  | some c => .character c (b.chars.findIdx refused + b.offset)
  | none =>
    let gs := groups b.chars
    if gs.length = 1 ∧ b.plain then .length b.total
    else if gs.length ≠ 5 then .groups gs.length
    else
      let (i, e, n) := misfit b.total (gs.map List.length)
      .group i e n

/-- Reads a UUID. -/
def read (cs : List Char) : Except UuidFault Uuid :=
  if cs.isEmpty ∨ 45 < bytes cs then .error (.length (bytes cs))
  else
    let b := body cs
    let gs := groups b.chars
    let fits := gs.map List.length = groupLengths ∨ (b.plain ∧ gs.map List.length = [32])
    match number? gs.flatten with
    | some n => if fits then .ok ⟨BitVec.ofNat 128 n⟩ else .error b.fault
    | none => .error b.fault

/-- The UUID that a text stands for. -/
def ofText (s : String) : Except UuidFault Uuid := read s.toList

end Uuid

end StagedRecords
