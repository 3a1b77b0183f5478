import StagedRecords.Text.Blank
import StagedRecords.Text.Hexadecimal

/-!
# Atoms of patterns

The smallest parts of a pattern, and which of them may be used. No tables of character properties
stand behind the patterns, so whatever would need one is refused: letters regardless of case, and
classes and word boundaries of all of Unicode. A pattern that is not about Unicode must not match
half of a character either.
-/

namespace StagedRecords.Pattern

/-- The flags in force that decide what is refused. -/
structure Mode where
  /-- The case of letters does not count. -/
  caseless : Bool
  /-- Characters are those of Unicode, not those of ASCII. -/
  unicode : Bool
  /-- White space and comments do not count. -/
  spaced : Bool
deriving DecidableEq

/-- The flags at the start of a pattern. -/
def Mode.standard : Mode := ⟨false, true, false⟩

/-- The text after white space and comments. A comment starts with a hash and ends with the line. -/
def dropSpace : Bool → List Char → List Char
  | _, [] => []
  | true, c :: cs => dropSpace (c != '\n') cs
  | false, c :: cs =>
    if Text.isBlank c then dropSpace false cs
    else if c = '#' then dropSpace true cs
    else c :: cs

/-- The text after what does not count. -/
def Mode.skip (m : Mode) (cs : List Char) : List Char := if m.spaced then dropSpace false cs else cs

/-- The smallest parts of a pattern. -/
inductive Atom
  /-- One character. -/
  | char (c : Char)
  /-- One character, written as two hexadecimal digits. -/
  | byte (c : Char)
  /-- A digit, a blank or a letter of a word, or any other character. -/
  | kind (negated : Bool)
  /-- Any character. -/
  | any
  /-- The start or the end of the text or of a line. -/
  | edge
  /-- Where a word starts or ends, or does not. -/
  | boundary
deriving DecidableEq

namespace Atom

/-- The character that the atom stands for, if it stands for one. -/
def char? : Atom → Option Char
  | .char c => some c
  | .byte c => some c
  | _ => none

/-- Whether the atom may be used between other items. -/
def isAllowed (m : Mode) : Atom → Bool
  | .char _ => !(m.caseless && m.unicode)
  | .byte c => if m.unicode then !m.caseless else c.toNat < 0x80
  | .kind negated => !m.unicode && !negated
  | .any => m.unicode
  | .edge => true
  | .boundary => !m.unicode

/-- Whether the atom may be a member of a set. -/
def isMember (m : Mode) : Atom → Bool
  | .char c => if m.unicode then !m.caseless else c.toNat < 0x80
  | .byte c => if m.unicode then !m.caseless else c.toNat < 0x80
  | .kind negated => !m.unicode && !negated
  | _ => false

end Atom

/-- Takes so many hexadecimal digits and gives their value and what follows, `value` being that of
the digits before. -/
def digits? (m : Mode) (value : Nat) : Nat → List Char → Option (Nat × List Char)
  | 0, cs => some (value, cs)
  | count + 1, cs =>
    match m.skip cs with
    | [] => none
    | c :: cs => (Text.hexValue? c).bind fun d => digits? m (16 * value + d) count cs

/-- Takes a character that is written as so many hexadecimal digits. -/
def code? (m : Mode) (count : Nat) (cs : List Char) : Option (Char × List Char) :=
  (digits? m 0 count cs).bind fun (n, rest) =>
    if n.isValidChar then some (Char.ofNat n, rest) else none

/-- What a letter after a backslash stands for. -/
def named? : Char → Option Atom
  | 'a' => some (.char '\x07')
  | 'f' => some (.char '\x0c')
  | 'n' => some (.char '\n')
  | 'r' => some (.char '\r')
  | 't' => some (.char '\t')
  | 'v' => some (.char '\x0b')
  | 'd' | 's' | 'w' => some (.kind false)
  | 'D' | 'S' | 'W' => some (.kind true)
  | 'A' | 'z' => some .edge
  | 'b' | 'B' | '<' | '>' => some .boundary
  | _ => none

/-- Takes what follows a backslash. A character of ASCII that is neither a letter nor a digit
stands for itself. -/
def escape? (m : Mode) : List Char → Option (Atom × List Char)
  | [] => none
  | c :: cs =>
    if c = 'x' then (code? m 2 cs).map fun (c, rest) => (.byte c, rest)
    else if c = 'u' then (code? m 4 cs).map fun (c, rest) => (.char c, rest)
    else if c = 'U' then (code? m 8 cs).map fun (c, rest) => (.char c, rest)
    else match named? c with
      | some a => some (a, cs)
      | none => if c.toNat < 0x80 && !c.isAlphanum then some (.char c, cs) else none

end StagedRecords.Pattern
