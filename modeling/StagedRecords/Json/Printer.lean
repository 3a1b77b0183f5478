import StagedRecords.Json.Basic
import StagedRecords.Decimal.Notation
import StagedRecords.Text.Hexadecimal

/-!
# JSON text of a value

The text is compact and keeps the order of the members. In a string only the quote, the backslash
and the control characters below the space are escaped.
-/

namespace StagedRecords.Json

/-- A character inside a string literal. -/
def escaped (c : Char) : List Char :=
  match c with
  | '"' => ['\\', '"']
  | '\\' => ['\\', '\\']
  | '\x08' => ['\\', 'b']
  | '\x0c' => ['\\', 'f']
  | '\n' => ['\\', 'n']
  | '\r' => ['\\', 'r']
  | '\t' => ['\\', 't']
  | c =>
    if c.toNat < 0x20 then
      ['\\', 'u', '0', '0', Text.hexDigit (c.toNat / 16), Text.hexDigit (c.toNat % 16)]
    else [c]

/-- A string literal. -/
def quote (s : String) : List Char := '"' :: s.toList.flatMap escaped ++ ['"']

/-- A whole number. -/
def wholeText : Int → List Char
  | .ofNat n => Decimal.digits n
  | .negSucc n => '-' :: Decimal.digits (n + 1)

mutual

/-- The characters of the text. -/
def chars : Json → List Char
  | .null => "null".toList
  | .bool true => "true".toList
  | .bool false => "false".toList
  | .int n => wholeText n
  | .float x => Decimal.floatText x
  | .string s => quote s
  | .array [] => ['[', ']']
  | .array (j :: js) => '[' :: (j.chars ++ moreElements js)
  | .object [] => ['\x7b', '\x7d']
  | .object ((k, j) :: ms) => '\x7b' :: (quote k ++ ':' :: (j.chars ++ moreMembers ms))

/-- The elements after the first, and the end of the array. -/
def moreElements : List Json → List Char
  | [] => [']']
  | j :: js => ',' :: (j.chars ++ moreElements js)

/-- The members after the first, and the end of the object. -/
def moreMembers : List (String × Json) → List Char
  | [] => ['\x7d']
  | (k, j) :: ms => ',' :: (quote k ++ ':' :: (j.chars ++ moreMembers ms))

end

/-- The text of a value. -/
def text (j : Json) : String := String.ofList j.chars

end StagedRecords.Json
