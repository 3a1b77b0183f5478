import StagedRecords.Text.Blank

/-!
# Dates

Days of the proleptic Gregorian calendar with a year from -262143 to 262142, their text and the
reading of it.
-/

namespace StagedRecords

namespace Date

/-- Whether the year has a 29th of February. -/
def isLeap (year : Int) : Bool := year % 4 = 0 && (year % 100 != 0 || year % 400 = 0)

/-- The number of days of the month. -/
def daysIn (year : Int) (month : Nat) : Nat :=
  if month = 2 then if isLeap year then 29 else 28
  else if month = 4 ∨ month = 6 ∨ month = 9 ∨ month = 11 then 30
  else 31

/-- Whether there is such a day. -/
def Valid (year : Int) (month day : Nat) : Prop :=
  (-262143 ≤ year ∧ year ≤ 262142) ∧ (1 ≤ month ∧ month ≤ 12) ∧
    (1 ≤ day ∧ day ≤ daysIn year month)

instance (year : Int) (month day : Nat) : Decidable (Valid year month day) :=
  inferInstanceAs (Decidable (_ ∧ _))

end Date

/-- A day. -/
structure Date where
  year : Int
  month : Nat
  day : Nat
  valid : Date.Valid year month day
deriving DecidableEq

/-- Why a text is no date. -/
inductive DateFault
  /-- The text ends too early. -/
  | short
  /-- A character stands where it may not. -/
  | malformed
  /-- A number is too large or there is no such day. -/
  | range
  /-- The text goes on after the day. -/
  | trailing
deriving DecidableEq

/-- The wording of the fault. -/
def DateFault.message : DateFault → String
  | .short => "premature end of input"
  | .malformed => "input contains invalid characters"
  | .range => "input is out of range"
  | .trailing => "trailing input"

namespace Date

/-- Days are in the order of time. -/
instance : Ord Date where
  compare := compareLex (compareOn Date.year)
    (compareLex (compareOn Date.month) (compareOn Date.day))

instance : Std.TransOrd Date :=
  inferInstanceAs (Std.TransCmp (compareLex (compareOn Date.year)
    (compareLex (compareOn Date.month) (compareOn Date.day))))

/-- The earliest day. -/
def first : Date := ⟨-262143, 1, 1, by decide⟩

/-- The digits of `n`, filled up to `width` with zeros. -/
def padded (width n : Nat) : List Char :=
  let ds := Nat.toDigits 10 n
  List.replicate (width - ds.length) '0' ++ ds

/-- The text of a year: a sign only outside the years 0 to 9999, and at least four digits. -/
def yearText (year : Int) : List Char :=
  if year < 0 then '-' :: padded 4 year.natAbs
  else if 9999 < year then '+' :: padded 4 year.natAbs
  else padded 4 year.natAbs

/-- Year, month and day with hyphens between them. -/
def chars (d : Date) : List Char :=
  yearText d.year ++ '-' :: (padded 2 d.month ++ '-' :: padded 2 d.day)

/-- The text of a date. -/
def text (d : Date) : String := String.ofList d.chars

/-- Takes the run of digits at the front of `cs`, of which at least one must be there. -/
def number (cs : List Char) : Except DateFault (Nat × List Char) :=
  match cs with
  | [] => .error .short
  | c :: _ =>
    if c.isDigit then
      .ok (Nat.ofDigitChars 10 (cs.takeWhile Char.isDigit) 0, cs.dropWhile Char.isDigit)
    else .error .malformed

/-- Takes at most `width` digits at the front of `cs`, and at least one. -/
def numberUpTo (width : Nat) (cs : List Char) : Except DateFault (Nat × List Char) :=
  (number (cs.take width)).map fun (n, rest) => (n, rest ++ cs.drop width)

/-- Takes a year: after a sign any number of digits, without one at most four. The number must fit
a signed 32-bit word. -/
def readYear (cs : List Char) : Except DateFault (Int × List Char) := do
  let (year, rest) ← (match cs with
    | '-' :: cs => (number cs).map fun (n, rest) => (-(n : Int), rest)
    | '+' :: cs => (number cs).map fun (n, rest) => ((n : Int), rest)
    | cs => (numberUpTo 4 cs).map fun (n, rest) => ((n : Int), rest))
  if Int32.minValue.toInt ≤ year ∧ year ≤ Int32.maxValue.toInt then .ok (year, rest)
  else .error .range

/-- Takes a number of one or two digits from 1 to `most`. -/
def readPart (most : Nat) (cs : List Char) : Except DateFault (Nat × List Char) := do
  let (n, rest) ← numberUpTo 2 cs
  if 1 ≤ n ∧ n ≤ most then .ok (n, rest) else .error .range

/-- Takes a hyphen. -/
def readHyphen : List Char → Except DateFault (List Char)
  | [] => .error .short
  | c :: cs => if c = '-' then .ok cs else .error .malformed

/-- Reads a date. White space may stand before and after each number. -/
def read (cs : List Char) : Except DateFault Date := do
  let (year, cs) ← readYear (Text.trimFront cs)
  let cs ← readHyphen (Text.trimFront cs)
  let (month, cs) ← readPart 12 (Text.trimFront cs)
  let cs ← readHyphen (Text.trimFront cs)
  let (day, cs) ← readPart 31 (Text.trimFront cs)
  if (Text.trimFront cs).isEmpty then
    if h : Valid year month day then .ok ⟨year, month, day, h⟩ else .error .range
  else .error .trailing

/-- The date that a text stands for. -/
def ofText (s : String) : Except DateFault Date := read s.toList

end Date

end StagedRecords
