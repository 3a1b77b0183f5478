import StagedRecords.Json.Basic

/-!
# Numbers in JSON text

A number without fraction and exponent is whole when it fits a signed or an unsigned 64-bit word;
`-0` and all other numbers are floating point. The value of such a number is its significand, the
longest run of digits that stays below `2 ^ 64`, multiplied or divided by a power of ten in double
precision.
-/

namespace StagedRecords.Json

/-- A number as it is written. -/
structure Numeral where
  negative : Bool
  whole : List Char
  fraction : Option (List Char)
  exponent : Option Int

namespace Numeral

/-- The digits at the front of the text, at least one, and the rest. -/
def digits? (cs : List Char) : Option (List Char × List Char) :=
  if (cs.takeWhile Char.isDigit).isEmpty then none
  else some (cs.takeWhile Char.isDigit, cs.dropWhile Char.isDigit)

theorem digits?_length {cs ds rest : List Char} (h : digits? cs = some (ds, rest)) :
    rest.length < cs.length := by
  unfold digits? at h
  split at h
  · cases h
  · next hne =>
    obtain ⟨rfl, rfl⟩ := Prod.mk.inj (Option.some.inj h)
    have hlen : (cs.takeWhile Char.isDigit ++ cs.dropWhile Char.isDigit).length = cs.length :=
      congrArg List.length List.takeWhile_append_dropWhile
    have hpos : 0 < (cs.takeWhile Char.isDigit).length :=
      List.length_pos_iff.2 fun he => hne (by simp [he])
    rw [List.length_append] at hlen
    omega

/-- The sign of an exponent, true for a minus, and the text after it. -/
def exponentSign : List Char → Bool × List Char
  | '-' :: cs => (true, cs)
  | '+' :: cs => (false, cs)
  | cs => (false, cs)

theorem exponentSign_length (cs : List Char) : (exponentSign cs).2.length ≤ cs.length := by
  unfold exponentSign
  split <;> simp

/-- The exponent at the front of the text, if there is one. -/
def exponentAt : List Char → Option (Option Int × List Char)
  | [] => some (none, [])
  | c :: cs =>
    if c = 'e' ∨ c = 'E' then
      (digits? (exponentSign cs).2).map fun (ds, rest) =>
        let n : Int := Nat.ofDigitChars 10 ds 0
        (some (if (exponentSign cs).1 then -n else n), rest)
    else some (none, c :: cs)

theorem exponentAt_length {cs rest : List Char} {n : Option Int}
    (h : exponentAt cs = some (n, rest)) : rest.length ≤ cs.length := by
  unfold exponentAt at h
  split at h
  · cases h; exact Nat.le_refl _
  · next c cs =>
    split at h
    · obtain ⟨⟨ds, rest'⟩, hd, he⟩ := Option.map_eq_some_iff.1 h
      cases he
      have := digits?_length hd
      have := exponentSign_length cs
      simp only [List.length_cons]
      omega
    · cases h; exact Nat.le_refl _

/-- The digits after a point at the front of the text, if there is one. -/
def fractionAt : List Char → Option (Option (List Char) × List Char)
  | '.' :: cs => (digits? cs).map fun (ds, rest) => (some ds, rest)
  | cs => some (none, cs)

theorem fractionAt_length {cs rest : List Char} {f : Option (List Char)}
    (h : fractionAt cs = some (f, rest)) : rest.length ≤ cs.length := by
  unfold fractionAt at h
  split at h
  · obtain ⟨⟨ds, rest'⟩, hd, he⟩ := Option.map_eq_some_iff.1 h
    cases he
    exact Nat.le_succ_of_le (Nat.le_of_lt (digits?_length hd))
  · cases h; exact Nat.le_refl _

/-- A minus at the front of the text, and the text after it. -/
def minusAt : List Char → Bool × List Char
  | '-' :: cs => (true, cs)
  | cs => (false, cs)

theorem minusAt_length (cs : List Char) : (minusAt cs).2.length ≤ cs.length := by
  unfold minusAt
  split <;> simp

/-- The numeral at the front of the text, and the rest. A leading zero stands alone. -/
def read (cs : List Char) : Option (Numeral × List Char) := do
  let (whole, rest) ← digits? (minusAt cs).2
  if whole.head? = some '0' ∧ whole.length ≠ 1 then none
  else
    let (fraction, rest) ← fractionAt rest
    let (exponent, rest) ← exponentAt rest
    some (⟨(minusAt cs).1, whole, fraction, exponent⟩, rest)

theorem read_length {cs rest : List Char} {n : Numeral} (h : read cs = some (n, rest)) :
    rest.length < cs.length := by
  simp only [read, Option.bind_eq_bind, Option.bind_eq_some_iff, Prod.exists] at h
  obtain ⟨whole, r₁, h₁, h⟩ := h
  split at h
  · cases h
  · simp only [Option.bind_eq_some_iff, Prod.exists] at h
    obtain ⟨f, r₂, h₂, e, r₃, h₃, h⟩ := h
    cases h
    have := minusAt_length cs
    have := digits?_length h₁
    have := fractionAt_length h₂
    have := exponentAt_length h₃
    omega

/-- Appends digits to the significand while it stays below `2 ^ 64`, and counts them. -/
def absorb (significand : Nat) : List Char → Nat × Nat
  | [] => (significand, 0)
  | d :: ds =>
    let next := 10 * significand + (d.toNat - '0'.toNat)
    if next < UInt64.size then
      let (s, n) := absorb next ds
      (s, n + 1)
    else (significand, 0)

/-- The number `x / 10 ^ n`, divided in steps of at most 308 places. -/
def scaleDown (x : Float) (n : Nat) : Float :=
  if n ≤ 308 then x / Float.ofScientific 1 false n
  else if x == 0 then x
  else scaleDown (x / Float.ofScientific 1 false 308) (n - 308)
termination_by n

/-- The number `significand * 10 ^ exponent`; nothing when that is too large for a double. -/
def scale (significand : Nat) : Int → Option Float
  | .ofNat n =>
    let x := significand.toUInt64.toFloat
    if n ≤ 308 then
      let y := x * Float.ofScientific 1 false n
      if y.isInf then none else some y
    else if x == 0 then some x
    else none
  | .negSucc n => some (scaleDown significand.toUInt64.toFloat (n + 1))

/-- The numeral as a floating point number. Whole digits past the significand count as zeros,
those of the fraction not at all. -/
def float (n : Numeral) : Option Float :=
  let (s, kept) := absorb 0 n.whole
  let (s, places) := absorb s (n.fraction.getD [])
  let exponent : Int := (n.whole.length - kept : Nat) - places + n.exponent.getD 0
  (scale s exponent).map fun x => if n.negative then -x else x

/-- What the numeral stands for; nothing when it is too large for a double. -/
def value (n : Numeral) : Option Json :=
  let m := Nat.ofDigitChars 10 n.whole 0
  let plain := n.fraction.isNone && n.exponent.isNone
  if plain && !n.negative && m < UInt64.size then some (.int m)
  else if plain && n.negative && 0 < m && Int64.minValue.toInt ≤ -(m : Int) then some (.int (-m))
  else n.float.map .float

end Numeral

end StagedRecords.Json
