/-!
# Shortest decimals

A finite double is `m * 2 ^ q`. The reals that round to it form an interval around it, with its
ends if `m` is even. `shortest` gives the decimal with the fewest digits in that interval, and of
several the one nearest to the double; a tie goes to the even digit.
-/

namespace StagedRecords.Decimal

/-- The decimal number `digits * 10 ^ exponent`. -/
structure Scientific where
  digits : Nat
  exponent : Int
deriving DecidableEq

/-- The part of a double that is left without its sign: `significand * 2 ^ exponent`. -/
structure Binary where
  significand : Nat
  exponent : Int
  /-- Whether the next smaller double is only half as far away as the next larger one. -/
  lopsided : Bool

/-- Takes the bits of a finite double apart. -/
def Binary.ofBits (bits : UInt64) : Binary :=
  let fraction : Nat := (bits &&& 0xfffffffffffff).toNat
  let field : Nat := (bits >>> 52 &&& 0x7ff).toNat
  if field = 0 then ⟨fraction, -1074, false⟩
  else ⟨0x10000000000000 + fraction, (field : Int) - 1075, fraction == 0 && field != 1⟩

/-- A double and the ends of its interval, as multiples of one unit `1 / den`. -/
structure Interval where
  low : Nat
  mid : Nat
  high : Nat
  den : Nat
  /-- Whether the ends round to the double themselves. -/
  closed : Bool

/-- The interval of the reals that round to `b`. The unit is a quarter of the last place. -/
def Binary.interval (b : Binary) : Interval :=
  let low := if b.lopsided then 4 * b.significand - 1 else 4 * b.significand - 2
  let mid := 4 * b.significand
  let high := 4 * b.significand + 2
  let closed := b.significand % 2 == 0
  match b.exponent with
  | .ofNat n => ⟨low <<< n, mid <<< n, high <<< n, 4, closed⟩
  | .negSucc n => ⟨low, mid, high, 4 <<< (n + 1), closed⟩

/-- The same interval with the unit `10 ^ e` in place of one. -/
def Interval.inUnits (i : Interval) : Int → Interval
  | .ofNat n => { i with den := i.den * Nat.pow 10 n }
  | .negSucc n =>
    let p := Nat.pow 10 (n + 1)
    { i with low := i.low * p, mid := i.mid * p, high := i.high * p }

/-- Whether the whole number `n` lies in the interval. -/
def Interval.contains (i : Interval) (n : Nat) : Bool :=
  if i.closed then i.low ≤ n * i.den && n * i.den ≤ i.high
  else i.low < n * i.den && n * i.den < i.high

/-- The whole number of the interval that is nearest to its middle, if there is one. -/
def Interval.nearest? (i : Interval) : Option Nat :=
  let below := i.mid / i.den
  let above := below + 1
  match i.contains below, i.contains above with
  | true, false => some below
  | false, true => some above
  | false, false => none
  | true, true =>
    let down := i.mid - below * i.den
    let up := above * i.den - i.mid
    if down < up then some below
    else if up < down then some above
    else if below % 2 = 0 then some below else some above

/-- The least `e` with `n < 10 ^ e * den`, searched from `e` upwards. -/
def magnitude (n den : Nat) : Nat → Int → Int
  | 0, e => e
  | fuel + 1, e =>
    let small : Bool := match e with
      | .ofNat k => n < Nat.pow 10 k * den
      | .negSucc k => n * Nat.pow 10 (k + 1) < den
    if small then e else magnitude n den fuel (e + 1)

/-- Tries so many digits and more until a decimal lies in the interval. -/
def search (i : Interval) (top : Int) : Nat → Nat → Option Scientific
  | 0, _ => none
  | fuel + 1, places =>
    let e := top - places
    match (i.inUnits e).nearest? with
    | some n => some ⟨n, e⟩
    | none => search i top fuel (places + 1)

/-- Moves trailing zeros of the digits into the exponent. -/
def Scientific.trim (s : Scientific) : Nat → Scientific
  | 0 => s
  | fuel + 1 =>
    if s.digits % 10 = 0 ∧ s.digits ≠ 0 then
      Scientific.trim ⟨s.digits / 10, s.exponent + 1⟩ fuel
    else s

/-- The shortest decimal that rounds to the positive double with these bits. -/
def shortest (bits : UInt64) : Scientific :=
  let i := (Binary.ofBits bits).interval
  let top := magnitude i.mid i.den 700 (-324)
  match search i top 17 1 with
  | some s => s.trim 20
  | none => ⟨0, 0⟩

end StagedRecords.Decimal
