import StagedRecords.Decimal.Shortest

/-!
# Decimal notation

How the digits of a double are set out: in positional notation for a middling range, with a power
of ten outside it.
-/

namespace StagedRecords.Decimal

/-- The digits of a number in base ten. -/
def digits (n : Nat) : List Char := Nat.toDigits 10 n

/-- Digits with the point after the first `point` of them; zeros fill the places without digit,
and at least one digit stands on each side of the point. -/
def positional (ds : List Char) (point : Int) : List Char :=
  match point with
  | .ofNat 0 => '0' :: '.' :: ds
  | .ofNat n =>
    if n < ds.length then ds.take n ++ '.' :: ds.drop n
    else ds ++ List.replicate (n - ds.length) '0' ++ ['.', '0']
  | .negSucc n => '0' :: '.' :: List.replicate (n + 1) '0' ++ ds

/-- One digit, a point and the others, if there are others, then the power of ten with its sign. -/
def scientific (ds : List Char) (exponent : Int) : List Char :=
  let sign := if exponent < 0 then '-' else '+'
  let mantissa := match ds with
    | [] => []
    | [d] => [d]
    | d :: ds => d :: '.' :: ds
  mantissa ++ 'e' :: sign :: digits exponent.natAbs

/-- The text of a finite double: the shortest digits that read back, positional from `1e-5` up to
but not including `1e16`, and with a power of ten elsewhere. -/
def floatText (x : Float) : List Char :=
  let sign := if x.toBits ≥ 0x8000000000000000 then ['-'] else []
  if x == 0 then sign ++ "0.0".toList
  else
    let s := shortest x.abs.toBits
    let ds := digits s.digits
    let point := s.exponent + ds.length
    sign ++ if -5 < point ∧ point ≤ 16 then positional ds point else scientific ds (point - 1)

end StagedRecords.Decimal
