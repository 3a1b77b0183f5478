import StagedRecords.Text.CaseData

/-!
# Lower case

Characters are lowered one by one, but for the capital sigma: it has its final form at the end of
a word, that is after a cased character and not before one, characters that case ignores left out.
-/

namespace StagedRecords.Text

/-- The code point that `n` is lowered to by the run, if the run holds it. -/
def CaseRun.lowered? (r : CaseRun) (n : Nat) : Option Nat :=
  if r.first ≤ n ∧ n ≤ r.last ∧ (n - r.first) % r.step = 0 then some (n + r.shift).toNat else none

/-- The lower case of a character by itself. The dotted capital I keeps its dot. -/
def lowerChar (c : Char) : List Char :=
  if c = '\u0130' then ['i', '\u0307']
  else match lowerRuns.findSome? (·.lowered? c.toNat) with
    | some n => [Char.ofNat n]
    | none => [c]

/-- Whether the first character that case does not ignore is cased. -/
def startsCased (cs : List Char) : Bool :=
  match cs.dropWhile ignorableRanges.has with
  | [] => false
  | c :: _ => casedRanges.has c

/-- The lower case of a text that comes after the characters `before`, given nearest first. -/
def lowerAfter (before : List Char) : List Char → List Char
  | [] => []
  | c :: cs =>
    let here :=
      if c = 'Σ' then [if startsCased before && !startsCased cs then 'ς' else 'σ']
      else lowerChar c
    here ++ lowerAfter (c :: before) cs

/-- The lower case of a text. -/
def lower (cs : List Char) : List Char := lowerAfter [] cs

end StagedRecords.Text
