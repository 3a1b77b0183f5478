import StagedRecords.Json.Lexeme
import StagedRecords.Json.Printer
import StagedRecords.Proofs.Digits

/-!
# Lexemes of printed text

A printed string or whole number is one lexeme, whatever comes after it; for a number what comes
after it must not go on with the number, which nothing that ends a value does (`Ends`).
-/

namespace StagedRecords.Json

/-- The text is at an end or goes on with a comma or a closing bracket. -/
def Ends (cs : List Char) : Prop := ∀ c ∈ cs.head?, c = ',' ∨ c = ']' ∨ c = '\x7d'

theorem ends_nil : Ends [] := by
  intro c h
  cases h

theorem ends_cons {c : Char} {cs : List Char} (h : c = ',' ∨ c = ']' ∨ c = '\x7d') :
    Ends (c :: cs) := by
  intro d hd
  cases hd
  exact h

theorem Ends.noDigit {cs : List Char} (h : Ends cs) : NoDigit cs := by
  intro c hc
  rcases h c hc with rfl | rfl | rfl <;> rfl

/-! ## Whole numbers -/

namespace Numeral

theorem digits?_append {ds rest : List Char} (hd : ∀ c ∈ ds, c.isDigit = true) (hne : ds ≠ [])
    (hr : NoDigit rest) : digits? (ds ++ rest) = some (ds, rest) := by
  obtain ⟨ht, hdrop⟩ := span_digits hd hr
  have hempty : ds.isEmpty = false := List.isEmpty_eq_false_iff.2 hne
  simp [digits?, ht, hdrop, hempty]

theorem minusAt_of_isDigit {c : Char} {cs : List Char} (h : c.isDigit = true) :
    minusAt (c :: cs) = (false, c :: cs) := by
  unfold minusAt
  split
  · next heq => exact absurd (List.cons.inj heq).1 (ne_of_isDigit h (by decide))
  · rfl

theorem fractionAt_of_ends {cs : List Char} (h : Ends cs) : fractionAt cs = some (none, cs) := by
  unfold fractionAt
  split
  · next rest =>
    rcases h '.' rfl with h | h | h <;> simp at h
  · rfl

theorem exponentAt_of_ends {cs : List Char} (h : Ends cs) :
    exponentAt cs = some (none, cs) := by
  unfold exponentAt
  split
  · rfl
  · next c rest =>
    rw [if_neg]
    rcases h c rfl with rfl | rfl | rfl <;> decide

/-- Digits after what may be a minus, up to the end of the value. -/
theorem read_of_digits {cs : List Char} {n : Nat} {negative : Bool} {rest : List Char}
    (hcs : minusAt cs = (negative, Decimal.digits n ++ rest)) (h : Ends rest) :
    read cs = some (⟨negative, Decimal.digits n, none, none⟩, rest) := by
  have hzero : ¬((Decimal.digits n).head? = some '0' ∧ (Decimal.digits n).length ≠ 1) := by
    rintro ⟨hhead, hlen⟩
    rcases Nat.eq_zero_or_pos n with rfl | hpos
    · exact hlen rfl
    · exact head?_toDigits_ne_zero hpos hhead
  have hdigits := digits?_append (isDigit_toDigits (n := n)) Nat.toDigits_ne_nil h.noDigit
  simp only [read, hcs, Option.bind_eq_bind]
  rw [show digits? (Decimal.digits n ++ rest) = some (Decimal.digits n, rest) from hdigits]
  simp only [Option.bind_some, fractionAt_of_ends h, exponentAt_of_ends h, if_neg hzero]

theorem read_wholeText {n : Int} {rest : List Char} (hlow : Int64.minValue.toInt ≤ n)
    (hhigh : n < UInt64.size) (h : Ends rest) :
    ∃ numeral, read (wholeText n ++ rest) = some (numeral, rest) ∧
      numeral.value = some (.int n) := by
  cases n with
  | ofNat n =>
    obtain ⟨c, cs, hc⟩ : ∃ c cs, Decimal.digits n = c :: cs :=
      List.exists_cons_of_ne_nil Nat.toDigits_ne_nil
    have hdigit : c.isDigit = true := isDigit_toDigits c (hc ▸ List.mem_cons_self)
    refine ⟨⟨false, Decimal.digits n, none, none⟩, read_of_digits ?_ h, ?_⟩
    · rw [wholeText, hc, List.cons_append, minusAt_of_isDigit hdigit]
    · have hfit : n < UInt64.size := Int.ofNat_lt.1 hhigh
      simp [value, Decimal.digits, hfit]
  | negSucc n =>
    refine ⟨_, read_of_digits (n := n + 1) rfl h, ?_⟩
    have hfit : Int64.minValue.toInt ≤ -((n + 1 : Nat) : Int) := hlow
    simp only [value, Decimal.digits, Nat.ofDigitChars_ten_toDigits, Option.isNone_none,
      Bool.and_self, Bool.not_true, Bool.and_false, Bool.false_and, Bool.false_eq_true, if_false,
      hfit, decide_true, Nat.zero_lt_succ, if_true]
    rfl

end Numeral

/-! ## Strings -/

section Literal

variable (cs : List Char)

theorem literal_named {letter c : Char} (h : Escape.named? letter = some c) :
    literal .none ('\\' :: letter :: cs) =
      (literal .none cs).map fun r => (c :: r.1, r.2) := by
  have hu : letter ≠ 'u' := by
    rintro rfl
    cases h
  simp [literal, Escape.closes, Escape.step, hu, h]
  rfl

theorem literal_control {c : Char} (h : c.toNat < 0x20) :
    literal .none ('\\' :: 'u' :: '0' :: '0' :: Text.hexDigit (c.toNat / 16) ::
        Text.hexDigit (c.toNat % 16) :: cs) =
      (literal .none cs).map fun r => (c :: r.1, r.2) := by
  have hhigh := Text.hexValue?_hexDigit (c.toNat / 16) (by omega)
  have hlow := Text.hexValue?_hexDigit (c.toNat % 16) (by omega)
  have hzero : Text.hexValue? '0' = some 0 := by decide
  have hunit : 16 * (c.toNat / 16) + c.toNat % 16 = c.toNat := by omega
  have hof : Escape.ofUnit c.toNat none = some (.none, some c) := by
    rw [Escape.ofUnit, if_neg (by omega), if_neg (by omega), Char.ofNat_toNat]
  simp [literal, Escape.closes, Escape.step, hhigh, hlow, hzero, hunit, hof]
  rfl

/-- A printed character gives itself, and the literal goes on after it. -/
theorem literal_escaped (c : Char) :
    literal .none (escaped c ++ cs) = (literal .none cs).map fun r => (c :: r.1, r.2) := by
  unfold escaped
  split
  · exact literal_named cs rfl
  · exact literal_named cs rfl
  · exact literal_named cs rfl
  · exact literal_named cs rfl
  · exact literal_named cs rfl
  · exact literal_named cs rfl
  · exact literal_named cs rfl
  · next hquote hslash _ _ _ _ _ =>
    split
    · next hlow => exact literal_control cs hlow
    · next hhigh =>
      have hstep : Escape.step .none c = some (.none, some c) := by
        rw [Escape.step, if_neg hslash, if_neg hhigh]
      have hopen : Escape.closes .none c = false := decide_eq_false hquote
      simp [literal, hopen, hstep]

theorem literal_flatMap_escaped (s : List Char) :
    literal .none (s.flatMap escaped ++ '"' :: cs) = some (s, cs) := by
  induction s with
  | nil => rfl
  | cons c s ih =>
    rw [List.flatMap_cons, List.append_assoc, literal_escaped, ih]
    rfl

end Literal

/-! ## Lexemes -/

namespace Lexeme

theorem all_nil : all [] = [] := by
  unfold all
  rfl

theorem all_cons {c : Char} (cs : List Char) (h : isBlank c = false) :
    all (c :: cs) = (scan c cs).1 :: all (scan c cs).2 := by
  have hfirst : first? (c :: cs) = some (scan c cs) := by
    simp [first?, h]
  rw [all]
  split
  · next hn =>
    rw [hfirst] at hn
    cases hn
  · next l rest hs =>
    rw [hfirst] at hs
    rw [Option.some.inj hs]

theorem all_quote (s : String) (rest : List Char) :
    all (quote s ++ rest) = .text s :: all rest := by
  have hscan : scan '"' (s.toList.flatMap escaped ++ '"' :: rest) = (.text s, rest) := by
    simp [scan, literal_flatMap_escaped]
  have hcons : quote s ++ rest = '"' :: (s.toList.flatMap escaped ++ '"' :: rest) := by
    simp [quote]
  rw [hcons, all_cons _ (by decide), hscan]

theorem scan_of_numeral {c : Char} {cs rest : List Char} {n : Numeral} {j : Json}
    (hc : c = '-' ∨ c.isDigit = true) (hread : Numeral.read (c :: cs) = some (n, rest))
    (hvalue : n.value = some j) : scan c cs = (.plain j, rest) := by
  have hne : ∀ d : Char, d ≠ '-' → d.isDigit = false → c ≠ d := by
    rintro d hd hdigit rfl
    rcases hc with hc | hc
    · exact hd hc
    · rw [hc] at hdigit
      cases hdigit
  unfold scan
  split
  · exact absurd rfl (hne '[' (by decide) (by decide))
  · exact absurd rfl (hne ']' (by decide) (by decide))
  · exact absurd rfl (hne '\x7b' (by decide) (by decide))
  · exact absurd rfl (hne '\x7d' (by decide) (by decide))
  · exact absurd rfl (hne ':' (by decide) (by decide))
  · exact absurd rfl (hne ',' (by decide) (by decide))
  · exact absurd rfl (hne '"' (by decide) (by decide))
  · exact absurd rfl (hne 'n' (by decide) (by decide))
  · exact absurd rfl (hne 't' (by decide) (by decide))
  · exact absurd rfl (hne 'f' (by decide) (by decide))
  · rw [hread]
    simp only [hvalue]

/-- A printed whole number of 64 bits is one lexeme, if the value ends after it. -/
theorem all_wholeText {n : Int} {rest : List Char} (hlow : Int64.minValue.toInt ≤ n)
    (hhigh : n < UInt64.size) (h : Ends rest) :
    all (wholeText n ++ rest) = .plain (.int n) :: all rest := by
  obtain ⟨numeral, hread, hvalue⟩ := Numeral.read_wholeText hlow hhigh h
  obtain ⟨c, cs, hc, hcs⟩ : ∃ c cs, wholeText n ++ rest = c :: cs ∧ (c = '-' ∨ c.isDigit) := by
    cases n with
    | ofNat n =>
      obtain ⟨c, cs, hc⟩ : ∃ c cs, Decimal.digits n = c :: cs :=
        List.exists_cons_of_ne_nil Nat.toDigits_ne_nil
      exact ⟨c, cs ++ rest, by rw [wholeText, hc]; rfl,
        .inr (isDigit_toDigits c (hc ▸ List.mem_cons_self))⟩
    | negSucc n => exact ⟨'-', _, rfl, .inl rfl⟩
  have hblank : isBlank c = false := by
    rcases hcs with rfl | hdigit
    · rfl
    · have hr := isDigit_range hdigit
      have hne : ∀ d : Char, d.isDigit = false → c ≠ d := fun d => ne_of_isDigit hdigit
      simp [isBlank, hne ' ' rfl, hne '\t' rfl, hne '\n' rfl, hne '\r' rfl]
  rw [hc] at hread ⊢
  rw [all_cons cs hblank, scan_of_numeral hcs hread hvalue]

end Lexeme

end StagedRecords.Json
