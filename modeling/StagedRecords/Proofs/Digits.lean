import StagedRecords.Date

/-!
# Digits

The decimal digits of a number, filled up with zeros or not, read back as the number, whatever
comes after them short of another digit.
-/

namespace StagedRecords

/-- The text does not go on with a digit. -/
def NoDigit (cs : List Char) : Prop := ∀ c ∈ cs.head?, c.isDigit = false

theorem noDigit_nil : NoDigit [] := by
  intro c h
  cases h

theorem noDigit_cons {c : Char} {cs : List Char} (h : c.isDigit = false) : NoDigit (c :: cs) := by
  intro d hd
  cases hd
  exact h

/-- What comes after digits up to a place where none follows. -/
theorem span_digits {ds rest : List Char} (hd : ∀ c ∈ ds, c.isDigit = true) (hr : NoDigit rest) :
    (ds ++ rest).takeWhile Char.isDigit = ds ∧ (ds ++ rest).dropWhile Char.isDigit = rest := by
  rw [List.takeWhile_append_of_pos hd, List.dropWhile_append_of_pos hd]
  cases rest with
  | nil => simp
  | cons c cs => simp [hr c rfl]

theorem isDigit_range {c : Char} (h : c.isDigit = true) : 48 ≤ c.toNat ∧ c.toNat ≤ 57 := by
  simpa [Char.isDigit, UInt32.le_iff_toNat_le] using h

theorem ne_of_isDigit {c d : Char} (h : c.isDigit = true) (hd : d.isDigit = false) : c ≠ d := by
  rintro rfl
  rw [h] at hd
  cases hd

theorem isDigit_toDigits {n : Nat} : ∀ c ∈ Nat.toDigits 10 n, c.isDigit = true :=
  fun _ hc => Nat.isDigit_of_mem_toDigits (by decide) (by decide) hc

/-- The digits of a positive number start with none that is zero. -/
theorem head?_toDigits_ne_zero {n : Nat} (h : 0 < n) : (Nat.toDigits 10 n).head? ≠ some '0' := by
  induction n using Nat.strongRecOn with
  | ind n ih =>
    rw [Nat.toDigits_eq_if (by decide)]
    split
    · next hlt =>
      have hall : ∀ m < 10, 0 < m → Nat.digitChar m ≠ '0' := by decide
      simpa using hall n hlt h
    · next hge =>
      have hrest := ih (n / 10) (Nat.div_lt_self h (by decide)) (by omega)
      rcases hd : Nat.toDigits 10 (n / 10) with _ | ⟨c, cs⟩
      · exact absurd hd Nat.toDigits_ne_nil
      · rw [hd] at hrest
        exact hrest

namespace Date

theorem isDigit_padded (width n : Nat) : ∀ c ∈ padded width n, c.isDigit = true := by
  intro c hc
  rcases List.mem_append.1 hc with hc | hc
  · rw [List.eq_of_mem_replicate hc]
    rfl
  · exact isDigit_toDigits c hc

theorem padded_ne_nil {width n : Nat} : padded width n ≠ [] := by
  simp [padded]

theorem exists_padded_eq_cons (width n : Nat) :
    ∃ c cs, padded width n = c :: cs ∧ c.isDigit = true := by
  rcases h : padded width n with _ | ⟨c, cs⟩
  · exact absurd h padded_ne_nil
  · exact ⟨c, cs, rfl, isDigit_padded width n c (h ▸ List.mem_cons_self)⟩

theorem length_padded {width n : Nat} (h : (Nat.toDigits 10 n).length ≤ width) :
    (padded width n).length = width := by
  simp only [padded, List.length_append, List.length_replicate]
  omega

@[simp] theorem ofDigitChars_padded {width n : Nat} :
    Nat.ofDigitChars 10 (padded width n) 0 = n := by
  rw [padded, Nat.ofDigitChars_append, Nat.ofDigitChars_replicate_zero, Nat.mul_zero,
    Nat.ofDigitChars_ten_toDigits]

/-- A padded number reads back from the front of a text that goes on with no digit. -/
theorem number_padded (width n : Nat) {rest : List Char} (hr : NoDigit rest) :
    number (padded width n ++ rest) = .ok (n, rest) := by
  obtain ⟨ht, hd⟩ := span_digits (isDigit_padded width n) hr
  obtain ⟨c, cs, hc, hdigit⟩ := exists_padded_eq_cons width n
  rw [hc, List.cons_append] at ht hd ⊢
  simp only [number, hdigit, if_true, ht, hd]
  rw [← hc, ofDigitChars_padded]

/-- A number that fills its width reads back whatever the text goes on with. -/
theorem numberUpTo_padded {width n : Nat} (h : (Nat.toDigits 10 n).length ≤ width)
    (rest : List Char) : numberUpTo width (padded width n ++ rest) = .ok (n, rest) := by
  have hlen := length_padded h
  have hread := number_padded width n noDigit_nil
  rw [List.append_nil] at hread
  rw [numberUpTo, List.take_left' hlen, List.drop_left' hlen, hread]
  rfl

end Date

end StagedRecords
