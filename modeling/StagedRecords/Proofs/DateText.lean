import StagedRecords.Proofs.Digits

/-!
# Dates in text

The text of a date reads back as the date, over the whole range of years: a sign stands in front
of the year exactly where the reader needs it to take more than four digits.
-/

namespace StagedRecords

namespace Text

theorem isBlank_of_isDigit {c : Char} (h : c.isDigit = true) : isBlank c = false := by
  have hr := isDigit_range h
  simp only [isBlank, Ranges.has, blankRanges, List.any_cons, List.any_nil, Bool.or_false,
    Bool.or_eq_false_iff, Bool.and_eq_false_iff, decide_eq_false_iff_not]
  omega

theorem trimFront_cons {c : Char} {cs : List Char} (h : isBlank c = false) :
    trimFront (c :: cs) = c :: cs := by
  simp [trimFront, h]

end Text

namespace Date

open Text (trimFront trimFront_cons isBlank_of_isDigit)

theorem trimFront_padded (width n : Nat) (rest : List Char) :
    trimFront (padded width n ++ rest) = padded width n ++ rest := by
  obtain ⟨c, cs, hc, hdigit⟩ := exists_padded_eq_cons width n
  rw [hc, List.cons_append, trimFront_cons (isBlank_of_isDigit hdigit)]

theorem trimFront_yearText (year : Int) (rest : List Char) :
    trimFront (yearText year ++ rest) = yearText year ++ rest := by
  unfold yearText
  split
  · exact trimFront_cons (by decide)
  · split
    · exact trimFront_cons (by decide)
    · exact trimFront_padded _ _ _

/-- A year without a sign in front of it is read digit by digit. -/
theorem readYear_padded {n : Nat} (h : n ≤ 9999) (rest : List Char) :
    readYear (padded 4 n ++ rest) = .ok ((n : Int), rest) := by
  have hlen : (Nat.toDigits 10 n).length ≤ 4 :=
    (Nat.length_toDigits_le_iff (by decide) (by decide)).2 (by omega)
  have hread := numberUpTo_padded hlen rest
  obtain ⟨c, cs, hc, hdigit⟩ := exists_padded_eq_cons 4 n
  have hfit : Int32.minValue.toInt ≤ (n : Int) ∧ (n : Int) ≤ Int32.maxValue.toInt := by
    have hmin : Int32.minValue.toInt = -2147483648 := by decide
    have hmax : Int32.maxValue.toInt = 2147483647 := by decide
    omega
  rw [hc, List.cons_append] at hread ⊢
  unfold readYear
  split
  · next heq => exact absurd (List.cons.inj heq).1 (ne_of_isDigit hdigit (by decide))
  · next heq => exact absurd (List.cons.inj heq).1 (ne_of_isDigit hdigit (by decide))
  · rw [hread]
    show (if _ then _ else _) = _
    rw [if_pos hfit]

theorem readYear_yearText {year : Int} (hlow : -262143 ≤ year) (hhigh : year ≤ 262142)
    {rest : List Char} (hr : NoDigit rest) :
    readYear (yearText year ++ rest) = .ok (year, rest) := by
  have hfit : Int32.minValue.toInt ≤ year ∧ year ≤ Int32.maxValue.toInt := by
    have hmin : Int32.minValue.toInt = -2147483648 := by decide
    have hmax : Int32.maxValue.toInt = 2147483647 := by decide
    omega
  have hread := number_padded 4 year.natAbs hr
  unfold yearText
  split
  · next hneg =>
    have habs : -((year.natAbs : Nat) : Int) = year := by omega
    rw [List.cons_append, readYear, hread]
    show (if _ then _ else _) = _
    rw [habs, if_pos hfit]
  · split
    · have habs : ((year.natAbs : Nat) : Int) = year := by omega
      rw [List.cons_append, readYear, hread]
      show (if _ then _ else _) = _
      rw [habs, if_pos hfit]
    · have habs : ((year.natAbs : Nat) : Int) = year := by omega
      rw [readYear_padded (by omega), habs]

theorem readPart_padded {most n : Nat} (hpos : 1 ≤ n) (hmost : n ≤ most) (h : n < 100)
    (rest : List Char) : readPart most (padded 2 n ++ rest) = .ok (n, rest) := by
  have hlen : (Nat.toDigits 10 n).length ≤ 2 :=
    (Nat.length_toDigits_le_iff (by decide) (by decide)).2 (by omega)
  rw [readPart, numberUpTo_padded hlen]
  show (if _ then _ else _) = _
  rw [if_pos ⟨hpos, hmost⟩]

theorem daysIn_le (year : Int) (month : Nat) : daysIn year month ≤ 31 := by
  unfold daysIn
  split
  · split <;> decide
  · split <;> decide

theorem trimFront_hyphen (cs : List Char) : trimFront ('-' :: cs) = '-' :: cs :=
  trimFront_cons (by decide)

theorem readHyphen_hyphen (cs : List Char) : readHyphen ('-' :: cs) = .ok cs := rfl

/-- Every date reads back from its text. -/
theorem ofText_text (d : Date) : ofText d.text = .ok d := by
  obtain ⟨⟨hlow, hhigh⟩, ⟨hm1, hm2⟩, hd1, hd2⟩ := d.valid
  have hd3 : d.day ≤ 31 := Nat.le_trans hd2 (daysIn_le _ _)
  have hyear := readYear_yearText hlow hhigh
    (show NoDigit ('-' :: (padded 2 d.month ++ '-' :: padded 2 d.day)) from noDigit_cons rfl)
  have hmonth := readPart_padded hm1 hm2 (by omega) ('-' :: padded 2 d.day)
  have hday := readPart_padded hd1 hd3 (by omega) []
  have htrim := trimFront_padded 2 d.day []
  rw [List.append_nil] at hday htrim
  simp only [ofText, text, String.toList_ofList, read, chars, trimFront_yearText, hyear,
    trimFront_hyphen, readHyphen_hyphen, trimFront_padded, hmonth, htrim, hday, bind, Except.bind]
  rw [dif_pos d.valid]
  rfl

end Date

end StagedRecords
