import StagedRecords.Text.Blank
import StagedRecords.Text.LowerCase

/-!
# Words in lower case

Only ASCII letters have small ASCII letters as their lower case, but for two exceptions: the Kelvin
sign is lowered to `k`, and the dotted capital I to `i` and a dot. So a text is lowered to a word of
other letters just if it is that word up to the case of ASCII letters (`lower_eq_iff`). White space
around such a word is what trimming takes away (`trim_append`).
-/

namespace StagedRecords.Text

/-- A small ASCII letter that nothing but an ASCII letter is lowered to. -/
def IsPlain (c : Char) : Prop := c.isLower = true ∧ c ≠ 'i' ∧ c ≠ 'k'

variable {c d : Char}

theorem isLower_range (h : c.isLower = true) : 97 ≤ c.toNat ∧ c.toNat ≤ 122 := by
  obtain ⟨hfrom, hto⟩ := Bool.and_eq_true_iff.1 h
  exact ⟨UInt32.le_iff_toNat_le.1 (of_decide_eq_true hfrom),
    UInt32.le_iff_toNat_le.1 (of_decide_eq_true hto)⟩

theorem toNat_lt_of_isLower (h : c.isLower = true) : c.toNat < 128 := by
  have hrange := isLower_range h
  omega

theorem toLower_of_le (h : 128 ≤ c.toNat) : c.toLower = c := by
  unfold Char.toLower
  split
  · next hupper =>
    have hle : c.toNat ≤ 90 := UInt32.le_iff_toNat_le.1 hupper.2
    omega
  · rfl

theorem toNat_lt_of_isLower_toLower (h : c.toLower.isLower = true) : c.toNat < 128 := by
  rcases Nat.lt_or_ge c.toNat 128 with hc | hc
  · exact hc
  · rw [toLower_of_le hc] at h
    exact toNat_lt_of_isLower h

theorem not_isLower_ofNat {n : Nat} (h : 128 ≤ n) : ¬(Char.ofNat n).isLower = true := by
  by_cases hvalid : n.isValidChar
  · have hchar : Char.ofNat n = Char.ofNatAux n hvalid := dif_pos hvalid
    rw [hchar]
    intro hlower
    have hlt : n < 128 := toNat_lt_of_isLower hlower
    omega
  · have hchar : Char.ofNat n = '\x00' := dif_neg hvalid
    rw [hchar]
    decide

/-! ## Single characters -/

theorem CaseRun.lowered?_of_lt {r : CaseRun} {n : Nat} (h : n < r.first) :
    r.lowered? n = none :=
  if_neg fun hin => absurd hin.1 (Nat.not_le_of_lt h)

theorem CaseRun.bounds_of_lowered? {r : CaseRun} {n m : Nat} (h : r.lowered? n = some m) :
    r.first ≤ n ∧ n ≤ r.last ∧ m = (n + r.shift).toNat := by
  obtain ⟨⟨hfirst, hlast, -⟩, hm⟩ := Option.ite_none_right_eq_some.1 h
  exact ⟨hfirst, hlast, (Option.some.inj hm).symm⟩

/-- One run lowers the ASCII letters, and the others begin after them. -/
theorem lowerRuns_eq : ∃ runs, lowerRuns = ⟨65, 90, 1, 32⟩ :: runs ∧ ∀ r ∈ runs, 128 ≤ r.first :=
  ⟨lowerRuns.tail, rfl, by decide +kernel⟩

/-- No run but that of the Kelvin sign leads back to ASCII. -/
theorem lowerRuns_shift : ∀ r ∈ lowerRuns, r.last < 128 ∨ 128 ≤ r.first + r.shift ∨
    r.first + r.shift = 107 ∧ r.last = r.first := by
  decide +kernel

theorem lowerChar_of_lt (h : c.toNat < 128) : lowerChar c = [c.toLower] := by
  obtain ⟨runs, heq, hfirst⟩ := lowerRuns_eq
  have hruns : runs.findSome? (·.lowered? c.toNat) = none :=
    List.findSome?_eq_none_iff.2 fun r hr =>
      CaseRun.lowered?_of_lt (Nat.lt_of_lt_of_le h (hfirst r hr))
  have hdotted : c ≠ '\u0130' := by
    rintro rfl
    revert h
    decide
  have hone : ∀ n < 128, (CaseRun.lowered? ⟨65, 90, 1, 32⟩ n).elim [Char.ofNat n]
      (fun m => [Char.ofNat m]) = [(Char.ofNat n).toLower] := by
    decide +kernel
  have hc := hone c.toNat h
  rw [Char.ofNat_toNat] at hc
  rw [lowerChar, if_neg hdotted, heq, List.findSome?_cons, hruns, ← hc]
  cases CaseRun.lowered? ⟨65, 90, 1, 32⟩ c.toNat <;> rfl

theorem lowerChar_ne_nil (c : Char) : lowerChar c ≠ [] := by
  unfold lowerChar
  split
  · exact List.cons_ne_nil _ _
  · split <;> exact List.cons_ne_nil _ _

theorem not_isPlain_of_mem_lowerChar (h : 128 ≤ c.toNat) (hd : d ∈ lowerChar c) :
    ¬IsPlain d := by
  rintro ⟨hlower, hi, hk⟩
  have hlt := toNat_lt_of_isLower hlower
  unfold lowerChar at hd
  split at hd
  · simp only [List.mem_cons, List.not_mem_nil, or_false] at hd
    rcases hd with rfl | rfl
    · exact hi rfl
    · revert hlower
      decide
  · split at hd
    · next m hm =>
      obtain ⟨r, hr, hm⟩ := List.exists_of_findSome?_eq_some hm
      obtain ⟨hfirst, hlast, rfl⟩ := CaseRun.bounds_of_lowered? hm
      rw [List.mem_singleton] at hd
      rcases lowerRuns_shift r hr with hascii | hbeyond | ⟨hkelvin, hone⟩
      · omega
      · rw [hd] at hlower
        exact not_isLower_ofNat (by omega) hlower
      · have hm : (c.toNat + r.shift).toNat = 107 := by omega
        rw [hm] at hd
        exact hk hd
    · rw [List.mem_singleton] at hd
      subst hd
      omega

/-! ## Words -/

/-- What a text is lowered to begins with what its first character is lowered to: the character
itself in lower case, or else no character of a plain word. -/
theorem exists_lowerAfter_cons (before : List Char) (c : Char) (cs : List Char) :
    ∃ here, lowerAfter before (c :: cs) = here ++ lowerAfter (c :: before) cs ∧
      (c.toNat < 128 → here = [c.toLower]) ∧ (128 ≤ c.toNat → ∃ d ∈ here, ¬IsPlain d) := by
  by_cases hsigma : c = 'Σ'
  · subst hsigma
    refine ⟨_, by rw [lowerAfter, if_pos rfl], fun h => absurd h (by decide), fun _ => ?_⟩
    refine ⟨_, List.mem_singleton_self _, fun hplain => ?_⟩
    have hlt := toNat_lt_of_isLower hplain.1
    revert hlt
    split <;> decide
  · refine ⟨lowerChar c, by rw [lowerAfter, if_neg hsigma], lowerChar_of_lt, fun h => ?_⟩
    obtain ⟨d, hd⟩ := List.exists_mem_of_ne_nil _ (lowerChar_ne_nil c)
    exact ⟨d, hd, not_isPlain_of_mem_lowerChar h hd⟩

theorem lowerAfter_eq_iff {word : List Char} (hword : ∀ d ∈ word, IsPlain d) :
    ∀ {before cs : List Char}, lowerAfter before cs = word ↔ cs.map Char.toLower = word := by
  intro before cs
  induction cs generalizing before word with
  | nil => exact .rfl
  | cons c cs ih =>
    obtain ⟨here, hhere, hascii, hother⟩ := exists_lowerAfter_cons before c cs
    rw [hhere, List.map_cons]
    by_cases hc : c.toNat < 128
    · rw [hascii hc]
      cases word with
      | nil => simp
      | cons d word =>
        simp [ih (List.forall_mem_cons.1 hword).2]
    · have hc : 128 ≤ c.toNat := Nat.le_of_not_lt hc
      constructor
      · rintro rfl
        obtain ⟨d, hd, hplain⟩ := hother hc
        exact absurd (hword d (List.mem_append_left _ hd)) hplain
      · rintro rfl
        have hlt := toNat_lt_of_isLower_toLower (hword _ List.mem_cons_self).1
        exact absurd hlt (Nat.not_lt_of_le hc)

/-- A text is lowered to a plain word just if it is the word up to the case of ASCII letters. -/
theorem lower_eq_iff {cs word : List Char} (hword : ∀ d ∈ word, IsPlain d) :
    lower cs = word ↔ cs.map Char.toLower = word :=
  lowerAfter_eq_iff hword

/-! ## White space around a word -/

theorem not_isBlank_of_isLower_toLower (h : c.toLower.isLower = true) : isBlank c = false := by
  have hall : ∀ n < 128, (Char.ofNat n).toLower.isLower = true →
      isBlank (Char.ofNat n) = false := by
    decide
  have hone := hall c.toNat (toNat_lt_of_isLower_toLower h)
  rw [Char.ofNat_toNat] at hone
  exact hone h

theorem exists_trimFront (cs : List Char) : ∃ front, cs = front ++ trimFront cs ∧
    ∀ c ∈ front, isBlank c = true :=
  ⟨cs.takeWhile isBlank, List.takeWhile_append_dropWhile.symm, fun _ hc =>
    List.all_eq_true.1 List.all_takeWhile _ hc⟩

/-- Trimming takes white space away at both ends. -/
theorem exists_trim (cs : List Char) : ∃ front back, cs = front ++ trim cs ++ back ∧
    (∀ c ∈ front, isBlank c = true) ∧ ∀ c ∈ back, isBlank c = true := by
  obtain ⟨front, hcs, hfront⟩ := exists_trimFront cs
  obtain ⟨back, hrest, hback⟩ := exists_trimFront (trimFront cs).reverse
  refine ⟨front, back.reverse, ?_, hfront, fun c hc => hback c (List.mem_reverse.1 hc)⟩
  have hrest : trimFront cs = trim cs ++ back.reverse := by
    rw [← List.reverse_inj, hrest]
    simp [trim]
  rw [List.append_assoc, ← hrest]
  exact hcs

theorem trimFront_append {front core : List Char} (hfront : ∀ c ∈ front, isBlank c = true)
    (hcore : ∀ c ∈ core.head?, isBlank c = false) : trimFront (front ++ core) = core := by
  rw [trimFront, List.dropWhile_append_of_pos hfront]
  cases core with
  | nil => rfl
  | cons c cs => rw [List.dropWhile_cons_of_neg (by simp [hcore c rfl])]

theorem trim_append {front core back : List Char} (hfront : ∀ c ∈ front, isBlank c = true)
    (hcore : ∀ c ∈ core, isBlank c = false) (hback : ∀ c ∈ back, isBlank c = true) :
    trim (front ++ core ++ back) = core := by
  cases core with
  | nil =>
    have hall : trimFront (front ++ [] ++ back) = [] := by
      rw [List.append_nil, ← List.append_nil (front ++ back)]
      exact trimFront_append (List.forall_mem_append.2 ⟨hfront, hback⟩) nofun
    rw [trim, hall]
    rfl
  | cons c cs =>
    have hfirst : trimFront (front ++ c :: cs ++ back) = c :: cs ++ back := by
      rw [List.append_assoc]
      refine trimFront_append hfront fun d hd => ?_
      cases hd
      exact hcore c List.mem_cons_self
    have hlast : trimFront (back.reverse ++ (c :: cs).reverse) = (c :: cs).reverse :=
      trimFront_append (fun d hd => hback d (List.mem_reverse.1 hd))
        fun d hd => hcore d (List.mem_reverse.1 (List.mem_of_mem_head? hd))
    rw [trim, hfirst, List.reverse_append, hlast, List.reverse_reverse]

end StagedRecords.Text
