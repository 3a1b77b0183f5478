import StagedRecords.Document
import StagedRecords.Proofs.Reading
import StagedRecords.Proofs.Runs

/-!
# Records and whole texts

Reading a record takes the object at the front of a text before it looks at what comes after. It
succeeds just when the whole text is one object that the record can be built from
(`ofText_eq_ok_iff`).
-/

namespace StagedRecords

namespace Json

/-- What a text without containers at its front is. -/
def IsPlain : Json → Prop
  | .array _ | .object _ => False
  | _ => True

namespace Lexeme

theorem all_of_first? {cs rest : List Char} {l : Lexeme} (h : first? cs = some (l, rest)) :
    all cs = l :: all rest := by
  rw [all]
  split
  · next hn => rw [hn] at h; cases h
  · next l' rest' hs =>
    rw [hs] at h
    cases h
    rfl

theorem all_of_first?_none {cs : List Char} (h : first? cs = none) : all cs = [] := by
  rw [all]
  split
  · rfl
  · next hs => rw [hs] at h; cases h

end Lexeme

theorem Numeral.isPlain_value {n : Numeral} {j : Json} (h : n.value = some j) : j.IsPlain := by
  simp only [Numeral.value] at h
  split at h
  · cases h
    trivial
  · split at h
    · cases h
      trivial
    · obtain ⟨x, -, rfl⟩ := Option.map_eq_some_iff.1 h
      trivial

theorem Lexeme.isPlain_scan {c : Char} {cs rest : List Char} {j : Json}
    (h : Lexeme.scan c cs = (.plain j, rest)) : j.IsPlain := by
  unfold Lexeme.scan at h
  split at h
  · cases h
  · cases h
  · cases h
  · cases h
  · cases h
  · cases h
  · split at h <;> cases h
  · cases h
    trivial
  · cases h
    trivial
  · cases h
    trivial
  · split at h
    · split at h
      · next hv =>
        cases h
        exact Numeral.isPlain_value hv
      · cases h
    · cases h

theorem Lexeme.isPlain_first? {cs rest : List Char} {j : Json}
    (h : Lexeme.first? cs = some (.plain j, rest)) : j.IsPlain := by
  unfold Lexeme.first? at h
  split at h
  · cases h
  · exact Lexeme.isPlain_scan (Option.some.inj h)

/-- What reads as an object starts as one. -/
theorem first?_of_read {depth : Nat} {cs : List Char} {ms : List (String × Json)}
    {ls : List Lexeme} (h : read depth (Lexeme.all cs) = some (.object ms, ls)) :
    ∃ rest, Lexeme.first? cs = some (.beginObject, rest) := by
  rcases hf : Lexeme.first? cs with _ | ⟨l, rest⟩
  · rw [Lexeme.all_of_first?_none hf] at h
    cases h
  · rw [Lexeme.all_of_first? hf] at h
    cases l with
    | beginObject => exact ⟨rest, rfl⟩
    | beginArray =>
      obtain ⟨js, hjs⟩ := read_beginArray h
      cases hjs
    | plain j =>
      have hj : Json.IsPlain j := Lexeme.isPlain_first? hf
      cases h
      exact hj.elim
    | _ => cases h

theorem exists_object_of_read {depth : Nat} {cs : List Char} {ms : List (String × Json)}
    {ls : List Lexeme} (h : read depth (Lexeme.all cs) = some (.object ms, ls)) :
    ∃ o : Object, o.toList = ms := by
  obtain ⟨rest, hf⟩ := first?_of_read h
  rw [Lexeme.all_of_first? hf] at h
  obtain ⟨o, ho⟩ := read_beginObject h
  exact ⟨o, (Json.object.inj ho).symm⟩

theorem parse_eq_some_iff {text : String} {j : Json} :
    parse text = some j ↔ read maxDepth (Lexeme.all text.toList) = some (j, []) := by
  unfold parse parseWithin
  constructor
  · intro h
    split at h
    · next hread =>
      cases h
      exact hread
    · cases h
  · intro h
    rw [h]

end Json

namespace Document

open Json (Lexeme)

theorem front_eq_ok_iff {cs : List Char} {ms : List (String × Json)} {ls : List Lexeme} :
    front cs = .ok (ms, ls) ↔
      Json.read Json.maxDepth (Lexeme.all cs) = some (.object ms, ls) := by
  constructor
  · intro h
    unfold front at h
    split at h
    · split at h
      · next hread =>
        cases h
        exact hread
      · cases h
    all_goals cases h
  · intro h
    obtain ⟨rest, hf⟩ := Json.first?_of_read h
    simp only [front, hf, h]

end Document

namespace RecordShape

variable {V : Type} {s : RecordShape V} {fresh : Nat → Uuid} {text : String} {v : V}

/-- A text is read as a value just when it is the text of an object that makes the value. -/
theorem ofText_eq_ok_iff :
    (s.ofText fresh text).result = .ok v ↔
      ∃ o : Object, Json.parse text = some (.object o.toList) ∧
        (s.toShape.ofObject fresh o).result = .ok v := by
  constructor
  · intro h
    unfold ofText at h
    split at h
    · cases h
    · next ms ls hfront =>
      have hread := Document.front_eq_ok_iff.1 hfront
      obtain ⟨o, rfl⟩ := Json.exists_object_of_read hread
      obtain ⟨w, hw, hend⟩ := Traced.result_bind_eq_ok_iff.1 h
      cases ls with
      | nil =>
        cases hend
        exact ⟨o, Json.parse_eq_some_iff.2 hread, Traced.result_mapError_eq_ok_iff.1 hw⟩
      | cons l ls => cases hend
  · rintro ⟨o, hparse, ho⟩
    have hfront := Document.front_eq_ok_iff.2 (Json.parse_eq_some_iff.1 hparse)
    simp only [ofText, hfront]
    exact Traced.result_bind_eq_ok_iff.2 ⟨v, Traced.result_mapError_eq_ok_iff.2 ho, rfl⟩

theorem ofText_of_error {o : Object} {e : Refusal}
    (hparse : Json.parse text = some (.object o.toList))
    (h : (s.toShape.ofObject fresh o).result = .error e) :
    (s.ofText fresh text).result = .error (.data (.refused e) none) := by
  have hfront := Document.front_eq_ok_iff.2 (Json.parse_eq_some_iff.1 hparse)
  simp only [ofText, hfront]
  refine Traced.result_bind_of_error ?_
  show ((s.toShape.ofObject fresh o).mapError _).result = _
  rw [Traced.result_mapError, h]
  rfl

end RecordShape

end StagedRecords
