import StagedRecords.Json.NullScan
import StagedRecords.Proofs.Sorted

/-!
# Values in key order

Bringing the members of all objects into key order keeps what kind of value it is, and keeps what
the search for nulls finds below an array. `Fits` are the values whose text reads back: no
floating point number, whole numbers of 64 bits, and containers that are not nested too deep.
-/

namespace StagedRecords.Json

theorem normalElements_eq_map (js : List Json) : normalElements js = js.map normal := by
  induction js with
  | nil => rfl
  | cons j js ih => rw [normalElements, ih, List.map_cons]

theorem normalMembers_eq_map (ms : List (String × Json)) :
    normalMembers ms = ms.map fun m => (m.1, m.2.normal) := by
  induction ms with
  | nil => rfl
  | cons m ms ih =>
    obtain ⟨k, j⟩ := m
    rw [normalMembers, ih, List.map_cons]

@[simp] theorem normal_array (js : List Json) :
    (array js).normal = array (js.map normal) := by
  rw [normal, normalElements_eq_map]

theorem normal_object (ms : List (String × Json)) :
    (object ms).normal = ofMembers (ms.map fun m => (m.1, m.2.normal)) := by
  rw [normal, normalMembers_eq_map]

/-- In key order, an object is an `Object`. -/
theorem exists_object_of_normal {j : Json} {ms : List (String × Json)}
    (h : j.normal = object ms) : ∃ o : Object, o.toList = ms := by
  cases j with
  | object ms' =>
    rw [normal_object] at h
    exact ⟨_, Json.object.inj h⟩
  | _ => simp [normal] at h

theorem isNull_normal (j : Json) : j.normal.isNull = j.isNull := by
  cases j <;> simp [normal, isNull, ofMembers]

mutual

theorem isOrHoldsNull_normal : ∀ j : Json, j.normal.isOrHoldsNull = j.isOrHoldsNull
  | .array js => by
    rw [normal, isOrHoldsNull, isOrHoldsNull, anyIsOrHoldsNull_normal js]
  | .null | .bool _ | .int _ | .float _ | .string _ => by simp [normal]
  | .object _ => by simp [normal, ofMembers, isOrHoldsNull]

theorem anyIsOrHoldsNull_normal :
    ∀ js : List Json, anyIsOrHoldsNull (normalElements js) = anyIsOrHoldsNull js
  | [] => rfl
  | j :: js => by
    rw [normalElements, anyIsOrHoldsNull, anyIsOrHoldsNull, isOrHoldsNull_normal j,
      anyIsOrHoldsNull_normal js]

end

/-! ## Values whose text reads back -/

mutual

/-- No floating point number, whole numbers of 64 bits, containers nested at most so deep. -/
def Fits : Nat → Json → Prop
  | _, .null | _, .bool _ | _, .string _ => True
  | _, .int n => Int64.minValue.toInt ≤ n ∧ n < UInt64.size
  | _, .float _ => False
  | 0, .array _ | 0, .object _ => False
  | depth + 1, .array js => ElementsFit depth js
  | depth + 1, .object ms => MembersFit depth ms

/-- Every element fits. -/
def ElementsFit : Nat → List Json → Prop
  | _, [] => True
  | depth, j :: js => Fits depth j ∧ ElementsFit depth js

/-- The value of every member fits. -/
def MembersFit : Nat → List (String × Json) → Prop
  | _, [] => True
  | depth, (_, j) :: ms => Fits depth j ∧ MembersFit depth ms

end

theorem elementsFit_iff {depth : Nat} {js : List Json} :
    ElementsFit depth js ↔ ∀ j ∈ js, Fits depth j := by
  induction js with
  | nil => simp [ElementsFit]
  | cons j js ih => simp [ElementsFit, ih]

theorem membersFit_iff {depth : Nat} {ms : List (String × Json)} :
    MembersFit depth ms ↔ ∀ m ∈ ms, Fits depth m.2 := by
  induction ms with
  | nil => simp [MembersFit]
  | cons m ms ih =>
    obtain ⟨k, j⟩ := m
    simp [MembersFit, ih]

mutual

/-- What fits, fits where more nesting is allowed. -/
theorem Fits.mono : ∀ {j : Json} {m n : Nat}, Fits m j → m ≤ n → Fits n j
  | .null, m, n, _, _ | .bool _, m, n, _, _ | .string _, m, n, _, _ => by
    cases n <;> trivial
  | .int i, m, n, h, _ => by
    cases m <;> cases n <;> exact h
  | .float _, m, n, h, _ => by
    cases m <;> exact h.elim
  | .array js, m, n, h, hmn => by
    obtain _ | m := m
    · exact h.elim
    obtain _ | n := n
    · omega
    exact ElementsFit.mono h (Nat.le_of_succ_le_succ hmn)
  | .object ms, m, n, h, hmn => by
    obtain _ | m := m
    · exact h.elim
    obtain _ | n := n
    · omega
    exact MembersFit.mono h (Nat.le_of_succ_le_succ hmn)

theorem ElementsFit.mono : ∀ {js : List Json} {m n : Nat},
    ElementsFit m js → m ≤ n → ElementsFit n js
  | [], _, _, _, _ => trivial
  | _ :: _, _, _, h, hmn => ⟨h.1.mono hmn, h.2.mono hmn⟩

theorem MembersFit.mono : ∀ {ms : List (String × Json)} {m n : Nat},
    MembersFit m ms → m ≤ n → MembersFit n ms
  | [], _, _, _, _ => trivial
  | _ :: _, _, _, h, hmn => ⟨h.1.mono hmn, h.2.mono hmn⟩

end

end StagedRecords.Json
