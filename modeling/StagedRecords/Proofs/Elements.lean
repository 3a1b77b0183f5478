import Mathlib.Data.List.Forall2
import StagedRecords.Codec.Containers
import StagedRecords.Proofs.Runs

/-!
# Collections read element by element

A run over a list ends in what its elements end in, in their order
(`Traced.result_each_eq_ok_iff`), or as the first element that fails
(`Traced.result_each_of_error`). Arrays and objects are read so.
-/

namespace StagedRecords

namespace Traced

variable {ε : Type} {α : Type u} {β : Type v} {f : β → Traced ε α}

theorem result_each_eq_ok_iff : ∀ {l : List β} {as : List α}, (each f l).result = .ok as ↔
    List.Forall₂ (fun b a => (f b).result = .ok a) l as
  | [], as => by simp [each, Traced.pure, eq_comm]
  | b :: bs, as => by
    simp only [each, result_bind_eq_ok_iff, result_map_eq_ok_iff, result_each_eq_ok_iff,
      List.forall₂_cons_left_iff]
    constructor
    · rintro ⟨a, ha, as', has, rfl⟩
      exact ⟨a, as', ha, has, rfl⟩
    · rintro ⟨a, as', ha, has, rfl⟩
      exact ⟨a, ha, as', has, rfl⟩

/-- What comes after the first element that fails does not count. -/
theorem result_each_of_error {b : β} {xs ys : List β} {e : ε}
    (hxs : ∀ x ∈ xs, ∃ a, (f x).result = .ok a) (hb : (f b).result = .error e) :
    (each f (xs ++ b :: ys)).result = .error e := by
  induction xs with
  | nil => simp [each, result_bind_of_error hb]
  | cons x xs ih =>
    obtain ⟨a, ha⟩ := hxs x List.mem_cons_self
    have hrest := ih fun y hy => hxs y (List.mem_cons_of_mem x hy)
    simp [each, result_bind_of_ok ha, hrest, Except.map]

end Traced

/-- What a list is read as has an element for each of the list's. -/
theorem exists_mem_of_forall₂ {α : Type u} {β : Type v} {R : β → α → Prop} :
    ∀ {l : List β} {as : List α}, List.Forall₂ R l as → ∀ a ∈ as, ∃ b ∈ l, R b a
  | _, _, .nil, a, h => by cases h
  | b :: _, _, .cons hb hl, a, h => by
    rcases List.mem_cons.1 h with rfl | h
    · exact ⟨b, List.mem_cons_self, hb⟩
    · obtain ⟨b', hb', hR⟩ := exists_mem_of_forall₂ hl a h
      exact ⟨b', List.mem_cons_of_mem b hb', hR⟩

theorem exists_forall₂ {α : Type u} {β : Type v} {R : β → α → Prop} {l : List β}
    (h : ∀ b ∈ l, ∃ a, R b a) : ∃ as, List.Forall₂ R l as := by
  induction l with
  | nil => exact ⟨[], .nil⟩
  | cons b bs ih =>
    obtain ⟨⟨a, ha⟩, hbs⟩ := List.forall_mem_cons.1 h
    obtain ⟨as, has⟩ := ih hbs
    exact ⟨a :: as, .cons ha has⟩

namespace Codec

variable {α : Type} {decode : Json → Decoded α} {j : Json}

theorem elements_eq_ok_iff {as : List α} : (elements decode j).result = .ok as ↔
    ∃ js, j = .array js ∧ List.Forall₂ (fun j a => (decode j).result = .ok a) js as := by
  cases j <;> simp [elements, mismatch, Traced.fail, Traced.result_each_eq_ok_iff]

theorem members_eq_ok_iff {es : List (String × α)} : (members decode j).result = .ok es ↔
    ∃ ms, j = .object ms ∧
      List.Forall₂ (fun m e => (decode m.2).result = .ok e.2 ∧ m.1 = e.1) ms es := by
  have hone : ∀ (m : String × Json) (e : String × α),
      (decode m.2).result.map (fun a => (m.1, a)) = .ok e ↔
        (decode m.2).result = .ok e.2 ∧ m.1 = e.1 := by
    rintro m ⟨k, a⟩
    rcases (decode m.2).result with f | b <;> simp [Except.map, and_comm]
  cases j <;> simp [members, mismatch, Traced.fail, Traced.result_each_eq_ok_iff, hone]

end Codec

end StagedRecords
