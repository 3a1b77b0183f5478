import StagedRecords.Codec.Containers
import StagedRecords.Refusal

/-!
# Collections freed of nulls

A collection whose elements may be null becomes one whose elements may not, unless one of them is
null. Maps keep their keys.
-/

namespace StagedRecords

open Std (TransOrd)

/-- A collection of elements that may be null, and its form without them. -/
class NullFree (γ : Type) (δ : outParam Type) where
  /-- The same collection with its elements unwrapped; nothing if one of them is null. -/
  free? : γ → Option δ

namespace NullFree

variable {κ α : Type}

/-- The elements of a list unwrapped, unless one is null. -/
def unwrap? : List (Option α) → Option (List α)
  | [] => some []
  | none :: _ => none
  | some a :: as => (unwrap? as).map (a :: ·)

/-- The values of a list of entries unwrapped, unless one is null. -/
def unwrapValues? : List (κ × Option α) → Option (List (κ × α))
  | [] => some []
  | (_, none) :: _ => none
  | (k, some a) :: es => (unwrapValues? es).map ((k, a) :: ·)

instance : NullFree (List (Option α)) (List α) where
  free? := unwrap?

instance : NullFree (Array (Option α)) (Array α) where
  free? as := (unwrap? as.toList).map List.toArray

instance [Ord α] [TransOrd α] : NullFree (OrderedSet (Option α)) (OrderedSet α) where
  free? s := (unwrap? s.toList).map Sorted.ofList

instance [Ord α] [TransOrd α] : NullFree (LooseSet (Option α)) (LooseSet α) where
  free? s := (unwrap? s.elements.toList).map fun as => ⟨Sorted.ofList as⟩

instance [Ord κ] [TransOrd κ] : NullFree (Table κ (Option α)) (Table κ α) where
  free? t := (unwrapValues? t.toList).map Sorted.ofList

instance [Ord κ] [TransOrd κ] : NullFree (LooseTable κ (Option α)) (LooseTable κ α) where
  free? t := (unwrapValues? t.entries.toList).map fun es => ⟨Sorted.ofList es⟩

/-- The collection without nulls for a strict field, or a refusal if it holds one. -/
def reject {γ δ : Type} [NullFree γ δ] (builder field : String) (c : γ) : Except Refusal δ :=
  match free? c with
  | some d => .ok d
  | none => .error ⟨builder, field, .nullElement⟩

end NullFree

end StagedRecords
