/-!
# Sorted collections

A finite set or map is kept as the list of its entries in strictly increasing key order, so equal
collections are equal values. Inserting an entry replaces the one with the same key.
-/

namespace StagedRecords

open Std (TransOrd TransCmp OrientedCmp)

/-- Entries in strictly increasing order of their keys. -/
structure Sorted {β κ : Type} [Ord κ] (key : β → κ) where
  toList : List β
  increasing : toList.Pairwise fun a b => compare (key a) (key b) = .lt

namespace Sorted

variable {β κ : Type} [Ord κ] {key : β → κ}

theorem ext {s t : Sorted key} (h : s.toList = t.toList) : s = t := by
  cases s; cases t; cases h; rfl

instance [DecidableEq β] : DecidableEq (Sorted key) := fun s t =>
  if h : s.toList = t.toList then .isTrue (ext h) else .isFalse fun e => h (e ▸ rfl)

/-- Puts `b` at its place, over an entry that has the same key. -/
def place (key : β → κ) (b : β) : List β → List β
  | [] => [b]
  | c :: cs =>
    match compare (key b) (key c) with
    | .lt => b :: c :: cs
    | .eq => b :: cs
    | .gt => c :: place key b cs

theorem mem_place {b c : β} {l : List β} (h : c ∈ place key b l) : c = b ∨ c ∈ l := by
  induction l with
  | nil => simpa [place] using h
  | cons d ds ih =>
    unfold place at h
    split at h
    · simpa using h
    · simp only [List.mem_cons] at h ⊢
      exact h.imp_right Or.inr
    · simp only [List.mem_cons] at h ⊢
      rcases h with rfl | h
      · exact .inr (.inl rfl)
      · exact (ih h).imp_right Or.inr

theorem place_increasing [TransOrd κ] (b : β) {l : List β}
    (h : l.Pairwise fun a b => compare (key a) (key b) = .lt) :
    (place key b l).Pairwise fun a b => compare (key a) (key b) = .lt := by
  induction l with
  | nil => simp [place]
  | cons c cs ih =>
    have ⟨hc, hcs⟩ := List.pairwise_cons.1 h
    unfold place
    split
    next hlt =>
      refine List.pairwise_cons.2 ⟨fun d hd => ?_, h⟩
      rcases List.mem_cons.1 hd with rfl | hd
      · exact hlt
      · exact TransCmp.lt_trans hlt (hc d hd)
    next heq =>
      refine List.pairwise_cons.2 ⟨fun d hd => ?_, hcs⟩
      exact (TransCmp.congr_left heq).trans (hc d hd)
    next hgt =>
      refine List.pairwise_cons.2 ⟨fun d hd => ?_, ih hcs⟩
      rcases mem_place hd with rfl | hd
      · exact OrientedCmp.lt_of_gt hgt
      · exact hc d hd

/-- The collection without entries. -/
def empty : Sorted key := ⟨[], .nil⟩

variable [TransOrd κ]

/-- Adds `b`, over an entry that has the same key. -/
def insert (s : Sorted key) (b : β) : Sorted key :=
  ⟨place key b s.toList, place_increasing b s.increasing⟩

/-- Inserts the entries in their order, so that the last one with a key wins. -/
def ofList (l : List β) : Sorted key := l.foldl insert empty

/-- How many entries there are. -/
def size (s : Sorted key) : Nat := s.toList.length

end Sorted

/-- A finite set. -/
abbrev OrderedSet (α : Type) [Ord α] := Sorted (id : α → α)

/-- A finite map. -/
abbrev Table (κ α : Type) [Ord κ] := Sorted (Prod.fst : κ × α → κ)

/-- Replaces each value. -/
def Table.map {κ α β : Type} [Ord κ] (f : α → β) (t : Table κ α) : Table κ β where
  toList := t.toList.map fun e => (e.1, f e.2)
  increasing := List.pairwise_map.2 t.increasing

/-- A finite map from strings. -/
abbrev Dict (α : Type) := Table String α

/-- The value under `k`. -/
def Dict.get? {α : Type} (d : Dict α) (k : String) : Option α := d.toList.lookup k

end StagedRecords
