import Mathlib.Data.List.Perm.Basic
import StagedRecords.NullFree
import StagedRecords.Proofs.Sorted

/-!
# Wrapped collections

Freeing a collection of nulls undoes wrapping its elements, and fails on whatever does not come from
wrapping (`freeing_inverts_wrapping`). Every kind of collection is seen as the list of its entries,
which are elements, or values with their keys. Freeing unwraps this list, so what a kind owes is
that a list of wrapped or unwrapped entries makes a collection of just these (`UnwrapsInPlace`): in
sets and maps, none takes the place of another.
-/

namespace StagedRecords

open Std (TransOrd)

namespace NullFree

variable {κ α β γ δ ε ε' : Type}

/-! ## Entries -/

/-- An entry whose value may be null, and is not. -/
def wrapValue (e : κ × α) : κ × Option α := (e.1, some e.2)

theorem unwrap?_eq_some_iff : ∀ {l : List (Option α)} {as : List α},
    unwrap? l = some as ↔ l = as.map some
  | [], as => by cases as <;> simp [unwrap?]
  | none :: l, as => by cases as <;> simp [unwrap?]
  | some a :: l, as => by cases as <;> simp [unwrap?, unwrap?_eq_some_iff, and_comm]

theorem unwrap?_eq_none_iff {l : List (Option α)} : unwrap? l = none ↔ none ∈ l := by
  induction l with
  | nil => simp [unwrap?]
  | cons x l ih => cases x <;> simp [unwrap?, ih]

theorem unwrapValues?_eq_some_iff : ∀ {l : List (κ × Option α)} {es : List (κ × α)},
    unwrapValues? l = some es ↔ l = es.map wrapValue
  | [], es => by cases es <;> simp [unwrapValues?]
  | (k, none) :: l, es => by cases es <;> simp [unwrapValues?, wrapValue]
  | (k, some a) :: l, es => by
    rcases es with _ | ⟨⟨k', b⟩, es⟩ <;>
      simp [unwrapValues?, unwrapValues?_eq_some_iff, wrapValue, and_comm, and_assoc]

theorem unwrapValues?_eq_none_iff {l : List (κ × Option α)} :
    unwrapValues? l = none ↔ ∃ k, (k, none) ∈ l := by
  induction l with
  | nil => simp [unwrapValues?]
  | cons e l ih =>
    obtain ⟨k, _ | a⟩ := e
    · simp [unwrapValues?]
    · simp [unwrapValues?, ih]

/-- Entries that may be null, beside the same entries without. -/
class NullableEntry (ε : Type) (ε' : outParam Type) where
  /-- The entry as one that could have been null. -/
  wrap : ε' → ε
  IsNull : ε → Prop
  unwrapAll? : List ε → Option (List ε')
  unwrapAll?_eq_some_iff : ∀ {l : List ε} {l' : List ε'}, unwrapAll? l = some l' ↔ l = l'.map wrap
  unwrapAll?_eq_none_iff : ∀ {l : List ε}, unwrapAll? l = none ↔ ∃ e ∈ l, IsNull e

instance : NullableEntry (Option α) α where
  wrap := some
  IsNull x := x = none
  unwrapAll? := unwrap?
  unwrapAll?_eq_some_iff := unwrap?_eq_some_iff
  unwrapAll?_eq_none_iff := by simp [unwrap?_eq_none_iff]

instance : NullableEntry (κ × Option α) (κ × α) where
  wrap := wrapValue
  IsNull e := e.2 = none
  unwrapAll? := unwrapValues?
  unwrapAll?_eq_some_iff := unwrapValues?_eq_some_iff
  unwrapAll?_eq_none_iff := by simp [unwrapValues?_eq_none_iff]

open NullableEntry

theorem wrap_injective [NullableEntry ε ε'] : Function.Injective (wrap : ε' → ε) := by
  intro a b h
  have hb : unwrapAll? [(wrap a : ε)] = some [b] := unwrapAll?_eq_some_iff.2 (by rw [h]; rfl)
  have ha : unwrapAll? [(wrap a : ε)] = some [a] := unwrapAll?_eq_some_iff.2 rfl
  simpa using ha.symm.trans hb

/-! ## Collections -/

/-- A collection as the list of its entries, and the collection that a list of entries makes. -/
class Collection (γ : Type) (ε : outParam Type) where
  entries : γ → List ε
  ofEntries : List ε → γ
  ofEntries_entries : ∀ c : γ, ofEntries (entries c) = c

instance : Collection (List α) α where
  entries := id
  ofEntries := id
  ofEntries_entries _ := rfl

instance : Collection (Array α) α where
  entries := Array.toList
  ofEntries := List.toArray
  ofEntries_entries _ := rfl

instance [Ord κ] [TransOrd κ] {key : β → κ} : Collection (Sorted key) β where
  entries := Sorted.toList
  ofEntries := Sorted.ofList
  ofEntries_entries := Sorted.ofList_toList

instance [Ord α] [TransOrd α] : Collection (LooseSet α) α where
  entries s := s.elements.toList
  ofEntries l := ⟨Sorted.ofList l⟩
  ofEntries_entries s := congrArg LooseSet.mk s.elements.ofList_toList

instance [Ord κ] [TransOrd κ] : Collection (LooseTable κ α) (κ × α) where
  entries t := t.entries.toList
  ofEntries l := ⟨Sorted.ofList l⟩
  ofEntries_entries t := congrArg LooseTable.mk t.entries.ofList_toList

open Collection

section Laws

variable [Collection γ ε] [Collection δ ε'] [NullableEntry ε ε']

/-- The collection with each of its entries wrapped. -/
def wrapped (d : δ) : γ := ofEntries ((entries d).map wrap)

/-- One of the entries is null, wherever it stands. -/
def HoldsNull (c : γ) : Prop := ∃ e ∈ entries c, IsNull e

variable [NullFree γ δ]

variable (γ δ) in
/-- A collection is freed of nulls just when it comes from wrapping one without them, which it then
gives back, entry by entry; it is refused just when it holds a null. -/
structure InvertsWrapping : Prop where
  free?_eq_some_iff : ∀ (c : γ) (d : δ), free? c = some d ↔ c = wrapped d
  entries_wrapped : ∀ d : δ, entries (wrapped d : γ) = (entries d).map wrap
  length_entries : ∀ (c : γ) (d : δ), free? c = some d → (entries d).length = (entries c).length
  free?_eq_none_iff : ∀ c : γ, free? c = none ↔ HoldsNull c
  free?_empty : ∀ c : γ, entries c = [] → ∃ d : δ, free? c = some d ∧ entries d = []
  reject_eq_ok_iff : ∀ (builder field : String) (c : γ) (d : δ),
    reject builder field c = .ok d ↔ c = wrapped d
  reject_eq_error_iff : ∀ (builder field : String) (c : γ) (r : Refusal),
    reject builder field c = .error r ↔ HoldsNull c ∧ r = ⟨builder, field, .nullElement⟩

variable (γ δ) in
/-- The entries may be visited in any order. -/
def FreedInAnyOrder : Prop :=
  ∀ (c : γ) (l : List ε), l.Perm (entries c) → free? c = (unwrapAll? l).map (ofEntries : _ → δ)

variable (γ δ) in
/-- The collection is freed of nulls by unwrapping its entries, and neither wrapping nor unwrapping
makes one of them take the place of another. -/
structure UnwrapsInPlace : Prop where
  free?_eq : ∀ c : γ, free? c = (unwrapAll? (entries c)).map (ofEntries : _ → δ)
  entries_wrapped : ∀ d : δ, entries (wrapped d : γ) = (entries d).map wrap
  entries_ofEntries : ∀ {c : γ} {l : List ε'}, entries c = l.map wrap →
    entries (ofEntries l : δ) = l

namespace UnwrapsInPlace

variable (h : UnwrapsInPlace γ δ) {c : γ} {d : δ}

include h

theorem free?_eq_some_iff : free? c = some d ↔ c = wrapped d := by
  rw [h.free?_eq, Option.map_eq_some_iff]
  constructor
  · rintro ⟨l, hl, rfl⟩
    have hc := unwrapAll?_eq_some_iff.1 hl
    rw [wrapped, h.entries_ofEntries hc, ← hc, ofEntries_entries]
  · rintro rfl
    exact ⟨entries d, unwrapAll?_eq_some_iff.2 (h.entries_wrapped d), ofEntries_entries d⟩

theorem free?_eq_none_iff : free? c = none ↔ HoldsNull c := by
  rw [h.free?_eq, Option.map_eq_none_iff, unwrapAll?_eq_none_iff, HoldsNull]

theorem entries_eq (hd : free? c = some d) : entries c = (entries d).map wrap := by
  rw [h.free?_eq_some_iff.1 hd, h.entries_wrapped]

theorem free?_of_entries_eq_nil (hc : entries c = []) :
    ∃ d : δ, free? c = some d ∧ entries d = [] := by
  have hnil : unwrapAll? ([] : List ε) = some [] := unwrapAll?_eq_some_iff.2 rfl
  exact ⟨ofEntries [], by rw [h.free?_eq, hc, hnil]; rfl, h.entries_ofEntries hc⟩

theorem reject_eq_ok_iff {builder field : String} :
    reject builder field c = .ok d ↔ c = wrapped d := by
  rw [← h.free?_eq_some_iff, reject]
  rcases free? c with _ | d' <;> simp

theorem reject_eq_error_iff {builder field : String} {r : Refusal} :
    reject builder field c = .error r ↔ HoldsNull c ∧ r = ⟨builder, field, .nullElement⟩ := by
  rw [← h.free?_eq_none_iff, reject]
  rcases free? c with _ | d <;> simp [eq_comm]

theorem invertsWrapping : InvertsWrapping γ δ where
  free?_eq_some_iff _ _ := h.free?_eq_some_iff
  entries_wrapped := h.entries_wrapped
  length_entries c d hd := by rw [h.entries_eq hd, List.length_map]
  free?_eq_none_iff _ := h.free?_eq_none_iff
  free?_empty _ := h.free?_of_entries_eq_nil
  reject_eq_ok_iff _ _ _ _ := h.reject_eq_ok_iff
  reject_eq_error_iff _ _ _ _ := h.reject_eq_error_iff

/-- Where the order of the entries is lost in the collection without nulls, the order in which they
are visited makes no difference, also to which null ends the visit. -/
theorem freedInAnyOrder (hδ : ∀ {d : δ} {l : List ε'}, l.Perm (entries d) → ofEntries l = d) :
    FreedInAnyOrder γ δ := by
  intro c l hl
  -- both visits end at a null or neither does, since a null in one list is in the other
  have hnone : free? c = none ↔ unwrapAll? l = none := by
    rw [h.free?_eq_none_iff, unwrapAll?_eq_none_iff]
    simp only [HoldsNull, hl.mem_iff]
  rcases hl' : unwrapAll? l with _ | l'
  · exact hnone.2 hl'
  · obtain ⟨d, hd⟩ : ∃ d : δ, free? c = some d :=
      Option.ne_none_iff_exists'.1 (by simp [hnone, hl'])
    rw [h.entries_eq hd, unwrapAll?_eq_some_iff.1 hl', List.map_perm_map_iff wrap_injective] at hl
    rw [hd, Option.map_some, hδ hl]

end UnwrapsInPlace

end Laws

/-! ## Lists, arrays, sets and maps -/

theorem unwrapsInPlace_list : UnwrapsInPlace (List (Option α)) (List α) where
  free?_eq _ := Option.map_id_apply.symm
  entries_wrapped _ := rfl
  entries_ofEntries _ := rfl

theorem unwrapsInPlace_array : UnwrapsInPlace (Array (Option α)) (Array α) where
  free?_eq _ := rfl
  entries_wrapped _ := rfl
  entries_ofEntries _ := rfl

section Sorted

variable {κ' : Type} [Ord κ] [TransOrd κ] [Ord κ'] [TransOrd κ'] [NullableEntry ε ε']
  {key : ε → κ} {key' : ε' → κ'} [NullFree (Sorted key) (Sorted key')]

/-- Wrapping keeps the order of the keys, so that wrapped entries are sorted as the entries are. -/
theorem unwrapsInPlace_sorted
    (hkey : ∀ a b : ε', compare (key (wrap a : ε)) (key (wrap b)) = compare (key' a) (key' b))
    (hfree : ∀ s : Sorted key,
      free? s = (unwrapAll? s.toList).map (Sorted.ofList : _ → Sorted key')) :
    UnwrapsInPlace (Sorted key) (Sorted key') where
  free?_eq := hfree
  entries_wrapped s := by
    show (Sorted.ofList (s.toList.map wrap) : Sorted key).toList = s.toList.map wrap
    rw [Sorted.toList_ofList_map hkey, Sorted.ofList_toList]
  entries_ofEntries {c l} hc := by
    -- `l` need not be sorted so far: that it is shows once its entries are wrapped again
    have hinj : Function.Injective (wrap : ε' → ε) := wrap_injective
    refine List.map_injective_iff.2 hinj ?_
    show (Sorted.ofList l : Sorted key').toList.map wrap = l.map wrap
    rw [← Sorted.toList_ofList_map hkey, ← hc]
    exact congrArg Sorted.toList c.ofList_toList

end Sorted

section Sets

variable [Ord α] [TransOrd α]

theorem unwrapsInPlace_orderedSet : UnwrapsInPlace (OrderedSet (Option α)) (OrderedSet α) :=
  unwrapsInPlace_sorted (fun _ _ => rfl) fun _ => rfl

theorem unwrapsInPlace_looseSet : UnwrapsInPlace (LooseSet (Option α)) (LooseSet α) where
  free?_eq _ := rfl
  entries_wrapped s := unwrapsInPlace_orderedSet.entries_wrapped s.elements
  entries_ofEntries {s _} hs := unwrapsInPlace_orderedSet.entries_ofEntries (c := s.elements) hs

end Sets

section Maps

variable (γ δ) in
/-- Freed of nulls, a map has the keys it had. -/
def KeepsKeys [Collection γ (κ × Option α)] [Collection δ (κ × α)] [NullFree γ δ] : Prop :=
  ∀ (c : γ) (d : δ), free? c = some d → (entries d).map Prod.fst = (entries c).map Prod.fst

theorem UnwrapsInPlace.keepsKeys [Collection γ (κ × Option α)] [Collection δ (κ × α)]
    [NullFree γ δ] (h : UnwrapsInPlace γ δ) : KeepsKeys γ δ := by
  intro c d hd
  rw [h.entries_eq hd, List.map_map]
  rfl

variable [Ord κ] [TransOrd κ]

theorem unwrapsInPlace_table : UnwrapsInPlace (Table κ (Option α)) (Table κ α) :=
  unwrapsInPlace_sorted (fun _ _ => rfl) fun _ => rfl

theorem unwrapsInPlace_looseTable : UnwrapsInPlace (LooseTable κ (Option α)) (LooseTable κ α) where
  free?_eq _ := rfl
  entries_wrapped t := unwrapsInPlace_table.entries_wrapped t.entries
  entries_ofEntries {t _} ht := unwrapsInPlace_table.entries_ofEntries (c := t.entries) ht

end Maps

/-- Lists, arrays, sets and maps are freed of nulls just when they come from wrapping a collection
without nulls, and this collection is what they give. The order on elements and keys may be any, as
it only fixes how a set or map is kept: where the written order is left open, no order of visiting
the entries gives another answer. -/
theorem freeing_inverts_wrapping :
    (∀ α : Type,
      InvertsWrapping (List (Option α)) (List α) ∧
      InvertsWrapping (Array (Option α)) (Array α)) ∧
    (∀ (α : Type) [Ord α] [TransOrd α],
      InvertsWrapping (OrderedSet (Option α)) (OrderedSet α) ∧
      InvertsWrapping (LooseSet (Option α)) (LooseSet α) ∧
      FreedInAnyOrder (LooseSet (Option α)) (LooseSet α)) ∧
    ∀ (κ α : Type) [Ord κ] [TransOrd κ],
      (InvertsWrapping (Table κ (Option α)) (Table κ α) ∧
        KeepsKeys (Table κ (Option α)) (Table κ α)) ∧
      (InvertsWrapping (LooseTable κ (Option α)) (LooseTable κ α) ∧
        KeepsKeys (LooseTable κ (Option α)) (LooseTable κ α) ∧
        FreedInAnyOrder (LooseTable κ (Option α)) (LooseTable κ α)) := by
  refine ⟨fun α => ?_, fun α _ _ => ?_, fun κ α _ _ => ?_⟩
  · exact ⟨unwrapsInPlace_list.invertsWrapping, unwrapsInPlace_array.invertsWrapping⟩
  · refine ⟨unwrapsInPlace_orderedSet.invertsWrapping, unwrapsInPlace_looseSet.invertsWrapping, ?_⟩
    exact unwrapsInPlace_looseSet.freedInAnyOrder fun hp =>
      congrArg LooseSet.mk (Sorted.ofList_eq_of_perm hp)
  · refine ⟨⟨unwrapsInPlace_table.invertsWrapping, unwrapsInPlace_table.keepsKeys⟩,
      unwrapsInPlace_looseTable.invertsWrapping, unwrapsInPlace_looseTable.keepsKeys, ?_⟩
    exact unwrapsInPlace_looseTable.freedInAnyOrder fun hp =>
      congrArg LooseTable.mk (Sorted.ofList_eq_of_perm hp)

/-- A set of two numbers comes back from its wrapped form, whichever is visited first, and a map of
three keys, of which it keeps each, unless one of them has a null. -/
theorem wrapped_numbers_freed :
    (free? (ofEntries [some 1, some 2, some 1] : LooseSet (Option Int64)) =
        some (ofEntries [1, 2] : LooseSet Int64) ∧
      [some 2, some 1].Perm (entries (ofEntries [some 1, some 2] : LooseSet (Option Int64))) ∧
      free? (ofEntries [some 1, some 2] : LooseSet (Option Int64)) =
        (unwrap? [some 2, some 1]).map (ofEntries : _ → LooseSet Int64)) ∧
    (∃ d : Dict Int64, free? (ofEntries [("a", some 1), ("b", some 2), ("c", some 1)] :
        Dict (Option Int64)) = some d ∧ (entries d).map Prod.fst = ["a", "b", "c"]) ∧
    reject "B" "f" (ofEntries [("a", some 1), ("b", none), ("c", some 1)] : Dict (Option Int64)) =
      .error ⟨"B", "f", .nullElement⟩ := by
  obtain ⟨-, hsets, hmaps⟩ := freeing_inverts_wrapping
  obtain ⟨-, hset, hany⟩ := hsets Int64
  obtain ⟨⟨hmap, hkeys⟩, -⟩ := hmaps String Int64
  have hperm : [some 2, some 1].Perm
      (entries (ofEntries [some 1, some 2] : LooseSet (Option Int64))) := .swap (some 1) (some 2) []
  have hfreed : free? (ofEntries [("a", some 1), ("b", some 2), ("c", some 1)] :
      Dict (Option Int64)) = some (ofEntries [("a", 1), ("b", 2), ("c", 1)] : Dict Int64) :=
    (hmap.free?_eq_some_iff _ _).2 rfl
  refine ⟨⟨(hset.free?_eq_some_iff _ _).2 rfl, hperm, hany _ _ hperm⟩, ⟨_, hfreed, ?_⟩, ?_⟩
  · exact hkeys _ _ hfreed
  · exact (hmap.reject_eq_error_iff "B" "f" _ _).2 ⟨⟨("b", none), by decide, rfl⟩, rfl⟩

end NullFree

end StagedRecords
