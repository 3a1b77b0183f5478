import StagedRecords.Codec.Containers
import StagedRecords.Proofs.DateText
import StagedRecords.Proofs.Normal
import StagedRecords.Proofs.Runs
import StagedRecords.Proofs.UuidText

/-!
# Codecs that read back what they write

A codec is `Faithful` if it reads each value back from everything the value may be written as, once
the members of all objects are in key order. Containers are faithful when their elements are. The
other classes say where nulls cannot turn up in what is written, so that no check for nulls stops
it from being read.
-/

namespace StagedRecords

namespace Codec

variable {α : Type}

/-- A codec that reads back whatever a value may be written as, nested at most so deep. -/
class Faithful (α : Type) [Codec α] (depth : outParam Nat) : Prop where
  written_encode : ∀ a : α, written a (encode a)
  decode_normal : ∀ {a : α} {j : Json}, written a j →
    (decode j.normal : Decoded α).result = .ok a
  fits : ∀ {a : α} {j : Json}, written a j → j.Fits depth

/-- No value is written as null. -/
class NeverNull (α : Type) [Codec α] : Prop where
  isNull_eq : ∀ {a : α} {j : Json}, written a j → j.isNull = false

/-- No value is written as null or as an array that holds one. -/
class HoldsNoNull (α : Type) [Codec α] : Prop where
  isOrHoldsNull_eq : ∀ {a : α} {j : Json}, written a j → j.isOrHoldsNull = false

/-- No value is written as a collection with a null element. -/
class NoNullElement (α : Type) [Codec α] : Prop where
  hasNullElement_eq : ∀ {a : α} {j : Json}, written a j → j.normal.hasNullElement = false

instance [Codec α] [HoldsNoNull α] : NeverNull α where
  isNull_eq hw := by
    have h := HoldsNoNull.isOrHoldsNull_eq hw
    rw [Bool.eq_false_iff] at h ⊢
    intro hn
    rw [Json.isNull_iff.1 hn] at h
    exact h rfl

/-! ## Scalars -/

section Scalars

/-- A codec that writes a string for each value and reads it back. -/
theorem faithful_of_string [c : Codec α] {text : α → String}
    (hwritten : ∀ a j, written a j ↔ j = .string (text a))
    (hencode : ∀ a, encode a = .string (text a))
    (hdecode : ∀ a, (decode (.string (text a)) : Decoded α).result = .ok a) : Faithful α 0 where
  written_encode a := (hwritten a _).2 (hencode a)
  decode_normal {a j} hw := by
    rw [(hwritten a j).1 hw]
    exact hdecode a
  fits {a j} hw := by
    rw [(hwritten a j).1 hw]
    trivial

instance : Faithful String 0 := faithful_of_string (fun _ _ => .rfl) (fun _ => rfl) fun _ => rfl

instance : Faithful Char 0 :=
  faithful_of_string (fun _ _ => .rfl) (fun _ => rfl) fun c => by
    simp [decode, ofString, Traced.of, String.toList_singleton]

instance : Faithful Date 0 :=
  faithful_of_string (fun _ _ => .rfl) (fun _ => rfl) fun d => by
    simp only [decode, ofString, Traced.of, Date.ofText_text]
    rfl

instance : Faithful Uuid 0 :=
  faithful_of_string (fun _ _ => .rfl) (fun _ => rfl) fun u => by
    simp only [decode, ofString, Traced.of, Uuid.ofText_text]
    rfl

instance : Faithful Bool 0 where
  written_encode _ := rfl
  decode_normal hw := by
    subst hw
    rfl
  fits hw := by
    subst hw
    trivial

instance : Faithful Int64 0 where
  written_encode _ := rfl
  decode_normal {n j} hw := by
    subst hw
    have hn : Int64.minValue.toInt ≤ n.toInt ∧ n.toInt ≤ Int64.maxValue.toInt :=
      ⟨n.minValue_le_toInt, n.toInt_le⟩
    simp only [Json.normal, decode, if_pos hn, Int64.ofInt_toInt]
    rfl
  fits {n j} hw := by
    subst hw
    have hle := n.toInt_le
    refine ⟨n.minValue_le_toInt, ?_⟩
    have hmax : Int64.maxValue.toInt = 2 ^ 63 - 1 := rfl
    have hsize : (UInt64.size : Int) = 2 ^ 64 := rfl
    omega

instance : HoldsNoNull String := ⟨fun hw => by subst hw; rfl⟩

instance : HoldsNoNull Bool := ⟨fun hw => by subst hw; rfl⟩

instance : HoldsNoNull Int64 := ⟨fun hw => by subst hw; rfl⟩

instance : HoldsNoNull Char := ⟨fun hw => by subst hw; rfl⟩

instance : HoldsNoNull Date := ⟨fun hw => by subst hw; rfl⟩

instance : HoldsNoNull Uuid := ⟨fun hw => by subst hw; rfl⟩

end Scalars

/-! ## Containers -/

section Containers

variable [Codec α] {n : Nat}

section Arrays

variable {as : List α} {j : Json}

theorem arrayWritten_encode [Faithful α n] (as : List α) :
    arrayWritten as (.array (as.map encode)) := by
  refine ⟨as.map fun a => (a, encode a), ?_, ?_, ?_⟩
  · intro p hp
    obtain ⟨a, -, rfl⟩ := List.mem_map.1 hp
    exact Faithful.written_encode a
  · simp [Function.comp_def]
  · simp

/-- Written elements are read back in their order. -/
theorem elements_of_written [Faithful α n] (hw : arrayWritten as j) :
    (elements (decode : Json → Decoded α) j.normal).result = .ok as := by
  obtain ⟨ps, hps, rfl, rfl⟩ := hw
  rw [Json.normal_array, List.map_map, elements]
  exact Traced.result_each fun p hp => Faithful.decode_normal (hps p hp)

theorem fits_of_arrayWritten [Faithful α n] (hw : arrayWritten as j) : j.Fits (n + 1) := by
  obtain ⟨ps, hps, -, rfl⟩ := hw
  refine Json.elementsFit_iff.2 fun j hj => ?_
  obtain ⟨p, hp, rfl⟩ := List.mem_map.1 hj
  exact Faithful.fits (hps p hp)

theorem isNull_of_arrayWritten (hw : arrayWritten as j) : j.isNull = false := by
  obtain ⟨ps, -, -, rfl⟩ := hw
  rfl

theorem isOrHoldsNull_of_arrayWritten [HoldsNoNull α] (hw : arrayWritten as j) :
    j.isOrHoldsNull = false := by
  obtain ⟨ps, hps, -, rfl⟩ := hw
  rw [Json.isOrHoldsNull, Json.anyIsOrHoldsNull_eq_any, List.any_eq_false]
  intro j hj
  obtain ⟨p, hp, rfl⟩ := List.mem_map.1 hj
  rw [HoldsNoNull.isOrHoldsNull_eq (hps p hp)]
  exact Bool.false_ne_true

theorem hasNullElement_of_arrayWritten [HoldsNoNull α] (hw : arrayWritten as j) :
    j.normal.hasNullElement = false := by
  have h := isOrHoldsNull_of_arrayWritten hw
  obtain ⟨ps, -, -, rfl⟩ := hw
  rw [← Json.isOrHoldsNull_normal, Json.normal_array] at h
  rwa [Json.normal_array]

end Arrays

section Objects

variable {es : List (String × α)} {j : Json}

theorem objectWritten_encode [Faithful α n] (es : List (String × α)) :
    objectWritten es (.object (es.map fun e => (e.1, encode e.2))) := by
  refine ⟨es.map fun e => (e, encode e.2), ?_, ?_, ?_⟩
  · intro p hp
    obtain ⟨e, -, rfl⟩ := List.mem_map.1 hp
    exact Faithful.written_encode e.2
  · simp [Function.comp_def]
  · simp

/-- In key order, a written object has the written entries in key order. -/
theorem normal_of_objectWritten (hw : objectWritten es j) :
    ∃ ps : List ((String × α) × Json), (∀ p ∈ ps, written p.1.2 p.2) ∧
      ps.map Prod.fst = (Sorted.ofList es : Dict α).toList ∧
      j.normal = .object (ps.map fun p => (p.1.1, p.2.normal)) := by
  obtain ⟨ps, hps, rfl, rfl⟩ := hw
  refine ⟨(Sorted.ofList ps : Sorted fun p : (String × α) × Json => p.1.1).toList, ?_, ?_, ?_⟩
  · exact fun p hp => hps p (Sorted.mem_of_mem_ofList hp)
  · exact (Sorted.toList_ofList_map (fun _ _ => rfl) ps).symm
  · rw [Json.normal_object, List.map_map, Json.ofMembers, Json.object.injEq]
    exact Sorted.toList_ofList_map (fun _ _ => rfl) ps

/-- Written entries are read back in key order. -/
theorem members_of_written [Faithful α n] (hw : objectWritten es j) :
    (members (decode : Json → Decoded α) j.normal).result =
      .ok (Sorted.ofList es : Dict α).toList := by
  obtain ⟨ps, hps, hes, hj⟩ := normal_of_objectWritten hw
  rw [hj, ← hes, members]
  refine Traced.result_each fun p hp => ?_
  rw [Traced.result_map, Faithful.decode_normal (hps p hp)]
  rfl

theorem fits_of_objectWritten [Faithful α n] (hw : objectWritten es j) : j.Fits (n + 1) := by
  obtain ⟨ps, hps, -, rfl⟩ := hw
  refine Json.membersFit_iff.2 fun m hm => ?_
  obtain ⟨p, hp, rfl⟩ := List.mem_map.1 hm
  exact Faithful.fits (hps p hp)

theorem isOrHoldsNull_of_objectWritten (hw : objectWritten es j) : j.isOrHoldsNull = false := by
  obtain ⟨ps, -, -, rfl⟩ := hw
  rfl

theorem hasNullElement_of_objectWritten [HoldsNoNull α] (hw : objectWritten es j) :
    j.normal.hasNullElement = false := by
  obtain ⟨ps, hps, -, hj⟩ := normal_of_objectWritten hw
  rw [hj, Json.hasNullElement, Json.anyIsOrHoldsNull_eq_any, List.any_eq_false]
  intro j' hj'
  obtain ⟨m, hm, rfl⟩ := List.mem_map.1 hj'
  obtain ⟨p, hp, rfl⟩ := List.mem_map.1 hm
  rw [Json.isOrHoldsNull_normal, HoldsNoNull.isOrHoldsNull_eq (hps p hp)]
  exact Bool.false_ne_true

end Objects

instance [Faithful α n] [NeverNull α] : Faithful (Option α) n where
  written_encode
    | none => rfl
    | some a => Faithful.written_encode a
  decode_normal {a j} hw := by
    cases a with
    | none =>
      have hj : j = .null := hw
      subst hj
      rfl
    | some a =>
      have hw : written a j := hw
      have hn : j.normal.isNull = false := by rw [Json.isNull_normal, NeverNull.isNull_eq hw]
      have ha : (decode j.normal : Decoded α).result = .ok a := Faithful.decode_normal hw
      have hif : (decode j.normal : Decoded (Option α)) = (decode j.normal : Decoded α).map some :=
        if_neg (by rw [hn]; exact Bool.false_ne_true)
      rw [hif, Traced.result_map, ha]
      rfl
  fits {a j} hw := by
    cases a with
    | none =>
      have hj : j = .null := hw
      subst hj
      cases n <;> trivial
    | some a =>
      have hw : written a j := hw
      exact Faithful.fits hw

instance [Faithful α n] : Faithful (List α) (n + 1) where
  written_encode := arrayWritten_encode
  decode_normal := elements_of_written
  fits := fits_of_arrayWritten

instance [Faithful α n] : Faithful (Array α) (n + 1) where
  written_encode as := arrayWritten_encode as.toList
  decode_normal {as j} hw := by
    show ((elements decode j.normal).map List.toArray).result = .ok as
    rw [Traced.result_map, elements_of_written hw]
    rfl
  fits := fits_of_arrayWritten

section Sets

variable [Ord α] [Std.TransOrd α]

instance [Faithful α n] : Faithful (OrderedSet α) (n + 1) where
  written_encode s := arrayWritten_encode s.toList
  decode_normal {s j} hw := by
    show ((elements decode j.normal).map Sorted.ofList).result = .ok s
    rw [Traced.result_map, elements_of_written hw]
    exact congrArg Except.ok s.ofList_toList
  fits := fits_of_arrayWritten

instance [Faithful α n] : Faithful (LooseSet α) (n + 1) where
  written_encode s := ⟨s.elements.toList, .refl _, arrayWritten_encode s.elements.toList⟩
  decode_normal {s j} hw := by
    obtain ⟨as, hp, hw⟩ := hw
    show ((elements decode j.normal).map fun as => (⟨Sorted.ofList as⟩ : LooseSet α)).result = .ok s
    rw [Traced.result_map, elements_of_written hw]
    exact congrArg (fun t => Except.ok (LooseSet.mk t)) (Sorted.ofList_eq_of_perm hp)
  fits := fun ⟨_, _, hw⟩ => fits_of_arrayWritten hw

end Sets

instance [Faithful α n] : Faithful (Dict α) (n + 1) where
  written_encode d := objectWritten_encode d.toList
  decode_normal {d j} hw := by
    show ((members decode j.normal).map Sorted.ofList).result = .ok d
    rw [Traced.result_map, members_of_written hw, Sorted.ofList_toList]
    exact congrArg Except.ok d.ofList_toList
  fits := fits_of_objectWritten

instance [Faithful α n] : Faithful (LooseMap α) (n + 1) where
  written_encode d := ⟨d.entries.toList, .refl _, objectWritten_encode d.entries.toList⟩
  decode_normal {d j} hw := by
    obtain ⟨es, hp, hw⟩ := hw
    show ((members decode j.normal).map fun ms => (⟨Sorted.ofList ms⟩ : LooseMap α)).result = .ok d
    rw [Traced.result_map, members_of_written hw, Sorted.ofList_eq_of_perm hp]
    exact congrArg (fun t => Except.ok (LooseTable.mk t)) d.entries.ofList_toList
  fits := fun ⟨_, _, hw⟩ => fits_of_objectWritten hw

instance [Faithful α n] : Faithful (Wrapped α) (n + 1) where
  written_encode w := ⟨encode w.value, Faithful.written_encode w.value, rfl⟩
  decode_normal {w j} hw := by
    obtain ⟨inner, hw, rfl⟩ := hw
    have hv : (decode inner.normal : Decoded α).result = .ok w.value := Faithful.decode_normal hw
    have hd : (decode (Json.object [("value", inner)]).normal : Decoded (Wrapped α)) =
        (decode inner.normal : Decoded α).map Wrapped.mk := rfl
    rw [hd, Traced.result_map, hv]
    rfl
  fits {w j} hw := by
    obtain ⟨inner, hw, rfl⟩ := hw
    exact ⟨Faithful.fits hw, trivial⟩

instance : NeverNull (List α) := ⟨isNull_of_arrayWritten⟩

instance : NeverNull (Array α) := ⟨isNull_of_arrayWritten⟩

instance [Ord α] [Std.TransOrd α] : NeverNull (OrderedSet α) := ⟨isNull_of_arrayWritten⟩

instance [Ord α] [Std.TransOrd α] : NeverNull (LooseSet α) :=
  ⟨fun ⟨_, _, hw⟩ => isNull_of_arrayWritten hw⟩

instance [HoldsNoNull α] : HoldsNoNull (List α) := ⟨isOrHoldsNull_of_arrayWritten⟩

instance : HoldsNoNull (Dict α) := ⟨isOrHoldsNull_of_objectWritten⟩

instance : HoldsNoNull (LooseMap α) := ⟨fun ⟨_, _, hw⟩ => isOrHoldsNull_of_objectWritten hw⟩

instance : HoldsNoNull (Wrapped α) := ⟨fun ⟨_, _, hw⟩ => by subst hw; rfl⟩

instance [HoldsNoNull α] : NoNullElement (List α) := ⟨hasNullElement_of_arrayWritten⟩

instance [HoldsNoNull α] [Ord α] [Std.TransOrd α] : NoNullElement (LooseSet α) :=
  ⟨fun ⟨_, _, hw⟩ => hasNullElement_of_arrayWritten hw⟩

instance [HoldsNoNull α] : NoNullElement (Dict α) := ⟨hasNullElement_of_objectWritten⟩

end Containers

end Codec

end StagedRecords
