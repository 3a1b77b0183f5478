import StagedRecords.Proofs.Strictness
import StagedRecords.Proofs.Wrapping

/-!
# Strict decoding and collections freed of nulls

A collection without nulls is had in two ways: the JSON value is searched for nulls and decoded, or
it is decoded with elements that may be null, which are unwrapped afterwards. Element by element
both come to the same (`Codec.elements_map_some_iff`), and so they do for lists, sets and maps
(`strict_conversions_agree`), where sets sort their elements and maps their entries in between.
-/

namespace StagedRecords

open Std (TransOrd)

variable {α : Type}

/-! ## Unwrapping -/

namespace NullFree

section Sets

variable [Ord α] [TransOrd α]

/-- Wrapped elements sort as the elements do, and a null keeps its place. -/
theorem free?_looseSet (l : List (Option α)) :
    free? (⟨Sorted.ofList l⟩ : LooseSet (Option α)) =
      (unwrap? l).map fun as => (⟨Sorted.ofList as⟩ : LooseSet α) := by
  rcases hl : unwrap? l with _ | as
  · obtain ⟨x, hx, hcompare⟩ :
        ∃ x ∈ (Sorted.ofList l : OrderedSet (Option α)).toList, compare none x = .eq :=
      Sorted.exists_mem_ofList (unwrap?_eq_none_iff.1 hl)
    cases x with
    | none => simp [free?, unwrap?_eq_none_iff.2 hx]
    | some a => cases hcompare
  · obtain rfl := unwrap?_eq_some_iff.1 hl
    have hsorted : (Sorted.ofList (as.map some) : OrderedSet (Option α)).toList =
        (Sorted.ofList as : OrderedSet α).toList.map some := by
      refine Sorted.toList_ofList_map ?_ as
      exact fun _ _ => rfl
    simp [free?, hsorted, unwrap?_eq_some_iff.2 rfl]

end Sets

/-- With different keys, no entry takes the place of one that is null. -/
theorem free?_dict {l : List (String × Option α)} (h : Sorted.Distinct Prod.fst l) :
    free? (Sorted.ofList l : Dict (Option α)) = (unwrapValues? l).map Sorted.ofList := by
  have hany : FreedInAnyOrder (Dict (Option α)) (Dict α) :=
    unwrapsInPlace_table.freedInAnyOrder Sorted.ofList_eq_of_perm
  exact hany _ l (Sorted.toList_ofList_perm h).symm

end NullFree

/-! ## Decoding with elements that may be null -/

namespace Codec

open NullFree (wrapValue)

variable [Codec α] {j : Json}

theorem decode_none_iff : (decode j : Decoded (Option α)).result = .ok none ↔ j.isNull = true := by
  rcases hj : j.isNull with _ | _
  · rcases ha : (decode j : Decoded α).result with f | a <;>
      simp [decode, hj, Traced.map, Except.map, ha]
  · simp [decode, hj, Traced.pure]

theorem hasNullElement_of_none_mem {l : List (Option α)}
    (h : (elements (decode : Json → Decoded (Option α)) j).result = .ok l) (hl : none ∈ l) :
    j.hasNullElement = true := by
  obtain ⟨js, rfl, hjs⟩ := elements_eq_ok_iff.1 h
  obtain ⟨i, hi, hnone⟩ := exists_mem_of_forall₂ hjs none hl
  obtain rfl := Json.isNull_iff.1 (decode_none_iff.1 hnone)
  simp only [Json.hasNullElement, Json.anyIsOrHoldsNull_eq_any, List.any_eq_true]
  exact ⟨.null, hi, rfl⟩

theorem hasNullElement_of_value_none_mem {l : List (String × Option α)}
    (h : (members (decode : Json → Decoded (Option α)) j).result = .ok l) {k : String}
    (hl : (k, none) ∈ l) : j.hasNullElement = true := by
  obtain ⟨ms, rfl, hms⟩ := members_eq_ok_iff.1 h
  obtain ⟨m, hm, hnone, -⟩ := exists_mem_of_forall₂ hms _ hl
  have hnull := Json.isNull_iff.1 (decode_none_iff.1 hnone)
  simp only [Json.hasNullElement, Json.anyIsOrHoldsNull_eq_any, List.any_eq_true]
  exact ⟨m.2, List.mem_map_of_mem hm, by rw [hnull]; rfl⟩

/-- The members of an object that is in key order have different keys. -/
theorem distinct_of_members {l : List (String × α)}
    (h : (members (decode : Json → Decoded α) j.normal).result = .ok l) :
    Sorted.Distinct Prod.fst l := by
  obtain ⟨ms, hj, hms⟩ := members_eq_ok_iff.1 h
  obtain ⟨o, rfl⟩ := Json.exists_object_of_normal hj
  have hkeys : o.toList.map Prod.fst = l.map Prod.fst := by
    rw [← List.forall₂_eq_eq_eq, List.forall₂_map_left_iff, List.forall₂_map_right_iff]
    exact hms.imp fun m e he => he.2
  have ho : (o.toList.map Prod.fst).Pairwise fun k k' => compare k k' ≠ .eq :=
    List.pairwise_map.2 o.distinct_toList
  rw [hkeys] at ho
  exact List.pairwise_map.1 ho

variable [ReadsNoNull α]

theorem decode_some_iff {a : α} : (decode j : Decoded (Option α)).result = .ok (some a) ↔
    (decode j : Decoded α).result = .ok a := by
  rcases hj : j.isNull with _ | _
  · rcases ha : (decode j : Decoded α).result with f | b <;>
      simp [decode, hj, Traced.map, Except.map, ha]
  · obtain rfl := Json.isNull_iff.1 hj
    constructor
    · intro h
      cases h
    · intro h
      cases ReadsNoNull.isOrHoldsNull_eq h

theorem elements_map_some_iff {as : List α} :
    (elements (decode : Json → Decoded (Option α)) j).result = .ok (as.map some) ↔
      (elements (decode : Json → Decoded α) j).result = .ok as := by
  simp only [elements_eq_ok_iff, List.forall₂_map_right_iff, decode_some_iff]

theorem members_map_wrapValue_iff {es : List (String × α)} :
    (members (decode : Json → Decoded (Option α)) j).result = .ok (es.map wrapValue) ↔
      (members (decode : Json → Decoded α) j).result = .ok es := by
  simp only [members_eq_ok_iff, List.forall₂_map_right_iff, wrapValue, decode_some_iff]

end Codec

/-! ## The two conversions -/

/-- A JSON value that is read as a collection whose elements may be null is taken by a strict field
just when the collection can be freed of nulls, and then both give the same; otherwise both refuse
it for a null element. What a strict field takes is read as such a collection too. -/
structure ConversionsAgree (γ δ : Type) [Codec γ] [Codec δ] [NullFree γ δ] : Prop where
  strict_of_decode : ∀ (builder field : String) (j : Json) (c : γ),
    (Codec.decode j.normal : Decoded γ).result = .ok c →
      (∃ d : δ, (Policy.strict builder field j.normal).result = .ok d ∧
        NullFree.reject builder field c = .ok d) ∨
      ((Policy.strict builder field j.normal : Accepted δ).result =
          .error ⟨builder, field, .nullElement⟩ ∧
        NullFree.reject builder field c = .error ⟨builder, field, .nullElement⟩)
  exists_of_strict : ∀ (builder field : String) (j : Json) (d : δ),
    (Policy.strict builder field j.normal).result = .ok d →
      ∃ c : γ, (Codec.decode j.normal : Decoded γ).result = .ok c ∧ NullFree.free? c = some d

theorem Policy.strict_of_decode {δ : Type} [Codec δ] [Codec.ReadsNoNullElement δ]
    {builder field : String} {j : Json} {d : δ} (hnull : j.isNull = false)
    (h : (Codec.decode j : Decoded δ).result = .ok d) :
    (strict builder field j).result = .ok d := by
  have helement := Codec.ReadsNoNullElement.hasNullElement_eq h
  simp [strict, hnull, helement, decoded, Traced.mapError, h, Except.mapError]

theorem Policy.decode_of_strict {δ : Type} [Codec δ] {builder field : String} {j : Json} {d : δ}
    (h : (strict builder field j).result = .ok d) :
    j.isNull = false ∧ (Codec.decode j : Decoded δ).result = .ok d := by
  unfold strict at h
  split_ifs at h with hnull helement
  · cases h
  · cases h
  · exact ⟨Bool.eq_false_iff.2 hnull, Traced.result_mapError_eq_ok_iff.1 h⟩

/-! ## Lists, sets and maps -/

section Conversions

variable {σ τ γ δ : Type} {read : Json → Decoded σ} {read' : Json → Decoded τ}
  {unwrap : σ → Option τ}

/-- Reading what may hold nulls and unwrapping it comes to reading what holds none, and a null that
stops the unwrapping is one that the search finds. -/
structure ReadsAlike (read : Json → Decoded σ) (read' : Json → Decoded τ) (unwrap : σ → Option τ) :
    Prop where
  isNull_eq : ∀ {j : Json} {l : σ}, (read j).result = .ok l → j.isNull = false
  of_some : ∀ {j : Json} {l : σ} {l' : τ}, (read j).result = .ok l → unwrap l = some l' →
    (read' j).result = .ok l'
  of_none : ∀ {j : Json} {l : σ}, (read j).result = .ok l → unwrap l = none →
    j.hasNullElement = true
  exists_wrapped : ∀ {j : Json} {l' : τ}, (read' j).result = .ok l' →
    ∃ l, (read j).result = .ok l ∧ unwrap l = some l'

/-- The conversions agree on collections that are made of what is read alike, if unwrapping the
collection comes to making it of what is unwrapped. -/
theorem ReadsAlike.conversionsAgree [Codec γ] [Codec δ] [NullFree γ δ] [Codec.ReadsNoNullElement δ]
    (h : ReadsAlike read read' unwrap) {f : σ → γ} {g : τ → δ}
    (hγ : ∀ j, (Codec.decode j : Decoded γ) = (read j).map f)
    (hδ : ∀ j, (Codec.decode j : Decoded δ) = (read' j).map g)
    (hfree : ∀ {j : Json} {l : σ}, (read j.normal).result = .ok l →
      NullFree.free? (f l) = (unwrap l).map g) :
    ConversionsAgree γ δ where
  strict_of_decode builder field j c hc := by
    rw [hγ, Traced.result_map_eq_ok_iff] at hc
    obtain ⟨l, hl, rfl⟩ := hc
    rcases hu : unwrap l with _ | l'
    · have hstrict : (Policy.strict builder field j.normal : Accepted δ).result =
          .error ⟨builder, field, .nullElement⟩ :=
        Policy.strict_of_hasNullElement (h.of_none hl hu)
      exact .inr ⟨hstrict, by simp [NullFree.reject, hfree hl, hu]⟩
    · have hd : (Codec.decode j.normal : Decoded δ).result = .ok (g l') := by
        rw [hδ, Traced.result_map_eq_ok_iff]
        exact ⟨l', h.of_some hl hu, rfl⟩
      exact .inl ⟨g l', Policy.strict_of_decode (h.isNull_eq hl) hd,
        by simp [NullFree.reject, hfree hl, hu]⟩
  exists_of_strict builder field j d hd := by
    have hdecode := (Policy.decode_of_strict hd).2
    rw [hδ, Traced.result_map_eq_ok_iff] at hdecode
    obtain ⟨l', hl', rfl⟩ := hdecode
    obtain ⟨l, hl, hu⟩ := h.exists_wrapped hl'
    refine ⟨f l, ?_, by simp [hfree hl, hu]⟩
    rw [hγ, Traced.result_map_eq_ok_iff]
    exact ⟨l, hl, rfl⟩

end Conversions

section Containers

open Codec NullFree

variable [Codec α] [ReadsNoNull α]

theorem readsAlike_elements : ReadsAlike (elements (decode : Json → Decoded (Option α)))
    (elements (decode : Json → Decoded α)) unwrap? where
  isNull_eq h := by
    obtain ⟨js, rfl, -⟩ := elements_eq_ok_iff.1 h
    rfl
  of_some h hu := by
    obtain rfl := unwrap?_eq_some_iff.1 hu
    exact elements_map_some_iff.1 h
  of_none h hu := hasNullElement_of_none_mem h (unwrap?_eq_none_iff.1 hu)
  exists_wrapped h := ⟨_, elements_map_some_iff.2 h, unwrap?_eq_some_iff.2 rfl⟩

theorem readsAlike_members : ReadsAlike (members (decode : Json → Decoded (Option α)))
    (members (decode : Json → Decoded α)) unwrapValues? where
  isNull_eq h := by
    obtain ⟨ms, rfl, -⟩ := members_eq_ok_iff.1 h
    rfl
  of_some h hu := by
    obtain rfl := unwrapValues?_eq_some_iff.1 hu
    exact members_map_wrapValue_iff.1 h
  of_none h hu := by
    obtain ⟨k, hk⟩ := unwrapValues?_eq_none_iff.1 hu
    exact hasNullElement_of_value_none_mem h hk
  exists_wrapped h := ⟨_, members_map_wrapValue_iff.2 h, unwrapValues?_eq_some_iff.2 rfl⟩

theorem conversionsAgree_list : ConversionsAgree (List (Option α)) (List α) :=
  readsAlike_elements.conversionsAgree (f := id) (g := id) (fun _ => (Traced.map_id _).symm)
    (fun _ => (Traced.map_id _).symm) fun _ => Option.map_id_apply.symm

theorem conversionsAgree_looseSet [Ord α] [TransOrd α] :
    ConversionsAgree (LooseSet (Option α)) (LooseSet α) :=
  readsAlike_elements.conversionsAgree (fun _ => rfl) (fun _ => rfl) fun _ => free?_looseSet _

theorem conversionsAgree_dict : ConversionsAgree (Dict (Option α)) (Dict α) :=
  readsAlike_members.conversionsAgree (fun _ => rfl) (fun _ => rfl) fun hl =>
    free?_dict (distinct_of_members hl)

end Containers

/-- For strings, integers and dates, in lists, sets and maps, what a strict field makes of a JSON
value is what becomes of the collection with elements that may be null once it is freed of nulls. -/
theorem strict_conversions_agree :
    (ConversionsAgree (List (Option String)) (List String) ∧
      ConversionsAgree (List (Option Int64)) (List Int64) ∧
      ConversionsAgree (List (Option Date)) (List Date)) ∧
    (ConversionsAgree (LooseSet (Option String)) (LooseSet String) ∧
      ConversionsAgree (LooseSet (Option Int64)) (LooseSet Int64) ∧
      ConversionsAgree (LooseSet (Option Date)) (LooseSet Date)) ∧
    (ConversionsAgree (Dict (Option String)) (Dict String) ∧
      ConversionsAgree (Dict (Option Int64)) (Dict Int64) ∧
      ConversionsAgree (Dict (Option Date)) (Dict Date)) :=
  ⟨⟨conversionsAgree_list, conversionsAgree_list, conversionsAgree_list⟩,
    ⟨conversionsAgree_looseSet, conversionsAgree_looseSet, conversionsAgree_looseSet⟩,
    ⟨conversionsAgree_dict, conversionsAgree_dict, conversionsAgree_dict⟩⟩

end StagedRecords
