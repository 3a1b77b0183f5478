import StagedRecords.Catalogue
import StagedRecords.Proofs.Elements
import StagedRecords.Proofs.Specs

/-!
# Strict and required fields

A strict field looks for nulls in a value before it decodes it. The search goes into arrays without
knowing the type of the field, so it is to be shown that no type with a null there decodes:
`ReadsNoNull` for the elements of a collection and `ReadsNoNullElement` for the collection. What a
strict field of the catalogue takes is then what a required field takes, and only a refusal for a
null element has another cause (`strict_refines_required`).
-/

namespace StagedRecords

/-! ## Where no null is read -/

namespace Codec

variable {α : Type}

/-- Neither null nor an array that holds a null is read. -/
class ReadsNoNull (α : Type) [Codec α] : Prop where
  isOrHoldsNull_eq : ∀ {a : α} {j : Json}, (decode j : Decoded α).result = .ok a →
    j.isOrHoldsNull = false

/-- No collection with a null element is read. -/
class ReadsNoNullElement (α : Type) [Codec α] : Prop where
  hasNullElement_eq : ∀ {a : α} {j : Json}, (decode j : Decoded α).result = .ok a →
    j.hasNullElement = false

theorem exists_string_of_ofString {expected : Expected} {read : String → Except Fault α} {a : α}
    {j : Json} (h : (ofString expected read j).result = .ok a) : ∃ s, j = .string s := by
  cases j with
  | string s => exact ⟨s, rfl⟩
  | _ => simp [ofString, mismatch, Traced.fail] at h

/-- A codec that reads strings alone. -/
theorem readsNoNull_of_ofString [c : Codec α] {expected : Expected}
    {read : String → Except Fault α} (hc : c.decode = ofString expected read) : ReadsNoNull α where
  isOrHoldsNull_eq h := by
    rw [hc] at h
    obtain ⟨s, rfl⟩ := exists_string_of_ofString h
    rfl

instance : ReadsNoNull String := readsNoNull_of_ofString rfl

instance : ReadsNoNull Date := readsNoNull_of_ofString rfl

instance : ReadsNoNull Int64 where
  isOrHoldsNull_eq {_ j} h := by
    cases j with
    | null | array _ => simp [decode, mismatch, Traced.fail] at h
    | _ => rfl

section Containers

variable [Codec α]

theorem isOrHoldsNull_of_members {es : List (String × α)} {j : Json}
    (h : (members (decode : Json → Decoded α) j).result = .ok es) : j.isOrHoldsNull = false := by
  obtain ⟨ms, rfl, -⟩ := members_eq_ok_iff.1 h
  rfl

/-- The values of the members may hold nulls of their own. -/
instance : ReadsNoNull (Dict α) where
  isOrHoldsNull_eq h := by
    obtain ⟨es, hes, -⟩ := Traced.result_map_eq_ok_iff.1 h
    exact isOrHoldsNull_of_members hes

variable [ReadsNoNull α]

/-- Where every element is read, none of them is or holds a null. -/
theorem anyIsOrHoldsNull_of_forall₂ {js : List Json} {as : List α}
    (h : List.Forall₂ (fun j a => (decode j : Decoded α).result = .ok a) js as) :
    Json.anyIsOrHoldsNull js = false := by
  induction h with
  | nil => rfl
  | cons ha _ ih => simp [Json.anyIsOrHoldsNull, ih, ReadsNoNull.isOrHoldsNull_eq ha]

theorem isOrHoldsNull_of_elements {as : List α} {j : Json}
    (h : (elements (decode : Json → Decoded α) j).result = .ok as) : j.isOrHoldsNull = false := by
  obtain ⟨js, rfl, hjs⟩ := elements_eq_ok_iff.1 h
  exact anyIsOrHoldsNull_of_forall₂ hjs

theorem hasNullElement_of_elements {as : List α} {j : Json}
    (h : (elements (decode : Json → Decoded α) j).result = .ok as) : j.hasNullElement = false := by
  obtain ⟨js, rfl, hjs⟩ := elements_eq_ok_iff.1 h
  exact anyIsOrHoldsNull_of_forall₂ hjs

theorem hasNullElement_of_members {es : List (String × α)} {j : Json}
    (h : (members (decode : Json → Decoded α) j).result = .ok es) : j.hasNullElement = false := by
  obtain ⟨ms, rfl, hms⟩ := members_eq_ok_iff.1 h
  have hvalues : List.Forall₂ (fun j a => (decode j : Decoded α).result = .ok a)
      (ms.map Prod.snd) (es.map Prod.snd) := by
    rw [List.forall₂_map_left_iff, List.forall₂_map_right_iff]
    exact hms.imp fun m e he => he.1
  exact anyIsOrHoldsNull_of_forall₂ hvalues

instance : ReadsNoNull (List α) := ⟨isOrHoldsNull_of_elements⟩

instance : ReadsNoNullElement (List α) := ⟨hasNullElement_of_elements⟩

instance [Ord α] [Std.TransOrd α] : ReadsNoNullElement (LooseSet α) where
  hasNullElement_eq h := by
    obtain ⟨as, has, -⟩ := Traced.result_map_eq_ok_iff.1 h
    exact hasNullElement_of_elements has

instance : ReadsNoNullElement (Dict α) where
  hasNullElement_eq h := by
    obtain ⟨es, hes, -⟩ := Traced.result_map_eq_ok_iff.1 h
    exact hasNullElement_of_members hes

end Containers

end Codec

/-- A record is read from an object, whatever nulls its members hold. -/
theorem RecordShape.readsNoNull_codec {V : Type} (s : RecordShape V) :
    @Codec.ReadsNoNull V s.codec :=
  letI := s.codec
  { isOrHoldsNull_eq := fun {v j} h => by
      cases j with
      | null | array _ => cases h
      | _ => rfl }

instance : Codec.ReadsNoNull Point := Point.shape.readsNoNull_codec

/-! ## The two policies -/

namespace Policy

variable {α : Type} [Codec α] {builder field : String} {j : Json}

theorem strict_of_hasNullElement (h : j.hasNullElement = true) :
    (strict builder field j : Accepted α).result = .error ⟨builder, field, .nullElement⟩ := by
  cases j with
  | array _ | object _ => simp [strict, Json.isNull, h, Traced.fail]
  | _ => simp [Json.hasNullElement] at h

theorem strict_eq_required (h : j.hasNullElement = false) :
    (strict builder field j : Accepted α) = required builder field j := by
  simp [strict, required, h]

theorem cause_ne_of_required {r : Refusal}
    (h : (required builder field j : Accepted α).result = .error r) : r.cause ≠ .nullElement := by
  unfold required at h
  split at h
  · cases h
    simp
  · obtain ⟨f, -, rfl⟩ := decoded_error h
    simp

/-- Where the search finds a null, decoding would have failed. -/
theorem required_of_hasNullElement [Codec.ReadsNoNullElement α] (h : j.hasNullElement = true) :
    ∃ reason, (required builder field j : Accepted α).result =
      .error ⟨builder, field, .invalid reason⟩ := by
  have hnull : j.isNull = false := by
    cases j with
    | null => simp [Json.hasNullElement] at h
    | _ => rfl
  rcases hj : (Codec.decode j : Decoded α).result with f | a
  · exact ⟨f.message, by simp [required, hnull, decoded, Traced.mapError, hj, Except.mapError]⟩
  · rw [Codec.ReadsNoNullElement.hasNullElement_eq hj] at h
    cases h

end Policy

/-! ## The shapes of the catalogue -/

/-- The strict fields read no collection with a null element. -/
def Fields.StrictReadNoNull {ts : List Type} (fs : Fields ts) : Prop :=
  fs.Each fun f => f.kind.nullability = .strict → @Codec.ReadsNoNullElement _ f.codec

theorem Fields.StrictReadNoNull.readsNoNullElement {ts : List Type} {α : Type} {fs : Fields ts}
    (h : fs.StrictReadNoNull) {p : Place ts α} (hp : (fs.spec p).nullability = .strict) :
    @Codec.ReadsNoNullElement _ (fs.codec p) := by
  rw [spec_eq] at hp
  rw [codec_eq]
  exact Each.field h p hp

theorem strictReadNoNull_of_mem_catalogue :
    ∀ e ∈ catalogue, e.shape.fields.StrictReadNoNull := by
  apply forall_mem_catalogue (P := fun _ s => s.fields.StrictReadNoNull)
  all_goals
    repeat' apply And.intro
    all_goals first
      | exact trivial
      | exact fun _ => inferInstance
      | exact fun h => nomatch h

/-- For the type of a strict field, a strict field takes just the values that a required field
takes, and reads the same from them. Where it refuses a value for a null element, a required field
refuses it because it does not decode; in all other cases both end alike. -/
theorem strict_refines_required {e : Entry} (he : e ∈ catalogue) {α : Type}
    (p : Place e.shape.types α) (hp : (e.shape.fields.spec p).nullability = .strict)
    (builder field : String) (j : Json) :
    let _ := e.shape.fields.codec p
    let strict : Except Refusal α := (Policy.strict builder field j).result
    let required : Except Refusal α := (Policy.required builder field j).result
    (∀ a, strict = .ok a ↔ required = .ok a) ∧
    (∀ r, strict = .error r → r.cause = .nullElement →
      ∃ reason, required = .error ⟨builder, field, .invalid reason⟩) ∧
    ((∀ r, strict = .error r → r.cause ≠ .nullElement) → strict = required) := by
  intro _ strict required
  have _ := (strictReadNoNull_of_mem_catalogue e he).readsNoNullElement hp
  rcases hnull : j.hasNullElement with _ | _
  · have heq : strict = required := congrArg Traced.result (Policy.strict_eq_required hnull)
    refine ⟨fun a => by rw [heq], fun r hr hcause => ?_, fun _ => heq⟩
    exact absurd hcause (Policy.cause_ne_of_required (heq.symm.trans hr))
  · have hstrict : strict = .error ⟨builder, field, .nullElement⟩ :=
      Policy.strict_of_hasNullElement hnull
    obtain ⟨reason, hrequired⟩ : ∃ reason, required = .error ⟨builder, field, .invalid reason⟩ :=
      Policy.required_of_hasNullElement hnull
    refine ⟨fun a => by simp [hstrict, hrequired], fun r _ _ => ⟨reason, hrequired⟩, fun h => ?_⟩
    exact absurd rfl (h _ hstrict)

/-- A null in place of a record is a null element, and one inside a record is none. -/
theorem strict_records_of_shelves :
    let strict := fun j => (Policy.strict "B" "f" j : Accepted (List (Dict (Option String)))).result
    let required := fun j =>
      (Policy.required "B" "f" j : Accepted (List (Dict (Option String)))).result
    strict (.array [.null]) = .error ⟨"B", "f", .nullElement⟩ ∧
    (∃ reason, required (.array [.null]) = .error ⟨"B", "f", .invalid reason⟩) ∧
    strict (.array [.object [("note", .null)]]) = .ok [Sorted.ofList [("note", none)]] ∧
    required (.array [.object [("note", .null)]]) = .ok [Sorted.ofList [("note", none)]] := by
  intro strict required
  have he : Entry.ofRecord "Shelf" Shelf ∈ catalogue :=
    List.mem_of_getElem? (rfl : catalogue[15]? = some _)
  have h := fun j => strict_refines_required he (.before (.before (.before .last))) rfl "B" "f" j
  obtain ⟨-, hrefined, -⟩ := h (.array [.null])
  obtain ⟨htaken, -, -⟩ := h (.array [.object [("note", .null)]])
  have hstrict : strict (.array [.object [("note", .null)]]) =
      .ok [Sorted.ofList [("note", none)]] := rfl
  exact ⟨rfl, hrefined _ rfl rfl, hstrict, (htaken _).1 hstrict⟩

end StagedRecords
