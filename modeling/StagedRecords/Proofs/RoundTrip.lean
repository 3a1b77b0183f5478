import StagedRecords.Catalogue
import StagedRecords.Proofs.Records

/-!
# The round trip of every record

Every record shape of the catalogue reads its values back from their text, from their JSON value
and, member by member, into any draft (`round_trip`), in whatever order loose sets and maps are
written.
-/

namespace StagedRecords

namespace RecordShape

variable {V : Type} {n : Nat}

/-- A record reads back what it writes inside another as well. -/
theorem faithful_codec (s : RecordShape V) [s.fields.Faithful n] :
    @Codec.Faithful V s.codec (n + 1) :=
  letI := s.codec
  { written_encode := written_encode
    decode_normal := fun hw => decode_of_written hw _
    fits := fits_of_written }

/-- A record is written as an object, whatever nulls its members hold. -/
theorem holdsNoNull_codec (s : RecordShape V) : @Codec.HoldsNoNull V s.codec :=
  letI := s.codec
  { isOrHoldsNull_eq := by
      rintro _ _ ⟨ms, -, rfl⟩
      rfl }

end RecordShape

instance : Codec.Faithful Point 1 := Point.shape.faithful_codec

instance : Codec.HoldsNoNull Point := Point.shape.holdsNoNull_codec

/-! ## The shapes of the catalogue -/

theorem Fields.exists_faithful {ts : List Type} {fs : Fields ts} {n : Nat} [h : fs.Faithful n]
    (hn : n < Json.maxDepth) : ∃ n < Json.maxDepth, fs.Faithful n :=
  ⟨n, hn, h⟩

/-- The fields of every shape take what their values may be written as, and nest it no deeper than
a text may. -/
theorem exists_faithful_of_mem_catalogue :
    ∀ e ∈ catalogue, ∃ n < Json.maxDepth, e.shape.fields.Faithful n := by
  -- The declarations are reducible, so what is known of each field is found as an instance.
  apply forall_mem_catalogue (P := fun _ s => ∃ n < Json.maxDepth, s.fields.Faithful n) <;>
    exact Fields.exists_faithful (by decide)

theorem Entry.exists_faithful_record {e : Entry} (he : e ∈ catalogue) {s : RecordShape e.V}
    (hs : e.record? = some s) : ∃ n < Json.maxDepth, s.fields.Faithful n := by
  have h := exists_faithful_of_mem_catalogue e he
  rwa [e.shape_eq s hs] at h

/-! ## The round trip -/

/-- Whatever a record is written as, its text and its JSON value are read as the record, and
applying its object to any draft leaves the draft that starts from the record. -/
theorem round_trip {e : Entry} (he : e ∈ catalogue) {s : RecordShape e.V}
    (hs : e.record? = some s) (v : e.V) (fresh : Nat → Uuid) :
    s.written v (s.encode v) ∧
    ∀ j, s.written v j →
      (s.ofText fresh j.text).result = .ok v ∧
      (s.decode fresh j.normal).result = .ok v ∧
      ∃ o : Object, j.normal = .object o.toList ∧ ∀ d : Draft s.toSchema,
        (d.apply o).outcome.result = .ok () ∧ (d.apply o).draft = s.toShape.draft v := by
  obtain ⟨n, hn, hfaithful⟩ := Entry.exists_faithful_record he hs
  refine ⟨RecordShape.written_encode v, fun j hw => ⟨?_, ?_, ?_⟩⟩
  · exact RecordShape.ofText_of_written hw hn fresh
  · exact RecordShape.decode_of_written hw fresh
  · exact RecordShape.apply_of_written hw

/-- The first date, the least integer and control characters among the values of a record. -/
theorem round_trip_scalars :
    let v : ScalarRecord := ⟨"\u0000\"\\\n", some "null", Int64.minValue, none, Date.first, "", "é",
      Date.first⟩
    let s := ScalarRecord.shape
    Entry.ofRecord "SimpleDataClass" ScalarRecord ∈ catalogue ∧
    (s.ofText (fun _ => ⟨0⟩) (s.encode v).text).result = .ok v ∧
    (s.decode (fun _ => ⟨0⟩) (s.encode v).normal).result = .ok v := by
  intro v s
  have he : Entry.ofRecord "SimpleDataClass" ScalarRecord ∈ catalogue := .head _
  have h := round_trip he rfl v fun _ => ⟨0⟩
  obtain ⟨htext, hvalue, -⟩ := h.2 _ h.1
  exact ⟨he, htext, hvalue⟩

end StagedRecords
