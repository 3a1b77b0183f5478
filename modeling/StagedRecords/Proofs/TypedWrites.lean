import StagedRecords.Proofs.NamedWrites
import StagedRecords.Proofs.RoundTrip

/-!
# Writes by place and by name

Every shape of the catalogue, the constructed ones among them, takes under the name of a field
whatever a value of the field's type may be written as, and leaves the slots that a write of the
value itself leaves (`typed_and_named_writes_agree`).
-/

namespace StagedRecords

/-- Setting a field to what a value may be written as comes to writing the value. -/
theorem Draft.set_of_written {s : Schema} {n : Nat} [s.fields.Faithful n] {α : Type}
    {p : Place s.types α} {a : α} {j : Json} (d : Draft s) (hw : (s.fields.codec p).written a j) :
    (d.set (s.fields.spec p).name j.normal).outcome.result = .ok () ∧
      (d.set (s.fields.spec p).name j.normal).draft = d.write ⟨p, a⟩ :=
  (d.set_of_accepted (Schema.accept_of_written hw)).symm

/-- Setting a field to whatever a value of its type may be written as succeeds and leaves the
draft that writing the value leaves: its slot holds the value and no other slot changes. The null
of a field that may be null is written as null, and its slot then holds it. -/
theorem typed_and_named_writes_agree {e : Entry} (he : e ∈ catalogue) (d : Draft e.shape.toSchema)
    {α : Type} (p : Place e.shape.types α) :
    (∀ a, (e.shape.fields.codec p).written a ((e.shape.fields.codec p).encode a) ∧
      (∀ j, (e.shape.fields.codec p).written a j →
        (d.set (e.shape.fields.spec p).name j.normal).outcome.result = .ok () ∧
        (d.set (e.shape.fields.spec p).name j.normal).draft = d.write ⟨p, a⟩) ∧
      p.get (d.write ⟨p, a⟩).slots = some a ∧
      ∀ (β : Type) (q : Place e.shape.types β),
        (e.shape.fields.spec q).name ≠ (e.shape.fields.spec p).name →
          q.get (d.write ⟨p, a⟩).slots = q.get d.slots) ∧
    ∀ null, (e.shape.fields.field p).kind = .nullable null →
      (e.shape.fields.codec p).encode null = .null ∧
      (d.set (e.shape.fields.spec p).name .null).outcome.result = .ok () ∧
      p.get (d.set (e.shape.fields.spec p).name .null).draft.slots = some null := by
  obtain ⟨n, -, hfaithful⟩ := exists_faithful_of_mem_catalogue e he
  refine ⟨fun a => ⟨?_, fun j hw => d.set_of_written hw, d.get_write_self p a, ?_⟩,
    fun null hk => ⟨hfaithful.encode_null p hk, ?_⟩⟩
  · exact hfaithful.written_encode_at p a
  · exact fun β q hne => d.get_write_of_ne p a hne
  · obtain ⟨hdraft, hok⟩ := d.set_of_accepted (Schema.accept_null hk)
    rw [hdraft]
    exact ⟨hok, d.get_write_self p null⟩

/-- Records with a null in them, an empty one and points without a label, in strict fields. -/
theorem named_writes_of_shelves :
    let s := Shelf.shape.toSchema
    let points : List Point := [⟨1, 5, none⟩, ⟨Int64.minValue, 0, none⟩]
    let records : List (Dict (Option String)) := [Sorted.empty.insert ("note", none), Sorted.empty]
    Entry.ofRecord "Shelf" Shelf ∈ catalogue ∧
    (Draft.empty.set (s := s) "points" (Codec.encode points).normal).outcome.result = .ok () ∧
    (Draft.empty.set (s := s) "records" (Codec.encode records).normal).outcome.result = .ok () := by
  intro s points records
  have he : Entry.ofRecord "Shelf" Shelf ∈ catalogue :=
    List.mem_of_getElem? (rfl : catalogue[15]? = some _)
  have hpoints := typed_and_named_writes_agree he .empty
    (.before (.before (.before (.before (.before (.before (.before .last)))))))
  have hrecords := typed_and_named_writes_agree he .empty (.before (.before (.before .last)))
  obtain ⟨hw, hset, -⟩ := hpoints.1 points
  obtain ⟨hw', hset', -⟩ := hrecords.1 records
  exact ⟨he, (hset _ hw).1, (hset' _ hw').1⟩

end StagedRecords
