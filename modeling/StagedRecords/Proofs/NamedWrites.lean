import StagedRecords.Proofs.Contract

/-!
# Writes by name

How a write by name ends depends on the name and the JSON value alone (`set_outcome`). One that
succeeds writes what the value reads as, at the place of the field of that name
(`exists_write_of_set`), and a write at one place leaves the slots of all other fields as they are
(`get_write_of_ne`).
-/

namespace StagedRecords

variable {ts : List Type} {α β : Type}

namespace Fields

variable {fs : Fields ts} {p : Place ts α} {j : Json} {a b : α}

/-- What a JSON value stands for in a field: null for the null of a nullable field, and anything
else for what it decodes as. -/
def Reads (fs : Fields ts) (p : Place ts α) (j : Json) (a : α) : Prop :=
  if j.isNull then (fs.field p).kind = .nullable a else ((fs.codec p).decode j).result = .ok a

theorem Reads.unique (ha : fs.Reads p j a) (hb : fs.Reads p j b) : a = b := by
  unfold Reads at ha hb
  by_cases hj : j.isNull = true
  · rw [if_pos hj] at ha hb
    exact Kind.nullable.inj (ha.symm.trans hb)
  · rw [if_neg hj] at ha hb
    exact Except.ok.inj (ha.symm.trans hb)

theorem reads_of_accept {builder : String} (h : (fs.accept builder j p).result = .ok a) :
    fs.Reads p j a := by
  rw [accept_eq] at h
  let := (fs.field p).codec
  rw [Reads, codec_eq]
  rcases hj : j.isNull with _ | _
  · exact Kind.decode_of_accept hj h
  · rw [Json.isNull_iff.1 hj] at h
    exact Kind.eq_nullable_of_accept h

/-- Two places of one name are one place. -/
theorem somewhere_eq_of_name (h : fs.names.Nodup) {p : Place ts α} {q : Place ts β}
    (hname : (fs.spec p).name = (fs.spec q).name) : (⟨p⟩ : Somewhere ts) = ⟨q⟩ := by
  have hp := find?_spec h p
  rw [hname, find?_spec h q, Option.some.injEq] at hp
  exact hp.symm

theorem given_eq_none {q : Place ts β} (h : (fs.spec q).name ≠ (fs.spec p).name) :
    q.given p a = none := by
  rcases hg : q.given p a with _ | b
  · rfl
  · cases Place.eq_of_given q p hg
    exact absurd rfl h

end Fields

variable {s : Schema}

namespace Draft

variable (d : Draft s)

theorem set_outcome (name : String) (j : Json) :
    (d.set name j).outcome = (s.accept name j).map fun _ => () := by
  unfold set
  split <;> next heq => rw [heq]; rfl

variable {d} {name : String} {j : Json}

theorem exists_accept_of_set (h : (d.set name j).outcome.result = .ok ()) :
    ∃ w, (s.accept name j).result = .ok w := by
  rw [set_outcome, Traced.result_map_eq_ok_iff] at h
  obtain ⟨w, hw, -⟩ := h
  exact ⟨w, hw⟩

theorem accept_of_set_error {e : Refusal} (h : (d.set name j).outcome.result = .error e) :
    (s.accept name j).result = .error e := by
  rcases ha : (s.accept name j).result with e' | w
  · rw [(d.set_of_refused ha).2] at h
    cases h
    rfl
  · rw [(d.set_of_accepted ha).2] at h
    cases h

/-- A write by name that succeeds is the write of what the value reads as at the place of that
name. -/
theorem exists_write_of_set (h : (d.set name j).outcome.result = .ok ()) :
    ∃ w : Write s.types, (d.set name j).draft = d.write w ∧
      (s.fields.spec w.place).name = name ∧ s.fields.Reads w.place j w.value := by
  obtain ⟨w, hw⟩ := exists_accept_of_set h
  obtain ⟨hname, hvalue⟩ := Schema.accept_eq_ok hw
  exact ⟨w, (d.set_of_accepted hw).1, hname, Fields.reads_of_accept hvalue⟩

variable (d) (p : Place s.types α) (a : α)

theorem get_write_self : p.get (d.write ⟨p, a⟩).slots = some a := by
  rw [write, Place.get_put, Place.given_self]
  rfl

theorem get_write_of_ne {q : Place s.types β}
    (h : (s.fields.spec q).name ≠ (s.fields.spec p).name) :
    q.get (d.write ⟨p, a⟩).slots = q.get d.slots := by
  rw [write, Place.get_put, Fields.given_eq_none h]
  rfl

end Draft

end StagedRecords
