import StagedRecords.Proofs.History
import StagedRecords.Proofs.NamedWrites

/-!
# Edits of a record

An edit that succeeds is one write (`Edit.exists_write`), so after a run of edits a slot holds what
the last edit of its field gave it, or else what it held before. A draft that starts from a record
has all of its slots filled, and a build of it draws no default (`edits_replace_fields`).
-/

namespace StagedRecords

theorem Slots.exists_eq_ofRow : ∀ {ts : List Type} {s : Slots ts},
    (∀ (α : Type) (p : Place ts α), p.get s ≠ Option.none) → ∃ r, s = ofRow r
  | [], _, _ => ⟨(), rfl⟩
  | _ :: _, (s, x), h => by
    obtain ⟨r, rfl⟩ := exists_eq_ofRow fun α p => h α (.before p)
    obtain ⟨a, rfl⟩ := Option.ne_none_iff_exists'.1 (h _ .last)
    exact ⟨(r, a), rfl⟩

/-- One change of a draft: a value for the field at a place, or a JSON value for the field of a
name. -/
inductive Edit (s : Schema)
  | typed (w : Write s.types)
  | named (name : String) (j : Json)

variable {s : Schema} {α : Type}

namespace Edit

/-- The draft after the edit, and how the edit ended. -/
def run (d : Draft s) : Edit s → Attempt s
  | .typed w => ⟨d.write w, .pure ()⟩
  | .named name j => d.set name j

/-- The edit is for the field at `p`, and gives it the value `a`. -/
def Gives (p : Place s.types α) (a : α) : Edit s → Prop
  | .typed w => w = ⟨p, a⟩
  | .named name j => (s.fields.spec p).name = name ∧ s.fields.Reads p j a

/-- An edit that succeeds writes what it gives. -/
theorem exists_write {d : Draft s} {e : Edit s} (h : (e.run d).outcome.result = .ok ()) :
    ∃ w : Write s.types, (e.run d).draft = d.write w ∧
      ∀ {α : Type} (p : Place s.types α) (a : α), e.Gives p a ↔ w = ⟨p, a⟩ := by
  cases e with
  | typed w => exact ⟨w, rfl, fun _ _ => .rfl⟩
  | named name j =>
    obtain ⟨⟨q, b⟩, hdraft, hname, hreads⟩ := Draft.exists_write_of_set h
    refine ⟨⟨q, b⟩, hdraft, fun p a => ⟨?_, ?_⟩⟩
    · rintro ⟨hp, ha⟩
      cases Fields.somewhere_eq_of_name s.distinct (hname.trans hp.symm)
      cases Fields.Reads.unique hreads ha
      rfl
    · intro hw
      cases hw
      exact ⟨hname, hreads⟩

end Edit

/-- Edits one after the other, each of which succeeds on the draft that it meets. -/
inductive Edits : Draft s → List (Edit s) → Draft s → Prop
  | nil (d : Draft s) : Edits d [] d
  | cons {d d' : Draft s} {e : Edit s} {es : List (Edit s)}
      (hok : (e.run d).outcome.result = .ok ()) (h : Edits (e.run d).draft es d') :
      Edits d (e :: es) d'

namespace Edits

variable {d d' : Draft s} {es : List (Edit s)} {p : Place s.types α}

theorem get_step {e : Edit s} (hok : (e.run d).outcome.result = .ok ()) :
    (∀ a, e.Gives p a → p.get (e.run d).draft.slots = some a) ∧
    ((∀ a, ¬e.Gives p a) → p.get (e.run d).draft.slots = p.get d.slots) := by
  obtain ⟨w, hdraft, hgives⟩ := Edit.exists_write hok
  rw [hdraft, Draft.write, Place.get_put]
  constructor
  · intro a ha
    rw [Place.given_eq_some_iff.2 ((hgives p a).1 ha)]
    rfl
  · intro hnone
    have hgiven : p.given w.place w.value = none :=
      Option.eq_none_iff_forall_ne_some.2 fun a ha =>
        hnone a ((hgives p a).2 (Place.given_eq_some_iff.1 ha))
    rw [hgiven, Option.none_or]

/-- A slot that no edit is for stays as it was. -/
theorem get_of_forall_not (h : Edits d es d') (hnone : ∀ e ∈ es, ∀ a, ¬e.Gives p a) :
    p.get d'.slots = p.get d.slots := by
  induction h with
  | nil d => rfl
  | cons hok _ ih =>
    rw [ih fun e he => hnone e (List.mem_cons_of_mem _ he)]
    exact (get_step hok).2 (hnone _ List.mem_cons_self)

/-- A slot holds what the last edit for it gave it. -/
theorem get_of_last {xs ys : List (Edit s)} {e : Edit s} {a : α}
    (h : Edits d (xs ++ e :: ys) d') (ha : e.Gives p a) (hlast : ∀ e' ∈ ys, ∀ b, ¬e'.Gives p b) :
    p.get d'.slots = some a := by
  -- The edits in front of the last one may do anything, so the draft they leave is arbitrary.
  induction xs generalizing d with
  | nil =>
    cases h with
    | cons hok h => rw [h.get_of_forall_not hlast, (get_step hok).1 a ha]
  | cons x xs ih =>
    cases h with
    | cons _ h => exact ih h

/-- No edit empties a slot. -/
theorem get_ne_none (h : Edits d es d') (hd : p.get d.slots ≠ none) : p.get d'.slots ≠ none := by
  induction h with
  | nil d => exact hd
  | cons hok _ ih =>
    obtain ⟨w, hdraft, -⟩ := Edit.exists_write hok
    refine ih ?_
    rw [hdraft, Draft.write, Place.get_put, ne_eq, Option.or_eq_none_iff]
    exact fun hnone => hd hnone.2

end Edits

/-! ## Edited records -/

/-- The row `r'` is `r` with the fields that the edits are for replaced, each by what the last edit
for it gives. -/
structure Schema.ReplacedBy (s : Schema) (r r' : Row s.types) (es : List (Edit s)) : Prop where
  read_of_last : ∀ (α : Type) (p : Place s.types α) (xs ys : List (Edit s)) (e : Edit s) (a : α),
    es = xs ++ e :: ys → e.Gives p a → (∀ e' ∈ ys, ∀ b, ¬e'.Gives p b) → p.read r' = a
  read_of_others : ∀ (α : Type) (p : Place s.types α), (∀ e ∈ es, ∀ a, ¬e.Gives p a) →
    p.read r' = p.read r

/-- Edits of slots that are all filled leave all of them filled, and replace what they are for. -/
theorem Edits.exists_ofRow {r : Row s.types} {es : List (Edit s)} {d : Draft s}
    (h : Edits ⟨.ofRow r⟩ es d) : ∃ r', d = ⟨.ofRow r'⟩ ∧ s.ReplacedBy r r' es := by
  obtain ⟨slots⟩ := d
  have hfilled : ∀ (α : Type) (p : Place s.types α), p.get slots ≠ none := fun α p =>
    h.get_ne_none <| by
      rw [Place.get_ofRow]
      exact Option.some_ne_none _
  obtain ⟨r', rfl⟩ := Slots.exists_eq_ofRow hfilled
  refine ⟨r', rfl, ⟨?_, ?_⟩⟩
  · rintro α p xs ys e a rfl ha hlast
    have hget := h.get_of_last ha hlast
    rw [Place.get_ofRow, Option.some.injEq] at hget
    exact hget
  · intro α p hnone
    have hget := h.get_of_forall_not hnone
    rw [Place.get_ofRow, Place.get_ofRow, Option.some.injEq] at hget
    exact hget

namespace RecordShape

variable {V : Type}

theorem build_ofRow (s : RecordShape V) (fresh : Nat → Uuid) (r : Row s.types) :
    (s.toShape.build fresh ⟨.ofRow r⟩).result = .ok (s.make r) :=
  Shape.build_of_ok (s.fields.resolve_ofRow fresh r)

theorem build_draft (s : RecordShape V) (fresh : Nat → Uuid) (v : V) :
    (s.toShape.build fresh (s.toShape.draft v)).result = .ok v :=
  build_of_ok (s.fields.resolve_ofRow fresh (s.row v))

/-- After edits of a record, a build makes the record with the edited fields replaced, whatever
identifiers there are to draw. -/
theorem exists_build_of_edits (s : RecordShape V) {v : V} {es : List (Edit s.toSchema)}
    {d : Draft s.toSchema} (h : Edits (s.toShape.draft v) es d) :
    ∃ v', s.ReplacedBy (s.row v) (s.row v') es ∧
      ∀ fresh, (s.toShape.build fresh d).result = .ok v' := by
  obtain ⟨r, rfl, hreplaced⟩ := Edits.exists_ofRow (r := s.row v) h
  refine ⟨s.make r, ?_, fun fresh => s.build_ofRow fresh r⟩
  rw [s.row_make]
  exact hreplaced

end RecordShape

/-- A build after edits of a record makes the record with just the edited fields replaced, and
without edits the record itself. No default is made again, not even one that is computed from an
edited field or drawn. The draft that starts from a record is the one that a write of each of its
fields makes of the empty draft, and the one that a session goes on with. A record type of its own,
any buildable type and the conversion of values give the same one. -/
theorem edits_replace_fields :
    (∀ (V : Type) (s : RecordShape V) (v : V) (es : List (Edit s.toSchema)) (d : Draft s.toSchema),
      Edits (s.toShape.draft v) es d →
        ∃ v', s.ReplacedBy (s.row v) (s.row v') es ∧
          ∀ fresh, (s.toShape.build fresh d).result = .ok v') ∧
    (∀ (V : Type) (s : RecordShape V) (v : V) (fresh : Nat → Uuid),
      (s.toShape.build fresh (s.toShape.draft v)).result = .ok v) ∧
    (∀ (V : Type) (s : RecordShape V) (v : V),
      Draft.empty.writeAll (s.toShape.history v) = s.toShape.draft v ∧
      ∀ (n : Session s.toShape) (name : String), n.values.get? name = some v →
        (n.reopen name).map Session.draft = some (s.toShape.draft v)) ∧
    (∀ (V : Type) [Buildable V] (v : V),
      (Buildable.shape : RecordShape V).toDraft v = Buildable.toDraft v ∧
      Buildable.toDraft v = (Buildable.shape : RecordShape V).toShape.draft v) ∧
    (∀ (v : Account) (owner : String) (fresh : Nat → Uuid), ∃ p,
      Account.fields.find? "owner" = some ⟨p⟩ ∧
      (Account.shape.toShape.build fresh
        ((Account.shape.toShape.draft v).write ⟨p, owner⟩)).result =
          .ok { v with owner := owner }) ∧
    (∀ (v : Point) (x : Int64) (fresh : Nat → Uuid), ∃ p,
      Point.fields.find? "x" = some ⟨p⟩ ∧
      (Point.shape.toShape.build fresh ((Point.shape.toShape.draft v).write ⟨p, x⟩)).result =
        .ok { v with x := x }) ∧
    (∀ (v : Shelf) (points : List Point) (fresh : Nat → Uuid), ∃ p,
      Shelf.fields.find? "points" = some ⟨p⟩ ∧
      (Shelf.shape.toShape.build fresh ((Shelf.shape.toShape.draft v).write ⟨p, points⟩)).result =
        .ok { v with points := points }) ∧
    (∀ (v : DrawnDefaults) (foo : String) (fresh : Nat → Uuid), ∃ p,
      DrawnDefaults.fields.find? "foo" = some ⟨p⟩ ∧
      (DrawnDefaults.shape.toShape.build fresh
        ((DrawnDefaults.shape.toShape.draft v).write ⟨p, foo⟩)).result =
          .ok { v with foo := foo }) := by
  refine ⟨fun V s v es d => s.exists_build_of_edits, fun V s v fresh => s.build_draft fresh v,
    fun V s v => ⟨Draft.writeAll_writes (s.toShape.refill v), fun n name hv => ?_⟩,
    fun V _ v => ⟨rfl, rfl⟩, fun v owner fresh => ⟨_, rfl, rfl⟩, fun v x fresh => ⟨_, rfl, rfl⟩,
    fun v points fresh => ⟨_, rfl, rfl⟩, fun v foo fresh => ⟨_, rfl, rfl⟩⟩
  rw [Session.reopen, hv]
  rfl

end StagedRecords
