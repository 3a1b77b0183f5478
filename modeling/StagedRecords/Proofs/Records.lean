import StagedRecords.Proofs.Builds
import StagedRecords.Proofs.Codecs
import StagedRecords.Proofs.Documents
import StagedRecords.Proofs.Writes

/-!
# Records that read back what they write

The fields of a record are `Faithful` if each is accepted, under its own name, from everything its
value may be written as. Setting a written record then writes each field once, so it fills the
slots with the values of the record whatever they held before (`Draft.setAll_of_written`).
-/

namespace StagedRecords

open Codec (NeverNull HoldsNoNull NoNullElement)

namespace Policy

variable {α : Type} [Codec α] {n : Nat} [hc : Codec.Faithful α n] {a : α} {j : Json}
  (builder field : String)

include hc

theorem decoded_of_written (hw : Codec.written a j) :
    (decoded builder field j.normal : Accepted α).result = .ok a :=
  Traced.result_mapError_eq_ok_iff.2 (hc.decode_normal hw)

theorem required_of_written [NeverNull α] (hw : Codec.written a j) :
    (required builder field j.normal : Accepted α).result = .ok a := by
  rw [required, Json.isNull_normal, NeverNull.isNull_eq hw, if_neg Bool.false_ne_true]
  exact decoded_of_written builder field hw

theorem strict_of_written [NeverNull α] [NoNullElement α] (hw : Codec.written a j) :
    (strict builder field j.normal : Accepted α).result = .ok a := by
  rw [strict, Json.isNull_normal, NeverNull.isNull_eq hw, if_neg Bool.false_ne_true,
    NoNullElement.hasNullElement_eq hw, if_neg Bool.false_ne_true]
  exact decoded_of_written builder field hw

theorem nullable_of_written [NeverNull α] {x : Option α} (hw : Codec.written x j) :
    (nullable none builder field j.normal : Accepted (Option α)).result = .ok x := by
  rw [nullable, Json.isNull_normal]
  cases x with
  | none =>
    have hj : j = .null := hw
    rw [hj]
    rfl
  | some b =>
    have hb : Codec.written b j := hw
    rw [NeverNull.isNull_eq hb, if_neg Bool.false_ne_true]
    exact decoded_of_written builder field hw

end Policy

namespace Fields

variable {ts : List Type} {α : Type} {m n : Nat}

/-- Fields that take, under their names, whatever their values may be written as. -/
class Faithful (fs : Fields ts) (depth : outParam Nat) : Prop where
  written_encode_at : ∀ {α : Type} (p : Place ts α) (a : α),
    (fs.codec p).written a ((fs.codec p).encode a)
  encode_null : ∀ {α : Type} (p : Place ts α) {null : α}, (fs.field p).kind = .nullable null →
    (fs.codec p).encode null = .null
  accept_of_written : ∀ {α : Type} (p : Place ts α) {a : α} {j : Json} (builder : String),
    (fs.codec p).written a j → (fs.accept builder j.normal p).result = .ok a
  fit : ∀ {r : Row ts} {ms : List (String × Json)}, fs.written r ms → Json.MembersFit depth ms

theorem written_encode_of_forall : ∀ {ts : List Type} {fs : Fields ts},
    (∀ (α : Type) (p : Place ts α) (a : α), (fs.codec p).written a ((fs.codec p).encode a)) →
      ∀ r, fs.written r (fs.encode r)
  | _, .nil, _, _ => rfl
  | _, .snoc _ _, h, (r, a) =>
    ⟨_, _, written_encode_of_forall (fun β p => h β (.before p)) r, h _ .last a, rfl⟩

theorem Faithful.written_encode {fs : Fields ts} [hs : fs.Faithful m] (r : Row ts) :
    fs.written r (fs.encode r) :=
  written_encode_of_forall (fun _ p => hs.written_encode_at p) r

/-- One more field is taken if its kind takes what its codec writes and writes its null as null. -/
theorem faithful_snoc {fs : Fields ts} [hfs : fs.Faithful m] [c : Codec α] [Codec.Faithful α n]
    {name : String} {kind : Kind (Row ts) α}
    (hnull : ∀ {null : α}, kind = .nullable null → Codec.encode null = .null)
    (haccept : ∀ (builder : String) {a : α} {j : Json}, Codec.written a j →
      (kind.accept builder name j.normal).result = .ok a) :
    (fs.snoc ⟨name, kind, c⟩).Faithful (max m n) where
  written_encode_at p a := by
    cases p with
    | last => exact Codec.Faithful.written_encode a
    | before p => exact hfs.written_encode_at p a
  encode_null p _ hk := by
    cases p with
    | last => exact hnull hk
    | before p => exact hfs.encode_null p hk
  accept_of_written p _ _ builder hw := by
    cases p with
    | last => exact haccept builder hw
    | before p =>
      have hp : (fs.codec p).written _ _ := hw
      exact Faithful.accept_of_written p builder hp
  fit := by
    rintro ⟨r, a⟩ ms ⟨earlier, j, hearlier, hj, rfl⟩
    have hw : Codec.written a j := hj
    refine Json.membersFit_iff.2 fun member hmember => ?_
    rcases List.mem_append.1 hmember with hmem | hmem
    · exact (Json.membersFit_iff.1 (Faithful.fit hearlier) _ hmem).mono (Nat.le_max_left _ _)
    · rw [List.mem_singleton.1 hmem]
      exact (Codec.Faithful.fits hw).mono (Nat.le_max_right _ _)

instance : Fields.nil.Faithful 0 where
  written_encode_at p := nomatch p
  encode_null p := nomatch p
  accept_of_written p := nomatch p
  fit hw := by
    cases hw
    trivial

section Declared

variable (fs : Fields ts) [fs.Faithful m] (name : String)

instance [Codec α] [Codec.Faithful α n] [NeverNull α] :
    (fs.required name α).Faithful (max m n) :=
  faithful_snoc nofun fun builder => Policy.required_of_written builder name

instance [Codec α] [Codec.Faithful α n] [NeverNull α] [NoNullElement α] :
    (fs.strict name α).Faithful (max m n) :=
  faithful_snoc nofun fun builder => Policy.strict_of_written builder name

instance [Codec α] [Codec.Faithful α n] [NeverNull α] : (fs.nullable name α).Faithful (max m n) :=
  faithful_snoc (fun hk => by cases hk; rfl) fun builder =>
    Policy.nullable_of_written builder name

instance [Codec α] [Codec.Faithful α n] [NeverNull α] (value : Row ts → α) :
    (fs.defaulted name value).Faithful (max m n) :=
  faithful_snoc nofun fun builder => Policy.required_of_written builder name

instance [Codec α] [Codec.Faithful α n] [NeverNull α] (value : Uuid → α) :
    (fs.drawn name value).Faithful (max m n) :=
  faithful_snoc nofun fun builder => Policy.required_of_written builder name

end Declared

/-! ## Written members -/

theorem names_of_written : ∀ {ts : List Type} {fs : Fields ts} {r : Row ts}
    {ms : List (String × Json)}, fs.written r ms → ms.map Prod.fst = fs.names
  | _, .nil, _, _, hw => by
    rw [hw]
    rfl
  | _, .snoc fs f, (r, a), ms, hw => by
    obtain ⟨earlier, j, hearlier, -, rfl⟩ := hw
    rw [names_snoc, List.map_append, names_of_written hearlier]
    rfl

theorem mem_of_written : ∀ {ts : List Type} {α : Type} {fs : Fields ts} {r : Row ts}
    {ms : List (String × Json)}, fs.written r ms → ∀ p : Place ts α,
      ∃ j, (fs.codec p).written (p.read r) j ∧ ((fs.spec p).name, j) ∈ ms
  | _, _, .snoc fs f, (r, a), ms, hw, .last => by
    obtain ⟨earlier, j, -, hj, rfl⟩ := hw
    exact ⟨j, hj, List.mem_append_right _ List.mem_cons_self⟩
  | _, _, .snoc fs f, (r, a), ms, hw, .before p => by
    obtain ⟨earlier, j, hearlier, -, rfl⟩ := hw
    obtain ⟨i, hi, hmem⟩ := mem_of_written hearlier p
    exact ⟨i, hi, List.mem_append_left _ hmem⟩

theorem exists_of_written : ∀ {ts : List Type} {fs : Fields ts} {r : Row ts}
    {ms : List (String × Json)}, fs.written r ms → ∀ member ∈ ms,
      ∃ (α : Type) (p : Place ts α), member.1 = (fs.spec p).name ∧
        (fs.codec p).written (p.read r) member.2
  | _, .nil, _, _, hw, member, hmem => by
    rw [hw] at hmem
    cases hmem
  | _, @snoc _ α fs f, (r, a), ms, hw, member, hmem => by
    obtain ⟨earlier, j, hearlier, hj, rfl⟩ := hw
    rcases List.mem_append.1 hmem with hmem | hmem
    · obtain ⟨β, p, hname, hp⟩ := exists_of_written hearlier member hmem
      exact ⟨β, .before p, hname, hp⟩
    · rw [List.mem_singleton.1 hmem]
      exact ⟨α, .last, rfl, hj⟩

end Fields

/-! ## Filling slots from a written record -/

section Filling

variable {s : Schema} {n : Nat} [hs : s.fields.Faithful n] {r : Row s.types}
  {ms l : List (String × Json)}

include hs

theorem Schema.accept_of_written {α : Type} {p : Place s.types α} {a : α} {j : Json}
    (hw : (s.fields.codec p).written a j) :
    (s.accept (s.fields.spec p).name j.normal).result = .ok ⟨p, a⟩ :=
  accept_spec_of_ok (hs.accept_of_written p s.builder hw)

theorem Schema.exists_accept_of_written (hw : s.fields.written r ms) {m : String × Json}
    (hm : m ∈ ms) : ∃ (α : Type) (p : Place s.types α),
      (s.accept m.1 m.2.normal).result = .ok ⟨p, p.read r⟩ := by
  obtain ⟨α, p, hname, hp⟩ := Fields.exists_of_written hw m hm
  refine ⟨α, p, ?_⟩
  rw [hname]
  exact accept_of_written hp

theorem Schema.accept_spec_of_written (hw : s.fields.written r ms) {α : Type}
    (p : Place s.types α) : ∃ j, ((s.fields.spec p).name, j) ∈ ms ∧
      (s.accept (s.fields.spec p).name j.normal).result = .ok ⟨p, p.read r⟩ := by
  obtain ⟨j, hj, hmem⟩ := Fields.mem_of_written hw p
  exact ⟨j, hmem, accept_of_written hj⟩

/-- The members of a written record, in any order, fill the slots with its row. -/
theorem Draft.setAll_of_written (hw : s.fields.written r ms)
    (hl : l.Perm (ms.map fun m => (m.1, m.2.normal))) (d : Draft s) :
    (d.setAll l).outcome.result = .ok () ∧ (d.setAll l).draft = ⟨.ofRow r⟩ := by
  have hmember : ∀ m ∈ l, ∃ (α : Type) (p : Place s.types α),
      (s.accept m.1 m.2).result = .ok ⟨p, p.read r⟩ := by
    intro m hm
    obtain ⟨m', hm', rfl⟩ := List.mem_map.1 (hl.mem_iff.1 hm)
    exact Schema.exists_accept_of_written hw hm'
  have haccepts : s.Accepts l := by
    intro m hm
    obtain ⟨α, p, hp⟩ := hmember m hm
    exact ⟨_, hp⟩
  refine ⟨d.setAll_of_accepts l haccepts, Draft.ext fun α p => ?_⟩
  have hwrites : ∀ a, (⟨p, a⟩ : Write s.types) ∈ s.writes l ↔ some (p.read r) = some a := by
    intro a
    rw [Schema.mem_writes haccepts, Option.some.injEq]
    constructor
    · rintro ⟨m, hm, hacc⟩
      obtain ⟨β, q, hq⟩ := hmember m hm
      rw [hq] at hacc
      cases hacc
      rfl
    · rintro rfl
      obtain ⟨j, hmem, hp⟩ := Schema.accept_spec_of_written hw p
      exact ⟨_, hl.mem_iff.2 (List.mem_map_of_mem hmem), hp⟩
  rw [d.setAll_draft, Draft.get_writeAll, Place.lastOf_eq_of_mem_iff hwrites, Place.get_ofRow]
  rfl

end Filling

namespace RecordShape

variable {V : Type} {s : RecordShape V} {v : V} {j : Json}

theorem written_encode {n : Nat} [hs : s.fields.Faithful n] (v : V) : s.written v (s.encode v) :=
  ⟨_, hs.written_encode (s.row v), rfl⟩

theorem fits_of_written {n : Nat} [hs : s.fields.Faithful n] (hw : s.written v j) :
    j.Fits (n + 1) := by
  obtain ⟨ms, hms, rfl⟩ := hw
  exact hs.fit hms

theorem normal_of_written (hw : s.written v j) : ∃ (ms : List (String × Json)) (o : Object),
    s.fields.written (s.row v) ms ∧ j.normal = .object o.toList ∧
      o.toList.Perm (ms.map fun m => (m.1, m.2.normal)) := by
  obtain ⟨ms, hms, rfl⟩ := hw
  refine ⟨ms, _, hms, Json.normal_object ms, Sorted.toList_ofList_perm ?_⟩
  refine Dict.distinct_of_nodup ?_
  rw [List.map_map]
  show (ms.map Prod.fst).Nodup
  rw [Fields.names_of_written hms]
  exact s.distinct

variable {n : Nat} [hs : s.fields.Faithful n]

include hs

/-- Applying a written record leaves the draft that starts from it, whatever the slots held. -/
theorem apply_of_written (hw : s.written v j) : ∃ o : Object, j.normal = .object o.toList ∧
    ∀ d : Draft s.toSchema,
      (d.apply o).outcome.result = .ok () ∧ (d.apply o).draft = s.toShape.draft v := by
  obtain ⟨ms, o, hms, hj, hperm⟩ := normal_of_written hw
  exact ⟨o, hj, fun d => d.setAll_of_written hms hperm⟩

theorem ofObject_of_written (hw : s.written v j) (fresh : Nat → Uuid) :
    ∃ o : Object, j.normal = .object o.toList ∧
      (s.toShape.ofObject fresh o).result = .ok v := by
  obtain ⟨o, hj, happly⟩ := apply_of_written hw
  obtain ⟨hok, hdraft⟩ := happly .empty
  have hbuild : (s.toShape.build fresh (s.toShape.draft v)).result = .ok v :=
    build_of_ok (s.fields.resolve_ofRow fresh (s.row v))
  have hof : (s.toShape.ofObject fresh o).result =
      (s.toShape.build fresh (s.toShape.draft v)).result :=
    (Traced.result_bind_of_ok hok).trans
      (congrArg (fun d => (s.toShape.build fresh d).result) hdraft)
  exact ⟨o, hj, hof.trans hbuild⟩

theorem decode_of_written (hw : s.written v j) (fresh : Nat → Uuid) :
    (s.decode fresh j.normal).result = .ok v := by
  obtain ⟨o, hj, hof⟩ := ofObject_of_written hw fresh
  rw [hj]
  exact Traced.result_mapError_eq_ok_iff.2 hof

theorem ofText_of_written (hw : s.written v j) (hn : n < Json.maxDepth) (fresh : Nat → Uuid) :
    (s.ofText fresh j.text).result = .ok v := by
  obtain ⟨o, hj, hof⟩ := ofObject_of_written hw fresh
  refine ofText_eq_ok_iff.2 ⟨o, ?_, hof⟩
  rw [Json.parse_text ((fits_of_written hw).mono hn), hj]

end RecordShape

end StagedRecords
