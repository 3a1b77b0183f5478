import StagedRecords.Proofs.Builds
import StagedRecords.Proofs.Documents
import StagedRecords.Proofs.Writes

/-!
# Records from objects, values and texts

A record built from an object fails on the least key that a write by name refuses; if there is
none, on the first field in the order of declaration that must be set and has no member; and
otherwise succeeds with every field as its member or its declaration says (`ofObject_outcome`). A
JSON value or a text is read as a record just when it is an object that the record can be built
from.
-/

namespace StagedRecords

/-! ## What a member gives its field -/

namespace Kind

variable {R α : Type} [Codec α] {k : Kind R α} {builder field : String} {a : α}

theorem decode_of_accept {j : Json} (hj : j.isNull = false)
    (h : (k.accept builder field j).result = .ok a) :
    (Codec.decode j : Decoded α).result = .ok a := by
  cases k with
  | strict =>
    simp only [accept, Policy.strict, hj, Bool.false_eq_true, if_false] at h
    split at h
    · cases h
    · exact Traced.result_mapError_eq_ok_iff.1 h
  | _ =>
    simp only [accept, Policy.nullable, Policy.required, hj, Bool.false_eq_true, if_false] at h
    exact Traced.result_mapError_eq_ok_iff.1 h

theorem eq_nullable_of_accept (h : (k.accept builder field .null).result = .ok a) :
    k = .nullable a := by
  cases k <;> cases h
  rfl

end Kind

namespace Fields

variable {ts : List Type} {α : Type}

/-- The field must be set, and the object has no member for it. -/
def Absent (fs : Fields ts) (o : Object) (p : Place ts α) : Prop :=
  (fs.spec p).nullability.mustBeSet = true ∧ o.get? (fs.spec p).name = none

/-- The first field in the order of declaration that must be set and has no member. -/
structure AbsentFirst (fs : Fields ts) (o : Object) (p : Place ts α) : Prop where
  absent : fs.Absent o p
  least : ∀ (β : Type) (q : Place ts β), q.index < p.index → ¬fs.Absent o q

/-- Every field of the row has what its member decodes as, where null stands for the null of a
nullable field, or what its declaration says of the fields before it if there is no member. -/
structure ReadsFrom (fs : Fields ts) (fresh : Nat → Uuid) (o : Object) (r : Row ts) : Prop where
  read_of_value : ∀ (α : Type) (p : Place ts α) (j : Json), o.get? (fs.spec p).name = some j →
    j.isNull = false → ((fs.codec p).decode j).result = .ok (p.read r)
  read_of_null : ∀ (α : Type) (p : Place ts α), o.get? (fs.spec p).name = some .null →
    ∃ null, (fs.field p).kind = .nullable null ∧ p.read r = null
  read_of_nullable : ∀ (α : Type) (p : Place ts α) (null : α), o.get? (fs.spec p).name = none →
    (fs.field p).kind = .nullable null → p.read r = null
  read_of_defaulted : ∀ (α : Type) (p : Place ts α) (value : Row p.earlierTypes → α),
    o.get? (fs.spec p).name = none → (fs.field p).kind = .defaulted value →
      p.read r = value (p.earlier r)
  read_of_drawn : ∀ (α : Type) (p : Place ts α) (value : Uuid → α),
    o.get? (fs.spec p).name = none → (fs.field p).kind = .drawn value →
      p.read r = value (fresh p.index)

end Fields

/-! ## The slots that an object fills -/

namespace Schema

variable {s : Schema} {o : Object} {α : Type}

/-- Every member is one that a write by name takes. -/
def Takes (s : Schema) (o : Object) : Prop :=
  ∀ (key : String) (j : Json), o.get? key = some j →
    ∀ d : Draft s, (d.set key j).outcome.result = .ok ()

/-- The least key whose member a write by name refuses, with the refusal. -/
structure RefusesFirst (s : Schema) (o : Object) (key : String) (e : Refusal) : Prop where
  refused : ∃ j, o.get? key = some j ∧ ∀ d : Draft s, (d.set key j).outcome.result = .error e
  least : ∀ (key' : String) (j : Json), o.get? key' = some j → compare key' key = .lt →
    ∀ d : Draft s, (d.set key' j).outcome.result = .ok ()

theorem takes_of_accepts (h : s.Accepts o.toList) : s.Takes o := by
  intro key j hj d
  obtain ⟨w, hw⟩ := h _ (Dict.get?_eq_some_iff.1 hj)
  exact (d.set_of_accepted hw).2

/-- The members before the first that is refused are those with smaller keys. -/
theorem refusesFirst_of_refused {xs ys : List (String × Json)} {key : String} {j : Json}
    {e : Refusal} (ho : o.toList = xs ++ (key, j) :: ys) (hxs : s.Accepts xs)
    (he : (s.accept key j).result = .error e) : s.RefusesFirst o key e where
  refused := by
    refine ⟨j, Dict.get?_eq_some_iff.2 ?_, fun d => (d.set_of_refused he).2⟩
    rw [ho]
    exact List.mem_append_right _ List.mem_cons_self
  least key' j' hj' hlt d := by
    obtain ⟨w, hw⟩ := hxs _ ((Dict.mem_front_iff ho).2 ⟨hj', hlt⟩)
    exact (d.set_of_accepted hw).2

theorem mem_writes_object (h : s.Accepts o.toList) {p : Place s.types α} {a : α} :
    (⟨p, a⟩ : Write s.types) ∈ s.writes o.toList ↔
      ∃ j, o.get? (s.fields.spec p).name = some j ∧
        (s.fields.accept s.builder j p).result = .ok a := by
  simp only [mem_writes_at h, Dict.get?_eq_some_iff]

end Schema

namespace Draft

variable {s : Schema} {o : Object} {α : Type} {p : Place s.types α}

theorem get_apply_empty (o : Object) (p : Place s.types α) :
    p.get (apply .empty o : Attempt s).draft.slots = p.lastOf (s.writes o.toList) := by
  rw [apply, setAll_draft, get_writeAll, empty, Place.get_none, Option.or_none]

theorem get_apply_empty_eq_none_iff (h : s.Accepts o.toList) :
    p.get (apply .empty o : Attempt s).draft.slots = none ↔
      o.get? (s.fields.spec p).name = none := by
  rw [get_apply_empty, Place.lastOf_eq_none_iff]
  constructor
  · intro hnone
    rcases hj : o.get? (s.fields.spec p).name with _ | j
    · rfl
    · obtain ⟨w, hw⟩ := h _ (Dict.get?_eq_some_iff.1 hj)
      rw [Schema.accept_spec, Traced.result_map_eq_ok_iff] at hw
      obtain ⟨a, ha, -⟩ := hw
      exact absurd ((Schema.mem_writes_object h).2 ⟨j, hj, ha⟩) (hnone a)
  · intro hj a hmem
    obtain ⟨j, hj', -⟩ := (Schema.mem_writes_object h).1 hmem
    rw [hj] at hj'
    cases hj'

theorem get_apply_empty_of_get? (h : s.Accepts o.toList) {j : Json}
    (hj : o.get? (s.fields.spec p).name = some j) :
    ∃ a, p.get (apply .empty o : Attempt s).draft.slots = some a ∧
      (s.fields.accept s.builder j p).result = .ok a := by
  rcases hslot : p.get (apply .empty o : Attempt s).draft.slots with _ | a
  · rw [(get_apply_empty_eq_none_iff h).1 hslot] at hj
    cases hj
  · rw [get_apply_empty] at hslot
    obtain ⟨j', hj', ha⟩ := (Schema.mem_writes_object h).1 (Place.mem_of_lastOf hslot)
    rw [hj] at hj'
    cases hj'
    exact ⟨a, rfl, ha⟩

theorem readsFrom_of_resolves (h : s.Accepts o.toList) {fresh : Nat → Uuid} {r : Row s.types}
    (hr : s.fields.Resolves fresh (apply .empty o : Attempt s).draft.slots r) :
    s.fields.ReadsFrom fresh o r where
  read_of_value α p j hj hnull := by
    obtain ⟨a, hslot, ha⟩ := get_apply_empty_of_get? h hj
    rw [hr.read_of_set α p a hslot, Fields.codec_eq]
    rw [Fields.accept_eq] at ha
    let := (s.fields.field p).codec
    exact Kind.decode_of_accept hnull ha
  read_of_null α p hj := by
    obtain ⟨a, hslot, ha⟩ := get_apply_empty_of_get? h hj
    rw [Fields.accept_eq] at ha
    let := (s.fields.field p).codec
    exact ⟨a, Kind.eq_nullable_of_accept ha, hr.read_of_set α p a hslot⟩
  read_of_nullable α p null hj :=
    hr.read_of_nullable α p null ((get_apply_empty_eq_none_iff h).2 hj)
  read_of_defaulted α p value hj :=
    hr.read_of_defaulted α p value ((get_apply_empty_eq_none_iff h).2 hj)
  read_of_drawn α p value hj :=
    hr.read_of_drawn α p value ((get_apply_empty_eq_none_iff h).2 hj)

theorem lacks_apply_empty_iff (h : s.Accepts o.toList) :
    s.fields.Lacks (apply .empty o : Attempt s).draft.slots p ↔ s.fields.Absent o p :=
  and_congr_right fun _ => get_apply_empty_eq_none_iff h

end Draft

/-! ## The contract -/

namespace Shape

variable {V : Type}

/-- An object is refused for its least refused key, or else for the first field that must be set
and has no member, or else makes the value that is read from it. -/
theorem ofObject_outcome (s : Shape V) (fresh : Nat → Uuid) (o : Object) :
    (∃ key e, s.RefusesFirst o key e ∧ (s.ofObject fresh o).result = .error e) ∨
    (s.Takes o ∧ ∃ (α : Type) (p : Place s.types α), s.fields.AbsentFirst o p ∧
      (s.ofObject fresh o).result = .error ⟨s.builder, (s.fields.spec p).name, .missing⟩) ∨
    (s.Takes o ∧ (∀ (α : Type) (p : Place s.types α), ¬s.fields.Absent o p) ∧
      ∃ r, (s.ofObject fresh o).result = .ok (s.make r) ∧ s.fields.ReadsFrom fresh o r) := by
  rcases s.accepts_or_refused o.toList with h | ⟨xs, key, j, ys, e, ho, hxs, he⟩
  · have hset : (Draft.apply .empty o : Attempt s.toSchema).outcome.result = .ok () :=
      Draft.setAll_of_accepts _ _ h
    have hof : (s.ofObject fresh o).result =
        (s.build fresh (Draft.apply .empty o).draft).result := Traced.result_bind_of_ok hset
    rw [hof]
    refine .inr ?_
    rcases s.build_error_or_ok fresh (Draft.apply .empty o).draft with
      ⟨α, p, hp, hbuild⟩ | ⟨hall, r, hbuild, hr⟩
    · refine .inl ⟨s.takes_of_accepts h, α, p, ⟨?_, fun β q hlt hq => ?_⟩, hbuild⟩
      · exact (Draft.lacks_apply_empty_iff h).1 hp.lacks
      · exact hp.least β q hlt ((Draft.lacks_apply_empty_iff h).2 hq)
    · refine .inr ⟨s.takes_of_accepts h, fun α p hp => ?_, r, hbuild, ?_⟩
      · exact hall α p ((Draft.lacks_apply_empty_iff h).2 hp)
      · exact Draft.readsFrom_of_resolves h hr
  · refine .inl ⟨key, e, s.refusesFirst_of_refused ho hxs he, ?_⟩
    refine Traced.result_bind_of_error ?_
    rw [ho]
    exact Draft.setAll_of_refused _ hxs he

end Shape

namespace RecordShape

variable {V : Type} {s : RecordShape V} {fresh : Nat → Uuid}

theorem decode_eq_ok_iff {j : Json} {v : V} :
    (s.decode fresh j.normal).result = .ok v ↔
      ∃ o : Object, j.normal = .object o.toList ∧ (s.toShape.ofObject fresh o).result = .ok v := by
  constructor
  · intro h
    rcases hj : j.normal with _ | _ | _ | _ | _ | _ | ms
    case object =>
      obtain ⟨o, rfl⟩ := Json.exists_object_of_normal hj
      rw [hj] at h
      exact ⟨o, rfl, Traced.result_mapError_eq_ok_iff.1 h⟩
    all_goals
      rw [hj] at h
      cases h
  · rintro ⟨o, hj, ho⟩
    rw [hj]
    exact Traced.result_mapError_eq_ok_iff.2 ho

theorem decode_of_error {o : Object} {e : Refusal}
    (h : (s.toShape.ofObject fresh o).result = .error e) :
    (s.decode fresh (.object o.toList)).result = .error (.refused e) := by
  show ((s.toShape.ofObject fresh o).mapError Fault.refused).result = _
  rw [Traced.result_mapError, h]
  rfl

/-- What a record is built from and how it fails, that a value and a text are read as a record
just when they are, as a whole, an object that makes it, and that they fail with the wording of the
refusal when the object is refused. -/
theorem reading_contract (s : RecordShape V) (fresh : Nat → Uuid) :
    (∀ o : Object,
      (∃ key e, s.RefusesFirst o key e ∧ (s.toShape.ofObject fresh o).result = .error e) ∨
      (s.Takes o ∧ ∃ (α : Type) (p : Place s.types α), s.fields.AbsentFirst o p ∧
        (s.toShape.ofObject fresh o).result =
          .error ⟨s.builder, (s.fields.spec p).name, .missing⟩) ∨
      (s.Takes o ∧ (∀ (α : Type) (p : Place s.types α), ¬s.fields.Absent o p) ∧
        ∃ r, (s.toShape.ofObject fresh o).result = .ok (s.make r) ∧
          s.fields.ReadsFrom fresh o r)) ∧
    (∀ (j : Json) (v : V), (s.decode fresh j.normal).result = .ok v ↔
      ∃ o : Object, j.normal = .object o.toList ∧ (s.toShape.ofObject fresh o).result = .ok v) ∧
    (∀ (o : Object) (e : Refusal), (s.toShape.ofObject fresh o).result = .error e →
      ∃ f, (s.decode fresh (.object o.toList)).result = .error f ∧
        f.message = Fault.handedOn e.message) ∧
    (∀ (text : String) (v : V), (s.ofText fresh text).result = .ok v ↔
      ∃ o : Object, Json.parse text = some (.object o.toList) ∧
        (s.toShape.ofObject fresh o).result = .ok v) ∧
    (∀ (text : String) (o : Object) (e : Refusal), Json.parse text = some (.object o.toList) →
      (s.toShape.ofObject fresh o).result = .error e →
        ∃ f, (s.ofText fresh text).result = .error f ∧
          f.message? = some (Fault.handedOn e.message)) := by
  refine ⟨s.toShape.ofObject_outcome fresh, fun j v => decode_eq_ok_iff, fun o e he => ?_,
    fun text v => ofText_eq_ok_iff, fun text o e hparse he => ?_⟩
  · exact ⟨.refused e, decode_of_error he, rfl⟩
  · exact ⟨.data (.refused e) none, ofText_of_error hparse he, rfl⟩

end RecordShape

end StagedRecords
