import StagedRecords.Proofs.Edits
import StagedRecords.Proofs.Overrides
import StagedRecords.Proofs.TypedWrites

/-!
# Frozen fields

Slots that are given the value which their field resolves to resolve as before, and so do all the
others, since a default reads nothing but the resolved fields before it (`resolve_of_freezesTo`).
Only a default that is drawn anew has to be frozen where its slot is empty. Writing fields of the
built record, or putting members of it over the object that it was built from, therefore builds the
same record again (`freezing_keeps_value`).
-/

namespace StagedRecords

theorem Kind.fallback?_congr {R α : Type} {k : Kind R α} (h : ∀ value, k ≠ .drawn value)
    (earlier : R) (fresh fresh' : Uuid) :
    k.fallback? earlier fresh = k.fallback? earlier fresh' := by
  cases k with
  | drawn value => exact absurd rfl (h value)
  | _ => rfl

/-- Each slot is as before or has the value that its field has in the row. -/
def Slots.FreezesTo {ts : List Type} (slots slots' : Slots ts) (r : Row ts) : Prop :=
  ∀ (α : Type) (p : Place ts α), p.get slots' = p.get slots ∨ p.get slots' = some (p.read r)

theorem Slots.FreezesTo.trans {ts : List Type} {slots slots' slots'' : Slots ts} {r : Row ts}
    (h : slots.FreezesTo slots' r) (h' : slots'.FreezesTo slots'' r) :
    slots.FreezesTo slots'' r := by
  intro α p
  rcases h' α p with hsame | hread
  · rw [hsame]
    exact h α p
  · exact .inr hread

namespace Fields

variable {ts : List Type} {α : Type}

/-- Frozen slots resolve to the same row, whatever there is to draw, if no drawn one is empty. -/
theorem resolve_of_freezesTo {fresh : Nat → Uuid} (fresh' : Nat → Uuid) : ∀ {ts : List Type}
    {fs : Fields ts} {slots slots' : Slots ts} {r : Row ts}, fs.resolve fresh slots = .ok r →
      slots.FreezesTo slots' r →
      (∀ (α : Type) (p : Place ts α) (value : Uuid → α), (fs.field p).kind = .drawn value →
        p.get slots' ≠ none) → fs.resolve fresh' slots' = .ok r
  | _, .nil, _, _, _, _, _, _ => rfl
  | _, @snoc ts α fs f, (slots, x), (slots', x'), (r, a), h, hfreeze, hdrawn => by
    obtain ⟨hr, ha⟩ := resolve_snoc_eq_ok_iff.1 h
    have hr' : fs.resolve fresh' slots' = .ok r :=
      resolve_of_freezesTo fresh' hr (fun β p => hfreeze β (.before p))
        fun β p => hdrawn β (.before p)
    refine resolve_snoc_eq_ok_iff.2 ⟨hr', ?_⟩
    have hlast : x' = x ∨ x' = some a := hfreeze α .last
    rcases hlast with rfl | rfl
    · cases x' with
      | some b => exact ha
      | none =>
        have hkind : ∀ value, f.kind ≠ .drawn value := fun value hk => hdrawn α .last value hk rfl
        rw [← ha, Kind.fallback?_congr hkind]
    · rfl

/-- The names of the fields whose default is drawn. -/
def drawnNames : {ts : List Type} → Fields ts → List String
  | _, .nil => []
  | _, .snoc fs f =>
    fs.drawnNames ++ match f.kind with
      | .drawn _ => [f.name]
      | _ => []

theorem name_mem_drawnNames : ∀ {ts : List Type} {α : Type} {fs : Fields ts} {p : Place ts α}
    {value : Uuid → α}, (fs.field p).kind = .drawn value → (fs.spec p).name ∈ fs.drawnNames
  | _, _, .snoc fs f, .last, _, h => by
    have hk : f.kind = .drawn _ := h
    rw [drawnNames, hk]
    exact List.mem_append_right _ List.mem_cons_self
  | _, _, .snoc fs _, .before p, value, h => by
    have hp : (fs.field p).kind = .drawn value := h
    exact List.mem_append_left _ (name_mem_drawnNames hp)

end Fields

section Builds

variable {V : Type} {s : RecordShape V} {fresh : Nat → Uuid} {v : V}

theorem RecordShape.resolve_of_build {d : Draft s.toSchema}
    (h : (s.toShape.build fresh d).result = .ok v) :
    s.fields.resolve fresh d.slots = .ok (s.row v) := by
  rcases hr : s.fields.resolve fresh d.slots with name | r
  · have hmissing : (s.toShape.build fresh d).result = .error ⟨s.builder, name, .missing⟩ :=
      Shape.build_of_error hr
    rw [hmissing] at h
    cases h
  · have hmake : (s.toShape.build fresh d).result = .ok (s.make r) := Shape.build_of_ok hr
    rw [hmake, Except.ok.injEq] at h
    rw [← h, s.row_make]

theorem RecordShape.build_of_freezesTo {d d' : Draft s.toSchema}
    (h : (s.toShape.build fresh d).result = .ok v) (hfreeze : d.slots.FreezesTo d'.slots (s.row v))
    (hdrawn : ∀ (α : Type) (p : Place s.types α) (value : Uuid → α),
      (s.fields.field p).kind = .drawn value → p.get d'.slots ≠ none) (fresh' : Nat → Uuid) :
    (s.toShape.build fresh' d').result = .ok v :=
  build_of_ok (Fields.resolve_of_freezesTo fresh' (resolve_of_build h) hfreeze hdrawn)

end Builds

/-! ## Edits that freeze fields -/

section Edits

variable {s : Schema} {r : Row s.types} {α : Type}

/-- The edit gives the field at `p` the value that it has in the row, by place or as JSON. -/
def Edit.Freezes (r : Row s.types) (p : Place s.types α) : Edit s → Prop
  | .typed w => w = ⟨p, p.read r⟩
  | .named name j => (s.fields.spec p).name = name ∧
      ∃ i, (s.fields.codec p).written (p.read r) i ∧ j = i.normal

theorem Draft.freezesTo_write (d : Draft s) (p : Place s.types α) :
    d.slots.FreezesTo (d.write ⟨p, p.read r⟩).slots r := by
  intro β q
  rw [write, Place.get_put]
  rcases hq : q.given p (p.read r) with _ | b
  · exact .inl rfl
  · cases Place.eq_of_given q p hq
    exact .inr rfl

variable {n : Nat} [hs : s.fields.Faithful n]

include hs

theorem Edit.run_of_freezes {p : Place s.types α} {e : Edit s} (h : e.Freezes r p) (d : Draft s) :
    (e.run d).outcome.result = .ok () ∧ (e.run d).draft = d.write ⟨p, p.read r⟩ := by
  cases e with
  | typed w =>
    have hw : w = ⟨p, p.read r⟩ := h
    rw [hw]
    exact ⟨rfl, rfl⟩
  | named name j =>
    obtain ⟨rfl, i, hi, rfl⟩ := h
    exact d.set_of_written hi

/-- Edits that freeze fields all succeed, and leave these fields with their values in the row. -/
theorem Edits.exists_of_freezes {es : List (Edit s)}
    (h : ∀ e ∈ es, ∃ (α : Type) (p : Place s.types α), e.Freezes r p) (d : Draft s) :
    ∃ d', Edits d es d' ∧ d.slots.FreezesTo d'.slots r ∧
      ∀ (α : Type) (p : Place s.types α), (∃ e ∈ es, e.Freezes r p) →
        p.get d'.slots = some (p.read r) := by
  induction es generalizing d with
  | nil => exact ⟨d, .nil d, fun _ _ => .inl rfl, fun _ _ ⟨_, he, _⟩ => nomatch he⟩
  | cons e es ih =>
    obtain ⟨β, q, hq⟩ := h e List.mem_cons_self
    obtain ⟨hok, hdraft⟩ := Edit.run_of_freezes hq d
    obtain ⟨d', hes, hfreeze, hfrozen⟩ :=
      ih (fun e' he' => h e' (List.mem_cons_of_mem e he')) (e.run d).draft
    refine ⟨d', .cons hok hes, ?_, fun α p ⟨e', he', hp⟩ => ?_⟩
    · have hstep := d.freezesTo_write (r := r) q
      rw [← hdraft] at hstep
      exact hstep.trans hfreeze
    · rcases List.mem_cons.1 he' with rfl | he'
      · -- Whatever comes after it leaves the value or writes it again.
        have hget := d.get_write_self p (p.read r)
        rw [← (Edit.run_of_freezes hp d).2] at hget
        rcases hfreeze α p with hsame | hread
        · rw [hsame, hget]
        · exact hread
      · exact hfrozen α p ⟨e', he', hp⟩

end Edits

/-- Edits that freeze fields of a built record build it again, if they freeze all that was drawn. -/
theorem RecordShape.exists_build_of_freezes {V : Type} {s : RecordShape V} {n : Nat}
    [s.fields.Faithful n] {d : Draft s.toSchema} {fresh : Nat → Uuid} {v : V}
    {es : List (Edit s.toSchema)} (hv : (s.toShape.build fresh d).result = .ok v)
    (hes : ∀ e ∈ es, ∃ (α : Type) (p : Place s.types α), e.Freezes (s.row v) p) :
    ∃ d', Edits d es d' ∧ ∀ fresh' : Nat → Uuid,
      (∀ (α : Type) (p : Place s.types α) (value : Uuid → α),
        (s.fields.field p).kind = .drawn value → p.get d.slots = none →
          ∃ e ∈ es, e.Freezes (s.row v) p) →
      (s.toShape.build fresh' d').result = .ok v := by
  obtain ⟨d', hrun, hfreeze, hfrozen⟩ := Edits.exists_of_freezes hes d
  refine ⟨d', hrun, fun fresh' hdrawn => ?_⟩
  refine RecordShape.build_of_freezesTo hv hfreeze (fun α p value hk hnone => ?_) fresh'
  rcases hfreeze α p with hsame | hread
  · -- The slot was empty before as well, so an edit has frozen it.
    rw [hnone] at hsame
    rw [hfrozen α p (hdrawn α p value hk hsame.symm)] at hnone
    cases hnone
  · rw [hread] at hnone
    cases hnone

/-! ## Members that freeze fields -/

theorem Schema.takes_of_apply {s : Schema} {o : Object} {d : Draft s}
    (h : (d.apply o).outcome.result = .ok ()) : s.Takes o := by
  rcases s.takes_or_refusesFirst o with htakes | ⟨key, e, he⟩
  · exact htakes
  · rw [(d.apply_of_refusesFirst he).1] at h
    cases h

theorem Shape.ofObject_eq_ok_iff {V : Type} {s : Shape V} {o : Object} {fresh : Nat → Uuid}
    {v : V} : (s.ofObject fresh o).result = .ok v ↔
      s.Takes o ∧ (s.build fresh (Draft.apply .empty o).draft).result = .ok v := by
  refine Traced.result_bind_eq_ok_iff.trans ?_
  constructor
  · rintro ⟨_, hset, hbuild⟩
    exact ⟨Schema.takes_of_apply hset, hbuild⟩
  · rintro ⟨htakes, hbuild⟩
    exact ⟨(), (Draft.empty.apply_of_takes htakes).1, hbuild⟩

section Members

variable {V : Type} {s : RecordShape V} {n : Nat} [hs : s.fields.Faithful n] {v : V} {j : Json}
  {o m : Object}

include hs

/-- A member of a written record gives its field the value that it has in the record. -/
theorem RecordShape.accept_of_member (hw : s.written v j) (hj : j.normal = .object o.toList)
    {key : String} {i : Json} (hi : o.get? key = some i) :
    ∃ (α : Type) (p : Place s.types α), (s.accept key i).result = .ok ⟨p, p.read (s.row v)⟩ := by
  obtain ⟨ms, o', hms, hj', hperm⟩ := normal_of_written hw
  rw [hj, Json.object.injEq] at hj'
  have hmem := Dict.get?_eq_some_iff.1 hi
  rw [hj', hperm.mem_iff, List.mem_map] at hmem
  obtain ⟨member, hmember, heq⟩ := hmem
  cases heq
  exact Schema.exists_accept_of_written hms hmember

theorem RecordShape.takes_of_members (hw : s.written v j) (hj : j.normal = .object o.toList)
    (hm : ∀ key i, m.get? key = some i → o.get? key = some i) : s.Takes m := by
  intro key i hi d
  obtain ⟨α, p, hp⟩ := accept_of_member hw hj (hm key i hi)
  exact (d.set_of_accepted hp).2

/-- Applying some members of a written record freezes their fields. -/
theorem RecordShape.freezesTo_apply (hw : s.written v j) (hj : j.normal = .object o.toList)
    (hm : ∀ key i, m.get? key = some i → o.get? key = some i) (d : Draft s.toSchema) :
    d.slots.FreezesTo (d.apply m).draft.slots (s.row v) := by
  have hover := (d.apply_of_takes (takes_of_members hw hj hm)).2
  intro α p
  rcases hi : m.get? (s.fields.spec p).name with _ | i
  · exact .inl (hover.get_of_others α p (.inl hi))
  · obtain ⟨a, ha, hget⟩ := hover.get_of_member α p i hi trivial
    obtain ⟨β, q, hq⟩ := accept_of_member hw hj (hm _ i hi)
    obtain ⟨hname, hvalue⟩ := Schema.accept_eq_ok hq
    cases Fields.somewhere_eq_of_name s.distinct hname
    rw [hget, ha.unique (Fields.reads_of_accept hvalue)]
    exact .inr rfl

/-- Putting members of a record over the object that it was built from builds it again, if they
hold all that was drawn. -/
theorem RecordShape.ofObject_override {base : Object} {fresh : Nat → Uuid}
    (h : (s.toShape.ofObject fresh base).result = .ok v) (hw : s.written v j)
    (hj : j.normal = .object o.toList)
    (hm : ∀ key i, m.get? key = some i → o.get? key = some i)
    (hdrawn : ∀ (α : Type) (p : Place s.types α) (value : Uuid → α),
      (s.fields.field p).kind = .drawn value → base.get? (s.fields.spec p).name = none →
        m.get? (s.fields.spec p).name ≠ none) (fresh' : Nat → Uuid) :
    (s.toShape.ofObject fresh' (base.override m)).result = .ok v := by
  obtain ⟨htakes, hbuild⟩ := Shape.ofObject_eq_ok_iff.1 h
  have hall : s.Takes (base.override m) := htakes.override (takes_of_members hw hj hm)
  refine Shape.ofObject_eq_ok_iff.2 ⟨hall, build_of_freezesTo hbuild ?_ ?_ fresh'⟩
  · rw [← Draft.apply_override htakes (takes_of_members hw hj hm)]
    exact freezesTo_apply hw hj hm _
  · intro α p value hk hnone
    have habsent := (Draft.get_apply_empty_eq_none_iff (Schema.accepts_of_takes hall)).1 hnone
    rw [Dict.get?_override, Option.or_eq_none_iff] at habsent
    exact hdrawn α p value hk habsent.2 habsent.1

end Members

/-! ## The shapes of the catalogue -/

theorem drawnNames_of_mem_catalogue : ∀ e ∈ catalogue, e.name ≠ "WithDefaultRandomValues" →
    (e.record?.elim [] fun s => s.fields.drawnNames) = [] := by
  decide

theorem kind_ne_drawn {e : Entry} (he : e ∈ catalogue) {s : RecordShape e.V}
    (hs : e.record? = some s) (hname : e.name ≠ "WithDefaultRandomValues") {α : Type}
    {p : Place s.types α} {value : Uuid → α} : (s.fields.field p).kind ≠ .drawn value := by
  intro hk
  have hnames := drawnNames_of_mem_catalogue e he hname
  rw [hs] at hnames
  have hnames : s.fields.drawnNames = [] := hnames
  have hmem := Fields.name_mem_drawnNames hk
  rw [hnames] at hmem
  cases hmem

/-- Writing any fields of a built record into the draft that it was built from, by place or as
JSON, succeeds and builds the record again. So does putting any members of the record over the
object that it was built from. Identifiers may be drawn anew if each field that drew one from an
empty slot is among those written; only one shape draws any. -/
theorem freezing_keeps_value {e : Entry} (he : e ∈ catalogue) {s : RecordShape e.V}
    (hs : e.record? = some s) :
    (∀ (d : Draft s.toSchema) (fresh : Nat → Uuid) (v : e.V) (es : List (Edit s.toSchema)),
      (s.toShape.build fresh d).result = .ok v →
      (∀ edit ∈ es, ∃ (α : Type) (p : Place s.types α), edit.Freezes (s.row v) p) →
      ∃ d', Edits d es d' ∧ ∀ fresh' : Nat → Uuid,
        (∀ (α : Type) (p : Place s.types α) (value : Uuid → α),
          (s.fields.field p).kind = .drawn value → p.get d.slots = none →
            ∃ edit ∈ es, edit.Freezes (s.row v) p) →
        (s.toShape.build fresh' d').result = .ok v) ∧
    (∀ (base o m : Object) (fresh : Nat → Uuid) (v : e.V) (j : Json),
      (s.toShape.ofObject fresh base).result = .ok v → s.written v j →
      j.normal = .object o.toList → (∀ key i, m.get? key = some i → o.get? key = some i) →
      ∀ fresh' : Nat → Uuid,
        (∀ (α : Type) (p : Place s.types α) (value : Uuid → α),
          (s.fields.field p).kind = .drawn value → base.get? (s.fields.spec p).name = none →
            m.get? (s.fields.spec p).name ≠ none) →
        (s.toShape.ofObject fresh' (base.override m)).result = .ok v) ∧
    (e.name ≠ "WithDefaultRandomValues" → ∀ (α : Type) (p : Place s.types α) (value : Uuid → α),
      (s.fields.field p).kind ≠ .drawn value) := by
  obtain ⟨n, -, hfaithful⟩ := Entry.exists_faithful_record he hs
  exact ⟨fun d fresh v es => RecordShape.exists_build_of_freezes,
    fun base o m fresh v j hv hw hj hm fresh' hdrawn =>
      RecordShape.ofObject_override hv hw hj hm hdrawn fresh',
    fun hname α p value => kind_ne_drawn he hs hname⟩

/-- Identifiers drawn for an empty draft, one of them written back as JSON. -/
theorem drawn_identifiers_frozen :
    let s := DrawnDefaults.shape
    let id : Uuid := ⟨7⟩
    let es : List (Edit s.toSchema) := [.named "foo" (.string id.text), .typed ⟨.last, id⟩]
    Entry.ofRecord "WithDefaultRandomValues" DrawnDefaults ∈ catalogue ∧
    (s.toShape.build (fun _ => id) .empty).result = .ok ⟨id.text, id⟩ ∧
    ∃ d', Edits .empty es d' ∧
      (s.toShape.build (fun _ => ⟨8⟩) d').result = .ok ⟨id.text, id⟩ := by
  intro s id es
  have he : Entry.ofRecord "WithDefaultRandomValues" DrawnDefaults ∈ catalogue :=
    List.mem_of_getElem? (rfl : catalogue[10]? = some _)
  have hfoo : (es[0]).Freezes (s.row ⟨id.text, id⟩) (.before .last) :=
    ⟨rfl, .string id.text, rfl, rfl⟩
  have hbar : (es[1]).Freezes (s.row ⟨id.text, id⟩) .last := rfl
  obtain ⟨d', hrun, hbuild⟩ := (freezing_keeps_value he rfl).1 .empty (fun _ => id) ⟨id.text, id⟩ es
    rfl fun edit h => by
      rcases List.mem_cons.1 h with rfl | h
      · exact ⟨_, _, hfoo⟩
      · rw [List.mem_singleton.1 h]
        exact ⟨_, _, hbar⟩
  refine ⟨he, rfl, d', hrun, hbuild _ fun α p value _ _ => ?_⟩
  match p with
  | .last => exact ⟨_, List.mem_cons_of_mem _ List.mem_cons_self, hbar⟩
  | .before .last => exact ⟨_, List.mem_cons_self, hfoo⟩

end StagedRecords
