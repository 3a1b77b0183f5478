import StagedRecords.Proofs.NamedWrites

/-!
# What is known of the fields

The specs of a schema list its fields in the order of declaration, and a name finds the spec of the
field that it finds (`spec?_eq_map_find?`). The nullability class in the spec decides what a write
by name may be refused for (`accept_error_cases`), and which slots a build needs
(`specs_describe_set_and_build`).
-/

namespace StagedRecords

/-! ## Refused values -/

/-- Whether a field of this class may refuse the value for that cause. -/
def Nullability.MayRefuse (n : Nullability) (j : Json) : Cause → Prop
  | .nullValue => n.acceptsNull = false ∧ j = .null
  | .nullElement => n = .strict ∧ ((∃ js, j = .array js) ∨ ∃ ms, j = .object ms)
  | .invalid _ => j ≠ .null
  | .missing | .unknownField => False

theorem Json.collection_of_hasNullElement {j : Json} (h : j.hasNullElement = true) :
    (∃ js, j = .array js) ∨ ∃ ms, j = .object ms := by
  cases j with
  | array js => exact .inl ⟨js, rfl⟩
  | object ms => exact .inr ⟨ms, rfl⟩
  | _ => cases h

section Kinds

variable {R α : Type} [Codec α] {k : Kind R α} {builder field : String} {j : Json} {e : Refusal}

theorem Policy.decoded_error
    (h : (decoded builder field j : Accepted α).result = .error e) :
    ∃ f, (Codec.decode j : Decoded α).result = .error f ∧
      e = ⟨builder, field, .invalid f.message⟩ := by
  rw [decoded, Traced.result_mapError] at h
  rcases hj : (Codec.decode j : Decoded α).result with f | a <;> rw [hj] at h <;> cases h
  exact ⟨f, rfl, rfl⟩

/-- A field refuses null, a collection with a null element, or what does not decode. -/
theorem Kind.accept_error_cases (h : (k.accept builder field j).result = .error e) :
    (e = ⟨builder, field, .nullValue⟩ ∧ k.nullability.acceptsNull = false ∧ j = .null) ∨
    (e = ⟨builder, field, .nullElement⟩ ∧ k.nullability = .strict ∧ j.hasNullElement = true) ∨
    (j ≠ .null ∧ ∃ f, (Codec.decode j : Decoded α).result = .error f ∧
      e = ⟨builder, field, .invalid f.message⟩) := by
  by_cases hj : j = .null
  · subst hj
    cases k <;> cases h <;> exact .inl ⟨rfl, rfl, rfl⟩
  · have hnull : j.isNull = false := Bool.eq_false_iff.2 (mt Json.isNull_iff.1 hj)
    cases k with
    | strict =>
      simp only [accept, Policy.strict, hnull, Bool.false_eq_true, if_false] at h
      split at h
      · next helement =>
        cases h
        exact .inr (.inl ⟨rfl, rfl, helement⟩)
      · exact .inr (.inr ⟨hj, Policy.decoded_error h⟩)
    | _ =>
      simp only [accept, Policy.nullable, Policy.required, hnull, Bool.false_eq_true,
        if_false] at h
      exact .inr (.inr ⟨hj, Policy.decoded_error h⟩)

/-- A field refuses under its own name, and for a cause that its class allows. -/
theorem Kind.accept_error (h : (k.accept builder field j).result = .error e) :
    e.builder = builder ∧ e.field = field ∧ k.nullability.MayRefuse j e.cause := by
  rcases accept_error_cases h with ⟨rfl, hclass⟩ | ⟨rfl, hstrict, helement⟩ | ⟨hj, f, -, rfl⟩
  · exact ⟨rfl, rfl, hclass⟩
  · exact ⟨rfl, rfl, hstrict, Json.collection_of_hasNullElement helement⟩
  · exact ⟨rfl, rfl, hj⟩

theorem Kind.accept_null_of_not (h : k.nullability.acceptsNull = false) :
    (k.accept builder field .null).result = .error ⟨builder, field, .nullValue⟩ := by
  cases k with
  | nullable _ => cases h
  | _ => rfl

omit [Codec α] in
theorem Kind.exists_eq_nullable (h : k.nullability.acceptsNull = true) :
    ∃ null, k = .nullable null := by
  cases k with
  | nullable null => exact ⟨null, rfl⟩
  | _ => cases h

end Kinds

/-! ## Specs and places -/

namespace Fields

theorem length_specs : ∀ {ts : List Type} (fs : Fields ts), fs.specs.length = ts.length
  | _, .nil => rfl
  | _, .snoc fs f => by rw [specs, List.length_append, length_specs fs]; rfl

/-- The specs stand in the order of declaration. -/
theorem getElem?_specs : ∀ {ts : List Type} {α : Type} (fs : Fields ts) (p : Place ts α),
    fs.specs[p.index]? = some (fs.spec p)
  | _, _, .snoc fs f, .last => by
    rw [specs, Place.index, ← fs.length_specs]
    exact List.getElem?_concat_length
  | _, _, .snoc fs f, .before p => by
    have hlt : p.index < fs.specs.length := by
      rw [length_specs]
      exact p.index_lt
    rw [specs, Place.index, List.getElem?_append_left hlt, getElem?_specs fs p]
    rfl

/-- With different names, the first spec of a name is that of the place that the name finds. -/
theorem find?_specs (name : String) : ∀ {ts : List Type} {fs : Fields ts}, fs.names.Nodup →
    fs.specs.find? (·.name == name) = (fs.find? name).map fun w => fs.spec w.place
  | _, .nil, _ => rfl
  | _, .snoc fs f, h => by
    rw [names_snoc] at h
    have hd := List.nodup_append.1 h
    rw [specs, List.find?_append, find?_specs name hd.1, find?]
    by_cases hname : f.name = name
    · -- The last field has the name, so no earlier one has it.
      have hnone : fs.find? name = none := by
        rcases hw : fs.find? name with _ | w
        · rfl
        · have hmem := spec_name_mem fs w.place
          rw [spec_name_of_find? hw] at hmem
          exact absurd hname.symm (hd.2.2 _ hmem f.name List.mem_cons_self)
      rw [hnone, if_pos hname]
      simp [hname, spec]
    · rw [if_neg hname]
      simp [hname, Function.comp_def, spec]

end Fields

variable {s : Schema} {name : String} {j : Json}

namespace Schema

theorem spec?_eq_map_find? (s : Schema) (name : String) :
    s.spec? name = (s.fields.find? name).map fun w => s.fields.spec w.place :=
  Fields.find?_specs name s.distinct

theorem spec?_spec {α : Type} (p : Place s.types α) :
    s.spec? (s.fields.spec p).name = some (s.fields.spec p) := by
  rw [spec?_eq_map_find?, Fields.find?_spec s.distinct p]
  rfl

theorem exists_place_of_spec? {spec : FieldSpec} (h : s.spec? name = some spec) :
    ∃ (α : Type) (p : Place s.types α), s.fields.spec p = spec ∧ spec.name = name := by
  rw [spec?_eq_map_find?, Option.map_eq_some_iff] at h
  obtain ⟨⟨p⟩, hfind, rfl⟩ := h
  exact ⟨_, p, rfl, Fields.spec_name_of_find? hfind⟩

theorem accept_of_spec?_eq_none (h : s.spec? name = none) :
    (s.accept name j).result = .error ⟨s.builder, name, .unknownField⟩ := by
  rw [spec?_eq_map_find?, Option.map_eq_none_iff] at h
  rw [accept, h]
  rfl

/-- A write by name is refused because there is no field of that name, or for a cause that the
class of the field allows; either way the refusal names the builder and the field. -/
theorem accept_error_cases {e : Refusal} (h : (s.accept name j).result = .error e) :
    e.builder = s.builder ∧ e.field = name ∧
      ((s.spec? name = none ∧ e.cause = .unknownField) ∨
        ∃ spec, s.spec? name = some spec ∧ spec.nullability.MayRefuse j e.cause) := by
  rcases hspec : s.spec? name with _ | spec
  · rw [accept_of_spec?_eq_none hspec, Except.error.injEq] at h
    subst h
    exact ⟨rfl, rfl, .inl ⟨rfl, rfl⟩⟩
  · obtain ⟨α, p, rfl, rfl⟩ := exists_place_of_spec? hspec
    rw [accept_spec, Traced.result_map, Fields.accept_eq] at h
    let := (s.fields.field p).codec
    rcases hk : ((s.fields.field p).kind.accept s.builder (s.fields.field p).name j).result
      with e' | a <;> rw [hk] at h <;> cases h
    obtain ⟨hbuilder, hfield, hrefuse⟩ := Kind.accept_error hk
    rw [Fields.spec_eq]
    exact ⟨hbuilder, hfield, .inr ⟨_, rfl, hrefuse⟩⟩

theorem accept_null_of_spec? {spec : FieldSpec} (h : s.spec? name = some spec) :
    (s.accept name .null).result.map (fun _ => ()) =
      if spec.nullability.acceptsNull then .ok ()
      else .error ⟨s.builder, name, .nullValue⟩ := by
  obtain ⟨α, p, rfl, rfl⟩ := exists_place_of_spec? h
  have hclass : (s.fields.spec p).nullability = (s.fields.field p).kind.nullability := by
    rw [Fields.spec_eq]
  rcases hnull : (s.fields.spec p).nullability.acceptsNull with _ | _
  · rw [accept_spec, Traced.result_map, Fields.accept_eq]
    let := (s.fields.field p).codec
    rw [hclass] at hnull
    rw [Kind.accept_null_of_not hnull, Fields.spec_eq]
    rfl
  · rw [hclass] at hnull
    obtain ⟨null, hk⟩ := Kind.exists_eq_nullable hnull
    rw [accept_null hk]
    rfl

end Schema

/-! ## Specs, writes and builds -/

/-- A write by name ends as what is known of the field of that name says. -/
structure Schema.SetsAsSpecified (s : Schema) : Prop where
  unknown_iff : ∀ (d : Draft s) (name : String) (j : Json),
    (∃ e, (d.set name j).outcome.result = .error e ∧ e.cause = .unknownField) ↔
      s.spec? name = none
  set_unknown : ∀ (d : Draft s) (name : String) (j : Json), s.spec? name = none →
    (d.set name j).outcome.result = .error ⟨s.builder, name, .unknownField⟩
  set_null : ∀ (d : Draft s) (name : String) (spec : FieldSpec), s.spec? name = some spec →
    (d.set name .null).outcome.result =
      if spec.nullability.acceptsNull then .ok () else .error ⟨s.builder, name, .nullValue⟩
  nullElement : ∀ (d : Draft s) (name : String) (j : Json) (e : Refusal),
    (d.set name j).outcome.result = .error e → e.cause = .nullElement →
      (∃ spec, s.spec? name = some spec ∧ spec.nullability = .strict) ∧
      ((∃ js, j = .array js) ∨ ∃ ms, j = .object ms)
  others : ∀ (d : Draft s) (name : String) (j : Json) (spec : FieldSpec) (e : Refusal),
    s.spec? name = some spec → j ≠ .null → (d.set name j).outcome.result = .error e →
      e.cause ≠ .nullElement → ∃ reason, e.cause = .invalid reason
  /-- A refusal that arose in a nested record is reported under the field that holds it. -/
  names_field : ∀ (d : Draft s) (name : String) (j : Json) (e : Refusal),
    (d.set name j).outcome.result = .error e → e.builder = s.builder ∧ e.field = name

theorem Schema.setsAsSpecified (s : Schema) : s.SetsAsSpecified where
  unknown_iff d name j := by
    constructor
    · rintro ⟨e, he, hcause⟩
      obtain ⟨-, -, hnone | ⟨spec, -, hrefuse⟩⟩ := accept_error_cases (Draft.accept_of_set_error he)
      · exact hnone.1
      · rw [hcause] at hrefuse
        exact hrefuse.elim
    · exact fun h => ⟨_, (d.set_of_refused (accept_of_spec?_eq_none h)).2, rfl⟩
  set_unknown d name j h := (d.set_of_refused (accept_of_spec?_eq_none h)).2
  set_null d name spec h := by
    rw [d.set_outcome, Traced.result_map, accept_null_of_spec? h]
  nullElement d name j e he hcause := by
    obtain ⟨-, -, hnone | ⟨spec, hspec, hrefuse⟩⟩ :=
      accept_error_cases (Draft.accept_of_set_error he)
    · rw [hcause] at hnone
      cases hnone.2
    · rw [hcause] at hrefuse
      exact ⟨⟨spec, hspec, hrefuse.1⟩, hrefuse.2⟩
  others d name j spec e hspec hj he hcause := by
    obtain ⟨-, -, hnone | ⟨spec', -, hrefuse⟩⟩ :=
      accept_error_cases (Draft.accept_of_set_error he)
    · rw [hspec] at hnone
      cases hnone.1
    · rcases hc : e.cause with _ | _ | _ | reason | _ <;> rw [hc] at hrefuse
      · exact absurd hrefuse.2 hj
      · exact hrefuse.elim
      · exact absurd hc hcause
      · exact ⟨reason, rfl⟩
      · exact hrefuse.elim
  names_field d name j e he := by
    obtain ⟨hbuilder, hfield, -⟩ := accept_error_cases (Draft.accept_of_set_error he)
    exact ⟨hbuilder, hfield⟩

/-- A build needs the slots that must be set, and no others. -/
structure Shape.BuildsAsSpecified {V : Type} (s : Shape V) : Prop where
  build_error : ∀ (fresh : Nat → Uuid) (d : Draft s.toSchema) (e : Refusal),
    (s.build fresh d).result = .error e →
      ∃ (α : Type) (p : Place s.types α), e = ⟨s.builder, (s.fields.spec p).name, .missing⟩ ∧
        (s.fields.spec p).nullability.mustBeSet = true ∧ p.get d.slots = none
  build_ok : ∀ (fresh : Nat → Uuid) (d : Draft s.toSchema),
    (∀ (α : Type) (p : Place s.types α), (s.fields.spec p).nullability.mustBeSet = true →
      p.get d.slots ≠ none) → ∃ v, (s.build fresh d).result = .ok v

theorem Shape.buildsAsSpecified {V : Type} (s : Shape V) : s.BuildsAsSpecified where
  build_error fresh d e he := by
    rcases s.build_error_or_ok fresh d with ⟨α, p, hp, hbuild⟩ | ⟨-, r, hbuild, -⟩
    · rw [hbuild, Except.error.injEq] at he
      exact ⟨α, p, he.symm, hp.lacks⟩
    · rw [hbuild] at he
      cases he
  build_ok fresh d hset := by
    rcases s.build_error_or_ok fresh d with ⟨α, p, hp, -⟩ | ⟨-, r, hbuild, -⟩
    · exact absurd hp.lacks.2 (hset α p hp.lacks.1)
    · exact ⟨_, hbuild⟩

/-- The specs list the slots in the order of declaration, each name once, and a name finds the spec
of its slot. -/
structure Schema.ListsSlots (s : Schema) : Prop where
  nodup : (s.fields.specs.map FieldSpec.name).Nodup
  length_eq : s.fields.specs.length = s.types.length
  getElem?_index : ∀ (α : Type) (p : Place s.types α),
    s.fields.specs[p.index]? = some (s.fields.spec p)
  spec?_name : ∀ (α : Type) (p : Place s.types α),
    s.spec? (s.fields.spec p).name = some (s.fields.spec p)

theorem Schema.listsSlots (s : Schema) : s.ListsSlots where
  nodup := s.distinct
  length_eq := s.fields.length_specs
  getElem?_index _ p := s.fields.getElem?_specs p
  spec?_name _ p := spec?_spec p

/-- The specs of a shape list its slots. They say which names a write by name knows, what it refuses
and why, and which slots a build needs. A name with a prefix before it is not known. -/
theorem specs_describe_set_and_build :
    (∀ (V : Type) (s : Shape V), s.SetsAsSpecified ∧ s.BuildsAsSpecified ∧ s.ListsSlots) ∧
    (∀ spec ∈ ScalarRecord.fields.specs,
      ScalarRecord.shape.spec? ("with_" ++ spec.name) = none) ∧
    (∀ spec ∈ Point.fields.specs, Point.shape.spec? ("with_" ++ spec.name) = none) ∧
    (∀ spec ∈ Greeting.fields.specs, Greeting.shape.spec? ("set_" ++ spec.name) = none) :=
  ⟨fun _ s => ⟨s.setsAsSpecified, s.buildsAsSpecified, s.listsSlots⟩, by decide, by decide,
    by decide⟩

end StagedRecords
