import StagedRecords.Proofs.Unwrapping

/-!
# Records inside records

A record inside another is read by its own builder, so a value is read as one, or refused, whatever
stands around it (`RecordShape.reads_or_refuses`). The points of a shelf are read in their order up
to the first that is refused, and the reason that the shelf gives is the wording of that refusal
(`points_nest_in_shelves`), which nothing but the name of an unknown field changes on the way
(`Point.refusal_of_ofObject`).
-/

namespace StagedRecords

/-! ## Messages that do not end in a position -/

namespace Fault

/-- No text that ends in this one ends in words that read as a position. -/
def Unplaced (s : String) : Prop := ∀ t, handedOn (t ++ s) = t ++ s

theorem Unplaced.append {s : String} (h : Unplaced s) (t : String) : Unplaced (t ++ s) := by
  intro u
  rw [← String.append_assoc]
  exact h (u ++ t)

theorem unplaced_of_last {s : String} {c : Char} {cs : List Char} (hs : s.toList.reverse = c :: cs)
    (hc : c.isDigit = false) : Unplaced s := by
  intro t
  simp [handedOn, position?, hs, lastNumber?, hc]

/-- The number that the name of the integer type ends in is no column. -/
theorem unplaced_of_integer {s : String} {cs : List Char}
    (hs : s.toList.reverse = '4' :: '6' :: 'i' :: cs) : Unplaced s := by
  intro t
  have hnumber : ∀ cs, lastNumber? ('4' :: '6' :: 'i' :: cs) = some (64, 'i' :: cs) := by
    intro cs
    simp only [lastNumber?, List.takeWhile_cons, List.dropWhile_cons]
    rfl
  simp [handedOn, position?, hs, hnumber, without?]

theorem unplaced_of_decode_integer {j : Json} {f : Fault}
    (h : (Codec.decode j : Decoded Int64).result = .error f) : Unplaced f.message := by
  have hkind : Unplaced (kind j .integer).message :=
    (unplaced_of_integer (s := "i64") rfl).append _
  cases j with
  | int n =>
    simp only [Codec.decode] at h
    split_ifs at h
    · cases h
    · cases h
      exact (unplaced_of_integer (s := "`, expected i64") rfl).append _
  | _ =>
    cases h
    exact hkind

theorem unplaced_of_decode_string {j : Json} {f : Fault}
    (h : (Codec.decode j : Decoded (Option String)).result = .error f) : Unplaced f.message := by
  have hkind : Unplaced (kind j .string).message :=
    (unplaced_of_last (s := "a string") (c := 'g') rfl rfl).append _
  cases j with
  | null | string s => cases h
  | _ =>
    cases h
    exact hkind

/-- A refusal that ends in one of the fixed wordings is handed on as it is. -/
theorem handedOn_message {e : Refusal} (hknown : e.cause ≠ .unknownField)
    (hinvalid : ∀ reason, e.cause = .invalid reason → Unplaced reason) :
    handedOn e.message = e.message := by
  obtain ⟨builder, field, cause⟩ := e
  cases cause with
  | nullValue => exact unplaced_of_last (s := " must not be null") (c := 'l') rfl rfl _
  | missing =>
    exact unplaced_of_last (s := " must not be null (required field was never set)") (c := ')')
      rfl rfl _
  | nullElement =>
    exact unplaced_of_last (s := " must not contain null elements") (c := 's') rfl rfl _
  | invalid reason => exact hinvalid reason rfl _
  | unknownField => exact absurd rfl hknown

end Fault

/-! ## Records as elements -/

namespace RecordShape

variable {V : Type}

/-- The value is an object that the record is built from. -/
def Reads (s : RecordShape V) (j : Json) (v : V) : Prop :=
  ∃ o : Object, j = .object o.toList ∧ ∀ fresh, (s.toShape.ofObject fresh o).result = .ok v

/-- Why a value is not read as the record: the builder refuses the object, or it is no object. -/
inductive Refuses (s : RecordShape V) : Json → String → Prop
  | object {o : Object} {e : Refusal}
      (he : ∀ fresh, (s.toShape.ofObject fresh o).result = .error e) :
      s.Refuses (.object o.toList) (Fault.handedOn e.message)
  | other {j : Json} (hj : ∀ ms, j ≠ .object ms) :
      s.Refuses j ("invalid type: " ++ j.described ++ ", expected a map")

/-- Nothing is drawn, so the result is the same whatever there is to draw from. -/
def Settled (s : RecordShape V) : Prop :=
  ∀ (o : Object) (fresh fresh' : Nat → Uuid),
    (s.toShape.ofObject fresh o).result = (s.toShape.ofObject fresh' o).result

variable {s : RecordShape V} {fresh : Nat → Uuid} {j : Json}

theorem decode_eq_ok_iff_reads (hs : s.Settled) {v : V} :
    (s.decode fresh j.normal).result = .ok v ↔ s.Reads j.normal v := by
  rw [decode_eq_ok_iff]
  refine exists_congr fun o => and_congr_right fun _ => ⟨fun h fresh' => ?_, fun h => h fresh⟩
  rw [hs o fresh' fresh, h]

theorem decode_of_other (hj : ∀ ms, j ≠ .object ms) :
    (s.decode fresh j).result = .error (.kind j .map) := by
  cases j with
  | object ms => exact absurd rfl (hj ms)
  | _ => rfl

theorem message_kind_map (j : Json) :
    (Fault.kind j .map).message = "invalid type: " ++ j.described ++ ", expected a map" := by
  have hexpected : ", expected " ++ Expected.map.text = ", expected a map" := by
    simp [Expected.text]
  show "invalid type: " ++ j.described ++ ", expected " ++ Expected.map.text = _
  rw [String.append_assoc, hexpected]

theorem decode_eq_error_iff_refuses (hs : s.Settled) (fresh : Nat → Uuid) {reason : String} :
    (∃ f, (s.decode fresh j.normal).result = .error f ∧ f.message = reason) ↔
      s.Refuses j.normal reason := by
  constructor
  · rintro ⟨f, hf, rfl⟩
    by_cases hj : ∃ ms, j.normal = .object ms
    · obtain ⟨ms, hj⟩ := hj
      obtain ⟨o, rfl⟩ := Json.exists_object_of_normal hj
      rw [hj] at hf ⊢
      rcases ho : (s.toShape.ofObject fresh o).result with e | v
      · rw [decode_of_error ho, Except.error.injEq] at hf
        subst hf
        exact .object fun fresh' => by rw [hs o fresh' fresh, ho]
      · rw [← hj, decode_eq_ok_iff.2 ⟨o, hj, ho⟩] at hf
        cases hf
    · have hother : ∀ ms, j.normal ≠ .object ms := fun ms h => hj ⟨ms, h⟩
      rw [decode_of_other hother, Except.error.injEq] at hf
      subst hf
      rw [message_kind_map]
      exact .other hother
  · intro h
    -- The two ways to be refused are told apart on a value that is a variable.
    generalize hj : j.normal = i at h
    cases h with
    | object he => exact ⟨_, decode_of_error (he fresh), rfl⟩
    | other hother => exact ⟨_, decode_of_other hother, message_kind_map i⟩

theorem reads_or_refuses (hs : s.Settled) (j : Json) :
    (∃ v, s.Reads j.normal v) ∨ ∃ reason, s.Refuses j.normal reason := by
  rcases hj : (s.decode (fun _ => ⟨0⟩) j.normal).result with f | v
  · exact .inr ⟨f.message, (decode_eq_error_iff_refuses hs _).1 ⟨f, hj, rfl⟩⟩
  · exact .inl ⟨v, (decode_eq_ok_iff_reads hs).1 hj⟩

theorem elements_eq_ok_iff_reads (hs : s.Settled) {js : List Json} {vs : List V} :
    (Codec.elements (s.decode fresh) (Json.array js).normal).result = .ok vs ↔
      List.Forall₂ (fun j v => s.Reads j.normal v) js vs := by
  simp only [Json.normal_array, Codec.elements_eq_ok_iff, Json.array.injEq, exists_eq_left',
    List.forall₂_map_left_iff, decode_eq_ok_iff_reads hs]

/-- The first element that is refused settles the reason. -/
theorem elements_of_refuses (hs : s.Settled) {is js : List Json} {reason : String}
    (his : ∀ i ∈ is, ∃ v, s.Reads i.normal v) (hj : s.Refuses j.normal reason) :
    ∃ f, (Codec.elements (s.decode fresh) (Json.array (is ++ j :: js)).normal).result = .error f ∧
      f.message = reason := by
  obtain ⟨f, hf, hmessage⟩ := (decode_eq_error_iff_refuses hs fresh).2 hj
  refine ⟨f, ?_, hmessage⟩
  rw [Json.normal_array, List.map_append, List.map_cons]
  refine Traced.result_each_of_error (fun i' hi' => ?_) hf
  obtain ⟨i, hi, rfl⟩ := List.mem_map.1 hi'
  obtain ⟨v, hv⟩ := his i hi
  exact ⟨v, (decode_eq_ok_iff_reads hs).2 hv⟩

end RecordShape

/-! ## Refusals of a record -/

/-- No fault of a field ends in words that read as a position. -/
def Schema.Unplaced (s : Schema) : Prop :=
  ∀ (α : Type) (p : Place s.types α) (j : Json) (f : Fault),
    ((s.fields.codec p).decode j).result = .error f → Fault.Unplaced f.message

theorem Schema.unplaced_of_accept {s : Schema} (hs : s.Unplaced) {name : String} {j : Json}
    {e : Refusal} {reason : String} (h : (s.accept name j).result = .error e)
    (hcause : e.cause = .invalid reason) : Fault.Unplaced reason := by
  rcases hspec : s.spec? name with _ | spec
  · rw [accept_of_spec?_eq_none hspec] at h
    cases h
    cases hcause
  · obtain ⟨α, p, rfl, rfl⟩ := exists_place_of_spec? hspec
    rw [accept_spec, Traced.result_map, Fields.accept_eq] at h
    let := (s.fields.field p).codec
    rcases hk : ((s.fields.field p).kind.accept s.builder (s.fields.field p).name j).result
      with e' | a <;> rw [hk] at h <;> cases h
    obtain ⟨rfl, -⟩ | ⟨rfl, -⟩ | ⟨-, f, hf, rfl⟩ := Kind.accept_error_cases hk
    · cases hcause
    · cases hcause
    · cases hcause
      exact hs α p j f (by rw [Fields.codec_eq]; exact hf)

/-- A record refuses an object under its own name, for a member of no field or under the name of a
field; nothing but the name of no field changes the wording on the way. -/
theorem Shape.refusal_of_ofObject {V : Type} {s : Shape V} (hs : s.Unplaced)
    {fresh : Nat → Uuid} {o : Object} {e : Refusal} (h : (s.ofObject fresh o).result = .error e) :
    e.builder = s.builder ∧
      ((e.cause = .unknownField ∧ e.field ∉ s.fields.names ∧ o.get? e.field ≠ none) ∨
        ∃ spec ∈ s.fields.specs, e.field = spec.name ∧
          (e.cause = .nullElement → spec.nullability = .strict) ∧
          Fault.handedOn e.message = e.message) := by
  rcases s.ofObject_outcome fresh o with ⟨key, e', hkey, he⟩ | ⟨-, α, p, -, he⟩ | ⟨-, -, r, hr, -⟩
  · rw [he] at h
    cases h
    obtain ⟨j, hj, hset⟩ := hkey.refused
    have haccept := Draft.accept_of_set_error (hset .empty)
    obtain ⟨hbuilder, rfl, ⟨hspec, hcause⟩ | ⟨spec, hspec, hrefuse⟩⟩ :=
      Schema.accept_error_cases haccept
    · refine ⟨hbuilder, .inl ⟨hcause, fun hmem => ?_, by simp [hj]⟩⟩
      obtain ⟨spec, hmem, hname⟩ := List.mem_map.1 hmem
      simpa [hname] using List.find?_eq_none.1 hspec spec hmem
    · have hname : spec.name = e.field := by simpa using List.find?_some hspec
      refine ⟨hbuilder, .inr ⟨spec, List.mem_of_find?_eq_some hspec, hname.symm, ?_, ?_⟩⟩
      · intro hcause
        rw [hcause] at hrefuse
        exact hrefuse.1
      · refine Fault.handedOn_message ?_ fun _ => Schema.unplaced_of_accept hs haccept
        intro hcause
        rw [hcause] at hrefuse
        exact hrefuse
  · rw [he] at h
    cases h
    exact ⟨rfl, .inr ⟨_, List.mem_of_getElem? (s.fields.getElem?_specs p), rfl, nofun,
      Fault.handedOn_message nofun nofun⟩⟩
  · rw [hr] at h
    cases h

/-! ## The points of a shelf -/

theorem Fields.ReadsFrom.decode_of_get? {ts : List Type} {α : Type} {fs : Fields ts}
    {fresh : Nat → Uuid} {o : Object} {r : Row ts} (h : fs.ReadsFrom fresh o r) {p : Place ts α}
    {j : Json} (hj : o.get? (fs.spec p).name = some j)
    (hkind : ∀ null, (fs.field p).kind ≠ .nullable null) :
    ((fs.codec p).decode j).result = .ok (p.read r) := by
  refine h.read_of_value α p j hj (Bool.eq_false_iff.2 fun hnull => ?_)
  rw [Json.isNull_iff.1 hnull] at hj
  obtain ⟨null, hnullable, -⟩ := h.read_of_null α p hj
  exact hkind null hnullable

namespace Point

theorem settled : Point.shape.Settled := fun _ _ _ => rfl

theorem unplaced : Point.shape.toShape.Unplaced := by
  intro α p j f h
  cases p with
  | last => exact Fault.unplaced_of_decode_string h
  | before p =>
    cases p with
    | last => exact Fault.unplaced_of_decode_integer h
    | before p =>
      cases p with
      | last => exact Fault.unplaced_of_decode_integer h
      | before p => nomatch p

/-- Points are refused under the name of one of the three fields or for a member of another name.
The wording is handed on as it is, unless it ends in such a name that reads as a position. -/
theorem refusal_of_ofObject {fresh : Nat → Uuid} {o : Object} {e : Refusal}
    (h : (Point.shape.toShape.ofObject fresh o).result = .error e) :
    e.builder = "PointBuilder" ∧ e.cause ≠ .nullElement ∧
      (e.field ∈ ["x", "y", "label"] ∨
        (e.cause = .unknownField ∧ e.field ∉ ["x", "y", "label"] ∧ o.get? e.field ≠ none)) ∧
      (Fault.handedOn e.message = e.message ∨
        (e.cause = .unknownField ∧ Fault.position? e.message ≠ none)) := by
  have hspecs : ∀ spec ∈ Point.shape.fields.specs, spec.nullability ≠ .strict := by decide
  obtain ⟨hbuilder, ⟨hcause, hfield⟩ | ⟨spec, hspec, hfield, hstrict, hmessage⟩⟩ :=
    Shape.refusal_of_ofObject unplaced h
  · refine ⟨hbuilder, by simp [hcause], .inr ⟨hcause, hfield⟩, ?_⟩
    by_cases hposition : Fault.position? e.message = none
    · exact .inl (by simp [Fault.handedOn, hposition])
    · exact .inr ⟨hcause, hposition⟩
  · have hmem : e.field ∈ ["x", "y", "label"] := hfield ▸ List.mem_map_of_mem hspec
    exact ⟨hbuilder, fun hcause => hspecs spec hspec (hstrict hcause), .inl hmem, .inl hmessage⟩

/-- The point has what its members decode as. Without a member the second coordinate is twice the
first, where that is a 64-bit number, and there is no label. -/
structure FilledFrom (o : Object) (p : Point) : Prop where
  x : ∃ j, o.get? "x" = some j ∧ (Codec.decode j : Decoded Int64).result = .ok p.x
  y : (∃ j, o.get? "y" = some j ∧ (Codec.decode j : Decoded Int64).result = .ok p.y) ∨
    (o.get? "y" = none ∧ ∀ double : Int64, double.toInt = 2 * p.x.toInt → p.y = double)
  label : (∃ j, o.get? "label" = some j ∧
      (Codec.decode j : Decoded (Option String)).result = .ok p.label) ∨
    (o.get? "label" = none ∧ p.label = none)

theorem filledFrom_of_ofObject {fresh : Nat → Uuid} {o : Object} {p : Point}
    (h : (Point.shape.toShape.ofObject fresh o).result = .ok p) : p.FilledFrom o := by
  rcases Point.shape.toShape.ofObject_outcome fresh o with
    ⟨key, e, -, he⟩ | ⟨-, α, q, -, he⟩ | ⟨-, hpresent, r, hr, hread⟩
  · rw [he] at h
    cases h
  · rw [he] at h
    cases h
  · rw [hr] at h
    cases h
    -- The row as its three values, so that reading at a place computes.
    obtain ⟨⟨⟨⟨⟩, x⟩, y⟩, label⟩ := r
    have hx : ∀ j, o.get? "x" = some j → (Codec.decode j : Decoded Int64).result = .ok x :=
      fun j hj => hread.decode_of_get? (p := .before (.before .last)) hj nofun
    have hy : ∀ j, o.get? "y" = some j → (Codec.decode j : Decoded Int64).result = .ok y :=
      fun j hj => hread.decode_of_get? (p := .before .last) hj nofun
    refine ⟨?_, ?_, ?_⟩
    · rcases hj : o.get? "x" with _ | j
      · exact absurd ⟨rfl, hj⟩ (hpresent _ (.before (.before .last)))
      · exact ⟨j, rfl, hx j hj⟩
    · rcases hj : o.get? "y" with _ | j
      · refine .inr ⟨rfl, fun double hdouble => ?_⟩
        exact (hread.read_of_defaulted _ (.before .last) _ hj rfl).trans
          (eq_of_toInt_eq_double hdouble)
      · exact .inl ⟨j, rfl, hy j hj⟩
    · rcases hj : o.get? "label" with _ | j
      · exact .inr ⟨rfl, hread.read_of_nullable _ .last none hj rfl⟩
      · refine .inl ⟨j, rfl, ?_⟩
        rcases hnull : j.isNull with _ | _
        · exact hread.read_of_value _ .last j hj hnull
        · obtain rfl := Json.isNull_iff.1 hnull
          obtain ⟨null, hkind, hlabel⟩ := hread.read_of_null _ .last hj
          cases hkind
          exact congrArg Except.ok hlabel.symm

end Point

namespace Draft

variable {s : Schema} {α : Type} [Codec α] {name : String} {j : Json} {w : α → Write s.types}

theorem set_of_decode_ok (d : Draft s)
    (h : s.accept name j = (Policy.decoded s.builder name j).map w) {a : α}
    (ha : (Codec.decode j : Decoded α).result = .ok a) :
    (d.set name j).outcome.result = .ok () ∧ (d.set name j).draft = d.write (w a) := by
  have haccept : (s.accept name j).result = .ok (w a) := by
    rw [h, Traced.result_map_eq_ok_iff]
    exact ⟨a, Traced.result_mapError_eq_ok_iff.2 ha, rfl⟩
  exact (d.set_of_accepted haccept).symm

theorem set_of_decode_error (d : Draft s)
    (h : s.accept name j = (Policy.decoded s.builder name j).map w) {f : Fault}
    (hf : (Codec.decode j : Decoded α).result = .error f) :
    (d.set name j).outcome.result = .error ⟨s.builder, name, .invalid f.message⟩ ∧
      (d.set name j).draft = d := by
  have haccept : (s.accept name j).result = .error ⟨s.builder, name, .invalid f.message⟩ := by
    rw [h, Traced.result_map, Policy.decoded, Traced.result_mapError, hf]
    rfl
  exact (d.set_of_refused haccept).symm

end Draft

namespace Shelf

def pointsPlace : Place Shelf.shape.types (List Point) :=
  .before (.before (.before (.before (.before (.before (.before .last))))))

def bestPlace : Place Shelf.shape.types (Option Point) := .before (.before .last)

theorem accept_points {j : Json} (hnull : j.isNull = false) (helement : j.hasNullElement = false) :
    Shelf.shape.accept "points" j =
      (Policy.decoded Shelf.shape.builder "points" j).map fun ps => ⟨pointsPlace, ps⟩ := by
  show (Policy.strict "ShelfBuilder" "points" j).map _ = _
  simp only [Policy.strict, hnull, helement]
  rfl

theorem accept_best {j : Json} (hnull : j.isNull = false) :
    Shelf.shape.accept "best" j =
      (Policy.decoded Shelf.shape.builder "best" j).map fun p => ⟨bestPlace, p⟩ := by
  show (Policy.nullable none "ShelfBuilder" "best" j).map _ = _
  simp only [Policy.nullable, hnull]
  rfl

theorem set_best_of_reads (d : Draft Shelf.shape.toSchema) {j : Json} {p : Point}
    (h : Point.shape.Reads j.normal p) :
    (d.set "best" j.normal).outcome.result = .ok () ∧
      (d.set "best" j.normal).draft = d.write ⟨bestPlace, some p⟩ := by
  have hdecode : (Codec.decode j.normal : Decoded Point).result = .ok p :=
    (RecordShape.decode_eq_ok_iff_reads Point.settled).2 h
  obtain ⟨o, hj, -⟩ := h
  refine d.set_of_decode_ok (accept_best ?_) (Codec.decode_some_iff.2 hdecode)
  rw [hj]
  rfl

theorem set_best_of_refuses (d : Draft Shelf.shape.toSchema) {j : Json} {reason : String}
    (hj : j ≠ .null) (h : Point.shape.Refuses j.normal reason) :
    (d.set "best" j.normal).outcome.result = .error ⟨"ShelfBuilder", "best", .invalid reason⟩ ∧
      (d.set "best" j.normal).draft = d := by
  obtain ⟨f, hf, rfl⟩ :=
    (RecordShape.decode_eq_error_iff_refuses Point.settled fun _ => ⟨0⟩).2 h
  have hnull : j.normal.isNull = false := by
    rw [Json.isNull_normal, Bool.eq_false_iff, Ne, Json.isNull_iff]
    exact hj
  have hdecode : (Codec.decode j.normal : Decoded (Option Point)).result = .error f := by
    simp only [Codec.decode, hnull, Bool.false_eq_true, if_false, Traced.result_map, hf]
    rfl
  exact d.set_of_decode_error (accept_best hnull) hdecode

/-- What a shelf under construction makes of an array without null elements that is written to its
points, and of a value that is written to its best point. -/
structure NestsPoints (d : Draft Shelf.shape.toSchema) : Prop where
  points_ok_iff : ∀ js : List Json, (Json.array js).normal.hasNullElement = false →
    ((d.set "points" (Json.array js).normal).outcome.result = .ok () ↔
      ∀ j ∈ js, ∃ p, Point.shape.Reads j.normal p)
  points_of_reads : ∀ (js : List Json) (ps : List Point),
    (Json.array js).normal.hasNullElement = false →
    List.Forall₂ (fun j p => Point.shape.Reads j.normal p) js ps →
      (d.set "points" (Json.array js).normal).draft = d.write ⟨pointsPlace, ps⟩
  /-- The first element that is refused settles the reason. -/
  points_of_refuses : ∀ (is : List Json) (j : Json) (js : List Json) (reason : String),
    (Json.array (is ++ j :: js)).normal.hasNullElement = false →
    (∀ i ∈ is, ∃ p, Point.shape.Reads i.normal p) → Point.shape.Refuses j.normal reason →
      (d.set "points" (Json.array (is ++ j :: js)).normal).outcome.result =
          .error ⟨"ShelfBuilder", "points", .invalid reason⟩ ∧
        (d.set "points" (Json.array (is ++ j :: js)).normal).draft = d
  best_ok_iff : ∀ j : Json, (d.set "best" j.normal).outcome.result = .ok () ↔
    j = .null ∨ ∃ p, Point.shape.Reads j.normal p
  best_of_null : (d.set "best" .null).draft = d.write ⟨bestPlace, none⟩
  best_of_reads : ∀ (j : Json) (p : Point), Point.shape.Reads j.normal p →
    (d.set "best" j.normal).draft = d.write ⟨bestPlace, some p⟩
  best_of_refuses : ∀ (j : Json) (reason : String), j ≠ .null →
    Point.shape.Refuses j.normal reason →
      (d.set "best" j.normal).outcome.result =
          .error ⟨"ShelfBuilder", "best", .invalid reason⟩ ∧
        (d.set "best" j.normal).draft = d

theorem nestsPoints (d : Draft Shelf.shape.toSchema) : NestsPoints d where
  points_ok_iff js hnull := by
    have haccept := accept_points rfl hnull
    constructor
    · intro hset
      rcases hps : (Codec.decode (Json.array js).normal : Decoded (List Point)).result with f | ps
      · rw [(d.set_of_decode_error haccept hps).1] at hset
        cases hset
      · intro j hj
        obtain ⟨p, -, hp⟩ :=
          exists_mem_of_forall₂ ((RecordShape.elements_eq_ok_iff_reads Point.settled).1 hps).flip
            j hj
        exact ⟨p, hp⟩
    · intro hread
      obtain ⟨ps, hps⟩ := exists_forall₂ hread
      exact (d.set_of_decode_ok haccept
        ((RecordShape.elements_eq_ok_iff_reads Point.settled).2 hps)).1
  points_of_reads js ps hnull hps :=
    (d.set_of_decode_ok (accept_points rfl hnull)
      ((RecordShape.elements_eq_ok_iff_reads Point.settled).2 hps)).2
  points_of_refuses is j js reason hnull his hj := by
    obtain ⟨f, hf, rfl⟩ := RecordShape.elements_of_refuses Point.settled his hj
    exact d.set_of_decode_error (accept_points rfl hnull) hf
  best_ok_iff j := by
    constructor
    · intro hset
      by_cases hj : j = .null
      · exact .inl hj
      · rcases RecordShape.reads_or_refuses Point.settled j with hp | ⟨reason, hreason⟩
        · exact .inr hp
        · rw [(set_best_of_refuses d hj hreason).1] at hset
          cases hset
    · rintro (rfl | ⟨p, hp⟩)
      · rfl
      · exact (set_best_of_reads d hp).1
  best_of_null := rfl
  best_of_reads j p hp := (set_best_of_reads d hp).2
  best_of_refuses j reason hj hreason := set_best_of_refuses d hj hreason

end Shelf

/-- A shelf takes points just when each is an object that makes one, and keeps what they make in
their order; it takes one point likewise, or null. What it refuses it refuses for the first element
that is no point: with the wording of the refusal of that object, as decoding hands it on, or of a
value that is no object. -/
theorem points_nest_in_shelves (d : Draft Shelf.shape.toSchema) :
    Shelf.NestsPoints d ∧
    (∀ j : Json, (∃ p, Point.shape.Reads j.normal p) ∨
      ∃ reason, Point.shape.Refuses j.normal reason) ∧
    (∀ (fresh : Nat → Uuid) (o : Object) (p : Point),
      (Point.shape.toShape.ofObject fresh o).result = .ok p → p.FilledFrom o) ∧
    (∀ (fresh : Nat → Uuid) (o : Object) (e : Refusal),
      (Point.shape.toShape.ofObject fresh o).result = .error e →
        e.builder = "PointBuilder" ∧ e.cause ≠ .nullElement ∧
          (e.field ∈ ["x", "y", "label"] ∨
            (e.cause = .unknownField ∧ e.field ∉ ["x", "y", "label"] ∧ o.get? e.field ≠ none)) ∧
          (Fault.handedOn e.message = e.message ∨
            (e.cause = .unknownField ∧ Fault.position? e.message ≠ none))) :=
  ⟨Shelf.nestsPoints d, RecordShape.reads_or_refuses Point.settled,
    fun _ _ _ => Point.filledFrom_of_ofObject, fun _ _ _ => Point.refusal_of_ofObject⟩

end StagedRecords
