import StagedRecords.Proofs.Edits
import StagedRecords.Proofs.Objects
import StagedRecords.Proofs.RoundTrip
import StagedRecords.Proofs.Specs

/-!
# Events of writes and builds

A build leaves one event if it succeeds and none if it fails. A write by name leaves the events of
decoding its value, once the checks for nulls are passed, and only a nested record leaves any there
(`Schema.events_accept`). An object leaves the events of its members up to and including the first
that is refused. `events_are_builds` puts this together for every shape of the catalogue.
-/

namespace StagedRecords

/-! ## Codecs without nested records -/

namespace Codec

variable {α : Type}

/-- Decoding builds no record. -/
class Silent (α : Type) [Codec α] : Prop where
  events_decode : ∀ j : Json, (decode j : Decoded α).events = []

theorem events_ofString (expected : Expected) (read : String → Except Fault α) (j : Json) :
    (ofString expected read j).events = [] := by
  cases j <;> rfl

instance : Silent String := ⟨events_ofString _ _⟩

instance : Silent Char := ⟨events_ofString _ _⟩

instance : Silent Date := ⟨events_ofString _ _⟩

instance : Silent Uuid := ⟨events_ofString _ _⟩

instance : Silent Bool := ⟨fun j => by cases j <;> rfl⟩

instance : Silent Int64 where
  events_decode j := by
    cases j with
    | int n =>
      simp only [decode]
      split <;> rfl
    | _ => rfl

variable [Codec α] [hα : Silent α]

include hα

theorem events_elements (j : Json) : (elements (decode : Json → Decoded α) j).events = [] := by
  cases j with
  | array js => exact Traced.events_each_of_forall hα.events_decode js
  | _ => rfl

theorem events_members (j : Json) : (members (decode : Json → Decoded α) j).events = [] := by
  cases j with
  | object ms =>
    refine Traced.events_each_of_forall (fun m => ?_) ms
    rw [Traced.events_map, hα.events_decode]
  | _ => rfl

instance : Silent (Option α) where
  events_decode j := by
    simp only [decode]
    split
    · rfl
    · exact hα.events_decode j

instance : Silent (List α) := ⟨events_elements⟩

instance : Silent (Array α) := ⟨events_elements⟩

instance [Ord α] [Std.TransOrd α] : Silent (OrderedSet α) := ⟨events_elements⟩

instance [Ord α] [Std.TransOrd α] : Silent (LooseSet α) := ⟨events_elements⟩

instance : Silent (Dict α) := ⟨events_members⟩

instance : Silent (LooseMap α) := ⟨events_members⟩

instance : Silent (Wrapped α) where
  events_decode j := by
    cases j with
    | object ms =>
      simp only [decode]
      split
      · exact hα.events_decode _
      · rfl
      · rfl
    | array js =>
      cases js with
      | nil => rfl
      | cons j js =>
        simp only [decode]
        rcases hj : (decode j : Decoded α).result with e | a
        · rw [Traced.events_bind_of_error hj, hα.events_decode]
        · rw [Traced.events_bind_of_ok hj, hα.events_decode]
          split <;> rfl
    | _ => rfl

end Codec

/-! ## Writes by name -/

/-- Whether a field of this class gets as far as decoding the value. -/
def Nullability.decodes (n : Nullability) (j : Json) : Bool :=
  !j.isNull && !(n == .strict && j.hasNullElement)

theorem Kind.events_accept {R α : Type} [Codec α] (k : Kind R α) (builder field : String)
    (j : Json) : (k.accept builder field j).events =
      if k.nullability.decodes j then (Codec.decode j : Decoded α).events else [] := by
  rcases hnull : j.isNull with _ | _
  · cases k with
    | strict =>
      rcases helement : j.hasNullElement with _ | _
      · simp [accept, Policy.strict, Policy.decoded, nullability, Nullability.decodes, hnull,
          helement]
      · simp [accept, Policy.strict, nullability, Nullability.decodes, hnull, helement,
          Traced.fail]
    | _ =>
      simp [accept, Policy.required, Policy.nullable, Policy.decoded, nullability,
        Nullability.decodes, hnull]
  · cases k <;>
      simp [accept, Policy.strict, Policy.required, Policy.nullable, Nullability.decodes, hnull,
        Traced.fail, Traced.pure]

namespace Fields

variable {ts : List Type}

/-- Only fields of these names hold nested records. -/
def SilentExcept (names : List String) (fs : Fields ts) : Prop :=
  fs.Each fun f => f.name ∉ names → ∀ j, (f.codec.decode j).events = []

theorem SilentExcept.events_decode {names : List String} {fs : Fields ts} {α : Type}
    (h : fs.SilentExcept names) {p : Place ts α} (hp : (fs.spec p).name ∉ names) (j : Json) :
    ((fs.codec p).decode j).events = [] := by
  rw [spec_eq] at hp
  rw [codec_eq]
  exact Each.field h p hp j

end Fields

namespace Schema

variable {s : Schema}

theorem events_accept {α : Type} (s : Schema) (p : Place s.types α) (j : Json) :
    (s.accept (s.fields.spec p).name j).events =
      if (s.fields.spec p).nullability.decodes j then ((s.fields.codec p).decode j).events
      else [] := by
  have hclass : (s.fields.spec p).nullability = (s.fields.field p).kind.nullability := by
    rw [Fields.spec_eq]
  let _ := (s.fields.field p).codec
  rw [accept_spec, Traced.events_map, Fields.accept_eq, hclass, Fields.codec_eq]
  exact Kind.events_accept _ _ _ _

theorem events_accept_of_find? {name : String} {w : Somewhere s.types}
    (h : s.fields.find? name = some w) (j : Json) :
    (s.accept name j).events =
      if (s.fields.spec w.place).nullability.decodes j then
        ((s.fields.codec w.place).decode j).events
      else [] := by
  obtain rfl := Fields.spec_name_of_find? h
  exact s.events_accept w.place j

theorem events_accept_of_unknown {name : String} (h : s.spec? name = none) (j : Json) :
    (s.accept name j).events = [] := by
  rw [spec?_eq_map_find?, Option.map_eq_none_iff] at h
  rw [accept, h]
  rfl

theorem events_accept_of_silent {names : List String} (h : s.fields.SilentExcept names)
    {name : String} (hname : name ∉ names) (j : Json) : (s.accept name j).events = [] := by
  rcases hspec : s.spec? name with _ | spec
  · exact events_accept_of_unknown hspec j
  · obtain ⟨α, p, rfl, rfl⟩ := exists_place_of_spec? hspec
    rw [events_accept]
    split
    · exact h.events_decode hname j
    · rfl

end Schema

namespace Draft

variable {s : Schema} {ms xs ys : List (String × Json)}

theorem events_set (d : Draft s) (name : String) (j : Json) :
    (d.set name j).outcome.events = (s.accept name j).events := by
  rw [set_outcome, Traced.events_map]

theorem events_setAll_append (h : s.Accepts xs) (d : Draft s) :
    (d.setAll (xs ++ ys)).outcome.events = (xs.flatMap fun m => (s.accept m.1 m.2).events) ++
      ((d.setAll xs).draft.setAll ys).outcome.events := by
  -- What a member leaves does not depend on the draft, so the draft may be any.
  induction xs generalizing d with
  | nil => rfl
  | cons m xs ih =>
    obtain ⟨⟨w, hw⟩, hxs⟩ := Schema.accepts_cons.1 h
    have hset := (d.set_of_accepted hw).2
    simp only [List.cons_append, setAll, hset, ih hxs, events_set, List.flatMap_cons,
      List.append_assoc]

theorem events_setAll_of_accepts (h : s.Accepts ms) (d : Draft s) :
    (d.setAll ms).outcome.events = ms.flatMap fun m => (s.accept m.1 m.2).events := by
  have happend : (d.setAll (ms ++ [])).outcome.events = _ ++ [] := events_setAll_append h d
  rwa [List.append_nil, List.append_nil] at happend

theorem events_setAll_of_refused {name : String} {j : Json} {r : Refusal} (hxs : s.Accepts xs)
    (hr : (s.accept name j).result = .error r) (d : Draft s) :
    (d.setAll (xs ++ (name, j) :: ys)).outcome.events =
      (xs ++ [(name, j)]).flatMap fun m => (s.accept m.1 m.2).events := by
  have hset := ((d.setAll xs).draft.set_of_refused hr).2
  rw [events_setAll_append hxs, List.flatMap_append, setAll, hset, events_set]
  exact congrArg _ (List.append_nil _).symm

theorem events_setAll_of_silent (h : s.fields.SilentExcept []) (d : Draft s)
    (ms : List (String × Json)) : (d.setAll ms).outcome.events = [] := by
  have hnone : ∀ l : List (String × Json), (l.flatMap fun m => (s.accept m.1 m.2).events) = [] :=
    fun l => List.flatMap_eq_nil_iff.2 fun m _ =>
      Schema.events_accept_of_silent h List.not_mem_nil m.2
  rcases s.accepts_or_refused ms with hms | ⟨xs, name, j, ys, r, rfl, hxs, hr⟩
  · rw [events_setAll_of_accepts hms, hnone]
  · rw [events_setAll_of_refused hxs hr, hnone]

end Draft

/-! ## Builds -/

namespace Shape

variable {V : Type}

/-- The events of a build that ends so. -/
def eventsOf {ε : Type} (s : Shape V) (result : Except ε V) : List Built :=
  if result.isOk then [⟨s.builder, s.module⟩] else []

theorem events_build (s : Shape V) (fresh : Nat → Uuid) (d : Draft s.toSchema) :
    (s.build fresh d).events = s.eventsOf (s.build fresh d).result := by
  rcases hr : s.fields.resolve fresh d.slots with name | r <;>
    simp only [build, Draft.build, hr] <;> rfl

theorem events_ofMembers (s : Shape V) (fresh : Nat → Uuid) (ms : List (String × Json)) :
    (s.ofMembers fresh ms).events =
      (Draft.empty.setAll ms : Attempt s.toSchema).outcome.events ++
        s.eventsOf (s.ofMembers fresh ms).result := by
  unfold ofMembers
  dsimp only
  rcases hset : (Draft.empty.setAll ms : Attempt s.toSchema).outcome.result with e | u
  · rw [Traced.events_bind_of_error hset, Traced.result_bind_of_error hset]
    exact (List.append_nil _).symm
  · rw [Traced.events_bind_of_ok hset, Traced.result_bind_of_ok hset, events_build]

end Shape

/-- A record without nested records leaves one event if it is read and none otherwise. -/
theorem RecordShape.events_decode {V : Type} {s : RecordShape V} (h : s.fields.SilentExcept [])
    (fresh : Nat → Uuid) (j : Json) :
    (s.decode fresh j).events = s.toShape.eventsOf (s.decode fresh j).result := by
  cases j with
  | object ms =>
    have hsilent : (Draft.empty.setAll ms : Attempt s.toShape.toSchema).outcome.events = [] :=
      Draft.events_setAll_of_silent h _ ms
    rw [decode, Traced.events_mapError, Shape.events_ofMembers, hsilent, Shape.eventsOf,
      Shape.eventsOf, Traced.isOk_mapError, List.nil_append]
  | _ => rfl

/-! ## The shapes of the catalogue -/

/-- The fields that hold nested records, of the shape of that name. -/
def nestedFields (name : String) : List String := if name = "Shelf" then ["points", "best"] else []

theorem silentExcept_of_mem_catalogue :
    ∀ e ∈ catalogue, e.shape.fields.SilentExcept (nestedFields e.name) := by
  apply forall_mem_catalogue (P := fun name s => s.fields.SilentExcept (nestedFields name))
  all_goals
    repeat' apply And.intro
    all_goals first
      | exact trivial
      | exact fun _ => Codec.Silent.events_decode
      | exact fun h => absurd (by decide) h

namespace Point

/-- Whether the value is an object that a point is read from. -/
def readable : Json → Bool
  | .object ms => (shape.toShape.ofMembers (fun _ => ⟨0⟩) ms).result.isOk
  | _ => false

theorem isOk_decode (j : Json) : (Codec.decode j : Decoded Point).result.isOk = readable j := by
  cases j with
  | object ms => exact Traced.isOk_mapError _ _
  | _ => rfl

theorem events_decode (j : Json) : (Codec.decode j : Decoded Point).events =
    if readable j then [⟨"PointBuilder", "samples"⟩] else [] := by
  have hsilent : shape.fields.SilentExcept [] :=
    silentExcept_of_mem_catalogue (.ofRecord "Point" Point) (by simp [catalogue])
  rw [← isOk_decode]
  exact RecordShape.events_decode hsilent _ j

end Point

namespace Shelf

/-- The builds that writes to a shelf record. Each point that is read is one, and the points are
read in order up to the first that fails. -/
structure RecordsPoints (d : Draft shape.toSchema) : Prop where
  points_of_array : ∀ js : List Json, (d.set "points" (.array js)).outcome.events =
    if (Json.array js).hasNullElement then []
    else List.replicate (js.takeWhile Point.readable).length ⟨"PointBuilder", "samples"⟩
  points_of_others : ∀ j : Json, (∀ js, j ≠ .array js) → (d.set "points" j).outcome.events = []
  best : ∀ j : Json, (d.set "best" j).outcome.events =
    if Point.readable j then [⟨"PointBuilder", "samples"⟩] else []

theorem events_points (js : List Json) : (Codec.decode (.array js) : Decoded (List Point)).events =
    List.replicate (js.takeWhile Point.readable).length ⟨"PointBuilder", "samples"⟩ := by
  have hone : ∀ j : Json, (Codec.decode j : Decoded Point).events =
      if (Codec.decode j : Decoded Point).result.isOk then [⟨"PointBuilder", "samples"⟩] else [] :=
    fun j => by rw [Point.isOk_decode, Point.events_decode]
  rw [← funext Point.isOk_decode]
  exact Traced.events_each_of_one hone js

theorem events_set_points (d : Draft shape.toSchema) (j : Json) :
    (d.set "points" j).outcome.events = if Nullability.strict.decodes j then
      (Codec.decode j : Decoded (List Point)).events else [] := by
  rw [d.events_set]
  exact @Schema.events_accept_of_find? shape.toSchema "points" _ rfl j

theorem events_set_best (d : Draft shape.toSchema) (j : Json) :
    (d.set "best" j).outcome.events = if Nullability.nullable.decodes j then
      (Codec.decode j : Decoded (Option Point)).events else [] := by
  rw [d.events_set]
  exact @Schema.events_accept_of_find? shape.toSchema "best" _ rfl j

theorem recordsPoints (d : Draft shape.toSchema) : RecordsPoints d where
  points_of_array js := by
    rw [events_set_points, events_points]
    rcases h : (Json.array js).hasNullElement with _ | _ <;>
      simp [Nullability.decodes, Json.isNull, h]
  points_of_others j hj := by
    rw [events_set_points]
    -- Null is not decoded, and nothing else that is not an array holds a point.
    cases j with
    | array js => exact absurd rfl (hj js)
    | _ => exact ite_self _
  best j := by
    rw [events_set_best]
    -- Null is taken without decoding, and is not read as a point either.
    cases j with
    | null => rfl
    | _ => exact Point.events_decode _

end Shelf

/-- The second point has no first coordinate, so the third is never read. -/
example : ((.empty : Draft Shelf.shape.toSchema).set "points" (.array [.object [("x", .int 1)],
    .object [("y", .int 2)], .object [("x", .int 3)]])).outcome.events =
      [⟨"PointBuilder", "samples"⟩] := by
  decide

/-! ## All operations -/

namespace Draft

variable {s : Schema} {o : Object}

theorem events_apply_of_takes (h : s.Takes o) (d : Draft s) :
    (d.apply o).outcome.events = o.toList.flatMap fun m => (d.set m.1 m.2).outcome.events := by
  simp only [events_set]
  exact d.events_setAll_of_accepts (Schema.accepts_of_takes h)

theorem events_apply_of_refusesFirst {key : String} {e : Refusal} (h : s.RefusesFirst o key e)
    (d : Draft s) : ∃ xs j ys, o.toList = xs ++ (key, j) :: ys ∧
      (d.apply o).outcome.events =
        (xs ++ [(key, j)]).flatMap fun m => (d.set m.1 m.2).outcome.events := by
  obtain ⟨xs, j, ys, ho, hxs, he⟩ := h.exists_split
  refine ⟨xs, j, ys, ho, ?_⟩
  simp only [events_set]
  rw [apply, ho]
  exact d.events_setAll_of_refused hxs he

end Draft

/-- The builds that the operations of a shape record, in order of completion. A write by name has
those of decoding its value alone. -/
structure Shape.RecordsBuilds {V : Type} (s : Shape V) : Prop where
  build : ∀ (fresh : Nat → Uuid) (d : Draft s.toSchema),
    (s.build fresh d).events = s.eventsOf (s.build fresh d).result
  typed : ∀ (d : Draft s.toSchema) (w : Write s.types), ((Edit.typed w).run d).outcome.events = []
  named : ∀ (d : Draft s.toSchema) (α : Type) (p : Place s.types α) (j : Json),
    (d.set (s.fields.spec p).name j).outcome.events =
      if (s.fields.spec p).nullability.decodes j then ((s.fields.codec p).decode j).events else []
  unknown : ∀ (d : Draft s.toSchema) (name : String) (j : Json), s.spec? name = none →
    (d.set name j).outcome.events = []
  apply_of_takes : ∀ (d : Draft s.toSchema) (o : Object), s.Takes o →
    (d.apply o).outcome.events = o.toList.flatMap fun m => (d.set m.1 m.2).outcome.events
  apply_of_refuses : ∀ (d : Draft s.toSchema) (o : Object) (key : String) (e : Refusal),
    s.RefusesFirst o key e → ∃ xs j ys, o.toList = xs ++ (key, j) :: ys ∧
      (d.apply o).outcome.events =
        (xs ++ [(key, j)]).flatMap fun m => (d.set m.1 m.2).outcome.events
  takes_or_refuses : ∀ o : Object, s.Takes o ∨ ∃ key e, s.RefusesFirst o key e
  ofObject : ∀ (fresh : Nat → Uuid) (o : Object), (s.ofObject fresh o).events =
    (Draft.empty.apply o : Attempt s.toSchema).outcome.events ++
      s.eventsOf (s.ofObject fresh o).result

theorem Shape.recordsBuilds {V : Type} (s : Shape V) : s.RecordsBuilds where
  build := s.events_build
  typed _ _ := rfl
  named d α p j := by rw [d.events_set, s.events_accept]
  unknown d name j h := by rw [d.events_set, Schema.events_accept_of_unknown h]
  apply_of_takes d o h := d.events_apply_of_takes h
  apply_of_refuses d o key e h := d.events_apply_of_refusesFirst h
  takes_or_refuses o := s.toSchema.takes_or_refusesFirst o
  ofObject fresh o := s.events_ofMembers fresh o.toList

/-- A build records one event under the name of its builder if it succeeds and none if it fails. A
write by name records only the builds of nested records, which are the points of a shelf, and an
object those of its members up to the first that is refused. What is read from an object alone
adds its own build at the end if it succeeds. -/
theorem events_are_builds :
    (∀ (V : Type) (s : Shape V), s.RecordsBuilds) ∧
    (∀ e ∈ catalogue, ∀ (d : Draft e.shape.toSchema) (name : String) (j : Json),
      ¬(e.name = "Shelf" ∧ (name = "points" ∨ name = "best")) →
        (d.set name j).outcome.events = []) ∧
    ∀ d : Draft Shelf.shape.toSchema, Shelf.RecordsPoints d := by
  refine ⟨fun V s => s.recordsBuilds, fun e he d name j hname => ?_, Shelf.recordsPoints⟩
  have hsilent := silentExcept_of_mem_catalogue e he
  rw [d.events_set]
  refine Schema.events_accept_of_silent hsilent (fun hmem => hname ?_) j
  unfold nestedFields at hmem
  split at hmem
  · next hshelf => exact ⟨hshelf, by simpa using hmem⟩
  · exact absurd hmem List.not_mem_nil

end StagedRecords
