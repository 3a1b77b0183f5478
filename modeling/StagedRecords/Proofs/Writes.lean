import StagedRecords.Proofs.Slots

/-!
# Drafts after writes

A slot holds the value of the last write to it (`get_writeAll`). Whether a member of an object is
accepted depends on the member alone, so setting an object comes to the writes of the members in
front of the first that is refused (`setAll_draft`) and ends as that one does.
-/

namespace StagedRecords

namespace Place

variable {ts : List Type} {α : Type}

/-- The value that the last of these writes to the place gives it. -/
def lastOf (p : Place ts α) : List (Write ts) → Option α
  | [] => none
  | w :: ws => (p.lastOf ws).or (p.given w.place w.value)

theorem lastOf_append (p : Place ts α) (xs ys : List (Write ts)) :
    p.lastOf (xs ++ ys) = (p.lastOf ys).or (p.lastOf xs) := by
  induction xs with
  | nil => simp [lastOf]
  | cons w xs ih => rw [List.cons_append, lastOf, ih, lastOf, Option.or_assoc]

theorem lastOf_eq_none_iff {p : Place ts α} {ws : List (Write ts)} :
    p.lastOf ws = none ↔ ∀ a, (⟨p, a⟩ : Write ts) ∉ ws := by
  induction ws with
  | nil => simp [lastOf]
  | cons w ws ih =>
    have hw : p.given w.place w.value = none ↔ ∀ a, (⟨p, a⟩ : Write ts) ≠ w := by
      rw [Option.eq_none_iff_forall_ne_some]
      exact forall_congr' fun a => by rw [ne_eq, given_eq_some_iff, ne_eq, eq_comm]
    simp only [lastOf, Option.or_eq_none_iff, ih, hw, List.mem_cons, not_or]
    exact ⟨fun h a => ⟨h.2 a, h.1 a⟩, fun h => ⟨fun a => (h a).2, fun a => (h a).1⟩⟩

/-- The last write to a place is one that no other write to it comes after. -/
theorem lastOf_eq_some_iff {p : Place ts α} {ws : List (Write ts)} {a : α} :
    p.lastOf ws = some a ↔
      ∃ xs ys, ws = xs ++ ⟨p, a⟩ :: ys ∧ ∀ b, (⟨p, b⟩ : Write ts) ∉ ys := by
  constructor
  · intro h
    induction ws with
    | nil => cases h
    | cons w ws ih =>
      rcases hl : p.lastOf ws with _ | b
      · rw [lastOf, hl, Option.none_or, given_eq_some_iff] at h
        exact ⟨[], ws, by rw [h]; rfl, lastOf_eq_none_iff.1 hl⟩
      · rw [lastOf, hl, Option.some_or] at h
        obtain ⟨xs, ys, rfl, hys⟩ := ih (hl.trans h)
        exact ⟨w :: xs, ys, rfl, hys⟩
  · rintro ⟨xs, ys, rfl, hys⟩
    rw [lastOf_append, lastOf, lastOf_eq_none_iff.2 hys, Option.none_or, given_self]
    rfl

theorem mem_of_lastOf {p : Place ts α} {ws : List (Write ts)} {a : α}
    (h : p.lastOf ws = some a) : (⟨p, a⟩ : Write ts) ∈ ws := by
  obtain ⟨xs, ys, rfl, -⟩ := lastOf_eq_some_iff.1 h
  exact List.mem_append_right xs List.mem_cons_self

theorem lastOf_eq_of_mem_iff {p : Place ts α} {ws : List (Write ts)} {x : Option α}
    (h : ∀ a, (⟨p, a⟩ : Write ts) ∈ ws ↔ x = some a) : p.lastOf ws = x := by
  rcases hlast : p.lastOf ws with _ | a
  · rcases x with _ | a
    · rfl
    · exact absurd ((h a).2 rfl) (lastOf_eq_none_iff.1 hlast a)
  · exact ((h a).1 (mem_of_lastOf hlast)).symm

end Place

variable {s : Schema}

namespace Draft

theorem ext {d e : Draft s}
    (h : ∀ (α : Type) (p : Place s.types α), p.get d.slots = p.get e.slots) : d = e :=
  congrArg Draft.mk (Slots.ext h)

/-- The draft after these writes, in their order. -/
def writeAll (d : Draft s) (ws : List (Write s.types)) : Draft s := ws.foldl write d

theorem writeAll_append (d : Draft s) (xs ys : List (Write s.types)) :
    d.writeAll (xs ++ ys) = (d.writeAll xs).writeAll ys :=
  List.foldl_append

/-- A slot holds what the last write to it gave it, or else what it held before. -/
theorem get_writeAll {α : Type} (p : Place s.types α) (d : Draft s) (ws : List (Write s.types)) :
    p.get (d.writeAll ws).slots = (p.lastOf ws).or (p.get d.slots) := by
  induction ws generalizing d with
  | nil => rfl
  | cons w ws ih =>
    show p.get ((d.write w).writeAll ws).slots = _
    rw [ih, write, Place.get_put, Place.lastOf, Option.or_assoc]

theorem set_of_accepted (d : Draft s) {name : String} {j : Json} {w : Write s.types}
    (h : (s.accept name j).result = .ok w) :
    (d.set name j).draft = d.write w ∧ (d.set name j).outcome.result = .ok () := by
  unfold set
  split
  · next heq =>
    rw [heq] at h
    cases h
    exact ⟨rfl, rfl⟩
  · next heq =>
    rw [heq] at h
    cases h

theorem set_of_refused (d : Draft s) {name : String} {j : Json} {r : Refusal}
    (h : (s.accept name j).result = .error r) :
    (d.set name j).draft = d ∧ (d.set name j).outcome.result = .error r := by
  unfold set
  split
  · next heq =>
    rw [heq] at h
    cases h
  · next heq =>
    rw [heq] at h
    cases h
    exact ⟨rfl, rfl⟩

end Draft

namespace Schema

/-- The writes that the members make, up to the first that is refused. -/
def writes (s : Schema) : List (String × Json) → List (Write s.types)
  | [] => []
  | (name, j) :: ms =>
    match (s.accept name j).result with
    | .ok w => w :: s.writes ms
    | .error _ => []

/-- Whether every member is accepted. -/
def Accepts (s : Schema) (ms : List (String × Json)) : Prop :=
  ∀ m ∈ ms, ∃ w, (s.accept m.1 m.2).result = .ok w

theorem accepts_nil (s : Schema) : s.Accepts [] := by
  intro m h
  cases h

theorem accepts_cons {m : String × Json} {ms : List (String × Json)} :
    s.Accepts (m :: ms) ↔ (∃ w, (s.accept m.1 m.2).result = .ok w) ∧ s.Accepts ms :=
  List.forall_mem_cons

theorem accepts_or_refused (s : Schema) (ms : List (String × Json)) :
    s.Accepts ms ∨ ∃ xs name j ys r, ms = xs ++ (name, j) :: ys ∧ s.Accepts xs ∧
      (s.accept name j).result = .error r := by
  induction ms with
  | nil => exact .inl s.accepts_nil
  | cons m ms ih =>
    obtain ⟨name, j⟩ := m
    rcases hm : (s.accept name j).result with r | w
    · exact .inr ⟨[], name, j, ms, r, rfl, s.accepts_nil, hm⟩
    · rcases ih with h | ⟨xs, name', j', ys, r, rfl, hxs, hr⟩
      · exact .inl (accepts_cons.2 ⟨⟨w, hm⟩, h⟩)
      · exact .inr ⟨(name, j) :: xs, name', j', ys, r, rfl, accepts_cons.2 ⟨⟨w, hm⟩, hxs⟩, hr⟩

theorem mem_writes {ms : List (String × Json)} (h : s.Accepts ms) {w : Write s.types} :
    w ∈ s.writes ms ↔ ∃ m ∈ ms, (s.accept m.1 m.2).result = .ok w := by
  induction ms with
  | nil => simp [writes]
  | cons m ms ih =>
    obtain ⟨⟨w', hw'⟩, hms⟩ := accepts_cons.1 h
    have hone : w = w' ↔ (s.accept m.1 m.2).result = .ok w := by
      rw [hw', Except.ok.injEq, eq_comm]
    have hcons : s.writes (m :: ms) = w' :: s.writes ms := by simp only [writes, hw']
    rw [hcons, List.mem_cons, ih hms, hone]
    constructor
    · rintro (hm | ⟨m', hm', hacc⟩)
      · exact ⟨m, List.mem_cons_self, hm⟩
      · exact ⟨m', List.mem_cons_of_mem m hm', hacc⟩
    · rintro ⟨m', hm', hacc⟩
      rcases List.mem_cons.1 hm' with rfl | hm'
      · exact .inl hacc
      · exact .inr ⟨m', hm', hacc⟩

theorem writes_of_accepted {name : String} {j : Json} {w : Write s.types}
    (h : (s.accept name j).result = .ok w) (ms : List (String × Json)) :
    s.writes ((name, j) :: ms) = w :: s.writes ms := by
  simp only [writes, h]

theorem writes_of_refused {name : String} {j : Json} {r : Refusal}
    (h : (s.accept name j).result = .error r) (ms : List (String × Json)) :
    s.writes ((name, j) :: ms) = [] := by
  simp only [writes, h]

theorem writes_append {xs : List (String × Json)} (h : s.Accepts xs) (ys : List (String × Json)) :
    s.writes (xs ++ ys) = (xs.flatMap fun m => s.writes [m]) ++ s.writes ys := by
  induction xs with
  | nil => rfl
  | cons m xs ih =>
    obtain ⟨⟨w, hw⟩, hxs⟩ := accepts_cons.1 h
    rw [List.cons_append, writes_of_accepted hw, ih hxs, List.flatMap_cons,
      writes_of_accepted hw, List.append_assoc]
    rfl

theorem accept_spec {α : Type} (s : Schema) (p : Place s.types α) (j : Json) :
    s.accept (s.fields.spec p).name j =
      (s.fields.accept s.builder j p).map fun a => ⟨p, a⟩ := by
  rw [accept, Fields.find?_spec s.distinct p]

theorem accept_spec_of_ok {α : Type} {p : Place s.types α} {j : Json} {a : α}
    (h : (s.fields.accept s.builder j p).result = .ok a) :
    (s.accept (s.fields.spec p).name j).result = .ok ⟨p, a⟩ := by
  rw [accept_spec, Traced.result_map, h]
  rfl

theorem accept_null {α : Type} {p : Place s.types α} {null : α}
    (hk : (s.fields.field p).kind = .nullable null) :
    (s.accept (s.fields.spec p).name .null).result = .ok ⟨p, null⟩ := by
  refine accept_spec_of_ok ?_
  rw [Fields.accept_eq, hk]
  rfl

theorem accept_eq_ok {name : String} {j : Json} {w : Write s.types}
    (h : (s.accept name j).result = .ok w) :
    (s.fields.spec w.place).name = name ∧
      (s.fields.accept s.builder j w.place).result = .ok w.value := by
  unfold accept at h
  split at h
  · next w' hfind =>
    have hname := Fields.spec_name_of_find? hfind
    rw [Traced.result_map] at h
    rcases ha : (s.fields.accept s.builder j w'.place).result with r | a <;> rw [ha] at h <;>
      cases h
    exact ⟨hname, ha⟩
  · cases h

/-- Accepted members write to a place what its field takes from the members of its name. -/
theorem mem_writes_at {ms : List (String × Json)} (h : s.Accepts ms) {α : Type}
    {p : Place s.types α} {a : α} :
    (⟨p, a⟩ : Write s.types) ∈ s.writes ms ↔
      ∃ j, ((s.fields.spec p).name, j) ∈ ms ∧
        (s.fields.accept s.builder j p).result = .ok a := by
  rw [mem_writes h]
  constructor
  · rintro ⟨⟨key, j⟩, hm, hacc⟩
    obtain ⟨hname, ha⟩ := accept_eq_ok hacc
    exact ⟨j, by rw [hname]; exact hm, ha⟩
  · rintro ⟨j, hm, ha⟩
    exact ⟨_, hm, accept_spec_of_ok ha⟩

theorem writes_append_of_refused {xs ys : List (String × Json)} {name : String} {j : Json}
    {r : Refusal} (hxs : s.Accepts xs) (hr : (s.accept name j).result = .error r) :
    s.writes (xs ++ (name, j) :: ys) = s.writes xs := by
  have happend := writes_append hxs []
  rw [List.append_nil, writes, List.append_nil] at happend
  rw [writes_append hxs, writes_of_refused hr, List.append_nil, happend]

end Schema

namespace Draft

theorem set_draft (d : Draft s) (name : String) (j : Json) :
    (d.set name j).draft = d.writeAll (s.writes [(name, j)]) := by
  rcases hm : (s.accept name j).result with r | w
  · simp only [(d.set_of_refused hm).1, Schema.writes, hm]
    rfl
  · simp only [(d.set_of_accepted hm).1, Schema.writes, hm]
    rfl

variable (d : Draft s) (ms : List (String × Json))

/-- Setting members comes to the writes up to the first that is refused. -/
theorem setAll_draft : (d.setAll ms).draft = d.writeAll (s.writes ms) := by
  induction ms generalizing d with
  | nil => rfl
  | cons m ms ih =>
    obtain ⟨name, j⟩ := m
    rcases hm : (s.accept name j).result with r | w
    · obtain ⟨hd, hr⟩ := d.set_of_refused hm
      simp only [setAll, hr, hd, Schema.writes, hm]
      rfl
    · obtain ⟨hd, hr⟩ := d.set_of_accepted hm
      simp only [setAll, hr, hd, Schema.writes, hm, ih]
      rfl

theorem setAll_of_accepts (h : s.Accepts ms) : (d.setAll ms).outcome.result = .ok () := by
  induction ms generalizing d with
  | nil => rfl
  | cons m ms ih =>
    obtain ⟨⟨w, hw⟩, hms⟩ := Schema.accepts_cons.1 h
    obtain ⟨-, hr⟩ := d.set_of_accepted hw
    simp only [setAll, hr, ih _ hms]

theorem setAll_of_refused {xs ys : List (String × Json)} {name : String} {j : Json} {r : Refusal}
    (hxs : s.Accepts xs) (hr : (s.accept name j).result = .error r) :
    (d.setAll (xs ++ (name, j) :: ys)).outcome.result = .error r := by
  induction xs generalizing d with
  | nil =>
    obtain ⟨-, hset⟩ := d.set_of_refused hr
    simp only [List.nil_append, setAll, hset]
  | cons m xs ih =>
    obtain ⟨⟨w, hw⟩, hrest⟩ := Schema.accepts_cons.1 hxs
    obtain ⟨-, hset⟩ := d.set_of_accepted hw
    simp only [List.cons_append, setAll, hset, ih _ hrest]

end Draft

end StagedRecords
