import StagedRecords.Catalogue.Constructed
import StagedRecords.Proofs.Sorted
import StagedRecords.Proofs.Writes
import StagedRecords.Session

/-!
# The history of a draft

Beside a session runs the list of the writes that its current draft has seen, the oldest first, and
a copy of that list for each draft kept. Every operation keeps the two in step (`Agrees.step`), so
after any run each slot holds the value of the last write to it (`slots_hold_last_writes`).
-/

namespace StagedRecords

variable {ts : List Type}

/-- One write for each slot that has a value, in the order of declaration. -/
def Slots.writes : {ts : List Type} → Slots ts → List (Write ts)
  | [], _ => []
  | _ :: _, (s, x) =>
    (writes s).map (fun w => ⟨.before w.place, w.value⟩) ++ (x.map fun a => ⟨.last, a⟩).toList

theorem Slots.mem_writes : ∀ {ts : List Type} {s : Slots ts} {α : Type} {p : Place ts α} {a : α},
    (⟨p, a⟩ : Write ts) ∈ s.writes ↔ p.get s = some a
  | _ :: _, (s, x), _, .last, a => by
    have hbefore : (⟨.last, a⟩ : Write _) ∉ s.writes.map fun w => ⟨.before w.place, w.value⟩ := by
      intro h
      obtain ⟨w, -, hw⟩ := List.mem_map.1 h
      cases hw
    rw [writes, List.mem_append, or_iff_right hbefore]
    cases x <;> simp [Place.get, eq_comm]
  | _ :: _, (s, x), _, .before p, a => by
    have hlast : (⟨.before p, a⟩ : Write _) ∉ (x.map fun b => (⟨.last, b⟩ : Write _)).toList := by
      intro h
      obtain ⟨b, -, hb⟩ := Option.map_eq_some_iff.1 (Option.mem_toList.1 h)
      cases hb
    rw [writes, List.mem_append, or_iff_left hlast, List.mem_map]
    constructor
    · rintro ⟨w, hw, he⟩
      cases he
      show w.place.get s = some w.value
      exact mem_writes.1 hw
    · exact fun h => ⟨⟨p, a⟩, mem_writes.2 h, rfl⟩

theorem Slots.length_writes_ofRow : ∀ {ts : List Type} (r : Row ts),
    (Slots.ofRow r).writes.length = ts.length
  | [], _ => rfl
  | _ :: _, (r, a) => by
    rw [ofRow, writes, List.length_append, List.length_map, length_writes_ofRow r]
    rfl

theorem Draft.writeAll_writes {s : Schema} (slots : Slots s.types) :
    (Draft.empty : Draft s).writeAll slots.writes = ⟨slots⟩ := by
  refine Draft.ext fun α p => ?_
  rw [get_writeAll, Place.lastOf_eq_of_mem_iff fun a => Slots.mem_writes, empty, Place.get_none,
    Option.or_none]

/-! ## Sessions step by step -/

variable {V : Type}

/-- One operation on a session. A draft may start from any value, kept before or not. -/
inductive Operation (s : Shape V)
  | start
  | startFrom (v : V)
  | write (w : Write s.types)
  | set (name : String) (j : Json)
  | apply (o : Object)
  | build (as : String) (fresh : Nat → Nat → Uuid)
  | save (as : String)
  | restore (of : String)

/-- The writes that a draft which starts from a value has seen: one for each slot that is given
back. -/
def Shape.history (s : Shape V) (v : V) : List (Write s.types) := (s.refill v).writes

/-- The writes that the current draft has seen, and those of the drafts that are kept. -/
structure History (s : Shape V) where
  current : List (Write s.types)
  kept : String → Option (List (Write s.types))

variable {s : Shape V}

/-- The session after an operation. A name under which no draft is kept restores nothing. -/
def Session.step (n : Session s) : Operation s → Session s
  | .start => n.goOnWith .empty
  | .startFrom v => n.goOnWith (s.draft v)
  | .write w => n.write w
  | .set name j => (n.set name j).1
  | .apply o => (n.apply o).1
  | .build as fresh => (n.build as fresh).1
  | .save as => n.save as
  | .restore of => (n.restore of).getD n

theorem Session.draft_build (n : Session s) (as : String) (fresh : Nat → Nat → Uuid) :
    (n.build as fresh).1.draft = n.draft := by
  unfold build keep
  dsimp only
  split <;> rfl

theorem Session.drafts_build (n : Session s) (as : String) (fresh : Nat → Nat → Uuid) :
    (n.build as fresh).1.drafts = n.drafts := by
  unfold build keep
  dsimp only
  split <;> rfl

/-- The session after some operations, from the start. -/
def Session.run (ops : List (Operation s)) : Session s := ops.foldl step start

namespace History

/-- Nothing written and nothing kept. -/
def start : History s := ⟨[], fun _ => none⟩

/-- Sees more writes. -/
def add (h : History s) (ws : List (Write s.types)) : History s :=
  { h with current := h.current ++ ws }

/-- The history after an operation. -/
def step (h : History s) : Operation s → History s
  | .start => { h with current := [] }
  | .startFrom v => { h with current := s.history v }
  | .write w => h.add [w]
  | .set name j => h.add (s.writes [(name, j)])
  | .apply o => h.add (s.writes o.toList)
  | .build _ _ => h
  | .save as => { h with kept := fun name => if name = as then some h.current else h.kept name }
  | .restore of => { h with current := (h.kept of).getD h.current }

/-- The history after some operations, from the start. -/
def run (ops : List (Operation s)) : History s := ops.foldl step start

end History

/-- The drafts of the session are what the writes of the history make of the empty draft. -/
structure Agrees (n : Session s) (h : History s) : Prop where
  draft : n.draft = Draft.empty.writeAll h.current
  drafts : ∀ name, n.drafts.get? name = (h.kept name).map Draft.empty.writeAll

theorem agrees_start : Agrees (Session.start : Session s) History.start where
  draft := rfl
  drafts _ := rfl

namespace Agrees

variable {n : Session s} {h : History s}

theorem goOnWith (ha : Agrees n h) {d : Draft s.toSchema} {ws : List (Write s.types)}
    (hd : d = Draft.empty.writeAll ws) : Agrees (n.goOnWith d) { h with current := ws } where
  draft := hd
  drafts := ha.drafts

theorem add (ha : Agrees n h) (ws : List (Write s.types)) :
    Agrees (n.goOnWith (n.draft.writeAll ws)) (h.add ws) :=
  ha.goOnWith <| by rw [ha.draft, Draft.writeAll_append]

theorem save (ha : Agrees n h) (as : String) : Agrees (n.save as) (h.step (.save as)) where
  draft := ha.draft
  drafts name := by
    show Dict.get? (n.drafts.insert (as, n.draft)) name =
      (if name = as then some h.current else h.kept name).map Draft.empty.writeAll
    rw [Dict.get?_insert]
    split
    · rw [Option.map_some, ha.draft]
    · exact ha.drafts name

theorem restore (ha : Agrees n h) (of : String) :
    Agrees ((n.restore of).getD n) (h.step (.restore of)) := by
  have hdrafts := ha.drafts of
  rcases hk : h.kept of with _ | ws
  · rw [hk] at hdrafts
    simp only [Session.restore, hdrafts, History.step, hk, Option.map_none, Option.getD_none]
    exact ha
  · rw [hk] at hdrafts
    simp only [Session.restore, hdrafts, History.step, hk, Option.map_some, Option.getD_some]
    exact ha.goOnWith rfl

theorem build (ha : Agrees n h) (as : String) (fresh : Nat → Nat → Uuid) :
    Agrees (n.build as fresh).1 h where
  draft := (n.draft_build as fresh).trans ha.draft
  drafts name := by rw [n.drafts_build as fresh, ha.drafts name]

theorem step (ha : Agrees n h) (op : Operation s) : Agrees (n.step op) (h.step op) := by
  cases op with
  | start => exact ha.goOnWith rfl
  | startFrom v => exact ha.goOnWith (Draft.writeAll_writes (s.refill v)).symm
  | write w => exact ha.add [w]
  | set name j =>
    show Agrees (n.goOnWith (n.draft.set name j).draft) (h.add (s.writes [(name, j)]))
    rw [Draft.set_draft]
    exact ha.add _
  | apply o =>
    show Agrees (n.goOnWith (n.draft.setAll o.toList).draft) (h.add (s.writes o.toList))
    rw [Draft.setAll_draft]
    exact ha.add _
  | build as fresh => exact ha.build as fresh
  | save as => exact ha.save as
  | restore of => exact ha.restore of

/-- Whatever the operations are, the session and its history stay in step. -/
theorem run (ops : List (Operation s)) : Agrees (Session.run ops) (History.run ops) := by
  have hfold : ∀ (ops : List (Operation s)) {n : Session s} {h : History s}, Agrees n h →
      Agrees (ops.foldl Session.step n) (ops.foldl History.step h) := by
    intro ops
    induction ops with
    | nil => exact fun ha => ha
    | cons op ops ih => exact fun ha => ih (ha.step op)
  exact hfold ops agrees_start

end Agrees

/-! ## What slots hold -/

/-- What a draft holds after writes: an empty slot was never written to, and a slot with a value
was last written to with that value. -/
structure Draft.HoldsLast {s : Schema} (d : Draft s) (ws : List (Write s.types)) : Prop where
  get_eq_none_iff : ∀ (α : Type) (p : Place s.types α),
    p.get d.slots = none ↔ ∀ a, (⟨p, a⟩ : Write s.types) ∉ ws
  get_eq_some_iff : ∀ (α : Type) (p : Place s.types α) (a : α), p.get d.slots = some a ↔
    ∃ xs ys, ws = xs ++ ⟨p, a⟩ :: ys ∧ ∀ b, (⟨p, b⟩ : Write s.types) ∉ ys
  isEmpty_iff : d.isEmpty = true ↔ ws = []

theorem Draft.holdsLast_writeAll {s : Schema} (ws : List (Write s.types)) :
    (Draft.empty.writeAll ws : Draft s).HoldsLast ws := by
  have hget : ∀ (α : Type) (p : Place s.types α),
      p.get (Draft.empty.writeAll ws : Draft s).slots = p.lastOf ws := by
    intro α p
    rw [get_writeAll, empty, Place.get_none, Option.or_none]
  refine ⟨fun α p => ?_, fun α p a => ?_, ?_⟩
  · rw [hget, Place.lastOf_eq_none_iff]
  · rw [hget, Place.lastOf_eq_some_iff]
  · rw [isEmpty, Slots.allEmpty_iff]
    simp only [hget, Place.lastOf_eq_none_iff]
    refine ⟨fun h => List.eq_nil_iff_forall_not_mem.2 fun w => h w.α w.place w.value, ?_⟩
    rintro rfl α p a
    exact List.not_mem_nil

/-- What counts as a write: a set that succeeds, of the field of that name, null included; and the
sets of an object up to the first that fails. -/
structure Schema.CountsWrites (s : Schema) : Prop where
  set_ok : ∀ (d : Draft s) (name : String) (j : Json),
    (d.set name j).outcome.result = .ok () →
      ∃ w, s.writes [(name, j)] = [w] ∧ (s.fields.spec w.place).name = name ∧
        (s.fields.accept s.builder j w.place).result = .ok w.value
  set_null : ∀ (α : Type) (p : Place s.types α) (null : α),
    (s.fields.field p).kind = .nullable null →
      s.writes [((s.fields.spec p).name, .null)] = [⟨p, null⟩]
  set_error : ∀ (d : Draft s) (name : String) (j : Json) (e : Refusal),
    (d.set name j).outcome.result = .error e → s.writes [(name, j)] = []
  apply_ok : ∀ (d : Draft s) (o : Object), (d.apply o).outcome.result = .ok () →
    s.writes o.toList = o.toList.flatMap fun m => s.writes [m]
  apply_error : ∀ (d : Draft s) (o : Object) (e : Refusal),
    (d.apply o).outcome.result = .error e →
      ∃ xs name j ys, o.toList = xs ++ (name, j) :: ys ∧
        (∀ m ∈ xs, (d.set m.1 m.2).outcome.result = .ok ()) ∧
        (d.set name j).outcome.result = .error e ∧
        s.writes o.toList = xs.flatMap fun m => s.writes [m]

theorem Schema.countsWrites (s : Schema) : s.CountsWrites where
  set_ok d name j h := by
    rcases ha : (s.accept name j).result with e | w
    · rw [(d.set_of_refused ha).2] at h
      cases h
    · exact ⟨w, writes_of_accepted ha [], accept_eq_ok ha⟩
  set_null α p null hk := writes_of_accepted (accept_null hk) []
  set_error d name j e h := by
    rcases ha : (s.accept name j).result with e | w
    · exact writes_of_refused ha []
    · rw [(d.set_of_accepted ha).2] at h
      cases h
  apply_ok d o h := by
    rcases s.accepts_or_refused o.toList with hall | ⟨xs, name, j, ys, e, ho, hxs, he⟩
    · have happend := writes_append hall []
      rwa [List.append_nil, writes, List.append_nil] at happend
    · rw [Draft.apply, ho, d.setAll_of_refused hxs he] at h
      cases h
  apply_error d o e h := by
    rcases s.accepts_or_refused o.toList with hall | ⟨xs, name, j, ys, e', ho, hxs, he⟩
    · rw [Draft.apply, d.setAll_of_accepts _ hall] at h
      cases h
    · rw [Draft.apply, ho, d.setAll_of_refused hxs he] at h
      cases h
      refine ⟨xs, name, j, ys, ho, fun m hm => ?_, (d.set_of_refused he).2, ?_⟩
      · obtain ⟨w, hw⟩ := hxs m hm
        exact (d.set_of_accepted hw).2
      · rw [ho, writes_append hxs, writes_of_refused he, List.append_nil]

theorem RecordShape.mem_history (s : RecordShape V) (v : V) {α : Type} (p : Place s.types α)
    (a : α) : (⟨p, a⟩ : Write s.types) ∈ s.toShape.history v ↔ a = p.read (s.row v) := by
  refine Slots.mem_writes.trans ?_
  show p.get (Slots.ofRow (s.row v)) = some a ↔ _
  rw [Place.get_ofRow, Option.some.injEq, eq_comm]

/-- After any run of operations, an empty slot was never written to, a slot with a value was last
written to with that value, and the draft is empty just when nothing was written. -/
theorem slots_hold_last_writes :
    (∀ (V : Type) (s : Shape V) (ops : List (Operation s)),
      (Session.run ops).draft.HoldsLast (History.run ops).current) ∧
    (∀ s : Schema, s.CountsWrites) ∧
    (∀ (V : Type) (s : RecordShape V) (v : V),
      (s.toShape.history v).length = s.types.length ∧
      ∀ (α : Type) (p : Place s.types α) (a : α),
        (⟨p, a⟩ : Write s.types) ∈ s.toShape.history v ↔ a = p.read (s.row v)) ∧
    (∀ v : PersonName, ∃ p, PersonName.fields.find? "other_name" = some ⟨p⟩ ∧
      PersonName.shape.history v = [⟨p, v.otherName⟩]) ∧
    (∀ v : Greeting, ∃ p, Greeting.fields.find? "punctuation" = some ⟨p⟩ ∧
      Greeting.shape.history v = [⟨p, v.punctuation⟩]) := by
  refine ⟨fun V s ops => ?_, Schema.countsWrites, fun V s v => ⟨?_, fun α p a => ?_⟩,
    fun v => ⟨.last, rfl, rfl⟩, fun v => ⟨.last, rfl, rfl⟩⟩
  · rw [(Agrees.run ops).draft]
    exact Draft.holdsLast_writeAll _
  · exact Slots.length_writes_ofRow (s.row v)
  · exact s.mem_history v p a

end StagedRecords
