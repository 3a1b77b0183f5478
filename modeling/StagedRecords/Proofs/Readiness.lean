import StagedRecords.Proofs.Edits
import StagedRecords.Proofs.Specs

/-!
# Readiness

As long as a session goes on with the same draft, no operation empties a slot
(`Session.growsTo_step`). A field that a build misses later was therefore missed before, so the
first field that a build misses only moves towards the last one, and once a build succeeds it
succeeds from then on (`readiness_moves_forward`).
-/

namespace StagedRecords

namespace Draft

variable {s : Schema} {d d' d'' : Draft s}

/-- Every slot with a value in the one draft has a value in the other. -/
def GrowsTo (d d' : Draft s) : Prop :=
  ∀ (α : Type) (p : Place s.types α), p.get d.slots ≠ none → p.get d'.slots ≠ none

theorem GrowsTo.refl (d : Draft s) : d.GrowsTo d := fun _ _ h => h

theorem GrowsTo.trans (h : d.GrowsTo d') (h' : d'.GrowsTo d'') : d.GrowsTo d'' :=
  fun α p hp => h' α p (h α p hp)

theorem growsTo_writeAll (d : Draft s) (ws : List (Write s.types)) :
    d.GrowsTo (d.writeAll ws) := by
  intro α p hp hnone
  rw [get_writeAll, Option.or_eq_none_iff] at hnone
  exact hp hnone.2

theorem GrowsTo.isEmpty (h : d.GrowsTo d') (hd : d.isEmpty = false) : d'.isEmpty = false := by
  rw [Bool.eq_false_iff] at hd ⊢
  intro hd'
  have hnone := Slots.allEmpty_iff.1 hd'
  refine hd (Slots.allEmpty_iff.2 fun α p => ?_)
  rcases hp : p.get d.slots with _ | a
  · rfl
  · have hsome : p.get d.slots ≠ none := by simp [hp]
    exact absurd (hnone α p) (h α p hsome)

/-- What a field lacks in the fuller draft it lacks in the other. -/
theorem GrowsTo.lacks {α : Type} {p : Place s.types α} (h : d.GrowsTo d')
    (hp : s.fields.Lacks d'.slots p) : s.fields.Lacks d.slots p := by
  obtain ⟨hset, hnone⟩ := hp
  refine ⟨hset, ?_⟩
  rcases hd : p.get d.slots with _ | a
  · rfl
  · have hsome : p.get d.slots ≠ none := by simp [hd]
    exact absurd hnone (h α p hsome)

/-- The first field that the fuller draft lacks comes no earlier. -/
theorem GrowsTo.index_le {α β : Type} {p : Place s.types α} {q : Place s.types β}
    (h : d.GrowsTo d') (hp : s.fields.LacksFirst d.slots p)
    (hq : s.fields.LacksFirst d'.slots q) : p.index ≤ q.index := by
  rcases Nat.lt_or_ge q.index p.index with hlt | hle
  · exact absurd (h.lacks hq.lacks) (hp.least β q hlt)
  · exact hle

end Draft

theorem Fields.getElem?_names {ts : List Type} {α : Type} (fs : Fields ts) (p : Place ts α) :
    fs.names[p.index]? = some (fs.spec p).name := by
  rw [names, List.getElem?_map, getElem?_specs]
  rfl

section Builds

variable {V : Type} {s : Shape V} {d d' : Draft s.toSchema} {fresh : Nat → Uuid}

theorem Draft.GrowsTo.build_ok {v : V} (h : d.GrowsTo d')
    (hv : (s.build fresh d).result = .ok v) (fresh' : Nat → Uuid) :
    ∃ v', (s.build fresh' d').result = .ok v' := by
  rcases s.build_error_or_ok fresh' d' with ⟨α, q, hq, -⟩ | ⟨-, r, hr, -⟩
  · -- The field that is missing now was missing before.
    have hlacks := h.lacks hq.lacks
    rcases s.build_error_or_ok fresh d with ⟨β, p, -, he⟩ | ⟨hall, -⟩
    · rw [he] at hv
      cases hv
    · exact absurd hlacks (hall α q)
  · exact ⟨_, hr⟩

theorem Draft.GrowsTo.build_error {name : String} (h : d.GrowsTo d')
    (he : (s.build fresh d).result = .error ⟨s.builder, name, .missing⟩) (fresh' : Nat → Uuid) :
    (∃ v, (s.build fresh' d').result = .ok v) ∨
      ∃ (name' : String) (i j : Nat),
        (s.build fresh' d').result = .error ⟨s.builder, name', .missing⟩ ∧
        s.fields.names[i]? = some name ∧ s.fields.names[j]? = some name' ∧ i ≤ j := by
  rcases s.build_error_or_ok fresh' d' with ⟨β, q, hq, hmissing⟩ | ⟨-, r, hr, -⟩
  · rcases s.build_error_or_ok fresh d with ⟨α, p, hp, hbuild⟩ | ⟨-, r, hr, -⟩
    · rw [hbuild, Except.error.injEq, Refusal.mk.injEq] at he
      obtain ⟨-, rfl, -⟩ := he
      exact .inr ⟨_, p.index, q.index, hmissing, s.fields.getElem?_names p,
        s.fields.getElem?_names q, h.index_le hp hq⟩
    · rw [hr] at he
      cases he
  · exact .inl ⟨_, hr⟩

end Builds

/-! ## Runs that stay with one draft -/

variable {V : Type} {s : Shape V}

/-- The session goes on with the draft that it has. -/
def Operation.Onward : Operation s → Prop
  | .write _ | .set _ _ | .apply _ | .build _ _ | .save _ => True
  | .start | .startFrom _ | .restore _ => False

/-- Whether it succeeds or fails, such an operation empties no slot. -/
theorem Session.growsTo_step (n : Session s) {op : Operation s} (hop : op.Onward) :
    n.draft.GrowsTo (n.step op).draft := by
  cases op with
  | write w => exact n.draft.growsTo_writeAll [w]
  | set name j =>
    show n.draft.GrowsTo (n.draft.set name j).draft
    rw [Draft.set_draft]
    exact n.draft.growsTo_writeAll _
  | apply o =>
    show n.draft.GrowsTo (n.draft.setAll o.toList).draft
    rw [Draft.setAll_draft]
    exact n.draft.growsTo_writeAll _
  | build as fresh =>
    show n.draft.GrowsTo (n.build as fresh).1.draft
    rw [n.draft_build]
    exact .refl _
  | save as => exact .refl _
  | start | startFrom _ | restore _ => exact hop.elim

theorem Session.growsTo_steps (ops : List (Operation s)) (n : Session s)
    (hops : ∀ op ∈ ops, op.Onward) : n.draft.GrowsTo (ops.foldl step n).draft := by
  induction ops generalizing n with
  | nil => exact .refl _
  | cons op ops ih =>
    have hstep := n.growsTo_step (hops op List.mem_cons_self)
    exact hstep.trans (ih (n.step op) fun op' h => hops op' (List.mem_cons_of_mem op h))

/-- In a run that stays with one draft, a slot with a value keeps one, a build that has succeeded
succeeds again, the field that a build misses is never an earlier one, and a draft that is not
empty stays so. -/
theorem readiness_moves_forward (n : Session s) (ops : List (Operation s))
    (hops : ∀ op ∈ ops, op.Onward) :
    (∀ (α : Type) (p : Place s.types α),
      p.get n.draft.slots ≠ none → p.get (ops.foldl Session.step n).draft.slots ≠ none) ∧
    (∀ (fresh fresh' : Nat → Uuid) (v : V), (s.build fresh n.draft).result = .ok v →
      ∃ v', (s.build fresh' (ops.foldl Session.step n).draft).result = .ok v') ∧
    (∀ (fresh fresh' : Nat → Uuid) (name : String),
      (s.build fresh n.draft).result = .error ⟨s.builder, name, .missing⟩ →
        (∃ v, (s.build fresh' (ops.foldl Session.step n).draft).result = .ok v) ∨
        ∃ (name' : String) (i j : Nat), (s.build fresh' (ops.foldl Session.step n).draft).result =
            .error ⟨s.builder, name', .missing⟩ ∧
          s.fields.names[i]? = some name ∧ s.fields.names[j]? = some name' ∧ i ≤ j) ∧
    (n.draft.isEmpty = false → (ops.foldl Session.step n).draft.isEmpty = false) := by
  have hgrows := n.growsTo_steps ops hops
  exact ⟨hgrows, fun _ fresh' _ hv => hgrows.build_ok hv fresh',
    fun _ fresh' _ he => hgrows.build_error he fresh', hgrows.isEmpty⟩

/-- A point with a first coordinate stays ready while a null label is taken and a null coordinate
refused. -/
theorem point_stays_ready :
    let s := Point.shape.toShape
    let n : Session s := Session.start.write ⟨.before (.before .last), (1 : Int64)⟩
    let ops : List (Operation s) := [.set "label" .null, .set "x" .null, .apply .empty]
    (∀ op ∈ ops, op.Onward) ∧
    (∃ v, (s.build (fun _ => ⟨0⟩) (ops.foldl Session.step n).draft).result = .ok v) ∧
    (ops.foldl Session.step n).draft.isEmpty = false := by
  intro s n ops
  have hops : ∀ op ∈ ops, op.Onward := by simp [ops, Operation.Onward]
  obtain ⟨-, hready, -, hfilled⟩ := readiness_moves_forward n ops hops
  exact ⟨hops, hready (fun _ => ⟨0⟩) _ _ rfl, hfilled rfl⟩

end StagedRecords
