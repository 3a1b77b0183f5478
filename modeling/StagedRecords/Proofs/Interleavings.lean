import StagedRecords.Proofs.Edits
import StagedRecords.Proofs.Overrides

/-!
# Edits in any order

How an edit ends does not depend on the draft that it meets, and two edits of different fields can
change places (`Edit.run_comm`). So wherever two sequences of edits share no field, every
interleaving of them ends each edit as its own sequence does and leaves one and the same draft
(`interleaved_edits_agree`).
-/

namespace StagedRecords

/-- The third list has the elements of the other two, those of each in their order. -/
inductive Interleaving {α : Type u} : List α → List α → List α → Prop
  | nil : Interleaving [] [] []
  | left {x : α} {xs ys zs : List α} (h : Interleaving xs ys zs) :
      Interleaving (x :: xs) ys (x :: zs)
  | right {y : α} {xs ys zs : List α} (h : Interleaving xs ys zs) :
      Interleaving xs (y :: ys) (y :: zs)

theorem Interleaving.map {α : Type u} {β : Type v} (f : α → β) {xs ys zs : List α}
    (h : Interleaving xs ys zs) : Interleaving (xs.map f) (ys.map f) (zs.map f) := by
  induction h with
  | nil => exact .nil
  | left _ ih => exact ih.left
  | right _ ih => exact ih.right

variable {s : Schema}

theorem Draft.write_comm (d : Draft s) {w w' : Write s.types}
    (h : (s.fields.spec w.place).name ≠ (s.fields.spec w'.place).name) :
    (d.write w).write w' = (d.write w').write w := by
  refine Draft.ext fun α p => ?_
  simp only [write, Place.get_put]
  rcases hw : p.given w.place w.value with _ | a
  · simp
  · obtain rfl := Place.given_eq_some_iff.1 hw
    rw [Fields.given_eq_none h]
    simp

namespace Edit

/-- The name of the field that the edit is for. -/
def name : Edit s → String
  | .typed w => (s.fields.spec w.place).name
  | .named name _ => name

theorem outcome_run (e : Edit s) (d d' : Draft s) : (e.run d).outcome = (e.run d').outcome := by
  cases e with
  | typed w => rfl
  | named name j =>
    show (d.set name j).outcome = (d'.set name j).outcome
    rw [d.set_outcome, d'.set_outcome]

/-- An edit writes to the field of its name, the same for every draft, or changes no draft. -/
theorem write_or_unchanged (e : Edit s) :
    (∃ w : Write s.types, (s.fields.spec w.place).name = e.name ∧
      ∀ d, (e.run d).draft = d.write w) ∨ ∀ d, (e.run d).draft = d := by
  cases e with
  | typed w => exact .inl ⟨w, rfl, fun _ => rfl⟩
  | named name j =>
    rcases ha : (s.accept name j).result with r | w
    · exact .inr fun d => (d.set_of_refused ha).1
    · exact .inl ⟨w, (Schema.accept_eq_ok ha).1, fun d => (d.set_of_accepted ha).1⟩

/-- Edits of different fields can change places. -/
theorem run_comm {e e' : Edit s} (h : e.name ≠ e'.name) (d : Draft s) :
    (e'.run (e.run d).draft).draft = (e.run (e'.run d).draft).draft := by
  rcases e.write_or_unchanged with ⟨w, hname, hw⟩ | hsame
  · rcases e'.write_or_unchanged with ⟨w', hname', hw'⟩ | hsame'
    · rw [hw, hw, hw', hw']
      exact d.write_comm (by rw [hname, hname']; exact h)
    · rw [hsame', hsame']
  · rw [hsame, hsame]

end Edit

namespace Draft

/-- The draft after these edits, whether or not each of them succeeds. -/
def editAll (d : Draft s) (es : List (Edit s)) : Draft s :=
  es.foldl (fun d e => (e.run d).draft) d

/-- The edits one after the other, each with how it ends. -/
def editLog (d : Draft s) : List (Edit s) → List (Edit s × Accepted Unit)
  | [] => []
  | e :: es => (e, (e.run d).outcome) :: (e.run d).draft.editLog es

theorem editLog_eq_map (d d' : Draft s) (es : List (Edit s)) :
    d.editLog es = es.map fun e => (e, (e.run d').outcome) := by
  induction es generalizing d with
  | nil => rfl
  | cons e es ih => rw [editLog, ih, List.map_cons, e.outcome_run d d']

theorem editAll_run {e : Edit s} {es : List (Edit s)} (h : ∀ e' ∈ es, e'.name ≠ e.name)
    (d : Draft s) : (e.run d).draft.editAll es = (e.run (d.editAll es)).draft := by
  induction es generalizing d with
  | nil => rfl
  | cons e' es ih =>
    have hne := h e' List.mem_cons_self
    have hcomm := Edit.run_comm hne d
    have hrest := ih (fun e'' h' => h e'' (List.mem_cons_of_mem e' h')) (e'.run d).draft
    show (e'.run (e.run d).draft).draft.editAll es = (e.run ((e'.run d).draft.editAll es)).draft
    rw [← hcomm, hrest]

/-- An interleaving of edits that share no field leaves what the one sequence and then the other
leaves. -/
theorem editAll_of_interleaving {xs ys zs : List (Edit s)} (h : Interleaving xs ys zs)
    (hne : ∀ x ∈ xs, ∀ y ∈ ys, x.name ≠ y.name) (d : Draft s) :
    d.editAll zs = (d.editAll xs).editAll ys := by
  induction h generalizing d with
  | nil => rfl
  | @left x xs ys zs _ ih =>
    exact ih (fun x' hx => hne x' (List.mem_cons_of_mem x hx)) (x.run d).draft
  | @right y xs ys zs _ ih =>
    have hxs : ∀ x ∈ xs, x.name ≠ y.name := fun x hx => hne x hx y List.mem_cons_self
    have hrest := ih (fun x hx y' hy => hne x hx y' (List.mem_cons_of_mem y hy)) (y.run d).draft
    -- The edit `y` moves behind all of `xs`.
    rw [editAll_run hxs] at hrest
    exact hrest

end Draft

/-- Of two sequences of edits that share no field name, every interleaving ends each edit as the
edit's own sequence does, and all of them leave the same draft, so what they build is the same.
Applying two objects whose members are all accepted is applying the second put over the first. -/
theorem interleaved_edits_agree :
    (∀ (V : Type) (s : Shape V) (d : Draft s.toSchema) (xs ys zs : List (Edit s.toSchema)),
      (∀ x ∈ xs, ∀ y ∈ ys, x.name ≠ y.name) → Interleaving xs ys zs →
        Interleaving (d.editLog xs) (d.editLog ys) (d.editLog zs) ∧
        ∀ zs', Interleaving xs ys zs' → d.editAll zs = d.editAll zs' ∧
          (d.editAll zs).isEmpty = (d.editAll zs').isEmpty ∧
          ∀ fresh, s.build fresh (d.editAll zs) = s.build fresh (d.editAll zs')) ∧
    (∀ (s : Schema) (o₁ o₂ : Object), s.Takes o₁ → s.Takes o₂ → ∀ d : Draft s,
      (d.apply o₁).outcome.result = .ok () ∧
      ((d.apply o₁).draft.apply o₂).outcome.result = .ok () ∧
      (d.apply (o₁.override o₂)).outcome.result = .ok () ∧
      ((d.apply o₁).draft.apply o₂).draft = (d.apply (o₁.override o₂)).draft) := by
  refine ⟨fun V s d xs ys zs hne h => ⟨?_, fun zs' h' => ?_⟩, fun s o₁ o₂ h₁ h₂ d => ?_⟩
  · rw [d.editLog_eq_map d xs, d.editLog_eq_map d ys, d.editLog_eq_map d zs]
    exact h.map _
  · have hsame : d.editAll zs = d.editAll zs' := by
      rw [Draft.editAll_of_interleaving h hne, Draft.editAll_of_interleaving h' hne]
    rw [hsame]
    exact ⟨rfl, rfl, fun _ => rfl⟩
  · exact ⟨(d.apply_of_takes h₁).1, ((d.apply o₁).draft.apply_of_takes h₂).1,
      (d.apply_of_takes (h₁.override h₂)).1, d.apply_override h₁ h₂⟩

end StagedRecords
