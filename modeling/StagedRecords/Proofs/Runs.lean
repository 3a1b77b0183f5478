import StagedRecords.Traced

/-!
# Results and events of traced runs

A run that goes on in steps ends in a value just when all of its steps do. It leaves the events of
its steps up to and including the first that fails.
-/

namespace StagedRecords.Traced

variable {ε ε' : Type} {α : Type u} {β : Type v}

theorem map_id (t : Traced ε α) : t.map id = t := by
  obtain ⟨events, e | a⟩ := t <;> rfl

theorem result_bind_eq_ok_iff {t : Traced ε α} {f : α → Traced ε β} {b : β} :
    (t.bind f).result = .ok b ↔ ∃ a, t.result = .ok a ∧ (f a).result = .ok b := by
  rcases h : t.result with e | a <;> simp [Traced.bind, h]

theorem result_bind_of_ok {t : Traced ε α} {f : α → Traced ε β} {a : α} (h : t.result = .ok a) :
    (t.bind f).result = (f a).result := by
  simp only [Traced.bind, h]

theorem result_bind_of_error {t : Traced ε α} {f : α → Traced ε β} {e : ε}
    (h : t.result = .error e) : (t.bind f).result = .error e := by
  simp only [Traced.bind, h]

theorem result_mapError (f : ε → ε') (t : Traced ε α) :
    (t.mapError f).result = t.result.mapError f :=
  rfl

theorem result_mapError_eq_ok_iff {f : ε → ε'} {t : Traced ε α} {a : α} :
    (t.mapError f).result = .ok a ↔ t.result = .ok a := by
  rw [result_mapError]
  rcases t.result with e | b
  · constructor <;> intro h <;> cases h
  · constructor <;> intro h <;> cases h <;> rfl

theorem isOk_mapError (f : ε → ε') (t : Traced ε α) :
    (t.mapError f).result.isOk = t.result.isOk := by
  rw [result_mapError]
  rcases t.result with e | b <;> rfl

theorem result_map_eq_ok_iff {f : α → β} {t : Traced ε α} {b : β} :
    (t.map f).result = .ok b ↔ ∃ a, t.result = .ok a ∧ f a = b := by
  rcases h : t.result with e | a <;> simp [h, Except.map]

theorem result_each {ι : Type w} {f : β → Traced ε α} {g : ι → β} {h : ι → α} {l : List ι}
    (hf : ∀ i ∈ l, (f (g i)).result = .ok (h i)) :
    (each f (l.map g)).result = .ok (l.map h) := by
  induction l with
  | nil => rfl
  | cons i is ih =>
    have hi := hf i List.mem_cons_self
    have his := ih fun i hm => hf i (List.mem_cons_of_mem _ hm)
    rw [List.map_cons, each, result_bind_of_ok hi, result_map, his]
    rfl

theorem events_bind_of_ok {t : Traced ε α} {f : α → Traced ε β} {a : α} (h : t.result = .ok a) :
    (t.bind f).events = t.events ++ (f a).events := by
  simp only [Traced.bind, h]

theorem events_bind_of_error {t : Traced ε α} {f : α → Traced ε β} {e : ε}
    (h : t.result = .error e) : (t.bind f).events = t.events := by
  simp only [Traced.bind, h]

theorem events_each_of_forall {f : β → Traced ε α} (hf : ∀ b, (f b).events = []) (l : List β) :
    (each f l).events = [] := by
  induction l with
  | nil => rfl
  | cons b bs ih =>
    rw [each]
    rcases hb : (f b).result with e | a
    · rw [events_bind_of_error hb, hf]
    · rw [events_bind_of_ok hb, hf, events_map, ih]
      rfl

/-- Where each element leaves one event if it succeeds and none if it fails, there is one event for
each element before the first that fails. -/
theorem events_each_of_one {f : β → Traced ε α} {b₀ : Built}
    (hf : ∀ b, (f b).events = if (f b).result.isOk then [b₀] else []) (l : List β) :
    (each f l).events = List.replicate (l.takeWhile fun b => (f b).result.isOk).length b₀ := by
  induction l with
  | nil => rfl
  | cons b bs ih =>
    have hone := hf b
    rw [each]
    rcases hb : (f b).result with e | a
    · have hstop : (f b).result.isOk = false := by rw [hb]; rfl
      rw [hstop] at hone
      rw [events_bind_of_error hb, hone, List.takeWhile_cons, hstop]
      rfl
    · have hgoes : (f b).result.isOk = true := by rw [hb]; rfl
      rw [hgoes] at hone
      rw [events_bind_of_ok hb, hone, events_map, ih, List.takeWhile_cons, hgoes]
      rfl

end StagedRecords.Traced
