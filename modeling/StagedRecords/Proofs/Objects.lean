import StagedRecords.Proofs.NamedWrites

/-!
# Objects applied to a draft

The members that an object sets before its first refusal are those with keys below the least
refused one (`RefusesFirst.exists_split`). Just their slots are overwritten, each with what its
member reads as (`apply_sets_a_prefix`).
-/

namespace StagedRecords

variable {s : Schema} {o : Object}

namespace Schema

theorem accepts_of_takes (h : s.Takes o) : s.Accepts o.toList := fun m hm =>
  Draft.exists_accept_of_set (h m.1 m.2 (Dict.get?_eq_some_iff.2 hm) .empty)

theorem takes_or_refusesFirst (s : Schema) (o : Object) :
    s.Takes o ∨ ∃ key e, s.RefusesFirst o key e := by
  rcases s.accepts_or_refused o.toList with h | ⟨xs, key, j, ys, e, ho, hxs, he⟩
  · exact .inl (s.takes_of_accepts h)
  · exact .inr ⟨key, e, s.refusesFirst_of_refused ho hxs he⟩

/-- The members in front of the least refused key are all accepted. -/
theorem RefusesFirst.exists_split {key : String} {e : Refusal} (h : s.RefusesFirst o key e) :
    ∃ xs j ys, o.toList = xs ++ (key, j) :: ys ∧ s.Accepts xs ∧
      (s.accept key j).result = .error e := by
  obtain ⟨j, hj, he⟩ := h.refused
  obtain ⟨xs, ys, ho⟩ := List.append_of_mem (Dict.get?_eq_some_iff.1 hj)
  refine ⟨xs, j, ys, ho, fun m hm => ?_, Draft.accept_of_set_error (he .empty)⟩
  obtain ⟨hget, hlt⟩ := (Dict.mem_front_iff ho).1 hm
  exact Draft.exists_accept_of_set (h.least m.1 m.2 hget hlt .empty)

end Schema

namespace Draft

/-- `d'` is `d` with the slots of the members of the object under the keys `keys` overwritten, each
with what its member reads as. -/
structure Overwritten (d d' : Draft s) (o : Object) (keys : String → Prop) : Prop where
  get_of_member : ∀ (α : Type) (p : Place s.types α) (j : Json),
    o.get? (s.fields.spec p).name = some j → keys (s.fields.spec p).name →
      ∃ a, s.fields.Reads p j a ∧ p.get d'.slots = some a
  get_of_others : ∀ (α : Type) (p : Place s.types α),
    (o.get? (s.fields.spec p).name = none ∨ ¬keys (s.fields.spec p).name) →
      p.get d'.slots = p.get d.slots

/-- Accepted members overwrite their slots. Different members have different keys, so each slot
has one write. -/
theorem overwritten_writeAll {ms : List (String × Json)} {keys : String → Prop} (d : Draft s)
    (h : s.Accepts ms) (hms : ∀ key j, (key, j) ∈ ms ↔ o.get? key = some j ∧ keys key) :
    d.Overwritten (d.writeAll (s.writes ms)) o keys where
  get_of_member α p j hj hkey := by
    have hm := (hms _ j).2 ⟨hj, hkey⟩
    obtain ⟨w, hw⟩ := h _ hm
    rw [Schema.accept_spec, Traced.result_map_eq_ok_iff] at hw
    obtain ⟨a, ha, -⟩ := hw
    -- No other member has this key, so nothing else is written here.
    have hwrites : ∀ b, (⟨p, b⟩ : Write s.types) ∈ s.writes ms ↔ some a = some b := by
      intro b
      rw [Schema.mem_writes_at h]
      constructor
      · rintro ⟨j', hm', hb⟩
        have hj' := ((hms _ j').1 hm').1
        rw [hj, Option.some.injEq] at hj'
        rw [← hj', ha, Except.ok.injEq] at hb
        rw [hb]
      · intro hab
        exact ⟨j, hm, by rw [ha, Option.some.inj hab]⟩
    refine ⟨a, Fields.reads_of_accept ha, ?_⟩
    rw [get_writeAll, Place.lastOf_eq_of_mem_iff hwrites]
    rfl
  get_of_others α p hother := by
    have hnone : p.lastOf (s.writes ms) = none := by
      rw [Place.lastOf_eq_none_iff]
      intro a hmem
      obtain ⟨j, hm, -⟩ := (Schema.mem_writes_at h).1 hmem
      obtain ⟨hj, hkey⟩ := (hms _ j).1 hm
      rcases hother with hnone | hkeys
      · rw [hnone] at hj
        cases hj
      · exact hkeys hkey
    rw [get_writeAll, hnone, Option.none_or]

variable (d : Draft s)

theorem apply_of_takes (h : s.Takes o) :
    (d.apply o).outcome.result = .ok () ∧ d.Overwritten (d.apply o).draft o fun _ => True := by
  have haccepts := Schema.accepts_of_takes h
  refine ⟨d.setAll_of_accepts _ haccepts, ?_⟩
  rw [apply, setAll_draft]
  refine d.overwritten_writeAll haccepts fun key j => ?_
  rw [Dict.get?_eq_some_iff, and_true]

theorem apply_of_refusesFirst {key : String} {e : Refusal} (h : s.RefusesFirst o key e) :
    (d.apply o).outcome.result = .error e ∧
      d.Overwritten (d.apply o).draft o fun key' => compare key' key = .lt := by
  obtain ⟨xs, j, ys, ho, hxs, he⟩ := h.exists_split
  rw [apply, setAll_draft, ho, Schema.writes_append_of_refused hxs he]
  exact ⟨d.setAll_of_refused hxs he,
    d.overwritten_writeAll hxs fun _ _ => Dict.mem_front_iff ho⟩

end Draft

/-- How a write by name ends depends on nothing but the name and the value, and one that fails
changes no slot. Applying an object overwrites the slots of all its members if a write by name takes
each. Otherwise it ends with the refusal of the least key refused, and has overwritten the slots of
just the members with smaller keys. -/
theorem apply_sets_a_prefix (s : Schema) :
    (∀ (d d' : Draft s) (name : String) (j : Json),
      (d.set name j).outcome = (d'.set name j).outcome) ∧
    (∀ (d : Draft s) (name : String) (j : Json) (e : Refusal),
      (d.set name j).outcome.result = .error e → (d.set name j).draft = d) ∧
    ∀ o : Object,
      (s.Takes o ∨ ∃ key e, s.RefusesFirst o key e) ∧
      ∀ d : Draft s,
        (s.Takes o → (d.apply o).outcome.result = .ok () ∧
          d.Overwritten (d.apply o).draft o fun _ => True) ∧
        ∀ (key : String) (e : Refusal), s.RefusesFirst o key e →
          (d.apply o).outcome.result = .error e ∧
          d.Overwritten (d.apply o).draft o fun key' => compare key' key = .lt := by
  refine ⟨fun d d' name j => ?_, fun d name j e h => ?_, fun o => ⟨s.takes_or_refusesFirst o,
    fun d => ⟨d.apply_of_takes, fun key e => d.apply_of_refusesFirst⟩⟩⟩
  · rw [d.set_outcome, d'.set_outcome]
  · exact (d.set_of_refused (Draft.accept_of_set_error h)).1

end StagedRecords
