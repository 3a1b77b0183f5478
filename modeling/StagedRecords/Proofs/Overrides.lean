import StagedRecords.Proofs.Objects

/-!
# Objects put over objects

Where one object is put over another, a key has the member of the upper one if there is one, and
otherwise that of the lower one (`Dict.get?_override`). Of two objects that a draft takes, applying
the first and then the second leaves what applying the second put over the first leaves
(`Draft.apply_override`).
-/

namespace StagedRecords

namespace Dict

variable {α : Type}

/-- The entries of `d` with those of `e` put over them. -/
def override (d e : Dict α) : Dict α := e.toList.foldl Sorted.insert d

theorem get?_foldl_insert {l : List (String × α)} (hl : Sorted.Distinct Prod.fst l) (d : Dict α)
    (k : String) : get? (l.foldl Sorted.insert d) k = (l.lookup k).or (d.get? k) := by
  induction l generalizing d with
  | nil => rfl
  | cons e es ih =>
    obtain ⟨k', a⟩ := e
    have hne := (List.pairwise_cons.1 hl).1
    have hes := (List.pairwise_cons.1 hl).2
    rw [List.foldl_cons, ih hes, get?_insert, lookup_cons_eq_ite]
    by_cases hk : k = k'
    · -- No later entry has this key, so the one inserted here stays.
      have hnone : es.lookup k = none := by
        rcases hes' : es.lookup k with _ | b
        · rfl
        · have hmem := (lookup_eq_some_iff hes).1 hes'
          subst hk
          exact absurd Std.ReflCmp.compare_self (hne (k, b) hmem)
      rw [hnone, if_pos hk, if_pos hk]
      rfl
    · rw [if_neg hk, if_neg hk]

theorem get?_override (d e : Dict α) (k : String) :
    (d.override e).get? k = (e.get? k).or (d.get? k) :=
  get?_foldl_insert e.distinct_toList d k

end Dict

variable {s : Schema} {o₁ o₂ : Object}

theorem Schema.Takes.override (h₁ : s.Takes o₁) (h₂ : s.Takes o₂) : s.Takes (o₁.override o₂) := by
  intro key j hj d
  rw [Dict.get?_override] at hj
  rcases hkey : o₂.get? key with _ | i
  · rw [hkey, Option.none_or] at hj
    exact h₁ key j hj d
  · rw [hkey, Option.some_or, Option.some.injEq] at hj
    exact hj ▸ h₂ key i hkey d

namespace Draft

/-- Where two drafts were overwritten from one member, they hold the same. -/
theorem Overwritten.get_eq {d d' e e' : Draft s} {o o' : Object} {α : Type} {p : Place s.types α}
    {j : Json} (h : d.Overwritten d' o fun _ => True) (h' : e.Overwritten e' o' fun _ => True)
    (hj : o.get? (s.fields.spec p).name = some j) (hj' : o'.get? (s.fields.spec p).name = some j) :
    p.get d'.slots = p.get e'.slots := by
  obtain ⟨a, ha, hget⟩ := h.get_of_member α p j hj trivial
  obtain ⟨b, hb, hget'⟩ := h'.get_of_member α p j hj' trivial
  rw [hget, hget', ha.unique hb]

/-- Two accepted objects one after the other leave what the second put over the first leaves. -/
theorem apply_override (h₁ : s.Takes o₁) (h₂ : s.Takes o₂) (d : Draft s) :
    ((d.apply o₁).draft.apply o₂).draft = (d.apply (o₁.override o₂)).draft := by
  have hfirst := (d.apply_of_takes h₁).2
  have hsecond := ((d.apply o₁).draft.apply_of_takes h₂).2
  have hboth := (d.apply_of_takes (h₁.override h₂)).2
  refine Draft.ext fun α p => ?_
  have hget := Dict.get?_override o₁ o₂ (s.fields.spec p).name
  rcases hj : o₂.get? (s.fields.spec p).name with _ | j
  · rw [hsecond.get_of_others α p (.inl hj)]
    rw [hj, Option.none_or] at hget
    rcases hi : o₁.get? (s.fields.spec p).name with _ | i
    · rw [hfirst.get_of_others α p (.inl hi), hboth.get_of_others α p (.inl (hget.trans hi))]
    · exact hfirst.get_eq hboth hi (hget.trans hi)
  · rw [hj, Option.some_or] at hget
    exact hsecond.get_eq hboth hj hget

end Draft

end StagedRecords
