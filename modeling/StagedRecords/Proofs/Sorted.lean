import StagedRecords.Ordered

/-!
# Sorted collections

A sorted collection is determined by its entries, in whatever order they are listed
(`ofList_eq_of_perm`), and a list of entries with different keys makes a collection of just these
entries (`toList_ofList_perm`).
-/

namespace StagedRecords

open Std (TransOrd TransCmp OrientedCmp LawfulEqOrd)

namespace Sorted

variable {β κ : Type} [Ord κ] {key : β → κ}

/-- No two entries have the same key. -/
def Distinct (key : β → κ) (l : List β) : Prop :=
  l.Pairwise fun a b => compare (key a) (key b) ≠ .eq

theorem distinct_toList (s : Sorted key) : Distinct key s.toList :=
  s.increasing.imp fun h he => by rw [h] at he; cases he

theorem place_perm {b : β} {l : List β} (h : ∀ c ∈ l, compare (key b) (key c) ≠ .eq) :
    (place key b l).Perm (b :: l) := by
  induction l with
  | nil => exact .refl _
  | cons c cs ih =>
    unfold place
    split
    · exact .refl _
    · next he => exact absurd he (h c List.mem_cons_self)
    · have hcs := ih fun d hd => h d (List.mem_cons_of_mem c hd)
      exact (hcs.cons c).trans (.swap b c cs)

section Order

variable [TransOrd κ]

theorem mem_of_mem_foldl_insert {b : β} {l : List β} {s : Sorted key}
    (h : b ∈ (l.foldl insert s).toList) : b ∈ l ∨ b ∈ s.toList := by
  induction l generalizing s with
  | nil => exact .inr h
  | cons c cs ih =>
    rcases ih h with hcs | hs
    · exact .inl (List.mem_cons_of_mem c hcs)
    · rcases mem_place hs with rfl | hs
      · exact .inl List.mem_cons_self
      · exact .inr hs

theorem mem_of_mem_ofList {b : β} {l : List β} (h : b ∈ (ofList l : Sorted key).toList) :
    b ∈ l :=
  (mem_of_mem_foldl_insert h).resolve_right List.not_mem_nil

/-- What was there is still there, or the new entry has its key. -/
theorem exists_mem_place {b c : β} {l : List β} (h : c ∈ b :: l) :
    ∃ d ∈ place key b l, compare (key c) (key d) = .eq := by
  have hself : ∀ {l' : List β}, c ∈ l' → ∃ d ∈ l', compare (key c) (key d) = .eq :=
    fun hc => ⟨c, hc, Std.ReflCmp.compare_self⟩
  induction l with
  | nil => exact hself h
  | cons e es ih =>
    unfold place
    split
    · exact hself h
    · next heq =>
      rcases List.mem_cons.1 h with rfl | h
      · exact hself List.mem_cons_self
      · rcases List.mem_cons.1 h with rfl | h
        · exact ⟨b, List.mem_cons_self, OrientedCmp.eq_symm heq⟩
        · exact hself (List.mem_cons_of_mem b h)
    · by_cases hce : c = e
      · exact hself (by simp [hce])
      · obtain ⟨d, hd, hcd⟩ := ih (by simpa [hce] using h)
        exact ⟨d, List.mem_cons_of_mem e hd, hcd⟩

/-- Every entry that was listed is there, or another with its key. -/
theorem exists_mem_foldl_insert {b : β} {l : List β} {s : Sorted key} (h : b ∈ s.toList ++ l) :
    ∃ d ∈ (l.foldl insert s).toList, compare (key b) (key d) = .eq := by
  induction l generalizing b s with
  | nil => exact ⟨b, by simpa using h, Std.ReflCmp.compare_self⟩
  | cons c cs ih =>
    have hor : b ∈ c :: s.toList ∨ b ∈ cs := by
      simp only [List.mem_append, List.mem_cons] at h ⊢
      grind
    rcases hor with hplaced | hcs
    · obtain ⟨d, hd, hbd⟩ : ∃ d ∈ place key c s.toList, compare (key b) (key d) = .eq :=
        exists_mem_place hplaced
      obtain ⟨d', hd', hdd'⟩ := ih (s := s.insert c) (List.mem_append_left cs hd)
      exact ⟨d', hd', TransCmp.eq_trans hbd hdd'⟩
    · exact ih (List.mem_append_right _ hcs)

theorem exists_mem_ofList {b : β} {l : List β} (h : b ∈ l) :
    ∃ d ∈ (ofList l : Sorted key).toList, compare (key b) (key d) = .eq :=
  exists_mem_foldl_insert (s := empty) h

theorem ne_eq_symm {a b : κ} (h : compare a b ≠ .eq) : compare b a ≠ .eq :=
  fun he => h (OrientedCmp.eq_symm he)

theorem Distinct.perm {l l' : List β} (h : Distinct key l) (hp : l.Perm l') : Distinct key l' :=
  hp.pairwise h ne_eq_symm

/-- Two collections with the same entries are the same. -/
theorem eq_of_perm {s t : Sorted key} (h : s.toList.Perm t.toList) : s = t := by
  refine ext (List.Perm.eq_of_pairwise ?_ s.increasing t.increasing h)
  intro a b _ _ hab hba
  rw [OrientedCmp.gt_of_lt hab] at hba
  cases hba

theorem foldl_insert_perm {l : List β} {s : Sorted key} (h : Distinct key (s.toList ++ l)) :
    (l.foldl insert s).toList.Perm (s.toList ++ l) := by
  induction l generalizing s with
  | nil => simp
  | cons b bs ih =>
    have hnew : ∀ c ∈ s.toList, compare (key b) (key c) ≠ .eq := fun c hc =>
      ne_eq_symm ((List.pairwise_append.1 h).2.2 c hc b List.mem_cons_self)
    have hp : (s.insert b).toList.Perm (b :: s.toList) := place_perm hnew
    have hmove : ((s.insert b).toList ++ bs).Perm (s.toList ++ b :: bs) :=
      (hp.append_right bs).trans List.perm_middle.symm
    exact (ih (h.perm hmove.symm)).trans hmove

/-- A list of entries with different keys makes a collection of just these. -/
theorem toList_ofList_perm {l : List β} (h : Distinct key l) :
    (ofList l : Sorted key).toList.Perm l :=
  foldl_insert_perm (s := empty) h

/-- The entries of a collection make it again in any order. -/
theorem ofList_eq_of_perm {s : Sorted key} {l : List β} (h : l.Perm s.toList) : ofList l = s :=
  eq_of_perm ((toList_ofList_perm (s.distinct_toList.perm h.symm)).trans h)

@[simp] theorem ofList_toList (s : Sorted key) : ofList s.toList = s :=
  ofList_eq_of_perm (.refl _)

end Order

section Map

variable {γ κ' : Type} [Ord κ'] {key' : γ → κ'} {f : β → γ}
  (hf : ∀ b c, compare (key' (f b)) (key' (f c)) = compare (key b) (key c))

include hf in
theorem place_map (b : β) (l : List β) :
    place key' (f b) (l.map f) = (place key b l).map f := by
  induction l with
  | nil => rfl
  | cons c cs ih =>
    simp only [place, List.map_cons, hf]
    split
    · rfl
    · rfl
    · rw [ih, List.map_cons]

include hf in
theorem toList_foldl_insert_map [TransOrd κ] [TransOrd κ'] (l : List β) {s : Sorted key}
    {t : Sorted key'} (h : t.toList = s.toList.map f) :
    ((l.map f).foldl insert t).toList = (l.foldl insert s).toList.map f := by
  induction l generalizing s t with
  | nil => exact h
  | cons b bs ih =>
    refine ih ?_
    show place key' (f b) t.toList = (place key b s.toList).map f
    rw [h, place_map hf]

include hf in
/-- Sorting looks at nothing but the order of the keys. -/
theorem toList_ofList_map [TransOrd κ] [TransOrd κ'] (l : List β) :
    (ofList (l.map f) : Sorted key').toList = (ofList l : Sorted key).toList.map f :=
  toList_foldl_insert_map hf l rfl

end Map

end Sorted

namespace Dict

variable {α : Type}

theorem distinct_of_nodup {l : List (String × α)} (h : (l.map Prod.fst).Nodup) :
    Sorted.Distinct Prod.fst l :=
  (List.pairwise_map.1 h).imp fun hne he => hne (LawfulEqOrd.eq_of_compare he)

theorem lookup_eq_some_iff {k : String} {a : α} :
    ∀ {l : List (String × α)}, Sorted.Distinct Prod.fst l → (l.lookup k = some a ↔ (k, a) ∈ l)
  | [], _ => by simp
  | (k', b) :: l, h => by
    have ih := lookup_eq_some_iff (k := k) (a := a) (List.pairwise_cons.1 h).2
    have hne := (List.pairwise_cons.1 h).1
    by_cases hk : k = k'
    · subst hk
      have hnot : (k, a) ∉ l := fun hm => hne _ hm Std.ReflCmp.compare_self
      simp [hnot, eq_comm]
    · have hb : (k == k') = false := beq_false_of_ne hk
      simp [List.lookup_cons, hb, ih, hk]

/-- What stands under a key is the entry with that key. -/
theorem get?_eq_some_iff {d : Dict α} {k : String} {a : α} :
    d.get? k = some a ↔ (k, a) ∈ d.toList :=
  lookup_eq_some_iff d.distinct_toList

/-- The entries in front of one are those with smaller keys. -/
theorem mem_front_iff {d : Dict α} {xs ys : List (String × α)} {k k' : String} {a b : α}
    (hd : d.toList = xs ++ (k, a) :: ys) :
    (k', b) ∈ xs ↔ d.get? k' = some b ∧ compare k' k = .lt := by
  have hinc := d.increasing
  rw [hd] at hinc
  obtain ⟨-, hys, hxs⟩ := List.pairwise_append.1 hinc
  rw [get?_eq_some_iff, hd, List.mem_append, List.mem_cons]
  constructor
  · exact fun hm => ⟨.inl hm, hxs _ hm _ List.mem_cons_self⟩
  · rintro ⟨hm | heq | hm, hlt⟩
    · exact hm
    · cases heq
      cases hlt.symm.trans Std.ReflCmp.compare_self
    · have hafter := (List.pairwise_cons.1 hys).1 _ hm
      cases (OrientedCmp.gt_of_lt hlt).symm.trans hafter

theorem lookup_cons_eq_ite (k k' : String) (a : α) (l : List (String × α)) :
    ((k, a) :: l).lookup k' = if k' = k then some a else l.lookup k' := by
  by_cases h : k' = k
  · simp [h]
  · have hb : (k' == k) = false := beq_false_of_ne h
    simp [List.lookup_cons, hb, h]

theorem lookup_place (k k' : String) (a : α) (l : List (String × α)) :
    (Sorted.place Prod.fst (k, a) l).lookup k' = if k' = k then some a else l.lookup k' := by
  induction l with
  | nil => exact lookup_cons_eq_ite k k' a []
  | cons e es ih =>
    obtain ⟨m, b⟩ := e
    unfold Sorted.place
    split
    · exact lookup_cons_eq_ite k k' a _
    · next heq =>
      obtain rfl : k = m := LawfulEqOrd.eq_of_compare heq
      by_cases h : k' = k <;> simp [lookup_cons_eq_ite, h]
    · next hgt =>
      have hne : m ≠ k := by
        rintro rfl
        cases hgt.symm.trans Std.ReflCmp.compare_self
      rw [lookup_cons_eq_ite, lookup_cons_eq_ite, ih]
      by_cases h : k' = m
      · rw [if_pos h, if_pos h, if_neg (h ▸ hne)]
      · rw [if_neg h, if_neg h]

/-- Inserting under a key changes what stands there and nothing else. -/
theorem get?_insert (d : Dict α) (k k' : String) (a : α) :
    get? (d.insert (k, a)) k' = if k' = k then some a else d.get? k' :=
  lookup_place k k' a d.toList

end Dict

end StagedRecords
