import StagedRecords.Json.NullScan

/-!
# The reach of the search for nulls

A value with another one somewhere inside it is a path of steps put around the inner value. The
search finds just the nulls at the end of a path whose steps go into arrays, the first one apart,
which may go into an object (`hasNullElement_iff`). What the objects further down hold does not
matter to it (`hasNullElement_around_object`).
-/

namespace StagedRecords.Json

/-- One step down into a value, with what stands around the place that it leads to. -/
inductive Step
  | element (before after : List Json)
  | value (before : List (String × Json)) (key : String) (after : List (String × Json))

namespace Step

/-- The value that the step goes into, with `j` at the place that it leads to. -/
def around : Step → Json → Json
  | .element before after, j => .array (before ++ j :: after)
  | .value before key after, j => .object (before ++ (key, j) :: after)

/-- The step goes from an array to one of its elements. -/
def IntoArray : Step → Prop
  | .element _ _ => True
  | .value _ _ _ => False

/-- The values beside the one that the step leads to. -/
def siblings : Step → List Json
  | .element before after => before ++ after
  | .value before _ after => (before ++ after).map Prod.snd

theorem hasNullElement_around (s : Step) (j : Json) :
    (s.around j).hasNullElement = (j.isOrHoldsNull || anyIsOrHoldsNull s.siblings) := by
  cases s <;>
    simp [around, siblings, hasNullElement, anyIsOrHoldsNull_eq_any, Bool.or_left_comm]

theorem isOrHoldsNull_around : ∀ {s : Step} {j : Json}, s.IntoArray →
    (s.around j).isOrHoldsNull = (j.isOrHoldsNull || anyIsOrHoldsNull s.siblings)
  | .element before after, j, _ => hasNullElement_around (.element before after) j

end Step

/-- The value that the path starts from, with `j` at its end. -/
def around (path : List Step) (j : Json) : Json := path.foldr Step.around j

theorem around_cons (s : Step) (path : List Step) (j : Json) :
    around (s :: path) j = s.around (around path j) :=
  rfl

/-! ## Nulls that are found -/

theorem isOrHoldsNull_around {path : List Step} (h : ∀ s ∈ path, s.IntoArray) :
    (around path .null).isOrHoldsNull = true := by
  induction path with
  | nil => rfl
  | cons s path ih =>
    obtain ⟨hs, hpath⟩ := List.forall_mem_cons.1 h
    rw [around_cons, Step.isOrHoldsNull_around hs, ih hpath, Bool.true_or]

mutual

theorem exists_path_of_isOrHoldsNull : ∀ {j : Json}, j.isOrHoldsNull = true →
    ∃ path, (∀ s ∈ path, Step.IntoArray s) ∧ j = around path .null
  | .null, _ => ⟨[], List.forall_mem_nil _, rfl⟩
  | .array js, h => by
    obtain ⟨before, after, path, hpath, rfl⟩ := exists_path_of_anyIsOrHoldsNull h
    exact ⟨.element before after :: path, List.forall_mem_cons.2 ⟨trivial, hpath⟩, rfl⟩

theorem exists_path_of_anyIsOrHoldsNull : ∀ {js : List Json}, anyIsOrHoldsNull js = true →
    ∃ before after path, (∀ s ∈ path, Step.IntoArray s) ∧
      js = before ++ around path .null :: after
  | j :: js, h => by
    rcases Bool.or_eq_true_iff.1 h with hj | hjs
    · obtain ⟨path, hpath, rfl⟩ := exists_path_of_isOrHoldsNull hj
      exact ⟨[], js, path, hpath, rfl⟩
    · obtain ⟨before, after, path, hpath, rfl⟩ := exists_path_of_anyIsOrHoldsNull hjs
      exact ⟨j :: before, after, path, hpath, rfl⟩

end

theorem exists_path_of_hasNullElement : ∀ {j : Json}, j.hasNullElement = true →
    ∃ first path, (∀ s ∈ path, Step.IntoArray s) ∧ j = around (first :: path) .null
  | .array js, h => by
    obtain ⟨before, after, path, hpath, rfl⟩ := exists_path_of_anyIsOrHoldsNull h
    exact ⟨.element before after, path, hpath, rfl⟩
  | .object ms, h => by
    obtain ⟨before, after, path, hpath, hms⟩ := exists_path_of_anyIsOrHoldsNull h
    obtain ⟨ms₁, ms₂, rfl, rfl, hrest⟩ := List.map_eq_append_iff.1 hms
    obtain ⟨⟨key, j⟩, ms₃, rfl, rfl, rfl⟩ := List.map_eq_cons_iff.1 hrest
    exact ⟨.value ms₁ key ms₃, path, hpath, rfl⟩

/-- A null is found at the end of a path whose steps after the first go into arrays, and nowhere
else. -/
theorem hasNullElement_iff {j : Json} : j.hasNullElement = true ↔
    ∃ first path, (∀ s ∈ path, Step.IntoArray s) ∧ j = around (first :: path) .null := by
  refine ⟨exists_path_of_hasNullElement, ?_⟩
  rintro ⟨first, path, hpath, rfl⟩
  rw [around_cons, Step.hasNullElement_around, isOrHoldsNull_around hpath, Bool.true_or]

/-! ## Objects that are passed over -/

theorem isOrHoldsNull_around_object (path : List Step) (ms ms' : List (String × Json)) :
    (around path (.object ms)).isOrHoldsNull = (around path (.object ms')).isOrHoldsNull := by
  induction path with
  | nil => rfl
  | cons s path ih =>
    cases s with
    | element before after =>
      have harray : (Step.element before after).IntoArray := trivial
      rw [around_cons, around_cons, Step.isOrHoldsNull_around harray,
        Step.isOrHoldsNull_around harray, ih]
    | value before key after => rfl

theorem hasNullElement_around_object (first : Step) (path : List Step)
    (ms ms' : List (String × Json)) :
    (around (first :: path) (.object ms)).hasNullElement =
      (around (first :: path) (.object ms')).hasNullElement := by
  rw [around_cons, around_cons, Step.hasNullElement_around, Step.hasNullElement_around,
    isOrHoldsNull_around_object path ms ms']

/-- The search finds a null just if one stands at the end of a path of one or more steps, the first
into an array or an object and all later ones into arrays. It finds none in null or a scalar, and
an object anywhere below the root may be replaced by any other object without changing what it
finds. -/
theorem null_search_goes_through_arrays :
    (∀ j : Json, j.hasNullElement = true ↔
      ∃ (first : Step) (path : List Step), (∀ s ∈ path, s.IntoArray) ∧
        j = around (first :: path) .null) ∧
    (∀ j : Json, j.hasNullElement = true → (∃ js, j = .array js) ∨ ∃ ms, j = .object ms) ∧
    ∀ (first : Step) (path : List Step) (ms ms' : List (String × Json)),
      (around (first :: path) (.object ms)).hasNullElement =
        (around (first :: path) (.object ms')).hasNullElement := by
  refine ⟨fun j => hasNullElement_iff, fun j h => ?_, hasNullElement_around_object⟩
  obtain ⟨first, path, -, rfl⟩ := hasNullElement_iff.1 h
  cases first with
  | element before after => exact .inl ⟨_, rfl⟩
  | value before key after => exact .inr ⟨_, rfl⟩

/-- A null below a member of the root counts, and one in a record does not. -/
example :
    (Json.object [("k", .array [.int 1, .array [.null]])]).hasNullElement = true ∧
    (Json.array [.object [("note", .null)]]).hasNullElement = false := by
  decide

end StagedRecords.Json
