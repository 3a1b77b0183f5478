import StagedRecords.Proofs.Slots
import StagedRecords.Shape

/-!
# Resolving slots

Resolution either fails on the first field that must be set and is not, or gives the one row in
which every field has the value of its slot or, where the slot is empty, what its declaration says
of the fields before it (`resolve_error_or_ok`).
-/

namespace StagedRecords

namespace Kind

variable {R α : Type}

theorem fallback?_eq_none_iff {earlier : R} {fresh : Uuid} {k : Kind R α} :
    k.fallback? earlier fresh = none ↔ k.nullability.mustBeSet = true := by
  cases k with
  | required | strict => exact ⟨fun _ => rfl, fun _ => rfl⟩
  | nullable _ | defaulted _ | drawn _ => exact ⟨fun h => (by cases h), fun h => (by cases h)⟩

end Kind

namespace Fields

variable {ts : List Type} {α : Type}

/-- The field must be set, and its slot is empty. -/
def Lacks (fs : Fields ts) (slots : Slots ts) (p : Place ts α) : Prop :=
  (fs.spec p).nullability.mustBeSet = true ∧ p.get slots = none

/-- The first field in the order of declaration that must be set and is not. -/
structure LacksFirst (fs : Fields ts) (slots : Slots ts) (p : Place ts α) : Prop where
  lacks : fs.Lacks slots p
  least : ∀ (β : Type) (q : Place ts β), q.index < p.index → ¬fs.Lacks slots q

/-- Every field of the row has the value of its slot, or what its declaration says of the fields
before it if the slot is empty. -/
structure Resolves (fs : Fields ts) (fresh : Nat → Uuid) (slots : Slots ts) (r : Row ts) :
    Prop where
  read_of_set : ∀ (α : Type) (p : Place ts α) (a : α), p.get slots = some a → p.read r = a
  read_of_nullable : ∀ (α : Type) (p : Place ts α) (null : α), p.get slots = none →
    (fs.field p).kind = .nullable null → p.read r = null
  read_of_defaulted : ∀ (α : Type) (p : Place ts α) (value : Row p.earlierTypes → α),
    p.get slots = none → (fs.field p).kind = .defaulted value → p.read r = value (p.earlier r)
  read_of_drawn : ∀ (α : Type) (p : Place ts α) (value : Uuid → α), p.get slots = none →
    (fs.field p).kind = .drawn value → p.read r = value (fresh p.index)

theorem resolves_nil {fresh : Nat → Uuid} : Fields.nil.Resolves fresh () () := by
  constructor <;> intro _ p <;> cases p

theorem lacks_last {fs : Fields ts} {f : Field ts α} {slots : Slots (α :: ts)} :
    (fs.snoc f).Lacks slots .last ↔ f.kind.nullability.mustBeSet = true ∧ slots.2 = none :=
  .rfl

section Step

variable {β : Type} {fs : Fields ts} {f : Field ts α} {slots : Slots ts} {x : Option α}
  {fresh : Nat → Uuid}

theorem LacksFirst.before {p : Place ts β} (h : fs.LacksFirst slots p) :
    (fs.snoc f).LacksFirst (slots, x) (.before p) where
  lacks := h.lacks
  least
    | _, .last, hlt => absurd hlt (Nat.not_lt_of_lt p.index_lt)
    | _, .before q, hlt => h.least _ q hlt

theorem lacksFirst_last (h : ∀ (β : Type) (q : Place ts β), ¬fs.Lacks slots q)
    (hf : f.kind.nullability.mustBeSet = true) :
    (fs.snoc f).LacksFirst (slots, none) .last where
  lacks := ⟨hf, rfl⟩
  least
    | _, .last, hlt => absurd hlt (Nat.lt_irrefl _)
    | _, .before q, _ => h _ q

theorem Resolves.snoc {r : Row ts} {a : α} (h : fs.Resolves fresh slots r)
    (ha : x.or (f.kind.fallback? r (fresh ts.length)) = some a) :
    (fs.snoc f).Resolves fresh (slots, x) (r, a) where
  read_of_set
    | _, .last, b, hx => by
      have hx : x = some b := hx
      rw [hx] at ha
      exact (Option.some.inj ha).symm
    | _, .before p, b, hx => h.read_of_set _ p b hx
  read_of_nullable
    | _, .last, null, hx, hk => by
      have hx : x = none := hx
      have hk : f.kind = .nullable null := hk
      rw [hx, hk] at ha
      exact (Option.some.inj ha).symm
    | _, .before p, null, hx, hk => h.read_of_nullable _ p null hx hk
  read_of_defaulted
    | _, .last, value, hx, hk => by
      have hx : x = none := hx
      have hk : f.kind = .defaulted value := hk
      rw [hx, hk] at ha
      exact (Option.some.inj ha).symm
    | _, .before p, value, hx, hk => h.read_of_defaulted _ p value hx hk
  read_of_drawn
    | _, .last, value, hx, hk => by
      have hx : x = none := hx
      have hk : f.kind = .drawn value := hk
      rw [hx, hk] at ha
      exact (Option.some.inj ha).symm
    | _, .before p, value, hx, hk => h.read_of_drawn _ p value hx hk

end Step

theorem resolve_snoc_eq_ok_iff {fs : Fields ts} {f : Field ts α} {fresh : Nat → Uuid}
    {slots : Slots ts} {x : Option α} {r : Row ts} {a : α} :
    (fs.snoc f).resolve fresh (slots, x) = .ok (r, a) ↔
      fs.resolve fresh slots = .ok r ∧ x.or (f.kind.fallback? r (fresh ts.length)) = some a := by
  rcases hr : fs.resolve fresh slots with name | r'
  · simp [resolve, hr]
  · rcases ha : x.or (f.kind.fallback? r' (fresh ts.length)) with _ | a'
    · have hmissing : (fs.snoc f).resolve fresh (slots, x) = .error f.name := by
        simp only [resolve, hr, ha]
      rw [hmissing]
      constructor
      · intro h
        cases h
      · rintro ⟨hr', ha'⟩
        cases hr'
        rw [ha] at ha'
        cases ha'
    · have hok : (fs.snoc f).resolve fresh (slots, x) = .ok (r', a') := by
        simp only [resolve, hr, ha]
      rw [hok]
      constructor
      · intro h
        cases h
        exact ⟨rfl, ha⟩
      · rintro ⟨hr', ha'⟩
        cases hr'
        rw [ha, Option.some.injEq] at ha'
        rw [ha']

/-- Resolution fails on the first field that lacks a value, or no field lacks one and the row is
as declared. -/
theorem resolve_error_or_ok (fresh : Nat → Uuid) : ∀ {ts : List Type} (fs : Fields ts)
    (slots : Slots ts),
    (∃ (α : Type) (p : Place ts α), fs.LacksFirst slots p ∧
      fs.resolve fresh slots = .error (fs.spec p).name) ∨
    ((∀ (α : Type) (p : Place ts α), ¬fs.Lacks slots p) ∧
      ∃ r, fs.resolve fresh slots = .ok r ∧ fs.Resolves fresh slots r)
  | _, .nil, () => by
    refine .inr ⟨fun _ p => ?_, (), rfl, resolves_nil⟩
    cases p
  | _, @snoc ts α fs f, (slots, x) => by
    rcases resolve_error_or_ok fresh fs slots with ⟨β, p, hp, he⟩ | ⟨hall, r, hr, hres⟩
    · refine .inl ⟨β, .before p, hp.before, ?_⟩
      simp only [resolve, he]
      rfl
    · rcases ha : x.or (f.kind.fallback? r (fresh ts.length)) with _ | a
      · obtain ⟨rfl, hf⟩ := Option.or_eq_none_iff.1 ha
        refine .inl ⟨α, .last, lacksFirst_last hall (Kind.fallback?_eq_none_iff.1 hf), ?_⟩
        simp only [resolve, hr, ha]
        rfl
      · refine .inr ⟨?_, (r, a), resolve_snoc_eq_ok_iff.2 ⟨hr, ha⟩, hres.snoc ha⟩
        rintro β (_ | q) hlack
        · obtain ⟨hset, hx⟩ := lacks_last.1 hlack
          have hx : x = none := hx
          rw [hx, Option.none_or, Kind.fallback?_eq_none_iff.2 hset] at ha
          cases ha
        · exact hall β q hlack

/-- Each value of the row is that of its slot or, where the slot is empty, what the declaration
says of the values before it. -/
def FilledTo (fresh : Nat → Uuid) : {ts : List Type} → Fields ts → Slots ts → Row ts → Prop
  | _, .nil, _, _ => True
  | _, @snoc ts _ fs f, (s, x), (r, a) =>
    fs.FilledTo fresh s r ∧ x.or (f.kind.fallback? r (fresh ts.length)) = some a

theorem resolve_eq_ok_iff {fresh : Nat → Uuid} : ∀ {ts : List Type} {fs : Fields ts}
    {slots : Slots ts} {r : Row ts}, fs.resolve fresh slots = .ok r ↔ fs.FilledTo fresh slots r
  | _, .nil, (), () => ⟨fun _ => trivial, fun _ => rfl⟩
  | _, .snoc _ _, (_, _), (_, _) =>
    resolve_snoc_eq_ok_iff.trans (and_congr_left fun _ => resolve_eq_ok_iff)

theorem resolve_ofRow (fresh : Nat → Uuid) : ∀ {ts : List Type} (fs : Fields ts) (r : Row ts),
    fs.resolve fresh (.ofRow r) = .ok r
  | _, .nil, () => rfl
  | _, .snoc fs f, (r, a) => by
    simp only [Slots.ofRow, resolve, resolve_ofRow fresh fs r, Option.some_or]

end Fields

end StagedRecords
