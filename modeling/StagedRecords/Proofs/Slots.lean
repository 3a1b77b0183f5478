import StagedRecords.Draft

/-!
# Places

Slots and rows are determined by what they hold at each place, and a write changes what one place
holds (`get_put`). Where the fields have different names, a name finds its own place
(`find?_spec`).
-/

namespace StagedRecords

variable {ts : List Type} {α β : Type}

namespace Place

/-- The value that writing `b` at `q` gives the place `p`. -/
def given : {ts : List Type} → {α β : Type} → Place ts α → Place ts β → β → Option α
  | _ :: _, _, _, .last, .last, b => some b
  | _ :: _, _, _, .before p, .before q, b => p.given q b
  | _ :: _, _, _, .last, .before _, _ => none
  | _ :: _, _, _, .before _, .last, _ => none

/-- The types of the fields before it. -/
def earlierTypes : {ts : List Type} → {α : Type} → Place ts α → List Type
  | _ :: ts, _, .last => ts
  | _ :: _, _, .before p => p.earlierTypes

/-- The values of the fields before it. -/
def earlier : {ts : List Type} → {α : Type} → (p : Place ts α) → Row ts → Row p.earlierTypes
  | _ :: _, _, .last, (r, _) => r
  | _ :: _, _, .before p, (r, _) => p.earlier r

theorem get_put : ∀ {ts : List Type} {α β : Type} (p : Place ts α) (q : Place ts β) (b : β)
    (s : Slots ts), p.get (q.put b s) = (p.given q b).or (p.get s)
  | _, _, _, .last, .last, _, (_, _) => rfl
  | _, _, _, .before p, .before q, b, (s, _) => get_put p q b s
  | _, _, _, .last, .before _, _, (_, _) => rfl
  | _, _, _, .before _, .last, _, (_, _) => rfl

theorem given_self : ∀ {ts : List Type} {α : Type} (p : Place ts α) (a : α), p.given p a = some a
  | _, _, .last, _ => rfl
  | _, _, .before p, a => given_self p a

theorem eq_of_given : ∀ {ts : List Type} {α β : Type} (p : Place ts α) (q : Place ts β) {b : β}
    {a : α}, p.given q b = some a → (⟨q, b⟩ : Write ts) = ⟨p, a⟩
  | _, _, _, .last, .last, _, _, h => by
    cases h
    rfl
  | _, _, _, .before p, .before q, b, a, h => by
    cases eq_of_given p q h
    rfl
  | _, _, _, .last, .before _, _, _, h => by cases h
  | _, _, _, .before _, .last, _, _, h => by cases h

/-- A place is given a value by a write of that value there, and by no other. -/
theorem given_eq_some_iff {p : Place ts α} {w : Write ts} {a : α} :
    p.given w.place w.value = some a ↔ w = ⟨p, a⟩ := by
  refine ⟨fun h => eq_of_given p w.place h, ?_⟩
  rintro rfl
  exact given_self p a

theorem get_none : ∀ {ts : List Type} {α : Type} (p : Place ts α),
    p.get (Slots.none ts) = Option.none
  | _, _, .last => rfl
  | _, _, .before p => get_none p

theorem get_ofRow : ∀ {ts : List Type} {α : Type} (p : Place ts α) (r : Row ts),
    p.get (Slots.ofRow r) = some (p.read r)
  | _, _, .last, (_, _) => rfl
  | _, _, .before p, (r, _) => get_ofRow p r

theorem index_lt : ∀ {ts : List Type} {α : Type} (p : Place ts α), p.index < ts.length
  | _, _, .last => Nat.lt_succ_self _
  | _, _, .before p => Nat.lt_succ_of_lt (index_lt p)

end Place

theorem Slots.ext : ∀ {ts : List Type} {s t : Slots ts},
    (∀ (α : Type) (p : Place ts α), p.get s = p.get t) → s = t
  | [], _, _, _ => rfl
  | _ :: _, (s, x), (t, y), h => by
    have hs : s = t := Slots.ext fun α p => h α (.before p)
    have hx : x = y := h _ .last
    rw [hs, hx]

theorem Slots.allEmpty_iff : ∀ {ts : List Type} {s : Slots ts},
    s.allEmpty = true ↔ ∀ (α : Type) (p : Place ts α), p.get s = Option.none
  | [], _ => by
    refine ⟨fun _ _ p => ?_, fun _ => rfl⟩
    cases p
  | _ :: _, (s, x) => by
    rw [Slots.allEmpty, Bool.and_eq_true, Slots.allEmpty_iff, Option.isNone_iff_eq_none]
    refine ⟨fun h α p => ?_, fun h => ⟨fun α p => h α (.before p), h _ .last⟩⟩
    cases p with
    | last => exact h.2
    | before p => exact h.1 α p

namespace Fields

/-- The field at a place. -/
def field : {ts : List Type} → {α : Type} → Fields ts → (p : Place ts α) → Field p.earlierTypes α
  | _, _, .snoc _ f, .last => f
  | _, _, .snoc fs _, .before p => fs.field p

theorem spec_eq : ∀ {ts : List Type} {α : Type} (fs : Fields ts) (p : Place ts α),
    fs.spec p = ⟨(fs.field p).name, (fs.field p).kind.nullability⟩
  | _, _, .snoc _ _, .last => rfl
  | _, _, .snoc fs _, .before p => spec_eq fs p

theorem codec_eq : ∀ {ts : List Type} {α : Type} (fs : Fields ts) (p : Place ts α),
    fs.codec p = (fs.field p).codec
  | _, _, .snoc _ _, .last => rfl
  | _, _, .snoc fs _, .before p => codec_eq fs p

theorem accept_eq (builder : String) (j : Json) :
    ∀ {ts : List Type} {α : Type} (fs : Fields ts) (p : Place ts α),
      fs.accept builder j p =
        letI := (fs.field p).codec
        (fs.field p).kind.accept builder (fs.field p).name j
  | _, _, .snoc _ _, .last => rfl
  | _, _, .snoc fs _, .before p => accept_eq builder j fs p

/-- Every field has the property `P`. -/
def Each (P : ∀ {ts : List Type} {α : Type}, Field ts α → Prop) :
    {ts : List Type} → Fields ts → Prop
  | _, .nil => True
  | _, .snoc fs f => fs.Each P ∧ P f

theorem Each.field {P : ∀ {ts : List Type} {α : Type}, Field ts α → Prop} :
    ∀ {ts : List Type} {α : Type} {fs : Fields ts}, fs.Each P → ∀ p : Place ts α, P (fs.field p)
  | _, _, .snoc _ _, h, .last => h.2
  | _, _, .snoc _ _, h, .before p => Each.field h.1 p

theorem names_snoc (fs : Fields ts) (f : Field ts α) :
    (Fields.snoc fs f).names = fs.names ++ [f.name] := by
  simp [names, specs]

theorem spec_name_mem : ∀ {ts : List Type} {α : Type} (fs : Fields ts) (p : Place ts α),
    (fs.spec p).name ∈ fs.names
  | _, _, .snoc fs f, .last => by
    rw [names_snoc]
    exact List.mem_append_right _ List.mem_cons_self
  | _, _, .snoc fs f, .before p => by
    rw [names_snoc]
    exact List.mem_append_left _ (spec_name_mem fs p)

/-- A name finds the place of its field. -/
theorem find?_spec : ∀ {ts : List Type} {α : Type} {fs : Fields ts} (_ : fs.names.Nodup)
    (p : Place ts α), fs.find? (fs.spec p).name = some ⟨p⟩
  | _, _, .snoc fs f, _, .last => if_pos rfl
  | _, _, .snoc fs f, h, .before p => by
    rw [names_snoc] at h
    have hd := List.nodup_append.1 h
    have hne : f.name ≠ (fs.spec p).name := fun he =>
      hd.2.2 _ (spec_name_mem fs p) f.name List.mem_cons_self he.symm
    show (if f.name = (fs.spec p).name then _ else (fs.find? (fs.spec p).name).map _) = _
    rw [if_neg hne, find?_spec hd.1 p]
    rfl

/-- What a name finds has that name. -/
theorem spec_name_of_find? : ∀ {ts : List Type} {fs : Fields ts} {name : String}
    {w : Somewhere ts}, fs.find? name = some w → (fs.spec w.place).name = name
  | _, .nil, _, _, h => by cases h
  | _, .snoc fs f, name, w, h => by
    unfold find? at h
    split at h
    · next he =>
      cases h
      exact he
    · obtain ⟨w', hw', rfl⟩ := Option.map_eq_some_iff.1 h
      have hname : (fs.spec w'.place).name = name := spec_name_of_find? hw'
      exact hname

end Fields

end StagedRecords
