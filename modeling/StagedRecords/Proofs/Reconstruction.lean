import StagedRecords.Proofs.Builds
import StagedRecords.Proofs.Edits

/-!
# Drafts of constructed values

A constructed value gives back only the arguments that it keeps. After edits of such a draft a slot
holds what the last edit for it gives, or else what the value gave back
(`Edits.get_of_lastGives`), so a build makes a value of the edited arguments, of the kept ones that
no edit is for, and of null or the default for the others (`arguments_kept_edited_or_defaulted`).
-/

namespace StagedRecords

variable {s : Schema} {α : Type}

namespace Edit

/-- What the last of the edits for the field at `p` gives it; nothing if no edit is for it. -/
def LastGives (p : Place s.types α) (es : List (Edit s)) : Option α → Prop
  | some a => ∃ xs e ys, es = xs ++ e :: ys ∧ e.Gives p a ∧ ∀ e' ∈ ys, ∀ b, ¬e'.Gives p b
  | none => ∀ e ∈ es, ∀ a, ¬e.Gives p a

theorem exists_lastGives (p : Place s.types α) (es : List (Edit s)) : ∃ x, LastGives p es x := by
  induction es with
  | nil => exact ⟨none, List.forall_mem_nil _⟩
  | cons e es ih =>
    obtain ⟨_ | a, hes⟩ := ih
    · by_cases he : ∃ a, e.Gives p a
      · obtain ⟨a, ha⟩ := he
        exact ⟨some a, [], e, es, rfl, ha, hes⟩
      · exact ⟨none, List.forall_mem_cons.2 ⟨not_exists.1 he, hes⟩⟩
    · obtain ⟨xs, e', ys, rfl, ha, hys⟩ := hes
      exact ⟨some a, e :: xs, e', ys, rfl, ha, hys⟩

end Edit

open Edit (LastGives)

/-- After edits a slot holds what the last edit for it gives, or else what it held before. -/
theorem Edits.get_of_lastGives {d d' : Draft s} {es : List (Edit s)} {p : Place s.types α}
    (h : Edits d es d') : ∀ {x : Option α}, LastGives p es x →
      p.get d'.slots = x.or (p.get d.slots)
  | none, hx => h.get_of_forall_not hx
  | some a, hx => by
    obtain ⟨xs, e, ys, rfl, ha, hys⟩ := hx
    exact h.get_of_last ha hys

/-! ## Names -/

namespace PersonName

/-- The place of the argument that must be set. -/
def forenameAt : Place shape.types String := .before (.before .last)

/-- The place of the argument with a default. -/
def surnameAt : Place shape.types String := .before .last

/-- The place of the argument that a name keeps. -/
def otherNameAt : Place shape.types (Option String) := .last

theorem build_of_edits {v : PersonName} {es : List (Edit shape.toSchema)}
    {d : Draft shape.toSchema} (h : Edits (shape.draft v) es d) {forename surname : Option String}
    {otherName : Option (Option String)} (hforename : LastGives forenameAt es forename)
    (hsurname : LastGives surnameAt es surname) (hother : LastGives otherNameAt es otherName)
    (fresh : Nat → Uuid) :
    (shape.build fresh d).result =
      forename.elim (.error ⟨"ClassWithConstructorParametersBuilder", "forename", .missing⟩)
        fun forename =>
          .ok (construct forename (surname.getD "Anon") (otherName.getD v.otherName)) := by
  have hx := h.get_of_lastGives hforename
  have hy := h.get_of_lastGives hsurname
  have hz := h.get_of_lastGives hother
  obtain ⟨⟨⟨⟨_, x⟩, y⟩, z⟩⟩ := d
  have hx : x = forename := hx.trans Option.or_none
  have hy : y = surname := hy.trans Option.or_none
  have hz : z = some (otherName.getD v.otherName) := hz.trans Option.or_some
  subst hx hy hz
  cases x with
  | none => exact Shape.build_of_error rfl
  | some forename => exact (buildsAsDeclared fresh).personNames forename y _

/-- What becomes of a name whose draft is edited and built again. -/
structure Rebuilds (fresh : Nat → Uuid) : Prop where
  places : fields.find? "forename" = some ⟨forenameAt⟩ ∧
    fields.find? "surname" = some ⟨surnameAt⟩ ∧ fields.find? "other_name" = some ⟨otherNameAt⟩
  /-- Another name counts as set even if there is none. -/
  copied : ∀ v, (shape.draft v).isEmpty = false ∧ forenameAt.get (shape.draft v).slots = none ∧
    surnameAt.get (shape.draft v).slots = none ∧
    otherNameAt.get (shape.draft v).slots = some v.otherName
  edited : ∀ v es d, Edits (shape.draft v) es d → ∀ forename surname otherName,
    LastGives forenameAt es forename → LastGives surnameAt es surname →
    LastGives otherNameAt es otherName →
    (shape.build fresh d).result =
      forename.elim (.error ⟨"ClassWithConstructorParametersBuilder", "forename", .missing⟩)
        fun forename => .ok (construct forename (surname.getD "Anon") (otherName.getD v.otherName))
  /-- The same arguments make the same name again. -/
  repeated : ∀ forename surname otherName es d,
    Edits (shape.draft (construct forename surname otherName)) es d →
    LastGives forenameAt es (some forename) → LastGives surnameAt es (some surname) →
    LastGives otherNameAt es none →
    (shape.build fresh d).result = .ok (construct forename surname otherName)
  /-- A surname is not kept, and the default takes its place. -/
  reverted : ∀ forename surname otherName es d,
    Edits (shape.draft (construct forename surname otherName)) es d →
    LastGives forenameAt es (some forename) → LastGives surnameAt es none →
    LastGives otherNameAt es none →
    (shape.build fresh d).result = .ok (construct forename "Anon" otherName)

theorem rebuilds (fresh : Nat → Uuid) : Rebuilds fresh where
  places := ⟨rfl, rfl, rfl⟩
  copied _ := ⟨rfl, rfl, rfl, rfl⟩
  edited _ _ _ h _ _ _ hforename hsurname hother :=
    build_of_edits h hforename hsurname hother fresh
  repeated _ _ _ _ _ h hforename hsurname hother :=
    build_of_edits h hforename hsurname hother fresh
  reverted _ _ _ _ _ h hforename hsurname hother :=
    build_of_edits h hforename hsurname hother fresh

end PersonName

/-! ## Greetings -/

namespace Greeting

/-- The place of the argument that must be set. -/
def nameAt : Place shape.types String := .before .last

/-- The place of the argument that a greeting keeps and that has a default as well. -/
def punctuationAt : Place shape.types Char := .last

theorem build_of_edits {v : Greeting} {es : List (Edit shape.toSchema)}
    {d : Draft shape.toSchema} (h : Edits (shape.draft v) es d) {name : Option String}
    {punctuation : Option Char} (hname : LastGives nameAt es name)
    (hpunctuation : LastGives punctuationAt es punctuation) (fresh : Nat → Uuid) :
    (shape.build fresh d).result =
      name.elim (.error ⟨"GreetingBuilder", "name", .missing⟩)
        fun name => .ok (construct name (punctuation.getD v.punctuation)) := by
  have hx := h.get_of_lastGives hname
  have hy := h.get_of_lastGives hpunctuation
  obtain ⟨⟨⟨_, x⟩, y⟩⟩ := d
  have hx : x = name := hx.trans Option.or_none
  have hy : y = some (punctuation.getD v.punctuation) := hy.trans Option.or_some
  subst hx hy
  cases x with
  | none => exact Shape.build_of_error rfl
  | some name => exact (buildsAsDeclared fresh).greetings name _ _ rfl

/-- What becomes of a greeting whose draft is edited and built again. -/
structure Rebuilds (fresh : Nat → Uuid) : Prop where
  places : fields.find? "name" = some ⟨nameAt⟩ ∧
    fields.find? "punctuation" = some ⟨punctuationAt⟩
  copied : ∀ v, (shape.draft v).isEmpty = false ∧ nameAt.get (shape.draft v).slots = none ∧
    punctuationAt.get (shape.draft v).slots = some v.punctuation
  edited : ∀ v es d, Edits (shape.draft v) es d → ∀ name punctuation,
    LastGives nameAt es name → LastGives punctuationAt es punctuation →
    (shape.build fresh d).result =
      name.elim (.error ⟨"GreetingBuilder", "name", .missing⟩)
        fun name => .ok (construct name (punctuation.getD v.punctuation))

theorem rebuilds (fresh : Nat → Uuid) : Rebuilds fresh where
  places := ⟨rfl, rfl⟩
  copied _ := ⟨rfl, rfl, rfl⟩
  edited _ _ _ h _ _ hname hpunctuation := build_of_edits h hname hpunctuation fresh

end Greeting

/-- A draft that starts from a constructed value holds the arguments that the value keeps, null
among them, and no others. After any edits that succeed, a build makes a value of what the last
edit for each argument gives. An argument that no edit is for is the one that the value keeps, or
null or the default; the build refuses if it is one that must be set. -/
theorem arguments_kept_edited_or_defaulted (fresh : Nat → Uuid) :
    (∀ (s : Schema) (α : Type) (p : Place s.types α) (es : List (Edit s)), ∃ x, LastGives p es x) ∧
    PersonName.Rebuilds fresh ∧ Greeting.Rebuilds fresh :=
  ⟨fun _ _ p es => Edit.exists_lastGives p es, PersonName.rebuilds fresh, Greeting.rebuilds fresh⟩

/-- A forename set by name and a surname written by place make the same name again. -/
theorem name_without_other_name_rebuilt :
    let v := PersonName.construct "Jane" "Smith" none
    let es : List (Edit PersonName.shape.toSchema) :=
      [.named "forename" (.string "Jane"), .typed ⟨PersonName.surnameAt, "Smith"⟩]
    ∃ d, Edits (PersonName.shape.draft v) es d ∧
      (PersonName.shape.build (fun _ => ⟨0⟩) d).result = .ok v := by
  intro v es
  have h : Edits (PersonName.shape.draft v) es _ := .cons rfl (.cons rfl (.nil _))
  have hsurname : ∀ {α : Type} {p : Place PersonName.shape.types α},
      (∀ a, p.given PersonName.surnameAt "Smith" ≠ some a) →
        ∀ a, ¬(Edit.typed ⟨PersonName.surnameAt, "Smith"⟩).Gives p a :=
    fun hne a ha => hne a (Place.given_eq_some_iff.2 ha)
  refine ⟨_, h, ?_⟩
  refine (arguments_kept_edited_or_defaulted _).2.1.repeated _ _ _ es _ h
    ⟨[], _, _, rfl, ⟨rfl, rfl⟩, ?_⟩ ⟨[_], _, [], rfl, rfl, ?_⟩ ?_
  · exact List.forall_mem_singleton.2 (hsurname nofun)
  · exact List.forall_mem_nil _
  · exact List.forall_mem_cons.2
      ⟨fun a ha => absurd ha.1 (by decide), List.forall_mem_singleton.2 (hsurname nofun)⟩

end StagedRecords
