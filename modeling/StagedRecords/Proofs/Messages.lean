import StagedRecords.Catalogue
import StagedRecords.Proofs.Readiness

/-!
# Messages of refusals

The message of a refusal starts with the name of the builder, which ends at a dot, or at a colon
where the field is unknown. After the dot the name of the field ends at a colon, and the cause
follows: its first word ends at a space, and the rest tells the causes apart. So a message is that
of one refusal only, whatever the reason of an invalid value or an unknown name may hold.
-/

namespace StagedRecords

/-- The characters that end a name in a message. -/
def IsSeparator (c : Char) : Prop := c = ' ' ∨ c = '.' ∨ c = ':'

instance (c : Char) : Decidable (IsSeparator c) := inferInstanceAs (Decidable (_ ∨ _))

/-- A name that no separator is part of, as builders and their fields have. -/
def IsIdentifier (s : String) : Prop := s ≠ "" ∧ ∀ c ∈ s.toList, ¬IsSeparator c

instance (s : String) : Decidable (IsIdentifier s) :=
  -- The characters of the text are looked at, not all characters there are.
  have : Decidable (∀ c ∈ s.toList, ¬IsSeparator c) := List.decidableBAll _ _
  inferInstanceAs (Decidable (_ ∧ _))

/-- Equal texts have the same part up to their first separator. -/
theorem append_separator_inj {c d : Char} (hc : IsSeparator c) (hd : IsSeparator d) :
    ∀ {xs ys zs ws : List Char}, (∀ a ∈ xs, ¬IsSeparator a) → (∀ a ∈ ys, ¬IsSeparator a) →
      xs ++ c :: zs = ys ++ d :: ws → xs = ys ∧ c = d ∧ zs = ws
  | [], [], _, _, _, _, h => ⟨rfl, List.cons.inj h⟩
  | [], y :: ys, _, _, _, hy, h =>
    absurd hc ((List.cons.inj h).1 ▸ hy y List.mem_cons_self)
  | x :: xs, [], _, _, hx, _, h =>
    absurd hd ((List.cons.inj h).1 ▸ hx x List.mem_cons_self)
  | x :: xs, y :: ys, _, _, hx, hy, h => by
    obtain ⟨hxy, hrest⟩ := List.cons.inj h
    obtain ⟨hpart, hends⟩ := append_separator_inj hc hd (List.forall_mem_cons.1 hx).2
      (List.forall_mem_cons.1 hy).2 hrest
    exact ⟨by rw [hxy, hpart], hends⟩

/-! ## The parts of a message -/

attribute [ext] Refusal

namespace Refusal

/-- The builder has an identifier for a name, and so has the field unless it is unknown. -/
def Named (r : Refusal) : Prop :=
  IsIdentifier r.builder ∧ (r.cause ≠ .unknownField → IsIdentifier r.field)

instance (r : Refusal) : Decidable r.Named := inferInstanceAs (Decidable (_ ∧ _))

/-- The first word after the names: the field once more, or that its value is invalid. -/
def opening (field : String) : Cause → String
  | .invalid _ => "invalid"
  | _ => field

/-- What follows the first word. -/
def grounds (field : String) : Cause → String
  | .nullValue => "must not be null"
  | .missing => "must not be null (required field was never set)"
  | .nullElement => "must not contain null elements"
  | .invalid reason => "value for " ++ field ++ ": " ++ reason
  | .unknownField => ""

theorem toList_message_of_ne {r : Refusal} (h : r.cause ≠ .unknownField) :
    r.message.toList = r.builder.toList ++ '.' :: (r.field.toList ++ ':' :: ' ' ::
      ((opening r.field r.cause).toList ++ ' ' :: (grounds r.field r.cause).toList)) := by
  obtain ⟨builder, field, cause⟩ := r
  cases cause with
  | unknownField => exact absurd rfl h
  | _ => simp [message, opening, grounds]

theorem toList_message_of_unknownField {r : Refusal} (h : r.cause = .unknownField) :
    r.message.toList =
      r.builder.toList ++ ':' :: (" unknown field ".toList ++ r.field.toList) := by
  simp [message, h]

theorem not_isSeparator_of_mem_opening {field : String} (h : IsIdentifier field) (cause : Cause) :
    ∀ c ∈ (opening field cause).toList, ¬IsSeparator c := by
  cases cause with
  | invalid => simp [opening, IsSeparator]
  | _ => exact h.2

/-- What follows the first word tells the causes of one field apart. -/
theorem grounds_injective {field : String} {cause cause' : Cause} (hne : cause ≠ .unknownField)
    (hne' : cause' ≠ .unknownField) (h : grounds field cause = grounds field cause') :
    cause = cause' := by
  cases cause <;> cases cause'
  case invalid.invalid reason reason' =>
    exact congrArg Cause.invalid ((String.append_right_inj _).1 h)
  all_goals simp_all [grounds, ← String.toList_inj]

theorem exists_message_eq_append (r : Refusal) :
    ∃ front back, r.message = front ++ r.field ++ back := by
  obtain ⟨builder, field, cause⟩ := r
  cases cause with
  | unknownField => exact ⟨builder ++ ": unknown field ", "", String.append_empty.symm⟩
  | _ => exact ⟨builder ++ ".", _, by simp only [message, String.append_assoc]; rfl⟩

/-! ## What a message tells -/

section Messages

variable {r r' : Refusal}

/-- The separator after the name of the builder tells whether the field is unknown. -/
theorem message_ne_of_unknownField (hr : r.Named) (hr' : r'.Named)
    (hu : r.cause = .unknownField) (hne : r'.cause ≠ .unknownField) :
    r.message ≠ r'.message := by
  intro h
  rw [← String.toList_inj, toList_message_of_unknownField hu, toList_message_of_ne hne] at h
  obtain ⟨-, hend, -⟩ := append_separator_inj (by decide) (by decide) hr.1.2 hr'.1.2 h
  cases hend

theorem eq_of_message_eq_of_unknownField (hr : r.Named) (hr' : r'.Named)
    (hu : r.cause = .unknownField) (hu' : r'.cause = .unknownField)
    (h : r.message = r'.message) : r = r' := by
  rw [← String.toList_inj, toList_message_of_unknownField hu,
    toList_message_of_unknownField hu'] at h
  obtain ⟨hbuilder, -, hrest⟩ := append_separator_inj (by decide) (by decide) hr.1.2 hr'.1.2 h
  have hfield := List.append_cancel_left hrest
  exact Refusal.ext (String.toList_inj.1 hbuilder) (String.toList_inj.1 hfield) (hu.trans hu'.symm)

theorem eq_of_message_eq_of_ne (hr : r.Named) (hr' : r'.Named) (hne : r.cause ≠ .unknownField)
    (hne' : r'.cause ≠ .unknownField) (h : r.message = r'.message) : r = r' := by
  have hname := hr.2 hne
  have hname' := hr'.2 hne'
  rw [← String.toList_inj, toList_message_of_ne hne, toList_message_of_ne hne'] at h
  obtain ⟨hbuilder, -, hplaced⟩ := append_separator_inj (by decide) (by decide) hr.1.2 hr'.1.2 h
  obtain ⟨hfield, -, hspaced⟩ :=
    append_separator_inj (by decide) (by decide) hname.2 hname'.2 hplaced
  obtain ⟨-, -, hgrounds⟩ := append_separator_inj (by decide) (by decide)
    (not_isSeparator_of_mem_opening hname _) (not_isSeparator_of_mem_opening hname' _)
    (List.cons.inj hspaced).2
  have hfield := String.toList_inj.1 hfield
  rw [String.toList_inj, hfield] at hgrounds
  exact Refusal.ext (String.toList_inj.1 hbuilder) hfield (grounds_injective hne hne' hgrounds)

theorem message_injective (hr : r.Named) (hr' : r'.Named) (h : r.message = r'.message) :
    r = r' := by
  by_cases hu : r.cause = .unknownField <;> by_cases hu' : r'.cause = .unknownField
  · exact eq_of_message_eq_of_unknownField hr hr' hu hu' h
  · exact absurd h (message_ne_of_unknownField hr hr' hu hu')
  · exact absurd h.symm (message_ne_of_unknownField hr' hr hu' hu)
  · exact eq_of_message_eq_of_ne hr hr' hu hu' h

end Messages

end Refusal

/-- A message holds the name of the field, and it is the message of no other refusal. The reason of
an invalid value and an unknown name are any text, also one that reads like another message. -/
theorem message_names_field_and_refusal {r r' : Refusal} (hr : r.Named) (hr' : r'.Named) :
    (∃ front back, r.message = front ++ r.field ++ back) ∧
      (r.message = r'.message ↔ r = r') :=
  ⟨r.exists_message_eq_append, Refusal.message_injective hr hr', congrArg Refusal.message⟩

/-- An unknown name that reads like the complaint about another field is not taken for it. -/
theorem unknown_name_like_complaint :
    let r : Refusal := ⟨"PointBuilder", "x: x must not be null", .unknownField⟩
    let r' : Refusal := ⟨"PointBuilder", "x", .nullValue⟩
    r.Named ∧ r'.Named ∧ (∃ front back, r.message = front ++ r.field ++ back) ∧
      r.message ≠ r'.message := by
  intro r r'
  have hr : r.Named := by decide
  have hr' : r'.Named := by decide
  obtain ⟨hfield, hiff⟩ := message_names_field_and_refusal hr hr'
  exact ⟨hr, hr', hfield, mt hiff.1 (by decide)⟩

/-! ## The refusals of the catalogue -/

/-- The builder and the fields have identifiers for names. -/
def Schema.HasIdentifiers (s : Schema) : Prop :=
  IsIdentifier s.builder ∧ ∀ name ∈ s.fields.names, IsIdentifier name

theorem hasIdentifiers_of_mem_catalogue :
    ∀ e ∈ catalogue, e.shape.toSchema.HasIdentifiers := by
  apply forall_mem_catalogue (P := fun _ s => s.HasIdentifiers) <;>
    exact ⟨by decide +kernel, by decide +kernel⟩

/-- A refused write is named after the builder and the name that it was given. -/
theorem Draft.named_of_set_error {s : Schema} (hs : s.HasIdentifiers) {d : Draft s} {name : String}
    {j : Json} {e : Refusal} (h : (d.set name j).outcome.result = .error e) : e.Named := by
  obtain ⟨hbuilder, rfl, ⟨-, hcause⟩ | ⟨spec, hspec, -⟩⟩ :=
    Schema.accept_error_cases (Draft.accept_of_set_error h)
  · exact ⟨hbuilder ▸ hs.1, fun hne => absurd hcause hne⟩
  · obtain ⟨α, p, rfl, hname⟩ := Schema.exists_place_of_spec? hspec
    have hmem := List.mem_of_getElem? (s.fields.getElem?_names p)
    exact ⟨hbuilder ▸ hs.1, fun _ => hs.2 _ (hname ▸ hmem)⟩

theorem Shape.named_of_build_error {V : Type} {s : Shape V} (hs : s.toSchema.HasIdentifiers)
    {fresh : Nat → Uuid} {d : Draft s.toSchema} {e : Refusal}
    (h : (s.build fresh d).result = .error e) : e.Named := by
  rcases s.build_error_or_ok fresh d with ⟨α, p, -, he⟩ | ⟨-, r, hr, -⟩
  · rw [he] at h
    cases h
    exact ⟨hs.1, fun _ => hs.2 _ (List.mem_of_getElem? (s.fields.getElem?_names p))⟩
  · rw [hr] at h
    cases h

/-- Whatever a draft of the catalogue refuses is named, so its message tells it from the rest. -/
theorem refusals_of_catalogue_named {e : Entry} (he : e ∈ catalogue)
    (d : Draft e.shape.toSchema) :
    (∀ name j r, (d.set name j).outcome.result = .error r → r.Named) ∧
      ∀ fresh r, (e.shape.build fresh d).result = .error r → r.Named :=
  have hs := hasIdentifiers_of_mem_catalogue e he
  ⟨fun _ _ _ => Draft.named_of_set_error hs, fun _ _ => Shape.named_of_build_error hs⟩

end StagedRecords
