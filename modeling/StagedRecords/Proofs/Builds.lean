import StagedRecords.Catalogue
import StagedRecords.Proofs.Resolution
import StagedRecords.Proofs.Runs

/-!
# Builds

A build fails on the first field that must be set and is not, and otherwise makes a value of the
resolved row (`Shape.build_error_or_ok`). `BuildsAsDeclared` spells out, for each shape of the
catalogue, the value that is made of all its slots.
-/

namespace StagedRecords

namespace Shape

variable {V : Type}

theorem build_of_ok {s : Shape V} {fresh : Nat → Uuid} {d : Draft s.toSchema} {r : Row s.types}
    (h : s.fields.resolve fresh d.slots = .ok r) :
    (s.build fresh d).result = .ok (s.make r) := by
  simp only [build, Draft.build, h]
  rfl

theorem build_of_error {s : Shape V} {fresh : Nat → Uuid} {d : Draft s.toSchema} {name : String}
    (h : s.fields.resolve fresh d.slots = .error name) :
    (s.build fresh d).result = .error ⟨s.builder, name, .missing⟩ := by
  simp only [build, Draft.build, h]
  rfl

theorem build_of_filledTo {s : Shape V} {fresh : Nat → Uuid} {d : Draft s.toSchema}
    {r : Row s.types} (h : s.fields.FilledTo fresh d.slots r) :
    (s.build fresh d).result = .ok (s.make r) :=
  build_of_ok (Fields.resolve_eq_ok_iff.2 h)

/-- A build refuses on the first field that lacks a value, or no field lacks one and the value is
made of the resolved row. -/
theorem build_error_or_ok (s : Shape V) (fresh : Nat → Uuid) (d : Draft s.toSchema) :
    (∃ (α : Type) (p : Place s.types α), s.fields.LacksFirst d.slots p ∧
      (s.build fresh d).result = .error ⟨s.builder, (s.fields.spec p).name, .missing⟩) ∨
    ((∀ (α : Type) (p : Place s.types α), ¬s.fields.Lacks d.slots p) ∧
      ∃ r, (s.build fresh d).result = .ok (s.make r) ∧ s.fields.Resolves fresh d.slots r) := by
  rcases s.fields.resolve_error_or_ok fresh d.slots with ⟨α, p, hp, he⟩ | ⟨hall, r, hr, hres⟩
  · exact .inl ⟨α, p, hp, build_of_error he⟩
  · exact .inr ⟨hall, r, build_of_ok hr, hres⟩

end Shape

namespace RecordShape

variable {V : Type} {s : RecordShape V} {fresh : Nat → Uuid} {d : Draft s.toSchema} {v : V}

/-- A build makes the record whose row the slots resolve to. -/
theorem build_of_ok (h : s.fields.resolve fresh d.slots = .ok (s.row v)) :
    (s.toShape.build fresh d).result = .ok v :=
  (Shape.build_of_ok (s := s.toShape) h).trans (congrArg Except.ok (s.make_row v))

theorem build_of_filledTo (h : s.fields.FilledTo fresh d.slots (s.row v)) :
    (s.toShape.build fresh d).result = .ok v :=
  build_of_ok (Fields.resolve_eq_ok_iff.2 h)

end RecordShape

/-- What each shape of the catalogue makes of the slots that must be set and of any others. -/
structure BuildsAsDeclared (fresh : Nat → Uuid) : Prop where
  scalars : ∀ notNullString nullableString notNullLong nullableLong date value stringWithDefault
      defaultDate,
    (ScalarRecord.shape.toShape.build fresh ⟨(((((((((), some notNullString), nullableString),
      some notNullLong), nullableLong), some date), some value), stringWithDefault),
      defaultDate)⟩).result =
    .ok ⟨notNullString, nullableString.getD none, notNullLong, nullableLong.getD none, date, value,
      stringWithDefault.getD "withDefaultValue", defaultDate.getD Date.first⟩
  collections : ∀ strings nullableStrings longs nullableLongs hashed dates mapped tree nullableSet,
    (CollectionRecord.shape.toShape.build fresh ⟨((((((((((), some strings), some nullableStrings),
      some longs), some nullableLongs), some hashed), some dates), some mapped), some tree),
      nullableSet)⟩).result =
    .ok ⟨strings, nullableStrings, longs, nullableLongs, hashed, dates, mapped, tree,
      nullableSet.getD none⟩
  arrays : ∀ longs strings nullableStrings lists dates,
    (ArrayRecord.shape.toShape.build fresh ⟨((((((), some longs), some strings), nullableStrings),
      some lists), some dates)⟩).result =
    .ok ⟨longs, strings, nullableStrings.getD none, lists, dates⟩
  wrappers : ∀ typed optional,
    (WrapperRecord.shape.toShape.build fresh ⟨(((), some typed), optional)⟩).result =
    .ok ⟨typed, optional.getD none⟩
  derived : ∀ constructorString privateString,
    (DerivedRecord.shape.toShape.build fresh ⟨(((), some constructorString),
      some privateString)⟩).result =
    .ok ⟨constructorString, privateString⟩
  longNames : ∀ longName nullableString,
    (LongNameRecord.shape.toShape.build fresh ⟨(((), longName), nullableString)⟩).result =
    .ok ⟨longName.getD "myDefault", nullableString.getD none⟩
  literals : ∀ foo bar baz,
    (LiteralDefaults.shape.toShape.build fresh ⟨((((), foo), bar), baz)⟩).result =
    .ok ⟨foo.getD [',', ')', '\x7d', '"'], bar.getD "com.foo.Bar.baz(\"\", '\x7d')",
      baz.getD "A string containing // comment characters"⟩
  identifiers : ∀ id idText,
    (IdentifierDefaults.shape.toShape.build fresh ⟨(((), id), idText)⟩).result =
    .ok ⟨id.getD IdentifierDefaults.fixedId, idText.getD IdentifierDefaults.fixedId.text⟩
  chained : ∀ foo bar baz,
    (ChainedDefaults.shape.toShape.build fresh ⟨((((), some foo), bar), baz)⟩).result =
    .ok ⟨foo, bar.getD ("bar " ++ foo), baz.getD ("baz " ++ foo)⟩
  /-- The strings are made of the resolved `foo` and `bar`. -/
  functions : ∀ foo bar foo2 baz baz2 foo' bar', foo' = foo.getD "This is a default foo" →
    bar' = bar.getD "A default bar" →
    (FunctionDefaults.shape.toShape.build fresh ⟨((((((), foo), bar), foo2), baz), baz2)⟩).result =
    .ok ⟨foo', bar', foo2.getD (foo' ++ ", " ++ bar'),
      baz.getD ("A default baz " ++ foo' ++ " " ++ bar'), baz2.getD "defaultBaz2"⟩
  /-- Each field has an identifier of its own to draw. -/
  drawn : ∀ foo bar,
    (DrawnDefaults.shape.toShape.build fresh ⟨(((), foo), bar)⟩).result =
    .ok ⟨foo.getD (fresh 0).text, bar.getD (fresh 1)⟩
  personNames : ∀ forename surname otherName,
    (PersonName.shape.build fresh ⟨((((), some forename), surname), otherName)⟩).result =
    .ok ⟨forename ++ " " ++ surname.getD "Anon", otherName.getD none⟩
  /-- The label is made of the resolved currency. -/
  accounts : ∀ owner nickname currency label tags currency', currency' = currency.getD "EUR" →
    (Account.shape.toShape.build fresh ⟨((((((), some owner), nickname), currency), label),
      some tags)⟩).result =
    .ok ⟨owner, nickname.getD none, currency', label.getD (owner ++ " (" ++ currency' ++ ")"),
      tags⟩
  /-- The second coordinate is twice the first, where that is a 64-bit number. -/
  points : ∀ x y label (double : Int64), (y = none → double.toInt = 2 * x.toInt) →
    (Point.shape.toShape.build fresh ⟨((((), some x), y), label)⟩).result =
    .ok ⟨x, y.getD double, label.getD none⟩
  greetings : ∀ name punctuation punctuation', punctuation' = punctuation.getD '!' →
    (Greeting.shape.build fresh ⟨(((), some name), punctuation)⟩).result =
    .ok ⟨"Hello, " ++ name ++ punctuation'.toString, punctuation'⟩
  /-- The count is the number of points, and the caption is made of the resolved count. -/
  shelves : ∀ (points : List Point) count grid byKey records best title caption
      (number count' : Int64), (count = none → number.toInt = points.length) →
    count' = count.getD number →
    (Shelf.shape.toShape.build fresh ⟨(((((((((), some points), count), some grid), some byKey),
      some records), best), some title), caption)⟩).result =
    .ok ⟨points, count', grid, byKey, records, best.getD none, title,
      caption.getD (title ++ ": " ++ toString count')⟩
  nullables : ∀ flag initial words,
    (AllNullable.shape.toShape.build fresh ⟨((((), flag), initial), words)⟩).result =
    .ok ⟨flag.getD none, initial.getD none, words.getD none⟩

theorem eq_of_toInt_eq_double {n x : Int64} (h : n.toInt = 2 * x.toInt) : x * 2 = n := by
  rw [← Int64.ofInt_toInt n, h, Int.mul_comm, Int64.ofInt_mul, Int64.ofInt_toInt]
  rfl

theorem eq_of_toInt_eq_length {n : Int64} {m : Nat} (h : n.toInt = m) : Int64.ofNat m = n := by
  rw [← Int64.ofInt_toInt n, h]
  rfl

theorem or_some_eq_getD {α : Type} {x : Option α} {a b : α} (h : x = none → a = b) :
    x.or (some a) = some (x.getD b) := by
  cases x with
  | none => exact congrArg some (h rfl)
  | some _ => rfl

open RecordShape (build_of_filledTo) in
open Option (or_some) in
theorem buildsAsDeclared (fresh : Nat → Uuid) : BuildsAsDeclared fresh where
  -- Slot by slot, the first field innermost: what a slot must hold is the value (`rfl`), and what
  -- it may hold or else the default is (`or_some`).
  scalars _ _ _ _ _ _ _ _ := build_of_filledTo
    ⟨⟨⟨⟨⟨⟨⟨⟨trivial, rfl⟩, or_some⟩, rfl⟩, or_some⟩, rfl⟩, rfl⟩, or_some⟩, or_some⟩
  collections _ _ _ _ _ _ _ _ _ := build_of_filledTo
    ⟨⟨⟨⟨⟨⟨⟨⟨⟨trivial, rfl⟩, rfl⟩, rfl⟩, rfl⟩, rfl⟩, rfl⟩, rfl⟩, rfl⟩, or_some⟩
  arrays _ _ _ _ _ := build_of_filledTo ⟨⟨⟨⟨⟨trivial, rfl⟩, rfl⟩, or_some⟩, rfl⟩, rfl⟩
  wrappers _ _ := build_of_filledTo ⟨⟨trivial, rfl⟩, or_some⟩
  derived _ _ := build_of_filledTo ⟨⟨trivial, rfl⟩, rfl⟩
  longNames _ _ := build_of_filledTo ⟨⟨trivial, or_some⟩, or_some⟩
  literals _ _ _ := build_of_filledTo ⟨⟨⟨trivial, or_some⟩, or_some⟩, or_some⟩
  identifiers _ _ := build_of_filledTo ⟨⟨trivial, or_some⟩, or_some⟩
  chained _ _ _ := build_of_filledTo ⟨⟨⟨trivial, rfl⟩, or_some⟩, or_some⟩
  functions _ _ _ _ _ _ _ := by
    rintro rfl rfl
    exact build_of_filledTo ⟨⟨⟨⟨⟨trivial, or_some⟩, or_some⟩, or_some⟩, or_some⟩, or_some⟩
  drawn _ _ := build_of_filledTo ⟨⟨trivial, or_some⟩, or_some⟩
  personNames forename surname otherName :=
    Shape.build_of_filledTo (s := PersonName.shape)
      (r := ((((), forename), surname.getD "Anon"), otherName.getD none))
      ⟨⟨⟨trivial, rfl⟩, or_some⟩, or_some⟩
  accounts _ _ _ _ _ _ := by
    rintro rfl
    exact build_of_filledTo ⟨⟨⟨⟨⟨trivial, rfl⟩, or_some⟩, or_some⟩, or_some⟩, rfl⟩
  points _ _ _ _ hdouble := build_of_filledTo
    ⟨⟨⟨trivial, rfl⟩, or_some_eq_getD fun hy => eq_of_toInt_eq_double (hdouble hy)⟩, or_some⟩
  greetings name punctuation _ := by
    rintro rfl
    exact Shape.build_of_filledTo (s := Greeting.shape) (r := (((), name), punctuation.getD '!'))
      ⟨⟨trivial, rfl⟩, or_some⟩
  shelves _ _ _ _ _ _ _ _ _ _ hnumber := by
    rintro rfl
    have hcount := or_some_eq_getD fun hnone => eq_of_toInt_eq_length (hnumber hnone)
    exact build_of_filledTo
      ⟨⟨⟨⟨⟨⟨⟨⟨trivial, rfl⟩, hcount⟩, rfl⟩, rfl⟩, rfl⟩, or_some⟩, rfl⟩, or_some⟩
  nullables _ _ _ := build_of_filledTo ⟨⟨⟨trivial, or_some⟩, or_some⟩, or_some⟩

/-- A build refuses on the first field in the order of declaration that must be set and is not,
whatever the other slots hold. Otherwise it succeeds, and every field has the value of its slot, or
null, or its default on the resolved fields before it. -/
theorem build_resolves_in_order (fresh : Nat → Uuid) :
    (∀ (V : Type) (s : Shape V) (d : Draft s.toSchema),
      (∃ (α : Type) (p : Place s.types α), s.fields.LacksFirst d.slots p ∧
        (s.build fresh d).result = .error ⟨s.builder, (s.fields.spec p).name, .missing⟩) ∨
      ((∀ (α : Type) (p : Place s.types α), ¬s.fields.Lacks d.slots p) ∧
        ∃ r, (s.build fresh d).result = .ok (s.make r) ∧ s.fields.Resolves fresh d.slots r)) ∧
    BuildsAsDeclared fresh :=
  ⟨fun _ s d => s.build_error_or_ok fresh d, buildsAsDeclared fresh⟩

end StagedRecords
