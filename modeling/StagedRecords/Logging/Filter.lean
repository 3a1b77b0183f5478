import StagedRecords.Pattern
import StagedRecords.Text.Blank
import StagedRecords.Text.Split

/-!
# Log filters

A filter is a list of directives. Of the directives about the target and the fields of an event the
most specific one decides from which level on the event passes.
-/

namespace StagedRecords.Logging

/-- The levels of events, and the level that no event has. -/
inductive Level
  | off
  | error
  | warn
  | info
  | debug
  | trace
deriving DecidableEq

namespace Level

/-- How much a level lets through. -/
def rank : Level → Nat
  | .off => 0
  | .error => 1
  | .warn => 2
  | .info => 3
  | .debug => 4
  | .trace => 5

/-- The name of the level. -/
def name : Level → String
  | .off => "OFF"
  | .error => "ERROR"
  | .warn => "WARN"
  | .info => "INFO"
  | .debug => "DEBUG"
  | .trace => "TRACE"

/-- All levels. -/
def all : List Level := [.off, .error, .warn, .info, .debug, .trace]

/-- The level that a name in letters of either case, or a number from 0 to 5, stands for. -/
def ofText? (cs : List Char) : Option Level :=
  let digits := match cs with
    | '+' :: ds => ds
    | ds => ds
  if !digits.isEmpty && digits.all Char.isDigit then
    all[Nat.ofDigitChars 10 digits 0]?
  else all.find? fun l => cs.map Char.toUpper = l.name.toList

end Level

/-- A field that an event must have, and whether a value is asked of it. -/
structure FieldTest where
  name : List Char
  valued : Bool
deriving DecidableEq

namespace FieldTest

/-- Whether the text is empty or an exponent. -/
def isExponent : List Char → Bool
  | [] => true
  | e :: cs =>
    let digits := match cs with
      | '+' :: ds | '-' :: ds => ds
      | ds => ds
    (e = 'e' || e = 'E') && !digits.isEmpty && digits.all Char.isDigit

/-- Whether the text is a decimal number, an infinity or no number, with a sign or without. -/
def isNumber (cs : List Char) : Bool :=
  let cs := match cs with
    | '+' :: cs | '-' :: cs => cs
    | cs => cs
  let whole := cs.takeWhile Char.isDigit
  let fraction := match cs.drop whole.length with
    | '.' :: cs => cs.takeWhile Char.isDigit
    | _ => []
  let rest := match cs.drop whole.length with
    | '.' :: cs => cs.drop fraction.length
    | cs => cs
  String.ofList (cs.map Char.toLower) ∈ ["inf", "infinity", "nan"] ||
    !(whole ++ fraction).isEmpty && isExponent rest

/-- Reads a test: the name of a field, and after an equals sign a number or a pattern. What follows
a second equals sign does not count. -/
def ofText? (cs : List Char) : Option FieldTest :=
  match Text.split '=' cs with
  | [] | [[]] => none
  | [name] => some ⟨name, false⟩
  | name :: value :: _ =>
    if isNumber value || Pattern.isWellFormed value then some ⟨name, true⟩ else none

end FieldTest

/-- One directive: from which level on something passes. -/
structure Directive where
  /-- How the target begins; all targets without one. -/
  target : Option (List Char)
  /-- The span in which it must happen. -/
  span : Option (List Char)
  /-- The field it must have. -/
  field : Option FieldTest
  level : Level
deriving DecidableEq

namespace Directive

/-- Whether a directive may start with the character. -/
def mayStart (c : Char) : Bool := c = '-' || c = ':' || c = '_' || Text.isAlphanumeric c

/-- The level after an equals sign. Without one every level passes. -/
def levelAfter? (cs : List Char) : Option Level :=
  if cs.isEmpty then some .trace else Level.ofText? cs

/-- The part of the text between two positions. -/
def cut (cs : List Char) (start stop : Nat) : List Char := (cs.take stop).drop start

/-- Reads what follows the brackets, from `start` on: nothing, or an equals sign and a level. -/
def ending? (cs : List Char) (d : Directive) (start : Nat) : List Char → Option Directive
  | [] => some d
  | '=' :: _ => (levelAfter? (cs.drop (start + 1))).map fun level => { d with level }
  | _ => none

/-- Reads what the opening bracket begins, from `start` on: the name of a span, and in braces the
test of a field. No name before the braces means no span. -/
def brackets? (cs : List Char) (target : Option (List Char)) (start : Nat) (inside : List Char) :
    Option Directive :=
  let name := inside.takeWhile fun c => c != ']' && c != '\x7b'
  let stop := start + name.length
  match inside.drop name.length with
  | ']' :: after => ending? cs ⟨target, some (cut cs start stop), none, .trace⟩ (stop + 1) after
  | '\x7b' :: rest =>
    let test := rest.takeWhile (· != '\x7d')
    match rest.drop test.length with
    | '\x7d' :: ']' :: after =>
      let span := if name.isEmpty then none else some (cut cs start stop)
      let testStop := stop + 1 + test.length
      (FieldTest.ofText? (cut cs (stop + 1) testStop)).bind fun field =>
        ending? cs ⟨target, span, some field, .trace⟩ (testStop + 2) after
    | _ => none
  | _ => none

/-- Reads a directive: a level alone, or a target, brackets and a level, not all of which must be
there. The positions of its parts are those in the text without the white space around it, but the
parts are cut from the whole text. -/
def ofText? (cs : List Char) : Option Directive :=
  match Text.trim cs with
  | [] => none
  | '[' :: inside => brackets? cs none 1 inside
  | c :: rest =>
    if !mayStart c then none
    else
      let size := ((c :: rest).takeWhile fun c => c != '=' && c != '[').length
      match (c :: rest).drop size with
      | [] =>
        match Level.ofText? cs with
        | some level => some ⟨none, none, none, level⟩
        | none => some ⟨some cs, none, none, .trace⟩
      | '[' :: inside => brackets? cs (some (cs.take size)) (size + 1) inside
      | _ =>
        (levelAfter? (cs.drop (size + 1))).map fun level =>
          ⟨some (cs.take size), none, none, level⟩

/-- The name of the field it asks for. -/
def fieldName? (d : Directive) : Option (List Char) := d.field.map FieldTest.name

/-- Whether the directive is about an event with this target and these fields. A directive that
names a span or asks for a value is about spans alone. -/
def covers (d : Directive) (target : String) (fields : List String) : Bool :=
  d.span.isNone && (d.target.getD []).isPrefixOf target.toList &&
    match d.field with
    | none => true
    | some test => !test.valued && fields.contains (String.ofList test.name)

/-- How specific `d` is next to `e`. A longer target is more specific and no target the least, and
after that a field is more specific than none; two fields go by the order of their names. -/
def compareReach (d e : Directive) : Ordering :=
  compareLex (compareOn fun d : Directive => d.target.map List.length)
    (compareOn Directive.fieldName?) d e

end Directive

/-- The directives in force. -/
structure Filter where
  directives : List Directive
deriving DecidableEq

namespace Filter

/-- Reads a filter, which has its directives between commas; nothing if one is malformed. Without
any directive only errors pass. -/
def ofText? (s : String) : Option Filter := do
  let ds ← ((Text.split ',' s.toList).filter (!·.isEmpty)).mapM Directive.ofText?
  some ⟨if ds.isEmpty then [⟨none, none, none, .error⟩] else ds⟩

/-- What stands in for a malformed filter. -/
def standard : Filter := ⟨[⟨none, none, none, .info⟩]⟩

/-- The directive that decides about events with this target and these fields: the most specific
one, and of several the last. -/
def decisive? (f : Filter) (target : String) (fields : List String) : Option Directive :=
  (f.directives.filter (·.covers target fields)).foldl
    (fun best d => match best with
      | none => some d
      | some e => some (if (d.compareReach e).isGE then d else e)) none

/-- Whether an event of this target, fields and level passes. -/
def passes (f : Filter) (target : String) (fields : List String) (level : Level) : Bool :=
  match f.decisive? target fields with
  | none => false
  | some d => level.rank ≤ d.level.rank

end Filter

end StagedRecords.Logging
