import StagedRecords.Pattern.Set
import StagedRecords.Text.Alphanumeric

/-!
# Patterns

A pattern says which texts match it, by characters, sets, repetition, choice and groups. All that
counts here is whether it is well formed. A pattern is well formed if its parts are, its groups are
closed, no name is given twice, and it does not go too deep.
-/

namespace StagedRecords.Pattern

/-- One item of a sequence: how deep it goes, and whether it may be repeated. -/
structure Item where
  depth : Nat
  repeatable : Bool
deriving DecidableEq

/-- What has been read of a group: the items since the last bar, the last one first, and how deep
the choices before that bar go. -/
structure OpenGroup where
  /-- The flags that were in force before the group, and are again after it. -/
  before : Mode
  items : List Item
  choices : List Nat

/-- How deep what has been read goes. -/
def OpenGroup.depth (g : OpenGroup) : Nat :=
  depthOf (depthOf (g.items.map Item.depth) :: g.choices)

/-- Where a reader stands: the flags in force, the group it is in, those around that one, and the
names that have been given to groups. -/
structure State where
  mode : Mode
  group : OpenGroup
  outer : List OpenGroup
  names : List (List Char)

namespace State

/-- At the start of a pattern, which is read like a group. -/
def start : State := ⟨.standard, ⟨.standard, [], []⟩, [], []⟩

/-- After one more item. -/
def add (s : State) (i : Item) : State :=
  { s with group := { s.group with items := i :: s.group.items } }

/-- After an atom, if it may be used. -/
def atom? (s : State) (a : Atom) : Option State :=
  if a.isAllowed s.mode then some (s.add ⟨0, true⟩) else none

/-- After a sign of repetition. -/
def repeat? (s : State) : Option State :=
  match s.group.items with
  | ⟨depth, true⟩ :: items =>
    some { s with group := { s.group with items := ⟨depth + 1, true⟩ :: items } }
  | _ => none

/-- After a bar. -/
def choose (s : State) : State :=
  let choices := depthOf (s.group.items.map Item.depth) :: s.group.choices
  { s with group := { s.group with items := [], choices } }

/-- Inside a new group with these flags. -/
def enter (s : State) (m : Mode) : State :=
  { s with mode := m, group := ⟨s.mode, [], []⟩, outer := s.group :: s.outer }

/-- After the end of the group. -/
def leave? (s : State) : Option State :=
  match s.outer with
  | [] => none
  | g :: outer =>
    some (add { s with mode := s.group.before, group := g, outer } ⟨s.group.depth + 1, true⟩)

/-- Whether a pattern may end here. No pattern goes deeper than 250. -/
def isEnd (s : State) : Bool := s.outer.isEmpty && s.group.depth ≤ 250

end State

/-- Whether the characters are flags: each at most once, and a hyphen only before those it takes
away. -/
def areFlags (fs : List Char) : Bool :=
  fs.all (· ∈ ['-', 'i', 'm', 's', 'U', 'u', 'R', 'x']) && fs.Nodup && fs.getLast? != some '-'

/-- Whether a flag is in force after these: set before a hyphen, not after it, and else as it
was. -/
def flagAfter (fs : List Char) (c : Char) (now : Bool) : Bool :=
  if c ∈ fs.takeWhile (· != '-') then true else if c ∈ fs then false else now

/-- The flags in force after these. -/
def Mode.after (m : Mode) (fs : List Char) : Mode :=
  ⟨flagAfter fs 'i' m.caseless, flagAfter fs 'u' m.unicode, flagAfter fs 'x' m.spaced⟩

/-- Whether the characters may name a group. -/
def isName : List Char → Bool
  | [] => false
  | c :: cs =>
    (c = '_' || Text.isAlphabetic c) &&
      cs.all fun c => c = '_' || c = '.' || c = '[' || c = ']' || Text.isAlphanumeric c

/-- Takes the name of a group and enters it. -/
def nameGroup? (s : State) (cs : List Char) : Option (State × List Char) :=
  let name := cs.takeWhile (· != '>')
  match cs.drop name.length with
  | [] => none
  | _ :: rest =>
    if isName name && !s.names.contains name then
      some ({ s with names := name :: s.names }.enter s.mode, rest)
    else none

/-- Takes flags, which hold in the group that a colon opens, or from a parenthesis on. -/
def flagGroup? (s : State) (cs : List Char) : Option (State × List Char) :=
  let fs := cs.takeWhile fun c => c != ':' && c != ')'
  if !areFlags fs then none
  else match cs.drop fs.length with
    | [] => none
    | c :: rest =>
      if c = ':' then some (s.enter (s.mode.after fs), rest)
      else if fs.isEmpty then none
      else some ({ s with mode := s.mode.after fs }.add ⟨0, false⟩, rest)

/-- Takes what follows an opening parenthesis. -/
def group? (s : State) (cs : List Char) : Option (State × List Char) :=
  match s.mode.skip cs with
  | '?' :: 'P' :: '<' :: rest => nameGroup? s rest
  | '?' :: '<' :: rest => nameGroup? s rest
  | '?' :: rest => flagGroup? s rest
  | rest => some (s.enter s.mode, rest)

/-- Takes one character and what belongs to it. A brace counts repetitions up to a closing brace,
which no pattern here can hold. -/
def step? (s : State) (c : Char) (cs : List Char) : Option (State × List Char) :=
  match c with
  | '(' => group? s cs
  | ')' => s.leave?.map fun s => (s, cs)
  | '|' => some (s.choose, cs)
  | '[' => (set? s.mode cs).map fun (depth, rest) => (s.add ⟨depth, true⟩, rest)
  | '*' | '+' | '?' => s.repeat?.map fun s => (s, if cs.head? = some '?' then cs.tail else cs)
  | '\x7b' => none
  | '\\' => (escape? s.mode cs).bind fun (a, rest) => (s.atom? a).map fun s => (s, rest)
  | '.' => (s.atom? .any).map fun s => (s, cs)
  | '^' | '$' => (s.atom? .edge).map fun s => (s, cs)
  | c => (s.atom? (.char c)).map fun s => (s, cs)

/-- Reads what is left of a pattern in at most so many steps. -/
def accepts : Nat → State → List Char → Bool
  | 0, _, _ => false
  | steps + 1, s, cs =>
    match s.mode.skip cs with
    | [] => s.isEnd
    | c :: cs =>
      match step? s c cs with
      | some (s, rest) => accepts steps s rest
      | none => false

/-- Whether the text is a pattern. Every step takes a character. -/
def isWellFormed (cs : List Char) : Bool := accepts (cs.length + 1) .start cs

end StagedRecords.Pattern
