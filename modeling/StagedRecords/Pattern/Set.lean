import StagedRecords.Pattern.Atom

/-!
# Sets of characters in patterns

A set stands in brackets. It has members, ranges, named classes and other sets, and operators
between them. The sets around the one that is read are kept in a list, with what has been read of
each.
-/

namespace StagedRecords.Pattern

/-- How deep a sequence of parts goes: one of several parts goes one deeper than it does alone. -/
def depthOf : List Nat → Nat
  | [] => 0
  | [d] => d
  | ds => ds.foldl max 0 + 1

/-- What has been read of a set. -/
structure OpenSet where
  negated : Bool
  /-- Whether only hyphens have been read, which are members there. -/
  atFront : Bool
  /-- How deep the parts go that have been read since the last operator. -/
  parts : List Nat
  /-- How deep the set goes up to the last operator, if there is one. -/
  left : Option Nat
deriving DecidableEq

namespace OpenSet

/-- How deep the set goes, without its brackets. -/
def depth (s : OpenSet) : Nat :=
  match s.left with
  | none => depthOf s.parts
  | some d => max d (depthOf s.parts) + 1

/-- The set with one more part. -/
def add (s : OpenSet) (depth : Nat) : OpenSet :=
  { s with atFront := false, parts := depth :: s.parts }

/-- The set after an operator. -/
def operate (s : OpenSet) : OpenSet := ⟨s.negated, false, [], some s.depth⟩

end OpenSet

/-- Takes what follows the bracket that opens a set: a caret if it is negated. -/
def openSet (m : Mode) (cs : List Char) : OpenSet × List Char :=
  match m.skip cs with
  | '^' :: rest => (⟨true, true, [], none⟩, rest)
  | rest => (⟨false, true, [], none⟩, rest)

/-- The names of the classes of ASCII characters. -/
def classNames : List String :=
  ["alnum", "alpha", "ascii", "blank", "cntrl", "digit", "graph", "lower", "print", "punct",
   "space", "upper", "word", "xdigit"]

/-- Takes a class that is named between colons, after its bracket. Says whether it is negated. -/
def namedClass? : List Char → Option (Bool × List Char)
  | ':' :: cs =>
    let (negated, cs) := match cs with
      | '^' :: cs => (true, cs)
      | cs => (false, cs)
    let name := cs.takeWhile (· != ':')
    match cs.drop name.length with
    | ':' :: ']' :: rest =>
      if String.ofList name ∈ classNames then some (negated, rest) else none
    | _ => none
  | _ => none

/-- Takes one atom of a set, which is an escape or a character. -/
def setAtom? (m : Mode) : List Char → Option (Atom × List Char)
  | [] => none
  | c :: cs => if c = '\\' then escape? m cs else some (.char c, cs)

/-- The first character after those that are skipped for a look ahead, where a hash is skipped but
not the comment after it. -/
def ahead? : Bool → List Char → Option Char
  | _, [] => none
  | hashed, c :: cs =>
    if Text.isBlank c then ahead? hashed cs
    else if c = '#' ∧ hashed = false then ahead? true cs
    else some c

/-- The character that a look ahead finds after a hyphen. -/
def Mode.peek (m : Mode) (cs : List Char) : Option Char :=
  if m.spaced then (ahead? false cs).or cs.head? else cs.head?

/-- Takes a member or a range. A hyphen before the end of the set or before another hyphen makes no
range. -/
def member? (m : Mode) (cs : List Char) : Option (List Char) :=
  (setAtom? m cs).bind fun (a, rest) =>
    match m.skip rest with
    | '-' :: more =>
      if m.peek more = some ']' ∨ m.peek more = some '-' then
        if a.isMember m then some ('-' :: more) else none
      else (setAtom? m (m.skip more)).bind fun (b, rest) =>
        match a.char?, b.char? with
        | some first, some last =>
          if first ≤ last && a.isMember m && b.isMember m then some rest else none
        | _, _ => none
    | rest => if a.isMember m then some rest else none

/-- What a step in a set comes to. -/
inductive SetStep
  /-- There is more to read of a set with others around it. -/
  | more (s : OpenSet) (outer : List OpenSet) (rest : List Char)
  /-- The outermost set has ended. -/
  | done (depth : Nat) (rest : List Char)

/-- Closes a set. A negated one has characters outside ASCII. -/
def closeSet? (m : Mode) (s : OpenSet) (rest : List Char) : List OpenSet → Option SetStep
  | outer =>
    if s.negated && !m.unicode then none
    else match outer with
      | [] => some (.done (s.depth + 1) rest)
      | o :: outer => some (.more (o.add (s.depth + 1)) outer rest)

/-- Takes one step in a set. -/
def setStep? (m : Mode) (s : OpenSet) (outer : List OpenSet) (cs : List Char) : Option SetStep :=
  match m.skip cs with
  | [] => none
  | '[' :: cs =>
    match namedClass? cs with
    | some (negated, rest) =>
      if (if m.unicode then !m.caseless else !negated) then some (.more (s.add 0) outer rest)
      else none
    | none =>
      let (inner, rest) := openSet m cs
      some (.more inner ({ s with atFront := false } :: outer) rest)
  | c :: cs =>
    if s.atFront ∧ c = '-' then
      if (Atom.char '-').isMember m then some (.more { s.add 0 with atFront := true } outer cs)
      else none
    else if c = ']' ∧ (s.atFront = false ∨ s.parts ≠ []) then closeSet? m s cs outer
    else if c = ']' then
      if (Atom.char ']').isMember m then some (.more (s.add 0) outer cs) else none
    else if (c = '&' ∨ c = '-' ∨ c = '~') ∧ cs.head? = some c then
      some (.more s.operate outer cs.tail)
    else (member? m (c :: cs)).map fun rest => .more (s.add 0) outer rest

/-- Takes a set after its first bracket, in at most so many steps, and says how deep it goes. -/
def readSet? (m : Mode) : Nat → OpenSet → List OpenSet → List Char → Option (Nat × List Char)
  | 0, _, _, _ => none
  | steps + 1, s, outer, cs =>
    match setStep? m s outer cs with
    | none => none
    | some (.done depth rest) => some (depth, rest)
    | some (.more s outer rest) => readSet? m steps s outer rest

/-- Takes a set after its first bracket, and says how deep it goes. Every step takes a character. -/
def set? (m : Mode) (cs : List Char) : Option (Nat × List Char) :=
  let (s, rest) := openSet m cs
  readSet? m (cs.length + 1) s [] rest

end StagedRecords.Pattern
