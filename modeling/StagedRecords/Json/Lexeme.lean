import StagedRecords.Json.Number
import StagedRecords.Text.Hexadecimal

/-!
# Lexemes of JSON text

A text is cut into lexemes. Text that starts no lexeme becomes one `malformed` lexeme, and nothing
after it is looked at; no value contains that lexeme.
-/

namespace StagedRecords.Json

/-- The space, tab, line feed and carriage return, the only blanks of the format. -/
def isBlank (c : Char) : Bool := c = ' ' || c = '\t' || c = '\n' || c = '\r'

/-- Where a reader stands inside a string literal. -/
inductive Escape
  /-- Between characters. -/
  | none
  /-- After a backslash. -/
  | start
  /-- Inside `\u`, with so many digits to come; `high` is a high surrogate that came before. -/
  | unit (left : Nat) (unit : Nat) (high : Option Nat)
  /-- After a high surrogate, which must be followed by an escaped low one. -/
  | pair (high : Nat)
  /-- After a high surrogate and a backslash. -/
  | pairStart (high : Nat)

namespace Escape

/-- What a complete `\u` unit gives: a character, or the first half of a pair. A low surrogate
stands only after a high one, and a high one only before a low one. -/
def ofUnit (u : Nat) : Option Nat → Option (Escape × Option Char)
  | .none =>
    if 0xD800 ≤ u ∧ u < 0xDC00 then some (.pair u, .none)
    else if 0xDC00 ≤ u ∧ u < 0xE000 then .none
    else some (.none, some (Char.ofNat u))
  | some high =>
    if 0xDC00 ≤ u ∧ u < 0xE000 then
      some (.none, some (Char.ofNat (0x10000 + (high - 0xD800) * 0x400 + (u - 0xDC00))))
    else .none

/-- What the letter after a backslash stands for. -/
def named? : Char → Option Char
  | '"' => some '"'
  | '\\' => some '\\'
  | '/' => some '/'
  | 'b' => some '\x08'
  | 'f' => some '\x0c'
  | 'n' => some '\n'
  | 'r' => some '\r'
  | 't' => some '\t'
  | _ => .none

/-- Takes one character of a literal other than the closing quote. -/
def step : Escape → Char → Option (Escape × Option Char)
  | .none, c =>
    if c = '\\' then some (.start, .none)
    else if c.toNat < 0x20 then .none
    else some (.none, some c)
  | .start, c =>
    if c = 'u' then some (.unit 3 0 .none, .none)
    else (named? c).map fun d => (.none, some d)
  | .unit left u high, c =>
    match Text.hexValue? c with
    | .none => .none
    | some d =>
      match left with
      | 0 => ofUnit (16 * u + d) high
      | left + 1 => some (.unit left (16 * u + d) high, .none)
  | .pair high, c => if c = '\\' then some (.pairStart high, .none) else .none
  | .pairStart high, c => if c = 'u' then some (.unit 3 0 (some high), .none) else .none

end Escape

/-- Whether the character closes the literal, which an unescaped quote does. -/
def Escape.closes : Escape → Char → Bool
  | .none, c => c = '"'
  | _, _ => false

/-- The content of a string literal up to its closing quote, and the text after the quote. -/
def literal (e : Escape) : List Char → Option (List Char × List Char)
  | [] => none
  | c :: cs =>
    if e.closes c then some ([], cs)
    else match e.step c with
      | none => none
      | some (e', out) => (literal e' cs).map fun r => (out.toList ++ r.1, r.2)

/-- A lexeme of JSON text. -/
inductive Lexeme
  | beginArray
  | endArray
  | beginObject
  | endObject
  | colon
  | comma
  | text (s : String)
  /-- A number, `true`, `false` or `null`. -/
  | plain (j : Json)
  | malformed

namespace Lexeme

/-- The lexeme that starts with `c`, and the text after it. -/
def scan (c : Char) (cs : List Char) : Lexeme × List Char :=
  match c, cs with
  | '[', cs => (.beginArray, cs)
  | ']', cs => (.endArray, cs)
  | '\x7b', cs => (.beginObject, cs)
  | '\x7d', cs => (.endObject, cs)
  | ':', cs => (.colon, cs)
  | ',', cs => (.comma, cs)
  | '"', cs =>
    match literal .none cs with
    | some (content, rest) => (.text (String.ofList content), rest)
    | none => (.malformed, [])
  | 'n', 'u' :: 'l' :: 'l' :: cs => (.plain .null, cs)
  | 't', 'r' :: 'u' :: 'e' :: cs => (.plain (.bool true), cs)
  | 'f', 'a' :: 'l' :: 's' :: 'e' :: cs => (.plain (.bool false), cs)
  | c, cs =>
    match Numeral.read (c :: cs) with
    | some (n, rest) =>
      match n.value with
      | some j => (.plain j, rest)
      | none => (.malformed, [])
    | none => (.malformed, [])

/-- The first lexeme after blanks, and the text after it. -/
def first? (cs : List Char) : Option (Lexeme × List Char) :=
  match cs.dropWhile isBlank with
  | [] => none
  | c :: cs => some (scan c cs)

end Lexeme

theorem literal_length {e : Escape} {cs content rest : List Char}
    (h : literal e cs = some (content, rest)) : rest.length < cs.length := by
  induction cs generalizing e content rest with
  | nil => simp [literal] at h
  | cons c cs ih =>
    unfold literal at h
    split at h
    · obtain ⟨-, rfl⟩ := Prod.mk.inj (Option.some.inj h)
      simp
    · split at h
      · cases h
      · obtain ⟨⟨content', rest'⟩, hl, he⟩ := Option.map_eq_some_iff.1 h
        obtain ⟨-, rfl⟩ := Prod.mk.inj he
        exact Nat.lt_succ_of_lt (ih hl)

namespace Lexeme

theorem scan_length (c : Char) (cs : List Char) : (scan c cs).2.length < (c :: cs).length := by
  unfold scan
  split <;> try (simp only [List.length_cons]; omega)
  · split
    · next h => exact Nat.lt_succ_of_lt (literal_length h)
    · simp
  · split
    · next h =>
      split
      · exact Numeral.read_length h
      · simp
    · simp

theorem first?_length {cs rest : List Char} {l : Lexeme} (h : first? cs = some (l, rest)) :
    rest.length < cs.length := by
  unfold first? at h
  split at h
  · cases h
  · next c r he =>
    have hs := scan_length c r
    rw [Option.some.inj h, ← he] at hs
    exact Nat.lt_of_lt_of_le hs (List.dropWhile_sublist _).length_le

/-- The lexemes of a text in order. -/
def all (cs : List Char) : List Lexeme :=
  match _h : first? cs with
  | none => []
  | some (l, rest) => l :: all rest
termination_by cs.length
decreasing_by exact first?_length _h

end Lexeme

end StagedRecords.Json
