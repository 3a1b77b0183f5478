import StagedRecords.Json.Reader
import StagedRecords.Proofs.Lexemes
import StagedRecords.Proofs.Normal

/-!
# Reading printed text

The text of a value reads back as the value in key order (`parse_text`), if the value `Fits`. The
induction is on the value, and what it carries is what the reader does from any stack of open
containers: it goes on as if the value had been handed to the innermost of them (`ReadsAs`).

What is outermost stays so to the end (`advance_root`), so a text that starts an array gives an
array, and one that starts an object gives an object in key order.
-/

namespace StagedRecords.Json

/-- Reads on from where a lexeme has left the reader. -/
def goOn (depth : Nat) : Progress → List Lexeme → Option (Json × List Lexeme)
  | .done j, ls => some (j, ls)
  | .more a frames, ls => run depth a frames ls

section Read

variable {depth : Nat} {frames : List Frame} {rest : List Char}

theorem run_cons (a : Awaiting) (l : Lexeme) (ls : List Lexeme) :
    run depth a frames (l :: ls) = (advance depth frames a l).bind (goOn depth · ls) := by
  rw [run]
  rcases advance depth frames a l with _ | _ | _ <;> rfl

/-- The text starts with the value `j` wherever a value may stand, and goes on with `rest`. -/
def ReadsAs (depth : Nat) (frames : List Frame) (cs : List Char) (j : Json)
    (rest : List Char) : Prop :=
  ∃ l ls, Lexeme.all cs = l :: ls ∧ l ≠ .endArray ∧
    (begin depth frames l).bind (goOn depth · ls) =
      goOn depth (complete j frames) (Lexeme.all rest)

theorem ReadsAs.run_value {cs : List Char} {j : Json} (h : ReadsAs depth frames cs j rest) :
    run depth .value frames (Lexeme.all cs) = goOn depth (complete j frames) (Lexeme.all rest) := by
  obtain ⟨l, ls, hall, -, hbegin⟩ := h
  rw [hall, run_cons, ← hbegin, advance]

theorem ReadsAs.run_firstElement {cs : List Char} {j : Json}
    (h : ReadsAs depth (.element [] :: frames) cs j rest) :
    run depth .firstElement frames (Lexeme.all cs) =
      goOn depth (complete j (.element [] :: frames)) (Lexeme.all rest) := by
  obtain ⟨l, ls, hall, hne, hbegin⟩ := h
  rw [hall, run_cons, ← hbegin]
  cases l with
  | endArray => exact absurd rfl hne
  | _ => rfl

theorem ends_moreElements (js : List Json) : Ends (moreElements js ++ rest) := by
  cases js with
  | nil => exact ends_cons (.inr (.inl rfl))
  | cons j js => exact ends_cons (.inl rfl)

theorem ends_moreMembers (ms : List (String × Json)) : Ends (moreMembers ms ++ rest) := by
  cases ms with
  | nil => exact ends_cons (.inr (.inr rfl))
  | cons m ms => exact ends_cons (.inl rfl)

theorem readsAs_plain {cs : List Char} {j : Json}
    (h : Lexeme.all cs = .plain j :: Lexeme.all rest) : ReadsAs depth frames cs j rest :=
  ⟨_, _, h, by simp, rfl⟩

mutual

/-- A printed value starts its text wherever a value may stand. -/
theorem readsAs_chars : ∀ (j : Json) {n : Nat} (frames : List Frame) (rest : List Char),
    Fits n j → frames.length + n ≤ depth → Ends rest →
      ReadsAs depth frames (j.chars ++ rest) j.normal rest
  | .null, _, _, rest, _, _, _ => by
    exact readsAs_plain (Lexeme.all_cons ('u' :: 'l' :: 'l' :: rest) (c := 'n') rfl)
  | .bool true, _, _, rest, _, _, _ => by
    exact readsAs_plain (Lexeme.all_cons ('r' :: 'u' :: 'e' :: rest) (c := 't') rfl)
  | .bool false, _, _, rest, _, _, _ => by
    exact readsAs_plain (Lexeme.all_cons ('a' :: 'l' :: 's' :: 'e' :: rest) (c := 'f') rfl)
  | .int i, n, _, _, h, _, he => by
    have hfit : Int64.minValue.toInt ≤ i ∧ i < UInt64.size := by cases n <;> exact h
    exact readsAs_plain (Lexeme.all_wholeText hfit.1 hfit.2 he)
  | .float _, n, _, _, h, _, _ => by
    cases n <;> exact h.elim
  | .string s, _, _, rest, _, _, _ => ⟨_, _, Lexeme.all_quote s rest, by simp, rfl⟩
  | .array [], n, frames, rest, h, hd, _ => by
    obtain _ | n := n
    · exact h.elim
    have hopen : frames.length < depth := by omega
    refine ⟨_, _, Lexeme.all_cons (']' :: rest) (c := '[') rfl, by simp [Lexeme.scan], ?_⟩
    show (begin depth frames .beginArray).bind (goOn depth · (Lexeme.all (']' :: rest))) = _
    rw [Lexeme.all_cons rest rfl, begin, if_pos hopen]
    show run depth .firstElement frames (.endArray :: Lexeme.all rest) = _
    rw [run_cons]
    rfl
  | .array (j :: js), n, frames, rest, h, hd, _ => by
    obtain _ | n := n
    · exact h.elim
    have hopen : frames.length < depth := by omega
    have hfirst := readsAs_chars j (.element [] :: frames) (moreElements js ++ rest) h.1
      (by rw [List.length_cons]; omega) (ends_moreElements js)
    have hmore := run_moreElements js [j.normal] h.2 frames rest (by omega)
    refine ⟨_, _, Lexeme.all_cons (j.chars ++ moreElements js ++ rest) (c := '[') rfl,
      by simp [Lexeme.scan], ?_⟩
    show (begin depth frames .beginArray).bind
      (goOn depth · (Lexeme.all (j.chars ++ moreElements js ++ rest))) = _
    rw [begin, if_pos hopen, List.append_assoc, Option.bind_some, goOn, hfirst.run_firstElement]
    exact hmore
  | .object [], n, frames, rest, h, hd, _ => by
    obtain _ | n := n
    · exact h.elim
    have hopen : frames.length < depth := by omega
    refine ⟨_, _, Lexeme.all_cons ('\x7d' :: rest) (c := '\x7b') rfl, by simp [Lexeme.scan], ?_⟩
    show (begin depth frames .beginObject).bind (goOn depth · (Lexeme.all ('\x7d' :: rest))) = _
    rw [Lexeme.all_cons rest rfl, begin, if_pos hopen]
    show run depth .firstKey frames (.endObject :: Lexeme.all rest) = _
    rw [run_cons]
    rfl
  | .object ((k, j) :: ms), n, frames, rest, h, hd, _ => by
    obtain _ | n := n
    · exact h.elim
    have hopen : frames.length < depth := by omega
    have hvalue := readsAs_chars j (.member [] k :: frames) (moreMembers ms ++ rest) h.1
      (by rw [List.length_cons]; omega) (ends_moreMembers ms)
    have hmore := run_moreMembers ms [(k, j.normal)] h.2 frames rest (by omega)
    refine ⟨_, _, Lexeme.all_cons (quote k ++ ':' :: (j.chars ++ moreMembers ms) ++ rest)
      (c := '\x7b') rfl, by simp [Lexeme.scan], ?_⟩
    show (begin depth frames .beginObject).bind
      (goOn depth · (Lexeme.all (quote k ++ ':' :: (j.chars ++ moreMembers ms) ++ rest))) = _
    rw [begin, if_pos hopen, Option.bind_some, goOn, List.append_assoc, List.cons_append,
      List.append_assoc, Lexeme.all_quote, run_cons, Lexeme.all_cons _ (c := ':') rfl]
    show run depth (.colon [] k) frames
      (.colon :: Lexeme.all (j.chars ++ (moreMembers ms ++ rest))) = _
    rw [run_cons]
    show run depth .value (.member [] k :: frames) _ = _
    rw [hvalue.run_value]
    exact hmore

/-- The elements after the first are added to those before, and end the array. -/
theorem run_moreElements : ∀ (js before : List Json) {n : Nat}, ElementsFit n js →
    ∀ (frames : List Frame) (rest : List Char), frames.length + n + 1 ≤ depth →
      run depth (.afterElement before) frames (Lexeme.all (moreElements js ++ rest)) =
        goOn depth (complete (.array (before.reverse ++ normalElements js)) frames)
          (Lexeme.all rest)
  | [], before, _, _, frames, rest, _ => by
    rw [moreElements, List.cons_append, Lexeme.all_cons _ rfl, run_cons, normalElements,
      List.append_nil]
    rfl
  | j :: js, before, n, h, frames, rest, hd => by
    have hvalue := readsAs_chars j (.element before :: frames) (moreElements js ++ rest) h.1
      (by rw [List.length_cons]; omega) (ends_moreElements js)
    have hmore := run_moreElements js (j.normal :: before) h.2 frames rest hd
    rw [moreElements, List.cons_append, List.append_assoc, Lexeme.all_cons _ rfl, run_cons]
    show run depth .value (.element before :: frames)
      (Lexeme.all (j.chars ++ (moreElements js ++ rest))) = _
    rw [hvalue.run_value]
    show run depth (.afterElement (j.normal :: before)) frames _ = _
    rw [hmore, List.reverse_cons, List.append_assoc]
    rfl

/-- The members after the first are added to those before, and end the object. -/
theorem run_moreMembers : ∀ (ms before : List (String × Json)) {n : Nat}, MembersFit n ms →
    ∀ (frames : List Frame) (rest : List Char), frames.length + n + 1 ≤ depth →
      run depth (.afterMember before) frames (Lexeme.all (moreMembers ms ++ rest)) =
        goOn depth (complete (ofMembers (before.reverse ++ normalMembers ms)) frames)
          (Lexeme.all rest)
  | [], before, _, _, frames, rest, _ => by
    rw [moreMembers, List.cons_append, Lexeme.all_cons _ rfl, run_cons, normalMembers,
      List.append_nil]
    rfl
  | (k, j) :: ms, before, n, h, frames, rest, hd => by
    have hvalue := readsAs_chars j (.member before k :: frames) (moreMembers ms ++ rest) h.1
      (by rw [List.length_cons]; omega) (ends_moreMembers ms)
    have hmore := run_moreMembers ms ((k, j.normal) :: before) h.2 frames rest hd
    rw [moreMembers, List.cons_append, List.append_assoc, List.cons_append, List.append_assoc,
      Lexeme.all_cons _ rfl, run_cons]
    show run depth (.key before) frames
      (Lexeme.all (quote k ++ ':' :: (j.chars ++ (moreMembers ms ++ rest)))) = _
    rw [Lexeme.all_quote, run_cons, Lexeme.all_cons _ (c := ':') rfl]
    show run depth (.colon before k) frames
      (.colon :: Lexeme.all (j.chars ++ (moreMembers ms ++ rest))) = _
    rw [run_cons]
    show run depth .value (.member before k :: frames) _ = _
    rw [hvalue.run_value]
    show run depth (.afterMember ((k, j.normal) :: before)) frames _ = _
    rw [hmore, List.reverse_cons, List.append_assoc]
    rfl

end

end Read

/-- A printed value reads back in key order from the front of a text. -/
theorem read_chars {depth : Nat} {j : Json} {rest : List Char} (h : Fits depth j)
    (he : Ends rest) :
    read depth (Lexeme.all (j.chars ++ rest)) = some (j.normal, Lexeme.all rest) := by
  have hread : ReadsAs depth [] (j.chars ++ rest) j.normal rest :=
    readsAs_chars j [] rest h (by simp) he
  rw [read, hread.run_value]
  rfl

/-- The text of a value reads back as the value in key order. -/
theorem parse_text {j : Json} (h : Fits maxDepth j) : parse j.text = some j.normal := by
  have hread := read_chars h ends_nil
  rw [List.append_nil, Lexeme.all_nil] at hread
  rw [parse, parseWithin, text, String.toList_ofList, hread]

/-! ## What is outermost -/

/-- The kind of the outermost container that is open. -/
inductive Root
  | none
  | array
  | object

/-- The kind of the container that a frame waits in. -/
def Frame.root : Frame → Root
  | .element _ => .array
  | .member _ _ => .object

/-- The kind of the container that the reader itself is in. -/
def Awaiting.root : Awaiting → Root
  | .value => .none
  | .firstElement | .afterElement _ => .array
  | .firstKey | .key _ | .colon _ _ | .afterMember _ => .object

/-- The root of all that is open. -/
def root (a : Awaiting) (frames : List Frame) : Root :=
  (frames.getLast?.map Frame.root).getD a.root

/-- What has become of a container at the root: it is complete, or it is still the root. -/
def Root.Stays : Root → Progress → Prop
  | r, .more a frames => root a frames = r
  | .none, .done _ => False
  | .array, .done j => ∃ js, j = .array js
  | .object, .done j => ∃ ms, j = ofMembers ms

section Root

variable {r : Root} {depth : Nat} {frames : List Frame} {a : Awaiting} {l : Lexeme} {p : Progress}

theorem root_cons (f : Frame) (frames : List Frame) :
    root a (f :: frames) = (frames.getLast?.map Frame.root).getD f.root := by
  rw [root, List.getLast?_cons]
  rcases frames.getLast? with _ | g <;> rfl

theorem root_complete (j : Json) (f : Frame) (frames : List Frame) :
    (root a (f :: frames)).Stays (complete j (f :: frames)) := by
  rw [root_cons]
  cases f <;> rfl

theorem stays_complete {j : Json} (hj : a.root.Stays (.done j)) :
    (root a frames).Stays (complete j frames) := by
  cases frames with
  | nil => exact hj
  | cons f frames => exact root_complete j f frames

theorem stays_begin (f : Frame) (h : begin depth (f :: frames) l = some p) :
    (root a (f :: frames)).Stays p := by
  have hany : ∀ a', root a' (f :: frames) = root a (f :: frames) := by
    intro a'
    rw [root_cons, root_cons]
  unfold begin at h
  split at h
  · cases h
    exact root_complete _ f frames
  · cases h
    exact root_complete _ f frames
  · split at h <;> cases h
    exact hany _
  · split at h <;> cases h
    exact hany _
  · cases h

theorem advance_root (hr : root a frames = r) (hopen : r ≠ .none)
    (h : advance depth frames a l = some p) : r.Stays p := by
  subst hr
  unfold advance at h
  split at h
  · cases frames with
    | nil => exact absurd rfl hopen
    | cons f frames => exact stays_begin f h
  · cases h
    exact stays_complete ⟨_, rfl⟩
  · have hstays := stays_begin (a := .firstElement) _ h
    rwa [root_cons] at hstays
  · cases h
    exact root_cons _ _
  · cases h
    exact stays_complete ⟨_, rfl⟩
  · cases h
    exact stays_complete ⟨_, rfl⟩
  · cases h
    rfl
  · cases h
    rfl
  · cases h
    exact root_cons _ _
  · cases h
    rfl
  · cases h
    exact stays_complete ⟨_, rfl⟩
  · cases h

/-- What is read from within a container is that container. -/
theorem run_root {ls rest : List Lexeme} {j : Json} (hr : root a frames = r) (hopen : r ≠ .none)
    (h : run depth a frames ls = some (j, rest)) : r.Stays (.done j) := by
  induction ls generalizing a frames with
  | nil => cases h
  | cons l ls ih =>
    rw [run_cons] at h
    obtain ⟨p, hp, hgo⟩ := Option.bind_eq_some_iff.1 h
    have hstays := advance_root hr hopen hp
    cases p with
    | done j' =>
      cases hgo
      exact hstays
    | more a' frames' => exact ih hstays hgo

end Root

/-- What starts as an array is one. -/
theorem read_beginArray {depth : Nat} {ls rest : List Lexeme} {j : Json}
    (h : read depth (.beginArray :: ls) = some (j, rest)) : ∃ js, j = .array js := by
  rw [read, run_cons, advance, begin] at h
  split at h
  · exact run_root (r := .array) rfl (by simp) h
  · cases h

/-- What starts as an object is one, in key order. -/
theorem read_beginObject {depth : Nat} {ls rest : List Lexeme} {j : Json}
    (h : read depth (.beginObject :: ls) = some (j, rest)) :
    ∃ o : Object, j = .object o.toList := by
  rw [read, run_cons, advance, begin] at h
  split at h
  · obtain ⟨ms, hms⟩ := run_root (r := .object) rfl (by simp) h
    exact ⟨_, hms⟩
  · cases h

end StagedRecords.Json
