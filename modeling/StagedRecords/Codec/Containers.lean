import StagedRecords.Codec.Basic

/-!
# Codecs of containers

Sequences, sets and maps are read element by element in the order of the text, up to the first
fault. Sets take repeated elements. A loose set or map may be written in any order.
-/

namespace StagedRecords

/-- A set whose written order is left open. -/
structure LooseSet (α : Type) [Ord α] where
  elements : OrderedSet α
deriving DecidableEq

/-- A map whose written order is left open. -/
structure LooseTable (κ α : Type) [Ord κ] where
  entries : Table κ α
deriving DecidableEq

/-- A map from strings whose written order is left open. -/
abbrev LooseMap (α : Type) := LooseTable String α

/-- A value in an object of its own. -/
structure Wrapped (α : Type) where
  value : α
deriving DecidableEq

namespace Codec

open Std (TransOrd)

variable {α : Type}

instance [Codec α] : Codec (List α) where
  decode := elements decode
  encode as := .array (as.map encode)
  written := arrayWritten
  loose as := as.any loose

instance [Codec α] : Codec (Array α) where
  decode j := (elements decode j).map List.toArray
  encode as := .array (as.toList.map encode)
  written as := arrayWritten as.toList
  loose as := as.any loose

instance [Ord α] [TransOrd α] [Codec α] : Codec (OrderedSet α) where
  decode j := (elements decode j).map Sorted.ofList
  encode s := .array (s.toList.map encode)
  written s := arrayWritten s.toList
  loose s := s.toList.any loose

instance [Ord α] [TransOrd α] [Codec α] : Codec (LooseSet α) where
  decode j := (elements decode j).map fun as => ⟨Sorted.ofList as⟩
  encode s := .array (s.elements.toList.map encode)
  written s j := ∃ as, as.Perm s.elements.toList ∧ arrayWritten as j
  loose s := 1 < s.elements.size || s.elements.toList.any loose

instance [Codec α] : Codec (Dict α) where
  decode j := (members decode j).map Sorted.ofList
  encode d := .object (d.map encode).toList
  written d := objectWritten d.toList
  loose d := d.toList.any (loose ·.2)

instance [Codec α] : Codec (LooseMap α) where
  decode j := (members decode j).map fun ms => ⟨Sorted.ofList ms⟩
  encode d := .object (d.entries.map encode).toList
  written d j := ∃ es, es.Perm d.entries.toList ∧ objectWritten es j
  loose d := 1 < d.entries.size || d.entries.toList.any (loose ·.2)

/-- An object with the member `value`, or an array with the value as its only element. Other
members are passed over. -/
instance [Codec α] : Codec (Wrapped α) where
  decode
    | .object ms =>
      match ms.lookup "value", (absent : Option α) with
      | some j, _ => (decode j).map .mk
      | none, some a => .pure ⟨a⟩
      | none, none => .fail (.missingMember "value")
    | .array [] => .fail .emptyWrapper
    | .array (j :: js) =>
      (decode j).bind fun a =>
        if js.isEmpty then .pure ⟨a⟩ else .fail (.crowdedWrapper (js.length + 1))
    | j => mismatch .wrapper j
  encode w := .object [("value", encode w.value)]
  written w j := ∃ inner, written w.value inner ∧ j = .object [("value", inner)]
  loose w := loose w.value

end Codec

end StagedRecords
