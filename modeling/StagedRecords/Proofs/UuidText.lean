import StagedRecords.Uuid

/-!
# UUIDs in text

The text of a UUID reads back as the UUID. It has 36 bytes, so the reader examines it as it
stands, and the number that its digits make grows by one digit at a time (`number?_group`).
-/

namespace StagedRecords.Uuid

theorem digit_lt (u : Uuid) (i : Nat) : u.digit i < 16 := Nat.mod_lt _ (by decide)

theorem hexDigit_ne_hyphen : ∀ n < 16, Text.hexDigit n ≠ '-' := by decide

theorem utf8Size_hexDigit : ∀ n < 16, (Text.hexDigit n).utf8Size = 1 := by decide

theorem length_group (u : Uuid) (start count : Nat) : (u.group start count).length = count := by
  simp [group]

theorem mem_group {u : Uuid} {start count : Nat} {c : Char} (h : c ∈ u.group start count) :
    ∃ n < 16, c = Text.hexDigit n := by
  obtain ⟨i, -, rfl⟩ := List.mem_map.1 h
  exact ⟨u.digit i, u.digit_lt i, rfl⟩

theorem group_append (u : Uuid) (start m n : Nat) :
    u.group start m ++ u.group (start + m) n = u.group start (m + n) := by
  simp only [group, ← List.map_append, List.range'_append_1]

/-! ## The number -/

/-- The digit at `i` is what the number to that place adds to sixteen times the number before. -/
theorem shiftRight_eq (u : Uuid) {i : Nat} (h : i < 32) :
    u.value.toNat >>> (4 * (31 - i)) = 16 * (u.value.toNat >>> (4 * (32 - i))) + u.digit i := by
  have hdigit : u.digit i = u.value.toNat >>> (4 * (31 - i)) % 16 := by
    rw [digit, BitVec.toNat_ushiftRight]
  have hnext : u.value.toNat >>> (4 * (32 - i)) = u.value.toNat >>> (4 * (31 - i)) / 16 := by
    rw [show 4 * (32 - i) = 4 * (31 - i) + 4 by omega, Nat.shiftRight_add]
    exact Nat.shiftRight_eq_div_pow _ 4
  rw [hdigit, hnext, Nat.div_add_mod]

theorem number?_group (u : Uuid) :
    ∀ k ≤ 32, number? (u.group 0 k) = some (u.value.toNat >>> (4 * (32 - k)))
  | 0, _ => by
    have hlt : u.value.toNat < 2 ^ 128 := u.value.isLt
    rw [Nat.shiftRight_eq_div_pow, Nat.div_eq_of_lt hlt]
    rfl
  | k + 1, h => by
    have ih := number?_group u k (by omega)
    have hk := u.shiftRight_eq (i := k) (by omega)
    rw [show 32 - (k + 1) = 31 - k by omega, hk, ← group_append, Nat.zero_add]
    unfold number? at ih ⊢
    rw [List.foldlM_append, ih]
    simp [group, Text.hexValue?_hexDigit _ (u.digit_lt k)]

/-! ## The groups -/

theorem groups_of_no_hyphen {g : List Char} (h : ∀ c ∈ g, c ≠ '-') : groups g = [g] := by
  induction g with
  | nil => rfl
  | cons c cs ih =>
    have hc := h c List.mem_cons_self
    have hcs := ih fun d hd => h d (List.mem_cons_of_mem c hd)
    simp [groups, hc, hcs]

theorem groups_append {g rest : List Char} (h : ∀ c ∈ g, c ≠ '-') :
    groups (g ++ '-' :: rest) = g :: groups rest := by
  induction g with
  | nil => rfl
  | cons c cs ih =>
    have hc := h c List.mem_cons_self
    have hcs := ih fun d hd => h d (List.mem_cons_of_mem c hd)
    simp [groups, hc, hcs]

theorem group_no_hyphen (u : Uuid) (start count : Nat) : ∀ c ∈ u.group start count, c ≠ '-' := by
  intro c hc
  obtain ⟨n, hn, rfl⟩ := mem_group hc
  exact hexDigit_ne_hyphen n hn

theorem groups_chars (u : Uuid) :
    groups u.chars = [u.group 0 8, u.group 8 4, u.group 12 4, u.group 16 4, u.group 20 12] := by
  simp only [chars, groups_append (u.group_no_hyphen _ _),
    groups_of_no_hyphen (u.group_no_hyphen _ _)]

theorem flatten_groups_chars (u : Uuid) : (groups u.chars).flatten = u.group 0 32 := by
  rw [groups_chars]
  simp only [List.flatten_cons, List.flatten_nil, List.append_nil, u.group_append 16 4 12,
    u.group_append 12 4 16, u.group_append 8 4 20, u.group_append 0 8 24]

theorem map_length_groups_chars (u : Uuid) :
    (groups u.chars).map List.length = groupLengths := by
  rw [groups_chars]
  simp [length_group, groupLengths]

/-! ## The bytes -/

theorem bytes_cons (c : Char) (cs : List Char) : bytes (c :: cs) = c.utf8Size + bytes cs := by
  rw [bytes, String.ofList_cons, String.utf8ByteSize_append, String.utf8ByteSize_singleton, bytes]

theorem bytes_append (cs ds : List Char) : bytes (cs ++ ds) = bytes cs + bytes ds := by
  rw [bytes, String.ofList_append, String.utf8ByteSize_append, bytes, bytes]

theorem bytes_group (u : Uuid) (start count : Nat) : bytes (u.group start count) = count := by
  induction count generalizing start with
  | zero => rfl
  | succ n ih =>
    have hone := utf8Size_hexDigit _ (u.digit_lt start)
    show bytes (Text.hexDigit (u.digit start) :: u.group (start + 1) n) = n + 1
    rw [bytes_cons, hone, ih, Nat.add_comm]

theorem bytes_chars (u : Uuid) : bytes u.chars = 36 := by
  have hhyphen : '-'.utf8Size = 1 := by decide
  simp only [chars, bytes_append, bytes_cons, bytes_group, hhyphen]

/-- Every UUID reads back from its text. -/
theorem ofText_text (u : Uuid) : ofText u.text = .ok u := by
  have hne : u.chars.isEmpty = false := by
    rw [List.isEmpty_eq_false_iff, ne_eq, ← List.length_eq_zero_iff]
    simp [chars]
  have hbody : body u.chars = ⟨u.chars, 0, 36, false⟩ := by
    simp [body, bytes_chars]
  have hnumber : number? (groups u.chars).flatten = some u.value.toNat := by
    rw [flatten_groups_chars, number?_group u 32 (by decide)]
    simp
  simp only [ofText, text, String.toList_ofList, read, hne, bytes_chars, hbody, hnumber,
    map_length_groups_chars]
  simp [BitVec.ofNat_toNat]

end StagedRecords.Uuid
