import StagedRecords.Proofs.Initialisation
import StagedRecords.Proofs.LetterCase

/-!
# Configurations read from variables

A text names a format just if it spells the format's word in ASCII letters of either case with
white space around it (`Format.ofText_eq_ok_iff`). The variable of the format decides alone whether
a configuration is read at all (`Config.ofLookup_eq_error_iff`), and the variable of the filter is
taken as it is unless it is blank (`Config.ofLookup_eq_ok_iff`).
-/

namespace StagedRecords.Logging

/-- The text has the letters of the word, ASCII letters of either case, and white space around
them. -/
def Spells (text word : String) : Prop :=
  ∃ front letters back, text.toList = front ++ letters ++ back ∧
    (∀ c ∈ front, Text.isBlank c = true) ∧ (∀ c ∈ back, Text.isBlank c = true) ∧
    letters.map Char.toLower = word.toList

section Spells

variable {text word : String}

theorem spells_iff (hword : ∀ c ∈ word.toList, Text.IsPlain c) :
    Spells text word ↔ String.ofList (Text.lower (Text.trim text.toList)) = word := by
  rw [← String.toList_inj, String.toList_ofList, Text.lower_eq_iff hword]
  constructor
  · rintro ⟨front, letters, back, htext, hfront, hback, hletters⟩
    have hblank : ∀ c ∈ letters, Text.isBlank c = false := fun c hc =>
      Text.not_isBlank_of_isLower_toLower
        (hword _ (hletters ▸ List.mem_map_of_mem hc)).1
    rw [htext, Text.trim_append hfront hblank hback, hletters]
  · intro hletters
    obtain ⟨front, back, htext, hfront, hback⟩ := Text.exists_trim text.toList
    exact ⟨front, _, back, htext, hfront, hback, hletters⟩

/-- A text that spells a word has no other characters than ASCII letters and white space. -/
theorem Spells.blank_or_ascii (hword : ∀ c ∈ word.toList, Text.IsPlain c) (h : Spells text word) :
    ∀ c ∈ text.toList, Text.isBlank c = true ∨ c.toNat < 128 := by
  obtain ⟨front, letters, back, htext, hfront, hback, hletters⟩ := h
  rw [htext]
  intro c hc
  rcases List.mem_append.1 hc with hc | hc
  · rcases List.mem_append.1 hc with hc | hc
    · exact .inl (hfront c hc)
    · refine .inr (Text.toNat_lt_of_isLower_toLower (hword _ ?_).1)
      rw [← hletters]
      exact List.mem_map_of_mem hc
  · exact .inl (hback c hc)

/-- A text with nothing but white space spells no word. -/
theorem not_spells_of_blank (hword : ∀ c ∈ word.toList, Text.IsPlain c) (hne : word ≠ "")
    (hblank : ∀ c ∈ text.toList, Text.isBlank c = true) : ¬Spells text word := by
  rintro ⟨front, letters, back, htext, -, -, hletters⟩
  rcases letters with _ | ⟨c, letters⟩
  · exact hne (String.toList_eq_nil_iff.1 hletters.symm)
  · have hc : c.toLower ∈ word.toList := hletters ▸ List.mem_cons_self
    have hblank : Text.isBlank c = true := hblank c (by simp [htext])
    rw [Text.not_isBlank_of_isLower_toLower (hword _ hc).1] at hblank
    cases hblank

end Spells

namespace Format

/-- The word for the format in a configuration. -/
def word : Format → String
  | .json => "json"
  | .pretty => "pretty"
  | .compact => "compact"

theorem isPlain_word (format : Format) : ∀ c ∈ format.word.toList, Text.IsPlain c := by
  cases format <;> simp [word, Text.IsPlain]

theorem word_ne (format : Format) : format.word ≠ "" := by
  cases format <;> decide

variable {text : String}

theorem ofText_of_spells {format : Format} (h : Spells text format.word) :
    ofText text = .ok format := by
  rw [spells_iff format.isPlain_word] at h
  cases format <;> simp [ofText, h, word]

theorem ofText_of_forall_not_spells (h : ∀ format : Format, ¬Spells text format.word) :
    ofText text = .error ⟨String.ofList (Text.lower (Text.trim text.toList))⟩ := by
  have hne := fun format : Format => mt (spells_iff format.isPlain_word).2 (h format)
  have hjson := hne .json
  have hpretty := hne .pretty
  have hcompact := hne .compact
  simp only [word] at hjson hpretty hcompact
  simp only [ofText, if_neg hjson, if_neg hpretty, if_neg hcompact]

theorem ofText_eq_ok_iff {format : Format} :
    ofText text = .ok format ↔ Spells text format.word := by
  refine ⟨fun h => ?_, ofText_of_spells⟩
  by_cases hspells : ∃ format : Format, Spells text format.word
  · obtain ⟨format', hspells⟩ := hspells
    rw [ofText_of_spells hspells] at h
    cases h
    exact hspells
  · rw [ofText_of_forall_not_spells (not_exists.1 hspells)] at h
    cases h

theorem ofText_eq_error_iff {u : UnknownFormat} : ofText text = .error u ↔
    (∀ format : Format, ¬Spells text format.word) ∧
      u = ⟨String.ofList (Text.lower (Text.trim text.toList))⟩ := by
  constructor
  · intro h
    have hnone : ∀ format : Format, ¬Spells text format.word := by
      intro format hspells
      rw [ofText_of_spells hspells] at h
      cases h
    rw [ofText_of_forall_not_spells hnone] at h
    exact ⟨hnone, (Except.error.inj h).symm⟩
  · rintro ⟨hnone, rfl⟩
    exact ofText_of_forall_not_spells hnone

end Format

namespace Config

/-- The text of the filter is the one that is given, as it is, if that is not blank. -/
def Filters (given : Option String) (filter : String) : Prop :=
  (given = some filter ∧ ∃ c ∈ filter.toList, Text.isBlank c = false) ∨
    (filter = "info" ∧ ∀ text, given = some text → ∀ c ∈ text.toList, Text.isBlank c = true)

theorem filters_iff {given : Option String} {filter : String} :
    Filters given filter ↔ (given.filter (!isBlank ·)).getD standard.filter = filter := by
  rcases given with _ | text
  · constructor
    · rintro (⟨hgiven, -⟩ | ⟨rfl, -⟩)
      · cases hgiven
      · rfl
    · rintro rfl
      exact .inr ⟨rfl, nofun⟩
  · rcases hblank : isBlank text with _ | _
    · have hletter : ∃ c ∈ text.toList, Text.isBlank c = false := by
        simpa [isBlank] using hblank
      simp only [Option.filter_some, hblank, Bool.not_false, if_true, Option.getD_some]
      constructor
      · rintro (⟨hgiven, -⟩ | ⟨-, hall⟩)
        · exact Option.some.inj hgiven
        · obtain ⟨c, hc, hletter⟩ := hletter
          rw [hall text rfl c hc] at hletter
          cases hletter
      · rintro rfl
        exact .inl ⟨rfl, hletter⟩
    · have hall : ∀ c ∈ text.toList, Text.isBlank c = true := List.all_eq_true.1 hblank
      simp only [Option.filter_some, hblank, Bool.not_true, Bool.false_eq_true, if_false,
        Option.getD_none]
      constructor
      · rintro (⟨hgiven, c, hc, hletter⟩ | ⟨rfl, -⟩)
        · cases hgiven
          rw [hall c hc] at hletter
          cases hletter
        · rfl
      · rintro rfl
        refine .inr ⟨rfl, fun text' htext => ?_⟩
        cases htext
        exact hall

variable {lookup : String → Option String}

theorem ofLookup_eq_ok_iff {c : Config} : ofLookup lookup = .ok c ↔
    Filters (lookup filterVariable) c.filter ∧
      (lookup formatVariable = none ∧ c.format = .json ∨
        ∃ text, lookup formatVariable = some text ∧ Spells text c.format.word) := by
  obtain ⟨filter, format⟩ := c
  rw [filters_iff]
  unfold ofLookup
  rcases hformat : lookup formatVariable with _ | text
  · simp [standard, eq_comm]
  · simp only [Option.some.injEq, exists_eq_left', reduceCtorEq, false_and, false_or,
      ← Format.ofText_eq_ok_iff]
    rcases Format.ofText text with u | format' <;> simp [Except.map]

theorem ofLookup_congr {lookup' : String → Option String}
    (hfilter : lookup' filterVariable = lookup filterVariable)
    (hformat : lookup' formatVariable = lookup formatVariable) :
    ofLookup lookup' = ofLookup lookup := by
  unfold ofLookup
  rw [hfilter, hformat]

theorem ofLookup_fails_iff : (∃ u, ofLookup lookup = .error u) ↔
    ∃ text, lookup formatVariable = some text ∧ ∀ format : Format, ¬Spells text format.word := by
  simp only [ofLookup_eq_error_iff, Format.ofText_eq_error_iff]
  constructor
  · rintro ⟨u, text, htext, hnone, -⟩
    exact ⟨text, htext, hnone⟩
  · rintro ⟨text, htext, hnone⟩
    exact ⟨_, text, htext, hnone, rfl⟩

end Config

/-- A configuration is read from two variables alone. It is refused just if the variable of the
format has a text that spells no format, a blank one for instance, whatever the variable of the
filter has; no other characters than ASCII ones and white space spell a format. The refusal quotes
the text, trimmed and in lower case. Otherwise the format is the one that is spelled, or JSON where
the variable has no text, and the filter is the text of its variable as it is, or `info` where it
has none or a blank one. -/
theorem configuration_follows_two_variables (lookup : String → Option String) :
    (∀ lookup' : String → Option String, lookup' "RUST_LOG" = lookup "RUST_LOG" →
      lookup' "DATABUILDER_LOG_FORMAT" = lookup "DATABUILDER_LOG_FORMAT" →
        Config.ofLookup lookup' = Config.ofLookup lookup) ∧
    ((∃ u, Config.ofLookup lookup = .error u) ↔
      ∃ text, lookup "DATABUILDER_LOG_FORMAT" = some text ∧
        ∀ format : Format, ¬Spells text format.word) ∧
    (∀ text, lookup "DATABUILDER_LOG_FORMAT" = some text →
      (∀ ch ∈ text.toList, Text.isBlank ch = true) → ∃ u, Config.ofLookup lookup = .error u) ∧
    (∀ lookup' : String → Option String,
      lookup' "DATABUILDER_LOG_FORMAT" = lookup "DATABUILDER_LOG_FORMAT" →
        ∀ u, Config.ofLookup lookup' = .error u ↔ Config.ofLookup lookup = .error u) ∧
    (∀ u, Config.ofLookup lookup = .error u →
      ∃ text, lookup "DATABUILDER_LOG_FORMAT" = some text ∧
        u.message = "unknown log format `" ++ String.ofList (Text.lower (Text.trim text.toList)) ++
          "` (expected json, pretty or compact)") ∧
    (∀ c, Config.ofLookup lookup = .ok c ↔ Config.Filters (lookup "RUST_LOG") c.filter ∧
      (lookup "DATABUILDER_LOG_FORMAT" = none ∧ c.format = .json ∨
        ∃ text, lookup "DATABUILDER_LOG_FORMAT" = some text ∧ Spells text c.format.word)) ∧
    (∀ c text, Config.ofLookup lookup = .ok c → lookup "DATABUILDER_LOG_FORMAT" = some text →
      ∀ ch ∈ text.toList, Text.isBlank ch = true ∨ ch.toNat < 128) := by
  refine ⟨fun lookup' hfilter hformat => ?_, Config.ofLookup_fails_iff, fun text htext hblank => ?_,
    fun lookup' hformat u => ?_, fun u hu => ?_, fun c => Config.ofLookup_eq_ok_iff,
    fun c text hc htext => ?_⟩
  · exact Config.ofLookup_congr hfilter hformat
  · exact Config.ofLookup_fails_iff.2
      ⟨text, htext, fun format => not_spells_of_blank format.isPlain_word format.word_ne hblank⟩
  · have hformat : lookup' Config.formatVariable = lookup Config.formatVariable := hformat
    rw [Config.ofLookup_eq_error_iff, Config.ofLookup_eq_error_iff, hformat]
  · obtain ⟨text, htext, hofText⟩ := Config.ofLookup_eq_error_iff.1 hu
    obtain ⟨-, rfl⟩ := Format.ofText_eq_error_iff.1 hofText
    exact ⟨text, htext, rfl⟩
  · rcases (Config.ofLookup_eq_ok_iff.1 hc).2 with ⟨hnone, -⟩ | ⟨text', htext', hspells⟩
    · cases htext.symm.trans hnone
    · cases htext.symm.trans htext'
      exact hspells.blank_or_ascii c.format.isPlain_word

/-- White space is told from letters, and the case of ASCII letters does not count. -/
example : Format.ofText "\u2003JSon\n" = .ok .json ∧
    Format.ofText "j son" = .error ⟨"j son"⟩ := ⟨rfl, rfl⟩

end StagedRecords.Logging
