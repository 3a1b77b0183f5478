import StagedRecords.Logging.Logger

/-!
# The subscriber of a process

The first step of a process that asks for a subscriber installs one and may log a start-up line.
No later step changes the subscriber or logs another such line, and this is what every step keeps
(`Logger.ConfiguredBy.step`) and so every process (`Logger.configuredBy_run`). A line that is
logged was let through by the filter that it names, as the filter that stands in for a malformed
one lets none through (`Filter.standard_passes_debug`). `logging_is_initialised_once` puts this
together.
-/

namespace StagedRecords.Logging

/-! ## What is asked for -/

namespace Config

variable {lookup : String → Option String}

theorem ofLookup_eq_error_iff {u : UnknownFormat} : ofLookup lookup = .error u ↔
    ∃ text, lookup formatVariable = some text ∧ Format.ofText text = .error u := by
  unfold ofLookup
  rcases hformat : lookup formatVariable with _ | text
  · simp
  · rcases htext : Format.ofText text with u' | format <;> simp [htext, Except.map]

/-- The configuration that the environment asks for: the standard one, as a whole, if the variables
give none. -/
def asked (lookup : String → Option String) : Config :=
  match ofLookup lookup with
  | .ok c => c
  | .error _ => standard

theorem asked_of_ok {c : Config} (h : ofLookup lookup = .ok c) : asked lookup = c := by
  simp [asked, h]

theorem asked_of_invalid {text : String} {u : UnknownFormat}
    (h : lookup formatVariable = some text) (hu : Format.ofText text = .error u) :
    asked lookup = standard := by
  simp [asked, ofLookup_eq_error_iff.2 ⟨text, h, hu⟩]

end Config

/-- What a process does that concerns its logging. -/
inductive Step
  | init (lookup : String → Option String)
  | initWith (c : Config)
  /-- A run that leaves these builds. -/
  | builds (bs : List Built)

namespace Step

/-- The configuration that the step asks for, if it asks for a subscriber. -/
def config? : Step → Option Config
  | .init lookup => some (Config.asked lookup)
  | .initWith c => some c
  | .builds _ => none

/-- The first configuration that the steps ask for. -/
def firstConfig? (steps : List Step) : Option Config := steps.findSome? config?

end Step

/-! ## What is let through -/

theorem Filter.standard_passes_debug (target : String) (fields : List String) :
    Filter.standard.passes target fields .debug = false := by
  simp [passes, decisive?, standard, Directive.covers, Level.rank]

/-- What a subscriber logs of an event. -/
def Subscriber.entries : Subscriber → Event → List (Event × Format)
  | .installed filter format, e =>
    if filter.passes e.target e.fields e.level then [(e, format)] else []
  | _, _ => []

namespace Subscriber

theorem eq_of_mem_entries {s : Subscriber} {e : Event} {entry : Event × Format}
    (h : entry ∈ s.entries e) : entry.1 = e ∧ ∃ filter, s = .installed filter entry.2 ∧
      filter.passes e.target e.fields e.level = true := by
  rcases s with _ | _ | ⟨filter, format⟩
  · cases h
  · cases h
  · by_cases hpasses : filter.passes e.target e.fields e.level = true
    · rw [entries, if_pos hpasses, List.mem_singleton] at h
      subst h
      exact ⟨rfl, filter, rfl, hpasses⟩
    · rw [entries, if_neg hpasses] at h
      cases h

theorem length_entries_le (s : Subscriber) (e : Event) : (s.entries e).length ≤ 1 := by
  unfold entries
  split
  · split <;> simp
  · simp

end Subscriber

/-- The start-up lines in a log. -/
def startLines (log : List (Event × Format)) : List (Event × Format) :=
  log.filter fun entry => entry.1.message = "tracing initialised"

theorem startLines_append (log log' : List (Event × Format)) :
    startLines (log ++ log') = startLines log ++ startLines log' :=
  List.filter_append ..

theorem startLines_initialised (s : Subscriber) (c : Config) :
    startLines (s.entries (.initialised c)) = s.entries (.initialised c) := by
  refine List.filter_eq_self.2 fun entry hentry => ?_
  rw [(Subscriber.eq_of_mem_entries hentry).1]
  rfl

/-- No build is logged as a start-up line. -/
theorem startLines_builds (s : Subscriber) (bs : List Built) :
    startLines (bs.flatMap fun b => s.entries (.built b)) = [] := by
  refine List.filter_eq_nil_iff.2 fun entry hentry => ?_
  obtain ⟨b, -, hentry⟩ := List.mem_flatMap.1 hentry
  rw [(Subscriber.eq_of_mem_entries hentry).1]
  exact of_decide_eq_false rfl

namespace Logger

variable {l : Logger} {c : Config}

theorem subscriber_record (l : Logger) (e : Event) :
    (l.record e).subscriber = l.subscriber := by
  unfold record
  split
  · split <;> rfl
  · rfl

theorem log_record (l : Logger) (e : Event) :
    (l.record e).log = l.log ++ l.subscriber.entries e := by
  unfold record Subscriber.entries
  rcases l.subscriber with _ | _ | ⟨filter, format⟩
  · simp
  · simp
  · rcases hpasses : filter.passes e.target e.fields e.level <;> simp [hpasses]

/-! ## Steps -/

theorem recordBuilds_subscriber (l : Logger) (bs : List Built) :
    (l.recordBuilds bs).subscriber = l.subscriber := by
  induction bs generalizing l with
  | nil => rfl
  | cons b bs ih =>
    show ((l.record (.built b)).recordBuilds bs).subscriber = _
    rw [ih, subscriber_record]

theorem recordBuilds_log (l : Logger) (bs : List Built) :
    (l.recordBuilds bs).log = l.log ++ bs.flatMap fun b => l.subscriber.entries (.built b) := by
  induction bs generalizing l with
  | nil => simp [recordBuilds]
  | cons b bs ih =>
    show ((l.record (.built b)).recordBuilds bs).log = _
    rw [ih, subscriber_record, log_record, List.flatMap_cons, List.append_assoc]

/-- The subscriber that a configuration asks for. -/
def subscriberOf (c : Config) : Subscriber := .installed (filterOf c) c.format

theorem initWith_of_installed (h : l.subscriber ≠ .none) (c : Config) :
    l.initWith c = (l, false) := by
  unfold initWith
  split
  · contradiction
  · rfl

theorem initWith_of_none (h : l.subscriber = .none) (c : Config) :
    (l.initWith c).2 = true ∧ (l.initWith c).1.subscriber = subscriberOf c ∧
      (l.initWith c).1.log = l.log ++ (subscriberOf c).entries (.initialised c) := by
  unfold initWith
  rw [h]
  exact ⟨rfl, subscriber_record _ _, log_record _ _⟩

theorem initWith_eq_true_iff : (l.initWith c).2 = true ↔ l.subscriber = .none := by
  by_cases h : l.subscriber = .none
  · simp [h, (initWith_of_none h c).1]
  · simp [h, initWith_of_installed h c]

/-- Apart from the report on the environment, `init` is `initWith` of what is asked for. -/
theorem init_eq (l : Logger) (lookup : String → Option String) :
    ∃ reports, l.init lookup =
      ({ l with errors := l.errors ++ reports }.initWith (Config.asked lookup)).1 := by
  unfold init Config.asked
  rcases Config.ofLookup lookup with u | c
  · exact ⟨_, rfl⟩
  · exact ⟨[], by simp⟩

/-- The process after a step. -/
def step (l : Logger) : Step → Logger
  | .init lookup => l.init lookup
  | .initWith c => (l.initWith c).1
  | .builds bs => l.recordBuilds bs

/-- The process after the steps. -/
def run (l : Logger) (steps : List Step) : Logger := steps.foldl step l

/-- A step that asks for a subscriber leaves the one that is there, and logs nothing. -/
theorem step_of_installed {s : Step} (h : l.subscriber ≠ .none) (hs : s.config? = some c) :
    (l.step s).subscriber = l.subscriber ∧ (l.step s).log = l.log := by
  cases s with
  | init lookup =>
    obtain ⟨reports, hinit⟩ := l.init_eq lookup
    rw [step, hinit,
      initWith_of_installed (l := { l with errors := l.errors ++ reports }) h]
    exact ⟨rfl, rfl⟩
  | initWith c' =>
    rw [step, initWith_of_installed h]
    exact ⟨rfl, rfl⟩
  | builds bs => cases hs

/-- The first step that asks for a subscriber installs the one that it asks for. -/
theorem step_of_none {s : Step} (h : l.subscriber = .none) (hs : s.config? = some c) :
    (l.step s).subscriber = subscriberOf c ∧
      (l.step s).log = l.log ++ (subscriberOf c).entries (.initialised c) := by
  cases s with
  | init lookup =>
    cases hs
    obtain ⟨reports, hinit⟩ := l.init_eq lookup
    rw [step, hinit]
    exact (initWith_of_none (l := { l with errors := l.errors ++ reports }) h _).2
  | initWith c' =>
    cases hs
    exact (initWith_of_none h c).2
  | builds bs => cases hs

/-! ## Whole processes -/

/-- The process has the subscriber that the configuration asks for, if there is one, and no other
start-up line than its own. -/
structure ConfiguredBy (l : Logger) (first? : Option Config) : Prop where
  subscriber_eq : l.subscriber = first?.elim .none subscriberOf
  startLines_eq : startLines l.log =
    first?.elim [] fun c => (subscriberOf c).entries (.initialised c)

theorem configuredBy_start : start.ConfiguredBy none := ⟨rfl, rfl⟩

theorem ConfiguredBy.step {first? : Option Config} (h : l.ConfiguredBy first?) (s : Step) :
    (l.step s).ConfiguredBy (first?.or s.config?) := by
  obtain ⟨hsubscriber, hlines⟩ := h
  rcases hs : s.config? with _ | c
  · -- The builds of a run ask for nothing and are no start-up lines.
    rcases s with lookup | c | bs
    · cases hs
    · cases hs
    · rw [Option.or_none]
      refine ⟨(recordBuilds_subscriber l bs).trans hsubscriber, ?_⟩
      rw [← hlines, Logger.step, recordBuilds_log, startLines_append, startLines_builds,
        List.append_nil]
  · rcases first? with _ | c₀
    · -- The first that asks is granted what it asks for.
      obtain ⟨hinstalled, hlog⟩ := step_of_none hsubscriber hs
      refine ⟨hinstalled, ?_⟩
      rw [hlog, startLines_append, hlines, startLines_initialised]
      rfl
    · have hinstalled : l.subscriber ≠ .none := by
        rw [hsubscriber]
        nofun
      obtain ⟨hsame, hlog⟩ := step_of_installed hinstalled hs
      exact ⟨hsame.trans hsubscriber, by rw [hlog, hlines]; rfl⟩

theorem ConfiguredBy.run {first? : Option Config} (h : l.ConfiguredBy first?)
    (steps : List Step) : (l.run steps).ConfiguredBy (first?.or (Step.firstConfig? steps)) := by
  induction steps generalizing l first? with
  | nil => simpa [Step.firstConfig?, Logger.run] using h
  | cons s ss ih =>
    have hrest := ih (h.step s)
    have hfirst : Step.firstConfig? (s :: ss) = s.config?.or (Step.firstConfig? ss) := by
      unfold Step.firstConfig?
      rw [List.findSome?_cons]
      cases s.config? <;> rfl
    rwa [Option.or_assoc, ← hfirst] at hrest

theorem configuredBy_run (steps : List Step) :
    (start.run steps).ConfiguredBy (Step.firstConfig? steps) :=
  configuredBy_start.run steps

theorem filterOf_eq (c : Config) :
    (Filter.ofText? c.filter).or (Filter.ofText? "info") = some (filterOf c) := by
  have hinfo : Filter.ofText? "info" = some .standard := rfl
  rw [hinfo, filterOf]
  cases Filter.ofText? c.filter <;> rfl

/-- A start-up line is let through by the filter that it names: the one that stands in for a
malformed filter lets none through. -/
theorem filterOf_of_mem_entries {entry : Event × Format}
    (h : entry ∈ (subscriberOf c).entries (.initialised c)) :
    entry = (.initialised c, c.format) ∧ Filter.ofText? c.filter = some (filterOf c) := by
  obtain ⟨hevent, filter, hsubscriber, hpasses⟩ := Subscriber.eq_of_mem_entries h
  obtain ⟨rfl, hformat⟩ := Subscriber.installed.inj hsubscriber
  refine ⟨Prod.ext hevent hformat.symm, ?_⟩
  rcases hfilter : Filter.ofText? c.filter with _ | filter
  · have hstandard : filterOf c = .standard := by simp [filterOf, hfilter]
    rw [hstandard] at hpasses
    exact absurd (Filter.standard_passes_debug _ _) (Bool.ne_false_iff.2 hpasses)
  · simp [filterOf, hfilter]

namespace ConfiguredBy

variable {first? : Option Config}

theorem subscriber_eq_none_iff (h : l.ConfiguredBy first?) :
    l.subscriber = .none ↔ first? = none := by
  rw [h.subscriber_eq]
  cases first? <;> simp [subscriberOf]

theorem length_startLines_le (h : l.ConfiguredBy first?) : (startLines l.log).length ≤ 1 := by
  rw [h.startLines_eq]
  cases first? with
  | none => simp
  | some c => exact (subscriberOf c).length_entries_le (.initialised c)

theorem of_mem_startLines (h : l.ConfiguredBy first?) {e : Event} {format : Format}
    (he : (e, format) ∈ startLines l.log) : ∃ c filter, e = .initialised c ∧ format = c.format ∧
      Filter.ofText? c.filter = some filter ∧ l.subscriber = .installed filter format := by
  rw [h.startLines_eq] at he
  rw [h.subscriber_eq]
  cases first? with
  | none => cases he
  | some c =>
    obtain ⟨hentry, hfilter⟩ := filterOf_of_mem_entries he
    obtain ⟨rfl, rfl⟩ := Prod.mk.inj hentry
    exact ⟨c, filterOf c, rfl, rfl, hfilter, rfl⟩

end ConfiguredBy

end Logger

/-- Of all the steps of a process only the first that asks for a subscriber installs one, and what
it asks for stays in force: its format, and its filter or, if that is malformed, the standard one.
The environment asks for what its variables say, or for the standard configuration as a whole if
they name no format. At most one start-up line is logged, and it names the filter and the format
that are in force. -/
theorem logging_is_initialised_once (steps : List Step) :
    let l := Logger.start.run steps
    (∀ c, (l.initWith c).2 = true ↔ ∀ s ∈ steps, s.config? = none) ∧
    (∀ c, Step.firstConfig? steps = some c → ∃ filter,
      (Filter.ofText? c.filter).or (Filter.ofText? "info") = some filter ∧
      l.subscriber = .installed filter c.format) ∧
    (∀ c, Step.firstConfig? steps = some c → ∀ s, s.config? ≠ none →
      (l.step s).subscriber = l.subscriber ∧ (l.step s).log = l.log) ∧
    (∀ lookup c, Config.ofLookup lookup = .ok c → (Step.init lookup).config? = some c) ∧
    (∀ lookup text u, lookup Config.formatVariable = some text → Format.ofText text = .error u →
      (Step.init lookup).config? = some ⟨"info", .json⟩) ∧
    (l.log.filter fun entry => entry.1.message = "tracing initialised").length ≤ 1 ∧
    (∀ e format, (e, format) ∈ l.log → e.message = "tracing initialised" → ∃ c filter,
      e = .initialised c ∧ format = c.format ∧ Filter.ofText? c.filter = some filter ∧
      l.subscriber = .installed filter format) := by
  intro l
  have hl : l.ConfiguredBy (Step.firstConfig? steps) := Logger.configuredBy_run steps
  refine ⟨fun c => ?_, fun c hc => ?_, fun c hc s hs => ?_, fun lookup c hc => ?_,
    fun lookup text u htext hu => ?_, hl.length_startLines_le, fun e format he hmessage => ?_⟩
  · rw [Logger.initWith_eq_true_iff, hl.subscriber_eq_none_iff, Step.firstConfig?,
      List.findSome?_eq_none_iff]
  · exact ⟨_, Logger.filterOf_eq c, by rw [hl.subscriber_eq, hc]; rfl⟩
  · obtain ⟨c', hc'⟩ := Option.ne_none_iff_exists'.1 hs
    refine Logger.step_of_installed ?_ hc'
    rw [Ne, hl.subscriber_eq_none_iff, hc]
    nofun
  · exact congrArg some (Config.asked_of_ok hc)
  · exact congrArg some (Config.asked_of_invalid htext hu)
  · exact hl.of_mem_startLines (List.mem_filter.2 ⟨he, by simpa using hmessage⟩)

/-- A malformed filter leaves its format in force, and no start-up line. -/
example : Logger.start.run [.initWith ⟨"x=bogus", .compact⟩, .initWith ⟨"trace", .json⟩] =
    ⟨.installed .standard .compact, [], []⟩ := rfl

end StagedRecords.Logging
