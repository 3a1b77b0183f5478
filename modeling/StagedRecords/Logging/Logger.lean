import StagedRecords.Json.Basic
import StagedRecords.Logging.Config
import StagedRecords.Logging.Filter
import StagedRecords.Text.Quoted
import StagedRecords.Text.Split
import StagedRecords.Traced

/-!
# The logger of a process

A process has at most one subscriber, and the first to be installed stays. The events it lets
through are written in its format.
-/

namespace StagedRecords.Logging

/-- A value in an event. -/
inductive Datum
  /-- A text that is quoted where the format is for a person. -/
  | quoted (s : String)
  /-- A text that is written as it is. -/
  | verbatim (s : String)
deriving DecidableEq

/-- The text without quotes. -/
def Datum.text : Datum → String
  | .quoted s => s
  | .verbatim s => s

/-- The text as a person sees it. -/
def Datum.shown : Datum → String
  | .quoted s => Text.quoted s
  | .verbatim s => s

/-- Something to be logged. -/
structure Event where
  level : Level
  target : String
  message : String
  data : List (String × Datum)
deriving DecidableEq

namespace Event

/-- What is logged when a subscriber is installed. -/
def initialised (c : Config) : Event :=
  ⟨.debug, "databuilder_observability::tracing", "tracing initialised",
    [("filter", .verbatim c.filter), ("format", .verbatim c.format.name)]⟩

/-- What is logged when a value is built. -/
def built (b : Built) : Event :=
  ⟨.trace, b.module, "built value", [("builder", .quoted b.builder)]⟩

/-- The names of the fields of the event. -/
def fields (e : Event) : List String := "message" :: e.data.map (·.1)

/-- The event as it is written, without the time and the place in the program. -/
def written (e : Event) : Format → Json
  | .json =>
    let data := e.data.map fun (k, d) => (k, Json.string d.text)
    .object [("level", .string e.level.name),
      ("fields", .object (("message", .string e.message) :: data))]
  | .compact =>
    let data := e.data.map fun (k, d) => " " ++ k ++ "=" ++ d.shown
    .string (e.level.name ++ " " ++ e.message ++ String.join data)
  | .pretty =>
    let data := e.data.map fun (k, d) => ", " ++ k ++ ": " ++ d.shown
    .string (e.level.name ++ "  " ++ e.message ++ String.join data)

end Event

/-- Who receives the events of a process. -/
inductive Subscriber
  | none
  /-- One that was installed by others. -/
  | foreign
  | installed (filter : Filter) (format : Format)
deriving DecidableEq

/-- The logging of a process: its subscriber, what was logged, and what was reported as errors. -/
structure Logger where
  subscriber : Subscriber
  log : List (Event × Format)
  errors : List String

namespace Logger

/-- A process without a subscriber. -/
def start : Logger := ⟨.none, [], []⟩

/-- A process in which another subscriber is installed. -/
def used : Logger := ⟨.foreign, [], []⟩

/-- Logs an event if the subscriber lets it through. -/
def record (l : Logger) (e : Event) : Logger :=
  match l.subscriber with
  | .installed filter format =>
    if filter.passes e.target e.fields e.level then { l with log := l.log ++ [(e, format)] } else l
  | _ => l

/-- The filter that a configuration puts in force. -/
def filterOf (c : Config) : Filter := (Filter.ofText? c.filter).getD .standard

/-- Installs a subscriber if there is none, and says whether it did. -/
def initWith (l : Logger) (c : Config) : Logger × Bool :=
  match l.subscriber with
  | .none =>
    let l := { l with subscriber := .installed (filterOf c) c.format }
    (l.record (.initialised c), true)
  | _ => (l, false)

/-- Installs a subscriber from the environment if there is none. A configuration that is no good
is reported, and the standard one takes its place as a whole. -/
def init (l : Logger) (lookup : String → Option String) : Logger :=
  match Config.ofLookup lookup with
  | .ok c => (l.initWith c).1
  | .error u =>
    let report := "invalid observability config, using defaults: " ++ u.message
    ({ l with errors := l.errors ++ [report] }.initWith .standard).1

/-- The lines of the error reports. -/
def errorLines (l : Logger) : List String := l.errors.flatMap Text.lines

/-- Logs the builds of a run in order. -/
def recordBuilds (l : Logger) (builds : List Built) : Logger :=
  builds.foldl (fun l b => l.record (.built b)) l

end Logger

end StagedRecords.Logging
