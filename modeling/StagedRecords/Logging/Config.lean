import StagedRecords.Text.Blank
import StagedRecords.Text.LowerCase

/-!
# Log configuration

Which events are logged and how they are written, as two variables of the environment say.
-/

namespace StagedRecords.Logging

/-- How an event is written. -/
inductive Format
  /-- One JSON object per event. -/
  | json
  /-- Several lines, for a person to read. -/
  | pretty
  /-- One line of text. -/
  | compact
deriving DecidableEq

/-- The name of the format. -/
def Format.name : Format → String
  | .json => "Json"
  | .pretty => "Pretty"
  | .compact => "Compact"

/-- A text that names no format, as it was looked at. -/
structure UnknownFormat where
  text : String
deriving DecidableEq

/-- The wording of the fault. -/
def UnknownFormat.message (u : UnknownFormat) : String :=
  "unknown log format `" ++ u.text ++ "` (expected json, pretty or compact)"

/-- The format that a text names. White space around the name and the case of its letters do not
count. -/
def Format.ofText (s : String) : Except UnknownFormat Format :=
  let name := String.ofList (Text.lower (Text.trim s.toList))
  if name = "json" then .ok .json
  else if name = "pretty" then .ok .pretty
  else if name = "compact" then .ok .compact
  else .error ⟨name⟩

/-- The directives of the filter, and the format. -/
structure Config where
  filter : String
  format : Format
deriving DecidableEq

namespace Config

/-- The variable that holds the directives of the filter. -/
def filterVariable : String := "RUST_LOG"

/-- The variable that names the format. -/
def formatVariable : String := "DATABUILDER_LOG_FORMAT"

/-- What holds without any variable. -/
def standard : Config := ⟨"info", .json⟩

/-- Whether a text has nothing but white space. -/
def isBlank (s : String) : Bool := s.toList.all Text.isBlank

/-- The configuration that the variables give. A blank filter counts as none; the text of any other
is taken as it is. A format must be one if it is given at all. -/
def ofLookup (lookup : String → Option String) : Except UnknownFormat Config := do
  let filter := ((lookup filterVariable).filter (!isBlank ·)).getD standard.filter
  match lookup formatVariable with
  | none => .ok ⟨filter, standard.format⟩
  | some text => (Format.ofText text).map fun format => ⟨filter, format⟩

end Config

end StagedRecords.Logging
