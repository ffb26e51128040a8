import Passbook.Logging.Filter
import Passbook.Settings

/-!
# Log settings

Events are written as JSON or as text, and a filter picks them. The variable `RUST_LOG` has the
filter; the settings' own filter takes its place when the variable is not set or wrong.
-/
namespace Passbook.Logging

/-- How events are written. -/
inductive Format
  | json
  | pretty
  deriving DecidableEq, Repr

namespace Format

instance : Inhabited Format := ⟨.json⟩

def name : Format → String
  | .json => "json"
  | .pretty => "pretty"

def ofName? : String → Option Format
  | "json" => some .json
  | "pretty" => some .pretty
  | _ => none

/-- Reads a format as a person writes it: blanks around it and the case do not matter, and `text`
is another name of `pretty`. -/
def parse? (text : String) : Option Format :=
  match (Text.trim text).map Char.toLower with
  | "json" => some .json
  | "pretty" | "text" => some .pretty
  | _ => none

def unknownMessage (text : String) : String :=
  s!"unknown log format `{text}` (expected `json` or `pretty`)"

instance : Encode Format := ⟨fun format => .string format.name⟩
instance : Decode Format := ⟨fun json => json.enumName?.bind ofName?⟩

end Format

/-- How a program logs. -/
structure Settings where
  format : Format := .json
  /-- The filter's text when the surroundings give none. -/
  defaultFilter : String := "info"
  /-- Write where the tests' output goes. -/
  testWriter : Bool := false
  deriving DecidableEq, Repr

namespace Settings

def formatVariable : String := "HOUSEBANK_LOG_FORMAT"

def filterVariable : String := "RUST_LOG"

/-- The settings that an environment gives; a format that does not exist is passed over. -/
def ofEnvironment (env : Environment) : Settings :=
  { format := ((env formatVariable).bind Format.parse?).getD default }

def forTests : Settings where
  format := .pretty
  defaultFilter := "warn,housebank_infra=debug"
  testWriter := true

/-- The filter that is in force. -/
def filter (settings : Settings) (env : Environment) : Filter :=
  ((env filterVariable).bind Filter.parse?).getD (Filter.parseLossy settings.defaultFilter)

instance : Encode Settings :=
  ⟨fun s => .object [("format", encode s.format), ("default_filter", encode s.defaultFilter),
    ("test_writer", encode s.testWriter)]⟩

instance : Decode Settings :=
  ⟨fun json => do
    let fields ← json.fields? ["format", "default_filter", "test_writer"]
    pure ⟨← fields.required "format", ← fields.required "default_filter",
      ← fields.required "test_writer"⟩⟩

end Settings

end Passbook.Logging
