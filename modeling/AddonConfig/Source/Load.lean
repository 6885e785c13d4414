import AddonConfig.Json.Located
import AddonConfig.Json.Reader
import AddonConfig.Model.Decode
import AddonConfig.Schema.Document
import AddonConfig.Source.Format

/-!
# Loading a configuration

A file is read as YAML, of which JSON is nearly a part; JSON text that is no YAML is read as JSON alone,
without places. What was read has to satisfy the schema before it becomes a configuration.
-/

namespace AddonConfig

/-- How the parser of YAML words that it refuses a text. -/
class YamlWording where
  refusal : String → String

/-- Why no configuration could be loaded. -/
inductive LoadError where
  | unknownFormat
  | unreadable
  | notYaml (refusal : String)
  | notJson
  /-- What the schema finds wrong with the value that was read. -/
  | schema (located : Located) (found : List Violation)
  | model (cause : DecodeError)

/-- The wording of an error for the file at a path. -/
def LoadError.message (path : String) : LoadError → String
  | .unknownFormat =>
      "Cannot tell the format of " ++ path ++ ": expected a .json, .yaml or .yml file "
        ++ "(use --format to set it explicitly)"
  | .unreadable => "Failed to read global config: " ++ path
  | .notYaml refusal => "Failed to parse YAML from " ++ path ++ ": " ++ refusal
  | .notJson => "Failed to parse JSON from " ++ path
  | .schema .. => "Schema validation failed for " ++ path ++ " (see detailed errors above)"
  | .model _ => "Failed to build global config from " ++ path

/-- The format that was asked for, or else the one that the path tells. -/
def chooseFormat (asked : Option Format) (path : String) : Except LoadError Format :=
  match asked.or (Format.ofPath? path) with
  | some format => .ok format
  | none => .error .unknownFormat

/-- Whether a text of a format is read as plain JSON. -/
def fallsBack (format : Format) (content : String) : Bool :=
  format = .json && (Located.ofText? content).isNone

variable [YamlWording]

/-- The value of a text and the places of its nodes. -/
def readLocated (format : Format) (content : String) : Except LoadError Located :=
  match Located.ofText? content, format with
  | some located, _ => .ok located
  | none, .yaml => .error (.notYaml (YamlWording.refusal content))
  | none, .json =>
      match Json.read content with
      | .ok value => .ok (.unplaced value)
      | .error _ => .error .notJson

/-- The configuration in a value that satisfies the schema. -/
def Located.toConfig (located : Located) : Except LoadError Config :=
  match Schema.violations Schema.document located.value with
  | [] =>
      match Config.decode located.value with
      | .ok config => .ok config
      | .error cause => .error (.model cause)
  | found => .error (.schema located found)

/-- The configuration in a text. -/
def Config.ofText (format : Format) (content : String) : Except LoadError Config := do
  (← readLocated format content).toConfig

/-- The configuration in a file, which may be absent or hold no text. -/
def Config.ofFile (asked : Option Format) (path : String) (content : Option String) :
    Except LoadError Config := do
  let format ← chooseFormat asked path
  match content with
  | some content => Config.ofText format content
  | none => .error .unreadable

end AddonConfig
