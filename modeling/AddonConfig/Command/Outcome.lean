import AddonConfig.Command.Request
import AddonConfig.Endpoint.Printer
import AddonConfig.Model.Encode
import AddonConfig.Rules.Agenda
import AddonConfig.Source.Load

/-!
# What the program answers

Every request loads and checks a configuration first, and prints nothing of one that is not accepted.
-/

namespace AddonConfig
variable [PatternEngine] [YamlWording]

/-- Why a configuration is not accepted. -/
inductive Rejection where
  | load (cause : LoadError)
  | rule (defect : Defect)

/-- The configuration in a file if it loads and no rule finds a defect. -/
def Config.accept (asked : Option Format) (path : String) (content : Option String) :
    Except Rejection Config :=
  match Config.ofFile asked path content with
  | .error cause => .error (.load cause)
  | .ok config =>
      match config.check with
      | .ok _ => .ok config
      | .error defect => .error (.rule defect)

/-- The notes on reading a text and checking it by the schema. -/
def readingNotes (format : Format) (path content : String) : List Note :=
  (if fallsBack format content then [.fallingBack (YamlWording.refusal content)] else [])
    ++ match readLocated format content with
      | .ok located =>
          .checkingSchema path ::
            if (Schema.violations Schema.document located.value).isEmpty then [.schemaPassed path] else []
      | .error _ => []

/-- The notes on loading and checking the configuration in a file. -/
def acceptNotes (asked : Option Format) (path : String) (content : Option String) : List Note :=
  match chooseFormat asked path, content with
  | .ok format, some content =>
      readingNotes format path content
        ++ match Config.ofText format content with
          | .ok config => config.agenda.notes
          | .error _ => []
  | _, _ => []

/-- What the program prints and ends with. -/
structure Outcome where
  status : Nat
  output : String
  notes : List Note
  /-- What goes before the error. -/
  details : List String
  error : Option String
  deriving DecidableEq, Repr

/-- Lines that each end in a line break. -/
def textOfLines (lines : List String) : String := String.join (lines.map (· ++ "\n"))

namespace Action

/-- What is printed before a configuration is loaded. -/
def opening (path : String) : Action → List String
  | .validate => ["Validating global config: " ++ path]
  | .inspect .. => []

/-- What is printed of a configuration that is accepted. -/
def result (config : Config) : Action → List String
  | .validate => ["", "✅ All validations passed!"]
  | .inspect .config _ => [config.encode.pretty]
  | .inspect .endpoints true => [(Json.arr ((Endpoint.plan config).map Endpoint.encode)).pretty]
  | .inspect .endpoints false => (Endpoint.plan config).flatMap Endpoint.lines

/-- The notes on what is printed. -/
def resultNotes (config : Config) : Action → List Note
  | .inspect .endpoints _ => [.planned (Endpoint.plan config).length]
  | _ => []

end Action

namespace Rejection

/-- The error that a request ends with. -/
def message (action : Action) (path : String) : Rejection → String
  | .load cause => cause.message path
  | .rule defect =>
      match action with
      | .validate => "Validation failed for " ++ path
      | .inspect .. => defect.message

/-- What is said before the error. -/
def details (action : Action) : Rejection → List String
  | .load (.schema _ found) =>
      found.map fun violation => violation.place.text ++ ": " ++ violation.complaint.message
  | .load (.model cause) => [cause.message]
  | .load _ => []
  | .rule defect =>
      match action with
      | .validate => defect.message :: defect.kind.help.toList
      | .inspect .. => []

end Rejection

namespace Outcome

/-- The outcome of a request, `files` telling the texts that can be read. -/
def ofRequest (files : String → Option String) (request : Request) : Outcome :=
  let content := files request.path
  let notes := acceptNotes request.format request.path content
  let told := fun (notes : List Note) => notes.filter (·.level.threshold ≤ request.verbosity)
  let opening := request.action.opening request.path
  match Config.accept request.format request.path content with
  | .ok config =>
      { status := 0
        output := textOfLines (opening ++ request.action.result config)
        notes := told (notes ++ request.action.resultNotes config)
        details := []
        error := none }
  | .error rejection =>
      { status := 1
        output := textOfLines opening
        notes := told notes
        details := rejection.details request.action
        error := some (rejection.message request.action request.path) }

/-- How the program is called. -/
def usage : List String :=
  ["Usage: gcv [OPTIONS] [validate | inspect [config | endpoints] [--json]]",
   "",
   "  -c, --config <CONFIG>  path of the configuration, globalConfig.json unless GLOBAL_CONFIG_PATH is set",
   "      --format <FORMAT>  json or yaml, where the extension does not tell",
   "  -v, --verbose          tell the stages, and every step if given twice",
   "      --json             print endpoints as JSON",
   "  -h, --help             print this text",
   "  -V, --version          print the version"]

def ofStop : Stop → Outcome
  | .help => { status := 0, output := textOfLines usage, notes := [], details := [], error := none }
  | .version => { status := 0, output := textOfLines ["gcv 0.1.0"], notes := [], details := [], error := none }
  | .misuse => { status := 2, output := "", notes := [], details := usage, error := none }

/-- The outcome of the program for its arguments and environment. -/
def ofArguments (files : String → Option String) (environment : Option String) (arguments : List String) :
    Outcome :=
  match Request.ofArguments environment arguments with
  | .ok request => ofRequest files request
  | .error stop => ofStop stop

end Outcome

end AddonConfig
