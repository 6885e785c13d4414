/-!
# Notes

What is told while a configuration is loaded and checked, for those who ask for it.
-/

namespace AddonConfig

/-- Who a note is for: those who want to know the stages, or every step. -/
inductive NoteLevel where
  | info
  | debug
  deriving DecidableEq, Repr

namespace NoteLevel

/-- The label of a level, right-aligned. -/
def label : NoteLevel → String
  | .info => " INFO"
  | .debug => "DEBUG"

/-- How often one has to ask for more to be told the notes of a level. -/
def threshold : NoteLevel → Nat
  | .info => 1
  | .debug => 2

end NoteLevel

/-- What can be told. -/
inductive Note where
  | fallingBack (refusal : String)
  | checkingSchema (path : String)
  | schemaPassed (path : String)
  | checkingTabs (count : Nat)
  | checkingTab (name : String)
  | checkingServices (count : Nat)
  | checkingService (name : String)
  | checkingHandlers
  | checkingMenu (count : Nat)
  | passed
  | planned (count : Nat)
  deriving DecidableEq, Repr

namespace Note

def level : Note → NoteLevel
  | .schemaPassed _ | .passed => .info
  | _ => .debug

def message : Note → String
  | .fallingBack refusal => "Falling back to plain JSON parsing: " ++ refusal
  | .checkingSchema path => "Running schema validation for " ++ path
  | .schemaPassed path => "✓ Schema validation passed: " ++ path
  | .checkingTabs count => "Validating " ++ toString count ++ " configuration tabs..."
  | .checkingTab name => "  Validating tab '" ++ name ++ "'"
  | .checkingServices count => "Validating " ++ toString count ++ " input services..."
  | .checkingService name => "  Validating input '" ++ name ++ "'"
  | .checkingHandlers => "Validating REST handler bindings..."
  | .checkingMenu count => "Validating multi-level menu (" ++ toString count ++ " groups)..."
  | .passed => "✓ Global config validation passed"
  | .planned count => "Planned " ++ toString count ++ " REST endpoints"

/-- The note with the label of its level. -/
def line (note : Note) : String := note.level.label ++ " " ++ note.message

end Note

end AddonConfig
