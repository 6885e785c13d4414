import AddonConfig.Model.Basic
import AddonConfig.Rules.Defect

/-!
# Checks of one entity

A file entity says which files it takes, and the validators of every field are consistent. Which patterns
compile is for the engine to say that will match them: every check takes it as a parameter.
-/

namespace AddonConfig

/-- The engine that patterns are written for. -/
class PatternEngine where
  compiles : String → Bool

variable [PatternEngine]

/-- The greatest length is not below the least. -/
def checkLengths (field : String) : Option Int → Option Int → Check
  | some least, some greatest => if greatest < least then .error (.reversedLengths field) else .ok ()
  | _, _ => .ok ()

/-- A range has two bounds, the second not below the first. -/
def checkRange (field : String) : List Binary64 → Check
  | [low, high] => if high.lt low then .error (.reversedRange field) else .ok ()
  | _ => .error (.rangeSize field)

/-- A pattern compiles. -/
def checkPattern (field : String) (pattern : String) : Check :=
  if PatternEngine.compiles pattern then .ok () else .error (.badPattern field)

/-- The parameters of a validator are consistent. -/
def Validator.check (field : String) : Validator → Check
  | .string least greatest _ => checkLengths field least greatest
  | .number range _ => checkRange field range
  | .regex pattern _ => checkPattern field pattern
  | _ => .ok ()

/-- A file entity has options with file types. -/
def checkFile (entity : Entity) : Check :=
  if entity.isFile then
    match entity.options with
    | none => .error (.fileWithoutOptions entity.field)
    | some options =>
        if options.supportedFileTypes.isNone then .error (.fileWithoutTypes entity.field) else .ok ()
  else .ok ()

/-- The validators of a field, in order. -/
def FieldView.check (view : FieldView) : Check := view.validators.forM (Validator.check view.field)

/-- The file types and the validators of all fields of an entity. -/
def Entity.check (entity : Entity) : Check := do
  checkFile entity
  entity.fields.forM FieldView.check

end AddonConfig
