import AddonConfig.Command.Outcome
import AddonConfig.Pattern.Validity

/-!
# The program

Reads the file that is asked for and prints the outcome.
-/

namespace AddonConfig

/-- The program's engine takes `Pattern.compiles` for the patterns it can match. -/
instance : PatternEngine := ⟨Pattern.compiles⟩

instance : YamlWording := ⟨fun _ => "the text is not YAML"⟩

/-- The text of a file, if it can be read and is UTF-8. -/
def readFile? (path : String) : IO (Option String) := do
  try
    return String.fromUTF8? (← IO.FS.readBinFile path)
  catch _ => return none

def Outcome.print (outcome : Outcome) : IO Unit := do
  for note in outcome.notes do IO.eprintln note.line
  IO.print outcome.output
  for detail in outcome.details do IO.eprintln detail
  if let some error := outcome.error then IO.eprintln ("Error: " ++ error)

end AddonConfig

open AddonConfig in
def main (arguments : List String) : IO UInt32 := do
  let outcome ← match Request.ofArguments (← IO.getEnv "GLOBAL_CONFIG_PATH") arguments with
    | .ok request => do
        let content ← readFile? request.path
        pure (Outcome.ofRequest (fun _ => content) request)
    | .error stop => pure (Outcome.ofStop stop)
  outcome.print
  return outcome.status.toUInt32
