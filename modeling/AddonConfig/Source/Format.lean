import AddonConfig.Source.Path

/-!
# Formats of a configuration file
-/

namespace AddonConfig

/-- How a configuration file is written. -/
inductive Format where
  | json
  | yaml
  deriving DecidableEq, Repr

namespace Format

def name : Format → String
  | .json => "json"
  | .yaml => "yaml"

def ofName? (name : String) : Option Format :=
  if name = "json" then some .json else if name = "yaml" then some .yaml else none

/-- The format that the extension of a path tells. -/
def ofPath? (path : String) : Option Format :=
  match Path.extension? path with
  | some "json" => some .json
  | some "yaml" => some .yaml
  | some "yml" => some .yaml
  | _ => none

end Format

end AddonConfig
