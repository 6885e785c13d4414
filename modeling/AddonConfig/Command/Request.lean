import AddonConfig.Source.Format

/-!
# Requests on the command line

`Request.ofArguments` reads the arguments of the program. Options stand before or after the command; what
is said after it counts.
-/

namespace AddonConfig

/-- What can be shown of a configuration. -/
inductive Subject where
  | config
  | endpoints
  deriving DecidableEq, Repr

def Subject.ofName? (name : String) : Option Subject :=
  if name = "config" then some .config else if name = "endpoints" then some .endpoints else none

/-- What is to be done with a configuration that is accepted. -/
inductive Action where
  | validate
  | inspect (subject : Subject) (asJson : Bool)
  deriving DecidableEq, Repr

/-- What the program is asked for. -/
structure Request where
  action : Action
  path : String
  format : Option Format
  /-- How often more notes were asked for. -/
  verbosity : Nat
  deriving DecidableEq, Repr

/-- Why there is nothing to do. -/
inductive Stop where
  | help
  | version
  | misuse
  deriving DecidableEq, Repr

/-- What an argument is by its form. -/
inductive Argument where
  | word (text : String)
  | long (name : String) (value : Option String)
  | short (letters : List Char)
  | separator
  deriving DecidableEq, Repr

/-- Hyphens make an option of an argument; a lone hyphen is a word. -/
def Argument.ofText (text : String) : Argument :=
  match text.toList with
  | ['-', '-'] => .separator
  | '-' :: '-' :: rest =>
      let name := String.ofList (rest.takeWhile (· ≠ '='))
      match rest.dropWhile (· ≠ '=') with
      | _ :: value => .long name (some (String.ofList value))
      | [] => .long name none
  | '-' :: c :: rest => .short (c :: rest)
  | _ => .word text

/-- Where arguments stand: before any command or after one. -/
inductive CommandLevel where
  | top
  | validate
  | inspect
  deriving DecidableEq, Repr

/-- The level after a command. -/
def CommandLevel.ofName? (name : String) : Option CommandLevel :=
  if name = "validate" then some .validate else if name = "inspect" then some .inspect else none

inductive ValueOption where
  | config
  | format
  deriving DecidableEq, Repr

def ValueOption.ofName? (name : String) : Option ValueOption :=
  if name = "config" then some .config else if name = "format" then some .format else none

/-- What was given at one level. -/
structure Given where
  config : Option String := none
  format : Option Format := none
  verbosity : Nat := 0
  asJson : Bool := false
  subject : Option Subject := none
  deriving DecidableEq, Repr

namespace Given

/-- Gives an option its value, which it has once at most. -/
def withValue (given : Given) : ValueOption → String → Except Stop Given
  | .config, value =>
      if given.config.isSome ∨ value.isEmpty then .error .misuse
      else .ok { given with config := some value }
  | .format, value =>
      match given.format, Format.ofName? value with
      | none, some format => .ok { given with format := some format }
      | _, _ => .error .misuse

def withSubject (given : Given) (name : String) : Except Stop Given :=
  match given.subject, Subject.ofName? name with
  | none, some subject => .ok { given with subject := some subject }
  | _, _ => .error .misuse

/-- Reads short options; the rest of the letters may be the value of one. The option that still waits for
its value comes with the result. -/
def readShort (level : CommandLevel) (given : Given) : List Char → Except Stop (Given × Option ValueOption)
  | [] => .ok (given, none)
  | 'v' :: rest => readShort level { given with verbosity := given.verbosity + 1 } rest
  | 'h' :: _ => .error .help
  | 'V' :: _ => .error (if level = .top then .version else .misuse)
  | ['c'] => .ok (given, some .config)
  | 'c' :: '=' :: value => (given.withValue .config (String.ofList value)).map (·, none)
  | 'c' :: value => (given.withValue .config (String.ofList value)).map (·, none)
  | _ :: _ => .error .misuse

def readLong (level : CommandLevel) (given : Given) (name : String) (value : Option String) :
    Except Stop (Given × Option ValueOption) :=
  match ValueOption.ofName? name, value with
  | some option, some value => (given.withValue option value).map (·, none)
  | some option, none => .ok (given, some option)
  | none, some _ => .error .misuse
  | none, none =>
      if name = "verbose" then .ok ({ given with verbosity := given.verbosity + 1 }, none)
      else if name = "help" then .error .help
      else if name = "version" ∧ level = .top then .error .version
      else if name = "json" ∧ level = .inspect ∧ !given.asJson then .ok ({ given with asJson := true }, none)
      else .error .misuse

/-- Words that are no options, whatever their form. -/
def readWords (level : CommandLevel) (given : Given) (words : List String) : Except Stop Given :=
  if level = .inspect then words.foldlM withSubject given
  else if words.isEmpty then .ok given
  else .error .misuse

/-- Reads the arguments of a level up to a command. An option waits for its value where `waiting` says
so. -/
def read (level : CommandLevel) :
    Given → Option ValueOption → List String → Except Stop (Given × Option (CommandLevel × List String))
  | given, none, [] => .ok (given, none)
  | _, some _, [] => .error .misuse
  | given, waiting, argument :: rest =>
      match waiting, Argument.ofText argument with
      | some option, .word value => do read level (← given.withValue option value) none rest
      | some _, _ => .error .misuse
      | none, .separator => (readWords level given rest).map (·, none)
      | none, .long name value => do
          let (given, waiting) ← readLong level given name value
          read level given waiting rest
      | none, .short letters => do
          let (given, waiting) ← readShort level given letters
          read level given waiting rest
      | none, .word text =>
          match level, CommandLevel.ofName? text with
          | .inspect, _ => do read level (← given.withSubject text) none rest
          | .top, some command => .ok (given, some (command, rest))
          | .top, none => .error (if text = "help" ∧ asksForHelp rest then .help else .misuse)
          | .validate, _ => .error .misuse
where
  /-- Help is given on a command or on all. -/
  asksForHelp : List String → Bool
    | [] => true
    | [name] => name = "help" || (CommandLevel.ofName? name).isSome
    | _ => false

end Given

def standardPath : String := "globalConfig.json"

namespace Request

/-- What was given at the levels, the environment telling a path where a level does not. -/
def ofGiven (environment : Option String) (action : Action) (top own : Given) : Except Stop Request :=
  if environment = some "" ∧ (top.config.isNone ∨ own.config.isNone) then .error .misuse
  else .ok
    { action
      path := ((own.config.or top.config).or environment).getD standardPath
      format := own.format.or top.format
      verbosity := if own.verbosity = 0 then top.verbosity else own.verbosity }

def ofArguments (environment : Option String) (arguments : List String) : Except Stop Request := do
  let (top, command) ← Given.read .top {} none arguments
  match command with
  | none => ofGiven environment .validate top top
  | some (level, rest) => do
      let (own, _) ← Given.read level {} none rest
      let action := if level = .inspect then .inspect (own.subject.getD .config) own.asJson else .validate
      ofGiven environment action top own

end Request

end AddonConfig
