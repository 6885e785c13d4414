import AddonConfig.Command.Outcome
import AddonConfig.Proofs.Acceptance
import AddonConfig.Proofs.Records

/-!
# Calls of the program

A `Call` is a command with options before and behind it. Options are read alike wherever they stand
(`Given.read_append`, `Given.read_showing`), so every command is asked for the same file in the same format.
Whether that file is accepted is decided before anything of it is printed, without regard to the command and to
how much is told on the way.
-/

namespace AddonConfig

/-! ### Options at any level -/

theorem Argument.ofText_eq_separator {text : String} (h : Argument.ofText text = .separator) : text = "--" := by
  unfold Argument.ofText at h
  split at h
  · rename_i htext
    exact String.toList_inj.1 htext
  · dsimp only at h
    split at h <;> cases h
  · cases h
  · cases h

namespace Given

/-- What was given, and what of a configuration is to be shown. -/
def showing (given : Given) (subject : Option Subject) (asJson : Bool) : Given :=
  { given with subject := subject, asJson := asJson }

variable {given after : Given} {waiting still : Option ValueOption} {level : CommandLevel}
  {subject : Option Subject} {asJson : Bool}

theorem withValue_showing {option : ValueOption} {value : String} (h : given.withValue option value = .ok after) :
    (given.showing subject asJson).withValue option value = .ok (after.showing subject asJson) := by
  cases option with
  | config =>
    simp only [withValue] at h
    split_ifs at h with hgiven
    cases h
    exact if_neg hgiven
  | format =>
    simp only [withValue, showing] at h ⊢
    split at h
    · cases h
      rfl
    · cases h

theorem map_withValue_showing {option : ValueOption} {value : String}
    (h : (given.withValue option value).map (·, none) = .ok (after, still)) :
    ((given.showing subject asJson).withValue option value).map (·, none)
      = .ok (after.showing subject asJson, still) := by
  cases hvalue : given.withValue option value with
  | error stop => rw [hvalue] at h; cases h
  | ok found =>
    rw [hvalue] at h
    cases h
    rw [withValue_showing hvalue]
    rfl

theorem readShort_showing {letters : List Char} (h : readShort .top given letters = .ok (after, still)) :
    readShort level (given.showing subject asJson) letters = .ok (after.showing subject asJson, still) := by
  fun_induction readShort .top given letters with
  | case1 => cases h; rfl
  | case2 given rest ih => rw [readShort]; exact ih h
  | case3 => cases h
  | case4 => cases h
  | case5 given => cases h; rfl
  | case6 given value => rw [readShort]; exact map_withValue_showing h
  | case7 given value hne hsign =>
    rw [readShort]
    · exact map_withValue_showing h
    · exact hne
    · exact hsign
  | case8 => cases h

theorem readLong_showing {name : String} {value : Option String}
    (h : readLong .top given name value = .ok (after, still)) :
    readLong level (given.showing subject asJson) name value = .ok (after.showing subject asJson, still) := by
  unfold readLong at h ⊢
  split at h
  · exact map_withValue_showing h
  · cases h
    rfl
  · cases h
  · split_ifs at h with hverbose hhelp hversion hjson
    · cases h
      exact if_pos hverbose
    · exact hjson.2.1.elim

/-- What one argument gives among options without a command, and the option that waits for its value then. -/
inductive Step : Given → Option ValueOption → String → Given → Option ValueOption → Prop
  | value {given after : Given} {option : ValueOption} {argument value : String}
      (hform : Argument.ofText argument = .word value) (h : given.withValue option value = .ok after) :
      Step given (some option) argument after none
  | long {given after : Given} {still : Option ValueOption} {argument name : String} {value : Option String}
      (hform : Argument.ofText argument = .long name value)
      (h : readLong .top given name value = .ok (after, still)) : Step given none argument after still
  | short {given after : Given} {still : Option ValueOption} {argument : String} {letters : List Char}
      (hform : Argument.ofText argument = .short letters)
      (h : readShort .top given letters = .ok (after, still)) : Step given none argument after still

section
variable {argument : String}

theorem Step.read_eq (h : Step given waiting argument after still) (rest : List String) :
    read .top given waiting (argument :: rest) = read .top after still rest := by
  rw [read.eq_def]
  cases h with
  | value hform h => simp only [hform, h]; rfl
  | long hform h => simp only [hform, h]; rfl
  | short hform h => simp only [hform, h]; rfl

/-- A step gives the same at every level. -/
theorem Step.read_showing_eq (h : Step given waiting argument after still) (rest : List String) :
    read level (given.showing subject asJson) waiting (argument :: rest)
      = read level (after.showing subject asJson) still rest := by
  rw [read.eq_def]
  cases h with
  | value hform h => simp only [hform, withValue_showing h]; rfl
  | long hform h => simp only [hform, readLong_showing h]; rfl
  | short hform h => simp only [hform, readShort_showing h]; rfl

/-- Where no command follows, an argument is a step or a last separator. -/
theorem read_cons_eq_ok {rest : List String}
    (h : read .top given waiting (argument :: rest) = .ok (after, none)) :
    (∃ found still, Step given waiting argument found still ∧ read .top found still rest = .ok (after, none)) ∨
      (waiting = none ∧ Argument.ofText argument = .separator ∧ rest = [] ∧ after = given) := by
  unfold read at h
  cases waiting with
  | some option =>
    cases hform : Argument.ofText argument with
    | word value =>
      simp only [hform] at h
      obtain ⟨found, hvalue, h⟩ := bind_ok_inv h
      exact .inl ⟨found, none, .value hform hvalue, h⟩
    | _ => simp only [hform] at h; cases h
  | none =>
    cases hform : Argument.ofText argument with
    | separator =>
      simp only [hform] at h
      -- only a subject could stand behind a separator
      cases rest with
      | nil => cases h; exact .inr ⟨rfl, rfl, rfl, rfl⟩
      | cons word words => cases h
    | long name value =>
      simp only [hform] at h
      obtain ⟨⟨found, still⟩, hlong, h⟩ := bind_ok_inv h
      exact .inl ⟨found, still, .long hform hlong, h⟩
    | short letters =>
      simp only [hform] at h
      obtain ⟨⟨found, still⟩, hshort, h⟩ := bind_ok_inv h
      exact .inl ⟨found, still, .short hform hshort, h⟩
    | word text =>
      cases hname : CommandLevel.ofName? text <;> simp only [hform, hname] at h <;> cases h

end

/-- Options without a command are read after any command as they are before it. -/
theorem read_showing {options : List String} (h : read .top given waiting options = .ok (after, none)) :
    read level (given.showing subject asJson) waiting options = .ok (after.showing subject asJson, none) := by
  induction options generalizing given waiting with
  | nil =>
    cases waiting with
    | none => cases h; rfl
    | some option => cases h
  | cons argument rest ih =>
    rcases read_cons_eq_ok h with ⟨found, still, hstep, hrest⟩ | ⟨rfl, hform, rfl, rfl⟩
    · rw [hstep.read_showing_eq]
      exact ih hrest
    · rw [read.eq_def]
      simp only [hform]
      cases level <;> rfl

/-- What stands behind options is read with what they gave. -/
theorem read_append {options : List String} (h : read .top given waiting options = .ok (after, none))
    (hseparator : "--" ∉ options) (rest : List String) :
    read .top given waiting (options ++ rest) = read .top after none rest := by
  induction options generalizing given waiting with
  | nil =>
    cases waiting with
    | none => cases h; rfl
    | some option => cases h
  | cons argument others ih =>
    obtain ⟨hargument, hothers⟩ : "--" ≠ argument ∧ "--" ∉ others := by simpa using hseparator
    rcases read_cons_eq_ok h with ⟨found, still, hstep, hrest⟩ | ⟨-, hform, -, -⟩
    · rw [List.cons_append, hstep.read_eq]
      exact ih hrest hothers
    · exact (hargument (Argument.ofText_eq_separator hform).symm).elim

end Given

/-! ### Calls -/

def Subject.word : Subject → String
  | .config => "config"
  | .endpoints => "endpoints"

namespace Action

def level : Action → CommandLevel
  | .validate => .validate
  | .inspect .. => .inspect

/-- What is said after the command. -/
def operands : Action → List String
  | .validate => []
  | .inspect subject asJson => subject.word :: if asJson then ["--json"] else []

/-- The words by which an action is asked for. -/
def words (action : Action) : List String :=
  (match action with
    | .validate => "validate"
    | .inspect .. => "inspect") :: action.operands

end Action

/-- Options before and behind a command; without one there is nothing behind, and a configuration is validated. -/
inductive Placed (before : List String) : List String → Action → List String → Prop
  | alone : Placed before [] .validate before
  | around (behind : List String) (action : Action) :
      Placed before behind action (before ++ (action.words ++ behind))

/-- A call of the program that it takes: an action, and options with no command among them. -/
structure Call where
  environment : Option String
  before : List String
  behind : List String
  action : Action
  arguments : List String
  top : Given
  own : Given
  request : Request
  gives_top : Given.read .top {} none before = .ok (top, none)
  gives_own : Given.read .top {} none behind = .ok (own, none)
  separate : "--" ∉ before
  placed : Placed before behind action arguments
  taken : Request.ofArguments environment arguments = .ok request

namespace Call
variable (call : Call)

/-- The format that the options tell, those behind the command first. -/
def format : Option Format := call.own.format.or call.top.format

/-- The path that the options or else the environment tell. -/
def path : String :=
  ((call.own.config.or call.top.config).or call.environment).getD "globalConfig.json"

def outcome [PatternEngine] [YamlWording] (files : String → Option String) : Outcome :=
  .ofArguments files call.environment call.arguments

end Call

theorem Given.read_words (action : Action) (given : Given) (rest : List String) :
    read .top given none (action.words ++ rest) = .ok (given, some (action.level, action.operands ++ rest)) := by
  cases action with
  | validate => rfl
  | inspect subject asJson =>
    have hform : Argument.ofText "inspect" = .word "inspect" := by decide
    have hname : CommandLevel.ofName? "inspect" = some .inspect := by decide
    rw [Action.words, List.cons_append, read.eq_def]
    simp only [hform, hname]
    rfl

/-- The own level of an action is read with its operands before the options. -/
theorem Given.read_operands (action : Action) :
    ∃ subject asJson, (if action.level = .inspect then .inspect (subject.getD .config) asJson else .validate) = action ∧
      ∀ options, read action.level {} none (action.operands ++ options)
        = read action.level (showing {} subject asJson) none options := by
  cases action with
  | validate => exact ⟨none, false, rfl, fun _ => rfl⟩
  | inspect subject asJson =>
    refine ⟨some subject, asJson, rfl, fun options => ?_⟩
    cases subject <;> cases asJson <;> rfl

/-- Wherever the options stand, they say what is asked for. -/
theorem Placed.ofArguments_eq {before behind arguments : List String} {action : Action} {top own : Given}
    (placed : Placed before behind action arguments) (gives_top : Given.read .top {} none before = .ok (top, none))
    (gives_own : Given.read .top {} none behind = .ok (own, none)) (separate : "--" ∉ before)
    (environment : Option String) :
    ∃ own', Request.ofArguments environment arguments = Request.ofGiven environment action top own' ∧
      own'.config.or top.config = own.config.or top.config ∧ own'.format.or top.format = own.format.or top.format := by
  cases placed with
  | alone =>
    -- the level that is not there gives nothing, and the other one is taken for both
    cases gives_own
    refine ⟨top, ?_, by rw [Option.or_self, Option.none_or], by rw [Option.or_self, Option.none_or]⟩
    rw [Request.ofArguments, gives_top]
    rfl
  | around =>
    obtain ⟨subject, asJson, haction, hread⟩ := Given.read_operands action
    refine ⟨own.showing subject asJson, ?_, rfl, rfl⟩
    rw [Request.ofArguments, Given.read_append gives_top separate, Given.read_words]
    show (Given.read action.level {} none (action.operands ++ behind) >>= _) = _
    rw [hread, Given.read_showing gives_own]
    exact congrArg (fun action => Request.ofGiven environment action top _) haction

theorem Request.ofGiven_eq_ok {environment : Option String} {action : Action} {top own : Given} {request : Request}
    (h : ofGiven environment action top own = .ok request) :
    request.action = action ∧ request.path = ((own.config.or top.config).or environment).getD standardPath ∧
      request.format = own.format.or top.format := by
  unfold ofGiven at h
  split at h
  · cases h
  · cases h
    exact ⟨rfl, rfl, rfl⟩

/-- A call asks for what its command and its options say. -/
theorem Call.request_eq (call : Call) :
    call.request.action = call.action ∧ call.request.path = call.path ∧ call.request.format = call.format := by
  obtain ⟨own, hgiven, hconfig, hformat⟩ :=
    call.placed.ofArguments_eq call.gives_top call.gives_own call.separate call.environment
  obtain ⟨haction, hpath, hasked⟩ := Request.ofGiven_eq_ok (hgiven.symm.trans call.taken)
  rw [hconfig] at hpath
  exact ⟨haction, hpath, hasked.trans hformat⟩

/-! ### Outcomes -/

theorem Located.toConfig_eq_ok {located : Located} {config : Config} :
    located.toConfig = .ok config ↔
      Schema.violations Schema.document located.value = [] ∧ Config.decode located.value = .ok config := by
  unfold Located.toConfig
  split
  · rename_i hconforms
    cases Config.decode located.value <;> simp [hconforms]
  · rename_i hviolates
    exact ⟨fun h => (nomatch h), fun h => (hviolates h.1).elim⟩

section
variable [YamlWording]

/-- The file at a path, read in the format asked for or else told by the path, satisfies the schema and holds
the configuration. -/
def Config.LoadedFrom (files : String → Option String) (asked : Option Format) (path : String)
    (config : Config) : Prop :=
  ∃ format content located, chooseFormat asked path = .ok format ∧ files path = some content ∧
    readLocated format content = .ok located ∧ Schema.violations Schema.document located.value = [] ∧
    Config.decode located.value = .ok config

variable {files : String → Option String} {asked : Option Format} {path : String} {config : Config}

theorem Config.ofFile_eq_ok :
    Config.ofFile asked path (files path) = .ok config ↔ config.LoadedFrom files asked path := by
  constructor
  · intro h
    obtain ⟨format, hformat, h⟩ := bind_ok_inv h
    cases hfile : files path with
    | none => rw [hfile] at h; cases h
    | some content =>
      rw [hfile] at h
      obtain ⟨located, hlocated, h⟩ := bind_ok_inv h
      exact ⟨format, content, located, hformat, hfile, hlocated, Located.toConfig_eq_ok.1 h⟩
  · rintro ⟨format, content, located, hformat, hfile, hlocated, h⟩
    unfold Config.ofFile Config.ofText
    rw [hformat, hfile]
    show (readLocated format content >>= _) = _
    rw [hlocated]
    exact Located.toConfig_eq_ok.2 h

variable [PatternEngine]

theorem Config.accept_eq_ok :
    Config.accept asked path (files path) = .ok config ↔ config.LoadedFrom files asked path ∧ config.Ok := by
  rw [← Config.ofFile_eq_ok, Config.ok_iff, ← Config.check_eq_ok]
  unfold Config.accept
  cases Config.ofFile asked path (files path) with
  | error cause => simp
  | ok found =>
    cases hcheck : found.check with
    | error defect =>
      simp only [hcheck, reduceCtorEq, Except.ok.injEq, false_iff, not_and]
      rintro rfl
      simp [hcheck]
    | ok _ =>
      simp only [hcheck, Except.ok.injEq, iff_self_and]
      rintro rfl
      exact hcheck

namespace Outcome
variable (files : String → Option String) {request other : Request}

/-- A request ends well exactly if the configuration is accepted; otherwise nothing follows its opening. -/
theorem ofRequest_cases (request : Request) :
    (∃ config, Config.accept request.format request.path (files request.path) = .ok config ∧
      (ofRequest files request).status = 0 ∧
      (ofRequest files request).output =
        textOfLines (request.action.opening request.path ++ request.action.result config) ∧
      (ofRequest files request).error = none) ∨
    (∃ rejection, Config.accept request.format request.path (files request.path) = .error rejection ∧
      (ofRequest files request).status = 1 ∧
      (ofRequest files request).output = textOfLines (request.action.opening request.path) ∧
      (ofRequest files request).error = some (rejection.message request.action request.path)) := by
  cases haccept : Config.accept request.format request.path (files request.path) with
  | ok config =>
    left
    refine ⟨config, rfl, ?_, ?_, ?_⟩ <;> simp only [ofRequest, haccept]
  | error rejection =>
    right
    refine ⟨rejection, rfl, ?_, ?_, ?_⟩ <;> simp only [ofRequest, haccept]

theorem status_eq_zero_iff : (ofRequest files request).status = 0 ↔
    ∃ config : Config, config.LoadedFrom files request.format request.path ∧ config.Ok := by
  simp only [← Config.accept_eq_ok]
  rcases ofRequest_cases files request with ⟨config, haccept, hstatus, -⟩ | ⟨rejection, haccept, hstatus, -⟩
  · rw [hstatus, haccept]
    simp
  · rw [hstatus, haccept]
    simp

theorem output_of_failure (h : (ofRequest files request).status ≠ 0) :
    (ofRequest files request).output = textOfLines (request.action.opening request.path) := by
  rcases ofRequest_cases files request with ⟨config, -, hstatus, -⟩ | ⟨rejection, -, -, houtput, -⟩
  · exact absurd hstatus h
  · exact houtput

/-- How much is told on the way is seen in the notes alone. -/
theorem ofRequest_congr (haction : request.action = other.action) (hpath : request.path = other.path)
    (hformat : request.format = other.format) :
    (ofRequest files request).status = (ofRequest files other).status ∧
      (ofRequest files request).output = (ofRequest files other).output ∧
      (ofRequest files request).error = (ofRequest files other).error := by
  simp only [ofRequest, haction, hpath, hformat]
  cases Config.accept other.format other.path (files other.path) <;> exact ⟨rfl, rfl, rfl⟩

end Outcome

theorem Call.outcome_eq (call : Call) (files : String → Option String) :
    call.outcome files = .ofRequest files call.request := by
  rw [outcome, Outcome.ofArguments, call.taken]

/-- Calls for the same file in the same format, by whatever commands, all end well or all fail. They end well
exactly if the file loads and holds a right configuration. A call that fails prints nothing but what validation
opens with, and calls of one command answer alike, however much they ask to be told. -/
theorem calls_agree (files : String → Option String) (call other : Call) (hpath : call.path = other.path)
    (hformat : call.format = other.format) :
    ((call.outcome files).status = 0 ↔ (other.outcome files).status = 0) ∧
    ((call.outcome files).status = 0 ↔
      ∃ config : Config, config.LoadedFrom files call.format call.path ∧ config.Ok) ∧
    ((call.outcome files).status ≠ 0 → (call.outcome files).output =
      match call.action with
      | .validate => "Validating global config: " ++ call.path ++ "\n"
      | .inspect .. => "") ∧
    (call.action = other.action →
      (call.outcome files).status = (other.outcome files).status ∧
        (call.outcome files).output = (other.outcome files).output ∧
        (call.outcome files).error = (other.outcome files).error) := by
  obtain ⟨haction, hcallPath, hcallFormat⟩ := call.request_eq
  obtain ⟨haction', hotherPath, hotherFormat⟩ := other.request_eq
  rw [call.outcome_eq, other.outcome_eq]
  refine ⟨?_, ?_, fun hfails => ?_, fun hsame => ?_⟩
  · rw [Outcome.status_eq_zero_iff, Outcome.status_eq_zero_iff, hcallPath, hcallFormat, hotherPath, hotherFormat,
      hpath, hformat]
  · rw [Outcome.status_eq_zero_iff, hcallPath, hcallFormat]
  · rw [Outcome.output_of_failure files hfails, haction, hcallPath]
    cases call.action with
    | validate => simp [Action.opening, textOfLines]
    | inspect subject asJson => rfl
  · refine Outcome.ofRequest_congr files ?_ ?_ ?_
    · rw [haction, haction', hsame]
    · rw [hcallPath, hotherPath, hpath]
    · rw [hcallFormat, hotherFormat, hformat]

end

/-- Validation that tells every step, the path behind its command. -/
def verboseCall : Call where
  environment := none
  before := ["-vv"]
  behind := ["--config=addon.yaml"]
  action := .validate
  arguments := ["-vv", "validate", "--config=addon.yaml"]
  top := { verbosity := 2 }
  own := { config := some "addon.yaml" }
  request := ⟨.validate, "addon.yaml", none, 2⟩
  gives_top := by decide
  gives_own := by decide
  separate := by decide
  placed := .around _ .validate
  taken := by decide

/-- A print of endpoints, the environment telling the path. -/
def printingCall : Call where
  environment := some "addon.yaml"
  before := []
  behind := []
  action := .inspect .endpoints true
  arguments := ["inspect", "endpoints", "--json"]
  top := {}
  own := {}
  request := ⟨.inspect .endpoints true, "addon.yaml", none, 0⟩
  gives_top := by decide
  gives_own := by decide
  separate := by decide
  placed := .around _ (.inspect .endpoints true)
  taken := by decide

def addonText : String := "meta: \x7bname: a, restRoot: a, version: b, displayName: A\x7d\npages: \x7b\x7d\n"

def addonFile (path : String) : Option String := if path = "addon.yaml" then some addonText else none

theorem addonFile_loaded : ∃ config : Config, config.pages = ⟨none, none⟩ ∧
    ∀ [YamlWording], config.LoadedFrom addonFile none "addon.yaml" := by
  have hread : (Located.ofText? addonText).any (fun located =>
      (Schema.violations Schema.document located.value).isEmpty && (Config.decode located.value).toOption.any
        fun config => config.pages.configuration.isNone && config.pages.inputs.isNone) = true := by
    decide +kernel
  obtain ⟨located, hlocated, hread⟩ := (Option.any_eq_true _ _).1 hread
  obtain ⟨hconforms, hread⟩ := (Bool.and_eq_true_iff).1 hread
  cases hdecoded : Config.decode located.value with
  | error cause => simp [hdecoded, Except.toOption] at hread
  | ok config =>
    have hpages : config.pages.configuration = none ∧ config.pages.inputs = none := by
      simpa [hdecoded, Except.toOption] using hread
    refine ⟨config, by rw [← hpages.1, ← hpages.2], ?_⟩
    intro
    have hlocated : readLocated .yaml addonText = .ok located := by
      unfold readLocated
      simp only [hlocated]
    exact ⟨.yaml, addonText, located, rfl, rfl, hlocated, List.isEmpty_iff.1 hconforms, hdecoded⟩

/-- Both end well where the file is there; where it is not, both fail and the print stays empty. -/
theorem printingCall_agrees :
    verboseCall.path = printingCall.path ∧ verboseCall.format = printingCall.format ∧
      ∀ [PatternEngine] [YamlWording],
        (verboseCall.outcome addonFile).status = 0 ∧ (printingCall.outcome addonFile).status = 0 ∧
        (verboseCall.outcome fun _ => none).output = "Validating global config: addon.yaml\n" ∧
        (printingCall.outcome fun _ => none).output = "" := by
  refine ⟨rfl, rfl, ?_⟩
  intro _ _
  obtain ⟨config, hpages, hloaded⟩ := addonFile_loaded
  have hok : config.Ok := ⟨by simp [hpages], by simp [hpages]⟩
  have hfails : (verboseCall.outcome fun _ => none).status ≠ 0 ∧ (printingCall.outcome fun _ => none).status ≠ 0 :=
    ⟨Nat.one_ne_zero, Nat.one_ne_zero⟩
  obtain ⟨hagree, haccepted, -, -⟩ := calls_agree addonFile verboseCall printingCall rfl rfl
  obtain ⟨-, -, hvalidate, -⟩ := calls_agree (fun _ => none) verboseCall printingCall rfl rfl
  obtain ⟨-, -, hprint, -⟩ := calls_agree (fun _ => none) printingCall verboseCall rfl rfl
  have hstatus : (verboseCall.outcome addonFile).status = 0 :=
    haccepted.2 ⟨config, hloaded, hok⟩
  refine ⟨hstatus, hagree.1 hstatus, ?_, ?_⟩
  · rw [hvalidate hfails.1]
    decide
  · exact hprint hfails.2

end AddonConfig
