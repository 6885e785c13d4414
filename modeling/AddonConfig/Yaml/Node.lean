import AddonConfig.Yaml.Scanner

/-!
# The nodes of a YAML document

A document is a tree of scalars, sequences, mappings and aliases, each with the bytes it covers.
`Document.ofTokens?` reads the first document of a text; `Document.ofText?` gives none where the text has
no document, and fails where a document cannot be read.
-/

namespace AddonConfig.Yaml

/-- The bytes that a node covers. -/
structure Span where
  start : Nat
  stop : Nat
  deriving DecidableEq, Repr, Inhabited

/-- What may be said of a node before its content. -/
structure Properties where
  anchor : Option String
  /-- The full name of the tag. -/
  tag : Option String
  deriving DecidableEq, Repr, Inhabited

/-- A node of a document. -/
inductive Node where
  | scalar (properties : Properties) (style : ScalarStyle) (text : String) (span : Span)
  | sequence (properties : Properties) (items : List Node) (span : Span)
  | mapping (properties : Properties) (entries : List (Node × Node)) (span : Span)
  | alias (name : String) (span : Span)
  deriving Repr, Inhabited

namespace Node

def bare : Properties := ⟨none, none⟩

/-- A scalar without any text. -/
def blank (place : Nat) : Node := .scalar bare .plain "" ⟨place, place⟩

end Node

/-- The meanings of the tag handles. -/
abbrev TagHandles := List (String × String)

/-- The handles that every document has. -/
def standardHandles : TagHandles := [("!", "!"), ("!!", "tag:yaml.org,2002:")]

/-- The full name of a tag. -/
def fullTag? (handles : TagHandles) (handle suffix : String) : Option String :=
  if handle.isEmpty then some suffix else (handles.lookup handle).map (· ++ suffix)

/-- Which nodes may stand at a place. -/
structure Allowed where
  /-- Block collections. -/
  block : Bool
  /-- A block sequence that is no further to the right than its parent. -/
  indentless : Bool
  deriving DecidableEq, Repr

namespace Node

/-- The properties of a node, in either order, the bytes they cover and whether there are any. -/
def readProperties? (handles : TagHandles) (tokens : List Token) :
    Option (Properties × Option Span × List Token) :=
  match tokens with
  | ⟨.anchor name, start, _⟩ :: ⟨.tag handle suffix, _, stop⟩ :: rest =>
      (fullTag? handles handle suffix).map fun tag => (⟨some name, some tag⟩, some ⟨start, stop⟩, rest)
  | ⟨.tag handle suffix, start, _⟩ :: ⟨.anchor name, _, stop⟩ :: rest =>
      (fullTag? handles handle suffix).map fun tag => (⟨some name, some tag⟩, some ⟨start, stop⟩, rest)
  | ⟨.anchor name, start, stop⟩ :: rest => some (⟨some name, none⟩, some ⟨start, stop⟩, rest)
  | ⟨.tag handle suffix, start, stop⟩ :: rest =>
      (fullTag? handles handle suffix).map fun tag => (⟨none, some tag⟩, some ⟨start, stop⟩, rest)
  | _ => some (bare, none, tokens)

/-- The tag of a scalar with content; a lone exclamation mark says nothing. -/
def scalarProperties (properties : Properties) : Properties :=
  if properties.tag = some "!" then { properties with tag := none } else properties

/-- Whether a token of a kind comes next. -/
def comesNext (kinds : List TokenKind) : List Token → Bool
  | token :: _ => kinds.contains token.kind
  | [] => false

/-- The place where the next token starts. -/
def nextStart : List Token → Nat
  | token :: _ => token.start
  | [] => 0

mutual

/-- A node. Each step takes a token or goes one level into the grammar. -/
def read? (handles : TagHandles) : Nat → Allowed → List Token → Option (Node × List Token)
  | 0, _, _ => none
  | fuel + 1, allowed, tokens => do
      if let ⟨.alias name, start, stop⟩ :: rest := tokens then
        return (.alias name ⟨start, stop⟩, rest)
      let (properties, said, rest) ← readProperties? handles tokens
      let start := (said.map Span.start).getD (nextStart rest)
      match rest with
      | ⟨.scalar style text, _, stop⟩ :: rest =>
          return (.scalar (scalarProperties properties) style text ⟨start, stop⟩, rest)
      | ⟨.flowSequence, _, _⟩ :: rest => do
          let (items, stop, rest) ← readFlowItems? handles fuel true rest
          return (.sequence properties items ⟨start, stop⟩, rest)
      | ⟨.flowMapping, _, _⟩ :: rest => do
          let (entries, stop, rest) ← readFlowEntries? handles fuel true rest
          return (.mapping properties entries ⟨start, stop⟩, rest)
      | ⟨.blockEntry, _, _⟩ :: _ =>
          if allowed.indentless then do
            let (items, stop, rest) ← readBlockItems? handles fuel true rest
            return (.sequence properties items ⟨start, stop⟩, rest)
          else empty? properties said rest
      | ⟨.blockSequence, _, _⟩ :: after =>
          if allowed.block then do
            let (items, stop, rest) ← readBlockItems? handles fuel false after
            return (.sequence properties items ⟨start, stop⟩, rest)
          else empty? properties said rest
      | ⟨.blockMapping, _, _⟩ :: after =>
          if allowed.block then do
            let (entries, stop, rest) ← readBlockEntries? handles fuel after
            return (.mapping properties entries ⟨start, stop⟩, rest)
          else empty? properties said rest
      | _ => empty? properties said rest
where
  /-- Properties alone make an empty scalar. -/
  empty? (properties : Properties) (said : Option Span) (rest : List Token) : Option (Node × List Token) :=
    said.map fun span => (.scalar properties .plain "" span, rest)

/-- The items of a block sequence; one that is no further to the right than its parent has no token at its
end. -/
def readBlockItems? (handles : TagHandles) :
    Nat → Bool → List Token → Option (List Node × Nat × List Token)
  | 0, _, _ => none
  | fuel + 1, indentless, tokens =>
      match tokens with
      | ⟨.blockEntry, _, stop⟩ :: rest => do
          let enders := if indentless then [.blockEntry, .key, .value, .blockEnd] else [.blockEntry, .blockEnd]
          let (item, rest) ←
            if comesNext enders rest then some (blank stop, rest) else read? handles fuel ⟨true, false⟩ rest
          let (items, stop, rest) ← readBlockItems? handles fuel indentless rest
          return (item :: items, stop, rest)
      | ⟨kind, start, stop⟩ :: rest =>
          if kind = .fault then none
          else if indentless then some ([], start, tokens)
          else if kind = .blockEnd then some ([], stop, rest)
          else none
      | [] => none

def readBlockEntries? (handles : TagHandles) :
    Nat → List Token → Option (List (Node × Node) × Nat × List Token)
  | 0, _ => none
  | fuel + 1, tokens =>
      match tokens with
      | ⟨.key, _, stop⟩ :: rest => do
          let (key, rest) ← readBlockPart? handles fuel stop rest
          let (value, rest) ← match rest with
            | ⟨.value, _, stop⟩ :: rest => readBlockPart? handles fuel stop rest
            | rest => if comesNext [.fault] rest then none else some (blank (nextStart rest), rest)
          let (entries, stop, rest) ← readBlockEntries? handles fuel rest
          return ((key, value) :: entries, stop, rest)
      | ⟨.blockEnd, _, stop⟩ :: rest => some ([], stop, rest)
      | _ => none

/-- A key or a value of a block mapping after its sign, which ends at `place`. -/
def readBlockPart? (handles : TagHandles) : Nat → Nat → List Token → Option (Node × List Token)
  | 0, _, _ => none
  | fuel + 1, place, tokens =>
      if comesNext [.key, .value, .blockEnd] tokens then some (blank place, tokens)
      else read? handles fuel ⟨true, true⟩ tokens

/-- The items of a flow sequence. A key makes an item that is a mapping with one entry. -/
def readFlowItems? (handles : TagHandles) :
    Nat → Bool → List Token → Option (List Node × Nat × List Token)
  | 0, _, _ => none
  | fuel + 1, first, tokens => do
      if let ⟨.flowSequenceEnd, _, stop⟩ :: rest := tokens then return ([], stop, rest)
      let tokens ← match first, tokens with
        | true, tokens => some tokens
        | false, ⟨.flowEntry, _, _⟩ :: rest => some rest
        | false, _ => none
      match tokens with
      | ⟨.flowSequenceEnd, _, stop⟩ :: rest => return ([], stop, rest)
      | ⟨.key, start, _⟩ :: rest => do
          let (item, rest) ← readFlowPair? handles fuel start rest
          let (items, stop, rest) ← readFlowItems? handles fuel false rest
          return (item :: items, stop, rest)
      | tokens => do
          let (item, rest) ← read? handles fuel ⟨false, false⟩ tokens
          let (items, stop, rest) ← readFlowItems? handles fuel false rest
          return (item :: items, stop, rest)

/-- A mapping with one entry inside a flow sequence, which ends with the token after it. Where the key is
missing the token after its sign is passed over. -/
def readFlowPair? (handles : TagHandles) : Nat → Nat → List Token → Option (Node × List Token)
  | 0, _, _ => none
  | fuel + 1, start, tokens => do
      let (key, rest) ← match tokens with
        | ⟨kind, _, stop⟩ :: rest =>
            if [.value, .flowEntry, .flowSequenceEnd].contains kind then some (blank stop, rest)
            else read? handles fuel ⟨false, false⟩ tokens
        | [] => none
      let (value, rest) ← match rest with
        | ⟨.value, _, _⟩ :: rest =>
            if comesNext [.flowEntry, .flowSequenceEnd] rest then some (blank (nextStart rest), rest)
            else read? handles fuel ⟨false, false⟩ rest
        | rest => some (blank (nextStart rest), rest)
      match rest with
      | token :: _ =>
          if token.kind = .fault then none
          else return (.mapping bare [(key, value)] ⟨start, token.stop⟩, rest)
      | [] => none

def readFlowEntries? (handles : TagHandles) :
    Nat → Bool → List Token → Option (List (Node × Node) × Nat × List Token)
  | 0, _, _ => none
  | fuel + 1, first, tokens => do
      if let ⟨.flowMappingEnd, _, stop⟩ :: rest := tokens then return ([], stop, rest)
      let tokens ← match first, tokens with
        | true, tokens => some tokens
        | false, ⟨.flowEntry, _, _⟩ :: rest => some rest
        | false, _ => none
      match tokens with
      | ⟨.flowMappingEnd, _, stop⟩ :: rest => return ([], stop, rest)
      | ⟨.key, _, _⟩ :: rest => do
          let (key, rest) ←
            if comesNext [.value, .flowEntry, .flowMappingEnd] rest then some (blank (nextStart rest), rest)
            else read? handles fuel ⟨false, false⟩ rest
          let (value, rest) ← match rest with
            | ⟨.value, _, _⟩ :: rest =>
                if comesNext [.flowEntry, .flowMappingEnd] rest then some (blank (nextStart rest), rest)
                else read? handles fuel ⟨false, false⟩ rest
            | rest => some (blank (nextStart rest), rest)
          let (entries, stop, rest) ← readFlowEntries? handles fuel false rest
          return ((key, value) :: entries, stop, rest)
      | tokens => do
          let (key, rest) ← read? handles fuel ⟨false, false⟩ tokens
          let value := blank (nextStart rest)
          let (entries, stop, rest) ← readFlowEntries? handles fuel false rest
          return ((key, value) :: entries, stop, rest)

end

end Node

/-- The directives before a document. -/
structure Directives where
  versioned : Bool
  handles : TagHandles
  deriving Repr

/-- Reads the directives before a document: at most one version, 1.1 or 1.2, and one meaning a handle. -/
def readDirectives? (found : Directives) : List Token → Option (Directives × List Token)
  | ⟨.version major minor, _, _⟩ :: rest =>
      if found.versioned ∨ major ≠ 1 ∨ (minor ≠ 1 ∧ minor ≠ 2) then none
      else readDirectives? { found with versioned := true } rest
  | ⟨.tagHandle handle meaning, _, _⟩ :: rest =>
      if (found.handles.lookup handle).isSome then none
      else readDirectives? { found with handles := (handle, meaning) :: found.handles } rest
  | rest => some (found, rest)

/-- The first document of a list of tokens, none if there is no document, and the tokens after it. -/
def Document.ofTokens? (tokens : List Token) : Option (Option Node × List Token) := do
  if Node.comesNext [.streamEnd] tokens then return (none, tokens)
  let (directives, rest) ← readDirectives? ⟨false, []⟩ tokens
  let handles := directives.handles ++ standardHandles
  let fuel := 4 * tokens.length + 4
  let (root, rest) ← match rest with
    | ⟨.documentStart, _, _⟩ :: rest =>
        if Node.comesNext [.documentStart, .documentEnd, .streamEnd] rest ∨ startsDirectives rest then
          some (Node.blank (Node.nextStart rest), rest)
        else Node.read? handles fuel ⟨true, false⟩ rest
    | rest =>
        if startsDirectives tokens then none else Node.read? handles fuel ⟨true, false⟩ rest
  match rest with
  | ⟨.fault, _, _⟩ :: _ => none
  | ⟨.documentEnd, _, _⟩ :: rest => return (some root, rest)
  | rest => return (some root, rest)
where
  startsDirectives : List Token → Bool
    | ⟨.version .., _, _⟩ :: _ => true
    | ⟨.tagHandle .., _, _⟩ :: _ => true
    | _ => false

/-- The only document of a text. -/
def Document.single? (text : String) : Option Node := do
  let (root, rest) ← Document.ofTokens? (Token.ofText text)
  if Node.comesNext [.streamEnd] (rest.dropWhile (·.kind = .documentEnd)) then root else none

/-- The first document of a text, none if the text has none. -/
def Document.ofText? (text : String) : Option (Option Node) := (Document.ofTokens? (Token.ofText text)).map (·.1)

end AddonConfig.Yaml
