import AddonConfig.Yaml.Scalar
import AddonConfig.Yaml.Tag
import AddonConfig.Yaml.Token

/-!
# The tokens of a YAML text

`Token.ofText` lists the tokens of a text in order. A mapping key needs no sign of its own: only the colon
after it shows that there is one, so tokens wait until it is known that no key begins before them. A text
that cannot be read further ends in a fault, which counts only for a reader that gets that far.
-/

namespace AddonConfig.Yaml

/-- A place where a key may have begun: the token that would be its first, and whether it must be one. -/
structure KeyStart where
  number : Nat
  required : Bool
  place : Cursor
  deriving Repr

/-- A text under way. -/
structure Scanner where
  cursor : Cursor
  /-- The column of the innermost block collection, -1 outside of all. -/
  indent : Int
  /-- The columns of the block collections around it, the innermost first. -/
  outer : List Int
  /-- For each flow collection that is open, the innermost first, and for the text around them, where a
  key may have begun. -/
  keys : List (Option KeyStart)
  /-- Whether a key may begin at the next token. -/
  mayStartKey : Bool
  /-- The tokens that have not been handed out. -/
  waiting : List Token
  /-- The count of the tokens handed out. -/
  handed : Nat
  deriving Repr

namespace Scanner

def start (c : Cursor) : Scanner := ⟨c, -1, [], [none], true, [], 0⟩

def inFlow (s : Scanner) : Bool := 1 < s.keys.length

def nextNumber (s : Scanner) : Nat := s.handed + s.waiting.length

def emit (s : Scanner) (token : Token) : Scanner := { s with waiting := s.waiting ++ [token] }

/-- Puts a token in front of the one with that number. -/
def emitBefore (s : Scanner) (number : Nat) (token : Token) : Scanner :=
  let place := number - s.handed
  { s with waiting := s.waiting.take place ++ token :: s.waiting.drop place }

/-- Emits the token from the cursor to a later place and goes on from there. -/
def emitTo (s : Scanner) (kind : TokenKind) (stop : Cursor) : Scanner :=
  { s.emit (.between kind s.cursor stop) with cursor := stop }

/-- A key lies on one line and has at most this many bytes. -/
def keyLimit : Nat := 1024

/-- Whether a key that began there may still end here. -/
def KeyStart.alive (key : KeyStart) (c : Cursor) : Bool :=
  key.place.line = c.line && c.offset ≤ key.place.offset + keyLimit

/-- Gives up the key starts that are too far back; one that had to be a key is a fault. -/
def dropStale? (s : Scanner) : Option Scanner := do
  let keys ← s.keys.mapM fun
    | some key =>
        if KeyStart.alive key s.cursor then some (some key) else if key.required then none else some none
    | none => some none
  return { s with keys }

/-- Gives up the innermost key start; one that had to be a key is a fault. -/
def dropKey? (s : Scanner) : Option Scanner :=
  match s.keys with
  | some key :: outer => if key.required then none else some { s with keys := none :: outer }
  | _ => some s

/-- A key may begin here, if one may begin at all. -/
def saveKey? (s : Scanner) : Option Scanner :=
  if s.mayStartKey then do
    let key : KeyStart :=
      { number := s.nextNumber, required := !s.inFlow && s.indent = s.cursor.column, place := s.cursor }
    let s ← s.dropKey?
    return { s with keys := some key :: s.keys.tail }
  else some s

/-- Opens a block collection at a place to the right of the innermost one, before a token if one is
given. -/
def openBlock (s : Scanner) (kind : TokenKind) (before : Option Nat) (place : Cursor) : Scanner :=
  if s.inFlow ∨ (place.column : Int) ≤ s.indent then s
  else
    let opened := { s with outer := s.indent :: s.outer, indent := place.column }
    match before with
    | some number => opened.emitBefore number (.empty kind place)
    | none => opened.emit (.empty kind place)

/-- Closes the block collections that begin to the right of a column. -/
def closeFrom (column : Int) : List Int → Scanner → Scanner
  | [], s => s
  | indent :: outer, s =>
      if s.indent ≤ column then s
      else closeFrom column outer ({ s with indent, outer }.emit (.empty .blockEnd s.cursor))

def closeBlocks (s : Scanner) (column : Int) : Scanner :=
  if s.inFlow then s else closeFrom column s.outer s

/-- The place of the next token. Tabs count as blanks only where no key may begin. Each step takes at
least one character. -/
def skipGap : Nat → Scanner → Scanner
  | 0, s => s
  | fuel + 1, s =>
      let tabs := s.inFlow || !s.mayStartKey
      let c := s.cursor
      let c := if c.offset = 0 ∧ c.rest.head? = some byteOrderMark then c.step else c
      let c := (c.dropWhile fun x => x = ' ' || (tabs && x = '\t')).skipComment
      if endsLine c.rest ∧ !c.rest.isEmpty then
        skipGap fuel { s with cursor := c.stepLine, mayStartKey := s.mayStartKey || !s.inFlow }
      else { s with cursor := c }

def readEnd? (s : Scanner) : Option Scanner := do
  let c := s.cursor
  let c := if c.column = 0 then c else { c with column := 0, line := c.line + 1 }
  let s ← ({ s with cursor := c }.closeBlocks (-1)).dropKey?
  return { s with mayStartKey := false }.emitTo .streamEnd c

def readDirectiveLine? (s : Scanner) : Option Scanner := do
  let s ← (s.closeBlocks (-1)).dropKey?
  let (directive, stop, next) ← readDirective? s.cursor
  let kind := match directive with
    | .version major minor => .version major minor
    | .tagHandle handle meaning => .tagHandle handle meaning
  return { s with mayStartKey := false, cursor := next }.emit (.between kind s.cursor stop)

/-- The line of a document marker. -/
def readMarker? (kind : TokenKind) (s : Scanner) : Option Scanner := do
  let s ← (s.closeBlocks (-1)).dropKey?
  return { s with mayStartKey := false }.emitTo kind (s.cursor.steps 3)

def readFlowStart? (kind : TokenKind) (s : Scanner) : Option Scanner := do
  let s ← s.saveKey?
  return { s with keys := none :: s.keys, mayStartKey := true }.emitTo kind s.cursor.step

def readFlowEnd? (kind : TokenKind) (s : Scanner) : Option Scanner := do
  let s ← s.dropKey?
  let keys := if s.inFlow then s.keys.tail else s.keys
  return { s with keys, mayStartKey := false }.emitTo kind s.cursor.step

/-- A comma in a flow collection. -/
def readFlowEntry? (s : Scanner) : Option Scanner := do
  let s ← s.dropKey?
  return { s with mayStartKey := true }.emitTo .flowEntry s.cursor.step

/-- The hyphen of a block sequence. -/
def readBlockEntry? (s : Scanner) : Option Scanner := do
  if !s.inFlow ∧ !s.mayStartKey then none
  let s ← (s.openBlock .blockSequence none s.cursor).dropKey?
  return { s with mayStartKey := true }.emitTo .blockEntry s.cursor.step

/-- The question mark before a key. -/
def readKey? (s : Scanner) : Option Scanner := do
  if !s.inFlow ∧ !s.mayStartKey then none
  let s ← (s.openBlock .blockMapping none s.cursor).dropKey?
  return { s with mayStartKey := !s.inFlow }.emitTo .key s.cursor.step

/-- The colon before a value. What came before it from the last key start on is the key. -/
def readValue? (s : Scanner) : Option Scanner :=
  match s.keys with
  | some key :: outer =>
      let s := s.emitBefore key.number (.empty .key key.place)
      let s := s.openBlock .blockMapping (some key.number) key.place
      some ({ s with keys := none :: outer, mayStartKey := false }.emitTo .value s.cursor.step)
  | _ => do
      if !s.inFlow ∧ !s.mayStartKey then none
      let s := s.openBlock .blockMapping none s.cursor
      return { s with mayStartKey := !s.inFlow }.emitTo .value s.cursor.step

/-- An anchor or an alias. -/
def readReference? (kind : String → TokenKind) (s : Scanner) : Option Scanner := do
  let s ← s.saveKey?
  let (name, stop) ← readAnchor? s.cursor.step
  return { s with mayStartKey := false }.emitTo (kind name) stop

def readTagToken? (s : Scanner) : Option Scanner := do
  let s ← s.saveKey?
  let (handle, suffix, stop) ← readTag? s.inFlow s.cursor
  return { s with mayStartKey := false }.emitTo (.tag handle suffix) stop

def readBlockScalar? (folded : Bool) (s : Scanner) : Option Scanner := do
  let s ← s.dropKey?
  let (chars, stop, next) ← readBlock? folded s.indent s.cursor.step
  let style := if folded then ScalarStyle.quoted else .literal
  let token := Token.between (.scalar style (String.ofList chars)) s.cursor stop
  return { s with mayStartKey := true, cursor := next }.emit token

def readQuotedScalar? (quote : Char) (s : Scanner) : Option Scanner := do
  let s ← s.saveKey?
  let (chars, stop) ← readQuoted? quote (s.cursor.rest.length + 1) [] s.cursor.step
  return { s with mayStartKey := false }.emitTo (.scalar .quoted (String.ofList chars)) stop

/-- A scalar without quotes. A key may begin after it on a later line. -/
def readPlainScalar? (s : Scanner) : Option Scanner := do
  let s ← s.saveKey?
  let scalar ← readPlain? s.inFlow (s.indent + 1).toNat (s.cursor.rest.length + 1) [] .none s.cursor s.cursor
  let token := Token.between (.scalar .plain (String.ofList scalar.chars)) s.cursor scalar.stop
  return { s with mayStartKey := scalar.broken, cursor := scalar.after }.emit token

/-- The signs that begin no scalar without quotes. -/
def isIndicator (c : Char) : Bool := "-?:,[]\x7b\x7d#&*!|>'\"%@`".toList.contains c

/-- Whether a scalar without quotes may begin. -/
def startsPlain (flow : Bool) : List Char → Bool
  | [] => false
  | c :: rest =>
      !(isBlank c || isBreak c || isIndicator c)
        || (c = '-' && !(rest.head?.map isBlank).getD false)
        || (!flow && (c = '?' || c = ':') && !startsGap rest)

/-- The token at the cursor, by its first character. -/
def readToken? (s : Scanner) : Option Scanner :=
  let c := s.cursor
  match c.rest with
  | [] => s.readEnd?
  | x :: rest =>
      if c.column = 0 ∧ x = '%' then s.readDirectiveLine?
      else if c.column = 0 ∧ startsMarker '-' c.rest then s.readMarker? .documentStart
      else if c.column = 0 ∧ startsMarker '.' c.rest then s.readMarker? .documentEnd
      else if x = '[' then s.readFlowStart? .flowSequence
      else if x = '\x7b' then s.readFlowStart? .flowMapping
      else if x = ']' then s.readFlowEnd? .flowSequenceEnd
      else if x = '\x7d' then s.readFlowEnd? .flowMappingEnd
      else if x = ',' then s.readFlowEntry?
      else if x = '-' ∧ startsGap rest then s.readBlockEntry?
      else if x = '?' ∧ (s.inFlow ∨ startsGap rest) then s.readKey?
      else if x = ':' ∧ (s.inFlow ∨ startsGap rest) then s.readValue?
      else if x = '*' then s.readReference? .alias
      else if x = '&' then s.readReference? .anchor
      else if x = '!' then s.readTagToken?
      else if x = '|' ∧ !s.inFlow then s.readBlockScalar? false
      else if x = '>' ∧ !s.inFlow then s.readBlockScalar? true
      else if x = '\'' ∨ x = '"' then s.readQuotedScalar? x
      else if startsPlain s.inFlow c.rest then s.readPlainScalar?
      else none

/-- One more token. -/
def read? (s : Scanner) : Option Scanner := do
  let s ← (skipGap (s.cursor.rest.length + 1) s).dropStale?
  (s.closeBlocks s.cursor.column).readToken?

/-- The next token is known: none waits, or a key may still begin before it. -/
def needsMore (s : Scanner) : Bool :=
  s.waiting.isEmpty || s.keys.any fun
    | some key => key.number = s.handed
    | none => false

/-- Reads on until the next token is known. Each step takes at least one character or ends the text. -/
def settle? : Nat → Scanner → Option Scanner
  | 0, _ => none
  | fuel + 1, s => do
      let s ← if s.waiting.isEmpty then some s else s.dropStale?
      if s.needsMore then settle? fuel (← s.read?) else return s

/-- All tokens from here on. Each step hands out one token. -/
def tokens : Nat → Scanner → List Token
  | 0, s => [.empty .fault s.cursor]
  | fuel + 1, s =>
      match settle? (s.cursor.rest.length + 2) s with
      | none => [.empty .fault s.cursor]
      | some s =>
          match s.waiting with
          | [] => [.empty .fault s.cursor]
          | token :: waiting =>
              if token.kind = .streamEnd then [token]
              else token :: tokens fuel { s with waiting, handed := s.handed + 1 }

end Scanner

/-- The tokens of a text, ended by the end of the text or a fault. A byte order mark at its start is no
part of it. -/
def Token.ofText (text : String) : List Token :=
  let chars := text.toList
  let chars := if chars.head? = some byteOrderMark then chars.tail else chars
  if chars.all isAllowed then (Scanner.start (.start chars)).tokens (4 * chars.length + 4)
  else [⟨.fault, 0, 0⟩]

end AddonConfig.Yaml
