import AddonConfig.Text.Digits
import AddonConfig.Yaml.Cursor

/-!
# Scalars of a YAML text

Scalars in quotes, without quotes and as blocks. Where a scalar goes over several lines, one break
between two lines becomes a space, and of several breaks the first is dropped.
-/

namespace AddonConfig.Yaml

/-- Blanks and breaks inside a scalar. -/
structure Gap where
  /-- There is a break, or an escaped one. -/
  broken : Bool
  /-- The blanks before any break. -/
  blanks : List Char
  first : List Char
  later : List Char
  deriving Repr

namespace Gap

def none : Gap := ⟨false, [], [], []⟩

/-- What follows a break that was escaped. -/
def escaped : Gap := ⟨true, [], [], []⟩

/-- What stands for a gap in the scalar. -/
def fold (gap : Gap) : List Char :=
  if !gap.broken then gap.blanks
  else if gap.first = ['\n'] then
    if gap.later.isEmpty then [' '] else gap.later
  else gap.first ++ gap.later

def addBreak (gap : Gap) (taken : List Char) : Gap :=
  if gap.broken then { gap with later := gap.later ++ taken }
  else { gap with broken := true, blanks := [], first := taken }

/-- A gap with one more blank, which counts only before any break. -/
def addBlank (gap : Gap) (c : Char) : Gap :=
  if gap.broken then gap else { gap with blanks := gap.blanks ++ [c] }

/-- The gap that comes next, and the place after it. After a break no tab may stand left of `margin`. Each
step takes at least one character. -/
def read? (margin : Nat) : Nat → Gap → Cursor → Option (Gap × Cursor)
  | 0, _, _ => Option.none
  | fuel + 1, gap, c =>
      match c.rest with
      | [] => some (gap, c)
      | x :: _ =>
          if isBlank x then
            if gap.broken ∧ c.column < margin ∧ x = '\t' then Option.none
            else read? margin fuel (gap.addBlank x) c.step
          else if isBreak x then read? margin fuel (gap.addBreak c.lineBreak) c.stepLine
          else some (gap, c)

end Gap

/-- A character given by a code point in `count` hexadecimal digits, and the text after it. -/
def readCode? (count : Nat) (text : List Char) : Option (Char × List Char) :=
  if text.length < count then none
  else do
    let code ← ofHexDigits? (text.take count)
    return (← charOfCode? code, text.drop count)

/-- The character that an escape means, by the character after the backslash, and the count of characters
after the backslash. -/
def readEscape? : List Char → Option (Char × Nat)
  | [] => none
  | c :: rest =>
      match c with
      | '0' => some ('\x00', 1)
      | 'a' => some ('\x07', 1)
      | 'b' => some ('\x08', 1)
      | 't' => some ('\t', 1)
      | '\t' => some ('\t', 1)
      | 'n' => some ('\n', 1)
      | 'v' => some ('\x0b', 1)
      | 'f' => some ('\x0c', 1)
      | 'r' => some ('\r', 1)
      | 'e' => some ('\x1b', 1)
      | ' ' => some (' ', 1)
      | '"' => some ('"', 1)
      | '/' => some ('/', 1)
      | '\\' => some ('\\', 1)
      | 'N' => some ('\u0085', 1)
      | '_' => some ('\u00a0', 1)
      | 'L' => some ('\u2028', 1)
      | 'P' => some ('\u2029', 1)
      | 'x' => (readCode? 2 rest).map fun (c, _) => (c, 3)
      | 'u' => (readCode? 4 rest).map fun (c, _) => (c, 5)
      | 'U' => (readCode? 8 rest).map fun (c, _) => (c, 9)
      | _ => none

/-- The characters of a scalar in quotes after its first quote, and the place after its last. No line of
it may be that of a document marker. Each step takes at least one character. -/
def readQuoted? (quote : Char) : Nat → List Char → Cursor → Option (List Char × Cursor)
  | 0, _, _ => none
  | fuel + 1, done, c =>
      if c.column = 0 ∧ startsDocumentMarker c.rest then none
      else
        match c.rest with
        | [] => none
        | x :: rest =>
            if isBlank x ∨ isBreak x then do
              let (gap, c) ← Gap.read? 0 (c.rest.length + 1) .none c
              readQuoted? quote fuel (gap.fold.reverse ++ done) c
            else if x = quote then
              if quote = '\'' ∧ rest.head? = some '\'' then readQuoted? quote fuel ('\'' :: done) (c.steps 2)
              else some (done.reverse, c.step)
            else if x = '\\' ∧ quote = '"' then
              if (rest.head?.map isBreak).getD false then do
                let c := c.step.stepLine
                let (gap, c) ← Gap.read? 0 (c.rest.length + 1) .escaped c
                readQuoted? quote fuel (gap.fold.reverse ++ done) c
              else do
                let (value, size) ← readEscape? rest
                readQuoted? quote fuel (value :: done) (c.steps (size + 1))
            else readQuoted? quote fuel (x :: done) c.step

/-- Inside a flow collection these end a scalar without quotes. -/
def isFlowIndicator (c : Char) : Bool := c = ',' || c = '[' || c = ']' || c = '\x7b' || c = '\x7d'

/-- The characters of a scalar without quotes up to a blank, a break or what ends it. Inside a flow
collection a colon may not touch an indicator. Each step takes one character. -/
def readRun? (flow : Bool) : Nat → List Char → Cursor → Option (List Char × Cursor)
  | 0, _, _ => none
  | fuel + 1, done, c =>
      match c.rest with
      | [] => some (done, c)
      | x :: rest =>
          if isBlank x ∨ isBreak x then some (done, c)
          else if flow ∧ x = ':' ∧ (rest.head?.map fun y => isFlowIndicator y || y = '?').getD false then none
          else if (x = ':' ∧ startsGap rest) ∨ (flow ∧ isFlowIndicator x) then some (done, c)
          else readRun? flow fuel (x :: done) c.step

/-- A scalar without quotes: its characters, the place after the last of them, the place after the gap
that follows, and whether that gap has a break. -/
structure PlainScalar where
  chars : List Char
  stop : Cursor
  after : Cursor
  broken : Bool

/-- Reads a scalar without quotes. Outside of flow collections its lines begin at column `margin` or
later. Each step takes at least one character. -/
def readPlain? (flow : Bool) (margin : Nat) :
    Nat → List Char → Gap → Cursor → Cursor → Option PlainScalar
  | 0, _, _, _, _ => none
  | fuel + 1, done, gap, stop, c =>
      let ended : PlainScalar := ⟨done.reverse, stop, c, gap.broken⟩
      if (c.column = 0 ∧ startsDocumentMarker c.rest) ∨ c.rest.head? = some '#' then some ended
      else do
        let (run, next) ← readRun? flow (c.rest.length + 1) [] c
        if run.isEmpty then return ended
        let done := run ++ (gap.fold.reverse ++ done)
        let (gap, after) ← Gap.read? margin (next.rest.length + 1) .none next
        if after.offset = next.offset ∨ (!flow ∧ after.column < margin) then
          return ⟨done.reverse, next, after, gap.broken⟩
        readPlain? flow margin fuel done gap next after

/-- What becomes of the breaks at the end of a block. -/
inductive Chomping where
  | strip
  | clip
  | keep
  deriving DecidableEq, Repr

/-- The header of a block: how its end is kept and how far it is indented, if that is said. -/
def readHeader? (c : Cursor) : Option (Chomping × Option Nat × Cursor) :=
  let chomping? (c : Cursor) : Option Chomping :=
    if c.rest.head? = some '+' then some .keep
    else if c.rest.head? = some '-' then some .strip
    else none
  let indent? (c : Cursor) : Option Nat :=
    match c.rest with
    | x :: _ => if x.isDigit then some (digitValue x) else none
    | [] => none
  match chomping? c, indent? c with
  | some chomping, _ =>
      match indent? c.step with
      | some 0 => none
      | some indent => some (chomping, some indent, c.steps 2)
      | none => some (chomping, none, c.step)
  | none, some 0 => none
  | none, some indent =>
      match chomping? c.step with
      | some chomping => some (chomping, some indent, c.steps 2)
      | none => some (.clip, some indent, c.step)
  | none, none => some (.clip, none, c)

/-- The empty lines that come next in a block. Where the indentation is not known yet it is that of the
widest of them, but at least `least`: the breaks, the indentation, the place after the last break and the
place after the indentation of the line that follows. -/
structure BlockGap where
  breaks : List Char
  indent : Nat
  stop : Cursor
  after : Cursor

/-- The place after spaces up to column `indent`, or after all of them. -/
def skipIndent (indent : Option Nat) (c : Cursor) : Cursor :=
  let spaces := (c.rest.takeWhile (· = ' ')).length
  match indent with
  | some indent => c.steps (min spaces (indent - c.column))
  | none => c.steps spaces

/-- Reads the empty lines of a block. Each step takes at least one character. -/
def readBlockGap? (least : Nat) (indent : Option Nat) :
    Nat → Nat → List Char → Cursor → Cursor → Option BlockGap
  | 0, _, _, _, _ => none
  | fuel + 1, widest, breaks, stop, c =>
      let c := skipIndent indent c
      let widest := max widest c.column
      let inside : Bool := match indent with
        | some indent => c.column < indent
        | none => true
      if inside ∧ c.rest.head? = some '\t' then none
      else
        match c.rest with
        | x :: _ =>
            if isBreak x then
              readBlockGap? least indent fuel widest (breaks ++ c.lineBreak) c.stepLine c.stepLine
            else some ⟨breaks, indent.getD (max widest least), stop, c⟩
        | [] => some ⟨breaks, indent.getD (max widest least), stop, c⟩

/-- The lines of a block: `done` are the characters so far, `first` the break after the last line,
`gap` the empty lines after that, and `indented` whether that line began with a blank. Each step takes at
least one character. -/
def readLines? (folded : Bool) :
    Nat → List Char → List Char → Bool → BlockGap → Option (List Char × List Char × BlockGap)
  | 0, _, _, _, _ => none
  | fuel + 1, done, first, indented, gap =>
      let c := gap.after
      match c.rest with
      | [] => some (done, first, gap)
      | x :: _ =>
          if c.column ≠ gap.indent then some (done, first, gap)
          else do
            let blank := isBlank x
            let first :=
              if folded ∧ first = ['\n'] ∧ !indented ∧ !blank then
                if gap.breaks.isEmpty then [' '] else []
              else first
            let (line, c) := c.takeWhile (!isBreak ·)
            let next := c.stepLine
            let after ← readBlockGap? 0 (some gap.indent) (next.rest.length + 1) 0 [] next next
            readLines? folded fuel (done ++ first ++ gap.breaks ++ line) c.lineBreak blank after

/-- A block after its indicator: its characters, the place where it ends and the place to go on from.
`outer` is the indentation of the collection around it. -/
def readBlock? (folded : Bool) (outer : Int) (c : Cursor) : Option (List Char × Cursor × Cursor) := do
  let (chomping, indent, c) ← readHeader? c
  let c := (c.dropWhile isBlank).skipComment
  if !endsLine c.rest then none
  let c := c.stepLine
  let base := (max outer 0).toNat
  let least := max (outer + 1).toNat 1
  let gap ← readBlockGap? least (indent.map (base + ·)) (c.rest.length + 1) 0 [] c c
  let (chars, last, gap) ← readLines? folded (c.rest.length + 1) [] [] false gap
  let tail := match chomping with
    | .strip => []
    | .clip => last
    | .keep => last ++ gap.breaks
  return (chars ++ tail, gap.stop, gap.after)

end AddonConfig.Yaml
