import AddonConfig.Pattern.Expr
import AddonConfig.Text.Alphanumeric
import AddonConfig.Text.Digits

/-!
# Reading patterns

`Expr.ofText?` reads a pattern, or finds that it is none. Reading also tells which groups are referred to
by number or name, since these have to be matched one part at a time.
-/

namespace AddonConfig.Pattern

/-- What is known while a pattern is read. -/
structure Progress where
  rest : List Char
  /-- Half of the length of the pattern; no group that is referred to has a number beyond. -/
  bound : Nat
  /-- Blanks and line comments are skipped. -/
  extended : Bool
  /-- The count of groups opened so far. -/
  opened : Nat
  /-- The named groups so far, a later one with the same name first. -/
  names : List (String × Nat)
  /-- A group has been referred to by its number. -/
  numbered : Bool
  /-- The groups whose text is asked for again. -/
  recalled : List Nat
  deriving Repr

/-- A part of a pattern, or none where the pattern is not valid. -/
abbrev Reading := StateT Progress Option

/-- Where blanks and comments are skipped: between parts, in a comment group, in a line comment. -/
inductive Skipping where
  | between
  | group
  | line
  deriving DecidableEq, Repr

def isBlank (c : Char) : Bool := c = ' ' || c = '\r' || c = '\n' || c = '\t'

/-- The text after comments, and after blanks and line comments where these are skipped. -/
def skipFrom (extended : Bool) : Skipping → List Char → Option (List Char)
  | .between, '(' :: '?' :: '#' :: rest => skipFrom extended .group rest
  | .between, c :: rest =>
      if extended ∧ c = '#' then skipFrom extended .line rest
      else if extended ∧ isBlank c then skipFrom extended .between rest
      else some (c :: rest)
  | .between, [] => some []
  | .group, ')' :: rest => skipFrom extended .between rest
  | .group, '\\' :: _ :: rest => skipFrom extended .group rest
  | .group, _ :: rest => skipFrom extended .group rest
  | .group, [] => none
  | .line, '\n' :: rest => skipFrom extended .between rest
  | .line, _ :: rest => skipFrom extended .line rest
  | .line, [] => some []

/-- The text that is left. -/
def left : Reading (List Char) := return (← get).rest

/-- Goes on with another text. -/
def goOn (rest : List Char) : Reading Unit := modify fun s => { s with rest }

def skipBlanks : Reading Unit := do
  let s ← get
  goOn (← skipFrom s.extended .between s.rest)

def invalid {α : Type} : Reading α := StateT.lift none

/-- Skips blanks, then takes a closing parenthesis. -/
def closeGroup : Reading Unit := do
  skipBlanks
  match ← left with
  | ')' :: rest => goOn rest
  | _ => invalid

/-- A number up to the greatest of 64 bits, and the text after its digits. -/
def readNumber? (text : List Char) : Option (Nat × List Char) :=
  let digits := text.takeWhile Char.isDigit
  let value := ofDigits digits
  if digits.isEmpty ∨ Nat.pow 2 64 ≤ value then none else some (value, text.dropWhile Char.isDigit)

def isNameChar (c : Char) : Bool := c = '_' || Charset.alphanumeric.contains c

/-- A name up to `close`, and the text after that. -/
def readName? (close : Char) (text : List Char) : Option (List Char × List Char) :=
  match text.takeWhile isNameChar, text.dropWhile isNameChar with
  | [], _ => none
  | name, c :: rest => if c = close then some (name, rest) else none
  | _, [] => none

/-- A name or a number, which may be counted back from the last group. -/
def readReference? (close : Char) (relative : Bool) (text : List Char) :
    Option (Bool × List Char × List Char) :=
  match relative, text with
  | true, '-' :: rest => (readName? close rest).map fun (name, rest) => (true, name, rest)
  | _, _ => (readName? close text).map fun (name, rest) => (false, name, rest)

/-- The group that a reference means, which must have been opened. -/
def resolve (back : Bool) (name : List Char) : Reading Nat := do
  let s ← get
  let number ←
    match if back then none else s.names.lookup (String.ofList name) with
    | some number => pure number
    | none =>
        if !name.all Char.isDigit then invalid
        let n := ofDigits name
        if !back ∨ n = 0 then pure n
        else if n ≤ s.opened + 1 then pure (s.opened + 1 - n)
        else invalid
  if s.opened < number then invalid
  return number

/-- A group referred to by a name or number that ends at `close`. -/
def readNamed (close : Char) (relative : Bool) (text : List Char) : Reading Nat := do
  match readReference? close relative text with
  | some (back, name, rest) => do
      let number ← resolve back name
      goOn rest
      return number
  | none => invalid

/-- A group referred to by its number. -/
def readNumbered (text : List Char) : Reading Nat := do
  let s ← get
  match readNumber? text with
  | some (number, rest) =>
      if s.bound ≤ number ∨ s.opened < number then invalid
      set { s with rest, numbered := true }
      return number
  | none => invalid

/-- The character with a code point in hexadecimal digits. -/
def charOfHex? (digits : List Char) : Option Char := (ofHexDigits? digits).bind charOfCode?

/-- A code point in `count` hexadecimal digits, or in one to eight of them in braces. -/
def readHex? (count : Nat) (text : List Char) : Option (Char × List Char) :=
  let digits := text.take count
  if digits.length = count ∧ digits.all (hexValue? · |>.isSome) then
    (charOfHex? digits).map fun c => (c, text.drop count)
  else
    match text with
    | '\x7b' :: rest =>
        let digits := rest.takeWhile (hexValue? · |>.isSome)
        match rest.dropWhile (hexValue? · |>.isSome) with
        | '\x7d' :: rest =>
            if digits.isEmpty ∨ 8 < digits.length then none
            else (charOfHex? digits).map fun c => (c, rest)
        | _ => none
    | _ => none

/-- The characters up to a closing brace and with it, and the text after it. -/
def upToBrace? : List Char → Option (List Char × List Char)
  | [] => none
  | '\x7d' :: rest => some (['\x7d'], rest)
  | c :: rest => (upToBrace? rest).map fun (taken, rest) => (c :: taken, rest)

/-- The name of a property of characters, a letter or a text in braces. -/
def readProperty? : List Char → Option (List Char × List Char)
  | [] => none
  | '\x7b' :: rest => (upToBrace? rest).map fun (taken, rest) => ('\x7b' :: taken, rest)
  | c :: rest => some ([c], rest)

/-- What an escape stands for wherever it occurs: a character or a set. -/
def readPlainEscape? : List Char → Option (Expr × List Char)
  | [] => none
  | c :: rest =>
      if ['d', 's', 'w', 'D', 'S', 'W'].contains c then some (.set ['\\', c], rest)
      else if c = 'h' then some (.set "[0-9A-Fa-f]".toList, rest)
      else if c = 'H' then some (.set "[^0-9A-Fa-f]".toList, rest)
      else if c = 'p' ∨ c = 'P' then
        (readProperty? rest).map fun (name, rest) => (.set ('\\' :: c :: name), rest)
      else if c = 'x' then (readHex? 2 rest).map fun (c, rest) => (.char c, rest)
      else if c = 'u' then (readHex? 4 rest).map fun (c, rest) => (.char c, rest)
      else if c = 'U' then (readHex? 8 rest).map fun (c, rest) => (.char c, rest)
      else if c = 'a' then some (.char '\x07', rest)
      else if c = 'e' then some (.char '\x1b', rest)
      else if c = 'f' then some (.char '\x0c', rest)
      else if c = 'n' then some (.char '\n', rest)
      else if c = 'r' then some (.char '\r', rest)
      else if c = 't' then some (.char '\t', rest)
      else if c = 'v' then some (.char '\x0b', rest)
      else if c.isAlphanum then none
      else some (.char c, rest)

/-- What a text outside of a class stands for after its backslash. -/
def readEscape : Reading Expr := do
  match ← left with
  | 'k' :: '\'' :: rest => recalled (← readNamed '\'' true rest)
  | 'k' :: '<' :: rest => recalled (← readNamed '>' true rest)
  | 'A' :: rest => fixed .anchor rest
  | 'z' :: rest => fixed .anchor rest
  | 'b' :: rest => wordEdge rest
  | 'B' :: rest => wordEdge rest
  | '<' :: rest => fixed .wordEdge rest
  | '>' :: rest => fixed .wordEdge rest
  | 'K' :: rest => fixed .matchEdge rest
  | 'G' :: rest => fixed .matchEdge rest
  | text =>
      if (text.takeWhile Char.isDigit).isEmpty then
        match readPlainEscape? text with
        | some (expr, rest) => fixed expr rest
        | none => invalid
      else recalled (← readNumbered text)
where
  fixed (expr : Expr) (rest : List Char) : Reading Expr := do
    goOn rest
    return expr
  wordEdge (rest : List Char) : Reading Expr :=
    if rest.head? = some '\x7b' then invalid else fixed .wordEdge rest
  recalled (number : Nat) : Reading Expr := do
    modify fun s => { s with recalled := number :: s.recalled }
    return .again number

/-- The text in a class of what stands after a backslash. -/
def readClassEscape? : List Char → Option (List Char × List Char)
  | [] => none
  | c :: rest =>
      if ['k', 'A', 'z', 'B', '<', '>', 'K', 'G'].contains c then some (quoteInClass c, rest)
      else if c = 'b' then some (['\x08'], rest)
      else
        match readPlainEscape? (c :: rest) with
        | some (.char c, rest) => some (quoteInClass c, rest)
        | some (.set text, rest) => some (text, rest)
        | _ => none
where
  quoteInClass (c : Char) : List Char :=
    if isMeta c ∨ c = '&' ∨ c = '-' ∨ c = '~' then ['\\', c] else [c]

/-- The text of a class up to the bracket that closes the outermost of the `depth + 1` open ones. Each
step takes at least one character. -/
def readClassFrom? : Nat → Nat → List Char → List Char → Option (List Char × List Char)
  | 0, _, _, _ => none
  | fuel + 1, depth, done, text =>
      match text with
      | [] => none
      | '\\' :: rest => do
          let (taken, rest) ← readClassEscape? rest
          readClassFrom? fuel depth (taken.reverse ++ done) rest
      | '[' :: rest => readClassFrom? fuel (depth + 1) ('[' :: done) rest
      | ']' :: rest =>
          match depth with
          | 0 => some ((']' :: done).reverse, rest)
          | depth + 1 => readClassFrom? fuel depth (']' :: done) rest
      | c :: rest => readClassFrom? fuel depth (c :: done) rest

/-- A class after its opening bracket; a closing bracket that comes first is a member. -/
def readClass? (text : List Char) : Option (List Char × List Char) :=
  let fuel := text.length + 1
  match text with
  | '^' :: ']' :: rest => readClassFrom? fuel 0 [']', '^', '['] rest
  | '^' :: rest => readClassFrom? fuel 0 ['^', '['] rest
  | ']' :: rest => readClassFrom? fuel 0 [']', '['] rest
  | rest => readClassFrom? fuel 0 ['['] rest

/-- The bounds of a quantifier in braces. -/
def readBounds? (extended : Bool) (text : List Char) : Option (Nat × Option Nat × List Char) := do
  let text ← skipFrom extended .between text
  let (least, text) ← match text with
    | ',' :: _ => some (0, text)
    | _ => readNumber? text
  let text ← skipFrom extended .between text
  match text with
  | '\x7d' :: rest => some (least, some least, rest)
  | ',' :: rest =>
      let rest ← skipFrom extended .between rest
      let (most, rest) : Option Nat × List Char := match readNumber? rest with
        | some (most, rest) => (if most = Nat.pow 2 64 - 1 then none else some most, rest)
        | none => (none, rest)
      let rest ← skipFrom extended .between rest
      match rest with
      | '\x7d' :: rest => some (least, most, rest)
      | _ => none
  | _ => none

/-- A quantifier, if one follows. Braces without proper bounds are no quantifier. -/
def readQuantifier? (extended : Bool) : List Char → Option (Nat × Option Nat × List Char)
  | '?' :: rest => some (0, some 1, rest)
  | '*' :: rest => some (0, none, rest)
  | '+' :: rest => some (1, none, rest)
  | '\x7b' :: rest => readBounds? extended rest
  | _ => none

/-- The whole of a conditional: a condition on a group asks whether it has matched. -/
def conditionalOf (condition body : Expr) : Expr :=
  let condition := match condition with
    | .again number => .matched number
    | other => other
  let (yes, no) : Expr × Expr := match body with
    | .alternatives (yes :: rest) =>
        (yes, match rest with
          | [no] => no
          | rest => .alternatives rest)
    | other => (other, .empty)
  if yes.isEmpty ∧ no.isEmpty then condition else .conditional condition yes no

mutual

/-- Branches with bars between them. Numbers and names may not both refer to groups. -/
def readAlternatives : Nat → Nat → Reading Expr
  | 0, _ => invalid
  | fuel + 1, depth => do
      let first ← readBranch fuel depth []
      skipBlanks
      match ← left with
      | '|' :: _ => do
          let others ← readBranches fuel depth
          return .alternatives (first :: others)
      | _ =>
          let s ← get
          if s.numbered ∧ !s.names.isEmpty then invalid
          return first

/-- The branches after each bar. -/
def readBranches : Nat → Nat → Reading (List Expr)
  | 0, _ => invalid
  | fuel + 1, depth => do
      match ← left with
      | '|' :: rest => do
          goOn rest
          let branch ← readBranch fuel depth []
          skipBlanks
          return branch :: (← readBranches fuel depth)
      | _ => return []

/-- Parts in a row, as long as there is something to take. -/
def readBranch : Nat → Nat → List Expr → Reading Expr
  | 0, _, _ => invalid
  | fuel + 1, depth, done => do
      let before ← left
      let part ← readPiece fuel depth
      let after ← left
      if after.length = before.length then return Expr.ofParts done.reverse
      readBranch fuel depth (if part.isEmpty then done else part :: done)

/-- A part and its quantifier. -/
def readPiece : Nat → Nat → Reading Expr
  | 0, _ => invalid
  | fuel + 1, depth => do
      let part ← readAtom fuel depth
      skipBlanks
      let s ← get
      match readQuantifier? s.extended s.rest with
      | none => return part
      | some (least, most, rest) =>
          if !part.repeatable then invalid
          goOn rest
          skipBlanks
          let rest ← left
          let rest := if rest.head? = some '?' then rest.tail else rest
          match rest with
          | '+' :: rest => do
              goOn rest
              return .atomic (.repeated part least most)
          | rest => do
              goOn rest
              return .repeated part least most

/-- A part without its quantifier; nothing where a quantifier, a bar or a closing parenthesis stands. -/
def readAtom : Nat → Nat → Reading Expr
  | 0, _ => invalid
  | fuel + 1, depth => do
      skipBlanks
      match ← left with
      | [] => return .empty
      | '.' :: rest => do
          goOn rest
          return .dot
      | '^' :: rest => do
          goOn rest
          return .anchor
      | '$' :: rest => do
          goOn rest
          return .anchor
      | '(' :: rest => do
          goOn rest
          match depth with
          | 0 => invalid
          | depth + 1 => readGroup fuel depth
      | '\\' :: rest => do
          goOn rest
          readEscape
      | '[' :: rest =>
          match readClass? rest with
          | some (text, rest) => do
              goOn rest
              return .set text
          | none => invalid
      | c :: rest =>
          if ['+', '*', '?', '|', ')'].contains c then return .empty
          goOn rest
          return .char c

/-- A group after its opening parenthesis. -/
def readGroup : Nat → Nat → Reading Expr
  | 0, _ => invalid
  | fuel + 1, depth => do
      skipBlanks
      match ← left with
      | '?' :: '=' :: rest => return .look false (← body fuel depth rest)
      | '?' :: '!' :: rest => return .look false (← body fuel depth rest)
      | '?' :: '<' :: '=' :: rest => return .look true (← body fuel depth rest)
      | '?' :: '<' :: '!' :: rest => return .look true (← body fuel depth rest)
      | '?' :: '<' :: rest => named fuel depth rest
      | '?' :: 'P' :: '<' :: rest => named fuel depth rest
      | '?' :: 'P' :: '=' :: rest => return .again (← readNamed ')' false rest)
      | '?' :: '>' :: rest => return .atomic (← body fuel depth rest)
      | '?' :: '(' :: rest => do
          goOn rest
          readConditional fuel depth
      | '?' :: rest => do
          goOn rest
          readFlags fuel depth (← get).extended false none
      | rest => numbered fuel depth rest

/-- What stands in a group, with its closing parenthesis. -/
def body : Nat → Nat → List Char → Reading Expr
  | 0, _, _ => invalid
  | fuel + 1, depth, rest => do
      goOn rest
      let expr ← readAlternatives fuel depth
      closeGroup
      return expr

/-- A capturing group. -/
def numbered : Nat → Nat → List Char → Reading Expr
  | 0, _, _ => invalid
  | fuel + 1, depth, rest => do
      modify fun s => { s with opened := s.opened + 1 }
      let number := (← get).opened
      return .group number (← body fuel depth rest)

/-- A capturing group with a name. -/
def named : Nat → Nat → List Char → Reading Expr
  | 0, _, _ => invalid
  | fuel + 1, depth, text => do
      match readName? '>' text with
      | some (name, rest) => do
          modify fun s => { s with names := (String.ofList name, s.opened + 1) :: s.names }
          numbered fuel depth rest
      | none => invalid

/-- Flags up to a closing parenthesis, which stay in force, or up to a colon and what they apply to.
`outer` is the setting to go back to, and `last` the flag or hyphen just before. -/
def readFlags : Nat → Nat → Bool → Bool → Option Char → Reading Expr
  | 0, _, _, _, _ => invalid
  | fuel + 1, depth, outer, negative, last => do
      let before ← left
      skipBlanks
      let text ← left
      let last := if text.length = before.length then last else some ' '
      match text with
      | [] => invalid
      | ')' :: rest => do
          if last = none ∨ last = some '-' then invalid
          goOn rest
          return .empty
      | ':' :: rest => do
          if last = some '-' then invalid
          let expr ← body fuel depth rest
          modify fun s => { s with extended := outer }
          return expr
      | '-' :: rest => do
          if negative then invalid
          goOn rest
          readFlags fuel depth outer true (some '-')
      | c :: rest => do
          if c = 'x' then modify fun s => { s with extended := !negative }
          else if c = 'u' then
            if negative then invalid
          else if ! ['i', 'm', 's', 'U'].contains c then invalid
          goOn rest
          readFlags fuel depth outer negative (some c)

/-- A condition: a group, or a pattern. -/
def readCondition : Nat → Nat → Reading Expr
  | 0, _ => invalid
  | fuel + 1, depth => do
      match ← left with
      | '\'' :: rest => return .again (← readNamed '\'' true rest)
      | '<' :: rest => return .again (← readNamed '>' true rest)
      | text =>
          if (text.takeWhile Char.isDigit).isEmpty then readAlternatives fuel depth
          else return .again (← readNumbered text)

/-- A conditional after the parenthesis that opens its condition. Without branches it is the condition
alone, which then must be on a group. -/
def readConditional : Nat → Nat → Reading Expr
  | 0, _ => invalid
  | fuel + 1, depth => do
      let condition ← readCondition fuel depth
      closeGroup
      let before ← left
      let branches ← readAlternatives fuel depth
      let after ← left
      if after.length = before.length then
        match condition with
        | .again number => do
            closeGroup
            return .matched number
        | _ => invalid
      else
        closeGroup
        return conditionalOf condition branches

end

/-- The greatest number of groups inside each other. -/
def depthLimit : Nat := 63

/-- A pattern and the groups whose text it asks for again. -/
def Expr.ofText? (pattern : String) : Option (Expr × List Nat) := do
  let chars := pattern.toList
  let start : Progress :=
    { rest := chars, bound := pattern.utf8ByteSize / 2, extended := false, opened := 0, names := [],
      numbered := false, recalled := [] }
  let (expr, s) ← (readAlternatives (8 * chars.length + 8) depthLimit).run start
  if s.rest.isEmpty then some (expr, s.recalled) else none

end AddonConfig.Pattern
