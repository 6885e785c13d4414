/-!
# Places in a YAML text

A cursor is the text that is left, with the count of bytes, lines and columns before it. Lines end at a
carriage return, a line feed, both, a next-line character or a line or paragraph separator.
-/

namespace AddonConfig.Yaml

/-- Whether a character may stand in a YAML text. -/
def isAllowed (c : Char) : Bool :=
  c = '\t' || c = '\n' || c = '\r' || (32 ≤ c.toNat && c.toNat ≤ 126) || c.toNat = 0x85
    || (0xA0 ≤ c.toNat && c.toNat ≤ 0xFFFD) || 0x10000 ≤ c.toNat

def isBreak (c : Char) : Bool :=
  c = '\n' || c = '\r' || c.toNat = 0x85 || c.toNat = 0x2028 || c.toNat = 0x2029

def isBlank (c : Char) : Bool := c = ' ' || c = '\t'

/-- A letter, a digit, a hyphen or an underscore of ASCII. -/
def isWordChar (c : Char) : Bool := c.isAlphanum || c = '-' || c = '_'

def byteOrderMark : Char := Char.ofNat 0xFEFF

/-- A blank, a break or the end of the text comes next. -/
def startsGap : List Char → Bool
  | [] => true
  | c :: _ => isBlank c || isBreak c

/-- A break or the end of the text comes next. -/
def endsLine : List Char → Bool
  | [] => true
  | c :: _ => isBreak c

/-- Three hyphens or dots that stand alone. -/
def startsMarker (c : Char) : List Char → Bool
  | a :: b :: d :: rest => a = c && b = c && d = c && startsGap rest
  | _ => false

/-- The line of a document marker comes next. -/
def startsDocumentMarker (text : List Char) : Bool := startsMarker '-' text || startsMarker '.' text

/-- A place in a text. -/
structure Cursor where
  rest : List Char
  /-- The bytes before. -/
  offset : Nat
  /-- The lines before. -/
  line : Nat
  /-- The characters before on this line. -/
  column : Nat
  deriving Repr

namespace Cursor

def start (text : List Char) : Cursor := ⟨text, 0, 0, 0⟩

/-- The place after the next character, which is no break. -/
def step (c : Cursor) : Cursor :=
  match c.rest with
  | [] => c
  | x :: rest => { c with rest, offset := c.offset + x.utf8Size, column := c.column + 1 }

/-- The place after the next `n` characters, none of which is a break. -/
def steps (c : Cursor) : Nat → Cursor
  | 0 => c
  | n + 1 => c.step.steps n

def stepLine (c : Cursor) : Cursor :=
  match c.rest with
  | '\r' :: '\n' :: rest => { rest, offset := c.offset + 2, line := c.line + 1, column := 0 }
  | x :: rest => { rest, offset := c.offset + x.utf8Size, line := c.line + 1, column := 0 }
  | [] => c

/-- The break that comes next, as it is kept in a scalar. -/
def lineBreak (c : Cursor) : List Char :=
  match c.rest with
  | x :: _ => if x.toNat = 0x2028 ∨ x.toNat = 0x2029 then [x] else if isBreak x then ['\n'] else []
  | [] => []

/-- The next characters that satisfy `p`, none of which is a break, and the place after them. -/
def takeWhile (p : Char → Bool) (c : Cursor) : List Char × Cursor :=
  let run := c.rest.takeWhile p
  (run, c.steps run.length)

/-- The place after the characters that satisfy `p`, none of which is a break. -/
def dropWhile (p : Char → Bool) (c : Cursor) : Cursor := (c.takeWhile p).2

/-- The place after a comment, if one comes next. -/
def skipComment (c : Cursor) : Cursor :=
  if c.rest.head? = some '#' then c.dropWhile (!isBreak ·) else c

end Cursor

end AddonConfig.Yaml
