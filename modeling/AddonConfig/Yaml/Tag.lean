import AddonConfig.Text.Digits
import AddonConfig.Yaml.Cursor

/-!
# Tags and directives of a YAML text

A tag is a handle and a suffix, or a whole name in angle brackets. Directives before a document give its
version and the meaning of tag handles.
-/

namespace AddonConfig.Yaml

/-- A character of a tag name; `brackets` says whether commas and square brackets are among them. -/
def isTagChar (brackets : Bool) (c : Char) : Bool :=
  isWordChar c || ";/?:@&=+$.%!~*'()".toList.contains c || (brackets && (c = ',' || c = '[' || c = ']'))

/-- The bytes of a run of `%` escapes. -/
def readEscapedBytes : List Char → List Nat
  | '%' :: a :: b :: rest =>
      match ofHexDigits? [a, b] with
      | some byte => byte :: readEscapedBytes rest
      | none => []
  | _ => []

/-- How many bytes a character takes, by the first of them. -/
def encodedSize? (byte : Nat) : Option Nat :=
  if byte < 0x80 then some 1
  else if 0xC0 ≤ byte ∧ byte < 0xE0 then some 2
  else if 0xE0 ≤ byte ∧ byte < 0xF0 then some 3
  else if 0xF0 ≤ byte ∧ byte < 0xF8 then some 4
  else none

/-- The character that escaped bytes stand for, and how many of them. -/
def readEscaped? (text : List Char) : Option (Char × Nat) := do
  let first :: others := readEscapedBytes text | none
  let size ← encodedSize? first
  let others := others.take (size - 1)
  if others.length + 1 ≠ size ∨ others.any (fun b => b < 0x80 || 0xC0 ≤ b) then none
  let head := if size = 1 then first else first % Nat.pow 2 (7 - size)
  let c ← charOfCode? (others.foldl (fun n b => n * 64 + b % 64) head)
  return (c, size)

/-- The characters of a tag name, and the place after them. Each step takes at least one character. -/
def readTagChars? (brackets : Bool) : Nat → List Char → Cursor → Option (List Char × Cursor)
  | 0, _, _ => none
  | fuel + 1, done, c =>
      match c.rest with
      | x :: _ =>
          if x = '%' then do
            let (value, size) ← readEscaped? c.rest
            readTagChars? brackets fuel (value :: done) (c.steps (3 * size))
          else if isTagChar brackets x then readTagChars? brackets fuel (x :: done) c.step
          else some (done.reverse, c)
      | [] => some (done.reverse, c)

/-- The characters of a tag name after what `head` holds of it. -/
def readTagName? (brackets : Bool) (head : List Char) (c : Cursor) : Option (String × Cursor) := do
  let (chars, next) ← readTagChars? brackets (c.rest.length + 1) [] c
  if head.isEmpty ∧ next.offset = c.offset then none
  else some (String.ofList (head.tail ++ chars), next)

/-- An exclamation mark, what follows of a word, and a second mark if there is one. -/
def readHandle? (c : Cursor) : Option (List Char × Cursor) :=
  match c.rest with
  | '!' :: _ =>
      let (word, next) := c.step.takeWhile isWordChar
      if next.rest.head? = some '!' then some ('!' :: (word ++ ['!']), next.step)
      else some ('!' :: word, next)
  | _ => none

/-- A tag: its handle, its suffix and the place after it. A tag by its whole name has no handle, and
neither has a lone exclamation mark. -/
def readTag? (flow : Bool) (c : Cursor) : Option (String × String × Cursor) := do
  let (handle, suffix, c) ← body
  if startsGap c.rest ∨ (flow ∧ c.rest.head? = some ',') then some (handle, suffix, c) else none
where
  body : Option (String × String × Cursor) := do
    if c.rest.tail.head? = some '<' then
      let (name, next) ← readTagName? true [] (c.steps 2)
      if next.rest.head? = some '>' then return ("", name, next.step) else none
    else
      let (handle, next) ← readHandle? c
      if 1 < handle.length ∧ handle.getLast? = some '!' then
        let (suffix, next) ← readTagName? false [] next
        return (String.ofList handle, suffix, next)
      else
        let (suffix, next) ← readTagName? false handle next
        if suffix.isEmpty then return ("", "!", next) else return ("!", suffix, next)

/-- What a directive says. -/
inductive Directive where
  | version (major minor : Nat)
  | tagHandle (handle meaning : String)
  deriving DecidableEq, Repr

/-- A number of at most nine digits. -/
def readVersionPart? (c : Cursor) : Option (Nat × Cursor) :=
  let (digits, next) := c.takeWhile Char.isDigit
  if digits.isEmpty ∨ 9 < digits.length then none else some (ofDigits digits, next)

/-- A version: two numbers with a point between them. -/
def readVersion? (c : Cursor) : Option (Directive × Cursor) := do
  let (major, c) ← readVersionPart? (c.dropWhile isBlank)
  if c.rest.head? ≠ some '.' then none
  let (minor, c) ← readVersionPart? c.step
  return (.version major minor, c)

def readTagHandle? (c : Cursor) : Option (Directive × Cursor) := do
  let (handle, c) ← readHandle? (c.dropWhile isBlank)
  if handle.getLast? ≠ some '!' then none
  if !(c.rest.head?.map isBlank).getD false then none
  let (meaning, c) ← readTagName? true [] (c.dropWhile isBlank)
  if startsGap c.rest then return (.tagHandle (String.ofList handle) meaning, c) else none

/-- A directive: what it says, the place after it and the place after its line. -/
def readDirective? (c : Cursor) : Option (Directive × Cursor × Cursor) := do
  let (name, c) := c.step.takeWhile isWordChar
  if !startsGap c.rest then none
  let (directive, c) ←
    if name = "YAML".toList then readVersion? c
    else if name = "TAG".toList then readTagHandle? c
    else none
  let next := (c.dropWhile isBlank).skipComment
  if endsLine next.rest then return (directive, c, next.stepLine) else none

/-- The name of an anchor or an alias after its indicator. -/
def readAnchor? (c : Cursor) : Option (String × Cursor) :=
  let (name, next) := c.takeWhile isWordChar
  let ended := startsGap next.rest
    || (next.rest.head?.map ("?:,]\x7d%@`".toList.contains ·)).getD false
  if name.isEmpty ∨ !ended then none else some (String.ofList name, next)

end AddonConfig.Yaml
