import AddonConfig.Json.Basic
import AddonConfig.Number.Decimal
import AddonConfig.Text.Digits

/-!
# Reading JSON text

`Json.read` accepts the JSON grammar and nothing else. Integers from `-2 ^ 63` to `2 ^ 64 - 1` stay
integers, `-0` and all other numbers become binary64, collections nest at most 127 deep, and of members
with one name the last wins.
-/

namespace AddonConfig.Json

/-- Why a text is not JSON. -/
inductive ReadError where
  | unexpectedEnd
  | unexpectedChar
  | badNumber
  | numberOutOfRange
  | badEscape
  | controlCharacter
  | tooDeep
  | trailingText
  deriving DecidableEq, Repr

/-- A value read from the front of a text, and the rest of the text. -/
abbrev Reader (α : Type) := List Char → Except ReadError (α × List Char)

/-- The greatest number of nested collections that are read. -/
def nestingLimit : Nat := 127

/-- The greatest integer that digits are gathered into. -/
def digitLimit : Nat := Nat.pow 2 64 - 1

/-- The greatest size of an exponent. -/
def exponentLimit : Nat := Nat.pow 2 31 - 1

def isBlank (c : Char) : Bool := c = ' ' || c = '\n' || c = '\t' || c = '\r'

/-- The text after its leading blanks. -/
def skipBlanks (text : List Char) : List Char := text.dropWhile isBlank

/-- The digits gathered so far and the count of the digits that no longer fitted. -/
structure Gathered where
  digits : Nat
  dropped : Nat
  taken : Nat
  deriving Repr

namespace Gathered

/-- Adds a digit; after the first that does not fit all others are dropped too. -/
def add (g : Gathered) (c : Char) : Gathered :=
  let digits := g.digits * 10 + digitValue c
  if g.dropped = 0 ∧ digits ≤ digitLimit then { g with digits, taken := g.taken + 1 }
  else { g with dropped := g.dropped + 1 }

/-- Gathers a run of digits. -/
def run (g : Gathered) (digits : List Char) : Gathered := digits.foldl add g

end Gathered

/-- A number written with a fraction or an exponent, or one that no integer holds. -/
def floatOf (negative : Bool) (digits : Nat) (exponent : Int) : Except ReadError Number :=
  match Binary64.ofScaledDecimal ⟨negative, digits, exponent⟩ with
  | some value => .ok (.float value)
  | none => .error .numberOutOfRange

/-- The exponent part, after its letter. -/
def readExponent (negative : Bool) (digits : Nat) (exponent : Int) : Reader Number
  | text => do
      let (down, text) : Bool × List Char := match text with
        | '+' :: rest => (false, rest)
        | '-' :: rest => (true, rest)
        | rest => (false, rest)
      let run := text.takeWhile Char.isDigit
      let rest := text.dropWhile Char.isDigit
      if run.isEmpty then
        throw (if rest.isEmpty then .unexpectedEnd else .badNumber)
      let size := run.foldl (fun n c => if n ≤ exponentLimit then n * 10 + digitValue c else n) 0
      if exponentLimit < size then
        if digits ≠ 0 ∧ down = false then throw .numberOutOfRange
        return (.float (.zero negative), rest)
      let number ← floatOf negative digits (if down then exponent - size else exponent + size)
      return (number, rest)

/-- What follows the digits of a number with a fraction. -/
def readScale (negative : Bool) (digits : Nat) (exponent : Int) : Reader Number
  | 'e' :: rest => readExponent negative digits exponent rest
  | 'E' :: rest => readExponent negative digits exponent rest
  | rest => do return (← floatOf negative digits exponent, rest)

/-- An integer without fraction and exponent. -/
def wholeNumber (negative : Bool) (digits : Nat) : Number :=
  if negative then
    if digits = 0 ∨ Nat.pow 2 63 < digits then .float (Binary64.ofRatio true digits 1) else .int (-digits)
  else .int digits

/-- What follows the integer digits of a number. -/
def readFraction (negative : Bool) (whole : Gathered) : Reader Number
  | '.' :: rest =>
      let run := rest.takeWhile Char.isDigit
      let after := rest.dropWhile Char.isDigit
      if run.isEmpty then .error (if after.isEmpty then .unexpectedEnd else .badNumber)
      else
        let all := Gathered.run { whole with dropped := 0, taken := 0 } run
        readScale negative all.digits ((whole.dropped : Int) - all.taken) after
  | 'e' :: rest => readExponent negative whole.digits whole.dropped rest
  | 'E' :: rest => readExponent negative whole.digits whole.dropped rest
  | rest => do
      if whole.dropped = 0 then return (wholeNumber negative whole.digits, rest)
      else return (← floatOf negative whole.digits whole.dropped, rest)

/-- A number after its sign. -/
def readDigits (negative : Bool) : Reader Number
  | [] => .error .unexpectedEnd
  | '0' :: rest =>
      match rest with
      | c :: _ => if c.isDigit then .error .badNumber else readFraction negative ⟨0, 0, 0⟩ rest
      | [] => readFraction negative ⟨0, 0, 0⟩ rest
  | text@(c :: _) =>
      if c.isDigit then
        readFraction negative (Gathered.run ⟨0, 0, 0⟩ (text.takeWhile Char.isDigit))
          (text.dropWhile Char.isDigit)
      else .error .badNumber

def readNumber : Reader Number
  | '-' :: rest => readDigits true rest
  | text => readDigits false text

def readHex4 : Reader Nat
  | a :: b :: c :: d :: rest =>
      match ofHexDigits? [a, b, c, d] with
      | some code => .ok (code, rest)
      | none => .error .badEscape
  | _ => .error .unexpectedEnd

def isHighSurrogate (n : Nat) : Bool := 0xD800 ≤ n && n ≤ 0xDBFF

def isLowSurrogate (n : Nat) : Bool := 0xDC00 ≤ n && n ≤ 0xDFFF

/-- The character of a `\u` escape after its letter; a surrogate needs its partner. -/
def readUnicode (text : List Char) : Except ReadError (Char × List Char) := do
  let (first, rest) ← readHex4 text
  if isLowSurrogate first then throw .badEscape
  if isHighSurrogate first then
    match rest with
    | '\\' :: 'u' :: rest =>
        let (second, rest) ← readHex4 rest
        if isLowSurrogate second then
          return (Char.ofNat (0x10000 + (first - 0xD800) * 0x400 + (second - 0xDC00)), rest)
        else throw .badEscape
    | _ => throw .badEscape
  return (Char.ofNat first, rest)

/-- The character of an escape after its backslash. -/
def readEscape : List Char → Except ReadError (Char × List Char)
  | [] => .error .unexpectedEnd
  | c :: rest =>
      if c = '"' ∨ c = '\\' ∨ c = '/' then .ok (c, rest)
      else if c = 'b' then .ok ('\x08', rest)
      else if c = 'f' then .ok ('\x0c', rest)
      else if c = 'n' then .ok ('\n', rest)
      else if c = 'r' then .ok ('\r', rest)
      else if c = 't' then .ok ('\t', rest)
      else if c = 'u' then readUnicode rest
      else .error .badEscape

/-- The characters of a string up to its closing quote, each step taking at least one character. -/
def readChars : Nat → List Char → List Char → Except ReadError (String × List Char)
  | 0, _, _ => .error .unexpectedEnd
  | fuel + 1, done, text =>
      match text with
      | [] => .error .unexpectedEnd
      | '"' :: rest => .ok (String.ofList done.reverse, rest)
      | '\\' :: rest => do
          let (c, rest) ← readEscape rest
          readChars fuel (c :: done) rest
      | c :: rest => if c.toNat < 32 then .error .controlCharacter else readChars fuel (c :: done) rest

/-- A string after its opening quote. -/
def readString (text : List Char) : Except ReadError (String × List Char) :=
  readChars (text.length + 1) [] text

/-- A keyword after its first letter. -/
def readWord (value : Json) (word : List Char) (text : List Char) : Except ReadError (Json × List Char) :=
  if word.isPrefixOf text then .ok (value, text.drop word.length)
  else .error (if text.isPrefixOf word then .unexpectedEnd else .unexpectedChar)

mutual

/-- A value; `depth` collections may still be opened, and each step takes at least one character. -/
def readValue : Nat → Nat → Reader Json
  | 0, _, _ => .error .unexpectedEnd
  | fuel + 1, depth, text =>
      match skipBlanks text with
      | [] => .error .unexpectedEnd
      | 'n' :: rest => readWord .null ['u', 'l', 'l'] rest
      | 't' :: rest => readWord (.bool true) ['r', 'u', 'e'] rest
      | 'f' :: rest => readWord (.bool false) ['a', 'l', 's', 'e'] rest
      | '"' :: rest => do
          let (s, rest) ← readString rest
          return (.str s, rest)
      | '[' :: rest =>
          match depth with
          | 0 => .error .tooDeep
          | depth + 1 =>
              match skipBlanks rest with
              | ']' :: rest => .ok (.arr [], rest)
              | rest => do
                  let (items, rest) ← readItems fuel depth [] rest
                  return (.arr items, rest)
      | '\x7b' :: rest =>
          match depth with
          | 0 => .error .tooDeep
          | depth + 1 =>
              match skipBlanks rest with
              | '\x7d' :: rest => .ok (.obj [], rest)
              | rest => do
                  let (members, rest) ← readMembers fuel depth [] rest
                  return (.obj members, rest)
      | c :: rest =>
          if c = '-' ∨ c.isDigit then do
            let (number, rest) ← readNumber (c :: rest)
            return (.num number, rest)
          else .error .unexpectedChar

/-- The items of an array up to its bracket. -/
def readItems : Nat → Nat → List Json → List Char → Except ReadError (List Json × List Char)
  | 0, _, _, _ => .error .unexpectedEnd
  | fuel + 1, depth, done, text => do
      let (item, rest) ← readValue fuel depth text
      match skipBlanks rest with
      | ',' :: rest => readItems fuel depth (item :: done) rest
      | ']' :: rest => return ((item :: done).reverse, rest)
      | [] => throw .unexpectedEnd
      | _ => throw .unexpectedChar

/-- The members of an object up to its brace. -/
def readMembers : Nat → Nat → Members → List Char → Except ReadError (Members × List Char)
  | 0, _, _, _ => .error .unexpectedEnd
  | fuel + 1, depth, done, text =>
      match skipBlanks text with
      | '"' :: rest => do
          let (name, rest) ← readString rest
          match skipBlanks rest with
          | ':' :: rest =>
              let (value, rest) ← readValue fuel depth rest
              let done := Members.insert name value done
              match skipBlanks rest with
              | ',' :: rest => readMembers fuel depth done rest
              | '\x7d' :: rest => return (done, rest)
              | [] => throw .unexpectedEnd
              | _ => throw .unexpectedChar
          | [] => throw .unexpectedEnd
          | _ => throw .unexpectedChar
      | [] => .error .unexpectedEnd
      | _ => .error .unexpectedChar

end

/-- The value of a text with at most `depth` nested collections. -/
def readNested (depth : Nat) (text : String) : Except ReadError Json := do
  let chars := text.toList
  let (value, rest) ← readValue (2 * chars.length + 2) depth chars
  if (skipBlanks rest).isEmpty then return value else throw .trailingText

/-- The value of a JSON text. -/
def read (text : String) : Except ReadError Json := readNested nestingLimit text

end AddonConfig.Json
