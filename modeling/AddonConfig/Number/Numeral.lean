import AddonConfig.Number.Decimal
import AddonConfig.Text.Digits

/-!
# Reading numerals

Decimal fractions with an exponent, and integers in several bases.
-/

namespace AddonConfig

/-- The value of a digit in a base, which is at most sixteen. -/
def digitIn? (base : Nat) (c : Char) : Option Nat :=
  match hexValue? c with
  | some value => if value < base then some value else none
  | none => none

/-- The natural number that digits write in a base; there is at least one digit. -/
def naturalOf? (base : Nat) (digits : List Char) : Option Nat :=
  if digits.isEmpty then none
  else digits.foldlM (fun n c => (digitIn? base c).map (n * base + ·)) 0

/-- A sign, and the text after it. -/
def splitSign : List Char → Bool × List Char
  | '-' :: rest => (true, rest)
  | '+' :: rest => (false, rest)
  | rest => (false, rest)

/-- The power of ten after its letter, or nothing at all. -/
def exponentOf? : List Char → Option Int
  | [] => some 0
  | c :: rest =>
      if c = 'e' ∨ c = 'E' then
        let (negative, digits) := splitSign rest
        (naturalOf? 10 digits).map fun size => if negative then -(size : Int) else size
      else none

/-- A decimal: a sign, digits with a point anywhere among them or none, and a power of ten. -/
def Decimal.ofChars? (text : List Char) : Option Decimal := do
  let (negative, text) := splitSign text
  let whole := text.takeWhile Char.isDigit
  let (fraction, rest) : List Char × List Char := match text.dropWhile Char.isDigit with
    | '.' :: rest => (rest.takeWhile Char.isDigit, rest.dropWhile Char.isDigit)
    | rest => ([], rest)
  let digits ← naturalOf? 10 (whole ++ fraction)
  let power ← exponentOf? rest
  return ⟨negative, digits, power - fraction.length⟩

end AddonConfig
