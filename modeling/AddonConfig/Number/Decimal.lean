import AddonConfig.Number.Binary64

/-!
# Decimal spellings of binary64 numbers

`Binary64.ofDecimal` rounds a decimal once and exactly; `Binary64.ofScaledDecimal` rounds the digits
first and then scales by one power of ten. `Binary64.text` writes the fewest digits that read back.
-/

namespace AddonConfig

/-- A decimal `±digits · 10 ^ exponent`. -/
structure Decimal where
  negative : Bool
  digits : Nat
  exponent : Int
  deriving DecidableEq, Repr

namespace Decimal

/-- More than the count of the decimal digits of `n`. -/
def digitBound (n : Nat) : Nat := n.log2 / 3 + 1

def magnitude (d : Decimal) : Nat × Nat :=
  if 0 ≤ d.exponent then (d.digits * Nat.pow 10 d.exponent.toNat, 1)
  else (d.digits, Nat.pow 10 (-d.exponent).toNat)

end Decimal

namespace Binary64

/-- The number nearest to a decimal. Magnitudes outside `10 ^ ±400` are settled without scaling. -/
def ofDecimal (d : Decimal) : Binary64 :=
  if d.digits = 0 then zero d.negative
  else if 400 < d.exponent then .infinite d.negative
  else if d.exponent + Decimal.digitBound d.digits < -400 then zero d.negative
  else
    let (num, den) := d.magnitude
    ofRatio d.negative num den

/-- The nearest number to a positive finite number times or divided by `10 ^ power`, where the power
itself is first rounded. -/
def scaleByPower (value : Nat × Nat) (up : Bool) (power : Nat) : Binary64 :=
  match ofRatio false (Nat.pow 10 power) 1 with
  | .finite _ significand exponent =>
      let (num, den) := magnitude significand exponent
      if up then ofRatio false (value.1 * num) (value.2 * den)
      else ofRatio false (value.1 * den) (value.2 * num)
  | _ => if up then .infinite false else zero false

/-- The magnitude of a finite number, zero for the others. -/
def ratio : Binary64 → Nat × Nat
  | .finite _ significand exponent => magnitude significand exponent
  | _ => (0, 1)

/-- Digits rounded first, then scaled by one power of ten of at most `10 ^ 308`; a smaller scale takes
a second division. `none` is a number too large for the format. -/
def ofScaledDecimal (d : Decimal) : Option Binary64 :=
  let signed (x : Binary64) : Binary64 := if d.negative then x.negate else x
  let head := ofRatio false d.digits 1
  if 0 ≤ d.exponent then
    if d.digits = 0 then some (signed (zero false))
    else if 308 < d.exponent then none
    else
      match scaleByPower head.ratio true d.exponent.toNat with
      | .infinite _ => none
      | x => some (signed x)
  else
    let drop := (-d.exponent).toNat
    if drop ≤ 308 then some (signed (scaleByPower head.ratio false drop))
    else
      let once := scaleByPower head.ratio false 308
      if drop ≤ 616 then some (signed (scaleByPower once.ratio false (drop - 308)))
      else some (signed (zero false))

/-- The greatest `k` with `10 ^ k ≤ num / den`, for a positive ratio, searched below `bound`. -/
def ratioLog10 (num den : Nat) : Nat → Int → Int
  | 0, guess => guess
  | steps + 1, guess =>
      let (n, d) :=
        if 0 ≤ guess then (num, den * Nat.pow 10 guess.toNat)
        else (num * Nat.pow 10 (-guess).toNat, den)
      if d ≤ n then guess else ratioLog10 num den steps (guess - 1)

/-- A finite positive number seen as a middle, with the bounds of the reals that round to it, all over
the denominator `den`. -/
structure Interval where
  low : Nat
  middle : Nat
  high : Nat
  den : Nat
  /-- The bounds themselves round to the number. -/
  closed : Bool

/-- The reals that round to `significand · 2 ^ exponent`. -/
def interval (significand : Nat) (exponent : Int) : Interval :=
  let (num, den) := magnitude significand exponent
  let unit := num / significand
  let below := if significand = Nat.pow 2 52 ∧ minExponent < exponent then unit else 2 * unit
  { low := 4 * num - below, middle := 4 * num, high := 4 * num + 2 * unit, den := 4 * den,
    closed := significand % 2 == 0 }

/-- Whether `value / scale` lies among the reals of the interval. -/
def Interval.holds (i : Interval) (value scale : Nat) : Bool :=
  let v := value * i.den
  if i.closed then decide (i.low * scale ≤ v) && decide (v ≤ i.high * scale)
  else decide (i.low * scale < v) && decide (v < i.high * scale)

/-- The grid point of `num / den` nearest to the middle among those that hold, if one does. -/
def Interval.pick (i : Interval) (up down : Nat) : Option Nat :=
  let num := i.middle * down
  let den := i.den * up
  let below := num / den
  let rest := num % den
  let fits (q : Nat) : Bool := i.holds (q * up) down
  let nearest := if 2 * rest < den then below else if den < 2 * rest then below + 1 else below + below % 2
  let other := if nearest = below then below + 1 else below
  if fits nearest then some nearest else if fits other then some other else none

/-- The shortest digits that read back, from `count` digits on, with the exponent of the first. -/
def shortestFrom (i : Interval) (lead : Int) : Nat → Nat → Nat × Int
  | 0, count => (((i.middle) / i.den), (count : Int))
  | steps + 1, count =>
      let place := lead - (count : Int) + 1
      let (up, down) := if 0 ≤ place then (Nat.pow 10 place.toNat, 1) else (1, Nat.pow 10 (-place).toNat)
      match i.pick up down with
      | some digits => (digits, place)
      | none => shortestFrom i lead steps (count + 1)

def trimZeros : Nat → Nat → Int → Nat × Int
  | 0, digits, place => (digits, place)
  | steps + 1, digits, place =>
      if digits % 10 = 0 ∧ digits ≠ 0 then trimZeros steps (digits / 10) (place + 1) else (digits, place)

/-- The fewest digits that read back as a positive number, and the power of ten of the last. -/
def shortest (significand : Nat) (exponent : Int) : Nat × Int :=
  let (num, den) := magnitude significand exponent
  let guess : Int := ((num.log2 : Int) - (den.log2 : Int) + 1) * 30103 / 100000 + 1
  let lead := ratioLog10 num den 4 guess
  let (digits, place) := shortestFrom (interval significand exponent) lead 17 1
  trimZeros 20 digits place

/-- Positional notation begins at `10 ^ -5`. -/
def firstPositional : Int := -5

/-- Positional notation ends below `10 ^ 16`. -/
def firstExponential : Int := 16

/-- Digits with the point before the place `10 ^ point`. -/
def positional (digits : List Char) (point : Int) : List Char :=
  if point ≤ 0 then
    '0' :: '.' :: (List.replicate (-point).toNat '0' ++ digits)
  else
    let n := point.toNat
    if digits.length ≤ n then digits ++ List.replicate (n - digits.length) '0' ++ ['.', '0']
    else digits.take n ++ '.' :: digits.drop n

/-- Digits with a point after the first and a signed exponent. -/
def exponential (digits : List Char) (lead : Int) : List Char :=
  let head := match digits with
    | [] => []
    | [d] => [d]
    | d :: rest => d :: '.' :: rest
  let size := (Nat.toDigits 10 lead.natAbs)
  head ++ 'e' :: (if lead < 0 then '-' else '+') :: size

/-- The text of a number: shortest digits that read back, always with a point or an exponent. -/
def text : Binary64 → String
  | .nan => "NaN"
  | .infinite negative => if negative then "-inf" else "inf"
  | .finite negative significand exponent =>
      let body :=
        if significand = 0 then ['0', '.', '0']
        else
          let (digits, place) := shortest significand exponent
          let chars := Nat.toDigits 10 digits
          let lead := place + (chars.length : Int) - 1
          if firstPositional ≤ lead ∧ lead < firstExponential then positional chars (lead + 1)
          else exponential chars lead
      String.ofList (if negative then '-' :: body else body)

end Binary64

end AddonConfig
