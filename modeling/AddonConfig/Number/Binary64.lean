/-!
# Binary64 numbers

The finite numbers of the 64-bit binary format as `±significand · 2 ^ exponent`, with the two
infinities and one NaN. Rounding is exact integer arithmetic: `ofRatio` gives the nearest number,
a tie going to the even significand.
-/

namespace AddonConfig

/-- A number of the 64-bit binary floating-point format. -/
inductive Binary64 where
  | finite (negative : Bool) (significand : Nat) (exponent : Int)
  | infinite (negative : Bool)
  | nan
  deriving DecidableEq, Repr, Inhabited

namespace Binary64

/-- The exponent of the smallest numbers. -/
def minExponent : Int := -1074

/-- The exponent of the largest numbers. -/
def maxExponent : Int := 971

def zero (negative : Bool) : Binary64 := .finite negative 0 minExponent

/-- `num / den` to the nearest integer, a tie going to the even one. -/
def roundHalfEven (num den : Nat) : Nat :=
  let quotient := num / den
  let rest := num % den
  if 2 * rest < den then quotient
  else if den < 2 * rest then quotient + 1
  else quotient + quotient % 2

/-- The ratio `num / den` times `2 ^ shift`, as a ratio of natural numbers. -/
def scaleRatio (num den : Nat) (shift : Int) : Nat × Nat :=
  if 0 ≤ shift then (num * Nat.pow 2 shift.toNat, den) else (num, den * Nat.pow 2 (-shift).toNat)

/-- The greatest `k` with `2 ^ k ≤ num / den`, for positive arguments. -/
def ratioLog2 (num den : Nat) : Int :=
  let estimate : Int := (num.log2 : Int) - (den.log2 : Int)
  let (n, d) := scaleRatio num den (-estimate)
  if d ≤ n then estimate else estimate - 1

/-- The number nearest to `num / den`; past the largest ones it is infinite. -/
def ofRatio (negative : Bool) (num den : Nat) : Binary64 :=
  if num = 0 then zero negative
  else
    let exponent := max (ratioLog2 num den - 52) minExponent
    let (n, d) := scaleRatio num den (-exponent)
    let significand := roundHalfEven n d
    let (significand, exponent) :=
      if significand = Nat.pow 2 53 then (Nat.pow 2 52, exponent + 1) else (significand, exponent)
    if maxExponent < exponent then .infinite negative else .finite negative significand exponent

def ofInt (value : Int) : Binary64 := ofRatio (decide (value < 0)) value.natAbs 1

/-- The magnitude of a finite number as a ratio. -/
def magnitude (significand : Nat) (exponent : Int) : Nat × Nat := scaleRatio significand 1 exponent

def isFinite : Binary64 → Bool
  | .finite .. => true
  | _ => false

def isNegative : Binary64 → Bool
  | .finite negative .. => negative
  | .infinite negative => negative
  | .nan => false

def negate : Binary64 → Binary64
  | .finite negative significand exponent => .finite (!negative) significand exponent
  | .infinite negative => .infinite (!negative)
  | .nan => .nan

/-- A finite number times `2 ^ 1074`, which is an integer. -/
def scaled (negative : Bool) (significand : Nat) (exponent : Int) : Int :=
  let size : Int := significand * Nat.pow 2 (exponent - minExponent).toNat
  if negative then -size else size

/-- The order of numbers: both zeros are equal, and a NaN is below nothing and above nothing. -/
def lt : Binary64 → Binary64 → Bool
  | .finite n s e, .finite n' s' e' => decide (scaled n s e < scaled n' s' e')
  | .finite .., .infinite negative => !negative
  | .infinite negative, .finite .. => negative
  | .infinite a, .infinite b => a && !b
  | .nan, _ => false
  | _, .nan => false

/-- A finite number without a fraction. -/
def isWhole : Binary64 → Bool
  | .finite _ significand exponent =>
      decide (0 ≤ exponent) || significand % Nat.pow 2 (-exponent).toNat == 0
  | _ => false

end Binary64

end AddonConfig
