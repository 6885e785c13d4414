import AddonConfig.Decode.Error

/-!
# Decoders

A decoder reads a JSON value as a value of a type or says why it cannot.
-/

namespace AddonConfig

/-- Reads a JSON value as a value of a type. -/
abbrev Decoder (α : Type) := Json → Except DecodeError α

namespace Decoder

def wrongType {α : Type} (value : Json) (expected : Expected) : Except DecodeError α :=
  .error (.invalidType (.of value) expected)

/-- The value as it stands. -/
def json : Decoder Json := .ok

def string : Decoder String
  | .str value => .ok value
  | other => wrongType other .string

def bool : Decoder Bool
  | .bool value => .ok value
  | other => wrongType other .boolean

/-- An integer from `-2 ^ 63` to `2 ^ 63 - 1`. -/
def signed : Decoder Int
  | .num (.int value) =>
      if value < Nat.pow 2 63 then .ok value else .error (.invalidValue (.int value) .signed)
  | other => wrongType other .signed

/-- An integer from `0` to `2 ^ 64 - 1`. -/
def unsigned : Decoder Nat
  | .num (.int value) =>
      if 0 ≤ value then .ok value.toNat else .error (.invalidValue (.int value) .unsigned)
  | other => wrongType other .unsigned

/-- Any number; an integer is rounded. -/
def double : Decoder Binary64
  | .num (.int value) => .ok (Binary64.ofInt value)
  | .num (.float value) => .ok value
  | other => wrongType other .double

/-- An array, all items read the same way; the first item refused decides. -/
def list {α : Type} (item : Decoder α) : Decoder (List α)
  | .arr items => items.mapM item
  | other => wrongType other .sequence

/-- `null` stands for no value. -/
def option {α : Type} (some : Decoder α) : Decoder (Option α)
  | .null => .ok none
  | other => Option.some <$> some other

end Decoder

end AddonConfig
