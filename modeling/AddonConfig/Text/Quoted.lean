import AddonConfig.Text.PrintableTables

/-!
# Quoted text in messages

A text between quotes, with everything that would not be seen written as an escape.
-/

namespace AddonConfig.Quoted

/-- Whether a character stands as it is. -/
def isPlain (c : Char) : Bool :=
  if c.toNat < 127 then 32 ≤ c.toNat
  else !Charset.graphemeExtend.contains c && !Charset.unprintable.contains c

/-- A character between quotes. -/
def escapeChar (c : Char) : List Char :=
  if c = '\x00' then ['\\', '0']
  else if c = '\t' then ['\\', 't']
  else if c = '\r' then ['\\', 'r']
  else if c = '\n' then ['\\', 'n']
  else if c = '"' then ['\\', '"']
  else if c = '\\' then ['\\', '\\']
  else if isPlain c then [c]
  else '\\' :: 'u' :: '\x7b' :: (Nat.toDigits 16 c.toNat ++ ['\x7d'])

end AddonConfig.Quoted

namespace AddonConfig

/-- The text between quotes, with escapes. -/
def quoted (text : String) : String :=
  String.ofList ('"' :: (text.toList.flatMap Quoted.escapeChar ++ ['"']))

end AddonConfig
