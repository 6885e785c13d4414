import AddonConfig.Yaml.Cursor

/-!
# Tokens of a YAML text
-/

namespace AddonConfig.Yaml

/-- How a scalar is written. -/
inductive ScalarStyle where
  /-- Without quotes. -/
  | plain
  /-- As a block that keeps its lines. -/
  | literal
  /-- In quotes, or as a block that folds its lines. -/
  | quoted
  deriving DecidableEq, Repr, Inhabited

inductive TokenKind where
  | streamEnd
  | version (major minor : Nat)
  /-- A directive that gives a tag handle its meaning. -/
  | tagHandle (handle meaning : String)
  | documentStart
  | documentEnd
  | blockSequence
  | blockMapping
  | blockEnd
  | flowSequence
  | flowSequenceEnd
  | flowMapping
  | flowMappingEnd
  | blockEntry
  | flowEntry
  | key
  | value
  | alias (name : String)
  | anchor (name : String)
  | tag (handle suffix : String)
  | scalar (style : ScalarStyle) (text : String)
  /-- Nothing that could be read. -/
  | fault
  deriving DecidableEq, Repr, Inhabited

/-- A token and the bytes it covers. -/
structure Token where
  kind : TokenKind
  start : Nat
  stop : Nat
  deriving DecidableEq, Repr, Inhabited

namespace Token

/-- The token between two places. -/
def between (kind : TokenKind) (start stop : Cursor) : Token := ⟨kind, start.offset, stop.offset⟩

/-- A token that covers nothing. -/
def empty (kind : TokenKind) (place : Cursor) : Token := ⟨kind, place.offset, place.offset⟩

end Token

end AddonConfig.Yaml
