/-!
# Patterns

The tree of a pattern. What only decides which texts match, such as case, laziness or the side of an
anchor, is left out: a tree holds what decides whether a pattern is valid.
-/

namespace AddonConfig.Pattern

/-- The tree of a pattern. -/
inductive Expr where
  | empty
  /-- Any character. -/
  | dot
  | char (c : Char)
  /-- The start or the end of the text or of a line. -/
  | anchor
  /-- The start, the end, the absence or any edge of a word. -/
  | wordEdge
  /-- Where the last match ended, or where the reported match begins. -/
  | matchEdge
  /-- A set of characters in the plain dialect. -/
  | set (text : List Char)
  | concat (parts : List Expr)
  | alternatives (branches : List Expr)
  /-- A capturing group and its number. -/
  | group (number : Nat) (body : Expr)
  | look (behind : Bool) (body : Expr)
  /-- At least `least` and at most `most` times, any number of times when `most` is absent. -/
  | repeated (body : Expr) (least : Nat) (most : Option Nat)
  /-- Once matched, never tried another way. -/
  | atomic (body : Expr)
  /-- The text of a group again. -/
  | again (number : Nat)
  /-- Whether a group has matched. -/
  | matched (number : Nat)
  | conditional (condition yes no : Expr)
  deriving Repr, Inhabited

namespace Expr

def isEmpty : Expr → Bool
  | .empty => true
  | _ => false

/-- Whether a quantifier may follow. -/
def repeatable : Expr → Bool
  | .empty | .anchor | .wordEdge | .look .. => false
  | _ => true

/-- The parts in a row, no node being spent on one part or none. -/
def ofParts : List Expr → Expr
  | [] => .empty
  | [part] => part
  | parts => .concat parts

end Expr

/-- Whether the plain dialect reads a character as itself only behind a backslash. -/
def isMeta (c : Char) : Bool :=
  ['\\', '.', '+', '*', '?', '(', ')', '|', '[', ']', '\x7b', '\x7d', '^', '$', '#'].contains c

/-- A character that stands for itself. -/
def quoteChar (c : Char) : List Char := if isMeta c then ['\\', c] else [c]

def quantifierText (least : Nat) : Option Nat → List Char
  | none =>
      if least = 0 then ['*']
      else if least = 1 then ['+']
      else '\x7b' :: (Nat.toDigits 10 least ++ [',', '\x7d'])
  | some most =>
      if least = 0 ∧ most = 1 then ['?']
      else if least = most then '\x7b' :: (Nat.toDigits 10 least ++ ['\x7d'])
      else '\x7b' :: (Nat.toDigits 10 least ++ ',' :: (Nat.toDigits 10 most ++ ['\x7d']))

/-- Wraps a text into a group that captures nothing. -/
def wrapIf (wrap : Bool) (text : List Char) : List Char :=
  if wrap then '(' :: '?' :: ':' :: (text ++ [')']) else text

namespace Expr

mutual

/-- The text of a tree in the plain dialect; what stands under an operator that binds more tightly than
`level` is wrapped. Only trees without features beyond that dialect have one. -/
def text (level : Nat) : Expr → List Char
  | .dot => ['.']
  | .char c => quoteChar c
  | .anchor => ['^']
  | .set chars => chars
  | .concat parts => wrapIf (1 < level) (textAll parts)
  | .alternatives branches => wrapIf (0 < level) (textBranches branches)
  | .group _ body => '(' :: (text 0 body ++ [')'])
  | .repeated body least most =>
      wrapIf (2 < level) (text 3 body ++ quantifierText least most)
  | _ => []

/-- The texts of parts in a row. -/
def textAll : List Expr → List Char
  | [] => []
  | part :: rest => text 2 part ++ textAll rest

/-- The texts of branches with bars between them. -/
def textBranches : List Expr → List Char
  | [] => []
  | [branch] => text 1 branch
  | branch :: rest => text 1 branch ++ '|' :: textBranches rest

end

end Expr

end AddonConfig.Pattern
