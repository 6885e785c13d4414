/-!
# Sets of characters

The sets that escapes and classes denote, and the size of what matches one character of a set: an
automaton over the bytes of UTF-8 whose paths part no earlier than the bytes do. Of some sets only that
size is known, and that of the complement.
-/

namespace AddonConfig.Pattern

/-- The size of one state of an automaton, in bytes. -/
def stateSize : Nat := 32

/-- The size of what matches one character. -/
def charSize (c : Char) : Nat := stateSize * c.utf8Size

/-- Ranges of code points, both ends included, in order and with characters between them. -/
abbrev Ranges := List (Nat × Nat)

namespace Ranges

/-- The next code point that is a character; the surrogates are none. -/
def next (code : Nat) : Nat := if code = 0xD7FF then 0xE000 else code + 1

def previous (code : Nat) : Nat := if code = 0xE000 then 0xD7FF else code - 1

/-- Ranges that touch become one, the ranges being in order of their first ends. -/
def join : Ranges → Ranges
  | [] => []
  | (first, last) :: rest =>
      match join rest with
      | (start, stop) :: others =>
          if start ≤ next last then (first, max last stop) :: others
          else (first, last) :: (start, stop) :: others
      | [] => [(first, last)]

def union (a b : Ranges) : Ranges := join ((a ++ b).mergeSort fun x y => x.1 ≤ y.1)

/-- What lies between the ranges, from a code point on. -/
def gapsFrom (start : Nat) : Ranges → Ranges
  | [] => if start ≤ 0x10FFFF then [(start, 0x10FFFF)] else []
  | (first, last) :: rest =>
      if start < first then (start, previous first) :: gapsFrom (next last) rest
      else gapsFrom (next last) rest

def complement (ranges : Ranges) : Ranges := gapsFrom 0 ranges

/-- The code points whose characters take one, two, three and four bytes, and the sizes of the blocks that
the last byte, the last two and the last three tell apart. -/
def lengths : List (Nat × Nat × List Nat) :=
  [(0, 0x7F, []), (0x80, 0x7FF, [64]), (0x800, 0xD7FF, [64, 4096]), (0xE000, 0xFFFF, [64, 4096]),
   (0x10000, 0x10FFFF, [64, 4096, 262144])]

/-- A range is cut so that each byte has a range of its own: what covers no whole block is cut off at both
ends. -/
def cut : List Nat → Nat → Nat → List (Nat × Nat)
  | [], first, last => [(first, last)]
  | block :: blocks, first, last =>
      if first / block = last / block then [(first, last)]
      else
        let start := (first + block - 1) / block * block
        let stop := (last + 1) / block * block
        (if first < start then [(first, start - 1)] else []) ++
          (if start < stop then cut blocks start (stop - 1) else []) ++
          (if stop ≤ last then [(stop, last)] else [])

/-- The ranges of the bytes that the ends of a range bound. -/
def byteRanges (ends : Nat × Nat) : List (UInt8 × UInt8) :=
  (String.utf8EncodeChar (.ofNat ends.1)).zip (String.utf8EncodeChar (.ofNat ends.2))

/-- The sequences of ranges of bytes that a range of code points comes to. -/
def sequences (ends : Nat × Nat) : List (List (UInt8 × UInt8)) :=
  lengths.flatMap fun (least, greatest, blocks) =>
    let first := max ends.1 least
    let last := min ends.2 greatest
    if first ≤ last then (cut blocks first last).map byteRanges else []

/-- How many of their first entries two sequences have in common. -/
def common : List (UInt8 × UInt8) → List (UInt8 × UInt8) → Nat
  | x :: xs, y :: ys => if x = y then common xs ys + 1 else 0
  | _, _ => 0

/-- The states of what matches the sequences after one sequence: those with one beginning share its states. -/
def states (before : List (UInt8 × UInt8)) : List (List (UInt8 × UInt8)) → Nat
  | [] => 0
  | sequence :: rest => sequence.length - common before sequence + states sequence rest

/-- The size of what matches one character in the ranges. -/
def size (ranges : Ranges) : Nat :=
  if ranges.all fun range => range.2 < 128 then 2 * stateSize + 8 * ranges.length
  else
    let sequences := ranges.flatMap sequences
    stateSize * (states [] sequences + 2) + 4 * sequences.length

end Ranges

/-- A set of characters: its ranges, or the size of what matches it and of what matches its complement. -/
inductive CharSet where
  | ofRanges (ranges : Ranges)
  | ofSizes (size complement : Nat)
  deriving Repr

namespace CharSet

def char (c : Char) : CharSet := .ofRanges [(c.toNat, c.toNat)]

def range (first last : Char) : CharSet := .ofRanges [(first.toNat, last.toNat)]

def complement : CharSet → CharSet
  | .ofRanges ranges => .ofRanges ranges.complement
  | .ofSizes size complement => .ofSizes complement size

/-- The size of what matches one character of the set; one character alone is a text. -/
def size : CharSet → Nat
  | .ofRanges [(first, last)] =>
      if first = last then charSize (.ofNat first) else Ranges.size [(first, last)]
  | .ofRanges ranges => ranges.size
  | .ofSizes size _ => size

/-- Of sets with unknown ranges the sizes add up. -/
def union : CharSet → CharSet → CharSet
  | .ofRanges a, .ofRanges b => .ofRanges (a.union b)
  | a, b => .ofSizes (a.size + b.size) (a.complement.size + b.complement.size)

def inter (a b : CharSet) : CharSet := (a.complement.union b.complement).complement

def diff (a b : CharSet) : CharSet := a.inter b.complement

def symmDiff (a b : CharSet) : CharSet := (a.diff b).union (b.diff a)

end CharSet

end AddonConfig.Pattern
