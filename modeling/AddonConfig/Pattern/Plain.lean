import AddonConfig.Pattern.Expr
import AddonConfig.Pattern.LetterSets
import AddonConfig.Pattern.Property
import AddonConfig.Text.Digits

/-!
# The plain dialect

Patterns without references and without looking around: groups that match in parentheses, quantifiers,
and classes that may be nested and combined. `Plain.accepts` tells whether a text is such a pattern and
what matches it is not too large.

A pattern is matched by an automaton over bytes in which repeated parts are written out. Its size is
reckoned from the parts: the largest are the sets of characters, which may have many ranges.
-/

namespace AddonConfig.Pattern.Plain

/-- A member of a class: one character, which may bound a range, or a set. -/
inductive Member where
  | char (c : Char)
  | set (chars : CharSet)
  deriving Repr

def Member.toSet : Member → CharSet
  | .char c => .char c
  | .set chars => chars

/-- The classes between `[:` and `:]`, which are of ASCII. -/
def namedClasses : List (String × Ranges) :=
  [("alnum", [(48, 57), (65, 90), (97, 122)]), ("alpha", [(65, 90), (97, 122)]), ("ascii", [(0, 127)]),
   ("blank", [(9, 9), (32, 32)]), ("cntrl", [(0, 31), (127, 127)]), ("digit", [(48, 57)]),
   ("graph", [(33, 126)]), ("lower", [(97, 122)]), ("print", [(32, 126)]),
   ("punct", [(33, 47), (58, 64), (91, 96), (123, 126)]), ("space", [(9, 13), (32, 32)]),
   ("upper", [(65, 90)]), ("word", [(48, 57), (65, 90), (95, 95), (97, 122)]),
   ("xdigit", [(48, 57), (65, 70), (97, 102)])]

/-- The set of `[:name:]`, which may be negated, and the text after it; the first bracket has been read. -/
def readNamedClass? (text : List Char) : Option (CharSet × List Char) :=
  let after (text : List Char) : Option (CharSet × List Char) :=
    namedClasses.findSome? fun (name, ranges) =>
      let closed := name.toList ++ [':', ']']
      if closed.isPrefixOf text then some (.ofRanges ranges, text.drop closed.length) else none
  match text with
  | ':' :: '^' :: rest => (after rest).map fun (set, rest) => (set.complement, rest)
  | ':' :: rest => after rest
  | _ => none

/-- The text up to a closing brace, and the text after that. -/
def readBraced? : List Char → Option (List Char × List Char)
  | [] => none
  | '\x7d' :: rest => some ([], rest)
  | c :: rest => (readBraced? rest).map fun (taken, rest) => (c :: taken, rest)

/-- A property after its letter; it must be known. -/
def readProperty? : List Char → Option (CharSet × List Char)
  | [] => none
  | '\x7b' :: rest => do
      let (name, rest) ← readBraced? rest
      return (← Property.set? name, rest)
  | c :: rest => do return (← Property.set? [c], rest)

/-- The set that a letter denotes after a backslash. -/
def letterSet? (letter : Char) : Option CharSet :=
  match letter with
  | 'd' => some (.ofRanges .digits)
  | 's' => some (.ofRanges .blanks)
  | 'w' => some (.ofRanges .words)
  | 'D' => some (.ofRanges Ranges.digits.complement)
  | 'S' => some (.ofRanges Ranges.blanks.complement)
  | 'W' => some (.ofRanges Ranges.words.complement)
  | _ => none

/-- What stands after a backslash. -/
def readEscape? : List Char → Option (Member × List Char)
  | [] => none
  | 'p' :: rest => (readProperty? rest).map fun (set, rest) => (.set set, rest)
  | 'P' :: rest => (readProperty? rest).map fun (set, rest) => (.set set.complement, rest)
  | c :: rest =>
      match letterSet? c with
      | some set => some (.set set, rest)
      | none => if isMeta c ∨ c = '&' ∨ c = '-' ∨ c = '~' then some (.char c, rest) else none

/-- A member of a class that is no class in brackets. -/
def readMember? : List Char → Option (Member × List Char)
  | [] => none
  | '\\' :: rest => readEscape? rest
  | c :: rest => some (.char c, rest)

/-- The set of a member or a range; a range has two characters in order. A hyphen makes no range before a
closing bracket or another hyphen. -/
def readRange? (text : List Char) : Option (CharSet × List Char) := do
  let (first, rest) ← readMember? text
  match rest with
  | '-' :: ']' :: _ => some (first.toSet, rest)
  | '-' :: '-' :: _ => some (first.toSet, rest)
  | '-' :: rest => do
      let (last, rest) ← readMember? rest
      match first, last with
      | .char first, .char last => if first ≤ last then some (.range first last, rest) else none
      | _, _ => none
  | _ => some (first.toSet, rest)

/-- The operators between the operands of a class. -/
inductive Operator where
  | inter
  | diff
  | symmDiff
  deriving Repr

def Operator.apply : Operator → CharSet → CharSet → CharSet
  | .inter => .inter
  | .diff => .diff
  | .symmDiff => .symmDiff

/-- The operands before the last operator of a class: their height, their set and the operator. -/
structure Operands where
  height : Nat
  set : CharSet
  operator : Operator
  deriving Repr

/-- A class under construction: whether its complement is meant, what stands before the last operator, if
there is one, and of the members since then the count, the greatest height and the union. -/
structure Draft where
  negated : Bool
  operands : Option Operands
  count : Nat
  greatest : Nat
  union : CharSet
  deriving Repr

namespace Draft

def start (negated : Bool) : Draft := ⟨negated, none, 0, 0, .ofRanges []⟩

def add (draft : Draft) (height : Nat) (set : CharSet) : Draft :=
  { draft with
    count := draft.count + 1, greatest := max draft.greatest height, union := draft.union.union set }

/-- The height of all that has been read; several members and an operator are one level each. -/
def height (draft : Draft) : Nat :=
  let members := if draft.count ≤ 1 then draft.greatest else draft.greatest + 1
  match draft.operands with
  | some operands => max operands.height members + 1
  | none => members

/-- The set of all that has been read. -/
def set (draft : Draft) : CharSet :=
  match draft.operands with
  | some operands => operands.operator.apply operands.set draft.union
  | none => draft.union

/-- What has been read is the left operand of an operator. -/
def operate (draft : Draft) (operator : Operator) : Draft :=
  { Draft.start draft.negated with operands := some ⟨draft.height, draft.set, operator⟩ }

/-- The set that the class denotes. -/
def total (draft : Draft) : CharSet := if draft.negated then draft.set.complement else draft.set

end Draft

/-- The greatest height of a class. -/
def heightLimit : Nat := 250

/-- Leading hyphens are members. -/
def skipHyphens (draft : Draft) : List Char → Draft × List Char
  | '-' :: rest => skipHyphens (draft.add 0 (.char '-')) rest
  | rest => (draft, rest)

/-- What may stand first in a class: the sign of negation, hyphens, or a closing bracket. -/
def openClass (text : List Char) : Draft × List Char :=
  let (negated, text) := match text with
    | '^' :: rest => (true, rest)
    | rest => (false, rest)
  match skipHyphens (.start negated) text with
  | (draft, ']' :: rest) =>
      if draft.count = 0 then (draft.add 0 (.char ']'), rest) else (draft, ']' :: rest)
  | other => other

/-- The members of a class up to its closing bracket, each step taking at least one character: the height
and the set of the class and the text after it. -/
def readMembers? : Nat → Draft → List Char → Option (Nat × CharSet × List Char)
  | 0, _, _ => none
  | fuel + 1, draft, text =>
      match text with
      | [] => none
      | ']' :: rest =>
          let height := draft.height + 1
          if height ≤ heightLimit then some (height, draft.total, rest) else none
      | '[' :: rest =>
          match readNamedClass? rest with
          | some (set, rest) => readMembers? fuel (draft.add 0 set) rest
          | none => do
              let (inner, rest) := openClass rest
              let (height, set, rest) ← readMembers? fuel inner rest
              readMembers? fuel (draft.add height set) rest
      | '&' :: '&' :: rest => readMembers? fuel (draft.operate .inter) rest
      | '-' :: '-' :: rest => readMembers? fuel (draft.operate .diff) rest
      | '~' :: '~' :: rest => readMembers? fuel (draft.operate .symmDiff) rest
      | text => do
          let (set, rest) ← readRange? text
          readMembers? fuel (draft.add 0 set) rest

/-- The set of a class and the text after it, without the class's first bracket. -/
def readClass? (text : List Char) : Option (CharSet × List Char) :=
  let (draft, rest) := openClass text
  (readMembers? (text.length + 1) draft rest).map (·.2)

/-- The greatest count in a quantifier. -/
def countLimit : Nat := Nat.pow 2 32 - 1

/-- A count, and the text after its digits. -/
def readCount? (text : List Char) : Option (Nat × List Char) :=
  let digits := text.takeWhile Char.isDigit
  let count := ofDigits digits
  if digits.isEmpty ∨ countLimit < count then none else some (count, text.dropWhile Char.isDigit)

/-- The bounds of a quantifier in braces, which must be in order, and the text after it. -/
def readBounds? (text : List Char) : Option (Nat × Option Nat × List Char) := do
  let (least, rest) ← readCount? text
  match rest with
  | '\x7d' :: rest => some (least, some least, rest)
  | ',' :: '\x7d' :: rest => some (least, none, rest)
  | ',' :: rest => do
      let (most, rest) ← readCount? rest
      match rest with
      | '\x7d' :: rest => if least ≤ most then some (least, some most, rest) else none
      | _ => none
  | _ => none

/-- The bounds of a quantifier, and the text after it. -/
def readQuantifier? : List Char → Option (Nat × Option Nat × List Char)
  | '*' :: rest => some (0, none, rest)
  | '+' :: rest => some (1, none, rest)
  | '?' :: rest => some (0, some 1, rest)
  | '\x7b' :: rest => readBounds? rest
  | _ => none

/-- What matches a part of a pattern. -/
structure Part where
  size : Nat
  /-- The part matches at most the empty text. -/
  isEmpty : Bool
  deriving Repr

namespace Part

def nothing : Part := ⟨0, true⟩

/-- Two parts in a row. -/
def after (first second : Part) : Part := ⟨first.size + second.size, first.isEmpty && second.isEmpty⟩

/-- A part as many times as a quantifier says. What matches only the empty text is tried once at most. -/
def repeated (part : Part) (least : Nat) (most : Option Nat) : Part :=
  let least := if part.isEmpty then min least 1 else least
  let most := if part.isEmpty then some (min (most.getD 1) 1) else most
  match most with
  | some 0 => nothing
  | some most => ⟨least * part.size + (most - least) * (part.size + stateSize), part.isEmpty⟩
  | none => ⟨max least 1 * part.size + stateSize, part.isEmpty⟩

end Part

/-- A group under construction: its branches so far, and in the last one the parts before the last part,
which a quantifier may follow. -/
structure OpenGroup where
  branches : Part
  row : Part
  last : Option Part
  deriving Repr

namespace OpenGroup

def start : OpenGroup := ⟨.nothing, .nothing, none⟩

/-- The last branch so far. -/
def branch (group : OpenGroup) : Part := group.row.after (group.last.getD .nothing)

def push (group : OpenGroup) (part : Part) : OpenGroup :=
  { group with row := group.branch, last := some part }

/-- All branches so far. -/
def total (group : OpenGroup) : Part := group.branches.after group.branch

/-- A new branch begins. -/
def bar (group : OpenGroup) : OpenGroup := ⟨group.total, ⟨stateSize, true⟩, none⟩

/-- Takes a quantifier, which is about the last part. -/
def quantify? (group : OpenGroup) (text : List Char) : Option (OpenGroup × List Char) := do
  let part ← group.last
  let (least, most, rest) ← readQuantifier? text
  return ({ group with last := some (part.repeated least most) }, rest)

end OpenGroup

/-- The greatest size of what matches a pattern. -/
def sizeLimit : Nat := 10 * Nat.pow 2 20

/-- Whether a text is a pattern, the groups in `outer` and `group` being open. Each step takes at least
one character. -/
def acceptsFrom : Nat → List OpenGroup → OpenGroup → List Char → Bool
  | 0, _, _, _ => false
  | fuel + 1, outer, group, text =>
      match text with
      | [] => outer.isEmpty && group.total.size ≤ sizeLimit
      | '(' :: '?' :: ':' :: rest => acceptsFrom fuel (group :: outer) .start rest
      | '(' :: '?' :: _ => false
      | '(' :: rest => acceptsFrom fuel (group :: outer) ⟨.nothing, ⟨2 * stateSize, true⟩, none⟩ rest
      | ')' :: rest =>
          match outer with
          | [] => false
          | next :: outer => acceptsFrom fuel outer (next.push group.total) rest
      | '|' :: rest => acceptsFrom fuel outer group.bar rest
      | '*' :: _ | '+' :: _ | '?' :: _ | '\x7b' :: _ =>
          match group.quantify? text with
          | some (group, rest) => acceptsFrom fuel outer group rest
          | none => false
      | '[' :: rest =>
          match readClass? rest with
          | some (set, rest) => acceptsFrom fuel outer (group.push ⟨set.size, false⟩) rest
          | none => false
      | '\\' :: rest =>
          match readEscape? rest with
          | some (member, rest) =>
              acceptsFrom fuel outer (group.push ⟨member.toSet.size, false⟩) rest
          | none => false
      | '^' :: rest => acceptsFrom fuel outer (group.push ⟨stateSize, true⟩) rest
      | '.' :: rest => acceptsFrom fuel outer (group.push ⟨(CharSet.char '\n').complement.size, false⟩) rest
      | c :: rest => acceptsFrom fuel outer (group.push ⟨charSize c, false⟩) rest

/-- Whether a text is a pattern of the plain dialect. -/
def accepts (text : List Char) : Bool := acceptsFrom (text.length + 1) [] .start text

end AddonConfig.Pattern.Plain
