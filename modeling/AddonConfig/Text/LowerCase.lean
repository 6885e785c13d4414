import AddonConfig.Text.CaseTables

/-!
# Lower-casing

Each letter goes to its lower-case form; a capital sigma goes to the final form where a word ends.
-/

namespace AddonConfig.LowerCase

/-- The first character that is not case-ignorable has a case. -/
def reachesCased (text : List Char) : Bool :=
  match text.dropWhile Charset.caseIgnorable.contains with
  | c :: _ => Charset.cased.contains c
  | [] => false

/-- The code point of a run's lower-case form. -/
def target? (run : LowerRun) (code : Nat) : Option Nat :=
  if run.first ≤ code ∧ code ≤ run.last ∧ (code - run.first) % run.step = 0 then
    some (code + run.up - run.down)
  else none

/-- The lower-case form of a character on its own. -/
def ofChar (c : Char) : List Char :=
  if c.toNat < 128 then [c.toLower]
  else if c = 'İ' then ['i', '\u0307']
  else
    match lowerRuns.findSome? (target? · c.toNat) with
    | some code => [Char.ofNat code]
    | none => [c]

/-- The lower-case form of a text, `before` being the characters passed, the last one first. -/
def ofChars (before : List Char) : List Char → List Char
  | [] => []
  | c :: rest =>
      let lower :=
        if c = 'Σ' then
          if reachesCased before && !reachesCased rest then ['ς'] else ['σ']
        else ofChar c
      lower ++ ofChars (c :: before) rest

end AddonConfig.LowerCase

namespace AddonConfig

/-- The text with every letter in its lower-case form. -/
def lowerCase (text : String) : String := String.ofList (LowerCase.ofChars [] text.toList)

end AddonConfig
