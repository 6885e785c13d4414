import AddonConfig.Pattern.CharSet
import AddonConfig.Pattern.PropertyNames

/-!
# Character properties

`Property.set?` is the set of characters that a text between the braces of `\p{…}` denotes.
-/

namespace AddonConfig.Pattern.Property

/-- A loose name: blanks, hyphens and underscores do not count, nor does case, nor a leading `is`. -/
def looseName (text : List Char) : String :=
  let plain (text : List Char) : List Char :=
    (text.filter fun c => c.toNat < 128 && c ≠ ' ' && c ≠ '_' && c ≠ '-').map Char.toLower
  match text with
  | i :: s :: rest =>
      if i.toLower = 'i' ∧ s.toLower = 's' then
        if plain rest = ['c'] then "isc" else String.ofList (plain rest)
      else String.ofList (plain text)
  | _ => String.ofList (plain text)

/-- A name that stands alone is a property, a general category or a script. -/
def alone : List Entry := flags ++ categories ++ scripts

/-- The values of a property that is given with a value. -/
def valuesOf (name : String) : List Entry :=
  if name = "gc" ∨ name = "generalcategory" then categories
  else if name = "sc" ∨ name = "script" then scripts
  else if name = "scx" ∨ name = "scriptextensions" then extensions ++ scripts
  else if name = "age" then ages
  else if name = "gcb" ∨ name = "graphemeclusterbreak" then graphemeBreaks
  else if name = "wb" ∨ name = "wordbreak" then wordBreaks
  else if name = "sb" ∨ name = "sentencebreak" then sentenceBreaks
  else []

/-- The text before and after the first place where `mark` stands. -/
def splitAt (mark : List Char) : List Char → Option (List Char × List Char)
  | [] => none
  | c :: rest =>
      if mark.isPrefixOf (c :: rest) then some ([], (c :: rest).drop mark.length)
      else (splitAt mark rest).map fun (before, after) => (c :: before, after)

/-- A name with a value after `!=`, `:` or `=`, the first kind of mark that occurs, and whether that is
`!=`. -/
def splitValue (text : List Char) : Option (Bool × List Char × List Char) :=
  (splitAt ['!', '='] text).map (true, ·) <|>
    (splitAt [':'] text).map (false, ·) <|> (splitAt ['='] text).map (false, ·)

/-- The first entry with a name. -/
def named? (entries : List Entry) (name : String) : Option CharSet :=
  (entries.find? (·.names.contains name)).map fun entry => .ofSizes entry.size entry.complement

/-- The set of characters that a text names; the mark `!=` asks for the others. -/
def set? (text : List Char) : Option CharSet :=
  match splitValue text with
  | some (negated, name, value) => do
      let set ← named? (valuesOf (looseName name)) (looseName value)
      return if negated then set.complement else set
  | none => named? alone (looseName text)

end AddonConfig.Pattern.Property
