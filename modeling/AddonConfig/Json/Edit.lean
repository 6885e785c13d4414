import AddonConfig.Json.Basic

/-!
# Edits of a value

One member or item of a value is set or removed. A place is a list of tokens: names in objects,
positions in arrays; a position past the end, or `-`, appends.
-/

namespace AddonConfig.Json

/-- The tokens of a place, each written after a slash. -/
def placeTokens (place : String) : List String := (place.splitOn "/").drop 1

/-- The position that a token names. -/
def position (token : String) (length : Nat) : Nat := token.toNat?.getD length

/-- Replaces an item, or appends where there is none. -/
def setItem (items : List Json) (index : Nat) (value : Json) : List Json :=
  if index < items.length then items.set index value else items ++ [value]

/-- Sets or removes what a collection has at a token. -/
def editHere (token : String) (value : Option Json) : Json → Json
  | .obj members =>
      match value with
      | some value => .obj (Members.insert token value members)
      | none => .obj (Members.erase token members)
  | .arr items =>
      let index := position token items.length
      match value with
      | some value => .arr (setItem items index value)
      | none => .arr (items.eraseIdx index)
  | other => other

/-- Sets or removes the value at a place; a place that does not exist changes nothing. -/
def edit (value : Option Json) : List String → Json → Json
  | [], whole => value.getD whole
  | [token], whole => editHere token value whole
  | token :: rest, .obj members =>
      match Members.get? members token with
      | some inner => .obj (Members.insert token (edit value rest inner) members)
      | none => .obj members
  | token :: rest, .arr items =>
      let index := position token items.length
      match items[index]? with
      | some inner => .arr (items.set index (edit value rest inner))
      | none => .arr items
  | _ :: _, other => other

end AddonConfig.Json
