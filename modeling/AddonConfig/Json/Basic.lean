import AddonConfig.Number.Binary64

/-!
# JSON values

Integers and binary64 numbers are kept apart. The members of an object are a list with one entry a
name; `Json.Sorted` says that every object lists its names in increasing order, as `ofMembers` does.
-/

namespace AddonConfig

/-- A JSON number: an integer or a binary64 number. -/
inductive Number where
  | int (value : Int)
  | float (value : Binary64)
  deriving DecidableEq, Repr, Inhabited

inductive Json where
  | null
  | bool (value : Bool)
  | num (value : Number)
  | str (value : String)
  | arr (items : List Json)
  | obj (members : List (String × Json))
  deriving Repr, Inhabited

/-- The named values of an object. -/
abbrev Members := List (String × Json)

namespace Members

/-- The value of the first member of that name. -/
def get? (members : Members) (name : String) : Option Json := members.lookup name

/-- Sets a member in a list sorted by name. -/
def insert (name : String) (value : Json) : Members → Members
  | [] => [(name, value)]
  | (other, v) :: rest =>
      if name < other then (name, value) :: (other, v) :: rest
      else if name = other then (name, value) :: rest
      else (other, v) :: insert name value rest

/-- The members sorted by name, the last of one name winning. -/
def ofList (entries : List (String × Json)) : Members :=
  entries.foldl (fun members entry => insert entry.1 entry.2 members) []

def erase (name : String) (members : Members) : Members := members.filter (·.1 != name)

end Members

namespace Json

/-- An object of the given entries, sorted by name. -/
def ofMembers (entries : List (String × Json)) : Json := .obj (Members.ofList entries)

mutual

/-- The number of nested collections of a value, and one for the value itself. -/
def depth : Json → Nat
  | .arr items => depthItems items + 1
  | .obj members => depthMembers members + 1
  | _ => 1

/-- The greatest depth among the items. -/
def depthItems : List Json → Nat
  | [] => 0
  | item :: rest => max (depth item) (depthItems rest)

/-- The greatest depth among the member values. -/
def depthMembers : List (String × Json) → Nat
  | [] => 0
  | (_, value) :: rest => max (depth value) (depthMembers rest)

end

mutual

/-- The value with the members of every object sorted by name. -/
def sorted : Json → Json
  | .arr items => .arr (sortedItems items)
  | .obj members => ofMembers (sortedMembers members)
  | other => other

def sortedItems : List Json → List Json
  | [] => []
  | item :: rest => sorted item :: sortedItems rest

def sortedMembers : List (String × Json) → List (String × Json)
  | [] => []
  | (name, value) :: rest => (name, sorted value) :: sortedMembers rest

end

end Json

end AddonConfig
