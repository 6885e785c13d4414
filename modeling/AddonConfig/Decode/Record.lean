import AddonConfig.Decode.Basic

/-!
# Records

A record is read from an object or from an array in declaration order. In an object the first declared
member that is refused decides, in the order of the object; only then are missing members reported, in
declaration order. Undeclared members are passed over.
-/

namespace AddonConfig

/-- How one declared member is read. -/
structure Field (α : Type) where
  name : String
  decode : Decoder α
  /-- What stands for the member where an object has none. -/
  absent : Option α
  /-- What stands for the member where an array is too short. -/
  shortArray : Option α

/-- What the members of an object give: the declared ones that are refused, and the record or the first
that is missing. -/
structure Reading (α : Type) where
  refusals : List (String × DecodeError)
  built : Except DecodeError α

namespace Reading

/-- Adds what a member gives. -/
def and {α β : Type} (reading : Reading (α → β)) (field : Field α) : Option Json → Reading β
  | some value =>
      match field.decode value with
      | .ok a => { refusals := reading.refusals, built := reading.built.map (· a) }
      | .error e => { refusals := (field.name, e) :: reading.refusals, built := .error e }
  | none =>
      let built := do
        let build ← reading.built
        match field.absent with
        | some a => return build a
        | none => throw (.missingField field.name)
      { refusals := reading.refusals, built }

/-- The first refusal in the order of the members, or else the record. -/
def result {α : Type} (reading : Reading α) (members : Members) : Except DecodeError α :=
  match members.findSome? fun member => reading.refusals.lookup member.1 with
  | some e => .error e
  | none => reading.built

end Reading

/-- How a record is read, member by member. -/
structure Record (α : Type) where
  /-- The declared members. -/
  names : List String
  ofMembers : (String → Option Json) → Reading α
  /-- Reads the front of an array, `expected` describing a long enough one. -/
  ofItems : Expected → List Json → Except DecodeError (α × List Json)

namespace Record

/-- A record without members. -/
def done {α : Type} (value : α) : Record α where
  names := []
  ofMembers _ := { refusals := [], built := .ok value }
  ofItems _ items := .ok (value, items)

/-- A record with one member more. -/
def and {α β : Type} (record : Record (α → β)) (field : Field α) : Record β where
  names := record.names ++ [field.name]
  ofMembers get := (record.ofMembers get).and field (get field.name)
  ofItems expected items := do
    let (build, rest) ← record.ofItems expected items
    match rest with
    | item :: rest => return (build (← field.decode item), rest)
    | [] =>
        match field.shortArray with
        | some value => return (build value, [])
        | none => throw (.invalidLength record.names.length expected)

/-- A member that has to be there. -/
def required {α β : Type} (record : Record (α → β)) (name : String) (decode : Decoder α) : Record β :=
  record.and ⟨name, decode, none, none⟩

/-- A member that may be absent or `null`. -/
def optional {α β : Type} (record : Record (Option α → β)) (name : String) (decode : Decoder α) :
    Record β :=
  record.and ⟨name, decode.option, some none, none⟩

/-- A list that is empty where it is absent. -/
def defaulted {α β : Type} (record : Record (List α → β)) (name : String) (item : Decoder α) :
    Record β :=
  record.and ⟨name, item.list, some [], some []⟩

/-- The record of an object's members. -/
def readMembers {α : Type} (record : Record α) (members : Members) : Except DecodeError α :=
  (record.ofMembers (Members.get? members)).result members

/-- A record read from an object or an array. -/
def decoder {α : Type} (record : Record α) (title : String) : Decoder α
  | .obj members => record.readMembers members
  | .arr items => do
      let (value, rest) ← record.ofItems (.itemsOf title record.names.length) items
      if rest.isEmpty then return value else throw (.invalidLength items.length .fewerItems)
  | other => Decoder.wrongType other (.record title)

end Record

end AddonConfig
