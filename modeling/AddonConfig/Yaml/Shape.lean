import AddonConfig.Yaml.Untyped

/-!
# Reading a document of an expected shape

A shape says what is expected at a place of a document, and a scalar is read as that: where a text is
expected every scalar is one. `Shape.ofText?` reads the only document of a text as JSON.
-/

namespace AddonConfig.Yaml

/-- What is expected at a place. -/
inductive Shape where
  /-- The text of any scalar. -/
  | text
  | flag
  /-- An integer of 64 bits without a minus sign. -/
  | natural
  /-- A text, a finite number or a flag. -/
  | primitive
  /-- Anything. -/
  | any
  /-- A name, which a tag may give too. -/
  | variant
  | optional (shape : Shape)
  | list (item : Shape)
  /-- A mapping with fields; other keys are passed over. -/
  | record (fields : List (String × Shape))
  /-- A mapping with fields; the values of other keys are kept. -/
  | openRecord (fields : List (String × Shape))
  /-- A mapping with a tag among its entries, or a sequence that begins with it. The tag decides which
  parameters the mapping may have, if any. -/
  | tagged (name : String) (parameters : String → Option (List String))

def Shape.optionalText : Shape := .optional .text

def Shape.optionalTexts : Shape := .optional (.list .text)

/-- The number of nested collections that a document may have. -/
def levelLimit : Nat := 128

/-- How many aliases may be followed for each unit of a document's size. -/
def aliasLimit : Nat := 100

/-- Whether a scalar may be of the kind that a tag of the standard names. -/
def mayBe (kind : String) (tag : Option String) : ScalarStyle → Bool
  | .plain => true
  | .literal => tag = some (standardTag kind)
  | .quoted => false

/-- Whether a scalar has no content but its tag. -/
def isNull (style : ScalarStyle) (text : String) : Bool :=
  style = .plain && (text.isEmpty || isNullWord text)

/-- Whether a node says that an optional value is absent. A tag for null goes with null alone. -/
def isNone? : Linked → Option Bool
  | .scalar none .plain text => some (text.isEmpty || isNullWord text)
  | .scalar (some tag) .plain text =>
      if tag = standardTag "null" then if isNullWord text then some true else none else some false
  | _ => some false

/-- The number of 64 bits that a text without a minus sign writes. -/
def naturalOf64? (text : String) : Option Int :=
  if text.toList.head? = some '-' then none else integerOf? 64 text.toList

/-- A text, a finite number or a flag. -/
def primitive? : Datum → Option Json
  | .null => none
  | .float value => if value.isFinite then some (.num (.float value)) else none
  | datum => some datum.toJson

/-- The entries of a mapping that are members of a record. A field comes once at most, its value read by
`field`; other values are read by `other`, if they are read. -/
def readMembers (targets : Targets) (fields : List (String × Shape))
    (field : Shape → Linked → Reading Json) (other : Option (Linked → Reading Json)) :
    List String → List (Linked × Linked) → Reading Members
  | _, [] => return []
  | seen, (key, value) :: rest => do
      let name ← readText targets key
      match fields.lookup name, other with
      | some shape, _ => do
          if seen.contains name then failure
          let value ← field shape value
          return (name, value) :: (← readMembers targets fields field other (name :: seen) rest)
      | none, some other => do
          let value ← other value
          return (name, value) :: (← readMembers targets fields field (some other) seen rest)
      | none, none => readMembers targets fields field none seen rest

/-- The tag among the entries of a mapping and the other entries. -/
def readTagged (targets : Targets) (tagName : String) (untyped : Linked → Reading Untyped) :
    List (Linked × Linked) → Reading (Option String × List (Untyped × Untyped))
  | [] => return (none, [])
  | (key, value) :: rest => do
      match ← untyped key with
      | .scalar (.text name) =>
          if name = tagName then do
            let tag ← readText targets value
            let (again, others) ← readTagged targets tagName untyped rest
            if again.isSome then failure else return (some tag, others)
          else do
            let value ← untyped value
            let (tag, others) ← readTagged targets tagName untyped rest
            return (tag, (.scalar (.text name), value) :: others)
      | key => do
          let value ← untyped value
          let (tag, others) ← readTagged targets tagName untyped rest
          return (tag, (key, value) :: others)

/-- The parameters among entries. A key is the name of a parameter or its number; no parameter comes
twice. -/
def parametersOf? (names : List String) : List (Untyped × Untyped) → Option Members
  | [] => some []
  | (key, value) :: rest => do
      let name ← match key with
        | .scalar (.text name) => some (some name)
        | .scalar (.int number) => if number < 0 then none else some names[number.toNat]?
        | _ => none
      let others ← parametersOf? names rest
      match name with
      | some name =>
          if !names.contains name then return others
          else if (others.lookup name).isSome then none
          else return (name, ← value.toJson?) :: others
      | none => return others

namespace Shape

/-- Reads a node that is no alias, where `levels` are left and `part` reads the parts of a collection if
there may be one. -/
def readNode (targets : Targets) (levels : Nat) (part : Option (Shape → Linked → Reading Json)) :
    Shape → Linked → Reading Json
  | .text, .scalar _ _ content => return .str content
  | .flag, .scalar tag style content =>
      if mayBe "bool" tag style then .bool <$> boolOf? content else failure
  | .natural, .scalar tag style content =>
      if mayBe "int" tag style then .num <$> .int <$> naturalOf64? content else failure
  | .primitive, .scalar tag style content => do primitive? (← datum? tag style content)
  | .any, node => do (← Untyped.read true targets levels node).toJson?
  | .variant, .scalar tag style content =>
      match localTag? tag with
      | some name => if isNull style content then return .str name else failure
      | none => return .str content
  | .optional shape, node => do
      if ← isNone? node then return .null else shape.readNode targets levels part node
  | .list item, .sequence _ items => do
      let part ← part
      .arr <$> items.mapM (part item)
  | .list _, node => if node.isAbsent then return .arr [] else failure
  | .record fields, .mapping _ entries => do
      let part ← part
      Json.ofMembers <$> readMembers targets fields part none [] entries
  | .record _, node => if node.isAbsent then return .obj [] else failure
  | .openRecord fields, .mapping _ entries => do
      let part ← part
      let other := fun node => do (← Untyped.read false targets (levels - 1) node).toJson?
      Json.ofMembers <$> readMembers targets fields part (some other) [] entries
  | .openRecord _, node => if node.isAbsent then return .obj [] else failure
  | .tagged name parameters, .mapping tag entries => do
      if part.isNone ∨ (localTag? tag).isSome then failure
      let (found, others) ← readTagged targets name (Untyped.read false targets (levels - 1)) entries
      let kind ← found
      match parameters kind with
      | some names => do
          let members ← parametersOf? names others
          return Json.ofMembers ((name, .str kind) :: members)
      | none => return .obj [(name, .str kind)]
  | .tagged .., .sequence tag (first :: items) => do
      if part.isNone ∨ (localTag? tag).isSome then failure
      let kind ← readText targets first
      let items ← items.mapM (Untyped.read false targets (levels - 1))
      return .arr (.str kind :: (← Untyped.itemsToJson? items))
  | _, _ => failure

/-- Reads a node with that many levels of collections. -/
def read (targets : Targets) : Nat → Shape → Linked → Reading Json
  | 0, shape, node => do shape.readNode targets 0 none (← follow targets node)
  | levels + 1, shape, node => do
      shape.readNode targets (levels + 1) (some (read targets levels)) (← follow targets node)

/-- The value of the only document of a text. -/
def ofText? (shape : Shape) (text : String) : Option Json := do
  let root ← Document.single? text
  let (root, targets) ← Linked.ofNode? root
  let (value, _) ← (read targets levelLimit shape root).run (aliasLimit * root.size)
  return value

end Shape

end AddonConfig.Yaml
