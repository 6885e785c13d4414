import AddonConfig.Decode.Record
import AddonConfig.Model.Basic

/-!
# Reading the model

One decoder a type. An object gives a record by its members' names; all records but the entity options
are read from arrays too.
-/

namespace AddonConfig

namespace EntityType

/-- The type of that name, or the error that lists the names. -/
def ofNameChecked (name : String) : Except DecodeError EntityType :=
  match ofName? name with
  | some type => .ok type
  | none => .error (.unknownVariant name (all.map EntityType.name))

/-- A name, or an object whose only member has the name and no value. -/
def decode : Decoder EntityType
  | .str name => ofNameChecked name
  | .obj [(name, value)] => do
      let type ← ofNameChecked name
      match value with
      | .null => return type
      | other => Decoder.wrongType other .unit
  | .obj _ => .error (.invalidValue .map .singleMember)
  | other => Decoder.wrongType other .stringOrMap

end EntityType

namespace Validator

/-- What the tag of a validator says; a tag that is not known stands for `other`. -/
inductive Tag where
  | string | number | regex | email | ipv4 | date | url | other
  deriving DecidableEq, Repr

def Tag.ofName (name : String) : Tag :=
  if name = "string" then .string
  else if name = "number" then .number
  else if name = "regex" then .regex
  else if name = "email" then .email
  else if name = "ipv4" then .ipv4
  else if name = "date" then .date
  else if name = "url" then .url
  else .other

def Tag.decode : Decoder Tag
  | .str name => .ok (.ofName name)
  | value => Decoder.wrongType value .tag

/-- The member that holds the tag. -/
def tagName : String := "type"

def stringRecord : Record Validator :=
  (Record.done Validator.string)
    |>.optional "minLength" Decoder.signed
    |>.optional "maxLength" Decoder.signed
    |>.optional "errorMsg" Decoder.string

def numberRecord : Record Validator :=
  (Record.done Validator.number)
    |>.required "range" Decoder.double.list
    |>.optional "errorMsg" Decoder.string

def regexRecord : Record Validator :=
  (Record.done Validator.regex)
    |>.required "pattern" Decoder.string
    |>.optional "errorMsg" Decoder.string

/-- The title and the parameters of a tag, or the validator itself where it has none. -/
def Tag.parameters : Tag → (String × Record Validator) ⊕ Validator
  | .string => .inl ("String", stringRecord)
  | .number => .inl ("Number", numberRecord)
  | .regex => .inl ("Regex", regexRecord)
  | .email => .inr .email
  | .ipv4 => .inr .ipv4
  | .date => .inr .date
  | .url => .inr .url
  | .other => .inr .other

/-- A validator from its tag and the other members. -/
def ofMembers (tag : Tag) (members : Members) : Except DecodeError Validator :=
  match tag.parameters with
  | .inl (_, record) => record.readMembers members
  | .inr validator => .ok validator

/-- A validator from its tag and the items after it. -/
def ofItems (tag : Tag) (items : List Json) : Except DecodeError Validator :=
  match tag.parameters with
  | .inl (title, record) => do
      let count := record.names.length
      let (value, rest) ← record.ofItems (.variantItems title count) items
      if rest.isEmpty then return value
      else throw (.invalidLength items.length (.itemsInSequence count))
  | .inr validator =>
      if items.isEmpty then .ok validator else .error (.invalidLength items.length (.itemsInSequence 0))

/-- An object with a tag, or an array that begins with one. -/
def decode : Decoder Validator
  | .obj members =>
      match Members.get? members tagName with
      | some value => do ofMembers (← Tag.decode value) (Members.erase tagName members)
      | none => .error (.missingField tagName)
  | .arr (value :: items) => do ofItems (← Tag.decode value) items
  | .arr [] => .error (.missingField tagName)
  | value => Decoder.wrongType value (.tagged "Validator")

end Validator

/-- A text, a number or a flag. -/
def ChoiceValue.decode : Decoder ChoiceValue
  | .str value => .ok (.text value)
  | .num value => .ok (.number value)
  | .bool value => .ok (.flag value)
  | _ => .error (.noVariant "AutoCompleteValue")

namespace Choice

/-- A choice whose children are read by `child`. -/
def record (child : Decoder Choice) : Record Choice :=
  (Record.done Choice.mk)
    |>.required "value" ChoiceValue.decode
    |>.required "label" Decoder.string
    |>.optional "children" child.list

/-- Choices nested at most `levels` deep. -/
def decodeNested : Nat → Decoder Choice
  | 0 => fun value => Decoder.wrongType value (.record "AutoCompleteField")
  | levels + 1 => (record (decodeNested levels)).decoder "AutoCompleteField"

/-- A choice nests at most as deep as its value. -/
def decode : Decoder Choice := fun value => decodeNested value.depth value

end Choice

def OAuthField.record : Record OAuthField :=
  (Record.done OAuthField.mk)
    |>.required "oauth_field" Decoder.string
    |>.required "label" Decoder.string
    |>.required "field" Decoder.string
    |>.optional "required" Decoder.bool
    |>.defaulted "validators" Validator.decode

def OAuthField.decode : Decoder OAuthField := OAuthField.record.decoder "OAuthField"

namespace EntityOptions

/-- The options that are known by name. -/
def known : Record (Members → EntityOptions) :=
  (Record.done EntityOptions.mk)
    |>.optional "autoCompleteFields" Choice.decode.list
    |>.optional "supportedFileTypes" Decoder.string.list
    |>.optional "maxFileSize" Decoder.unsigned
    |>.optional "fileSupportMessage" Decoder.string
    |>.optional "oauth" OAuthField.decode.list
    |>.optional "basic" OAuthField.decode.list
    |>.optional "auth_type" Decoder.string.list

/-- The members that are not known by name. -/
def extraOf (members : Members) : Members := members.filter fun member => !known.names.contains member.1

/-- The known options are decoded and all others kept. -/
def decode : Decoder EntityOptions
  | .obj members => do
      let build ← known.readMembers members
      return build (extraOf members)
  | other => Decoder.wrongType other (.record "EntityOptions")

end EntityOptions

def Entity.record : Record Entity :=
  (Record.done Entity.mk)
    |>.required "field" Decoder.string
    |>.required "label" Decoder.string
    |>.required "type" EntityType.decode
    |>.optional "required" Decoder.bool
    |>.optional "defaultValue" Decoder.json
    |>.optional "help" Decoder.string
    |>.defaulted "validators" Validator.decode
    |>.optional "options" EntityOptions.decode

def Entity.decode : Decoder Entity := Entity.record.decoder "Entity"

def Column.record : Record Column :=
  (Record.done Column.mk)
    |>.required "field" Decoder.string
    |>.required "label" Decoder.string

def Column.decode : Decoder Column := Column.record.decoder "TableHeader"

def Table.record : Record Table :=
  (Record.done Table.mk)
    |>.defaulted "header" Column.decode
    |>.defaulted "actions" Decoder.string

def Table.decode : Decoder Table := Table.record.decoder "Table"

def Tab.record : Record Tab :=
  (Record.done Tab.mk)
    |>.required "name" Decoder.string
    |>.required "title" Decoder.string
    |>.required "entity" Entity.decode.list
    |>.optional "table" Table.decode
    |>.optional "confName" Decoder.string

def Tab.decode : Decoder Tab := Tab.record.decoder "Tab"

def Service.record : Record Service :=
  (Record.done Service.mk)
    |>.required "name" Decoder.string
    |>.required "title" Decoder.string
    |>.required "entity" Entity.decode.list
    |>.optional "confName" Decoder.string
    |>.optional "restHandlerName" Decoder.string
    |>.optional "restHandlerModule" Decoder.string
    |>.optional "restHandlerClass" Decoder.string

def Service.decode : Decoder Service := Service.record.decoder "Service"

def MenuGroup.record : Record MenuGroup :=
  (Record.done MenuGroup.mk)
    |>.required "groupName" Decoder.string
    |>.required "groupTitle" Decoder.string
    |>.optional "serviceNames" Decoder.string.list

def MenuGroup.decode : Decoder MenuGroup := MenuGroup.record.decoder "MenuGroup"

def InputsPage.record : Record InputsPage :=
  (Record.done InputsPage.mk)
    |>.optional "title" Decoder.string
    |>.required "services" Service.decode.list
    |>.optional "multiLevelMenu" MenuGroup.decode.list

def InputsPage.decode : Decoder InputsPage := InputsPage.record.decoder "Inputs"

def Pages.record : Record Pages :=
  (Record.done Pages.mk)
    |>.optional "configuration" Tab.decode.list
    |>.optional "inputs" InputsPage.decode

def Pages.decode : Decoder Pages := Pages.record.decoder "Pages"

def Meta.record : Record Meta :=
  (Record.done Meta.mk)
    |>.required "name" Decoder.string
    |>.required "restRoot" Decoder.string
    |>.required "version" Decoder.string
    |>.required "displayName" Decoder.string
    |>.optional "schemaVersion" Decoder.string

def Meta.decode : Decoder Meta := Meta.record.decoder "Meta"

def Config.record : Record Config :=
  (Record.done Config.mk)
    |>.required "meta" Meta.decode
    |>.required "pages" Pages.decode

def Config.decode : Decoder Config := Config.record.decoder "GlobalConfig"

end AddonConfig
