import AddonConfig.Endpoint.Basic

/-!
# Endpoints as text

An endpoint as a tree of lines and as JSON.
-/

namespace AddonConfig

def EndpointKind.title : EndpointKind → String
  | .singleModel => "SingleModel"
  | .multipleModel => "MultipleModel"
  | .dataInput => "DataInput"

def EndpointKind.encode : EndpointKind → Json
  | .singleModel => .str "single_model"
  | .multipleModel => .str "multiple_model"
  | .dataInput => .str "data_input"

namespace Handler

def text : Handler → String
  | .named name => name
  | .custom inModule ofClass => inModule ++ "." ++ ofClass ++ " (custom)"

def encode : Handler → Json
  | .named name => .obj [("kind", .str "named"), ("name", .str name)]
  | .custom inModule ofClass =>
      .obj [("kind", .str "custom"), ("module", .str inModule), ("class", .str ofClass)]

end Handler

namespace EndpointEntity

def lines (entity : EndpointEntity) : List String :=
  ["    " ++ entity.name ++ ": ["]
    ++ entity.fieldNames.map (fun field => "        " ++ field ++ ",")
    ++ ["    ],"]

def encode (entity : EndpointEntity) : Json :=
  .obj [("name", .str entity.name), ("fields", .arr (entity.fields.map .str)),
    ("supports_disablement", .bool entity.supportsDisablement)]

end EndpointEntity

namespace Endpoint

/-- The lines of an endpoint's tree. -/
def lines (endpoint : Endpoint) : List String :=
  [endpoint.name ++ " (" ++ endpoint.kind.title ++ ")", "    conf: " ++ endpoint.confName,
    "    handler: " ++ endpoint.handler.text]
    ++ endpoint.entities.flatMap EndpointEntity.lines

/-- The members of an endpoint. -/
def members (endpoint : Endpoint) : Members :=
  [("name", .str endpoint.name), ("kind", endpoint.kind.encode), ("conf_name", .str endpoint.confName),
    ("handler", endpoint.handler.encode),
    ("entities", .arr (endpoint.entities.map EndpointEntity.encode))]

def encode (endpoint : Endpoint) : Json := .obj endpoint.members

end Endpoint

end AddonConfig
