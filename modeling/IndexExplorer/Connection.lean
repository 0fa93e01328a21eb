import IndexExplorer.Check

/-!
Where and how the engine is reached.
-/
namespace IndexExplorer

/-- How requests are authenticated. -/
inductive AuthMode where
  | profile
  | static
  | anonymous
deriving DecidableEq, Repr

namespace AuthMode

/-- The name of a mode. -/
def name : AuthMode → String
  | .profile => "profile"
  | .static => "static"
  | .anonymous => "none"

/-- The mode of a name. -/
def ofName? (s : String) : Option AuthMode :=
  [AuthMode.profile, .static, .anonymous].find? (·.name = s)

theorem ofName?_name (m : AuthMode) : ofName? m.name = some m := by
  cases m <;> decide

end AuthMode

/-- The fields that free text is looked for in. -/
def defaultTextFields : List String := ["name^2", "description", "metadata.*", "*"]

/-- The region used when none is given. -/
def defaultRegion : String := "us-east-1"

/-- A connection. Only the fields of the chosen mode are used to authenticate; `timeout` is in
seconds for each attempt. -/
structure Connection where
  nodes : List String := []
  region : String := defaultRegion
  authMode : AuthMode := .profile
  profileName : Option String := some "default"
  accessKey : Option String := none
  secretKey : Option String := none
  sessionToken : Option String := none
  index : String := "logs-v1"
  geoField : String := "location"
  textFields : List String := defaultTextFields
  demoMode : Bool := false
  timeout : Option Float := none

namespace Connection

/-- A connection as it is given. -/
def rule : Rule Connection := Rule.record fun ms =>
  Connection.mk <$> ms.field "nodes" (Rule.listOf Rule.text) []
    <*> ms.field "region" Rule.text defaultRegion
    <*> ms.field "auth_mode" (Rule.oneOf AuthMode.ofName?) .profile
    <*> ms.field "profile_name" (Rule.optional Rule.text) (some "default")
    <*> ms.field "access_key" (Rule.optional Rule.text) none
    <*> ms.field "secret_key" (Rule.optional Rule.text) none
    <*> ms.field "session_token" (Rule.optional Rule.text) none
    <*> ms.field "index" Rule.text "logs-v1"
    <*> ms.field "geo_field" Rule.text "location"
    <*> ms.field "text_fields" (Rule.listOf Rule.text) defaultTextFields
    <*> ms.field "demo_mode" Rule.flag false
    <*> ms.field "timeout" (Rule.optional Rule.float) none

/-- All fields of a connection. -/
def toJson (c : Connection) : Json := .obj [
  ("nodes", .arr (c.nodes.map .str)),
  ("region", .str c.region),
  ("auth_mode", .str c.authMode.name),
  ("profile_name", .ofOption .str c.profileName),
  ("access_key", .ofOption .str c.accessKey),
  ("secret_key", .ofOption .str c.secretKey),
  ("session_token", .ofOption .str c.sessionToken),
  ("index", .str c.index),
  ("geo_field", .str c.geoField),
  ("text_fields", .arr (c.textFields.map .str)),
  ("demo_mode", .bool c.demoMode),
  ("timeout", .ofOption .float c.timeout)]

end Connection

end IndexExplorer
