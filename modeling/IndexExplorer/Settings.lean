import IndexExplorer.Connection
import IndexExplorer.Problem

/-!
Settings, which named variables override.
-/
namespace IndexExplorer

/-- The settings of the service. -/
structure Settings where
  defaultRegion : String := IndexExplorer.defaultRegion
  requestTimeout : Float := 30.0
  logLevel : String := "INFO"
  debounceSeconds : Float := 0.4
  credentialsFile : String
  configFile : String
  apiHost : String := "0.0.0.0"
  apiPort : Int := 8000

namespace Settings

/-- The settings without any variable, for a home directory. -/
def default (home : String) : Settings where
  credentialsFile := home ++ "/.aws/credentials"
  configFile := home ++ "/.aws/config"

/-- The double that a variable spells, if it is set. -/
def floatOr (default : Float) : Option String → Result Float
  | some s => (Json.str s).toFloat
  | none => .ok default

/-- The integer that a variable spells, if it is set. -/
def intOr (default : Int) : Option String → Result Int
  | some s => readInteger s
  | none => .ok default

/-- The settings that variables give; those that are not set keep their defaults. -/
def ofVariables (home : String) (var : String → Option String) : Result Settings := do
  let d := default home
  let timeout ← floatOr d.requestTimeout (var "NAVIGATOR_TIMEOUT")
  let debounce ← floatOr d.debounceSeconds (var "NAVIGATOR_DEBOUNCE_SECONDS")
  let port ← intOr d.apiPort (var "API_PORT")
  return {
    defaultRegion := (var "NAVIGATOR_REGION").getD d.defaultRegion
    requestTimeout := timeout
    logLevel := (var "NAVIGATOR_LOG_LEVEL").getD d.logLevel
    debounceSeconds := debounce
    credentialsFile := (var "AWS_SHARED_CREDENTIALS_FILE").getD d.credentialsFile
    configFile := (var "AWS_CONFIG_FILE").getD d.configFile
    apiHost := (var "API_HOST").getD d.apiHost
    apiPort := port }

/-- All settings. -/
def toJson (s : Settings) : Json := .obj [
  ("default_region", .str s.defaultRegion),
  ("request_timeout", .float s.requestTimeout),
  ("log_level", .str s.logLevel),
  ("debounce_seconds", .float s.debounceSeconds),
  ("shared_credentials_file", .str s.credentialsFile),
  ("config_file", .str s.configFile),
  ("api_host", .str s.apiHost),
  ("api_port", .int s.apiPort)]

end Settings

end IndexExplorer
