import IndexExplorer.Problem
import IndexExplorer.Text.Quoted

/-!
Why the credential files give no credentials for a profile.
-/
namespace IndexExplorer

/-- Why the credential files give no credentials for a profile. -/
inductive StoreFault where
  | unreadable (path : String)
  | endpointMode (mode : String)
  | endpoint (url : String)
  | partialKeys (source missing : String)
  | missingSource (source parent : String)
  | bothSources (profile : String)
  | badSource (source profile : String)
  | emptySource (source profile : String)
  | noCredentials (source : String)
  | cycle (source : String) (visited : List String)
  | noRole
  | noSignOn (session : String)
  | signOnConflict (key inProfile inSession : String)
  | partialSignOn (profile : String) (missing : List String)
  | emptySession (profile session : String)
  | partialSession (profile : String) (missing : List String)
  | badRegion (region : String)
  | noToken (name : String)
  | noLogin
  | badParameters (reasons : List String)
  /-- a service that would have to hand out the keys -/
  | unreachable (url : String)
deriving DecidableEq, Repr

/-- Texts in quotes and brackets. -/
def StoreFault.bracketed (texts : List String) : String :=
  "[" ++ ", ".intercalate (texts.map Text.quoted) ++ "]"

/-- What is said about a fault of the credential files. -/
def StoreFault.message : StoreFault → String
  | .unreadable path => "Unable to parse config file: " ++ path
  | .endpointMode mode =>
    "Invalid EC2 Instance Metadata endpoint mode: " ++ mode ++
      " Valid endpoint modes (case-insensitive): ('ipv4', 'ipv6')."
  | .endpoint url => "Invalid endpoint EC2 Instance Metadata endpoint: " ++ url
  | .partialKeys source missing =>
    "Partial credentials found in " ++ source ++ ", missing: " ++ missing
  | .missingSource source parent =>
    "The source_profile \"" ++ source ++ "\" referenced in the profile \"" ++ parent ++
      "\" does not exist."
  | .bothSources profile =>
    "The profile \"" ++ profile ++ "\" contains both source_profile and credential_source."
  | .badSource source profile =>
    "The credential source \"" ++ source ++ "\" referenced in profile \"" ++ profile ++
      "\" is not valid."
  | .emptySource source profile =>
    "Error when retrieving credentials from " ++ source ++
      ": No credentials found in credential_source referenced in profile " ++ profile
  | .noCredentials source => "The source profile \"" ++ source ++ "\" must have credentials."
  | .cycle source visited =>
    "Infinite loop in credential configuration detected. Attempting to load from profile " ++
      source ++ " which has already been visited. Visited profiles: " ++ bracketed visited
  | .noRole =>
    "The provided profile or the current environment is configured to assume role with web " ++
      "identity but has no role ARN configured. Ensure that the profile has the role_arn" ++
      "configuration set or the AWS_ROLE_ARN env var is set."
  | .noSignOn session => "The specified sso-session does not exist: \"" ++ session ++ "\""
  | .signOnConflict key inProfile inSession =>
    "The value for " ++ key ++ " is inconsistent between profile (" ++ inProfile ++
      ") and sso-session (" ++ inSession ++ ")."
  | .partialSignOn profile missing =>
    "The profile \"" ++ profile ++ "\" is configured to use SSO but is missing required " ++
      "configuration: " ++ ", ".intercalate missing
  | .emptySession profile session =>
    "The profile \"" ++ profile ++ "\" is configured to use the SSO token provider but the \"" ++
      session ++ "\" sso_session configuration does not exist."
  | .partialSession profile missing =>
    "The profile \"" ++ profile ++ "\" is configured to use the SSO token provider but is " ++
      "missing the following configuration: " ++ bracketed missing ++ "."
  | .badRegion region =>
    "Provided region_name '" ++ region ++ "' doesn't match a supported format."
  | .noToken name => "Error loading SSO Token: Token for " ++ name ++ " does not exist"
  | .noLogin =>
    "Missing Dependency: Using the login credential provider requires an additional " ++
      "dependency. You will need to pip install \"botocore[crt]\" before proceeding."
  | .badParameters reasons => "Parameter validation failed:\n" ++ "\n".intercalate reasons
  | .unreachable url => "Could not connect to the endpoint URL: \"" ++ url ++ "\""

/-- How a search for keys ends without them. -/
inductive StoreProblem where
  | fault (f : StoreFault)
  /-- trouble that is told as it is -/
  | other (p : Problem)

namespace StoreProblem

/-- The failure to find credentials. -/
def failure (message : String) : Problem := .failure (.credential message none)

/-- The problem as it is told to one who wants a profile. -/
def told (profile : String) : StoreProblem → Problem
  | .fault f =>
    failure ("Could not load credentials for profile '" ++ profile ++ "': " ++ f.message)
  | .other p => p

end StoreProblem

/-- What a search for keys finds. -/
abbrev StoreResult (α : Type) := Except StoreProblem α

namespace StoreResult

/-- Nothing is found, because of a fault of the files. -/
def fault (f : StoreFault) : StoreResult α := .error (.fault f)

/-- Nothing is found, for another reason. -/
def other (p : Problem) : StoreResult α := .error (.other p)

/-- A result, with its problem told as it is. -/
def ofResult : Result α → StoreResult α
  | .ok a => .ok a
  | .error p => .error (.other p)

end StoreResult

end IndexExplorer
