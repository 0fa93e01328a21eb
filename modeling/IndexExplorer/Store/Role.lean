import IndexExplorer.Store.Keys

/-!
Roles that a profile takes on: what the service that hands out their keys is asked, and what is
wrong with it.
-/
namespace IndexExplorer

/-- What is asked in order to take on a role. -/
structure RoleRequest where
  arn : Setting
  sessionName : Option Setting := none
  externalId : Option Setting := none
  serialNumber : Option Setting := none
  duration : Option Int := none
  token : Option String := none
deriving DecidableEq

namespace Profile

/-- The profile has a role to take on with the keys of another profile. -/
def hasRole (p : Profile) : Bool :=
  (p.get? "role_arn").isSome && (p.get? "web_identity_token_file").isNone

end Profile

namespace RoleRequest

/-- The seconds that a role is wanted for. A text that is no number is ignored. -/
def durationOf (p : Profile) : StoreResult (Option Int) :=
  match p.get? "duration_seconds" with
  | none => .ok none
  | some (.nested _) => StoreResult.other .wrongKind
  | some (.text s) =>
    match readInteger s with
    | .ok n => .ok (some n)
    | .error _ => .ok none

/-- What a profile asks for. -/
def ofProfile (p : Profile) : StoreResult RoleRequest := do
  return {
    arn := (p.get? "role_arn").getD (.text "")
    sessionName := p.get? "role_session_name"
    externalId := p.get? "external_id"
    serialNumber := p.get? "mfa_serial"
    duration := ← durationOf p }

/-- What is wrong with a text that has to have a length. -/
def textFault? (name : String) (least : Nat) (value : Setting) : Option String :=
  match value with
  | .text s =>
    if s.length < least then
      some ("Invalid length for parameter " ++ name ++ ", value: " ++ toString s.length ++
        ", valid min length: " ++ toString least)
    else none
  | .nested _ =>
    some ("Invalid type for parameter " ++ name ++ ", value: " ++ value.shown ++
      ", type: <class 'dict'>, valid types: <class 'str'>")

/-- What is wrong with a number that must not be too small. -/
def numberFault? (name : String) (least value : Int) : Option String :=
  if value < least then
    some ("Invalid value for parameter " ++ name ++ ", value: " ++ toString value ++
      ", valid min value: " ++ toString least)
  else none

/-- All that is wrong with a request. An empty name of the session is replaced and cannot be. -/
def faults (r : RoleRequest) : List String :=
  [(r.sessionName.filter (·.toJson.given)).bind (textFault? "RoleSessionName" 2),
    r.externalId.bind (textFault? "ExternalId" 2),
    r.serialNumber.bind (textFault? "SerialNumber" 9),
    r.duration.bind (numberFault? "DurationSeconds" 900),
    textFault? "RoleArn" 20 r.arn,
    r.token.bind fun t => textFault? "WebIdentityToken" 4 (.text t)].filterMap id

/-- How a request to a host ends: it is refused for its faults, or nobody answers. -/
def problem (r : RoleRequest) (host : String) : StoreProblem :=
  match r.faults with
  | [] => .fault (.unreachable ("https://" ++ host ++ "/"))
  | reasons => .fault (.badParameters reasons)

end RoleRequest

end IndexExplorer
