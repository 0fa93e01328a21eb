import IndexExplorer.Json.Display
import IndexExplorer.SendFault

/-!
The typed failures of searching, credentials and discovery: their messages, the HTTP status each
is answered with, and the record that reports one.
-/
namespace IndexExplorer

/-- The kinds of failure. -/
inductive FailureKind where
  | general | noNodes | credential | refused | authentication | transport | discovery
  | invalidRegion
deriving DecidableEq, Repr

namespace FailureKind

/-- All kinds. -/
def all : List FailureKind :=
  [.general, .noNodes, .credential, .refused, .authentication, .transport, .discovery,
   .invalidRegion]

/-- The name of a kind. -/
def name : FailureKind → String
  | .general => "NavigatorError"
  | .noNodes => "NoNodesConfigured"
  | .credential => "CredentialError"
  | .refused => "UpstreamError"
  | .authentication => "AuthenticationFailed"
  | .transport => "TransportError"
  | .discovery => "DiscoveryError"
  | .invalidRegion => "InvalidRegion"

/-- The kind of a name. -/
def ofName? (s : String) : Option FailureKind := all.find? (·.name = s)

theorem ofName?_name (k : FailureKind) : ofName? k.name = some k := by
  cases k <;> decide

/-- A kind and the more general ones it belongs to, up to the most general. -/
def lineage : FailureKind → List FailureKind
  | .general => [.general]
  | .authentication => [.authentication, .refused, .general]
  | .invalidRegion => [.invalidRegion, .discovery, .general]
  | k => [k, .general]

end FailureKind

/-- A failure that the caller is told about by kind. The body of an answer is kept whole here; what
is reported of it is `Failure.body`. -/
inductive Failure where
  | general (message : String) (details : Option String)
  | noNodes (message : String)
  | credential (message : String) (details : Option String)
  | refused (status : Int) (body : String) (node : Option String)
  | authentication (status : Int) (body : String) (node : Option String)
  | transport (node : String) (cause : Option SendFault)
  | discovery (message : String) (status : Option Int) (body : String)
  | invalidRegion (region : Json)

namespace Failure

/-- How many characters of an answer's body are reported. -/
def bodyLimit : Nat := 2000

/-- A body as reported: cut, with a mark, when it is too long. -/
def cut (body : String) : String :=
  if bodyLimit < body.length then String.ofList (body.toList.take bodyLimit) ++ "...(truncated)"
  else body

/-- The kind of a failure. -/
def kind : Failure → FailureKind
  | .general .. => .general
  | .noNodes _ => .noNodes
  | .credential .. => .credential
  | .refused .. => .refused
  | .authentication .. => .authentication
  | .transport .. => .transport
  | .discovery .. => .discovery
  | .invalidRegion _ => .invalidRegion

/-- The status of the answer that the failure reports, for the kinds that have one. -/
def status : Failure → Option (Option Int)
  | .refused s _ _ | .authentication s _ _ => some (some s)
  | .discovery _ s _ => some s
  | .invalidRegion _ => some none
  | _ => none

/-- The body that the failure reports, for the kinds that have one. -/
def body : Failure → Option String
  | .refused _ b _ | .authentication _ b _ | .discovery _ _ b => some (cut b)
  | .invalidRegion _ => some ""
  | _ => none

/-- The node that the failure names, for the kinds that have one. -/
def node : Failure → Option (Option String)
  | .refused _ _ n | .authentication _ _ n => some n
  | .transport n _ => some (some n)
  | _ => none

/-- What is said of an answer that refuses a request. -/
def refusedMessage (status body : String) : String := "Upstream error (" ++ status ++ "): " ++ body

/-- What is said of an answer that refuses its sender. -/
def authenticationMessage (status body : String) : String :=
  "Authentication failed (" ++ status ++ "): " ++ body

/-- What is said of a node that gave no answer. -/
def transportMessage (node : String) (cause : Option SendFault) : String :=
  "Failed to connect to node " ++ node ++ ": " ++
    match cause with
    | none => "no response"
    | some c => c.kind.name ++ ": " ++ c.text

/-- What is said of a region without a well-formed name. -/
def regionMessage (region : Json) : String := "Invalid AWS region: " ++ region.shownQuoted

/-- What is said of a connection without nodes. -/
def noNodesMessage : String := "No OpenSearch nodes configured."

/-- The message. -/
def message : Failure → String
  | .general m _ | .noNodes m | .credential m _ | .discovery m _ _ => m
  | .refused s b _ => refusedMessage (toString s) (cut b)
  | .authentication s b _ => authenticationMessage (toString s) (cut b)
  | .transport n c => transportMessage n c
  | .invalidRegion r => regionMessage r

/-- What is told beyond the message; never empty. -/
def details (f : Failure) : Option String :=
  match f with
  | .general _ d | .credential _ d => d.filter (!·.isEmpty)
  | _ => f.body.filter (!·.isEmpty)

/-- The HTTP status that the failure is answered with: that of the engine's own answer if there
was one. -/
def httpStatus : Failure → Int
  | .general .. => 500
  | .noNodes _ | .invalidRegion _ => 400
  | .credential .. => 401
  | .refused s _ _ | .authentication s _ _ => s
  | .transport .. => 502
  | .discovery _ s _ => s.getD 502

/-- The record that reports the failure. -/
def report (f : Failure) : Json :=
  .obj ([("error", .str f.kind.name), ("message", .str f.message)] ++
    match f.details with
    | some d => [("details", .str d)]
    | none => [])

/-- The connection has no node to ask. -/
def noNodesConfigured : Failure := .noNodes noNodesMessage

end Failure

end IndexExplorer
