import IndexExplorer.Exchange
import IndexExplorer.Node
import IndexExplorer.Reply
import IndexExplorer.Service
import IndexExplorer.Signature
import IndexExplorer.Store.Source

/-!
Asking the nodes of a connection, one after the other, until one answers.

Every attempt resolves credentials anew, signs for the service of the node, and sends. Only a node
that gives no answer at all is passed over: any answer ends the search, whatever its status.
-/
namespace IndexExplorer

/-- What operations depend on besides their arguments: the credential files, the time in seconds
since 1970, and the hashes that signatures are made with. -/
structure Environment where
  files : CredentialFiles
  time : Int
  digest : Digest := Digest.sha256

namespace Gateway

/-- A call that any node may answer. The method and the header fields may be values of any kind. -/
structure Call where
  path : String
  method : Json := .str "GET"
  content : Content := .none
  fields : Json := .null

/-- The region to sign for: that of the connection, else that of the credentials. -/
def signingRegion (c : Connection) (k : CredentialSet) : String :=
  if !c.region.isEmpty then c.region
  else (k.region.filter (!·.isEmpty)).getD defaultRegion

/-- The URL of a call to a node. -/
def urlOf (node : String) (call : Call) : String := node ++ Node.rooted call.path

/-- The request of an attempt, signed unless access is anonymous. -/
def request (env : Environment) (c : Connection) (call : Call) (node : String) :
    Result Request := do
  let credentials ← (KeySource.ofConnection c).resolve env.files
  let request ← Request.build call.method (.str (urlOf node call)) call.content call.fields
    (.ofOption .float c.timeout)
  match credentials with
  | none => return request
  | some k =>
    let service ← Service.ofUrl (urlOf node call)
    Signature.sign env.digest ⟨k, signingRegion c k, service, env.time⟩ true request

/-- What an answer of a node means. -/
def judge (node : String) (r : Response) : Result Reply :=
  if r.status = 401 || r.status = 403 then do
    throw (.failure (.authentication r.status (← r.text) (some node)))
  else if !r.isSuccess then do
    throw (.failure (.refused r.status (← r.text) (some node)))
  else r.data.map fun v => ⟨r.status, v, node⟩

/-- Asks the nodes in order; `lost` is the failure of the node before. -/
def ask (env : Environment) (c : Connection) (call : Call) (lost : Failure) :
    List String → Exchange (Result Reply)
  | [] => .done (.error (.failure lost))
  | node :: rest =>
    match request env c call node with
    | .error p => .done (.error p)
    | .ok r =>
      r.send.bind fun
        | .received response => .done (judge node response)
        | .fault f =>
          if f.kind.isTransport then ask env c call (.transport node (some f)) rest
          else .done (.error (.sending f))
        | .unusable p => .done (.error p)

/-- Asks the nodes of a connection; it has to have one. -/
def execute (env : Environment) (c : Connection) (call : Call) : Exchange (Result Reply) :=
  match Node.normalize c.nodes with
  | [] => .done (.error (.failure Failure.noNodesConfigured))
  | nodes => ask env c call Failure.noNodesConfigured nodes

/-- Asks the nodes of a connection for a path given as any value. -/
def executeGiven (env : Environment) (c : Connection) (path method : Json) (content : Content)
    (fields : Json) : Exchange (Result Reply) :=
  match Node.normalize c.nodes, path with
  | _ :: _, .str path => execute env c { path, method, content, fields }
  | _ :: _, _ => .done (.error .noSuchPart)
  | [], _ => .done (.error (.failure Failure.noNodesConfigured))

end Gateway

end IndexExplorer
