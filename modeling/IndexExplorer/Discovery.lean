import IndexExplorer.Gateway
import IndexExplorer.Collection

/-!
The collections of a region, as the control plane of the serverless service lists them page by
page.
-/
namespace IndexExplorer.Discovery

/-- The address of the control plane of a region. -/
def controlPlane (region : String) : String :=
  "https://" ++ Service.serverless ++ "." ++ region ++ ".amazonaws.com/"

/-- The address of a collection. -/
def endpoint (id region : String) : String :=
  "https://" ++ id ++ "." ++ region ++ "." ++ Service.serverless ++ ".amazonaws.com"

/-- A letter from `a` to `z`. -/
def isSmallLetter (c : Char) : Bool := 'a' ≤ c && c ≤ 'z'

/-- Two letters, one or more words of letters, and a number, with hyphens between them. -/
def isRegion (region : String) : Bool :=
  match Ip.splitAt '-' region.toList with
  | area :: rest =>
    let number := rest.getLastD []
    let words := rest.dropLast
    area.length = 2 && area.all isSmallLetter && !words.isEmpty &&
      words.all (fun w => !w.isEmpty && w.all isSmallLetter) &&
      !number.isEmpty && number.all Text.isDigit
  | [] => false

/-- How many pages are asked for at most. -/
def pageLimit : Nat := 50

/-- The fields that every request has. -/
def fields : Members :=
  [("content-type", .str "application/x-amz-json-1.0"),
   ("x-amz-target", .str "OpenSearchServerless.ListCollections")]

/-- The body that asks for a page: the first has no token. -/
def pageBody (token : Json) : Json :=
  .obj (if token.given then [("nextToken", token)] else [])

/-- The signed request for a page. -/
def request (env : Environment) (region : String) (k : CredentialSet) (timeout : Json)
    (token : Json) : Result Request := do
  let r ← Request.make "POST" (controlPlane region) fields (pageBody token).bytes
    (some (Request.timeoutOf timeout))
  Signature.sign env.digest ⟨k, region, Service.serverless, env.time⟩ true r

/-- The page that an answer is. -/
def pageOf (r : Response) : Result Json :=
  if !r.isSuccess then do
    let text ← r.text
    let start := String.ofList (text.toList.take 500)
    throw (.failure (.discovery ("AWS API error (" ++ toString r.status ++ "): " ++ start)
      (some r.status) text))
  else
    match Json.ofBytes r.body with
    | .ok v => .ok v
    | .error .tooDeep => .error .tooDeep
    | .error _ => do
      throw (.failure (.discovery "ListCollections returned a non-JSON body" none (← r.text)))

/-- The collection of a summary; none without an id. Without a name the id is its name. -/
def collectionOf (region : String) : Json → Result (Option Collection)
  | .obj ms =>
    let id := Members.getOrNull ms "id"
    let name := Members.getOrNull ms "name"
    if !id.given then .ok none
    else
      Checked.result ((fun n i => some ⟨n, i, endpoint id.shown region⟩)
        <$> (Rule.text (if name.given then name else id)).under (.member "name")
        <*> (Rule.text id).under (.member "id"))
  | _ => .error .noSuchPart

/-- The collections of a list of summaries. -/
def collectionsFrom (region : String) : List Json → Result (List Collection)
  | [] => .ok []
  | v :: rest => do
    let first ← collectionOf region v
    let others ← collectionsFrom region rest
    return first.toList ++ others

/-- The collections of a page, and the token of the next one. -/
def readPage (region : String) : Json → Result (List Collection × Json)
  | .obj ms => do
    let summaries := Members.getOrNull ms "collectionSummaries"
    let found ←
      if !summaries.given then .ok []
      else match summaries with
        | .arr items => collectionsFrom region items
        | .str _ | .obj _ => .error .noSuchPart
        | _ => .error .wrongKind
    return (found, Members.getOrNull ms "nextToken")
  | _ => .error .noSuchPart

/-- What the outcome of asking for a page means. -/
def pageFrom (r : Request) (o : Outcome) : Result Json :=
  match o with
  | .received response => pageOf response
  | .fault f =>
    if f.kind.isTransport then
      .error (.failure (.discovery ("Could not reach " ++ r.url.host ++ ": " ++ f.text) none ""))
    else .error (.sending f)
  | .unusable p => .error p

/-- Asks for up to `n` pages, beginning with that of a token; `found` is what the pages before
had. -/
def pages (env : Environment) (region : String) (k : CredentialSet) (timeout : Json) :
    Nat → (found : List Collection) → (token : Json) → Exchange (Result (List Collection))
  | 0, found, _ => .done (.ok found)
  | n + 1, found, token =>
    match request env region k timeout token with
    | .error p => .done (.error p)
    | .ok r =>
      r.send.bind fun o =>
        match pageFrom r o >>= readPage region with
        | .error p => .done (.error p)
        | .ok (more, next) =>
          if next.given then pages env region k timeout n (found ++ more) next
          else .done (.ok (found ++ more))

/-- The collections of a region that has a well-formed name. -/
def discover (env : Environment) (region : Json) (k : CredentialSet) (timeout : Json) :
    Exchange (Result CollectionList) :=
  if !region.given then .done (.error (.failure (.invalidRegion region)))
  else match region with
    | .str name =>
      if isRegion name then
        (pages env name k timeout pageLimit [] .null).map fun r => r.map fun cs => ⟨name, cs⟩
      else .done (.error (.failure (.invalidRegion region)))
    | _ => .done (.error .wrongKind)

end IndexExplorer.Discovery
