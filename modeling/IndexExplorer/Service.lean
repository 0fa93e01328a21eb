import IndexExplorer.Url.Parts

/-!
The service that a URL's host belongs to. Requests are signed for the service by name.
-/
namespace IndexExplorer.Service

/-- The serverless service. -/
def serverless : String := "aoss"

/-- The service of managed domains. -/
def managed : String := "es"

/-- How the names of serverless hosts end. -/
def serverlessSuffix : String := ".aoss.amazonaws.com"

/-- The service of a host, in any letter case and with any number of points at its end. -/
def ofHost (host : String) : String :=
  let name := Text.dropEndWhile (· = '.') (Text.lower host).toList
  if serverlessSuffix.toList.isSuffixOf name then serverless else managed

/-- A mark of a URL with a scheme, as against a bare host. -/
def hasScheme (cs : List Char) : Bool :=
  match cs with
  | [] => false
  | c :: rest => [':', '/', '/'].isPrefixOf (c :: rest) || hasScheme rest

/-- The service of a URL or of a bare host name. -/
def ofUrl (url : String) : Result String :=
  let cs := url.toList
  if hasScheme cs then (UrlParts.split url).map fun p => ofHost p.host
  else .ok (ofHost (String.ofList (UrlParts.cutAt ':' (UrlParts.cutAt '/' cs).1).1))

/-- The service of a URL given as any value. A list or an object may have the mark of a scheme
among its items or names, and is no URL all the same. -/
def ofValue : Json → Result String
  | .str s => ofUrl s
  | .arr items =>
    .error (if items.any (fun | .str s => s = "://" | _ => false) then .wrongKind else .noSuchPart)
  | .obj ms => .error (if Named.has ms "://" then .wrongKind else .noSuchPart)
  | _ => .error .wrongKind

end IndexExplorer.Service
