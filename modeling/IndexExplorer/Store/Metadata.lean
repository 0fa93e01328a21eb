import IndexExplorer.Store.Fault
import IndexExplorer.Store.Files
import IndexExplorer.Text.Digit

/-!
The settings of a profile about the metadata service of its machine. The service is never asked
for keys, but a profile with malformed settings about it is not usable.
-/
namespace IndexExplorer

namespace Setting

/-- An integer in a setting. -/
def integer : Setting → Result Int
  | .text s => readInteger s
  | .nested _ => .error .wrongKind

end Setting

namespace Metadata

/-- A letter, a digit of any script or a hyphen; two letters beyond ASCII match ASCII ones when
letter case does not count. -/
def isHostChar (c : Char) : Bool :=
  c.isAlphanum || c = '-' || Text.isDigit c || c = '\u0131' || c = '\u017f'

/-- A part of a host name: up to 63 characters, with no hyphen at an end. -/
def isHostLabel (cs : List Char) : Bool :=
  !cs.isEmpty && cs.length ≤ 63 && cs.all isHostChar && cs.head? != some '-' &&
    cs.getLast? != some '-'

/-- Parts of a host name with points between them and possibly one at the end. -/
def isHostName (cs : List Char) : Bool :=
  let name := if cs.getLast? = some '.' then cs.dropLast else cs
  cs.length ≤ 255 && (Ip.splitAt '.' name).all isHostLabel

/-- A character of the zone of an address. -/
def isZoneChar (c : Char) : Bool :=
  c.isAlphanum || c = '.' || c = '_' || c = '!' || c = '-' || c = '~'

/-- An IPv6 address, possibly with a zone. -/
def isAddress (cs : List Char) : Bool :=
  Ip.isV6 cs && ((cs.dropWhile (· ≠ '%')).drop 1).all isZoneChar

/-- A URL with a host name or an address. -/
def isEndpoint (url : String) : Result Bool := do
  if url.toList.any fun c => c = '\t' || c = '\r' || c = '\n' then return false
  let host := (← UrlParts.split url).lowerHost.toList
  return !host.isEmpty && (isHostName host || isAddress host)

/-- The settings about the metadata service are sound. -/
def check (p : Profile) : StoreResult Unit := do
  let whole := fun (key : String) =>
    match p.get? key with
    | some v => StoreResult.ofResult (v.integer.map fun _ => ())
    | none => .ok ()
  whole "metadata_service_timeout"
  whole "metadata_service_num_attempts"
  match p.get? "ec2_metadata_service_endpoint_mode" with
  | some (.nested _) => StoreResult.other .noSuchPart
  | some (.text mode) =>
    if Text.lower mode != "ipv4" && Text.lower mode != "ipv6" then
      StoreResult.fault (.endpointMode mode)
  | none => pure ()
  match p.get? "ec2_metadata_service_endpoint" with
  | some (.nested _) => StoreResult.other .wrongKind
  | some (.text url) =>
    if !url.isEmpty && !(← StoreResult.ofResult (isEndpoint url)) then
      StoreResult.fault (.endpoint url)
  | none => pure ()

end Metadata

end IndexExplorer
