import IndexExplorer.Problem

/-!
Failures that a caller makes from values of any kind, each under the name of a field.

* `ofFields_eq_ok_fits`: only fields that the kind has are taken, and none it needs may be missing.
-/
namespace IndexExplorer

/-- A failure made from values of any kind, with what is reported of it. -/
structure GivenFailure where
  kind : FailureKind
  message : Json
  details : Json := .null
  httpStatus : Json
  status : Option Json := none
  body : Option Json := none
  node : Option Json := none

namespace GivenFailure

/-- The fields that a kind needs, and those that it may have. -/
def fieldNames : FailureKind → List String × List String
  | .general | .credential => (["message"], ["details"])
  | .noNodes => ([], ["message"])
  | .refused | .authentication => (["status"], ["body", "node"])
  | .transport => (["node"], ["cause"])
  | .discovery => (["message"], ["status", "body"])
  | .invalidRegion => (["region"], [])

/-- The fields are those of the kind. -/
def fits (kind : FailureKind) (fields : Members) : Bool :=
  let (needed, allowed) := fieldNames kind
  fields.hasNames needed allowed

/-- A body as reported. A text that is too long is cut; what has no length is no body, and what is
too long and no text cannot be cut. -/
def bodyOf (given : Json) : Result Json :=
  if !given.given then .ok (.str "")
  else match given with
    | .str s => .ok (.str (Failure.cut s))
    | .arr vs => if vs.length ≤ Failure.bodyLimit then .ok given else .error .wrongKind
    | .obj ms => if ms.length ≤ Failure.bodyLimit then .ok given else .error .wrongKind
    | _ => .error .wrongKind

/-- The failure that fields make. `cause` is what stands behind a node's silence. -/
def ofFields (kind : FailureKind) (fields : Members) (cause : Option SendFault) :
    Result GivenFailure := do
  if !fits kind fields then throw .wrongKind
  let field := Members.getOrNull fields
  match kind with
  | .general => return ⟨kind, field "message", field "details", .int 500, none, none, none⟩
  | .credential => return ⟨kind, field "message", field "details", .int 401, none, none, none⟩
  | .noNodes =>
    let message := (fields.get? "message").getD (.str Failure.noNodesMessage)
    return ⟨kind, message, .null, .int 400, none, none, none⟩
  | .refused =>
    let body ← bodyOf (field "body")
    let message := Failure.refusedMessage (field "status").shown body.shown
    return ⟨kind, .str message, body, field "status", some (field "status"), some body,
      some (field "node")⟩
  | .authentication =>
    let body ← bodyOf (field "body")
    let message := Failure.authenticationMessage (field "status").shown body.shown
    return ⟨kind, .str message, body, field "status", some (field "status"), some body,
      some (field "node")⟩
  | .transport =>
    let message := Failure.transportMessage (field "node").shown cause
    return ⟨kind, .str message, .null, .int 502, none, none, some (field "node")⟩
  | .discovery =>
    let body ← bodyOf (field "body")
    let status := field "status"
    let httpStatus := match status with
      | .null => .int 502
      | s => s
    return ⟨kind, field "message", body, httpStatus, some status, some body, none⟩
  | .invalidRegion =>
    let message := Failure.regionMessage (field "region")
    return ⟨kind, .str message, .null, .int 400, some .null, some (.str ""), none⟩

/-- The record that reports the failure. -/
def report (f : GivenFailure) : Json :=
  .obj ([("error", .str f.kind.name), ("message", f.message)] ++
    if f.details.given then [("details", f.details)] else [])

theorem ofFields_eq_ok_fits {kind : FailureKind} {fields : Members} {cause : Option SendFault}
    {f : GivenFailure} (h : ofFields kind fields cause = .ok f) : fits kind fields = true := by
  cases e : fits kind fields with
  | true => rfl
  | false => simp [ofFields, e, bind, Except.bind, throw, throwThe, MonadExceptOf.throw] at h

end GivenFailure

end IndexExplorer
