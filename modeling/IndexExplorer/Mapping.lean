import IndexExplorer.Json.Display
import IndexExplorer.Problem

/-!
Index mappings: picking the properties out of the engine's answer, and flattening their tree into
leaf fields.
-/
namespace IndexExplorer

/-- A leaf field of an index, by its dotted path. -/
structure FieldDefinition where
  path : String
  type : Option String := none
deriving DecidableEq, Repr

namespace FieldDefinition

/-- A field as it is given. -/
def rule : Rule FieldDefinition := Rule.record fun ms =>
  FieldDefinition.mk <$> ms.required "path" Rule.text
    <*> ms.field "type" (Rule.optional Rule.text) none

/-- All fields of a field. -/
def toJson (f : FieldDefinition) : Json := .obj [
  ("path", .str f.path), ("type", .ofOption .str f.type)]

end FieldDefinition

namespace Mapping

/-- The path of a name under a dotted path. -/
def join (path name : String) : String := if path.isEmpty then name else path ++ "." ++ name

/-- A leaf of the declared type, which has to be a text. -/
def leaf (path : String) (type : Option Json) : Result FieldDefinition :=
  match type with
  | none | some .null => .ok ⟨path, none⟩
  | some (.str t) => .ok ⟨path, some t⟩
  | some v => .error (.invalid [⟨.stringType, [.member "type"], v⟩])

/-- `part` occurs in `cs`. -/
def occursIn (part : List Char) : List Char → Bool
  | [] => part.isEmpty
  | c :: cs => part.isPrefixOf (c :: cs) || occursIn part cs

/-- How a field that is no object answers whether it has the part `properties`: only texts and
lists can, and neither can be gone into further. -/
def notAnObject (field : Json) : Problem :=
  match field with
  | .str s => if occursIn "properties".toList s.toList then .wrongKind else .noSuchPart
  | .arr items =>
    if items.any (fun | .str s => s = "properties" | _ => false) then .wrongKind else .noSuchPart
  | _ => .wrongKind

mutual

/-- The leaves below a list of named fields, in order. -/
def flattenFields (path : String) : Members → Result (List FieldDefinition)
  | [] => .ok []
  | (name, field) :: rest => do
    let first ← flattenField (join path name) field
    let others ← flattenFields path rest
    return first ++ others

/-- The leaves of one field: itself, unless it has properties of its own. -/
def flattenField (path : String) : Json → Result (List FieldDefinition)
  | .obj ms =>
    if Named.has ms "properties" then flattenProperties path ms
    else return [← leaf path (Named.get? ms "type")]
  | v => if v.given then .error (notAnObject v) else return [⟨path, none⟩]

/-- The leaves of the member `properties` among the members of a field. -/
def flattenProperties (path : String) : Members → Result (List FieldDefinition)
  | [] => .ok []
  | (name, v) :: rest =>
    if name = "properties" then
      match v with
      | .obj ms => flattenFields path ms
      | v => if v.given then .error .noSuchPart else .ok []
    else flattenProperties path rest

end

/-- The leaf fields of a properties block, under a dotted path. -/
def flatten (properties : Json) (path : String) : Result (List FieldDefinition) :=
  match properties with
  | .obj ms => flattenFields path ms
  | _ => .error .noSuchPart

/-- The path of a root given as any value. -/
def rootPath (v : Json) : String := if v.given then v.shown else ""

/-- The number of parts of a value; only texts, lists and objects have one. -/
def hasLength : Json → Bool
  | .str _ | .arr _ | .obj _ => true
  | _ => false

/-- A member of an object, or the default when it is missing; other values have no members. -/
def memberOr (v : Json) (name : String) (default : Json) : Result Json :=
  match v with
  | .obj ms => .ok ((Named.get? ms name).getD default)
  | _ => .error .noSuchPart

/-- The entry of an answer for the index asked for, else its first entry, since aliases and
patterns are answered under other names. -/
def entryFor (ms : Members) (index : Json) : Result Json :=
  let first := ((ms.head?).map (·.2)).getD .null
  if !index.given then .ok first
  else match index with
    | .str name => .ok ((Named.get? ms name).getD first)
    | .arr _ | .obj _ => .error .wrongKind
    | _ => .ok first

/-- The properties block of an index in the engine's answer; empty when there is none. -/
def properties (answer index : Json) : Result Json :=
  match answer with
  | .obj [] => .ok (.obj [])
  | .obj ms => do
    match ← entryFor ms index with
    | .obj entry =>
      let mappings ← memberOr (.obj entry) "mappings" (.obj [])
      let block ← memberOr mappings "properties" (.obj [])
      if hasLength block then return block else .error .wrongKind
    | _ => return .obj []
  | _ => .ok (.obj [])

end Mapping

end IndexExplorer
