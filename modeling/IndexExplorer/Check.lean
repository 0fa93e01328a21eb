import IndexExplorer.Json.Basic
import IndexExplorer.Number.Lenient

/-!
Checking a JSON value against the fields of a record. Every field is checked, so that one answer
lists all faults, in the order in which the fields are declared.
-/
namespace IndexExplorer

/-- What a value fails to be. -/
inductive FaultKind where
  | missing | stringType | intType | intParsing | intParsingSize | intFromFloat | finiteNumber
  | floatType | floatParsing | boolType | boolParsing | enumValue | listType | dictType | modelType
deriving DecidableEq, Repr

/-- The name of a kind of fault in reports. -/
def FaultKind.name : FaultKind → String
  | .missing => "missing"
  | .stringType => "string_type"
  | .intType => "int_type"
  | .intParsing => "int_parsing"
  | .intParsingSize => "int_parsing_size"
  | .intFromFloat => "int_from_float"
  | .finiteNumber => "finite_number"
  | .floatType => "float_type"
  | .floatParsing => "float_parsing"
  | .boolType => "bool_type"
  | .boolParsing => "bool_parsing"
  | .enumValue => "enum"
  | .listType => "list_type"
  | .dictType => "dict_type"
  | .modelType => "model_type"

/-- A step from a value to a part of it. -/
inductive PathStep where
  | member (name : String)
  | item (index : Nat)
deriving DecidableEq, Repr

/-- A fault at a place in a value. `found` is the value there, or the object that lacks it. -/
structure Fault where
  kind : FaultKind
  path : List PathStep
  found : Json

/-- A checked value, or the faults found instead. -/
inductive Checked (α : Type) where
  | passed (a : α)
  | failed (faults : List Fault)

namespace Checked

/-- The value with a function applied. -/
def map (f : α → β) : Checked α → Checked β
  | .passed a => .passed (f a)
  | .failed fs => .failed fs

/-- Both values; the faults of both, the left one's first. -/
def both (f : Checked (α → β)) (x : Checked α) : Checked β :=
  match f, x with
  | .passed f, .passed a => .passed (f a)
  | .passed _, .failed gs => .failed gs
  | .failed fs, .passed _ => .failed fs
  | .failed fs, .failed gs => .failed (fs ++ gs)

instance : Functor Checked where
  map := map

instance : Applicative Checked where
  pure := .passed
  seq f x := both f (x ())

/-- The faults of a part, seen from the whole. -/
def under (step : PathStep) : Checked α → Checked α
  | .passed a => .passed a
  | .failed fs => .failed (fs.map fun f => { f with path := step :: f.path })

theorem both_eq_passed_iff {f : Checked (α → β)} {x : Checked α} {b : β} :
    both f x = .passed b ↔ ∃ g a, f = .passed g ∧ x = .passed a ∧ g a = b := by
  cases f <;> cases x <;> simp [both]

end Checked

/-- What a value is accepted as. -/
abbrev Rule (α : Type) := Json → Checked α

namespace Rule

open IndexExplorer.Number

/-- A single fault at the value itself. -/
def refuse (kind : FaultKind) (v : Json) : Checked α := .failed [⟨kind, [], v⟩]

/-- A text. -/
def text : Rule String
  | .str s => .passed s
  | v => refuse .stringType v

/-- Where the integers of 64 bits end, `2 ^ 63`; its negative is the least one. -/
def wordEnd : Int := 0x8000000000000000

/-- The integers that a double may stand for: those of 64 bits, the least one aside. -/
def inRange (n : Int) : Bool := -wordEnd < n && n < wordEnd

/-- An integer; a truth value counts as one or zero, and a double without a fraction and a
numeral in a text count as what they spell. -/
def integer : Rule Int
  | .int n => .passed n
  | .bool b => .passed (if b then 1 else 0)
  | .float x =>
    match truncate? x with
    | none => refuse .finiteNumber (.float x)
    | some n =>
      if !isWhole x then refuse .intFromFloat (.float x)
      else if inRange n then .passed n
      else refuse .intParsingSize (.float x)
  | .str s =>
    match Lenient.readInt s with
    | .ok n => .passed n
    | .error .malformed => refuse .intParsing (.str s)
    | .error (.tooLong _) => refuse .intParsingSize (.str s)
  | v => refuse .intType v

/-- A double; integers, truth values and numerals in texts count as what they spell. -/
def float : Rule Float
  | .float x => .passed x
  | .int n => if isFinite (ofInt n) then .passed (ofInt n) else refuse .floatType (.int n)
  | .bool b => .passed (if b then 1 else 0)
  | .str s =>
    match parseFloat? (Lenient.trimmed s) <|> (Lenient.withoutMarks? s.toList).bind parseFloat? with
    | some x => .passed x
    | none => refuse .floatParsing (.str s)
  | v => refuse .floatType v

/-- A truth value; zero, one and a few words in any letter case count as one. What is refused is
told apart by whether it is an integer of 64 bits or a text, or anything else. -/
def flag : Rule Bool
  | .bool b => .passed b
  | .int 0 => .passed false
  | .int 1 => .passed true
  | .int n => refuse (if -wordEnd ≤ n ∧ n < wordEnd then .boolParsing else .boolType) (.int n)
  | .float x =>
    if x == 0 then .passed false
    else if x == 1 then .passed true
    else if isWhole x && ((truncate? x).map inRange).getD false then
      refuse .boolParsing (.float x)
    else refuse .boolType (.float x)
  | .str s =>
    let word := String.ofList (s.toList.map Char.toLower)
    if ["0", "off", "f", "false", "n", "no"].contains word then .passed false
    else if ["1", "on", "t", "true", "y", "yes"].contains word then .passed true
    else refuse .boolParsing (.str s)
  | v => refuse .boolType v

/-- One of a closed set of names. -/
def oneOf (ofName? : String → Option α) : Rule α
  | .str s =>
    match ofName? s with
    | some a => .passed a
    | none => refuse .enumValue (.str s)
  | v => refuse .enumValue v

/-- Anything. -/
def anything : Rule Json := .passed

/-- Null, or what the rule accepts. -/
def optional (r : Rule α) : Rule (Option α)
  | .null => .passed none
  | v => (r v).map some

/-- The items one by one. -/
def itemsFrom (r : Rule α) : Nat → List Json → Checked (List α)
  | _, [] => .passed []
  | i, v :: vs => (((r v).under (.item i)).map List.cons).both (itemsFrom r (i + 1) vs)

/-- A list. -/
def listOf (r : Rule α) : Rule (List α)
  | .arr vs => itemsFrom r 0 vs
  | v => refuse .listType v

/-- An object with any members. -/
def members : Rule Members
  | .obj ms => .passed ms
  | v => refuse .dictType v

/-- A record, whose fields are read from an object. -/
def record (read : Members → Checked α) : Rule α
  | .obj ms => read ms
  | v => refuse .modelType v

end Rule

namespace Members

/-- A field that has to be there. -/
def required (ms : Members) (name : String) (r : Rule α) : Checked α :=
  match ms.get? name with
  | some v => (r v).under (.member name)
  | none => .failed [⟨.missing, [.member name], .obj ms⟩]

/-- A field with a default, which is taken as it is. -/
def field (ms : Members) (name : String) (r : Rule α) (default : α) : Checked α :=
  match ms.get? name with
  | some v => (r v).under (.member name)
  | none => .passed default

/-- A field with a second name, which counts when the first is not there. Faults name the one
that counts. -/
def aliased (ms : Members) (name other : String) (r : Rule α) (default : α) : Checked α :=
  if (ms.get? name).isSome then ms.field name r default else ms.field other r default

end Members

end IndexExplorer
