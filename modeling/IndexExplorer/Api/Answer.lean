import IndexExplorer.Json.Finite
import IndexExplorer.Json.Part
import IndexExplorer.Problem

/-!
The answers of the HTTP interface, and which answer each problem gets.

A typed failure is reported with its own status. A bad value is the caller's fault and gets 400.
What is left is nobody's to repair and gets 500 without a word of why.
-/
namespace IndexExplorer.Api

/-- What an answer carries. -/
inductive Payload where
  | json (v : Json)
  | text (s : String)

/-- An answer. -/
structure Answer where
  status : Int
  payload : Payload

namespace Answer

/-- A document, answered with a status. -/
def document (status : Int) (v : Json) : Answer := ⟨status, .json v⟩

/-- A refusal that tells only one thing. -/
def detail (status : Int) (v : Json) : Answer := document status (.obj [("detail", v)])

/-- The answer to a value that cannot be used. -/
def badRequest (message : String) : Answer :=
  document 400 (.obj [("error", .str "BadRequest"), ("message", .str message)])

/-- The answer in place of a document that could not be written. -/
def notWritable : Answer := badRequest "Out of range float values are not JSON compliant"

/-- The answer in place of a record that holds values nested too deep. -/
def nestedTooDeep : Answer := badRequest
  "Error serializing to JSON: ValueError: Maximum serialization depth exceeded"

/-- The answer that leads to a path without slashes at its end. -/
def elsewhere : Answer := ⟨307, .text ""⟩

/-- What is said of a record that came out malformed; which of its fields did is not told. -/
def malformedRecord : String := "<validation error>"

/-- The answer to trouble that has no answer of its own. -/
def internal : Answer := ⟨500, .text "Internal Server Error"⟩

/-- The answer to a problem. -/
def ofProblem : Problem → Answer
  | .failure f => document f.httpStatus f.report
  | .badValue b => badRequest b.message
  | .invalid _ => badRequest malformedRecord
  | .notAscii run => badRequest run.message
  | .undecodable .notText | .undecodable .notBytes => internal
  | .undecodable f => badRequest f.message
  | _ => internal

/-- A result as a record, whose doubles are all finite once written. -/
def record (v : Json) : Answer := document 200 v.finite

/-- How deep the values of any shape inside a record may be nested. -/
def depthLimit : Nat := 255

/-- A record with members of any shape, which may not be nested too deep. -/
def recordWith (free : Members) (v : Json) : Answer :=
  if free.any fun m => depthLimit < m.2.depth then nestedTooDeep else record v

/-- A result of any shape, which is written without its internal members or not at all. -/
def verbatim (v : Json) : Answer :=
  let shown := v.withoutInternal
  if shown.isFinite then document 200 shown else notWritable

/-- The answer to a result or a problem. -/
def ofResult (write : α → Answer) : Result α → Answer
  | .ok a => write a
  | .error p => ofProblem p

end Answer

end IndexExplorer.Api
