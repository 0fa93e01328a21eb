import IndexExplorer.Check
import IndexExplorer.Failure
import IndexExplorer.Text.Ascii
import IndexExplorer.Text.Charset

/-!
All the ways in which an operation can end without its result.
-/
namespace IndexExplorer

/-- A value of the right kind that cannot be used. -/
inductive BadValue where
  | notFloat (s : String)
  | notInt (s : String)
  | nanToInt
  | tooManyDigits (n : Nat)
  | address (reason : String)
  | authMode (shown : String)
  | relativeUrl (shown : String)
  | logLevel (shown : String)
  | embeddedNul
  | nulInPath
  | openQuote
  | openEscape
  | pairLength (index length : Nat)
  | notMoment (text : String)
  | noSuchDay
deriving DecidableEq, Repr

/-- How much of a numeral that is none is shown, with the quotes around it. -/
def shownNumeralLimit : Nat := 200

/-- What is said about a bad value. -/
def BadValue.message : BadValue → String
  | .notFloat s => "could not convert string to float: " ++ Text.quoted s
  | .notInt s =>
    "invalid literal for int() with base 10: " ++
      String.ofList ((Text.quoted s).toList.take shownNumeralLimit)
  | .nanToInt => "cannot convert float NaN to integer"
  | .tooManyDigits n =>
    "Exceeds the limit (4300 digits) for integer string conversion: value has " ++ toString n ++
      " digits; use sys.set_int_max_str_digits() to increase the limit"
  | .address reason => reason
  | .authMode shown => shown ++ " is not a valid AuthMode"
  | .relativeUrl shown => "Proxy URL must be absolute: " ++ shown
  | .logLevel shown => "Unknown level: " ++ shown
  | .embeddedNul => "embedded null character"
  | .nulInPath => "embedded null byte"
  | .openQuote => "No closing quotation"
  | .openEscape => "No escaped character"
  | .pairLength index length =>
    "dictionary update sequence element #" ++ toString index ++ " has length " ++
      toString length ++ "; 2 is required"
  | .notMoment text =>
    "time data " ++ Text.quoted text ++ " does not match format '%Y%m%dT%H%M%SZ'"
  | .noSuchDay => "day is out of range for month"

/-- Why a file of the host cannot be used. -/
inductive FileFault where
  | missing
  | directory
  | longName
  | notProgram
deriving DecidableEq, Repr

/-- How an operation ends when it does not end well. -/
inductive Problem where
  /-- a failure that callers are told about by kind -/
  | failure (f : Failure)
  /-- input that is not the record it should be -/
  | invalid (faults : List Fault)
  | badValue (b : BadValue)
  /-- a value of a kind that has no such part -/
  | noSuchPart
  /-- a value of a kind that the operation cannot use -/
  | wrongKind
  /-- an infinite or too large number where a finite one is needed -/
  | outOfRange
  /-- a text that is no URL -/
  | badUrl
  /-- a text that has to be ASCII and is not -/
  | notAscii (run : Text.NonAscii)
  /-- bytes in a coding that gives no text -/
  | undecodable (f : Text.DecodeFault)
  /-- a value nested so deep that it cannot be read or written -/
  | tooDeep
  /-- a file of the host that cannot be used -/
  | file (f : FileFault)
  /-- a command without words -/
  | noCommand
  /-- trouble while sending that is not the peer's silence -/
  | sending (fault : SendFault)

/-- A result or a problem. -/
abbrev Result (α : Type) := Except Problem α

/-- The checked value, or all its faults as one problem. -/
def Checked.result : Checked α → Result α
  | .passed a => .ok a
  | .failed fs => .error (.invalid fs)

/-- The integer that a text spells. -/
def readInteger (s : String) : Result Int :=
  match Number.readInt s with
  | .ok n => .ok n
  | .error .malformed => .error (.badValue (.notInt s))
  | .error (.tooLong n) => .error (.badValue (.tooManyDigits n))

namespace Json

/-- The integer that a value stands for: doubles lose their fraction, texts are read. -/
def toInteger : Json → Result Int
  | .int n => .ok n
  | .bool b => .ok (if b then 1 else 0)
  | .float x =>
    match Number.truncate? x with
    | some n => .ok n
    | none => if x.isNaN then .error (.badValue .nanToInt) else .error .outOfRange
  | .str s => readInteger s
  | _ => .error .wrongKind

/-- The double that a value stands for. -/
def toFloat : Json → Result Float
  | .float x => .ok x
  | .bool b => .ok (if b then 1 else 0)
  | .int n =>
    let x := Number.ofInt n
    if Number.isFinite x then .ok x else .error .outOfRange
  | .str s =>
    match Number.readFloat? s with
    | some x => .ok x
    | none => .error (.badValue (.notFloat s))
  | _ => .error .wrongKind

end Json

end IndexExplorer
