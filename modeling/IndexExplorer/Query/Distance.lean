import IndexExplorer.Amount
import IndexExplorer.Json.Display

/-!
Distances as the engine reads them: a number and its unit, without a fraction of zero.
-/
namespace IndexExplorer.Distance

/-- The text of a distance. -/
def text (radius : Amount) (unit : String) : String :=
  match radius with
  | .whole n => toString n ++ unit
  | .real x =>
    match Number.isWhole x, Number.truncate? x with
    | true, some n => toString n ++ unit
    | _, _ => Number.floatText x ++ unit

/-- The text of a distance whose parts are values of any kind: a whole number is written as an
integer, any other value as it is shown. -/
def textOf (radius unit : Json) : Result String := do
  let x ← radius.toFloat
  if Number.isWhole x then
    let n ← radius.toInteger
    return toString n ++ unit.shown
  else return radius.shown ++ unit.shown

end IndexExplorer.Distance
