import IndexExplorer.Json.Basic
import IndexExplorer.Number.Shortest
import IndexExplorer.Text.Quoted

/-!
A value as it is shown inside other text: names and messages built from values of any kind. A
text stands there bare; inside a list or an object it is quoted.
-/
namespace IndexExplorer.Json

open IndexExplorer.Text IndexExplorer.Number

mutual

/-- A value with its texts in quotes. -/
def shownQuoted : Json → String
  | .null => "None"
  | .bool true => "True"
  | .bool false => "False"
  | .int n => toString n
  | .float x => floatText x
  | .str s => quoted s
  | .arr [] => "[]"
  | .arr (v :: rest) => "[" ++ shownQuoted v ++ shownRest rest ++ "]"
  | .obj [] => "\x7b\x7d"
  | .obj ((k, v) :: rest) =>
    "\x7b" ++ quoted k ++ ": " ++ shownQuoted v ++ shownMembers rest ++ "\x7d"

/-- The items after the first. -/
def shownRest : List Json → String
  | [] => ""
  | v :: rest => ", " ++ shownQuoted v ++ shownRest rest

/-- The members after the first. -/
def shownMembers : List (String × Json) → String
  | [] => ""
  | (k, v) :: rest => ", " ++ quoted k ++ ": " ++ shownQuoted v ++ shownMembers rest

end

/-- A value inside other text. -/
def shown : Json → String
  | .str s => s
  | v => shownQuoted v

end IndexExplorer.Json
