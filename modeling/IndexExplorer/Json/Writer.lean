import IndexExplorer.Json.Basic
import IndexExplorer.Number.Shortest
import IndexExplorer.Text.Quoted

/-!
The text of a JSON value: ASCII only, `", "` between items and `": "` after names, members in
order.
-/
namespace IndexExplorer.Json

open IndexExplorer.Text IndexExplorer.Number

/-- A UTF-16 unit as an escape. -/
def unitEscape (n : Nat) : List Char := '\\' :: 'u' :: hex 4 n

/-- A character between the quotes of a string. -/
def escapeChar (c : Char) : List Char :=
  let n := c.toNat
  if c = '"' then ['\\', '"']
  else if c = '\\' then ['\\', '\\']
  else if c = '\n' then ['\\', 'n']
  else if c = '\r' then ['\\', 'r']
  else if c = '\t' then ['\\', 't']
  else if n = 0x08 then ['\\', 'b']
  else if n = 0x0c then ['\\', 'f']
  else if 0x20 ≤ n ∧ n < 0x7f then [c]
  else if n < 0x10000 then unitEscape n
  else unitEscape (0xd800 + (n - 0x10000) / 0x400) ++ unitEscape (0xdc00 + (n - 0x10000) % 0x400)

/-- A string with its quotes. -/
def stringChars (s : String) : List Char := '"' :: s.toList.flatMap escapeChar ++ ['"']

/-- An integer in decimal. -/
def intChars (n : Int) : List Char :=
  (if n < 0 then ['-'] else []) ++ Nat.toDigits 10 n.natAbs

mutual

/-- The characters of a value. -/
def chars : Json → List Char
  | .null => "null".toList
  | .bool true => "true".toList
  | .bool false => "false".toList
  | .int n => intChars n
  | .float x => (documentStyle.write x).toList
  | .str s => stringChars s
  | .arr [] => ['[', ']']
  | .arr (v :: rest) => '[' :: chars v ++ restChars rest ++ [']']
  | .obj [] => ['\x7b', '\x7d']
  | .obj ((k, v) :: rest) =>
    '\x7b' :: stringChars k ++ ':' :: ' ' :: chars v ++ restMembers rest ++ ['\x7d']

/-- The items after the first, each behind its comma. -/
def restChars : List Json → List Char
  | [] => []
  | v :: rest => ',' :: ' ' :: chars v ++ restChars rest

/-- The members after the first, each behind its comma. -/
def restMembers : List (String × Json) → List Char
  | [] => []
  | (k, v) :: rest =>
    ',' :: ' ' :: stringChars k ++ ':' :: ' ' :: chars v ++ restMembers rest

end

/-- The text of a value. -/
def text (v : Json) : String := String.ofList (chars v)

/-- The text of a value as bytes. -/
def bytes (v : Json) : ByteArray := v.text.toUTF8

end IndexExplorer.Json
