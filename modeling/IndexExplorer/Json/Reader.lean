import IndexExplorer.Json.Basic
import IndexExplorer.Number.Read

/-!
Reading a JSON value from text.

Beyond the standard's grammar `NaN`, `Infinity` and `-Infinity` are numbers. A numeral with a
fraction or an exponent is a double, any other an integer of up to 4300 digits. When an object
repeats a name its last value counts, in the place of the first. Lists and objects may be nested to
a limit.
-/
namespace IndexExplorer.Json

open IndexExplorer.Number

/-- Why a text is no JSON value. -/
inductive ReadFault where
  | malformed
  | tooLong (digits : Nat)
  | tooDeep
deriving DecidableEq, Repr

/-- A result together with the text after it. -/
abbrev Read (α : Type) := Except ReadFault (α × List Char)

/-- Blanks between tokens. -/
def isGap (c : Char) : Bool := c = ' ' || c = '\t' || c = '\n' || c = '\r'

/-- The text after its leading blanks. -/
def skipGap (cs : List Char) : List Char := cs.dropWhile isGap

/-- The value of a hexadecimal digit. -/
def hexValue? (c : Char) : Option Nat :=
  if c.isDigit then some (c.toNat - 48)
  else if 'a' ≤ c ∧ c ≤ 'f' then some (c.toNat - 97 + 10)
  else if 'A' ≤ c ∧ c ≤ 'F' then some (c.toNat - 65 + 10)
  else none

/-- Four hexadecimal digits. -/
def takeUnit : List Char → Option (Nat × List Char)
  | a :: b :: c :: d :: rest =>
    match hexValue? a, hexValue? b, hexValue? c, hexValue? d with
    | some a, some b, some c, some d => some (a * 4096 + b * 256 + c * 16 + d, rest)
    | _, _, _, _ => none
  | _ => none

/-- The character that a UTF-16 unit, or a pair of them written as two escapes, stands for; an
unpaired surrogate becomes the replacement character. -/
def takeEscapedUnits (cs : List Char) : Option (Char × List Char) :=
  match takeUnit cs with
  | none => none
  | some (high, rest) =>
    if 0xd800 ≤ high ∧ high < 0xdc00 then
      match rest with
      | '\\' :: 'u' :: more =>
        match takeUnit more with
        | some (low, after) =>
          if 0xdc00 ≤ low ∧ low < 0xe000 then
            some (Char.ofNat (0x10000 + (high - 0xd800) * 0x400 + (low - 0xdc00)), after)
          else some ('\ufffd', rest)
        | none => some ('\ufffd', rest)
      | _ => some ('\ufffd', rest)
    else if 0xdc00 ≤ high ∧ high < 0xe000 then some ('\ufffd', rest)
    else some (Char.ofNat high, rest)

/-- The character that a one-letter escape stands for. -/
def shortEscape? (c : Char) : Option Char :=
  if c = '"' then some '"'
  else if c = '\\' then some '\\'
  else if c = '/' then some '/'
  else if c = 'b' then some '\x08'
  else if c = 'f' then some '\x0c'
  else if c = 'n' then some '\n'
  else if c = 'r' then some '\r'
  else if c = 't' then some '\t'
  else none

/-- The rest of a string after its opening quote; `done` holds the characters read, the last one
first. -/
def stringRest : Nat → List Char → List Char → Read String
  | 0, _, _ => .error .malformed
  | fuel + 1, done, cs =>
    match cs with
    | [] => .error .malformed
    | c :: rest =>
      if c = '"' then .ok (String.ofList done.reverse, rest)
      else if c.toNat < 0x20 then .error .malformed
      else if c = '\\' then
        match rest with
        | [] => .error .malformed
        | e :: more =>
          if e = 'u' then
            match takeEscapedUnits more with
            | some (x, after) => stringRest fuel (x :: done) after
            | none => .error .malformed
          else
            match shortEscape? e with
            | some x => stringRest fuel (x :: done) more
            | none => .error .malformed
      else stringRest fuel (c :: done) rest

/-- The digits of a whole part: a single zero, or digits that do not begin with one. -/
def takeWhole : List Char → Option (List Char × List Char)
  | '0' :: rest => some (['0'], rest)
  | cs =>
    let ds := cs.takeWhile Char.isDigit
    if ds.isEmpty then none else some (ds, cs.dropWhile Char.isDigit)

/-- A fraction, when the point has a digit behind it. -/
def takeFraction : List Char → List Char × List Char
  | '.' :: rest =>
    let ds := rest.takeWhile Char.isDigit
    if ds.isEmpty then ([], '.' :: rest) else (ds, rest.dropWhile Char.isDigit)
  | cs => ([], cs)

/-- An exponent, when its mark and sign have a digit behind them. -/
def takeExponent : List Char → Option Int × List Char
  | e :: rest =>
    if e = 'e' || e = 'E' then
      let (negative, after) := splitSign rest
      let ds := after.takeWhile Char.isDigit
      if ds.isEmpty then (none, e :: rest)
      else
        let n : Int := ofDigits ds
        (some (if negative then -n else n), after.dropWhile Char.isDigit)
    else (none, e :: rest)
  | [] => (none, [])

/-- A numeral after its sign. -/
def numberRest (negative : Bool) (cs : List Char) : Read Json :=
  match takeWhole cs with
  | none => .error .malformed
  | some (whole, rest) =>
    let (fraction, rest) := takeFraction rest
    let (exponent, rest) := takeExponent rest
    if fraction.isEmpty && exponent.isNone then
      if digitLimit < whole.length then .error (.tooLong whole.length)
      else
        let n : Int := ofDigits whole
        .ok (.int (if negative then -n else n), rest)
    else .ok (.float ((Numeral.mk whole fraction (exponent.getD 0)).toFloat negative), rest)

/-- The text after `word`. -/
def afterWord : List Char → List Char → Option (List Char)
  | [], cs => some cs
  | w :: ws, c :: cs => if w = c then afterWord ws cs else none
  | _ :: _, [] => none

/-- A word that stands for a value. -/
def wordValue (word : String) (v : Json) (cs : List Char) : Read Json :=
  match afterWord word.toList cs with
  | some rest => .ok (v, rest)
  | none => .error .malformed

mutual

/-- A value at the beginning of the text. `room` is how many lists and objects may be open in
it. -/
def value : Nat → (room : Nat) → List Char → Read Json
  | 0, _, _ => .error .malformed
  | fuel + 1, room, cs =>
    match cs with
    | [] => .error .malformed
    | c :: rest =>
      if c = '"' then
        match stringRest (rest.length + 1) [] rest with
        | .ok (s, rest) => .ok (.str s, rest)
        | .error e => .error e
      else if c = '\x7b' then
        if room = 0 then .error .tooDeep
        else match skipGap rest with
        | '\x7d' :: rest => .ok (.obj [], rest)
        | rest =>
          match members fuel (room - 1) [] rest with
          | .ok (ms, rest) => .ok (.obj (Named.ofList ms.reverse), rest)
          | .error e => .error e
      else if c = '[' then
        if room = 0 then .error .tooDeep
        else match skipGap rest with
        | ']' :: rest => .ok (.arr [], rest)
        | rest =>
          match items fuel (room - 1) [] rest with
          | .ok (vs, rest) => .ok (.arr vs.reverse, rest)
          | .error e => .error e
      else if c = 'n' then wordValue "null" .null cs
      else if c = 't' then wordValue "true" (.bool true) cs
      else if c = 'f' then wordValue "false" (.bool false) cs
      else if c = 'N' then wordValue "NaN" (.float nan) cs
      else if c = 'I' then wordValue "Infinity" (.float (infinity false)) cs
      else if c = '-' then
        match rest with
        | 'I' :: _ => wordValue "-Infinity" (.float (infinity true)) cs
        | _ => numberRest true rest
      else numberRest false cs

/-- The items of an array up to its closing bracket; `done` holds those read, the last first. -/
def items : Nat → (room : Nat) → List Json → List Char → Read (List Json)
  | 0, _, _, _ => .error .malformed
  | fuel + 1, room, done, cs =>
    match value fuel room cs with
    | .error e => .error e
    | .ok (v, rest) =>
      match skipGap rest with
      | ',' :: rest => items fuel room (v :: done) (skipGap rest)
      | ']' :: rest => .ok (v :: done, rest)
      | _ => .error .malformed

/-- The members of an object up to its closing brace; `done` holds those read, the last first. -/
def members : Nat → (room : Nat) → List (String × Json) → List Char →
    Read (List (String × Json))
  | 0, _, _, _ => .error .malformed
  | fuel + 1, room, done, cs =>
    match cs with
    | '"' :: rest =>
      match stringRest (rest.length + 1) [] rest with
      | .error e => .error e
      | .ok (k, rest) =>
        match skipGap rest with
        | ':' :: rest =>
          match value fuel room (skipGap rest) with
          | .error e => .error e
          | .ok (v, rest) =>
            match skipGap rest with
            | ',' :: rest => members fuel room ((k, v) :: done) (skipGap rest)
            | '\x7d' :: rest => .ok ((k, v) :: done, rest)
            | _ => .error .malformed
        | _ => .error .malformed
    | _ => .error .malformed

end

/-- The value that the whole text spells, blanks around it aside. -/
def parseChars (cs : List Char) : Except ReadFault Json :=
  match value (2 * cs.length + 2) nestingLimit (skipGap cs) with
  | .error e => .error e
  | .ok (v, rest) => if (skipGap rest).isEmpty then .ok v else .error .malformed

/-- The value that a text spells. -/
def parse (s : String) : Except ReadFault Json := parseChars s.toList

end IndexExplorer.Json
