import IndexExplorer.Text.Chart.JisX0208
import IndexExplorer.Text.Chart.JisX0212
import IndexExplorer.Text.Chart.JisX0213
import IndexExplorer.Text.Reading

/-!
Character sets of Japan, by places on the charts of JIS and by bytes.

* `shifted_lt`: the bytes of Shift JIS tell a place in one of the two planes.
-/
namespace IndexExplorer.Text.Japanese

/-- The edition of the extended set. -/
inductive Edition where
  | first
  | second
deriving DecidableEq, Repr

/-- The letter of the narrow syllabary of a byte. -/
def katakana? (b : Nat) : Option Char :=
  if 0xa1 ≤ b ∧ b ≤ 0xdf then some (Char.ofNat (0xfec0 + b)) else none

/-- The letter of the national form of ASCII, which has a currency sign and a line above in the
place of two signs. -/
def roman (b : Nat) : Char :=
  if b = 0x5c then '¥' else if b = 0x7e then '‾' else Char.ofNat b

/-- The places on the first plane that came with the second edition. -/
def laterPlaces : List (Nat × Nat) := [
  (0x2e, 0x21), (0x2f, 0x7e), (0x4f, 0x54), (0x4f, 0x7e), (0x74, 0x27), (0x7e, 0x7a),
  (0x7e, 0x7b), (0x7e, 0x7c), (0x7e, 0x7d), (0x7e, 0x7e)]

/-- A place on the first plane that an edition does not have yet. -/
def isLater (edition : Edition) (row column : Nat) : Bool :=
  edition = .first && laterPlaces.contains (row, column)

/-- The characters of a place on the first plane of the extended set: one or two. -/
def firstPlane? (edition : Edition) (row column : Nat) : Option (List Char) :=
  if isLater edition row column then none
  else
    match Chart.jisX0213Pairs.find? fun (r, c, _) => r = row && c = column with
    | some (_, _, pair) => some pair.toList
    | none =>
      ((Chart.jisX0208.char? row column).or (Chart.jisX0213First.char? row column)).map ([·])

/-- Reads a place on the first plane that is written with two bytes. Both are malformed where a
later edition has a character. -/
def firstPlane (edition : Edition) (row column : Nat) : Reading :=
  if isLater edition row column then .malformed 2
  else Reading.ofChars? 2 (firstPlane? edition row column)

/-- The character of a place on the second plane of the extended set. -/
def secondPlane? (edition : Edition) (row column : Nat) : Option Char :=
  if edition = .first ∧ (row, column) = (0x7d, 0x3b) then some '\u9b1d'
  else Chart.jisX0213Second.char? row column

/-! ### EUC -/

/-- Reads one character of EUC, for which `double` reads two bytes, and `triple` finds the character
of the two bytes behind 0x8f. -/
def eucStep (double : Nat → Nat → Reading) (triple? : Nat → Nat → Option Char) :
    List Nat → Reading
  | [] => .cut
  | a :: rest =>
    if a < 0x80 then .chars [Char.ofNat a] 1
    else if a = 0x8e then Reading.double katakana? rest
    else if a = 0x8f then
      match rest with
      | b :: c :: _ => Reading.ofChar? 3 (triple? b c)
      | _ => .cut
    else
      match rest with
      | b :: _ => double a b
      | [] => .cut

/-- Reads one character of EUC. -/
def euc : List Nat → Reading :=
  eucStep (fun a b => Reading.ofChar? 2 (Chart.jisX0208.highChar? a b)) Chart.jisX0212.highChar?

/-- Reads one character of EUC for the extended set. The tilde of the chart is wide there. -/
def eucExtended (edition : Edition) : List Nat → Reading :=
  eucStep
    (fun a b =>
      if (a, b) = (0xa2, 0xb2) then .chars ['～'] 2
      else if 0x80 ≤ a ∧ 0x80 ≤ b then firstPlane edition (a - 0x80) (b - 0x80)
      else .malformed 1)
    fun a b =>
      if 0x80 ≤ a ∧ 0x80 ≤ b then
        (secondPlane? edition (a - 0x80) (b - 0x80)).or (Chart.jisX0212.highChar? a b)
      else none

/-! ### Shift JIS -/

/-- The row, from 0 on through both planes, and the column of two bytes of Shift JIS: two rows share
a first byte. -/
def shifted? (a b : Nat) : Option (Nat × Nat) :=
  if ((0x81 ≤ a ∧ a ≤ 0x9f) ∨ (0xe0 ≤ a ∧ a ≤ 0xfc)) ∧ 0x40 ≤ b ∧ b ≤ 0xfc ∧ b ≠ 0x7f then
    let row := a - if a < 0xe0 then 0x81 else 0xc1
    let column := b - if b < 0x80 then 0x40 else 0x41
    some (2 * row + column / 94, column % 94 + 0x21)
  else none

theorem shifted_lt {a b row column : Nat} (h : shifted? a b = some (row, column)) :
    row < 120 ∧ 0x21 ≤ column ∧ column ≤ 0x7e := by
  unfold shifted? at h
  split at h
  · simp only [Option.some.injEq, Prod.mk.injEq] at h
    split at h <;> split at h <;> omega
  · cases h

/-- The row on the second plane that Shift JIS has after the 94 rows of the first. -/
def secondRow (row : Nat) : Nat :=
  if 0x67 ≤ row then row + 7
  else if 0x63 ≤ row ∨ row = 0x5f then row - 0x37
  else row - 0x3d

/-- Reads one character of Shift JIS, for which `single` finds the character of a byte by itself,
and `double` reads two bytes. -/
def shiftStep (single? : Nat → Option Char) (double : Nat → Nat → Reading) : List Nat → Reading
  | [] => .cut
  | a :: rest =>
    match single? a with
    | some c => .chars [c] 1
    | none =>
      match rest with
      | b :: _ => double a b
      | [] => .cut

/-- The character on the chart of JIS X 0208 of two bytes of Shift JIS. -/
def shiftChar? (a b : Nat) : Option Char :=
  (shifted? a b).bind fun (row, column) => Chart.jisX0208.char? (row + 0x21) column

/-- Reads one character of Shift JIS. -/
def shift : List Nat → Reading :=
  shiftStep (fun a => if a < 0x80 then some (Char.ofNat a) else katakana? a)
    fun a b => Reading.ofChar? 2 (shiftChar? a b)

/-- The character of a byte by itself in the vendors' form of Shift JIS. -/
def vendorSingle? (a : Nat) : Option Char :=
  if a ≤ 0x80 then some (Char.ofNat a)
  else if a = 0xa0 then some '\uf8f0'
  else if 0xfd ≤ a then some (Char.ofNat (0xf8f1 + (a - 0xfd)))
  else katakana? a

/-- The character of two bytes in the area that the vendors' form leaves to the user. -/
def userChar? (a b : Nat) : Option Char :=
  if 0xf0 ≤ a ∧ a ≤ 0xf9 ∧ 0x40 ≤ b ∧ b ≤ 0xfc ∧ b ≠ 0x7f then
    some (Char.ofNat (0xe000 + 188 * (a - 0xf0) + (b - if b < 0x80 then 0x40 else 0x41)))
  else none

/-- Reads one character of the vendors' form of Shift JIS. -/
def vendorShift : List Nat → Reading :=
  shiftStep vendorSingle? fun a b =>
    Reading.ofChar? 2 ((Chart.shiftedSigns.char? a b).or <| (shiftChar? a b).or <| userChar? a b)

/-- Reads one character of Shift JIS for the extended set. The backslash of the chart is narrow
there. -/
def shiftExtended (edition : Edition) : List Nat → Reading :=
  shiftStep (fun a => if a < 0x80 then some (roman a) else katakana? a) fun a b =>
    match shifted? a b with
    | some (row, column) =>
      if (row + 0x21, column) = (0x21, 0x40) then .chars ['\\'] 2
      else if row < 94 then firstPlane edition (row + 0x21) column
      else Reading.ofChar? 2 (secondPlane? edition (secondRow row) column)
    | none => .malformed 1

end IndexExplorer.Text.Japanese
