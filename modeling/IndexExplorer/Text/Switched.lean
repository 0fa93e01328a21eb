import IndexExplorer.Text.Chinese
import IndexExplorer.Text.Japanese
import IndexExplorer.Text.Korean

/-!
Character sets in seven bits whose bytes mean different characters after signs that switch between
charts.

* `read_ascii`: while nothing else is designated, a byte of ASCII is read as itself.
-/
namespace IndexExplorer.Text.Switched

/-! ### Switching by tildes -/

/-- Reads one character or sign of HZ; `double` holds where characters take two bytes. -/
def hz (double : Bool) : List Nat → Reading × Bool
  | [] => (.cut, double)
  | a :: rest =>
    if a = '~'.toNat then
      match rest with
      | [] => (.cut, double)
      | b :: _ =>
        if b = '~'.toNat ∧ !double then (.chars ['~'] 2, double)
        else if b = '\x7b'.toNat ∧ !double then (.chars [] 2, true)
        else if b = '\n'.toNat ∧ !double then (.chars [] 2, double)
        else if b = '\x7d'.toNat ∧ double then (.chars [] 2, false)
        else (.malformed 1, double)
    else if 0x80 ≤ a then (.malformed 1, double)
    else if double then (Reading.double (Chart.gb2312.char? a) rest, double)
    else (.chars [Char.ofNat a] 1, double)

/-! ### Switching by escapes -/

/-- What can be designated to be read. -/
inductive Designated where
  | ascii
  | roman
  | katakana
  | jisX0208
  | jisX0212
  | firstPlane (edition : Japanese.Edition)
  | secondPlane
  | ksX1001
  | gb2312
  /-- the upper half of a set for western Europe -/
  | latin
  /-- the upper half of a set for Greece -/
  | greek
deriving DecidableEq, Repr

namespace Designated

/-- Two bytes of a chart, or two that are malformed. -/
def double (chars? : Nat → Nat → Option (List Char)) : List Nat → Reading
  | a :: b :: _ =>
    match chars? a b with
    | some cs => .chars cs 2
    | none => .malformed 2
  | _ => .cut

/-- Two bytes of a chart with one character for each place. -/
def chart (chart : Chart) : List Nat → Reading :=
  double fun a b => (chart.char? a b).map ([·])

/-- Reads one character. The upper halves have none for a byte of ASCII. -/
def read : Designated → List Nat → Reading
  | _, [] => .cut
  | .ascii, b :: _ => .chars [Char.ofNat b] 1
  | .roman, b :: _ => .chars [Japanese.roman b] 1
  | .katakana, b :: _ => Reading.ofChar? 1 (Japanese.katakana? (b + 0x80))
  | .jisX0208, bytes => chart Chart.jisX0208 bytes
  | .jisX0212, bytes => chart Chart.jisX0212 bytes
  | .firstPlane edition, bytes => double (Japanese.firstPlane? edition) bytes
  | .secondPlane, bytes => chart Chart.jisX0213Second bytes
  | .ksX1001, bytes => chart Chart.ksX1001 bytes
  | .gb2312, bytes => chart Chart.gb2312 bytes
  | .latin, _ | .greek, _ => .malformed 1

theorem read_ascii (b : Nat) (rest : List Nat) :
    read .ascii (b :: rest) = .chars [Char.ofNat b] 1 := rfl

/-- The character of a byte in the upper half of the set for Greece; a byte that is none of ASCII
stands for one of ASCII. -/
def greekChar? (b : Nat) : Option Char :=
  if 0x80 ≤ b then some (Char.ofNat (b - 0x80))
  else if b < 0x20 then some (Char.ofNat (b + 0x80))
  else if b = 0x21 then some '‘'
  else if b = 0x22 then some '’'
  else if b = 0x2f then some '―'
  else if [0x20, 0x23, 0x26, 0x27, 0x28, 0x29, 0x2b, 0x2c, 0x2d, 0x30, 0x31, 0x32, 0x33, 0x37,
      0x3b, 0x3d].contains b then
    some (Char.ofNat (b + 0x80))
  else if 0x34 ≤ b ∧ b ≤ 0x7e ∧ b ≠ 0x52 then some (Char.ofNat (b + 0x350))
  else none

/-- The character of a single byte behind the sign for one character of the third set. -/
def single? : Designated → Nat → Option Char
  | .latin, b => if b < 0x80 then some (Char.ofNat (b + 0x80)) else none
  | .greek, b => greekChar? b
  | _, b => if b < 0x80 then some (Char.ofNat b) else none

end Designated

/-- The sign of a set in an escape: whether its characters take two bytes, and the last byte. -/
structure Mark where
  double : Bool
  last : Char
deriving DecidableEq, Repr

/-- A form of switching by escapes: what can be designated by which sign, and which further signs
are known. -/
structure Form where
  designations : List (Mark × Designated)
  /-- signs that shift to the second set and back -/
  shifts : Bool := false
  /-- a sign that reads one character of a third set -/
  hasThird : Bool := false
  /-- a sign that announces a revision of a chart -/
  revises : Bool := false
deriving DecidableEq, Repr

namespace Form

/-- What an escape designates by its sign. ASCII can always be designated. -/
def designated? (form : Form) (mark : Mark) : Option Designated :=
  if mark = ⟨false, 'B'⟩ then some .ascii else form.designations.lookup mark

/-- The two sets of JIS X 0208 and the letters that all forms for Japan had at first. -/
def basis : List (Mark × Designated) :=
  [(⟨true, 'B'⟩, .jisX0208), (⟨false, 'J'⟩, .roman), (⟨true, '@'⟩, .jisX0208)]

/-- The form for Korea. -/
def korean : Form where
  designations := [(⟨true, 'C'⟩, .ksX1001)]
  shifts := true

/-- The first form for Japan. -/
def japanese : Form where
  designations := basis
  revises := true

/-- The form for Japan with the supplementary set. -/
def supplementary : Form where
  designations := (⟨true, 'D'⟩, .jisX0212) :: basis
  revises := true

/-- The form for Japan with charts and letters of other countries. -/
def multilingual : Form where
  designations := basis ++ [
    (⟨true, 'D'⟩, .jisX0212), (⟨true, 'C'⟩, .ksX1001), (⟨true, 'A'⟩, .gb2312),
    (⟨false, 'A'⟩, .latin), (⟨false, 'F'⟩, .greek)]
  hasThird := true
  revises := true

/-- The form for Japan with the extended set in its first edition. -/
def extendedFirst : Form where
  designations := [
    (⟨true, 'B'⟩, .jisX0208), (⟨true, 'O'⟩, .firstPlane .first), (⟨true, 'P'⟩, .secondPlane)]
  revises := true

/-- The form for Japan with the extended set in its second edition. -/
def extendedSecond : Form where
  designations := [
    (⟨true, 'B'⟩, .jisX0208), (⟨true, 'Q'⟩, .firstPlane .second),
    (⟨true, 'P'⟩, .secondPlane)]
  revises := true

/-- The form for Japan with the narrow syllabary. -/
def syllabic : Form where
  designations := basis ++ [(⟨true, 'D'⟩, .jisX0212), (⟨false, 'I'⟩, .katakana)]
  revises := true

end Form

/-- What is designated, and where in a text that matters. -/
structure State where
  first : Designated := .ascii
  second : Designated := .ascii
  third : Designated := .ascii
  /-- the second set is read in the place of the first -/
  shifted : Bool := false
  /-- inside an escape that is not understood -/
  through : Bool := false
deriving DecidableEq, Repr

/-- A byte that ends an escape. -/
def isEnd (b : Nat) : Bool := b = '@'.toNat || ('A'.toNat ≤ b && b ≤ 'Z'.toNat)

/-- How many bytes an escape takes whose bytes from the `i`th on are given: 0 if none of the first
sixteen ends it, `none` if the bytes end inside of it. -/
def escapeWidth? (form : Form) (i : Nat) (bytes : List Nat) : Option Nat :=
  if 16 ≤ i then some 0
  else
    match bytes with
    | [] => none
    | b :: rest =>
      if isEnd b then some (i + 1)
      else if form.revises ∧ b = '&'.toNat ∧ rest.head? = some '@'.toNat then
        escapeWidth? form (i + 3) (rest.drop 2)
      else escapeWidth? form (i + 1) rest
termination_by 16 - i

/-- Which of the three sets an escape designates, and the sign. -/
def designation? (form : Form) (escape : List Nat) : Option (Nat × Mark) :=
  match escape.map Char.ofNat with
  | ['\x1b', '$', last] => some (0, ⟨true, last⟩)
  | ['\x1b', '(', last] => some (0, ⟨false, last⟩)
  | ['\x1b', ')', last] => some (1, ⟨false, last⟩)
  | ['\x1b', '.', last] => if form.hasThird then some (2, ⟨false, last⟩) else none
  | ['\x1b', '$', '(', last] => some (0, ⟨true, last⟩)
  | ['\x1b', '$', ')', last] => some (1, ⟨true, last⟩)
  | ['\x1b', _, _, '\x1b', '$', 'B'] => if form.revises then some (0, ⟨true, 'B'⟩) else none
  | _ => none

/-- Reads an escape that may designate a set. -/
def escape (form : Form) (s : State) (bytes : List Nat) : Reading × State :=
  match escapeWidth? form 1 (bytes.drop 1) with
  | none => (.cut, s)
  | some 0 => (.malformed 1, s)
  | some width =>
    let set := do
      let (place, mark) ← designation? form (bytes.take width)
      return (place, ← form.designated? mark)
    match set with
    | none => (.malformed width, s)
    | some (0, d) => (.chars [] width, { s with first := d })
    | some (1, d) => (.chars [] width, { s with second := d })
    | some (_, d) => (.chars [] width, { s with third := d })

/-- Reads one character or sign. An escape of another kind is read as characters to its end. -/
def step (form : Form) (s : State) (bytes : List Nat) : Reading × State :=
  match bytes with
  | [] => (.cut, s)
  | a :: rest =>
    if s.through then (.chars [Char.ofNat a] 1, { s with through := !isEnd a })
    else if a = 0x1b then
      match rest with
      | [] => (.cut, s)
      | b :: more =>
        if ['(', ')', '$', '.', '&'].contains (Char.ofNat b) then escape form s bytes
        else if form.hasThird ∧ b = 'N'.toNat then
          match more with
          | [] => (.cut, s)
          | c :: _ =>
            match s.third.single? c with
            | some c => (.chars [c] 3, s)
            | none => (.malformed 3, s)
        else (.chars ['\x1b'] 1, { s with through := true })
    else if a = 0x0f ∧ form.shifts then (.chars [] 1, { s with shifted := false })
    else if a = 0x0e ∧ form.shifts then (.chars [] 1, { s with shifted := true })
    else if a = 0x0a then (.chars ['\n'] 1, { s with shifted := false })
    else if a < 0x20 then (.chars [Char.ofNat a] 1, s)
    else if 0x80 ≤ a then (.malformed 1, s)
    else ((if s.shifted then s.second else s.first).read bytes, s)

/-- All readings of some bytes. -/
def readings (form : Form) (bytes : List Nat) : List Reading :=
  Reading.all (step form) {} 0 bytes

end IndexExplorer.Text.Switched
