/-!
Reading bytes from left to right when some places may be malformed.

* `length_all_le`: every reading takes at least one byte.
* `units_plainly`: bytes that are each read as a character are as many characters.
-/
namespace IndexExplorer.Text

/-- What the beginning of some bytes stands for. -/
inductive Reading where
  /-- characters, and how many bytes they take -/
  | chars (cs : List Char) (width : Nat)
  /-- so many malformed bytes -/
  | malformed (width : Nat)
  /-- something that the bytes end inside of -/
  | cut
deriving DecidableEq, Repr

namespace Reading

/-- Characters of so many bytes, or a malformed byte. -/
def ofChars? (width : Nat) : Option (List Char) → Reading
  | some cs => .chars cs width
  | none => .malformed 1

/-- One character of so many bytes, or a malformed byte. -/
def ofChar? (width : Nat) (c : Option Char) : Reading := ofChars? width (c.map ([·]))

/-- The character of two bytes, or else a malformed byte; `rest` is what comes behind the first. -/
def double (char? : Nat → Option Char) (rest : List Nat) : Reading :=
  match rest with
  | [] => .cut
  | b :: _ => ofChar? 2 (char? b)

/-- A byte of ASCII, or the character of two bytes; else a malformed byte. -/
def asciiOrDouble (char? : Nat → Nat → Option Char) : List Nat → Reading
  | [] => .cut
  | a :: rest => if a < 0x80 then .chars [Char.ofNat a] 1 else double (char? a) rest

/-- The characters, `none` for a malformed place. -/
def units : Reading → List (Option Char)
  | .chars cs _ => cs.map some
  | .malformed _ | .cut => [none]

/-- How many bytes are taken, as far as the reading tells. -/
def width : Reading → Nat
  | .chars _ width | .malformed width => width
  | .cut => 0

/-- All readings of some bytes behind the first `skip` of them. `step` reads one from a state, which
comes out changed. -/
def all {σ : Type} (step : σ → List Nat → Reading × σ) : σ → Nat → List Nat → List Reading
  | _, _, [] => []
  | s, skip + 1, _ :: rest => all step s skip rest
  | s, 0, b :: rest =>
    match step s (b :: rest) with
    | (.cut, _) => [.cut]
    | (r, s) => r :: all step s (r.width - 1) rest

/-- All readings of some bytes where no state is kept. -/
def plainly (step : List Nat → Reading) (bytes : List Nat) : List Reading :=
  all (fun _ bytes => (step bytes, ())) () 0 bytes

/-- How many bytes at the end the readings do not take: those from a cut on. -/
def remainder (bytes : List Nat) (readings : List Reading) : Nat :=
  bytes.length - readings.foldl (fun taken r => taken + r.width) 0

theorem length_all_le {σ : Type} (step : σ → List Nat → Reading × σ) (s : σ) (skip : Nat)
    (bytes : List Nat) : (all step s skip bytes).length ≤ bytes.length := by
  fun_induction all step s skip bytes <;> simp_all
  omega

theorem asciiOrDouble_ascii {a : Nat} (h : a < 0x80) (char? : Nat → Nat → Option Char)
    (rest : List Nat) : asciiOrDouble char? (a :: rest) = .chars [Char.ofNat a] 1 := if_pos h

theorem units_plainly {step : List Nat → Reading} {f : Nat → Char} {bytes : List Nat}
    (h : ∀ b ∈ bytes, ∀ rest, step (b :: rest) = .chars [f b] 1) :
    (plainly step bytes).flatMap units = bytes.map fun b => some (f b) := by
  induction bytes with
  | nil => rfl
  | cons b rest ih =>
    have hb := h b (by simp) rest
    have hrest := ih fun c hc => h c (by simp [hc])
    simp only [plainly, all, hb, width, List.flatMap_cons, units, List.map_cons, List.map_nil]
    rw [← hrest]
    rfl

end Reading

end IndexExplorer.Text
