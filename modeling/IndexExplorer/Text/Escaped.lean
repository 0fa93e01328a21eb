import IndexExplorer.Text.Reading

/-!
Decoding bytes of Latin-1 in which a backslash begins a sign for another character.

* `plain_of_ne`: a byte that is no backslash is read as itself.
-/
namespace IndexExplorer.Text.Escaped

/-- The value of a hexadecimal digit. -/
def hexDigit? (b : Nat) : Option Nat :=
  if '0'.toNat ≤ b ∧ b ≤ '9'.toNat then some (b - '0'.toNat)
  else if 'a'.toNat ≤ b ∧ b ≤ 'f'.toNat then some (b - 'a'.toNat + 10)
  else if 'A'.toNat ≤ b ∧ b ≤ 'F'.toNat then some (b - 'A'.toNat + 10)
  else none

/-- Reads the character whose number has `left` digits more behind the first `width` bytes of the
sign. The number of no character is malformed as a whole, and so is the sign up to a byte that is
no digit. -/
def hex : (left width sum : Nat) → List Nat → Reading
  | 0, width, sum, _ =>
    if sum.isValidChar then .chars [Char.ofNat sum] width else .malformed width
  | _ + 1, _, _, [] => .cut
  | left + 1, width, sum, b :: rest =>
    match hexDigit? b with
    | some d => hex left (width + 1) (sum * 16 + d) rest
    | none => .malformed width

/-- Reads the character whose number has at most `left` octal digits more. -/
def octal : (left width sum : Nat) → List Nat → Reading
  | left + 1, width, sum, b :: rest =>
    if '0'.toNat ≤ b ∧ b ≤ '7'.toNat then
      octal left (width + 1) (sum * 8 + (b - '0'.toNat)) rest
    else .chars [Char.ofNat sum] width
  | _, width, sum, _ => .chars [Char.ofNat sum] width

/-- Reads a character that is called by its name, behind the letter for that. No names are known. -/
def called : List Nat → Reading
  | [] => .cut
  | b :: rest =>
    if b ≠ '\x7b'.toNat then .malformed 2
    else
      let name := rest.takeWhile (· ≠ '\x7d'.toNat)
      if name.length = rest.length then .cut
      else if name = [] then .malformed 3
      else .malformed (4 + name.length)

/-- What a letter or sign behind a backslash stands for, if that is one character. -/
def simple? : Char → Option Char
  | '\\' => some '\\'
  | '\'' => some '\''
  | '"' => some '"'
  | 'a' => some '\x07'
  | 'b' => some '\x08'
  | 't' => some '\t'
  | 'n' => some '\n'
  | 'v' => some '\x0b'
  | 'f' => some '\x0c'
  | 'r' => some '\r'
  | _ => none

/-- Reads what is behind a backslash. -/
def sign (b : Nat) (rest : List Nat) : Reading :=
  match simple? (Char.ofNat b) with
  | some c => .chars [c] 2
  | none =>
    match Char.ofNat b with
    | '\n' => .chars [] 2
    | 'x' => hex 2 2 0 rest
    | 'u' => hex 4 2 0 rest
    | 'U' => hex 8 2 0 rest
    | 'N' => called rest
    | c => if '0' ≤ c ∧ c ≤ '7' then octal 3 1 0 (b :: rest) else .chars ['\\', c] 2

/-- Reads one character where all signs are known. -/
def full : List Nat → Reading
  | [] => .cut
  | a :: rest =>
    if a ≠ '\\'.toNat then .chars [Char.ofNat a] 1
    else
      match rest with
      | [] => .cut
      | b :: more => sign b more

/-- Reads one character where only numbers of four or eight hexadecimal digits are signs. -/
def raw : List Nat → Reading
  | [] => .cut
  | a :: rest =>
    if a ≠ '\\'.toNat then .chars [Char.ofNat a] 1
    else
      match rest with
      | [] => .chars ['\\'] 1
      | b :: more =>
        match Char.ofNat b with
        | 'u' => hex 4 2 0 more
        | 'U' => hex 8 2 0 more
        | c => .chars ['\\', c] 2

theorem plain_of_ne {a : Nat} (h : a ≠ '\\'.toNat) (rest : List Nat) :
    full (a :: rest) = .chars [Char.ofNat a] 1 ∧ raw (a :: rest) = .chars [Char.ofNat a] 1 := by
  exact ⟨if_pos h, if_pos h⟩

end IndexExplorer.Text.Escaped
