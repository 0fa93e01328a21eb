import IndexExplorer.Text.Utf8

/-!
Percent-encoding: bytes of UTF-8 as a percent sign and two upper-case hexadecimal digits.

* `bytesOf_encode`: what is encoded stands for the bytes of the text, whichever characters are
  kept, as long as percent signs are not.
-/
namespace IndexExplorer.Text.Percent

/-- A hexadecimal digit in upper case. -/
def digit (n : Nat) : Char := if n < 10 then Char.ofNat (48 + n) else Char.ofNat (55 + n)

/-- A byte, encoded. -/
def ofByte (b : UInt8) : List Char := ['%', digit (b.toNat / 16), digit (b.toNat % 16)]

/-- A character, encoded. -/
def ofChar (c : Char) : List Char := (String.utf8EncodeChar c).flatMap ofByte

/-- The text with every character encoded on which `keep` does not hold. -/
def encode (keep : Char → Bool) (s : String) : String :=
  String.ofList (s.toList.flatMap fun c => if keep c then [c] else ofChar c)

/-- The value of a hexadecimal digit. -/
def value? (c : Char) : Option Nat :=
  if c.isDigit then some (c.toNat - 48)
  else if 'a' ≤ c ∧ c ≤ 'f' then some (c.toNat - 87)
  else if 'A' ≤ c ∧ c ≤ 'F' then some (c.toNat - 55)
  else none

/-- The bytes that a text stands for; a percent sign without two digits stands for itself. -/
def bytesOf : List Char → List UInt8
  | [] => []
  | '%' :: a :: b :: rest =>
    match value? a, value? b with
    | some x, some y => UInt8.ofNat (16 * x + y) :: bytesOf rest
    | _, _ => (String.utf8EncodeChar '%') ++ bytesOf (a :: b :: rest)
  | c :: rest => String.utf8EncodeChar c ++ bytesOf rest

theorem value?_digit {n : Nat} (h : n < 16) : value? (digit n) = some n := by
  have : ∀ n : Fin 16, value? (digit n.val) = some n.val := by decide
  exact this ⟨n, h⟩

theorem bytesOf_ofByte (b : UInt8) (cs : List Char) :
    bytesOf (ofByte b ++ cs) = b :: bytesOf cs := by
  have hb := b.toNat_lt
  have e : 16 * (b.toNat / 16) + b.toNat % 16 = b.toNat := by omega
  have h₁ : value? (digit (b.toNat / 16)) = some (b.toNat / 16) := value?_digit (by omega)
  have h₂ : value? (digit (b.toNat % 16)) = some (b.toNat % 16) := value?_digit (by omega)
  simp [ofByte, bytesOf, h₁, h₂, e]

theorem bytesOf_ofChar (c : Char) (cs : List Char) :
    bytesOf (ofChar c ++ cs) = String.utf8EncodeChar c ++ bytesOf cs := by
  rw [ofChar]
  generalize String.utf8EncodeChar c = bs
  induction bs with
  | nil => rfl
  | cons b bs ih => rw [List.flatMap_cons, List.append_assoc, bytesOf_ofByte, ih]; rfl

theorem bytesOf_cons {c : Char} (h : c ≠ '%') (cs : List Char) :
    bytesOf (c :: cs) = String.utf8EncodeChar c ++ bytesOf cs := by
  rw [bytesOf]
  intro a b rest e
  simp_all

/-- What is encoded stands for the bytes of the text, if percent signs are encoded too. -/
theorem bytesOf_encode {keep : Char → Bool} (h : keep '%' = false) (s : String) :
    bytesOf (encode keep s).toList = s.toList.flatMap String.utf8EncodeChar := by
  rw [encode, String.toList_ofList]
  induction s.toList with
  | nil => simp [bytesOf]
  | cons c cs ih =>
    rw [List.flatMap_cons, List.flatMap_cons, ← ih]
    by_cases k : keep c
    · have : c ≠ '%' := fun e => by simp [e, h] at k
      simp only [k, ↓reduceIte, List.singleton_append, bytesOf_cons this]
    · simp only [k, Bool.false_eq_true, ↓reduceIte, bytesOf_ofChar]

/-- The text that a percent-encoded text stands for. -/
def decode (s : String) : String := Utf8.decode ⟨(bytesOf s.toList).toArray⟩

/-- Letters, digits and `-._~`, which never need encoding. -/
def isUnreserved (c : Char) : Bool :=
  c.isAlphanum || c = '-' || c = '.' || c = '_' || c = '~'

end IndexExplorer.Text.Percent
