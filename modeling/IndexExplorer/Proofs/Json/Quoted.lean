import IndexExplorer.Json.Reader
import IndexExplorer.Json.Writer
import Mathlib.Tactic.SplitIfs

/-!
Strings that are written and read again.

Each character has an escape that stands for it alone, beyond the first plane as a pair of
surrogates.

* `takeUnit_hex`: four hexadecimal digits read back as the unit that they write;
* `stringRest_escapeChar`: a written character is read as that character;
* `stringRest_quoted`: so is a whole string, up to its closing quote.
-/
namespace IndexExplorer.Json

open Text

variable {fuel n : Nat} {done rest : List Char}

/-! ## Units -/

theorem hexValue?_digitChar : ∀ d < 16, hexValue? (Nat.digitChar d) = some d := by decide

/-- The last digit of a number that is filled up to some width. -/
theorem hex_succ {width : Nat} (some : 0 < width) (n : Nat) :
    hex (width + 1) n = hex width (n / 16) ++ [Nat.digitChar (n % 16)] := by
  unfold hex
  by_cases small : n < 16
  · have none : n / 16 = 0 := by omega
    have own : n % 16 = n := by omega
    have fill : List.replicate width '0' = List.replicate (width - 1) '0' ++ ['0'] := by
      rw [← List.replicate_succ', show width - 1 + 1 = width by omega]
    simp [Nat.toDigits_of_lt_base small, none, own, fill]
  · have longer : Nat.toDigits 16 n = Nat.toDigits 16 (n / 16) ++ [Nat.digitChar (n % 16)] :=
      Nat.toDigits_of_base_le (by decide) (by omega)
    simp [longer]

theorem hex_one (h : n < 16) : hex 1 n = [Nat.digitChar n] := by
  simp [hex, Nat.toDigits_of_lt_base h]

/-- The escape of a unit is read as that unit. -/
theorem takeUnit_hex (h : n < 0x10000) (rest : List Char) :
    takeUnit (hex 4 n ++ rest) = some (n, rest) := by
  have first := hexValue?_digitChar (n / 16 / 16 / 16) (by omega)
  have second := hexValue?_digitChar (n / 16 / 16 % 16) (by omega)
  have third := hexValue?_digitChar (n / 16 % 16) (by omega)
  have fourth := hexValue?_digitChar (n % 16) (by omega)
  have total : n / 16 / 16 / 16 * 4096 + n / 16 / 16 % 16 * 256 + n / 16 % 16 * 16 + n % 16 = n := by
    omega
  rw [hex_succ (by decide), hex_succ (by decide), hex_succ (by decide), hex_one (by omega)]
  simp [takeUnit, first, second, third, fourth, total]

theorem toNat_cases (c : Char) : c.toNat < 0xd800 ∨ (0xdfff < c.toNat ∧ c.toNat < 0x110000) :=
  c.valid

theorem takeEscapedUnits_unit {cs : List Char} (unit : takeUnit cs = some (n, rest))
    (sole : n < 0xd800 ∨ 0xdfff < n) : takeEscapedUnits cs = some (Char.ofNat n, rest) := by
  unfold takeEscapedUnits
  rw [unit]
  dsimp only
  rw [if_neg (by omega), if_neg (by omega)]

theorem takeEscapedUnits_pair {cs more : List Char} {high low : Nat}
    (first : takeUnit cs = some (high, '\\' :: 'u' :: more))
    (second : takeUnit more = some (low, rest)) (is_high : 0xd800 ≤ high ∧ high < 0xdc00)
    (is_low : 0xdc00 ≤ low ∧ low < 0xe000) :
    takeEscapedUnits cs =
      some (Char.ofNat (0x10000 + (high - 0xd800) * 0x400 + (low - 0xdc00)), rest) := by
  unfold takeEscapedUnits
  rw [first]
  dsimp only
  rw [if_pos is_high]
  split
  · rename_i e
    obtain ⟨-, e⟩ := List.cons.inj e
    obtain ⟨-, rfl⟩ := List.cons.inj e
    rw [second]
    dsimp only
    rw [if_pos is_low]
  · rename_i other
    exact absurd rfl (other _)

/-- A character of the first plane is a unit of its own, and no surrogate. -/
theorem takeEscapedUnits_hex {c : Char} (plane : c.toNat < 0x10000) (rest : List Char) :
    takeEscapedUnits (hex 4 c.toNat ++ rest) = some (c, rest) := by
  have sole := toNat_cases c
  rw [takeEscapedUnits_unit (takeUnit_hex plane rest) (by omega), Char.ofNat_toNat]

/-- Any other character is a pair of surrogates. -/
theorem takeEscapedUnits_surrogates {c : Char} {high low : Nat} (beyond : 0x10000 ≤ c.toNat)
    (high_eq : high = 0xd800 + (c.toNat - 0x10000) / 0x400)
    (low_eq : low = 0xdc00 + (c.toNat - 0x10000) % 0x400) (rest : List Char) :
    takeEscapedUnits (hex 4 high ++ (unitEscape low ++ rest)) = some (c, rest) := by
  have last := toNat_cases c
  have first := takeUnit_hex (n := high) (by omega) (unitEscape low ++ rest)
  have second := takeUnit_hex (n := low) (by omega) rest
  rw [takeEscapedUnits_pair first second (by omega) (by omega)]
  have total : 0x10000 + (high - 0xd800) * 0x400 + (low - 0xdc00) = c.toNat := by omega
  rw [total, Char.ofNat_toNat]

/-! ## Characters -/

theorem stringRest_close (fuel : Nat) (done rest : List Char) :
    stringRest (fuel + 1) done ('"' :: rest) = .ok (String.ofList done.reverse, rest) := by
  rw [stringRest.eq_def]
  dsimp only
  rw [if_pos rfl]

theorem stringRest_short {e x : Char} (other : e ≠ 'u') (short : shortEscape? e = some x)
    (fuel : Nat) (done rest : List Char) :
    stringRest (fuel + 1) done ('\\' :: e :: rest) = stringRest fuel (x :: done) rest := by
  rw [stringRest.eq_def]
  dsimp only
  rw [if_neg (by decide), if_neg (by decide), if_pos rfl, if_neg other, short]

theorem stringRest_units {x : Char} {cs : List Char} (units : takeEscapedUnits cs = some (x, rest))
    (fuel : Nat) (done : List Char) :
    stringRest (fuel + 1) done ('\\' :: 'u' :: cs) = stringRest fuel (x :: done) rest := by
  rw [stringRest.eq_def]
  dsimp only
  rw [if_neg (by decide), if_neg (by decide), if_pos rfl, if_pos rfl, units]

theorem stringRest_plain {c : Char} (quote : c ≠ '"') (mark : c ≠ '\\') (shown : 0x20 ≤ c.toNat)
    (fuel : Nat) (done rest : List Char) :
    stringRest (fuel + 1) done (c :: rest) = stringRest fuel (c :: done) rest := by
  rw [stringRest.eq_def]
  dsimp only
  rw [if_neg quote, if_neg (by omega), if_neg mark]

theorem eq_of_toNat {c d : Char} (h : c.toNat = d.toNat) : c = d := by
  rw [← Char.ofNat_toNat c, h, Char.ofNat_toNat]

theorem unitEscape_append (n : Nat) (rest : List Char) :
    unitEscape n ++ rest = '\\' :: 'u' :: (hex 4 n ++ rest) := rfl

/-- What is written for a character is read as that character. -/
theorem stringRest_escapeChar (c : Char) (fuel : Nat) (done rest : List Char) :
    stringRest (fuel + 1) done (escapeChar c ++ rest) = stringRest fuel (c :: done) rest := by
  unfold escapeChar
  dsimp only
  split_ifs with quote mark line back tab bell feed shown plane
  · exact stringRest_short (by decide) (by rw [quote]; rfl) fuel done rest
  · exact stringRest_short (by decide) (by rw [mark]; rfl) fuel done rest
  · exact stringRest_short (by decide) (by rw [line]; rfl) fuel done rest
  · exact stringRest_short (by decide) (by rw [back]; rfl) fuel done rest
  · exact stringRest_short (by decide) (by rw [tab]; rfl) fuel done rest
  · rw [eq_of_toNat (d := '\x08') bell]
    exact stringRest_short (by decide) rfl fuel done rest
  · rw [eq_of_toNat (d := '\x0c') feed]
    exact stringRest_short (by decide) rfl fuel done rest
  · exact stringRest_plain quote mark shown.1 fuel done rest
  · rw [unitEscape_append]
    exact stringRest_units (takeEscapedUnits_hex plane rest) fuel done
  · rw [List.append_assoc, unitEscape_append]
    exact stringRest_units (takeEscapedUnits_surrogates (by omega) rfl rfl rest) fuel done

/-! ## Strings -/

theorem escapeChar_ne_nil (c : Char) : escapeChar c ≠ [] := by
  intro nothing
  -- nothing written would be read as nothing, where the character is read
  have read := stringRest_escapeChar c 0 [] ['"']
  rw [nothing, List.nil_append, stringRest_close] at read
  cases read

theorem length_le_flatMap_escapeChar (cs : List Char) :
    cs.length ≤ (cs.flatMap escapeChar).length := by
  induction cs with
  | nil => exact Nat.le_refl 0
  | cons c cs ih =>
    have some := List.length_pos_iff.mpr (escapeChar_ne_nil c)
    rw [List.flatMap_cons, List.length_append, List.length_cons]
    omega

theorem stringRest_flatMap (cs rest : List Char) (enough : cs.length < fuel) :
    stringRest fuel done (cs.flatMap escapeChar ++ '"' :: rest) =
      .ok (String.ofList (done.reverse ++ cs), rest) := by
  induction cs generalizing fuel done with
  | nil =>
    cases fuel with
    | zero => cases enough
    | succ fuel =>
      rw [List.flatMap_nil, List.nil_append, stringRest_close, List.append_nil]
  | cons c cs ih =>
    cases fuel with
    | zero => cases enough
    | succ fuel =>
      rw [List.flatMap_cons, List.append_assoc, stringRest_escapeChar,
        ih (by simpa using enough), List.reverse_cons, List.append_assoc]
      rfl

/-- A written string is read back, whatever follows its closing quote. -/
theorem stringRest_quoted (s : String) (rest : List Char) :
    stringRest ((s.toList.flatMap escapeChar ++ '"' :: rest).length + 1) []
      (s.toList.flatMap escapeChar ++ '"' :: rest) = .ok (s, rest) := by
  have enough := length_le_flatMap_escapeChar s.toList
  rw [stringRest_flatMap s.toList rest (by rw [List.length_append]; omega)]
  simp

theorem value_str (s : String) (rest : List Char) (fuel room : Nat) :
    value (fuel + 1) room (stringChars s ++ rest) = .ok (.str s, rest) := by
  have text : stringChars s ++ rest = '"' :: (s.toList.flatMap escapeChar ++ '"' :: rest) := by
    simp [stringChars]
  rw [text]
  unfold value
  dsimp only
  rw [if_pos rfl, stringRest_quoted]

end IndexExplorer.Json
