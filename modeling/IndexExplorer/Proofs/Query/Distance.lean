import IndexExplorer.Filter
import IndexExplorer.Proofs.Json.Standard
import IndexExplorer.Proofs.Query.Literal
import IndexExplorer.Query.Distance

/-!
The texts of distances, read back.

* `Amount.value?`: the exact value of an amount, when it is finite;
* `Distance.read?`: the amount and the unit that a text tells;
* `Distance.exists_spelling_iff`: the text of a finite distance, and of no other, is a tidy numeral
  and its unit;
* `Distance.read?_text`: from it the same amount and the same unit are read.
-/
namespace IndexExplorer

open Number Literal

/-! ## Exact values -/

namespace Number

/-- The exact value of a finite double. -/
def value? (x : Float) : Option ℚ :=
  (size? x).map fun b => if signed x then -b.value else b.value

theorem isSome_value? (x : Float) : (value? x).isSome = isFinite x := Option.isSome_map

/-- A size without a fraction is what is left when its fraction is cut off. -/
theorem Binary.value_of_whole {b : Binary}
    (whole : 0 ≤ b.exponent ∨ b.significand % 2 ^ (-b.exponent).toNat = 0) :
    (((if 0 ≤ b.exponent then b.significand * 2 ^ b.exponent.toNat
      else b.significand / 2 ^ (-b.exponent).toNat : Nat) : Int) : ℚ) = b.value := by
  rw [Binary.value, Int.cast_natCast]
  split
  · rename_i nonneg
    obtain ⟨k, e⟩ := Int.eq_ofNat_of_zero_le nonneg
    rw [e, Int.toNat_natCast, zpow_natCast]
    push_cast
    rfl
  · rename_i negative
    obtain ⟨k, e⟩ : ∃ k : Nat, b.exponent = -k := ⟨(-b.exponent).toNat, by omega⟩
    rw [e, neg_neg, Int.toNat_natCast] at whole ⊢
    have divides : 2 ^ k ∣ b.significand := Nat.dvd_of_mod_eq_zero (whole.resolve_left (by omega))
    rw [Nat.cast_div divides (by positivity), zpow_neg, zpow_natCast, div_eq_mul_inv]
    push_cast
    rfl

/-- The integer part of a double without a fraction is its value. -/
theorem truncate?_of_isWhole {x : Float} (whole : isWhole x) :
    ∃ n : Int, truncate? x = some n ∧ value? x = some (n : ℚ) := by
  unfold isWhole at whole
  unfold truncate? value?
  cases size : size? x with
  | none =>
    rw [size] at whole
    cases whole
  | some b =>
    rw [size] at whole
    simp only [Bool.or_eq_true, decide_eq_true_eq] at whole
    have value := Binary.value_of_whole whole
    refine ⟨_, rfl, ?_⟩
    rw [Option.map_some]
    congr 1
    split
    · rw [Int.cast_neg]
      exact congrArg Neg.neg value.symm
    · exact value.symm

end Number

namespace Amount

/-- The exact value of an amount, when it is finite. -/
def value? : Amount → Option ℚ
  | .whole n => some n
  | .real x => Number.value? x

/-- The amount that is written at the whole of a text: an integer, or a double when there is a point
or a power. -/
def read? (cs : List Char) : Option Amount :=
  match takeNumeral (splitSign cs).2 with
  | some (n, []) =>
    if hasFractionMark (splitSign cs).2 then some (.real (n.toFloat (splitSign cs).1))
    else some (.whole (if (splitSign cs).1 then -(ofDigits n.whole : Int) else ofDigits n.whole))
  | _ => none

theorem read?_of_integer {s : Spelling} (sound : s.Sound Char.isDigit) (integer : s.IsInteger) :
    read? s.chars = some (.whole
      (if negated s.sign then -(ofDigits s.whole : Int) else ofDigits s.whole)) := by
  have plain : ¬ hasFractionMark s.unsigned = true := fun marked =>
    (hasFractionMark_unsigned sound).mp marked integer
  unfold read?
  rw [splitSign_chars sound]
  dsimp only
  rw [takeNumeral_unsigned sound]
  dsimp only
  rw [if_neg plain]
  rfl

theorem read?_of_marked {s : Spelling} (sound : s.Sound Char.isDigit) (marked : ¬ s.IsInteger) :
    read? s.chars = some (.real (s.numeral.toFloat (negated s.sign))) := by
  unfold read?
  rw [splitSign_chars sound]
  dsimp only
  rw [takeNumeral_unsigned sound]
  dsimp only
  rw [if_pos ((hasFractionMark_unsigned sound).mpr marked)]

end Amount

/-! ## Distances -/

namespace Distance

variable {radius : Amount} {unit : DistanceUnit}

/-- The amount and the unit that a text tells, the unit in its last two characters. -/
def read? (s : String) : Option (Amount × DistanceUnit) :=
  match Amount.read? (s.toList.take (s.toList.length - 2)),
    DistanceUnit.ofName? (String.ofList (s.toList.drop (s.toList.length - 2))) with
  | some amount, some unit => some (amount, unit)
  | _, _ => none

theorem length_name (unit : DistanceUnit) : unit.name.toList.length = 2 := by
  cases unit <;> rfl

theorem read?_append {s : String} {number : List Char}
    (text : s.toList = number ++ unit.name.toList) :
    read? s = (Amount.read? number).map (·, unit) := by
  have front : s.toList.length - 2 = number.length := by
    rw [text, List.length_append, length_name, Nat.add_sub_cancel]
  unfold read?
  rw [front, text, List.take_left, List.drop_left, String.ofList_toList, DistanceUnit.ofName?_name]
  cases Amount.read? number <;> rfl

theorem toList_toString (n : Int) : (toString n).toList = Json.intChars n := by
  cases n with
  | ofNat n => simp [toString, Int.repr, Nat.repr, Json.intChars]
  | negSucc n => simp [toString, Int.repr, Nat.repr, Json.intChars]

/-- The digits of an integer, behind its sign, have its value. -/
theorem value_intSpelling (n : Int) :
    (if negated (Json.intSpelling n).sign then -(ofDigits (Json.intSpelling n).whole : Int)
      else ofDigits (Json.intSpelling n).whole) = n := by
  unfold Json.intSpelling
  dsimp only
  rw [ofDigits_toDigits]
  by_cases negative : n < 0
  · rw [if_pos negative, if_pos (show negated ['-'] = true by rfl)]
    omega
  · rw [if_neg negative, if_neg (show ¬ negated [] = true by decide)]
    omega

/-- The number of a finite distance: a tidy numeral from which the radius is read. -/
theorem exists_spelling (unit : DistanceUnit) {v : ℚ} (finite : radius.value? = some v) :
    ∃ s : Spelling, s.Tidy ∧ (text radius unit.name).toList = s.chars ++ unit.name.toList ∧
      ∃ r : Amount, Amount.read? s.chars = some r ∧ r.value? = some v := by
  have integer : ∀ n : Int, ∃ s : Spelling, s.Tidy ∧
      (toString n ++ unit.name).toList = s.chars ++ unit.name.toList ∧
      ∃ r : Amount, Amount.read? s.chars = some r ∧ r.value? = some (n : ℚ) := by
    intro n
    refine ⟨_, Json.tidy_intSpelling n, ?_, .whole n, ?_, rfl⟩
    · rw [String.toList_append, Json.chars_intSpelling, toList_toString]
    · rw [Amount.read?_of_integer (Json.tidy_intSpelling n).sound ⟨rfl, rfl⟩, value_intSpelling]
  cases radius with
  | whole n =>
    obtain rfl : (n : ℚ) = v := Option.some.inj finite
    exact integer n
  | real x =>
    cases whole : isWhole x with
    | true =>
      obtain ⟨n, cut, value⟩ := truncate?_of_isWhole whole
      obtain rfl : (n : ℚ) = v := Option.some.inj (value.symm.trans finite)
      have written : text (.real x) unit.name = toString n ++ unit.name := by
        simp [text, whole, cut]
      rw [written]
      exact integer n
    | false =>
      have written : text (.real x) unit.name = floatText x ++ unit.name := by
        simp [text, whole]
      obtain ⟨b, size, -⟩ := Option.map_eq_some_iff.mp (show value? x = some v from finite)
      obtain ⟨s, ⟨tidy, marked, reads⟩, chars⟩ := write_spelling moderate_plainStyle size
      refine ⟨s, tidy, ?_, _, Amount.read?_of_marked tidy.sound marked, ?_⟩
      · rw [written, String.toList_append, floatText, chars]
      · rw [reads]
        exact finite

/-- From the text of a finite distance its radius and its unit are read. -/
theorem read?_text (unit : DistanceUnit) {v : ℚ} (finite : radius.value? = some v) :
    ∃ r : Amount, read? (text radius unit.name) = some (r, unit) ∧ r.value? = some v := by
  obtain ⟨s, -, chars, r, reads, value⟩ := exists_spelling unit finite
  exact ⟨r, by rw [read?_append chars, reads]; rfl, value⟩

/-- The text of a distance is a tidy numeral and its unit exactly when the radius is finite. -/
theorem exists_spelling_iff (radius : Amount) (unit : DistanceUnit) :
    (∃ s : Spelling, s.Tidy ∧ (text radius unit.name).toList = s.chars ++ unit.name.toList) ↔
      radius.value?.isSome := by
  constructor
  · rintro ⟨s, tidy, chars⟩
    cases radius with
    | whole n => rfl
    | real x =>
      show (value? x).isSome
      rw [isSome_value?]
      by_contra infinite
      rw [Bool.not_eq_true] at infinite
      have size : size? x = none := by simpa [isFinite] using infinite
      have written : text (.real x) unit.name = floatText x ++ unit.name := by
        simp [text, isWhole, size]
      rw [written, String.toList_append] at chars
      have same : (floatText x).toList = s.chars := List.append_cancel_right chars
      have letter : 'n' ∈ s.chars := by
        rw [← same]
        rcases Json.write_of_infinite plainStyle infinite with e | e
        · rw [floatText, e]
          decide
        · rw [floatText, e]
          exact List.mem_append_right _ (by decide)
      rcases mem_chars tidy.sound letter with digit | mark
      · cases digit
      · exact absurd mark (by decide)
  · intro finite
    obtain ⟨v, value⟩ := Option.isSome_iff_exists.mp finite
    obtain ⟨s, tidy, chars, -⟩ := exists_spelling unit value
    exact ⟨s, tidy, chars⟩

end Distance

/-! ## Circles -/

namespace Clause

/-- The members of a circle: a point in the field of the distance replaces the distance. -/
theorem circle_members (distance point : Json) (field : String) :
    Named.ofList [("distance", distance), (field, point)] =
      if field = "distance" then [("distance", point)]
      else [("distance", distance), (field, point)] := by
  show Named.put (Named.put [] "distance" distance) field point = _
  split
  · rename_i same
    rw [same]
    rfl
  · rename_i other
    simp [Named.put, Named.alter, Ne.symm other]

end Clause

end IndexExplorer
