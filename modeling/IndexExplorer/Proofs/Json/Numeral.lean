import IndexExplorer.Json.Reader
import IndexExplorer.Json.Writer
import IndexExplorer.Proofs.Number.Digits
import IndexExplorer.Proofs.Text.Percent
import IndexExplorer.Proofs.Text.Split
import IndexExplorer.Proofs.Url.Spelling

/-!
Numbers that are written and read again.

A numeral ends where nothing that could go on with it follows, so that what is read from its text
alone is read from it inside a document as well.

* `numberRest_append`, `value_append_of_float`: what follows a number does not change it;
* `numberRest_toDigits`: the digits of an integer read back as that integer;
* `value_float`: a double whose text reads back does so inside a document.
-/
namespace IndexExplorer.Json

open Number Text UrlParts

/-- A character that follows a value inside a list or an object. -/
def endsValue (c : Char) : Bool := c = ',' || c = ']' || c = '\x7d'

variable {cs rest r : List Char} {negative : Bool}

theorem endsValue_cases {c : Char} (ends : endsValue c) : c = ',' ∨ c = ']' ∨ c = '\x7d' := by
  simpa [endsValue, or_assoc] using ends

/-- What follows a value goes on with nothing that a numeral has. -/
theorem head_of_stops (stops : Stops endsValue rest) :
    rest = [] ∨ ∃ c tail, rest = c :: tail ∧ (c = ',' ∨ c = ']' ∨ c = '\x7d') := by
  cases rest with
  | nil => exact .inl rfl
  | cons c tail => exact .inr ⟨c, tail, rfl, endsValue_cases (stops c rfl)⟩

/-! ## Numerals inside a text -/

theorem digits_append (stops : Stops endsValue rest) (cs : List Char) :
    (cs ++ rest).takeWhile Char.isDigit = cs.takeWhile Char.isDigit ∧
      (cs ++ rest).dropWhile Char.isDigit = cs.dropWhile Char.isDigit ++ rest := by
  induction cs with
  | nil =>
    rcases head_of_stops stops with rfl | ⟨c, tail, rfl, rfl | rfl | rfl⟩ <;> simp
  | cons c cs ih =>
    by_cases digit : c.isDigit <;> simp [digit, ih]

theorem takeWhole_append (stops : Stops endsValue rest) {whole : List Char}
    (h : takeWhole cs = some (whole, r)) : takeWhole (cs ++ rest) = some (whole, r ++ rest) := by
  obtain ⟨taken, left⟩ := digits_append stops cs
  unfold takeWhole at h
  split at h
  · cases h
    rfl
  · rename_i other
    dsimp only at h
    split at h
    · cases h
    · rename_i some
      obtain ⟨rfl, rfl⟩ := Prod.mk.inj (Option.some.inj h)
      have front : ∀ tail, cs ++ rest = '0' :: tail → False := by
        intro tail e
        cases cs with
        | nil => simp at some
        | cons c cs => exact other cs (by rw [(List.cons.inj e).1])
      unfold takeWhole
      split
      · rename_i tail e
        exact (front _ e).elim
      · dsimp only
        rw [taken, left, if_neg some]

theorem takeFraction_append (stops : Stops endsValue rest) (cs : List Char) :
    takeFraction (cs ++ rest) = ((takeFraction cs).1, (takeFraction cs).2 ++ rest) := by
  cases cs with
  | nil => rcases head_of_stops stops with rfl | ⟨c, tail, rfl, rfl | rfl | rfl⟩ <;> rfl
  | cons c cs =>
    obtain ⟨taken, left⟩ := digits_append stops cs
    by_cases point : c = '.'
    · subst point
      simp only [List.cons_append, takeFraction, taken, left]
      split <;> rfl
    · simp [takeFraction, point]

theorem splitSign_append (stops : Stops endsValue rest) (cs : List Char) :
    splitSign (cs ++ rest) = ((splitSign cs).1, (splitSign cs).2 ++ rest) := by
  cases cs with
  | nil => rcases head_of_stops stops with rfl | ⟨c, tail, rfl, rfl | rfl | rfl⟩ <;> rfl
  | cons c cs =>
    by_cases minus : c = '-'
    · simp [splitSign, minus]
    · by_cases plus : c = '+' <;> simp [splitSign, minus, plus]

theorem takeExponent_append (stops : Stops endsValue rest) (cs : List Char) :
    takeExponent (cs ++ rest) = ((takeExponent cs).1, (takeExponent cs).2 ++ rest) := by
  cases cs with
  | nil => rcases head_of_stops stops with rfl | ⟨c, tail, rfl, rfl | rfl | rfl⟩ <;> rfl
  | cons c cs =>
    obtain ⟨taken, left⟩ := digits_append stops (splitSign cs).2
    simp only [List.cons_append, takeExponent, splitSign_append stops, taken, left]
    split
    · split <;> rfl
    · rfl

/-- A number is the same with more behind it. -/
theorem numberRest_append (stops : Stops endsValue rest) {v : Json}
    (h : numberRest negative cs = .ok (v, r)) :
    numberRest negative (cs ++ rest) = .ok (v, r ++ rest) := by
  unfold numberRest at h ⊢
  cases taken : takeWhole cs with
  | none => simp [taken] at h
  | some cut =>
    obtain ⟨whole, behind⟩ := cut
    rw [takeWhole_append stops taken]
    simp only [taken, takeFraction_append stops, takeExponent_append stops] at h ⊢
    split at h
    · split at h
      · cases h
      · rename_i plain fits
        obtain ⟨rfl, rfl⟩ := Prod.mk.inj (Except.ok.inj h)
        rw [if_pos plain, if_neg fits]
    · rename_i marked
      obtain ⟨rfl, rfl⟩ := Prod.mk.inj (Except.ok.inj h)
      rw [if_neg marked]

/-! ## What is left behind a number -/

theorem takeWhole_suffix {whole : List Char} (h : takeWhole cs = some (whole, r)) : r <:+ cs := by
  unfold takeWhole at h
  split at h
  · cases h
    exact List.suffix_cons _ _
  · dsimp only at h
    split at h
    · cases h
    · cases h
      exact List.dropWhile_suffix _

theorem takeFraction_suffix (cs : List Char) : (takeFraction cs).2 <:+ cs := by
  unfold takeFraction
  split
  · dsimp only
    split
    · exact List.suffix_refl _
    · exact (List.dropWhile_suffix _).trans (List.suffix_cons _ _)
  · exact List.suffix_refl _

theorem splitSign_suffix (cs : List Char) : (splitSign cs).2 <:+ cs := by
  unfold splitSign
  split
  · exact List.suffix_cons _ _
  · exact List.suffix_cons _ _
  · exact List.suffix_refl _

theorem takeExponent_suffix (cs : List Char) : (takeExponent cs).2 <:+ cs := by
  unfold takeExponent
  split
  · split
    · dsimp only
      split
      · exact List.suffix_refl _
      · exact ((List.dropWhile_suffix _).trans (splitSign_suffix _)).trans (List.suffix_cons _ _)
    · exact List.suffix_refl _
  · exact List.suffix_refl _

theorem numberRest_suffix {v : Json} (h : numberRest negative cs = .ok (v, r)) : r <:+ cs := by
  unfold numberRest at h
  cases taken : takeWhole cs with
  | none => simp [taken] at h
  | some cut =>
    obtain ⟨whole, behind⟩ := cut
    have left : (takeExponent (takeFraction behind).2).2 <:+ cs :=
      ((takeExponent_suffix _).trans (takeFraction_suffix _)).trans (takeWhole_suffix taken)
    simp only [taken] at h
    split at h
    · split at h
      · cases h
      · cases h
        exact left
    · cases h
      exact left

/-! ## Words -/

theorem afterWord_eq_some {word : List Char} (h : afterWord word cs = some r) : cs = word ++ r := by
  induction word generalizing cs with
  | nil =>
    rw [← Option.some.inj h]
    rfl
  | cons w word ih =>
    cases cs with
    | nil => cases h
    | cons c cs =>
      unfold afterWord at h
      split at h
      · rename_i same
        rw [same, ih h, List.cons_append]
      · cases h

theorem afterWord_append (word rest : List Char) : afterWord word (word ++ rest) = some rest := by
  induction word with
  | nil => rfl
  | cons w word ih => simpa [afterWord] using ih

theorem wordValue_append (word : String) (v : Json) (rest : List Char) :
    wordValue word v (word.toList ++ rest) = .ok (v, rest) := by
  simp [wordValue, afterWord_append]

theorem wordValue_eq_ok {word : String} {v w : Json} (h : wordValue word v cs = .ok (w, r)) :
    w = v ∧ cs = word.toList ++ r := by
  unfold wordValue at h
  split at h
  · rename_i left
    cases h
    exact ⟨rfl, afterWord_eq_some left⟩
  · cases h

/-- A word is the same with more behind it. -/
theorem wordValue_more {word : String} {v w : Json} (h : wordValue word v cs = .ok (w, r)) :
    wordValue word v (cs ++ rest) = .ok (w, r ++ rest) ∧ r <:+ cs := by
  obtain ⟨rfl, rfl⟩ := wordValue_eq_ok h
  rw [List.append_assoc, wordValue_append]
  exact ⟨rfl, List.suffix_append _ _⟩

/-! ## Integers -/

theorem takeWhole_toDigits (stops : Stops endsValue rest) (n : Nat) :
    takeWhole (Nat.toDigits 10 n ++ rest) = some (Nat.toDigits 10 n, rest) := by
  have digits : ∀ c ∈ Nat.toDigits 10 n, c.isDigit := digits_toDigits _
  obtain ⟨taken, left⟩ := digits_append stops (Nat.toDigits 10 n)
  rw [List.takeWhile_eq_self_iff.mpr digits] at taken
  rw [List.dropWhile_eq_nil_iff.mpr digits, List.nil_append] at left
  unfold takeWhole
  split
  · rename_i tail e
    cases front : Nat.toDigits 10 n with
    | nil => exact absurd front Nat.toDigits_ne_nil
    | cons c more =>
      rw [front, List.cons_append] at e
      obtain ⟨rfl, behind⟩ := List.cons.inj e
      rw [toDigits_head front, List.nil_append] at behind
      rw [toDigits_head front, behind]
  · dsimp only
    rw [taken, left, if_neg (by simp [Nat.toDigits_ne_nil])]

/-- The digits of an integer, behind its sign, read back as that integer. -/
theorem numberRest_toDigits (stops : Stops endsValue rest) {n : Nat}
    (fits : (Nat.toDigits 10 n).length ≤ digitLimit) :
    numberRest negative (Nat.toDigits 10 n ++ rest) =
      .ok (.int (if negative then -(n : Int) else n), rest) := by
  have fraction : takeFraction rest = ([], rest) := takeFraction_append stops []
  have exponent : takeExponent rest = (none, rest) := takeExponent_append stops []
  simp only [numberRest, takeWhole_toDigits stops, fraction, exponent, ofDigits_toDigits]
  rw [if_pos (by rfl), if_neg (by omega)]

theorem value_digit {c : Char} (digit : c.isDigit) (fuel room : Nat) (cs : List Char) :
    value (fuel + 1) room (c :: cs) = numberRest false (c :: cs) := by
  have other : ∀ d : Char, d.isDigit = false → c ≠ d := by
    rintro d no rfl
    rw [no] at digit
    cases digit
  unfold value
  dsimp only
  rw [if_neg (other _ rfl), if_neg (other _ rfl), if_neg (other _ rfl), if_neg (other _ rfl),
    if_neg (other _ rfl), if_neg (other _ rfl), if_neg (other _ rfl), if_neg (other _ rfl),
    if_neg (other _ rfl)]

theorem value_minus {c : Char} (word : c ≠ 'I') (fuel room : Nat) (cs : List Char) :
    value (fuel + 1) room ('-' :: c :: cs) = numberRest true (c :: cs) := by
  unfold value
  simp only [Char.reduceEq, ↓reduceIte]
  split
  · rename_i e
    exact absurd (List.cons.inj e).1 word
  · rfl

/-- An integer is read inside a document. -/
theorem value_int (stops : Stops endsValue rest) {n : Int}
    (fits : (Nat.toDigits 10 n.natAbs).length ≤ digitLimit) (fuel room : Nat) :
    value (fuel + 1) room (chars (.int n) ++ rest) = .ok (.int n, rest) := by
  have digits : ∀ c ∈ Nat.toDigits 10 n.natAbs, c.isDigit := digits_toDigits _
  have read : ∀ negative, numberRest negative (Nat.toDigits 10 n.natAbs ++ rest) = _ :=
    fun _ => numberRest_toDigits stops fits
  show value (fuel + 1) room (intChars n ++ rest) = _
  rw [intChars]
  cases front : Nat.toDigits 10 n.natAbs with
  | nil => exact absurd front Nat.toDigits_ne_nil
  | cons c more =>
    rw [front] at digits read
    have digit := digits c List.mem_cons_self
    by_cases negative : n < 0
    · have word : c ≠ 'I' := by
        rintro rfl
        cases digit
      rw [if_pos negative, List.append_assoc]
      show value (fuel + 1) room ('-' :: c :: (more ++ rest)) = _
      rw [value_minus word, ← List.cons_append, read, if_pos rfl]
      rw [show -(n.natAbs : Int) = n by omega]
    · rw [if_neg negative, List.nil_append, List.cons_append, value_digit digit, ← List.cons_append,
        read, if_neg (by decide), show (n.natAbs : Int) = n by omega]

/-! ## Doubles -/

/-- The text of a double is read as that double. -/
def ReadsBack (x : Float) : Prop := parse (documentStyle.write x) = .ok (.float x)

/-- The characters that texts of doubles are made of. -/
def floatChars : List Char := digitChars ++ "+-.INafinty".toList

theorem mem_floatChars_of_mem_toDigits {base n : Nat} {c : Char} (two : 1 < base)
    (mem : c ∈ Nat.toDigits base n) : c ∈ floatChars := by
  by_contra other
  exact notMem_toDigits two (fun digit => other (List.mem_append_left _ digit)) mem

theorem mem_floatChars_of_mem_padded {width n : Nat} {c : Char} (mem : c ∈ padded width n) :
    c ∈ floatChars := by
  by_contra other
  exact notMem_padded (fun digit => other (List.mem_append_left _ digit)) width n mem

theorem mem_significant {d : Decimal} {c : Char} (mem : c ∈ d.significant.1) : c ∈ floatChars := by
  unfold Decimal.significant at mem
  dsimp only at mem
  split at mem
  · obtain rfl := List.mem_singleton.mp mem
    decide
  · have kept := (List.dropWhile_suffix _).subset (List.mem_reverse.mp mem)
    exact mem_floatChars_of_mem_toDigits (by decide) (List.mem_reverse.mp kept)

theorem mem_positional {ds : List Char} {place : Int} {c : Char} (mem : c ∈ positional ds place) :
    c ∈ ds ∨ c ∈ floatChars := by
  unfold positional at mem
  split at mem
  · simp only [List.mem_cons, List.mem_append, List.mem_replicate] at mem
    rcases mem with rfl | rfl | ⟨-, rfl⟩ | mem
    · exact .inr (by decide)
    · exact .inr (by decide)
    · exact .inr (by decide)
    · exact .inl mem
  · simp only [List.mem_cons, List.mem_append, List.mem_replicate] at mem
    rcases mem with (mem | ⟨-, rfl⟩) | rfl | mem
    · exact .inl (List.mem_of_mem_take mem)
    · exact .inr (by decide)
    · exact .inr (by decide)
    · split at mem
      · obtain rfl := List.mem_singleton.mp mem
        exact .inr (by decide)
      · exact .inl (List.mem_of_mem_drop mem)

theorem mem_scientific {width : Nat} {ds : List Char} {place : Int} {c : Char}
    (mem : c ∈ scientific width ds place) : c ∈ ds ∨ c ∈ floatChars := by
  unfold scientific at mem
  simp only [List.mem_append, List.mem_cons, List.not_mem_nil, or_false] at mem
  rcases mem with ((mem | mem) | rfl | mark) | mem
  · exact .inl (List.mem_of_mem_take mem)
  · split at mem
    · cases mem
    · rcases List.mem_cons.mp mem with rfl | mem
      · exact .inr (by decide)
      · exact .inl (List.mem_of_mem_drop mem)
  · exact .inr (by decide)
  · split at mark <;> subst mark <;> exact .inr (by decide)
  · exact .inr (mem_floatChars_of_mem_padded mem)

theorem mem_write {x : Float} {c : Char} (mem : c ∈ (documentStyle.write x).toList) :
    c ∈ floatChars := by
  have sign : ∀ c ∈ (if signed x then ['-'] else []), c ∈ floatChars := by
    intro c mem
    split at mem
    · obtain rfl := List.mem_singleton.mp mem
      decide
    · cases mem
  have infinite : ∀ c ∈ documentStyle.infinite.toList, c ∈ floatChars :=
    Text.forall_mem_of_all (by decide)
  have nothing : ∀ c ∈ documentStyle.notANumber.toList, c ∈ floatChars :=
    Text.forall_mem_of_all (by decide)
  unfold FloatStyle.write at mem
  dsimp only at mem
  split at mem
  · split at mem
    · exact nothing c mem
    · rw [String.toList_append, String.toList_ofList, List.mem_append] at mem
      exact mem.elim (sign c) (infinite c)
  · split at mem
    · rw [String.toList_ofList, List.mem_append] at mem
      refine mem.elim (sign c) fun mem => ?_
      have zero : ∀ c ∈ ['0', '.', '0'], c ∈ floatChars := Text.forall_mem_of_all (by decide)
      exact zero c mem
    · rename_i b _ _
      have digits : ∀ c ∈ (shortest b).significant.1, c ∈ floatChars := fun c => mem_significant
      rw [String.toList_ofList, List.mem_append] at mem
      refine mem.elim (sign c) fun mem => ?_
      split at mem
      · exact (mem_positional mem).elim (digits c) id
      · exact (mem_scientific mem).elim (digits c) id

/-- What is read behind a minus sign is read from it with more behind it. -/
theorem value_append_of_minus (stops : Stops endsValue rest) {fuel room : Nat} {v : Json}
    (h : value (fuel + 1) room ('-' :: cs) = .ok (v, r)) (fuel' room' : Nat) :
    value (fuel' + 1) room' ('-' :: (cs ++ rest)) = .ok (v, r ++ rest) ∧ r <:+ '-' :: cs := by
  cases cs with
  | nil => cases h
  | cons c cs =>
    by_cases word : c = 'I'
    · subst word
      exact wordValue_more h
    · rw [value_minus word] at h
      rw [List.cons_append, value_minus word]
      exact ⟨numberRest_append stops h, (numberRest_suffix h).trans (List.suffix_cons '-' _)⟩

/-- A double that is read from a text alone is read from it with more behind it. -/
theorem value_append_of_float (stops : Stops endsValue rest) {fuel room : Nat} {x : Float}
    (h : value fuel room cs = .ok (.float x, r)) (fuel' room' : Nat) :
    value (fuel' + 1) room' (cs ++ rest) = .ok (.float x, r ++ rest) ∧ r <:+ cs := by
  cases fuel with
  | zero => cases h
  | succ fuel =>
    cases cs with
    | nil => cases h
    | cons c cs =>
      rw [List.cons_append]
      by_cases minus : c = '-'
      · subst minus
        exact value_append_of_minus stops h fuel' room'
      -- every mark but three begins a value of another kind
      unfold value at h ⊢
      dsimp only at h ⊢
      split_ifs at h with quote brace full bracket full' n t f nan infinity
      · split at h <;> cases h
      · split at h
        · cases h
        · split at h <;> cases h
      · split at h
        · cases h
        · split at h <;> cases h
      · exact absurd (wordValue_eq_ok h).1 (by simp)
      · exact absurd (wordValue_eq_ok h).1 (by simp)
      · exact absurd (wordValue_eq_ok h).1 (by simp)
      · rw [if_neg quote, if_neg brace, if_neg bracket, if_neg n, if_neg t, if_neg f, if_pos nan]
        exact wordValue_more h
      · rw [if_neg quote, if_neg brace, if_neg bracket, if_neg n, if_neg t, if_neg f, if_neg nan,
          if_pos infinity]
        exact wordValue_more h
      · rw [if_neg quote, if_neg brace, if_neg bracket, if_neg n, if_neg t, if_neg f, if_neg nan,
          if_neg infinity, if_neg minus]
        exact ⟨numberRest_append stops h, numberRest_suffix h⟩

/-- A double whose text reads back is read inside a document. -/
theorem value_float (stops : Stops endsValue rest) {x : Float} (back : ReadsBack x)
    (fuel room : Nat) :
    value (fuel + 1) room (chars (.float x) ++ rest) = .ok (.float x, rest) := by
  have gapless : ∀ cs : List Char, cs ⊆ (documentStyle.write x).toList → skipGap cs = cs := by
    intro cs sub
    cases cs with
    | nil => rfl
    | cons c cs =>
      have none : ∀ d ∈ floatChars, isGap d = false := Text.forall_mem_of_all (by decide)
      have head : isGap c = false := none c (mem_write (sub List.mem_cons_self))
      simp [skipGap, head]
  have own : skipGap (documentStyle.write x).toList = (documentStyle.write x).toList :=
    gapless _ (List.Subset.refl _)
  unfold ReadsBack parse parseChars at back
  rw [own] at back
  split at back
  · cases back
  · rename_i v r read
    split at back
    · rename_i all
      obtain rfl := Except.ok.inj back
      obtain ⟨inside, left⟩ := value_append_of_float stops read fuel room
      rw [gapless r left.subset, List.isEmpty_iff] at all
      rw [all, List.nil_append] at inside
      exact inside
    · cases back

end IndexExplorer.Json
