import IndexExplorer.Number.Read
import IndexExplorer.Number.Shortest
import Mathlib.Data.List.Induction
import Mathlib.Tactic.Ring

/-!
The digits of natural numbers.

* `ofDigits_append`, `ofDigits_lt`: the value of digits, and how large it is;
* `ofDigits_toDigits`, `ofDigits_padded`: the digits of a number have its value;
* `toDigits_head`: only zero begins with one.
-/
namespace IndexExplorer.Number

theorem ofDigits_concat (ds : List Char) (c : Char) :
    ofDigits (ds ++ [c]) = ofDigits ds * 10 + (c.toNat - 48) := by
  simp [ofDigits]

theorem ofDigits_append (ds more : List Char) :
    ofDigits (ds ++ more) = ofDigits ds * 10 ^ more.length + ofDigits more := by
  induction more using List.reverseRecOn with
  | nil => simp [ofDigits]
  | append_singleton more c ih =>
    rw [← List.append_assoc, ofDigits_concat, ih, ofDigits_concat, List.length_append,
      List.length_singleton, Nat.pow_succ]
    ring

theorem ofDigits_zeros (n : Nat) : ofDigits (List.replicate n '0') = 0 := by
  induction n with
  | zero => rfl
  | succ n ih => rw [List.replicate_succ', ofDigits_concat, ih]; rfl

theorem ofDigits_lt {ds : List Char} (digits : ∀ c ∈ ds, c.isDigit) :
    ofDigits ds < 10 ^ ds.length := by
  induction ds using List.reverseRecOn with
  | nil => decide
  | append_singleton ds c ih =>
    have front := ih fun d mem => digits d (List.mem_append_left _ mem)
    have digit := digits c (List.mem_append_right _ List.mem_cons_self)
    have small : c.toNat ≤ 57 := by
      simp only [Char.isDigit, Bool.and_eq_true, decide_eq_true_eq] at digit
      exact digit.2
    rw [ofDigits_concat, List.length_append, List.length_singleton, Nat.pow_succ]
    omega

/-- The digits of a number have its value. -/
theorem ofDigits_toDigits (n : Nat) : ofDigits (Nat.toDigits 10 n) = n := by
  have same : ∀ ds, ofDigits ds = Nat.ofDigitChars 10 ds 0 := by
    intro ds
    rw [Nat.ofDigitChars_eq_foldl, ofDigits]
    simp only [Nat.mul_comm 10]
    rfl
  rw [same, Nat.ofDigitChars_toDigits (by decide) (by decide)]

/-- Only zero begins with one. -/
theorem toDigits_head {n : Nat} {tail : List Char} (h : Nat.toDigits 10 n = '0' :: tail) :
    tail = [] := by
  induction n using Nat.strongRecOn generalizing tail with
  | _ n ih =>
    rw [Nat.toDigits_eq_if (by decide)] at h
    split at h
    · exact (List.cons.inj h).2.symm
    · rename_i big
      cases front : Nat.toDigits 10 (n / 10) with
      | nil => exact absurd front Nat.toDigits_ne_nil
      | cons c more =>
        rw [front, List.cons_append] at h
        obtain ⟨rfl, -⟩ := List.cons.inj h
        -- the digits in front would be those of zero
        have zero := ih (n / 10) (by omega) front
        have none : n / 10 = 0 := by rw [← ofDigits_toDigits (n / 10), front, zero]; rfl
        omega

theorem digits_toDigits (n : Nat) : ∀ c ∈ Nat.toDigits 10 n, c.isDigit := fun _ mem =>
  Nat.isDigit_of_mem_toDigits (by decide) (by decide) mem

theorem digits_padded (width n : Nat) : ∀ c ∈ padded width n, c.isDigit := by
  intro c mem
  rcases List.mem_append.mp mem with zero | own
  · rw [(List.mem_replicate.mp zero).2]
    decide
  · exact digits_toDigits n c own

theorem padded_ne_nil (width n : Nat) : padded width n ≠ [] :=
  List.append_ne_nil_of_right_ne_nil _ Nat.toDigits_ne_nil

theorem ofDigits_padded (width n : Nat) : ofDigits (padded width n) = n := by
  rw [padded, ofDigits_append, ofDigits_zeros, ofDigits_toDigits, Nat.zero_mul, Nat.zero_add]

end IndexExplorer.Number
