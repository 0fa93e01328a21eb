import IndexExplorer.Number.Shortest
import IndexExplorer.Text.Quoted
import IndexExplorer.Url.Ip
import Mathlib.Data.List.Infix

/-!
Taking texts apart again that were put together from parts.

* `splitAt_intercalate`: parts without the separator are found again between the separators;
* `exists_intercalate`, `eq_of_intercalate`: a part that changes changes what is put together, and
  nothing else of it;
* `cutLast?_append`: a text is cut at a mark that does not occur again behind it;
* `notMem_hex`, `notMem_padded`, `notMem_toString_int`: a character that is no digit does not stand
  in a number.
-/
namespace IndexExplorer

namespace Ip

theorem splitAt_of_notMem {sep : Char} {cs : List Char} (h : sep ∉ cs) :
    splitAt sep cs = [cs] := by
  induction cs with
  | nil => rfl
  | cons c cs ih =>
    have first : c ≠ sep := fun e => h (e ▸ List.mem_cons_self)
    have rest : sep ∉ cs := fun mem => h (List.mem_cons_of_mem c mem)
    simp [splitAt, first, ih rest]

/-- What stands before a separator and what stands behind it are split on their own. -/
theorem splitAt_append_sep (sep : Char) (cs rest : List Char) :
    splitAt sep (cs ++ sep :: rest) = splitAt sep cs ++ splitAt sep rest := by
  induction cs with
  | nil => simp [splitAt]
  | cons c cs ih =>
    obtain ⟨part, parts, e⟩ := List.exists_cons_of_ne_nil (splitAt_ne_nil sep cs)
    by_cases first : c = sep
    · simp [splitAt, first, ih]
    · simp [splitAt, first, ih, e]

theorem length_le_of_mem_splitAt {sep : Char} {cs part : List Char} (mem : part ∈ splitAt sep cs) :
    part.length ≤ cs.length := by
  induction cs generalizing part with
  | nil =>
    obtain rfl := List.mem_singleton.mp mem
    exact Nat.le_refl _
  | cons c cs ih =>
    obtain ⟨first, rest, parts⟩ := List.exists_cons_of_ne_nil (splitAt_ne_nil sep cs)
    by_cases h : c = sep
    · simp only [splitAt, h, ↓reduceIte, List.mem_cons] at mem
      rcases mem with rfl | mem
      · exact Nat.zero_le _
      · exact Nat.le_succ_of_le (ih mem)
    · simp only [splitAt, h, ↓reduceIte, parts, List.mem_cons] at mem
      rcases mem with rfl | mem
      · exact Nat.succ_le_succ (ih (by simp [parts]))
      · exact Nat.le_succ_of_le (ih (by simp [parts, mem]))

/-- With a separator in it a text is longer than its parts. -/
theorem length_lt_of_mem_splitAt {sep : Char} {cs part : List Char} (divided : sep ∈ cs)
    (mem : part ∈ splitAt sep cs) : part.length < cs.length := by
  obtain ⟨front, back, rfl⟩ := List.append_of_mem divided
  rw [splitAt_append_sep] at mem
  rw [List.length_append, List.length_cons]
  rcases List.mem_append.mp mem with mem | mem
  · have := length_le_of_mem_splitAt mem
    omega
  · have := length_le_of_mem_splitAt mem
    omega

theorem splitAt_intercalate {sep : Char} {parts : List (List Char)}
    (h : ∀ part ∈ parts, sep ∉ part) (some : parts ≠ []) :
    splitAt sep ([sep].intercalate parts) = parts := by
  induction parts with
  | nil => exact absurd rfl some
  | cons part parts ih =>
    have first : sep ∉ part := h part List.mem_cons_self
    have later : ∀ p ∈ parts, sep ∉ p := fun p mem => h p (List.mem_cons_of_mem part mem)
    cases parts with
    | nil => simpa using splitAt_of_notMem first
    | cons next parts =>
      have split := ih later (List.cons_ne_nil next parts)
      calc splitAt sep ([sep].intercalate (part :: next :: parts))
          = splitAt sep (part ++ sep :: [sep].intercalate (next :: parts)) := by
            rw [List.intercalate_cons_cons, List.append_assoc]
            rfl
        _ = [part] ++ (next :: parts) := by
            rw [splitAt_append_sep, splitAt_of_notMem first, split]

end Ip

namespace Text

theorem notMem_intercalate {c : Char} {sep : List Char} {parts : List (List Char)}
    (between : c ∉ sep) (h : ∀ part ∈ parts, c ∉ part) : c ∉ sep.intercalate parts := by
  induction parts with
  | nil => simp
  | cons part parts ih =>
    have first : c ∉ part := h part List.mem_cons_self
    have later : ∀ p ∈ parts, c ∉ p := fun p mem => h p (List.mem_cons_of_mem part mem)
    cases parts with
    | nil => simpa using first
    | cons next parts =>
      rw [List.intercalate_cons_cons, List.mem_append, List.mem_append, not_or, not_or]
      exact ⟨⟨first, between⟩, ih later⟩

/-- A part stands as it is in what is put together, and what stands around it does not depend on
it. -/
theorem exists_intercalate (sep : String) (front back : List String) :
    ∃ before after : String, ∀ part,
      sep.intercalate (front ++ part :: back) = before ++ part ++ after := by
  have behind : ∀ x : String, sep.intercalate (x :: back) = x ++ sep.intercalate ("" :: back) := by
    intro x
    rw [← String.intercalate_cons_append, String.append_empty]
  cases front with
  | nil => exact ⟨"", _, fun part => by rw [List.nil_append, behind, String.empty_append]⟩
  | cons first front =>
    refine ⟨sep.intercalate (first :: front) ++ sep, sep.intercalate ("" :: back), fun part => ?_⟩
    rw [String.intercalate_append_of_ne_nil (List.cons_ne_nil _ _) (List.cons_ne_nil _ _), behind]
    simp only [String.append_assoc]

/-- Texts that are put together alike but for one part are equal only when this part is. -/
theorem eq_of_intercalate {sep a b : String} (front back : List String)
    (same : sep.intercalate (front ++ a :: back) = sep.intercalate (front ++ b :: back)) :
    a = b := by
  obtain ⟨before, after, around⟩ := exists_intercalate sep front back
  rw [around, around] at same
  exact (String.append_right_inj _).mp ((String.append_left_inj _).mp same)

/-! ## Cutting at the last place of a mark -/

/-- The text before the last place where a mark stands, and the text behind the mark. -/
def cutLast? (mark : List Char) : List Char → Option (List Char × List Char)
  | [] => if mark.isPrefixOf [] then some ([], []) else none
  | c :: cs =>
    match cutLast? mark cs with
    | some (front, back) => some (c :: front, back)
    | none => if mark.isPrefixOf (c :: cs) then some ([], (c :: cs).drop mark.length) else none

theorem cutLast?_eq_none {mark cs : List Char} (h : ¬ mark <:+: cs) : cutLast? mark cs = none := by
  induction cs with
  | nil =>
    have here : ¬ mark <+: [] := fun p => h p.isInfix
    simp [cutLast?, List.isPrefixOf_iff_prefix, here]
  | cons c cs ih =>
    have here : ¬ mark <+: c :: cs := fun p => h p.isInfix
    have later : ¬ mark <:+: cs := fun p => h (p.trans (List.suffix_cons c cs).isInfix)
    simp [cutLast?, ih later, List.isPrefixOf_iff_prefix, here]

/-- In front of a text there is no place for a mark that begins with a character missing there. -/
theorem not_infix_append {c : Char} {tail back : List Char}
    (last : ¬ c :: tail <:+: back) (front : List Char) (h : c ∉ front) :
    ¬ c :: tail <:+: front ++ back := by
  induction front with
  | nil => exact last
  | cons d front ih =>
    have first : d ≠ c := fun e => h (e ▸ List.mem_cons_self)
    have later : c ∉ front := fun mem => h (List.mem_cons_of_mem d mem)
    intro inside
    rcases List.infix_cons_iff.mp inside with here | inside
    · obtain ⟨rest, e⟩ := here
      exact first (List.cons.inj e).1.symm
    · exact ih later inside

theorem cutLast?_append {c : Char} {tail back : List Char} (once : c ∉ tail)
    (last : ¬ c :: tail <:+: back) (front : List Char) :
    cutLast? (c :: tail) (front ++ (c :: tail ++ back)) = some (front, back) := by
  induction front with
  | nil =>
    have none_later : cutLast? (c :: tail) (tail ++ back) = none :=
      cutLast?_eq_none (not_infix_append last tail once)
    have here : (c :: tail).isPrefixOf (c :: (tail ++ back)) = true :=
      List.isPrefixOf_iff_prefix.mpr ⟨back, rfl⟩
    simp only [List.nil_append, List.cons_append, cutLast?, none_later, here, ↓reduceIte,
      List.length_cons, List.drop_succ_cons, List.drop_left]
  | cons d front ih => simp only [List.cons_append, cutLast?] at ih ⊢; rw [ih]

/-! ## Digits -/

/-- The characters that stand in numbers, and the one that stands where there is no digit. -/
def digitChars : List Char := "0123456789abcdef*".toList

theorem digitChar_mem_digitChars (d : Nat) : Nat.digitChar d ∈ digitChars := by
  by_cases small : d < 16
  · have all : ∀ d < 16, Nat.digitChar d ∈ digitChars := by decide
    exact all d small
  · have e : Nat.digitChar d = '*' := by
      unfold Nat.digitChar
      repeat rw [if_neg (by omega)]
    rw [e]
    decide

/-- A character that is no digit does not stand in a number. -/
theorem notMem_toDigits {base n : Nat} {c : Char} (two : 1 < base) (h : c ∉ digitChars) :
    c ∉ Nat.toDigits base n := by
  induction n using Nat.strongRecOn with
  | _ n ih =>
    have other : ∀ d, c ≠ Nat.digitChar d := fun d e => h (e ▸ digitChar_mem_digitChars d)
    rw [Nat.toDigits_eq_if two]
    split
    · exact fun mem => other n (List.mem_singleton.mp mem)
    · rename_i big
      rw [List.mem_append, List.mem_singleton, not_or]
      exact ⟨ih (n / base) (Nat.div_lt_self (by omega) two), other (n % base)⟩

/-- Nor does it stand in one that is filled up with zeros. -/
theorem notMem_filled {base n : Nat} {c : Char} (two : 1 < base) (h : c ∉ digitChars)
    (missing : Nat) : c ∉ List.replicate missing '0' ++ Nat.toDigits base n := by
  rw [List.mem_append, List.mem_replicate, not_or]
  refine ⟨?_, notMem_toDigits two h⟩
  rintro ⟨-, rfl⟩
  exact h (by decide)

theorem notMem_hex {c : Char} (h : c ∉ digitChars) (width n : Nat) : c ∉ hex width n :=
  notMem_filled (by decide) h _

theorem notMem_padded {c : Char} (h : c ∉ digitChars) (width n : Nat) :
    c ∉ Number.padded width n := notMem_filled (by decide) h _

theorem notMem_toString_int {c : Char} (h : c ∉ digitChars) (minus : c ≠ '-') (n : Int) :
    c ∉ (toString n).toList := by
  cases n with
  | ofNat n =>
    have e : (toString (Int.ofNat n)).toList = Nat.toDigits 10 n := by
      simp [toString, Int.repr, Nat.repr]
    rw [e]
    exact notMem_toDigits (by decide) h
  | negSucc n =>
    have e : (toString (Int.negSucc n)).toList = '-' :: Nat.toDigits 10 (n + 1) := by
      simp [toString, Int.repr, Nat.repr]
    rw [e, List.mem_cons, not_or]
    exact ⟨minus, notMem_toDigits (by decide) h⟩

end Text

end IndexExplorer
