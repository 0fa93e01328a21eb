/-!
White space: which characters are blank, and trimming them from the ends of a text.

* `not_of_head?_trimWhile`, `not_of_getLast?_dropEndWhile`: what is left neither begins nor ends
  with what was trimmed;
* `trimWhile_idem`: trimming again changes nothing.
-/
namespace IndexExplorer.Text

/-- The characters that Unicode counts as white space or as line and field separators. -/
def isBlank (c : Char) : Bool :=
  let n := c.toNat
  (0x09 ≤ n && n ≤ 0x0d) || (0x1c ≤ n && n ≤ 0x20) || n == 0x85 || n == 0xa0 || n == 0x1680 ||
    (0x2000 ≤ n && n ≤ 0x200a) || n == 0x2028 || n == 0x2029 || n == 0x202f || n == 0x205f ||
    n == 0x3000

/-- Drops the longest end of `cs` on which `p` holds. -/
def dropEndWhile (p : Char → Bool) (cs : List Char) : List Char :=
  (cs.reverse.dropWhile p).reverse

/-- Drops what `p` holds on from both ends. -/
def trimWhile (p : Char → Bool) (cs : List Char) : List Char :=
  dropEndWhile p (cs.dropWhile p)

theorem dropWhile_idem (p : Char → Bool) (cs : List Char) :
    (cs.dropWhile p).dropWhile p = cs.dropWhile p := by
  have h := List.head?_dropWhile_not p cs
  cases t : cs.dropWhile p with
  | nil => rfl
  | cons c rest =>
    rw [t] at h
    have : p c = false := by simpa using h
    simp [this]

theorem dropEndWhile_idem (p : Char → Bool) (cs : List Char) :
    dropEndWhile p (dropEndWhile p cs) = dropEndWhile p cs := by
  simp [dropEndWhile, dropWhile_idem]

theorem dropEndWhile_prefix (p : Char → Bool) (cs : List Char) : dropEndWhile p cs <+: cs := by
  have h : cs.reverse.dropWhile p <:+ cs.reverse := List.dropWhile_suffix p
  simpa [dropEndWhile] using List.reverse_prefix.mpr h

theorem not_of_getLast?_dropEndWhile {p : Char → Bool} {cs : List Char} {c : Char}
    (h : (dropEndWhile p cs).getLast? = some c) : p c = false := by
  rw [dropEndWhile, List.getLast?_reverse] at h
  have := List.head?_dropWhile_not p cs.reverse
  rw [h] at this
  simpa using this

theorem not_of_head?_trimWhile {p : Char → Bool} {cs : List Char} {c : Char}
    (h : (trimWhile p cs).head? = some c) : p c = false := by
  have hd := List.head?_dropWhile_not p cs
  obtain ⟨rest, e⟩ := dropEndWhile_prefix p (cs.dropWhile p)
  cases t : dropEndWhile p (cs.dropWhile p) with
  | nil => simp [trimWhile, t] at h
  | cons a as =>
    have : a = c := by simpa [trimWhile, t] using h
    subst this
    rw [← e, t] at hd
    simpa using hd

theorem dropWhile_trimWhile (p : Char → Bool) (cs : List Char) :
    (trimWhile p cs).dropWhile p = trimWhile p cs := by
  cases t : trimWhile p cs with
  | nil => rfl
  | cons c rest =>
    have : p c = false := @not_of_head?_trimWhile p cs c (by simp [t])
    simp [this]

theorem trimWhile_idem (p : Char → Bool) (cs : List Char) :
    trimWhile p (trimWhile p cs) = trimWhile p cs := by
  rw [trimWhile, dropWhile_trimWhile, trimWhile, dropEndWhile_idem]

/-- The text without the blanks at its two ends. -/
def trim (s : String) : String := String.ofList (trimWhile isBlank s.toList)

/-- A text is blank when it is empty or has blanks only. -/
def blank (s : String) : Bool := s.toList.all isBlank

end IndexExplorer.Text
