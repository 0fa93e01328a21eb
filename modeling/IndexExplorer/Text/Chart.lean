/-!
Charts of characters that are found by two bytes.

A chart is written row by row. A row holds the characters of neighbouring places, with a point
where a place has none.

* `mem_lacking`: what `lacking` gives is in the range and not marked, and nothing else is left out.
-/
namespace IndexExplorer.Text

/-- The characters of neighbouring places with the same first byte, and the second byte of the
first of them. -/
structure ChartRow where
  lead : Nat
  first : Nat
  cells : String
deriving DecidableEq, Repr

/-- Characters by two bytes. -/
abbrev Chart := List ChartRow

namespace Chart

/-- The character of a place, if it has one. -/
def char? (chart : Chart) (lead second : Nat) : Option Char :=
  chart.findSome? fun row =>
    if row.lead = lead ∧ row.first ≤ second then
      row.cells.toList[second - row.first]?.filter (· ≠ '.')
    else none

/-- The character of a place that is told by two bytes with the highest bit set in each. -/
def highChar? (chart : Chart) (a b : Nat) : Option Char :=
  if 0x80 ≤ a ∧ 0x80 ≤ b then chart.char? (a - 0x80) (b - 0x80) else none

/-- All characters of a chart. -/
def chars (chart : Chart) : List Char :=
  chart.flatMap fun row => row.cells.toList.filter (· ≠ '.')

/-- For each number below 65536, whether it is the number of one of the characters. -/
def marks (present : List Char) : Array Bool :=
  present.foldl (fun m c => m.setIfInBounds c.toNat true) (Array.replicate 65536 false)

/-- The numbers from `first` to `last` that are of none of the characters. -/
def lacking (present : List Char) (first last : Nat) : List Nat :=
  let marks := marks present
  (List.range' first (last + 1 - first)).filter fun n => !marks[n]?.getD false

theorem mem_lacking {present : List Char} {first last n : Nat} :
    n ∈ lacking present first last ↔
      (first ≤ n ∧ n ≤ last) ∧ (marks present)[n]?.getD false = false := by
  simp only [lacking, List.mem_filter, List.mem_range'_1, Bool.not_eq_true']
  constructor
  · rintro ⟨⟨h, k⟩, m⟩
    exact ⟨⟨h, by omega⟩, m⟩
  · rintro ⟨⟨h, k⟩, m⟩
    exact ⟨⟨h, by omega⟩, m⟩

end Chart

end IndexExplorer.Text
