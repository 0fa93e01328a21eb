import IndexExplorer.Text.Quoted

/-!
Text that has to be ASCII, and the report of where it is not.

* `NonAscii.find?_eq_none_iff`: there is nothing to report exactly when all characters are ASCII.
-/
namespace IndexExplorer.Text

/-- The character is one of ASCII. -/
def isAscii (c : Char) : Bool := c.toNat < 0x80

/-- The first run of characters that are not ASCII: its first character, where it begins, and how
many characters it has. -/
structure NonAscii where
  char : Char
  start : Nat
  count : Nat
deriving DecidableEq, Repr

namespace NonAscii

/-- The first run of characters that are not ASCII, when there is one. -/
def find? (cs : List Char) : Option NonAscii :=
  match cs.dropWhile isAscii with
  | [] => none
  | c :: rest =>
    some ⟨c, (cs.takeWhile isAscii).length, ((c :: rest).takeWhile (!isAscii ·)).length⟩

theorem find?_eq_none_iff {cs : List Char} : find? cs = none ↔ ∀ c ∈ cs, isAscii c = true := by
  rw [← List.all_eq_true]
  induction cs with
  | nil => simp [find?]
  | cons c cs ih =>
    by_cases h : isAscii c
    · have step : find? (c :: cs) = none ↔ find? cs = none := by
        simp only [find?, List.dropWhile_cons, h, ↓reduceIte]
        cases cs.dropWhile isAscii <;> simp
      simp [step, ih, h]
    · simp [find?, h]

/-- A character by its number. -/
def numbered (c : Char) : String :=
  let n := c.toNat
  String.ofList (
    if n < 0x100 then '\\' :: 'x' :: hex 2 n
    else if n < 0x10000 then '\\' :: 'u' :: hex 4 n
    else '\\' :: 'U' :: hex 8 n)

/-- What is said about text that is not ASCII. -/
def message (f : NonAscii) : String :=
  "'ascii' codec can't encode " ++
    (if f.count = 1 then
      "character '" ++ numbered f.char ++ "' in position " ++ toString f.start
    else
      "characters in position " ++ toString f.start ++ "-" ++
        toString (f.start + f.count - 1)) ++
    ": ordinal not in range(128)"

end NonAscii

end IndexExplorer.Text
