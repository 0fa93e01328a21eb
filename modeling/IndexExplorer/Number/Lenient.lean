import IndexExplorer.Number.Read

/-!
Reading an integer from the text of a field.

An integer in the form of JSON is read as it stands. What is no such integer is tidied first: blanks
around it, a plus sign, zeros in front, a point with zeros only behind it and single underscores go.
What is left has to be an integer in the form of JSON, of any size that is not refused for its
length.

* `length_stripZeros`, `length_stripFraction`: tidying adds nothing.
-/
namespace IndexExplorer.Number.Lenient

/-- Blanks that may surround a numeral. -/
def isSpace (c : Char) : Bool :=
  let n := c.toNat
  Text.isBlank c && !(0x1c ≤ n && n ≤ 0x1f)

/-- The text without the blanks around it. -/
def trimmed (s : String) : List Char := Text.trimWhile isSpace s.toList

/-- An integer in the form of JSON: neither a plus sign nor zeros in front of other digits. -/
def plain (cs : List Char) : Except IntFault Int :=
  let (negative, ds) := match cs with
    | '-' :: ds => (true, ds)
    | ds => (false, ds)
  let run := ds.takeWhile Char.isDigit
  let size := run.length + if negative then 1 else 0
  if 1 < run.length && run.head? = some '0' then .error .malformed
  else if digitLimit < size then .error (.tooLong size)
  else if run.isEmpty || run.length < ds.length then .error .malformed
  else
    let n : Int := ofDigits run
    .ok (if negative then -n else n)

/-- A digit that a number may begin with. -/
def isLeading (c : Char) : Bool := '1' ≤ c && c ≤ '9'

/-- What follows zeros and underscores, of which `last` is the last so far. It begins with a
number, which may have a minus sign; in front of a point, or of nothing, the last one is kept. -/
def stripAfter (last : Char) : List Char → Option (List Char)
  | [] => some [last]
  | c :: rest =>
    if c = '0' || c = '_' then stripAfter c rest
    else if isLeading c || c = '-' then some (c :: rest)
    else if c = '.' then some (last :: c :: rest)
    else none

/-- A numeral without the zeros in front of it. -/
def stripZeros : List Char → Option (List Char)
  | [] => none
  | c :: rest =>
    if c = '0' then stripAfter c rest
    else if isLeading c then some (c :: rest)
    else none

/-- A numeral without a point behind which there are zeros only, and at least one. -/
def stripFraction (cs : List Char) : List Char :=
  match cs.dropWhile (· ≠ '.') with
  | '.' :: zero :: zeros =>
    if (zero :: zeros).all (· = '0') then cs.takeWhile (· ≠ '.') else cs
  | _ => cs

/-- Two underscores stand next to each other. -/
def hasDouble : List Char → Bool
  | '_' :: '_' :: _ => true
  | _ :: cs => hasDouble cs
  | [] => false

/-- A text without its underscores, when it has some and none is doubled, first or last. -/
def withoutMarks? (cs : List Char) : Option (List Char) :=
  if cs.contains '_' && cs.head? != some '_' && cs.getLast? != some '_' && !hasDouble cs then
    some (cs.filter (· ≠ '_'))
  else none

/-- A numeral without a sign in its plain form. -/
def tidiedSize? (cs : List Char) : Option (List Char) :=
  (stripZeros cs).map fun kept =>
    let kept := stripFraction kept
    (withoutMarks? kept).getD kept

/-- A numeral in its plain form. -/
def tidied? (s : String) : Option (List Char) :=
  match trimmed s with
  | '+' :: size => tidiedSize? size
  | '-' :: size => (tidiedSize? size).map ('-' :: ·)
  | size => tidiedSize? size

/-- The integer that the text of a field spells. -/
def readInt (s : String) : Except IntFault Int :=
  match plain s.toList with
  | .error .malformed =>
    match tidied? s with
    | some cs => plain cs
    | none => .error .malformed
  | r => r

theorem length_stripAfter {last : Char} {cs kept : List Char}
    (h : stripAfter last cs = some kept) : kept.length ≤ cs.length + 1 := by
  induction cs generalizing last with
  | nil =>
    simp only [stripAfter, Option.some.injEq] at h
    simp [← h]
  | cons c rest ih =>
    simp only [stripAfter] at h
    split at h
    · exact Nat.le_succ_of_le (ih h)
    · split at h
      · simp only [Option.some.injEq] at h
        simp [← h]
      · split at h
        · simp only [Option.some.injEq] at h
          simp [← h]
        · exact absurd h (by simp)

theorem length_stripZeros {cs kept : List Char} (h : stripZeros cs = some kept) :
    kept.length ≤ cs.length := by
  cases cs with
  | nil => simp [stripZeros] at h
  | cons c rest =>
    simp only [stripZeros] at h
    split at h
    · exact length_stripAfter h
    · split at h
      · simp only [Option.some.injEq] at h
        simp [← h]
      · exact absurd h (by simp)

theorem length_stripFraction (cs : List Char) : (stripFraction cs).length ≤ cs.length := by
  unfold stripFraction
  split
  · split
    · exact (List.takeWhile_prefix _).length_le
    · exact Nat.le_refl _
  · exact Nat.le_refl _

end IndexExplorer.Number.Lenient
