import IndexExplorer.Text.Quoted

/-!
Addresses written as numbers: which texts are IPv4 and IPv6 addresses.

* `intercalate_splitAt`, `not_mem_of_mem_splitAt`: splitting loses nothing, and no part has a
  separator in it.
-/
namespace IndexExplorer.Ip

/-- The parts of a text between the separators. -/
def splitAt (sep : Char) : List Char → List (List Char)
  | [] => [[]]
  | c :: cs =>
    if c = sep then [] :: splitAt sep cs
    else match splitAt sep cs with
      | part :: parts => (c :: part) :: parts
      | [] => [[c]]

theorem splitAt_ne_nil (sep : Char) (cs : List Char) : splitAt sep cs ≠ [] := by
  cases cs with
  | nil => simp [splitAt]
  | cons c cs =>
    by_cases h : c = sep
    · simp [splitAt, h]
    · cases e : splitAt sep cs <;> simp [splitAt, h, e]

/-- The parts with the separators between them are the text again. -/
theorem intercalate_splitAt (sep : Char) (cs : List Char) :
    [sep].intercalate (splitAt sep cs) = cs := by
  induction cs with
  | nil => simp [splitAt]
  | cons c cs ih =>
    obtain ⟨p, ps, e⟩ := List.exists_cons_of_ne_nil (splitAt_ne_nil sep cs)
    rw [e] at ih
    by_cases h : c = sep
    · simpa [splitAt, h, e] using ih
    · cases ps with
      | nil => simpa [splitAt, h, e] using ih
      | cons q qs => simpa [splitAt, h, e] using ih

/-- No part has a separator in it. -/
theorem not_mem_of_mem_splitAt {sep : Char} {cs part : List Char} (h : part ∈ splitAt sep cs) :
    sep ∉ part := by
  induction cs generalizing part with
  | nil => simp_all [splitAt]
  | cons c cs ih =>
    obtain ⟨p, ps, es⟩ := List.exists_cons_of_ne_nil (splitAt_ne_nil sep cs)
    by_cases e : c = sep
    · simp only [splitAt, e, ↓reduceIte, List.mem_cons] at h
      rcases h with rfl | h
      · simp
      · exact ih h
    · simp only [splitAt, e, ↓reduceIte, es, List.mem_cons] at h
      rcases h with rfl | h
      · have : sep ∉ p := ih (by simp [es])
        simpa [Ne.symm e] using this
      · exact ih (by simp [es, h])

/-- A number below 256 in decimal, without a zero in front. -/
def isOctet (cs : List Char) : Bool :=
  !cs.isEmpty && cs.all Char.isDigit && cs.length ≤ 3 && (cs.length = 1 || cs.head? != some '0') &&
    cs.foldl (fun n c => n * 10 + (c.toNat - 48)) 0 ≤ 255

/-- Four numbers with points between them. -/
def isV4 (cs : List Char) : Bool :=
  let parts := splitAt '.' cs
  parts.length = 4 && parts.all isOctet

/-- A hexadecimal digit. -/
def isHex (c : Char) : Bool := c.isDigit || ('a' ≤ c && c ≤ 'f') || ('A' ≤ c && c ≤ 'F')

/-- Up to four hexadecimal digits. -/
def isGroup (cs : List Char) : Bool := !cs.isEmpty && cs.length ≤ 4 && cs.all isHex

/-- The groups of an IPv6 address: eight, or fewer with one empty place that stands for the zeros
left out. At an end the empty place shows as two. -/
def areGroups (parts : List (List Char)) : Bool :=
  let inner := (parts.drop 1).dropLast
  match inner.countP (·.isEmpty) with
  | 0 => parts.length = 8 && parts.all isGroup
  | 1 =>
    let before := parts.takeWhile (!·.isEmpty)
    let after := (parts.reverse.takeWhile (!·.isEmpty)).reverse
    -- an empty first part has to be followed by the empty place, an empty last one preceded by it
    let headOk := parts.head? != some [] || (parts.drop 1).head? = some []
    let tailOk := parts.getLast? != some [] || parts.dropLast.getLast? = some []
    headOk && tailOk && before.length + after.length < 8 && (before ++ after).all isGroup
  | _ => false

/-- An IPv6 address without a zone: at least three parts between colons, at most nine, the last of
which may be an IPv4 address in place of two groups. -/
def isV6Plain (cs : List Char) : Bool :=
  let parts := splitAt ':' cs
  3 ≤ parts.length &&
    match parts.getLast? with
    | some last =>
      if last.contains '.' then
        isV4 last && parts.length + 1 ≤ 9 && areGroups (parts.dropLast ++ [['0'], ['0']])
      else parts.length ≤ 9 && areGroups parts
    | none => false

/-- An IPv6 address, possibly with a zone behind a percent sign. -/
def isV6 (cs : List Char) : Bool :=
  let address := cs.takeWhile (· ≠ '%')
  let zone := cs.dropWhile (· ≠ '%')
  !cs.contains '/' && isV6Plain address &&
    (zone.isEmpty || (1 < zone.length && !(zone.drop 1).contains '%'))

end IndexExplorer.Ip
