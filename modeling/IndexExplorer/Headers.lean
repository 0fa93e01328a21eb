import IndexExplorer.Problem
import IndexExplorer.Text.Case

/-!
Header fields in order. Names are kept in lower case, and a name may occur more than once. Fields
that a caller gives have to be texts in ASCII.

* `getAll_assign_self`, `getAll_assign_of_ne`: a name that is assigned has that value alone, and
  all other names keep theirs.
-/
namespace IndexExplorer

/-- Header fields; every name is in lower case. -/
abbrev Headers := Named String

namespace Headers

/-- The fields with their names in lower case. -/
def ofList (fields : List (String × String)) : Headers :=
  fields.map fun (n, v) => (Text.lowerAscii n, v)

/-- A text that has to be ASCII. -/
def asciiText (s : String) : Result String :=
  match Text.NonAscii.find? s.toList with
  | none => .ok s
  | some run => .error (.notAscii run)

/-- A field that a caller gives. -/
def givenField (name : String) (value : Json) : Result (String × String) := do
  let name ← asciiText name
  match value with
  | .str s => return (Text.lowerAscii name, ← asciiText s)
  | _ => throw .wrongKind

/-- The fields that a caller gives, of which the first bad one is told. -/
def ofGiven : Members → Result Headers
  | [] => .ok []
  | (name, value) :: rest => do
    let field ← givenField name value
    return field :: (← ofGiven rest)

/-- A name and value out of a list of pairs, of which `index` is the place. Two items, two
characters, or two names of members make a pair. -/
def pairOf (index : Nat) : Json → Result (String × Json)
  | .arr [.str n, v] => .ok (n, v)
  | .arr [_, _] => .error .wrongKind
  | .arr vs => .error (.badValue (.pairLength index vs.length))
  | .obj [(n, _), (m, _)] => .ok (n, .str m)
  | .obj ms => .error (.badValue (.pairLength index ms.length))
  | .str s =>
    match s.toList with
    | [c, d] => .ok (String.singleton c, .str (String.singleton d))
    | cs => .error (.badValue (.pairLength index cs.length))
  | _ => .error .wrongKind

/-- The names and values of a list of pairs. -/
def pairsFrom (index : Nat) : List Json → Result (List (String × Json))
  | [] => .ok []
  | v :: rest => do
    let pair ← pairOf index v
    return pair :: (← pairsFrom (index + 1) rest)

/-- The fields in a value of any kind: an object, a list of pairs, or nothing. -/
def fieldsOf (v : Json) : Result Members :=
  if !v.given then .ok []
  else match v with
    | .obj ms => .ok ms
    | .arr vs => (pairsFrom 0 vs).map Named.ofList
    | .str s => (pairsFrom 0 (s.toList.map fun c => .str (String.singleton c))).map Named.ofList
    | _ => .error .wrongKind

/-- The values of a name, in order. -/
def getAll (h : Headers) (name : String) : List String :=
  h.filterMap fun (n, v) => if n = name then some v else none

/-- The fields of all other names. -/
def erase (h : Headers) (name : String) : Headers := h.filter (·.1 ≠ name)

/-- One field more, unless the name occurs. -/
def setDefault (h : Headers) (name value : String) : Headers :=
  if h.has name then h else h ++ [(name, value)]

/-- The name with this value alone: in the place of the first, or at the end. -/
def assign (h : Headers) (name value : String) : Headers :=
  match h with
  | [] => [(name, value)]
  | (n, v) :: rest =>
    if n = name then (name, value) :: erase rest name else (n, v) :: assign rest name value

/-- All fields assigned, one after the other. -/
def assignAll (h top : Headers) : Headers := top.foldl (fun h (n, v) => assign h n v) h

/-- A field more; its value is put behind a comma when the name occurs. -/
def join (h : Headers) (name value : String) : Headers :=
  match h with
  | [] => [(name, value)]
  | (n, v) :: rest =>
    if n = name then (n, v ++ ", " ++ value) :: rest else (n, v) :: join rest name value

/-- One field for each name, with the values in order and commas between them. -/
def joined (h : Headers) : Headers := h.foldl (fun acc (n, v) => join acc n v) []

theorem getAll_cons_self (n v : String) (h : Headers) :
    getAll ((n, v) :: h) n = v :: getAll h n := by simp [getAll]

theorem getAll_cons_of_ne {n name : String} (v : String) (h : Headers) (hn : n ≠ name) :
    getAll ((n, v) :: h) name = getAll h name := by simp [getAll, hn]

theorem getAll_erase_self (h : Headers) (name : String) : (h.erase name).getAll name = [] := by
  simp [erase, getAll, List.filterMap_eq_nil_iff]

theorem getAll_erase_of_ne (h : Headers) {name other : String} (hn : name ≠ other) :
    (h.erase name).getAll other = h.getAll other := by
  induction h with
  | nil => rfl
  | cons f h ih =>
    obtain ⟨n, v⟩ := f
    by_cases e : n = name
    · subst e
      simpa [erase, getAll_cons_of_ne v h hn] using ih
    · have kept : erase ((n, v) :: h) name = (n, v) :: erase h name := by simp [erase, e]
      by_cases o : n = other
      · subst o
        simp [kept, getAll_cons_self, ih]
      · simp [kept, getAll_cons_of_ne v _ o, ih]

theorem getAll_assign_self (h : Headers) (name value : String) :
    (h.assign name value).getAll name = [value] := by
  induction h with
  | nil => simp [assign, getAll]
  | cons f h ih =>
    obtain ⟨n, v⟩ := f
    by_cases e : n = name
    · simp [assign, e, getAll_cons_self, getAll_erase_self]
    · simp [assign, e, getAll_cons_of_ne v _ e, ih]

theorem getAll_assign_of_ne (h : Headers) {name other : String} (value : String)
    (hn : name ≠ other) : (h.assign name value).getAll other = h.getAll other := by
  induction h with
  | nil => simp [assign, getAll, hn]
  | cons f h ih =>
    obtain ⟨n, v⟩ := f
    by_cases e : n = name
    · subst e
      simp [assign, getAll_cons_of_ne _ _ hn, getAll_erase_of_ne h hn]
    · by_cases o : n = other
      · subst o
        simp [assign, e, getAll_cons_self, ih]
      · simp [assign, e, getAll_cons_of_ne v _ o, ih]

theorem get?_eq_head? (h : Headers) (name : String) : h.get? name = (h.getAll name).head? := by
  induction h with
  | nil => rfl
  | cons f h ih =>
    obtain ⟨n, v⟩ := f
    by_cases e : n = name
    · subst e
      simp [Named.get?_cons_self, getAll_cons_self]
    · rw [Named.get?_cons_of_ne v h e, getAll_cons_of_ne v h e, ih]

end Headers

end IndexExplorer
