/-!
Values by name, in order.

* `get?_alter_self`, `get?_alter_of_ne`: changing the value of one name leaves all others alone;
* `get?_put_self`, `get?_put_of_ne`: the same for writing;
* `names_alter`: a name that is there keeps its place, a new one comes last;
* `nodup_ofList`: a table made from entries has each name once.
-/
namespace IndexExplorer

/-- Values by name, in order. Where a name occurs twice its first value counts. -/
abbrev Named (α : Type) := List (String × α)

namespace Named

/-- The value of a name. -/
def get? (t : Named α) (name : String) : Option α := t.lookup name

/-- The name occurs. -/
def has (t : Named α) (name : String) : Bool := t.any (·.1 = name)

/-- All the names that are needed occur, and no others but those and the ones allowed. -/
def hasNames (t : Named α) (needed allowed : List String) : Bool :=
  needed.all t.has && t.all fun e => (needed ++ allowed).contains e.1

/-- The value of a name, changed in its place, or added at the end. -/
def alter (t : Named α) (name : String) (f : Option α → α) : Named α :=
  match t with
  | [] => [(name, f none)]
  | (n, a) :: rest => if n = name then (n, f (some a)) :: rest else (n, a) :: alter rest name f

/-- The value of a name, written over or added. -/
def put (t : Named α) (name : String) (a : α) : Named α := t.alter name fun _ => a

/-- All values of `top`, written over those of a table one after the other. -/
def overlay (t top : Named α) : Named α := top.foldl (fun t (n, a) => put t n a) t

/-- The names in the order of their first appearance, each with its last value. -/
def ofList (entries : List (String × α)) : Named α := overlay [] entries

theorem get?_cons_self (n : String) (a : α) (t : Named α) : get? ((n, a) :: t) n = some a := by
  simp [get?]

theorem get?_cons_of_ne {n name : String} (a : α) (t : Named α) (h : n ≠ name) :
    get? ((n, a) :: t) name = get? t name := by
  have h' : (name == n) = false := by simpa using Ne.symm h
  simp [get?, List.lookup_cons, h']

theorem has_eq_isSome (t : Named α) (name : String) : has t name = (get? t name).isSome := by
  induction t with
  | nil => rfl
  | cons e t ih =>
    obtain ⟨n, a⟩ := e
    by_cases h : n = name
    · simp [has, h, get?_cons_self]
    · rw [get?_cons_of_ne a t h, ← ih]
      simp [has, h]

theorem get?_alter_self (t : Named α) (name : String) (f : Option α → α) :
    get? (alter t name f) name = some (f (get? t name)) := by
  induction t with
  | nil => simp [alter, get?]
  | cons e t ih =>
    obtain ⟨n, a⟩ := e
    by_cases h : n = name
    · subst h
      simp [alter, get?_cons_self]
    · simp [alter, h, get?_cons_of_ne a _ h, ih]

theorem get?_alter_of_ne (t : Named α) {name other : String} (f : Option α → α)
    (h : name ≠ other) : get? (alter t name f) other = get? t other := by
  induction t with
  | nil => simp [alter, get?_cons_of_ne _ _ h]
  | cons e t ih =>
    obtain ⟨n, a⟩ := e
    by_cases hn : n = name
    · subst hn
      simp [alter, get?_cons_of_ne _ t h]
    · by_cases ho : n = other
      · subst ho
        simp [alter, hn, get?_cons_self]
      · simp [alter, hn, get?_cons_of_ne a _ ho, ih]

theorem get?_put_self (t : Named α) (name : String) (a : α) :
    get? (put t name a) name = some a := get?_alter_self ..

theorem get?_put_of_ne (t : Named α) {name other : String} (a : α) (h : name ≠ other) :
    get? (put t name a) other = get? t other := get?_alter_of_ne t _ h

/-- A name that is there keeps its place, and a new one comes last. -/
theorem names_alter (t : Named α) (name : String) (f : Option α → α) :
    (alter t name f).map (·.1) =
      t.map (·.1) ++ if has t name then [] else [name] := by
  induction t with
  | nil => rfl
  | cons e t ih =>
    obtain ⟨n, a⟩ := e
    by_cases h : n = name
    · simp [alter, has, h]
    · have rest : has ((n, a) :: t) name = has t name := by simp [has, h]
      simp [alter, h, ih, rest]

theorem nodup_alter {t : Named α} (h : (t.map (·.1)).Nodup) (name : String)
    (f : Option α → α) : ((alter t name f).map (·.1)).Nodup := by
  rw [names_alter]
  split
  · simpa using h
  · rename_i new
    refine List.nodup_append.mpr ⟨h, by simp, ?_⟩
    intro n hn m hm e
    have : m = name := by simpa using hm
    subst this
    subst e
    exact new (by simpa [has] using hn)

theorem nodup_overlay {t : Named α} (h : (t.map (·.1)).Nodup) (top : Named α) :
    ((overlay t top).map (·.1)).Nodup := by
  induction top generalizing t with
  | nil => exact h
  | cons e top ih => exact ih (nodup_alter h e.1 _)

/-- A table made from entries has each name once. -/
theorem nodup_ofList (entries : List (String × α)) : ((ofList entries).map (·.1)).Nodup :=
  nodup_overlay (t := []) (by simp) entries

end Named

end IndexExplorer
