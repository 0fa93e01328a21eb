import IndexExplorer.Headers
import Mathlib

/-!
Header fields by name, after joining, erasing and assigning.

* `nodup_joined`, `mem_names_joined`: joining keeps the names, and each once;
* `getAll_eq_singleton`: where no name occurs twice, a field is all that its name has;
* `getAll_assignAll_of_mem`: fields with different names are all there when they are written over
  others;
* `getAll_assignAll`, `assignAll_eq_self`: of several values the last is written, and what a name
  has already can be written again;
* `ofGiven_cons_eq_ok`, `isLower_of_ofGiven`: given fields that can be sent are texts, and their
  names are put in lower case.
-/
namespace IndexExplorer.Headers

/-- The names of the fields, in order. -/
def names (h : Headers) : List String := h.map (·.1)

theorem mem_names_of_mem {h : Headers} {n v : String} (mem : (n, v) ∈ h) : n ∈ names h :=
  List.mem_map.mpr ⟨(n, v), mem, rfl⟩

theorem exists_mem_of_mem_names {h : Headers} {n : String} (mem : n ∈ names h) :
    ∃ v, (n, v) ∈ h := by
  obtain ⟨⟨m, v⟩, field, rfl⟩ := List.mem_map.mp mem
  exact ⟨v, field⟩

theorem has_eq_true_iff {h : Headers} {n : String} : h.has n = true ↔ n ∈ names h := by
  simp [Named.has, names]

theorem names_append (h top : Headers) : names (h ++ top) = names h ++ names top :=
  List.map_append

/-! ## Joining -/

theorem join_eq_alter (h : Headers) (name value : String) :
    h.join name value =
      Named.alter h name fun | some v => v ++ ", " ++ value | none => value := by
  induction h with
  | nil => rfl
  | cons f h ih =>
    obtain ⟨n, v⟩ := f
    by_cases e : n = name
    · simp [join, Named.alter, e]
    · simp [join, Named.alter, e, ih]

theorem names_join (h : Headers) (name value : String) :
    names (h.join name value) = names h ++ if h.has name then [] else [name] := by
  rw [join_eq_alter]
  exact Named.names_alter ..

theorem mem_names_join {h : Headers} {name value n : String} :
    n ∈ names (h.join name value) ↔ n ∈ names h ∨ n = name := by
  rw [names_join, List.mem_append]
  cases known : h.has name with
  | true =>
    have mem := has_eq_true_iff.mp known
    constructor
    · exact fun h => .inl (by simpa using h)
    · rintro (h | rfl)
      · exact .inl h
      · exact .inl mem
  | false => simp

private theorem foldl_join (h acc : Headers) (n : String) :
    n ∈ names (h.foldl (fun acc (n, v) => join acc n v) acc) ↔ n ∈ names acc ∨ n ∈ names h := by
  induction h generalizing acc with
  | nil => simp [names]
  | cons f h ih =>
    obtain ⟨m, v⟩ := f
    rw [List.foldl_cons, ih, mem_names_join, or_assoc]
    simp [names]

theorem mem_names_joined {h : Headers} {n : String} : n ∈ names h.joined ↔ n ∈ names h := by
  rw [joined, foldl_join]
  simp [names]

theorem nodup_join {h : Headers} (nodup : (names h).Nodup) (name value : String) :
    (names (h.join name value)).Nodup := by
  rw [join_eq_alter]
  exact Named.nodup_alter nodup name _

theorem nodup_joined (h : Headers) : (names h.joined).Nodup := by
  have step : ∀ acc : Headers, (names acc).Nodup →
      (names (h.foldl (fun acc (n, v) => join acc n v) acc)).Nodup := by
    induction h with
    | nil => exact fun acc nodup => nodup
    | cons f h ih =>
      obtain ⟨n, v⟩ := f
      exact fun acc nodup => ih _ (nodup_join nodup n v)
  exact step [] List.nodup_nil

/-! ## Erasing -/

theorem names_erase (h : Headers) (name : String) :
    names (h.erase name) = (names h).filter (· ≠ name) := by
  simp only [names, erase, List.filter_map]
  rfl

theorem names_filter (h : Headers) (p : String → Bool) :
    names (h.filter fun (n, _) => p n) = (names h).filter p := by
  simp only [names, List.filter_map]
  rfl

theorem mem_names_erase {h : Headers} {name n : String} :
    n ∈ names (h.erase name) ↔ n ∈ names h ∧ n ≠ name := by
  rw [names_erase, List.mem_filter, decide_eq_true_iff]

/-- A field in the place of all others of its name. -/
theorem nodup_erase_append {h : Headers} (nodup : (names h).Nodup) (name value : String) :
    (names (h.erase name ++ [(name, value)])).Nodup := by
  rw [names_append, List.nodup_append]
  refine ⟨?_, by simp [names], ?_⟩
  · rw [names_erase]
    exact nodup.filter _
  · intro n mem m single
    obtain rfl : m = name := by simpa [names] using single
    exact (mem_names_erase.mp mem).2

/-! ## Values -/

theorem getAll_eq_nil {h : Headers} {n : String} (absent : n ∉ names h) : h.getAll n = [] := by
  rw [getAll, List.filterMap_eq_nil_iff]
  rintro ⟨m, v⟩ mem
  have other : m ≠ n := fun e => absent (e ▸ mem_names_of_mem mem)
  simp [other]

/-- Where no name occurs twice, a field is all that its name has. -/
theorem getAll_eq_singleton {h : Headers} {n v : String} (nodup : (names h).Nodup)
    (mem : (n, v) ∈ h) : h.getAll n = [v] := by
  induction h with
  | nil => cases mem
  | cons f h ih =>
    obtain ⟨m, w⟩ := f
    obtain ⟨fresh, rest⟩ := List.nodup_cons.mp nodup
    rcases List.mem_cons.mp mem with e | mem
    · cases e
      rw [getAll_cons_self, getAll_eq_nil fresh]
    · have other : m ≠ n := fun e => fresh (e ▸ mem_names_of_mem mem)
      rw [getAll_cons_of_ne w h other, ih rest mem]

theorem getAll_filter (h : Headers) (p : String → Bool) {n : String} (kept : p n = true) :
    getAll (h.filter fun (m, _) => p m) n = h.getAll n := by
  induction h with
  | nil => rfl
  | cons f h ih =>
    obtain ⟨m, v⟩ := f
    by_cases e : m = n
    · subst e
      simp [kept, getAll_cons_self, ih]
    · cases k : p m with
      | true => simp [k, getAll_cons_of_ne v _ e, ih]
      | false => simp [k, getAll_cons_of_ne v _ e, ih]

theorem getAll_assignAll_of_notMem (h : Headers) {top : Headers} {n : String}
    (absent : n ∉ names top) : (h.assignAll top).getAll n = h.getAll n := by
  induction top generalizing h with
  | nil => rfl
  | cons f top ih =>
    obtain ⟨m, v⟩ := f
    have other : m ≠ n := fun e => absent (e ▸ List.mem_cons_self)
    have rest : n ∉ names top := fun mem => absent (List.mem_cons_of_mem _ mem)
    calc (h.assignAll ((m, v) :: top)).getAll n
        = ((h.assign m v).assignAll top).getAll n := rfl
      _ = (h.assign m v).getAll n := ih _ rest
      _ = h.getAll n := getAll_assign_of_ne h v other

/-- A field is all that its name has when fields with different names are written over others. -/
theorem getAll_assignAll_of_mem (h : Headers) {top : Headers} {n v : String}
    (nodup : (names top).Nodup) (mem : (n, v) ∈ top) : (h.assignAll top).getAll n = [v] := by
  induction top generalizing h with
  | nil => cases mem
  | cons f top ih =>
    obtain ⟨m, w⟩ := f
    obtain ⟨fresh, rest⟩ := List.nodup_cons.mp nodup
    rcases List.mem_cons.mp mem with e | mem
    · cases e
      calc (h.assignAll ((n, v) :: top)).getAll n
          = ((h.assign n v).assignAll top).getAll n := rfl
        _ = (h.assign n v).getAll n := getAll_assignAll_of_notMem _ fresh
        _ = [v] := getAll_assign_self h n v
    · exact ih (h.assign m w) rest mem

/-- The field that is assigned last is all that its name has. -/
theorem getAll_assignAll_concat (h top : Headers) (n v : String) :
    (h.assignAll (top ++ [(n, v)])).getAll n = [v] := by
  rw [assignAll, List.foldl_append]
  exact getAll_assign_self ..

/-- The last of the values that are written for a name is all that it has. -/
theorem getAll_assignAll (h top : Headers) (n : String) :
    (h.assignAll top).getAll n = (top.getAll n).getLast?.elim (h.getAll n) fun v => [v] := by
  induction top generalizing h with
  | nil => rfl
  | cons f top ih =>
    obtain ⟨m, w⟩ := f
    have step : (h.assignAll ((m, w) :: top)).getAll n =
        ((h.assign m w).assignAll top).getAll n := rfl
    rw [step, ih]
    by_cases e : m = n
    · subst e
      rw [getAll_cons_self, getAll_assign_self, List.getLast?_cons]
      cases (getAll top m).getLast? <;> rfl
    · rw [getAll_cons_of_ne w top e, getAll_assign_of_ne h w e]

theorem erase_eq_self {h : Headers} {name : String} (absent : h.getAll name = []) :
    h.erase name = h := by
  refine List.filter_eq_self.mpr fun f mem => ?_
  by_contra found
  have named : f.1 = name := by simpa using found
  have value := List.filterMap_eq_nil_iff.mp absent f mem
  simp [named] at value

/-- Writing the one value that a name has changes nothing. -/
theorem assign_eq_self {h : Headers} {n v : String} (own : h.getAll n = [v]) :
    h.assign n v = h := by
  induction h with
  | nil => cases own
  | cons f h ih =>
    obtain ⟨m, w⟩ := f
    by_cases e : m = n
    · subst e
      rw [getAll_cons_self, List.cons.injEq] at own
      obtain ⟨rfl, absent⟩ := own
      simp [assign, erase_eq_self absent]
    · rw [getAll_cons_of_ne w h e] at own
      simp [assign, e, ih own]

theorem assignAll_eq_self {h top : Headers} (own : ∀ f ∈ top, h.getAll f.1 = [f.2]) :
    h.assignAll top = h := by
  induction top with
  | nil => rfl
  | cons f top ih =>
    have rest := ih fun g mem => own g (List.mem_cons_of_mem f mem)
    calc h.assignAll (f :: top)
        = (h.assign f.1 f.2).assignAll top := rfl
      _ = h := by rw [assign_eq_self (own f List.mem_cons_self), rest]

/-! ## Given fields -/

/-- No character of a name is an upper-case letter. -/
def IsLower (n : String) : Prop := ∀ c ∈ n.toList, c.isUpper = false

instance (n : String) : Decidable (IsLower n) :=
  List.decidableBAll (fun c : Char => c.isUpper = false) n.toList

theorem isLower_lowerAscii (s : String) : IsLower (Text.lowerAscii s) := by
  intro c mem
  rw [Text.lowerAscii, String.toList_ofList] at mem
  obtain ⟨b, -, rfl⟩ := List.mem_map.mp mem
  exact Char.isUpper_toLower_eq_false b

theorem asciiText_eq_ok {s t : String} (h : asciiText s = .ok t) : t = s := by
  unfold asciiText at h
  split at h
  · exact (Except.ok.inj h).symm
  · cases h

/-- A given field that can be sent is a text, and its name is put in lower case. -/
theorem givenField_eq_ok {name : String} {value : Json} {field : String × String}
    (h : givenField name value = .ok field) :
    ∃ s, value = .str s ∧ field = (Text.lowerAscii name, s) := by
  cases hn : asciiText name with
  | error e => simp [givenField, hn, bind, Except.bind] at h
  | ok n =>
    simp only [givenField, hn, bind, Except.bind] at h
    cases value with
    | str s =>
      cases hs : asciiText s with
      | error e => simp [hs] at h
      | ok t =>
        simp only [hs, pure, Except.pure, Except.ok.injEq] at h
        rw [asciiText_eq_ok hn, asciiText_eq_ok hs] at h
        exact ⟨s, rfl, h.symm⟩
    | _ => simp [throw, throwThe, MonadExceptOf.throw] at h

theorem ofGiven_cons_eq_ok {name : String} {value : Json} {fields : Members} {given : Headers}
    (h : ofGiven ((name, value) :: fields) = .ok given) :
    ∃ s rest, value = .str s ∧ ofGiven fields = .ok rest ∧
      given = (Text.lowerAscii name, s) :: rest := by
  cases hf : givenField name value with
  | error e => simp [ofGiven, hf, bind, Except.bind] at h
  | ok field =>
    cases hr : ofGiven fields with
    | error e => simp [ofGiven, hf, hr, bind, Except.bind] at h
    | ok rest =>
      simp only [ofGiven, hf, hr, bind, Except.bind, pure, Except.pure, Except.ok.injEq] at h
      obtain ⟨s, rfl, rfl⟩ := givenField_eq_ok hf
      exact ⟨s, rest, rfl, rfl, h.symm⟩

theorem isLower_of_ofGiven {fields : Members} {given : Headers}
    (h : ofGiven fields = .ok given) : ∀ n ∈ names given, IsLower n := by
  induction fields generalizing given with
  | nil =>
    obtain rfl : [] = given := Except.ok.inj h
    exact fun n mem => absurd mem List.not_mem_nil
  | cons f fields ih =>
    obtain ⟨s, rest, -, others, rfl⟩ := ofGiven_cons_eq_ok h
    exact List.forall_mem_cons.mpr ⟨isLower_lowerAscii f.1, ih others⟩

/-- A field that may be there or not. -/
theorem eq_of_mem_names_if {cond : Prop} [Decidable cond] {name value n : String}
    (mem : n ∈ names (if cond then [(name, value)] else [])) : n = name := by
  split at mem
  · exact List.mem_singleton.mp mem
  · exact absurd mem List.not_mem_nil

theorem mem_names_setDefault {h : Headers} {name value n : String}
    (mem : n ∈ names (h.setDefault name value)) : n ∈ names h ∨ n = name := by
  unfold setDefault at mem
  split at mem
  · exact .inl mem
  · rw [names_append, List.mem_append] at mem
    exact mem.imp_right List.mem_singleton.mp

end IndexExplorer.Headers
