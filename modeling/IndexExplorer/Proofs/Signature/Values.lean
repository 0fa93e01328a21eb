import IndexExplorer.Proofs.Signature.Transport

/-!
The values of each header while a request is signed, and afterwards.

* `workingValues`: what a name has while signing works on it: what signing sets, or else what the
  request brings along, and the hash of the body;
* `getAll_workingHeaders`: these are the values, for every name;
* `exists_workingHeaders`: they can be had unless a date cannot be written again;
* `getAll_sign`: a signed request has the last of them, and keeps its own where there are none.
-/
namespace IndexExplorer.Signature

open Headers

variable {d : Digest} {p : Purpose} {hashBody : Bool} {r out : Request} {working : Headers}
  {n : String}

/-- What a request brings along for a name: its values, joined, unless the transport manages
them. -/
def ownValues (r : Request) (n : String) : List String :=
  if n ∈ transportHeaders then [] else (joinValues (r.headers.getAll n)).toList

/-- The date of signing in the form of mail headers. -/
def Purpose.mail (p : Purpose) : String :=
  ((Moment.ofCompact p.moment).toOption.map Moment.mail).getD ""

/-- What signing sets for a name whatever the request has for it, if it does: a request with a date
header is dated there, and all others in the header of signing. -/
def setValues? (p : Purpose) (isDated : Bool) (n : String) : Option (List String) :=
  if n = "authorization" then some []
  else if n = "x-amz-date" then some (if isDated then [] else [p.moment])
  else if n = "date" ∧ isDated then some [p.mail]
  else if n = "x-amz-security-token" then
    (p.credentials.sessionToken.filter (!·.isEmpty)).map fun t => [t]
  else none

/-- The hash of the body, for the name of its header. -/
def hashValues (d : Digest) (hashBody : Bool) (r : Request) (n : String) : List String :=
  if hashBody ∧ n = hashHeader then [d.hashText r.body] else []

/-- The values of a name that signing works on. -/
def workingValues (d : Digest) (p : Purpose) (hashBody : Bool) (r : Request) (n : String) :
    List String :=
  (setValues? p (r.headers.has "date") n).getD (ownValues r n ++ hashValues d hashBody r n)

/-! ## What a request brings along -/

/-- Joined values have commas between them. -/
theorem joinValues_cons (v : String) (vs : List String) :
    joinValues (v :: vs) = some (", ".intercalate (v :: vs)) := by
  induction vs generalizing v with
  | nil => rw [String.intercalate_singleton]; rfl
  | cons w vs ih =>
    calc joinValues (v :: w :: vs)
        = joinValues ((v ++ ", " ++ w) :: vs) := rfl
      _ = some (", ".intercalate ((v ++ ", " ++ w) :: vs)) := ih _
      _ = some (", ".intercalate (v :: w :: vs)) := by
        rw [String.intercalate_cons_append, String.intercalate_cons_cons]

theorem ownValues_of_mem (managed : n ∈ transportHeaders) : ownValues r n = [] := if_pos managed

theorem ownValues_of_absent (absent : r.headers.getAll n = []) : ownValues r n = [] := by
  rw [ownValues, absent]
  exact ite_self _

theorem ownValues_of_named (own : n ∉ transportHeaders) (named : r.headers.getAll n ≠ []) :
    ownValues r n = [", ".intercalate (r.headers.getAll n)] := by
  obtain ⟨v, vs, values⟩ := List.exists_cons_of_ne_nil named
  rw [ownValues, if_neg own, values, joinValues_cons]
  rfl

/-! ## While a request is signed -/

theorem getAll_ownHeaders (r : Request) (n : String) : (ownHeaders r).getAll n = ownValues r n := by
  unfold ownHeaders ownValues
  split
  · rename_i managed
    exact getAll_filter_of_dropped _ (!transportHeaders.contains ·) (by simpa using managed)
  · rename_i own
    rw [getAll_filter _ (!transportHeaders.contains ·) (by simpa using own),
      getAll_eq_toList (nodup_joined _), get?_joined]

theorem getAll_singleton (name value n : String) :
    getAll [(name, value)] n = if n = name then [value] else [] := by
  by_cases e : name = n
  · simp [getAll, e]
  · simp [getAll, e, Ne.symm e]

/-- The headers before they are dated: those of the request, and the hash of its body. -/
def hashedHeaders (d : Digest) (hashBody : Bool) (r : Request) : Headers :=
  (if hashBody then ownHeaders r ++ [(hashHeader, d.hashText r.body)] else ownHeaders r).erase
    "authorization"

theorem workingHeaders_eq_map (d : Digest) (p : Purpose) (hashBody : Bool) (r : Request) :
    workingHeaders d p hashBody r = (dated (hashedHeaders d hashBody r) p.moment).map
      (tokened · p.credentials.sessionToken) := rfl

theorem getAll_hashedHeaders (n : String) :
    (hashedHeaders d hashBody r).getAll n =
      if n = "authorization" then [] else ownValues r n ++ hashValues d hashBody r n := by
  unfold hashedHeaders
  by_cases auth : n = "authorization"
  · rw [auth, getAll_erase_self, if_pos rfl]
  · rw [getAll_erase_of_ne _ (Ne.symm auth), if_neg auth]
    cases hashBody with
    | true => simp [hashValues, getAll_append, getAll_ownHeaders, getAll_singleton]
    | false => simp [hashValues, getAll_ownHeaders]

/-- A request is dated where it names a date. -/
theorem has_date_hashedHeaders : (hashedHeaders d hashBody r).has "date" = r.headers.has "date" := by
  have own : ownValues r "date" = [] ↔ r.headers.getAll "date" = [] := by
    rw [← getAll_ownHeaders, not_iff_not.symm, ← ne_eq, ← ne_eq, ← mem_names_iff_getAll,
      ← mem_names_iff_getAll, mem_names_ownHeaders]
    exact and_iff_left (by decide)
  have hash : hashValues d hashBody r "date" = [] := by simp [hashValues, hashHeader]
  rw [Bool.eq_iff_iff, has_eq_true_iff, has_eq_true_iff, mem_names_iff_getAll,
    mem_names_iff_getAll, getAll_hashedHeaders, if_neg (by decide), hash, List.append_nil, ne_eq,
    ne_eq, own]

theorem dated_eq_ok {h g : Headers} (dates : dated h p.moment = .ok g) (n : String) :
    g.getAll n =
      if n = "x-amz-date" then if h.has "date" then [] else [p.moment]
      else if n = "date" ∧ h.has "date" then [p.mail] else h.getAll n := by
  unfold dated at dates
  split at dates
  · rename_i named
    split at dates
    · rename_i m read
      obtain rfl := Except.ok.inj dates
      have mail : p.mail = m.mail := by rw [Purpose.mail, read]; rfl
      by_cases signing : n = "x-amz-date"
      · simp [signing, named, getAll_erase_self]
      · rw [getAll_erase_of_ne _ (Ne.symm signing), getAll_append, getAll_singleton, mail]
        by_cases date : n = "date"
        · simp [date, named, getAll_erase_self]
        · simp [signing, date, getAll_erase_of_ne h (Ne.symm date)]
    · cases dates
    · cases dates
  · rename_i unnamed
    obtain rfl := Except.ok.inj dates
    rw [getAll_append, getAll_singleton]
    by_cases signing : n = "x-amz-date"
    · simp [signing, unnamed, getAll_erase_self]
    · simp [signing, unnamed, getAll_erase_of_ne h (Ne.symm signing)]

theorem getAll_tokened (h : Headers) (token : Option String) (n : String) :
    (tokened h token).getAll n =
      if n = "x-amz-security-token" then
        ((token.filter (!·.isEmpty)).map fun t => [t]).getD (h.getAll n)
      else h.getAll n := by
  unfold tokened
  cases token.filter (!·.isEmpty) with
  | none => simp
  | some t =>
    rw [getAll_append, getAll_singleton]
    by_cases e : n = "x-amz-security-token"
    · simp [e, getAll_erase_self]
    · simp [e, getAll_erase_of_ne h (Ne.symm e)]

/-- The values of each name that signing works on. -/
theorem getAll_workingHeaders (h : workingHeaders d p hashBody r = .ok working) (n : String) :
    working.getAll n = workingValues d p hashBody r n := by
  rw [workingHeaders_eq_map] at h
  cases dates : dated (hashedHeaders d hashBody r) p.moment with
  | error e => simp [dates, Except.map] at h
  | ok g =>
    rw [dates] at h
    obtain rfl := Except.ok.inj h
    rw [getAll_tokened, dated_eq_ok dates, has_date_hashedHeaders, getAll_hashedHeaders,
      workingValues, setValues?]
    by_cases auth : n = "authorization"
    · simp [auth]
    by_cases signing : n = "x-amz-date"
    · simp [signing]
    by_cases token : n = "x-amz-security-token"
    · simp [token]
    by_cases date : n = "date" ∧ r.headers.has "date" = true
    · simp [date]
    · simp [auth, signing, token, date]

/-- Whether there are any is a matter of the date alone. -/
theorem exists_workingHeaders : (∃ working, workingHeaders d p hashBody r = .ok working) ↔
    (r.headers.has "date" = true → ∃ m, Moment.ofCompact p.moment = .ok m) := by
  rw [workingHeaders_eq_map, dated, has_date_hashedHeaders]
  split
  · rename_i named
    simp only [named, forall_const]
    split
    · rename_i m read
      exact iff_of_true ⟨_, rfl⟩ ⟨m, read⟩
    all_goals
      rename_i read
      refine iff_of_false ?_ ?_
      · rintro ⟨working, made⟩
        cases made
      · rintro ⟨m, ok⟩
        rw [read] at ok
        cases ok
  · rename_i unnamed
    exact iff_of_true ⟨_, rfl⟩ fun named => absurd named unnamed

/-! ## Afterwards -/

/-- A signed request has the last of the values that signing worked on, and its own where there are
none. -/
theorem getAll_sign (signed : sign d p hashBody r = .ok out) (other : n ≠ "authorization") :
    out.headers.getAll n =
      (workingValues d p hashBody r n).getLast?.elim (r.headers.getAll n) fun v => [v] := by
  obtain ⟨working, url, headers, works, -, -, rfl⟩ := sign_eq_ok_iff.mp signed
  simp only [writtenHeaders, getAll_assignAll, getAll_append, getAll_singleton, other, ↓reduceIte,
    List.append_nil, getAll_workingHeaders works]

end IndexExplorer.Signature
