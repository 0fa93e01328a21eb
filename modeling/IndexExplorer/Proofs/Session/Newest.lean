import IndexExplorer.Proofs.Session.Standing

/-!
Stale searches never win.

A session keeps the outcome of a search that finishes while its generation is the newest. As a
generation finishes once, what is kept of the newest stays until the next one is given.

* `latest_eq`, `lastProblem_eq`: a session shows the last of the outcomes that were kept;
* `pairwise_outcomes`: outcomes are kept in the order of their generations;
* `outcomes_finish_newest`: the outcome of the newest is kept last until another is begun;
* `newest_wins`: all of this for runs of a session.
-/
namespace IndexExplorer.Session

/-! ## What is kept -/

/-- The outcome that is kept when an action is done, with its generation. -/
def kept (s : Session) : Action → Option (Nat × Result SearchPage)
  | .finish _ generation r => if s.isCurrent generation then some (generation, r) else none
  | _ => none

/-- The outcomes that are kept when actions are done one after the other. -/
def outcomes : Session → List Action → List (Nat × Result SearchPage)
  | _, [] => []
  | s, a :: h => (s.kept a).toList ++ outcomes (s.act a) h

/-- The pages among outcomes. -/
def pages (os : List (Nat × Result SearchPage)) : List SearchPage :=
  os.filterMap fun o => o.2.toOption

/-- The problem that is left by outcomes: that of the last one, if it failed. -/
def problemAfter (before : Option Problem) : List (Nat × Result SearchPage) → Option Problem
  | [] => before
  | (_, .ok _) :: os => problemAfter none os
  | (_, .error e) :: os => problemAfter (some e) os

/-- A session that keeps the outcome of a search. -/
def keeping (s : Session) (task : Nat) : Result SearchPage → Session
  | .ok p => { s.setWork task (.ended (.page p)) with latest := some p, lastProblem := none }
  | .error e => { s.setWork task (.ended (.failed e)) with lastProblem := some e }

variable {env : Environment} {s : Session}

theorem act_newest (task : Nat) (r : Result SearchPage) :
    s.act (.finish task s.generation r) = s.keeping task r := by
  cases r with
  | ok p => exact conclude_page task p
  | error e => exact conclude_problem task e

theorem act_stale {task g : Nat} (stale : g ≠ s.generation) (r : Result SearchPage) :
    s.act (.finish task g r) = s.setWork task (.ended .superseded) := conclude_of_ne stale r

theorem kept_eq_some {a : Action} {g : Nat} {r : Result SearchPage} (h : s.kept a = some (g, r)) :
    g = s.generation ∧ ∃ task, a = .finish task g r := by
  cases a with
  | finish task generation result =>
    by_cases current : generation = s.generation
    · have same : some (generation, result) = some (g, r) := by
        simpa [kept, isCurrent, current] using h
      cases same
      exact ⟨current, task, rfl⟩
    · simp [kept, isCurrent, current] at h
  | _ => cases h

theorem kept_newest (task : Nat) (r : Result SearchPage) :
    s.kept (.finish task s.generation r) = some (s.generation, r) := by
  simp [kept, isCurrent]

/-- Where nothing is kept, the session shows what it showed before. -/
theorem shown_of_kept_none {a : Action} (h : s.kept a = none) :
    (s.act a).latest = s.latest ∧ (s.act a).lastProblem = s.lastProblem := by
  cases a with
  | callOff task =>
    obtain ⟨work, -, e⟩ := cancel_eq (s := s) task
    rw [act, e]
    exact ⟨rfl, rfl⟩
  | finish task g r =>
    by_cases current : g = s.generation
    · subst current
      rw [kept_newest] at h
      cases h
    · rw [act_stale current]
      exact ⟨rfl, rfl⟩
  | _ => exact ⟨rfl, rfl⟩

theorem latest_eq (h : List Action) :
    (h.foldl act s).latest = ((pages (s.outcomes h)).getLast?).or s.latest := by
  induction h generalizing s with
  | nil => simp [outcomes, pages]
  | cons a h ih =>
    rw [List.foldl_cons, ih, outcomes]
    cases k : s.kept a with
    | none => simp [pages, (shown_of_kept_none k).1]
    | some o =>
      obtain ⟨g, r⟩ := o
      obtain ⟨rfl, task, rfl⟩ := kept_eq_some k
      rw [act_newest]
      cases r with
      | ok p => simp [pages, keeping, Except.toOption, List.getLast?_cons]
      | error e => simp [pages, keeping, Except.toOption, setWork]

theorem lastProblem_eq (h : List Action) :
    (h.foldl act s).lastProblem = problemAfter s.lastProblem (s.outcomes h) := by
  induction h generalizing s with
  | nil => rfl
  | cons a h ih =>
    rw [List.foldl_cons, ih, outcomes]
    cases k : s.kept a with
    | none => simp [(shown_of_kept_none k).2]
    | some o =>
      obtain ⟨g, r⟩ := o
      obtain ⟨rfl, task, rfl⟩ := kept_eq_some k
      rw [act_newest]
      cases r with
      | ok p => rfl
      | error e => rfl

theorem outcomes_append (h k : List Action) :
    s.outcomes (h ++ k) = s.outcomes h ++ (h.foldl act s).outcomes k := by
  induction h generalizing s with
  | nil => rfl
  | cons a h ih => simp [outcomes, ih]

theorem problemAfter_append (before : Option Problem) (os os' : List (Nat × Result SearchPage)) :
    problemAfter before (os ++ os') = problemAfter (problemAfter before os) os' := by
  induction os generalizing before with
  | nil => rfl
  | cons o os ih =>
    obtain ⟨g, r⟩ := o
    cases r with
    | ok p => exact ih none
    | error e => exact ih (some e)

/-! ## In which order -/

/-- What is kept later is of a generation at least as new, and of none that is gone. -/
theorem outcomes_newer {h : List Action} (sound : Sound s) (legal : s.Legal h) :
    ∀ o ∈ s.outcomes h, s.generation ≤ o.1 ∧ ∀ g, Spent g s → o.1 ≠ g := by
  induction h generalizing s with
  | nil => exact fun o mem => absurd mem List.not_mem_nil
  | cons a h ih =>
    obtain ⟨allowed, legal⟩ := legal
    intro o mem
    rcases List.mem_append.mp mem with now | later
    · obtain ⟨g, r⟩ := o
      obtain ⟨newest, task, rfl⟩ := kept_eq_some (Option.mem_toList.mp now)
      refine ⟨Nat.le_of_eq newest.symm, ?_⟩
      rintro g' spent rfl
      exact spent.gone task allowed
    · obtain ⟨newer, other⟩ := ih (sound_act sound allowed) legal o later
      exact ⟨Nat.le_trans (generation_le_act a) newer,
        fun g spent => other g (spent_act spent allowed)⟩

theorem pairwise_outcomes {h : List Action} (sound : Sound s) (legal : s.Legal h) :
    ((s.outcomes h).map (·.1)).Pairwise (· < ·) := by
  induction h generalizing s with
  | nil => exact List.Pairwise.nil
  | cons a h ih =>
    obtain ⟨allowed, legal⟩ := legal
    have rest := ih (sound_act sound allowed) legal
    rw [outcomes]
    cases k : s.kept a with
    | none => exact rest
    | some o =>
      obtain ⟨g, r⟩ := o
      obtain ⟨rfl, task, rfl⟩ := kept_eq_some k
      refine List.pairwise_cons.mpr ⟨?_, rest⟩
      intro g mem
      obtain ⟨o, later, rfl⟩ := List.mem_map.mp mem
      obtain ⟨newer, other⟩ := outcomes_newer (sound_act sound allowed) legal o later
      have same : (s.act (.finish task s.generation r)).generation = s.generation :=
        generation_conclude ..
      have different := other s.generation (spent_finish sound allowed)
      show s.generation < o.1
      omega

/-- When the newest generation is gone, nothing is kept until the next one is given. -/
theorem outcomes_eq_nil {h : List Action} (spent : Spent s.generation s) (legal : s.Legal h)
    (old : ∀ task x, .issue task x ∉ h) : s.outcomes h = [] := by
  induction h generalizing s with
  | nil => rfl
  | cons a h ih =>
    obtain ⟨allowed, legal⟩ := legal
    have same : (s.act a).generation = s.generation :=
      generation_act fun task x e => old task x (e ▸ List.mem_cons_self)
    have later : (s.act a).outcomes h = [] := by
      refine ih ?_ legal fun task x mem => old task x (List.mem_cons_of_mem a mem)
      rw [same]
      exact spent_act spent allowed
    have nothing : s.kept a = none := by
      cases k : s.kept a with
      | none => rfl
      | some o =>
        obtain ⟨g, r⟩ := o
        obtain ⟨rfl, task, rfl⟩ := kept_eq_some k
        exact absurd allowed (spent.gone task)
    rw [outcomes, nothing, later]
    rfl

/-- When the newest generation finishes, its outcome is kept last until the next one is given. -/
theorem outcomes_finish_newest {p q : List Action} {task : Nat} {r : Result SearchPage}
    (sound : Sound s)
    (legal : s.Legal (p ++ .finish task (p.foldl act s).generation r :: q))
    (old : ∀ task x, .issue task x ∉ q) :
    s.outcomes (p ++ .finish task (p.foldl act s).generation r :: q) =
      s.outcomes p ++ [((p.foldl act s).generation, r)] := by
  obtain ⟨before, allowed, after⟩ := legal_append.mp legal
  have same : ((p.foldl act s).act (.finish task (p.foldl act s).generation r)).generation =
      (p.foldl act s).generation := generation_conclude ..
  have spent := spent_finish (sound_foldl sound before) allowed
  rw [outcomes_append, outcomes, kept_newest, outcomes_eq_nil (by rwa [same]) after old]
  rfl

/-- After an outcome has been kept, a session shows its page and no problem, or its problem beside
the last page before it. -/
theorem shown_of_outcomes {h : List Action} {os : List (Nat × Result SearchPage)} {g : Nat}
    {r : Result SearchPage} (empty : s.latest = none) :
    s.outcomes h = os ++ [(g, r)] →
      match r with
      | .ok page => (h.foldl act s).latest = some page ∧ (h.foldl act s).lastProblem = none
      | .error e =>
        (h.foldl act s).lastProblem = some e ∧ (h.foldl act s).latest = (pages os).getLast? := by
  intro kept
  have latest := latest_eq (s := s) h
  have problem := lastProblem_eq (s := s) h
  rw [kept, empty, Option.or_none] at latest
  rw [kept, problemAfter_append] at problem
  cases r with
  | ok page => exact ⟨by rw [latest]; simp [pages, Except.toOption], problem⟩
  | error e => exact ⟨problem, by rw [latest]; simp [pages, Except.toOption]⟩

/-! ## Runs of a session -/

/-- A session as it begins. -/
def opened (c : Connection) (debounce : Json) : Session := { connection := c, debounce }

theorem sound_opened (c : Connection) (debounce : Json) : Sound (opened c debounce) := by
  constructor
  · intro i j g h
    cases h
  · intro i g h
    cases h

/-- However searches begin and end, and in whatever order, the outcomes that a session keeps are in
the order of their generations. A search that finishes while its generation is the newest is kept;
one that finishes later is superseded and changes nothing else, and nothing but a finish changes
what is shown. Once the newest has finished, what is shown is its page, or its problem beside the
last page before it, until another search is begun. -/
theorem newest_wins (env : Environment) (c : Connection) (debounce : Json)
    (events : List SessionEvent) :
    let s := opened c debounce
    let h := history env s events
    run env s events = h.foldl act s ∧
    ((s.outcomes h).map (·.1)).Pairwise (· < ·) ∧
    (∀ p task g r q, h = p ++ .finish task g r :: q →
      let t := p.foldl act s
      (g = t.generation ∧ t.act (.finish task g r) = t.keeping task r) ∨
        (g < t.generation ∧ t.act (.finish task g r) = t.setWork task (.ended .superseded))) ∧
    (∀ p a q, h = p ++ a :: q → (∀ task g r, a ≠ .finish task g r) →
      let t := p.foldl act s
      (t.act a).latest = t.latest ∧ (t.act a).lastProblem = t.lastProblem) ∧
    (∀ p task g r q rest, h = p ++ .finish task g r :: (q ++ rest) →
      g = (p.foldl act s).generation → (∀ task x, .issue task x ∉ q) →
      let t := (p ++ .finish task g r :: q).foldl act s
      match r with
      | .ok page => t.latest = some page ∧ t.lastProblem = none
      | .error e => t.lastProblem = some e ∧ t.latest = (pages (s.outcomes p)).getLast?) := by
  intro s h
  have sound : Sound s := sound_opened c debounce
  have legal : s.Legal h := legal_history events
  refine ⟨(foldl_history events).symm, pairwise_outcomes sound legal, ?finish, ?other, ?newest⟩
  case finish =>
    intro p task g r q split t
    obtain ⟨before, allowed, -⟩ := legal_append.mp (split ▸ legal)
    by_cases current : g = t.generation
    · subst current
      exact .inl ⟨rfl, act_newest task r⟩
    · have le := (sound_foldl sound before).le task g allowed
      exact .inr ⟨Nat.lt_of_le_of_ne le current, act_stale current r⟩
  case other =>
    intro p a q split old t
    refine shown_of_kept_none ?_
    cases k : t.kept a with
    | none => rfl
    | some o =>
      obtain ⟨g, r⟩ := o
      obtain ⟨-, task, e⟩ := kept_eq_some k
      exact absurd e (old task g r)
  case newest =>
    intro p task g r q rest split current old
    subst current
    have part : s.Legal (p ++ .finish task (p.foldl act s).generation r :: q) := by
      rw [split, ← List.cons_append, ← List.append_assoc] at legal
      exact (legal_append.mp legal).1
    exact shown_of_outcomes rfl (outcomes_finish_newest sound part old)

/-- A session without nodes: its only search fails at once, and its problem is shown. -/
theorem newest_wins_alone :
    let env : Environment := { files := ⟨"", none, none⟩, time := 1440936000 }
    let s := run env (opened {} .null) [.search {}]
    s.lastProblem = some (.failure Failure.noNodesConfigured) ∧ s.latest = none := by
  intro env s
  let problem : Problem := .failure Failure.noNodesConfigured
  have split : history env (opened {} .null) [.search {}] =
      [.enroll 0 {}, .issue 0 (.done (.error problem))] ++
        .finish 0 1 (.error problem) :: ([] ++ []) := by rfl
  obtain ⟨-, -, -, -, newest⟩ := newest_wins env {} .null [.search {}]
  have shown := newest _ 0 1 (.error problem) [] [] split rfl (fun _ _ mem => by cases mem)
  exact ⟨shown.1, shown.2⟩

end IndexExplorer.Session
