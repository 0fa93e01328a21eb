import IndexExplorer.Proofs.Session.Standing

/-!
The turns of a search.

A search that is begun, whose time has come, whose answer is there or that was called off does
something about it only when its turn comes.

* `take_cases`: all that a turn can do;
* `take_of_ended`, `awake_take`: a search that has ended stays as it is, and one that has asked the
  engine does not go back to sleep.
-/
namespace IndexExplorer.Session

/-- What a search does when its turn comes. -/
inductive Turn where
  /-- a scheduled search looks how long to wait, and asks the engine if it need not wait -/
  | wait
  | ask
  | resume (o : Outcome)
  /-- a search that was called off ends, wherever it waits -/
  | stop

/-- The turn of a search. -/
def take (env : Environment) (s : Session) (task : Nat) : Turn → Session
  | .wait =>
    match s.work[task]? with
    | some (.sleeping _ f) =>
      match wait? s.debounce with
      | .ok (some seconds) => s.setWork task (.sleeping (s.clock + seconds) f)
      | .ok none => start env s task f
      | .error p => s.setWork task (.ended (.failed p))
    | _ => s
  | .ask =>
    match s.work[task]? with
    | some (.sleeping _ f) => start env s task f
    | _ => s
  | .resume o =>
    match s.work[task]? with
    | some (.waiting generation _ next) => s.proceed task generation (next o)
    | _ => s
  | .stop => s.cancel task

variable {env : Environment} {s : Session}

theorem cancel_of_isCancellable {task : Nat} (h : s.isCancellable task) :
    s.cancel task = s.setWork task (.ended .cancelled) := by
  unfold isCancellable at h
  unfold cancel
  cases there : s.work[task]? with
  | none => simp [there] at h
  | some w => simp_all

theorem lt_of_isCancellable {task : Nat} (h : s.isCancellable task) : task < s.work.length := by
  unfold isCancellable at h
  rcases Nat.lt_or_ge task s.work.length with inside | outside
  · exact inside
  · simp [List.getElem?_eq_none outside] at h

theorem ended_of_not_isCancellable {task : Nat} (inside : task < s.work.length)
    (h : s.isCancellable task = false) : ∃ e, s.work[task]? = some (.ended e) := by
  rw [isCancellable, List.getElem?_eq_getElem inside] at h
  rw [List.getElem?_eq_getElem inside]
  cases w : s.work[task] with
  | ended e => exact ⟨e, rfl⟩
  | sleeping due f => simp [w, Work.isEnded] at h
  | waiting generation request next => simp [w, Work.isEnded] at h

theorem cancel_of_not_isCancellable {task : Nat} (h : s.isCancellable task = false) :
    s.cancel task = s := by
  unfold isCancellable at h
  unfold cancel
  cases there : s.work[task]? with
  | none => rfl
  | some w => simp_all

theorem frame_conclude (task generation : Nat) (r : Result SearchPage) :
    (s.conclude task generation r).scheduled = s.scheduled ∧
      (s.conclude task generation r).debounce = s.debounce ∧
      ∃ e, (s.conclude task generation r).work = s.work.set task (.ended e) := by
  by_cases current : generation = s.generation
  · subst current
    cases r with
    | ok p =>
      rw [conclude_page]
      exact ⟨rfl, rfl, .page p, rfl⟩
    | error e =>
      rw [conclude_problem]
      exact ⟨rfl, rfl, .failed e, rfl⟩
  · rw [conclude_of_ne current]
    exact ⟨rfl, rfl, .superseded, rfl⟩

/-- A search that goes on waits for an answer or has ended. What is scheduled, the other searches
and their generations stay. -/
theorem frame_proceed (task generation : Nat) (x : Operation SearchPage) :
    (s.proceed task generation x).generation = s.generation ∧
      (s.proceed task generation x).scheduled = s.scheduled ∧
      (s.proceed task generation x).debounce = s.debounce ∧
      ∃ w : Work, (∀ due f, w ≠ .sleeping due f) ∧
        (s.proceed task generation x).work = s.work.set task w := by
  cases x with
  | done r =>
    obtain ⟨scheduled, debounce, e, work⟩ := frame_conclude (s := s) task generation r
    exact ⟨generation_conclude .., scheduled, debounce, .ended e, nofun, work⟩
  | send r next => exact ⟨rfl, rfl, rfl, .waiting generation s.sent.length next, nofun, rfl⟩

/-- All that a turn can do. -/
theorem take_cases (env : Environment) (s : Session) (task : Nat) (t : Turn) :
    take env s task t = s ∨
    (∃ due f, s.work[task]? = some (.sleeping due f) ∧
      ((t = .ask ∨ t = .wait ∧ wait? s.debounce = .ok none) ∧
          take env s task t = start env s task f ∨
        t = .wait ∧ (∃ seconds, wait? s.debounce = .ok (some seconds) ∧
          take env s task t = s.setWork task (.sleeping (s.clock + seconds) f)) ∨
        t = .wait ∧ ∃ p, wait? s.debounce = .error p ∧
          take env s task t = s.setWork task (.ended (.failed p)))) ∨
    (∃ generation request next o, s.work[task]? = some (.waiting generation request next) ∧
      t = .resume o ∧ take env s task t = s.proceed task generation (next o)) ∨
    (s.isCancellable task ∧ t = .stop ∧
      take env s task t = s.setWork task (.ended .cancelled)) := by
  cases t with
  | wait =>
    cases there : s.work[task]? with
    | none => exact .inl (by simp [take, there])
    | some w =>
      cases w with
      | waiting generation request next => exact .inl (by simp [take, there])
      | ended e => exact .inl (by simp [take, there])
      | sleeping due f =>
        refine .inr (.inl ⟨due, f, rfl, ?_⟩)
        cases look : wait? s.debounce with
        | error p => exact .inr (.inr ⟨rfl, p, rfl, by simp [take, there, look]⟩)
        | ok time =>
          cases time with
          | none => exact .inl ⟨.inr ⟨rfl, rfl⟩, by simp [take, there, look]⟩
          | some seconds => exact .inr (.inl ⟨rfl, seconds, rfl, by simp [take, there, look]⟩)
  | ask =>
    cases there : s.work[task]? with
    | none => exact .inl (by simp [take, there])
    | some w =>
      cases w with
      | waiting generation request next => exact .inl (by simp [take, there])
      | ended e => exact .inl (by simp [take, there])
      | sleeping due f =>
        exact .inr (.inl ⟨due, f, rfl, .inl ⟨.inl rfl, by simp [take, there]⟩⟩)
  | resume o =>
    cases there : s.work[task]? with
    | none => exact .inl (by simp [take, there])
    | some w =>
      cases w with
      | sleeping due f => exact .inl (by simp [take, there])
      | ended e => exact .inl (by simp [take, there])
      | waiting generation request next =>
        exact .inr (.inr (.inl ⟨generation, request, next, o, rfl, rfl, by simp [take, there]⟩))
  | stop =>
    cases can : s.isCancellable task with
    | false => exact .inl (cancel_of_not_isCancellable can)
    | true => exact .inr (.inr (.inr ⟨rfl, rfl, cancel_of_isCancellable can⟩))

theorem frame_take (task : Nat) (t : Turn) :
    (take env s task t).scheduled = s.scheduled ∧ (take env s task t).debounce = s.debounce ∧
      (take env s task t).work.length = s.work.length ∧
      ∀ i, i ≠ task → (take env s task t).work[i]? = s.work[i]? := by
  have proceeded : ∀ (s : Session) generation x,
      (s.proceed task generation x).scheduled = s.scheduled ∧
      (s.proceed task generation x).debounce = s.debounce ∧
      (s.proceed task generation x).work.length = s.work.length ∧
      ∀ i, i ≠ task → (s.proceed task generation x).work[i]? = s.work[i]? := by
    intro s generation x
    obtain ⟨-, scheduled, debounce, w, -, work⟩ := frame_proceed (s := s) task generation x
    refine ⟨scheduled, debounce, by rw [work, List.length_set], ?_⟩
    intro i other
    rw [work, List.getElem?_set_ne (Ne.symm other)]
  have set : ∀ w : Work, (s.setWork task w).scheduled = s.scheduled ∧
      (s.setWork task w).debounce = s.debounce ∧
      (s.setWork task w).work.length = s.work.length ∧
      ∀ i, i ≠ task → (s.setWork task w).work[i]? = s.work[i]? :=
    fun w => ⟨rfl, rfl, List.length_set, fun i other => List.getElem?_set_ne (Ne.symm other)⟩
  rcases take_cases env s task t with same |
    ⟨due, f, -, ⟨-, e⟩ | ⟨-, seconds, -, e⟩ | ⟨-, p, -, e⟩⟩ |
    ⟨g, r, next, o, -, -, e⟩ | ⟨-, -, e⟩
  · rw [same]
    exact ⟨rfl, rfl, rfl, fun i other => rfl⟩
  · rw [e]
    exact proceeded { s with generation := s.generation + 1 } _ _
  · rw [e]
    exact set _
  · rw [e]
    exact set _
  · rw [e]
    exact proceeded s _ _
  · rw [e]
    exact set _

/-- A search that has ended stays as it is when its turn comes. -/
theorem take_of_ended {task : Nat} {e : Ending} (ended : s.work[task]? = some (.ended e))
    (t : Turn) : take env s task t = s := by
  rcases take_cases env s task t with same | ⟨due, f, there, -⟩ | ⟨g, r, next, o, there, -⟩ |
    ⟨can, -⟩
  · exact same
  · rw [ended] at there
    cases there
  · rw [ended] at there
    cases there
  · simp [isCancellable, ended, Work.isEnded] at can

/-- A search that does not sleep does not go to sleep. -/
theorem awake_take {task : Nat} (awake : ∀ due f, s.work[task]? ≠ some (.sleeping due f))
    (t : Turn) : ∀ due f, (take env s task t).work[task]? ≠ some (.sleeping due f) := by
  rcases take_cases env s task t with same | ⟨due, f, there, -⟩ |
    ⟨g, r, next, o, there, -, e⟩ | ⟨-, -, e⟩
  · rwa [same]
  · exact absurd there (awake due f)
  · obtain ⟨-, -, -, w, other, work⟩ := frame_proceed (s := s) task g (next o)
    intro due f
    rw [e, work, List.getElem?_set_self (List.getElem?_eq_some_iff.mp there).1]
    exact fun h => other due f (Option.some.inj h)
  · intro due f
    rw [e, setWork, List.getElem?_set]
    split
    · split <;> simp
    · exact awake due f

/-- A search that starts does not sleep any more. -/
theorem awake_start {task : Nat} (inside : task < s.work.length) (f : FilterState) :
    ∀ due g, (start env s task f).work[task]? ≠ some (.sleeping due g) := by
  obtain ⟨-, -, -, w, other, work⟩ :=
    frame_proceed (s := { s with generation := s.generation + 1 }) task (s.generation + 1)
      (Explorer.search env s.connection f)
  intro due g
  have here : (start env s task f).work = s.work.set task w := work
  rw [here, List.getElem?_set_self inside]
  exact fun h => other due g (Option.some.inj h)

end IndexExplorer.Session
