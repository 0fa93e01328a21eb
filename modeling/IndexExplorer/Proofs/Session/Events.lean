import IndexExplorer.Proofs.Session.Move

/-!
The events of a session as moves of its loop.

An event is done at once: each turn to which it leads is taken before anything else happens.

* `run_moves`, `session_run_movesOf`: with every turn taken at once, the moves of an event are what
  the event does, so that every run of a session is a run of its loop.
-/
namespace IndexExplorer.Session

/-- The moves by which the searches among the first `n` start whose time has come. -/
def wakeMoves (env : Environment) (s : Session) : Nat → List Move
  | 0 => []
  | n + 1 =>
    wakeMoves env s n ++ match (wake env s n).work[n]? with
      | some (.sleeping due _) =>
        if due ≤ (wake env s n).clock then [.expire n, .turn n] else []
      | _ => []

/-- The moves of an event, when every turn is taken at once. -/
def moves (env : Environment) (s : Session) : SessionEvent → List Move
  | .search f => [.search f, .turn s.work.length]
  | .schedule f =>
    .schedule f :: ((s.scheduled.filter (s.isCancellable ·)).map Move.turn).toList ++
      [.turn s.work.length]
  | .respond request o =>
    .answer request o :: ((s.work.findIdx? (·.waitsFor request)).map Move.turn).toList
  | .advance seconds =>
    .pass seconds :: wakeMoves env { s with clock := s.clock + seconds } s.work.length
  | .cancel task => [.cancel task, .turn task]
  | .connect c => [.connect c]

/-- The moves of events, one after the other. -/
def movesOf (env : Environment) (s : Session) : List SessionEvent → List Move
  | [] => []
  | e :: events => moves env s e ++ movesOf env (step env s e) events

/-- The searches that have been scheduled after an event. -/
def scheduledAfter (s : Session) (scheduled : List Nat) : SessionEvent → List Nat
  | .schedule _ => s.work.length :: scheduled
  | _ => scheduled

variable {env : Environment} {s : Session}

namespace Loop

/-- A session in which no search has a turn to come. -/
def atRest (s : Session) (scheduled : List Nat) : Loop := { session := s, scheduled }

/-- A turn that is taken leaves the session at rest. -/
theorem run_turn (task : Nat) (t : Turn) (scheduled : List Nat) :
    ((atRest s scheduled).setTurn task (some t)).run env [.turn task] =
      atRest (take env s task t) scheduled := by
  have idle : (fun i => if i = task then none else if i = task then some t else none) =
      fun _ : Nat => (none : Option Turn) := by
    funext i
    split <;> rfl
  simp [run, move, atRest, setTurn, idle]

theorem run_search (f : FilterState) (scheduled : List Nat) :
    (atRest s scheduled).run env (moves env s (.search f)) =
      atRest (step env s (.search f)) scheduled := by
  let enrolled := s.add (.sleeping s.clock f)
  have there : enrolled.work[s.work.length]? = some (.sleeping s.clock f) := by
    simp [enrolled, add]
  calc (atRest s scheduled).run env (moves env s (.search f))
      = ((atRest enrolled scheduled).setTurn s.work.length (some .ask)).run env
          [.turn s.work.length] := rfl
    _ = atRest (take env enrolled s.work.length .ask) scheduled := run_turn ..
    _ = atRest (start env enrolled s.work.length f) scheduled := by simp only [take, there]

theorem run_answer (request : Nat) (o : Outcome) (scheduled : List Nat) :
    (atRest s scheduled).run env (moves env s (.respond request o)) =
      atRest (s.respond request o) scheduled := by
  cases found : s.work.findIdx? (·.waitsFor request) with
  | none => simp [run, moves, move, atRest, found, Session.respond]
  | some task =>
    have told : (atRest s scheduled).move env (.answer request o) =
        (atRest s scheduled).setTurn task (some (.resume o)) := by
      simp [move, atRest, found]
    have taken : take env s task (.resume o) = s.respond request o := by
      simp only [Session.respond, found]
      rfl
    calc (atRest s scheduled).run env (moves env s (.respond request o))
        = ((atRest s scheduled).move env (.answer request o)).run env [.turn task] := by
          simp [moves, run, found]
      _ = atRest (s.respond request o) scheduled := by rw [told, run_turn, taken]

theorem run_cancel (task : Nat) (scheduled : List Nat) :
    (atRest s scheduled).run env (moves env s (.cancel task)) =
      atRest (s.cancel task) scheduled := by
  cases can : s.isCancellable task with
  | false => simp [run, moves, move, callOff, atRest, can, cancel_of_not_isCancellable can]
  | true =>
    have told : (atRest s scheduled).move env (.cancel task) =
        (atRest s scheduled).setTurn task (some .stop) := by
      simp [move, callOff, atRest, can]
    calc (atRest s scheduled).run env (moves env s (.cancel task))
        = ((atRest s scheduled).move env (.cancel task)).run env [.turn task] := rfl
      _ = atRest (s.cancel task) scheduled := by rw [told, run_turn, take]

/-- A search whose time has come starts. -/
theorem run_expire {task : Nat} {due : Float} {f : FilterState}
    (there : s.work[task]? = some (.sleeping due f)) (scheduled : List Nat) :
    (atRest s scheduled).run env [.expire task, .turn task] =
      atRest (start env s task f) scheduled := by
  have told : (atRest s scheduled).move env (.expire task) =
      (atRest s scheduled).setTurn task (some .ask) := by
    simp [move, atRest, there]
  calc (atRest s scheduled).run env [.expire task, .turn task]
      = ((atRest s scheduled).move env (.expire task)).run env [.turn task] := rfl
    _ = atRest (start env s task f) scheduled := by rw [told, run_turn, take, there]

theorem run_wakeMoves (n : Nat) (scheduled : List Nat) :
    (atRest s scheduled).run env (wakeMoves env s n) = atRest (wake env s n) scheduled := by
  induction n with
  | zero => rfl
  | succ n ih =>
    rw [wakeMoves, run_append, ih, wake]
    cases there : (wake env s n).work[n]? with
    | none => simp [run]
    | some w =>
      cases w with
      | sleeping due f =>
        by_cases late : due ≤ (wake env s n).clock
        · simp only [late, ↓reduceIte]
          exact run_expire there scheduled
        · simp [late, run]
      | waiting generation request next => simp [run]
      | ended e => simp [run]

/-- A search is called off before another one is added, or after. -/
theorem cancel_armed {task : Nat} (can : s.isCancellable task) (f : FilterState) :
    (s.armed f).cancel task = (s.cancel task).armed f := by
  have inside := lt_of_isCancellable can
  have still : (s.armed f).isCancellable task = true := by
    simp only [isCancellable, armed, add] at can ⊢
    rwa [List.getElem?_append_left inside]
  rw [cancel_of_isCancellable can, cancel_of_isCancellable still]
  simp [armed, add, setWork, List.set_append_left _ _ inside]

/-- The turn of a search that has just been scheduled. -/
theorem take_armed (env : Environment) (s : Session) (f : FilterState) :
    take env (s.disarmed.armed f) s.disarmed.work.length .wait = schedule env s f := by
  have there : (s.disarmed.armed f).work[s.disarmed.work.length]? =
      some (.sleeping s.disarmed.clock f) := by simp [armed, add]
  rw [schedule_eq]
  simp only [take, there]
  rfl

theorem run_schedule (f : FilterState) (scheduled : List Nat) :
    (atRest s scheduled).run env (moves env s (.schedule f)) =
      atRest (schedule env s f) (s.work.length :: scheduled) := by
  have length : s.disarmed.work.length = s.work.length := by
    obtain ⟨work, same, e⟩ := disarmed_eq (s := s)
    rw [e]
    exact same
  have last := take_armed env s f
  rw [length] at last
  cases before : s.scheduled.filter (s.isCancellable ·) with
  | none =>
    have armed : (atRest s scheduled).disarmed = atRest s scheduled ∧ s.disarmed = s := by
      cases none : s.scheduled with
      | none => exact ⟨by simp [disarmed, atRest, none], by simp [Session.disarmed, none]⟩
      | some task =>
        have ended : s.isCancellable task = false := by
          simpa [none, Option.filter_eq_none_iff] using before
        refine ⟨by simp [disarmed, atRest, none, callOff, ended], ?_⟩
        simp [Session.disarmed, none, cancel_of_not_isCancellable ended]
    rw [armed.2] at last
    have told : (atRest s scheduled).move env (.schedule f) =
        (atRest (s.armed f) (s.work.length :: scheduled)).setTurn s.work.length (some .wait) := by
      simp only [move, armed.1]
      rfl
    calc (atRest s scheduled).run env (moves env s (.schedule f))
        = ((atRest s scheduled).move env (.schedule f)).run env [.turn s.work.length] := by
          simp [moves, run, before]
      _ = atRest (schedule env s f) (s.work.length :: scheduled) := by rw [told, run_turn, last]
  | some task =>
    obtain ⟨scheduled_eq, can⟩ := Option.filter_eq_some_iff.mp before
    have other : task ≠ s.work.length := Nat.ne_of_lt (lt_of_isCancellable can)
    have called : s.disarmed = s.cancel task := by simp [Session.disarmed, scheduled_eq]
    rw [called] at last
    have told : (atRest s scheduled).move env (.schedule f) =
        ((atRest (s.armed f) (s.work.length :: scheduled)).setTurn task (some .stop)).setTurn
          s.work.length (some .wait) := by
      simp only [move, disarmed, atRest, scheduled_eq, callOff, can, ↓reduceIte]
      rfl
    have stopped : (((atRest (s.armed f) (s.work.length :: scheduled)).setTurn task
        (some .stop)).setTurn s.work.length (some .wait)).move env (.turn task) =
        (atRest ((s.cancel task).armed f) (s.work.length :: scheduled)).setTurn s.work.length
          (some .wait) := by
      have idle : (fun i => if i = task then none else if i = s.work.length then some Turn.wait
          else if i = task then some Turn.stop else none) =
          fun i => if i = s.work.length then some Turn.wait else none := by
        funext i
        by_cases here : i = task
        · simp [here, other]
        · simp [here]
      rw [← cancel_armed can]
      simp [move, setTurn, atRest, take, other, idle]
    calc (atRest s scheduled).run env (moves env s (.schedule f))
        = (((atRest s scheduled).move env (.schedule f)).move env (.turn task)).run env
            [.turn s.work.length] := by simp [moves, run, before]
      _ = atRest (schedule env s f) (s.work.length :: scheduled) := by
          rw [told, stopped, run_turn, last]

/-- The moves of an event, with every turn taken at once, are what the event does. -/
theorem run_moves (e : SessionEvent) (scheduled : List Nat) :
    (atRest s scheduled).run env (moves env s e) =
      atRest (step env s e) (scheduledAfter s scheduled e) := by
  cases e with
  | search f => exact run_search f scheduled
  | schedule f => exact run_schedule f scheduled
  | respond request o => exact run_answer request o scheduled
  | advance seconds => exact run_wakeMoves (s := { s with clock := s.clock + seconds }) _ scheduled
  | cancel task => exact run_cancel task scheduled
  | connect c => rfl

/-- Every run of a session is a run of its loop. -/
theorem session_run_movesOf (events : List SessionEvent) (scheduled : List Nat) :
    ((atRest s scheduled).run env (movesOf env s events)).session = Session.run env s events := by
  induction events generalizing s scheduled with
  | nil => rfl
  | cons e events ih =>
    rw [movesOf, run_append, run_moves, ih]
    rfl

end Loop

end IndexExplorer.Session
