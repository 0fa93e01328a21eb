import IndexExplorer.Session

/-!
What happens to a session, one thing at a time.

An event may do several things to a session: a scheduled search calls off the one before and may
start at once, and as time goes by any number of searches may start. `history` lists these things
in their order, and every property of a run is then one of a list of actions.

* `foldl_actions`, `foldl_history`: doing the actions of an event, or of many, is what the event
  does, or the events do.
-/
namespace IndexExplorer.Session

/-- One thing that happens to a session. -/
inductive Action where
  | enroll (due : Float) (f : FilterState)
  | mark (task : Nat)
  | delay (task : Nat) (due : Float) (f : FilterState)
  | reject (task : Nat) (p : Problem)
  | callOff (task : Nat)
  | pass (seconds : Float)
  | connect (c : Connection)
  /-- a search gets the next generation and runs -/
  | issue (task : Nat) (x : Operation SearchPage)
  /-- a search sends a request and waits for the answer -/
  | await (task generation : Nat) (r : Request) (next : Outcome → Operation SearchPage)
  /-- a search has its page or its problem -/
  | finish (task generation : Nat) (r : Result SearchPage)

/-- What an action does. A search that runs stands as one that waits until its next action. -/
def act (s : Session) : Action → Session
  | .enroll due f => s.add (.sleeping due f)
  | .mark task => { s with scheduled := some task }
  | .delay task due f => s.setWork task (.sleeping due f)
  | .reject task p => s.setWork task (.ended (.failed p))
  | .callOff task => s.cancel task
  | .pass seconds => { s with clock := s.clock + seconds }
  | .connect c => { s with connection := c }
  | .issue task x =>
    { s.setWork task (.waiting (s.generation + 1) s.sent.length fun _ => x) with
      generation := s.generation + 1 }
  | .await task generation r next =>
    { s.setWork task (.waiting generation s.sent.length next) with sent := s.sent ++ [r] }
  | .finish task generation r => s.conclude task generation r

/-- The next action of a search that runs. -/
def proceedAction (task generation : Nat) : Operation SearchPage → Action
  | .done r => .finish task generation r
  | .send r next => .await task generation r next

/-- The actions of a search that starts. -/
def startActions (env : Environment) (s : Session) (task : Nat) (f : FilterState) : List Action :=
  let x := Explorer.search env s.connection f
  [.issue task x, proceedAction task (s.generation + 1) x]

/-- The actions of a search that is scheduled. -/
def scheduleActions (env : Environment) (s : Session) (f : FilterState) : List Action :=
  let before := (s.scheduled.map Action.callOff).toList ++
    [.enroll s.clock f, .mark s.work.length]
  before ++ match wait? s.debounce with
    | .ok (some seconds) => [.delay s.work.length (s.clock + seconds) f]
    | .ok none => startActions env (before.foldl act s) s.work.length f
    | .error p => [.reject s.work.length p]

/-- The actions of the searches among the first `n` whose time has come. -/
def wakeActions (env : Environment) (s : Session) : Nat → List Action
  | 0 => []
  | n + 1 =>
    let before := wakeActions env s n
    let s := before.foldl act s
    before ++ match s.work[n]? with
      | some (.sleeping due f) => if due ≤ s.clock then startActions env s n f else []
      | _ => []

/-- The action of the search that an answer reaches, if it reaches one. -/
def respondActions (s : Session) (request : Nat) (o : Outcome) : List Action :=
  match s.work.findIdx? (·.waitsFor request) with
  | some task =>
    match s.work[task]? with
    | some (.waiting generation _ next) => [proceedAction task generation (next o)]
    | _ => []
  | none => []

/-- The actions of an event. -/
def actions (env : Environment) (s : Session) : SessionEvent → List Action
  | .search f => .enroll s.clock f :: startActions env s s.work.length f
  | .schedule f => scheduleActions env s f
  | .respond request o => respondActions s request o
  | .advance seconds =>
    .pass seconds :: wakeActions env (s.act (.pass seconds)) s.work.length
  | .cancel task => [.callOff task]
  | .connect c => [.connect c]

/-- The actions of events, one after the other. -/
def history (env : Environment) (s : Session) : List SessionEvent → List Action
  | [] => []
  | e :: events => actions env s e ++ history env (step env s e) events

variable {env : Environment} {s : Session}

theorem act_proceedAction (task generation : Nat) (x : Operation SearchPage) :
    s.act (proceedAction task generation x) = s.proceed task generation x := by
  cases x with
  | done r => rfl
  | send r next => rfl

theorem setWork_setWork (task : Nat) (w v : Work) :
    (s.setWork task w).setWork task v = s.setWork task v := by
  simp [setWork]

theorem conclude_of_ne {task generation : Nat} (stale : generation ≠ s.generation)
    (r : Result SearchPage) :
    s.conclude task generation r = s.setWork task (.ended .superseded) := by
  simp [conclude, isCurrent, stale]

theorem conclude_page (task : Nat) (p : SearchPage) :
    s.conclude task s.generation (.ok p) =
      { s.setWork task (.ended (.page p)) with latest := some p, lastProblem := none } := by
  simp [conclude, isCurrent]

theorem conclude_problem (task : Nat) (e : Problem) :
    s.conclude task s.generation (.error e) =
      { s.setWork task (.ended (.failed e)) with lastProblem := some e } := by
  simp [conclude, isCurrent]

/-- What a search was before it finishes makes no difference. -/
theorem conclude_setWork (task generation : Nat) (w : Work) (r : Result SearchPage) :
    (s.setWork task w).conclude task generation r = s.conclude task generation r := by
  by_cases current : generation = s.generation
  · cases r with
    | ok p => simp [conclude, isCurrent, setWork, current]
    | error e => simp [conclude, isCurrent, setWork, current]
  · rw [conclude_of_ne current, conclude_of_ne (s := s.setWork task w) current, setWork_setWork]

theorem proceed_setWork (task generation : Nat) (w : Work) (x : Operation SearchPage) :
    (s.setWork task w).proceed task generation x = s.proceed task generation x := by
  cases x with
  | done r => exact conclude_setWork task generation w r
  | send r next => simp [proceed, setWork]

theorem foldl_startActions (task : Nat) (f : FilterState) :
    (startActions env s task f).foldl act s = start env s task f := by
  let x := Explorer.search env s.connection f
  let issued : Session := { s with generation := s.generation + 1 }
  calc (startActions env s task f).foldl act s
      = (s.act (.issue task x)).act (proceedAction task (s.generation + 1) x) := rfl
    _ = (s.act (.issue task x)).proceed task (s.generation + 1) x := act_proceedAction ..
    _ = (issued.setWork task (.waiting (s.generation + 1) s.sent.length fun _ => x)).proceed task
          (s.generation + 1) x := rfl
    _ = issued.proceed task (s.generation + 1) x := proceed_setWork ..
    _ = start env s task f := rfl

theorem foldl_wakeActions (n : Nat) : (wakeActions env s n).foldl act s = wake env s n := by
  induction n with
  | zero => rfl
  | succ n ih =>
    rw [wakeActions, wake, List.foldl_append, ih]
    cases found : (wake env s n).work[n]? with
    | none => simp
    | some w =>
      cases w with
      | sleeping due f =>
        by_cases late : due ≤ (wake env s n).clock
        · simp [late, foldl_startActions]
        · simp [late]
      | waiting generation request next => simp
      | ended e => simp

theorem foldl_respondActions (request : Nat) (o : Outcome) :
    (respondActions s request o).foldl act s = s.respond request o := by
  unfold respondActions respond
  cases s.work.findIdx? (·.waitsFor request) with
  | none => rfl
  | some task =>
    cases there : s.work[task]? with
    | none => simp [there]
    | some w =>
      cases w with
      | waiting generation r next => simp [there, act_proceedAction]
      | sleeping due f => simp [there]
      | ended e => simp [there]

/-- Calling off a search changes nothing but what has become of it. -/
theorem cancel_eq (task : Nat) :
    ∃ work : List Work, work.length = s.work.length ∧ s.cancel task = { s with work := work } := by
  unfold cancel
  split
  · split
    · exact ⟨s.work, rfl, rfl⟩
    · exact ⟨_, List.length_set, rfl⟩
  · exact ⟨s.work, rfl, rfl⟩

/-- The session with the search that was scheduled called off. -/
def disarmed (s : Session) : Session :=
  match s.scheduled with
  | some task => s.cancel task
  | none => s

/-- The session with one search more that is scheduled. -/
def armed (s : Session) (f : FilterState) : Session :=
  { s.add (.sleeping s.clock f) with scheduled := some s.work.length }

theorem schedule_eq (f : FilterState) :
    schedule env s f =
      match wait? s.disarmed.debounce with
      | .ok (some seconds) => (s.disarmed.armed f).setWork s.disarmed.work.length
          (.sleeping (s.disarmed.clock + seconds) f)
      | .ok none => start env (s.disarmed.armed f) s.disarmed.work.length f
      | .error p => (s.disarmed.armed f).setWork s.disarmed.work.length (.ended (.failed p)) := rfl

theorem disarmed_eq :
    ∃ work : List Work, work.length = s.work.length ∧ s.disarmed = { s with work := work } := by
  unfold disarmed
  split
  · exact cancel_eq _
  · exact ⟨s.work, rfl, rfl⟩

theorem foldl_callOff : (s.scheduled.map Action.callOff).toList.foldl act s = s.disarmed := by
  unfold disarmed
  cases s.scheduled with
  | none => rfl
  | some task => rfl

theorem foldl_scheduleActions (f : FilterState) :
    (scheduleActions env s f).foldl act s = schedule env s f := by
  obtain ⟨work, length, before⟩ := disarmed_eq (s := s)
  have enrolled : ((s.scheduled.map Action.callOff).toList ++
      [Action.enroll s.clock f, Action.mark s.work.length]).foldl act s = s.disarmed.armed f := by
    rw [List.foldl_append, foldl_callOff, before, armed, ← length]
    rfl
  have same : s.disarmed.debounce = s.debounce ∧ s.disarmed.clock = s.clock ∧
      s.disarmed.work.length = s.work.length := by
    rw [before]
    exact ⟨rfl, rfl, length⟩
  obtain ⟨debounce, clock, number⟩ := same
  rw [scheduleActions, List.foldl_append, enrolled, schedule_eq, debounce, clock, number]
  cases wait? s.debounce with
  | error p => rfl
  | ok t =>
    cases t with
    | none => exact foldl_startActions ..
    | some seconds => rfl

/-- Doing the actions of an event is what the event does. -/
theorem foldl_actions (e : SessionEvent) : (actions env s e).foldl act s = step env s e := by
  cases e with
  | search f => exact foldl_startActions ..
  | schedule f => exact foldl_scheduleActions f
  | respond request o => exact foldl_respondActions request o
  | advance seconds => exact foldl_wakeActions ..
  | cancel task => rfl
  | connect c => rfl

theorem foldl_history (events : List SessionEvent) :
    (history env s events).foldl act s = run env s events := by
  induction events generalizing s with
  | nil => rfl
  | cons e events ih =>
    rw [history, List.foldl_append, foldl_actions, ih]
    rfl

end IndexExplorer.Session
