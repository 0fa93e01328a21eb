import IndexExplorer.Proofs.Session.Turn

/-!
A session whose searches take turns.

An event of a session does at once all that follows from it. Underneath, searches take turns, and
anything may happen before the turn of a search comes. A `Loop` is a session with the turns that its
searches wait for, and `move` says what one thing that happens does to it.

* `move_at`: all that a move can do to a search;
* `session_of_begun`, `generation_move`: a turn at which the engine is asked starts the search and
  gives it the next generation, and nothing else gives one.
-/
namespace IndexExplorer.Session

/-- A session and the turns that its searches wait for. -/
structure Loop where
  session : Session
  turns : Nat → Option Turn := fun _ => none
  /-- the searches that were scheduled, the last one first -/
  scheduled : List Nat := []

/-- What happens to a loop. -/
inductive Move where
  | search (f : FilterState)
  | schedule (f : FilterState)
  /-- the time for which a scheduled search waits is over -/
  | expire (task : Nat)
  | answer (request : Nat) (o : Outcome)
  | cancel (task : Nat)
  | turn (task : Nat)
  | connect (c : Connection)
  | pass (seconds : Float)

namespace Loop

/-- The loop with another turn for a search. -/
def setTurn (l : Loop) (task : Nat) (t : Option Turn) : Loop :=
  { l with turns := fun i => if i = task then t else l.turns i }

/-- The loop with a search told to stop, unless it has ended. -/
def callOff (l : Loop) (task : Nat) : Loop :=
  if l.session.isCancellable task then l.setTurn task (some .stop) else l

/-- The loop with one search more, whose first turn is to come. -/
def enroll (l : Loop) (f : FilterState) (t : Turn) : Loop :=
  { l.setTurn l.session.work.length (some t) with
    session := l.session.add (.sleeping l.session.clock f) }

/-- The loop with the search that was scheduled told to stop. -/
def disarmed (l : Loop) : Loop :=
  match l.session.scheduled with
  | some task => l.callOff task
  | none => l

/-- What a move does. An answer and the end of a wait count only for a search that has no other
turn to come. -/
def move (env : Environment) (l : Loop) : Move → Loop
  | .search f => l.enroll f .ask
  | .schedule f =>
    let task := l.session.work.length
    let l := l.disarmed.enroll f .wait
    { l with
      session := { l.session with scheduled := some task }
      scheduled := task :: l.scheduled }
  | .expire task =>
    match l.turns task, l.session.work[task]? with
    | none, some (.sleeping _ _) => l.setTurn task (some .ask)
    | _, _ => l
  | .answer request o =>
    match l.session.work.findIdx? (·.waitsFor request) with
    | some task => if (l.turns task).isNone then l.setTurn task (some (.resume o)) else l
    | none => l
  | .cancel task => l.callOff task
  | .turn task =>
    match l.turns task with
    | some t => { l.setTurn task none with session := l.session.take env task t }
    | none => l
  | .connect c => { l with session := { l.session with connection := c } }
  | .pass seconds => { l with session := { l.session with clock := l.session.clock + seconds } }

/-- The search that asks the engine at a move, and what it asks for. -/
def begun (l : Loop) : Move → Option (Nat × FilterState)
  | .turn task =>
    match l.turns task, l.session.work[task]? with
    | some .ask, some (.sleeping _ f) => some (task, f)
    | some .wait, some (.sleeping _ f) =>
      match wait? l.session.debounce with
      | .ok none => some (task, f)
      | _ => none
    | _, _ => none
  | _ => none

/-- The searches that ask the engine when moves are made one after the other. -/
def searches (env : Environment) : Loop → List Move → List (Nat × FilterState)
  | _, [] => []
  | l, m :: ms => (l.begun m).toList ++ searches env (l.move env m) ms

end Loop

variable {env : Environment} {s : Session} {l : Loop}

namespace Loop

/-! ## What a move does -/

theorem turns_setTurn (task i : Nat) (t : Option Turn) :
    (l.setTurn task t).turns i = if i = task then t else l.turns i := rfl

theorem session_callOff (task : Nat) : (l.callOff task).session = l.session := by
  unfold callOff
  split <;> rfl

theorem session_disarmed : l.disarmed.session = l.session := by
  unfold disarmed
  split
  · exact session_callOff _
  · rfl

theorem scheduled_callOff (task : Nat) : (l.callOff task).scheduled = l.scheduled := by
  unfold callOff
  split <;> rfl

theorem scheduled_disarmed : l.disarmed.scheduled = l.scheduled := by
  unfold disarmed
  split
  · exact scheduled_callOff _
  · rfl

/-- Telling a search to stop leaves the turns of all others. -/
theorem turns_callOff (task i : Nat) :
    (l.callOff task).turns i = l.turns i ∨
      i = task ∧ l.session.isCancellable i ∧ (l.callOff task).turns i = some .stop := by
  unfold callOff
  split
  · rename_i can
    by_cases here : i = task
    · subst here
      exact .inr ⟨rfl, can, by simp [turns_setTurn]⟩
    · exact .inl (by simp [turns_setTurn, here])
  · exact .inl rfl

theorem turns_schedule (f : FilterState) {i : Nat} (inside : i < l.session.work.length) :
    (l.move env (.schedule f)).turns i = l.disarmed.turns i := by
  simp [move, enroll, turns_setTurn, session_disarmed, Nat.ne_of_lt inside]

theorem work_schedule (f : FilterState) :
    (l.move env (.schedule f)).session.work =
      l.session.work ++ [.sleeping l.session.clock f] := by
  simp [move, enroll, session_disarmed, add]

/-- All that a move can do to a search that is there. -/
theorem move_at (env : Environment) (l : Loop) (m : Move) {i : Nat}
    (inside : i < l.session.work.length) :
    (m = .turn i ∧ ∃ t, l.turns i = some t ∧
      (l.move env m).session = take env l.session i t ∧ (l.move env m).turns i = none) ∨
    (l.move env m).session.work[i]? = l.session.work[i]? ∧
      ((l.move env m).turns i = l.turns i ∨
      (m = .expire i ∧ l.turns i = none ∧ (∃ due f, l.session.work[i]? = some (.sleeping due f)) ∧
        (l.move env m).turns i = some .ask) ∨
      (∃ r o, m = .answer r o ∧ l.turns i = none ∧
        (∀ due f, l.session.work[i]? ≠ some (.sleeping due f)) ∧
        (l.move env m).turns i = some (.resume o)) ∨
      ((m = .cancel i ∨ ∃ f, m = .schedule f) ∧ l.session.isCancellable i ∧
        (l.move env m).turns i = some .stop)) := by
  cases m with
  | search f =>
    refine .inr ⟨List.getElem?_append_left inside, .inl ?_⟩
    simp [move, enroll, turns_setTurn, Nat.ne_of_lt inside]
  | schedule f =>
    refine .inr ⟨by rw [work_schedule, List.getElem?_append_left inside], ?_⟩
    rw [turns_schedule f inside]
    unfold disarmed
    split
    · rcases turns_callOff (l := l) ‹Nat› i with same | ⟨-, can, stop⟩
      · exact .inl same
      · exact .inr (.inr (.inr ⟨.inr ⟨f, rfl⟩, can, stop⟩))
    · exact .inl rfl
  | expire task =>
    simp only [move]
    split
    · rename_i due f idle there
      refine .inr ⟨rfl, ?_⟩
      by_cases here : i = task
      · subst here
        exact .inr (.inl ⟨rfl, idle, ⟨due, f, there⟩, by simp [turns_setTurn]⟩)
      · exact .inl (by simp [turns_setTurn, here])
    · exact .inr ⟨rfl, .inl rfl⟩
  | answer request o =>
    simp only [move]
    split
    · rename_i task found
      split
      · rename_i idle
        refine .inr ⟨rfl, ?_⟩
        by_cases here : i = task
        · subst here
          refine .inr (.inr (.inl
            ⟨request, o, rfl, by simpa using idle, ?_, by simp [turns_setTurn]⟩))
          intro due f there
          obtain ⟨lt, waits, -⟩ := List.findIdx?_eq_some_iff_getElem.mp found
          rw [List.getElem?_eq_getElem lt] at there
          rw [Option.some.inj there] at waits
          simp [Work.waitsFor] at waits
        · exact .inl (by simp [turns_setTurn, here])
      · exact .inr ⟨rfl, .inl rfl⟩
    · exact .inr ⟨rfl, .inl rfl⟩
  | cancel task =>
    refine .inr ⟨by simp [move, session_callOff], ?_⟩
    rcases turns_callOff (l := l) task i with same | ⟨rfl, can, stop⟩
    · exact .inl same
    · exact .inr (.inr (.inr ⟨.inl rfl, can, stop⟩))
  | turn task =>
    by_cases here : i = task
    · subst here
      cases due : l.turns i with
      | none => exact .inr ⟨by simp [move, due], .inl (by simp [move, due])⟩
      | some t =>
        exact .inl ⟨rfl, t, rfl, by simp [move, due], by simp [move, due, turns_setTurn]⟩
    · refine .inr ⟨?_, .inl ?_⟩
      · simp only [move]
        split
        · exact (frame_take task _).2.2.2 i here
        · rfl
      · simp only [move]
        split
        · simp [turns_setTurn, here]
        · rfl
  | connect c => exact .inr ⟨rfl, .inl rfl⟩
  | pass seconds => exact .inr ⟨rfl, .inl rfl⟩

theorem begun_eq_some_iff {m : Move} {i : Nat} {f : FilterState} :
    l.begun m = some (i, f) ↔
      m = .turn i ∧ ∃ t due, l.turns i = some t ∧ l.session.work[i]? = some (.sleeping due f) ∧
        (t = .ask ∨ t = .wait ∧ wait? l.session.debounce = .ok none) := by
  constructor
  · intro h
    cases m with
    | turn task =>
      simp only [begun] at h
      split at h
      · rename_i due g turn there
        cases h
        exact ⟨rfl, .ask, due, turn, there, .inl rfl⟩
      · rename_i due g turn there
        split at h
        · rename_i look
          cases h
          exact ⟨rfl, .wait, due, turn, there, .inr ⟨rfl, look⟩⟩
        · cases h
      · cases h
    | _ => cases h
  · rintro ⟨rfl, t, due, turn, there, rfl | ⟨rfl, look⟩⟩
    · simp [begun, turn, there]
    · simp [begun, turn, there, look]

/-- A turn at which the engine is asked starts the search. -/
theorem session_of_begun {m : Move} {i : Nat} {f : FilterState} (h : l.begun m = some (i, f)) :
    m = .turn i ∧ (l.move env m).session = start env l.session i f := by
  obtain ⟨rfl, t, due, turn, there, asks⟩ := begun_eq_some_iff.mp h
  refine ⟨rfl, ?_⟩
  rcases asks with rfl | ⟨rfl, look⟩
  · simp [move, turn, take, there]
  · simp [move, turn, take, there, look]

/-- Whenever the engine is asked the next generation is given, and at no other move. -/
theorem generation_move (env : Environment) (l : Loop) (m : Move) :
    (l.move env m).session.generation = l.session.generation + (l.begun m).toList.length := by
  cases asked : l.begun m with
  | some o =>
    obtain ⟨i, f⟩ := o
    rw [(session_of_begun asked).2]
    exact (frame_proceed (s := { l.session with generation := l.session.generation + 1 }) i _ _).1
  | none =>
    cases m with
    | search f => rfl
    | schedule f =>
      show l.disarmed.session.generation = l.session.generation
      rw [session_disarmed]
    | expire task =>
      simp only [move]
      split <;> rfl
    | answer request o =>
      simp only [move]
      split
      · split <;> rfl
      · rfl
    | cancel task => exact congrArg Session.generation (session_callOff task)
    | connect c => rfl
    | pass seconds => rfl
    | turn task =>
      cases turn : l.turns task with
      | none => simp [move, turn]
      | some t =>
        have session : (l.move env (.turn task)).session = take env l.session task t := by
          simp [move, turn]
        rw [session]
        rcases take_cases env l.session task t with same |
          ⟨due, f, there, ⟨asks, -⟩ | ⟨-, seconds, -, e⟩ | ⟨-, p, -, e⟩⟩ |
          ⟨g, r, next, o, -, -, e⟩ | ⟨-, -, e⟩
        · rw [same]
          rfl
        · have begins : l.begun (.turn task) = some (task, f) :=
            begun_eq_some_iff.mpr ⟨rfl, t, due, turn, there, asks⟩
          rw [asked] at begins
          cases begins
        · rw [e]
          rfl
        · rw [e]
          rfl
        · rw [e]
          exact (frame_proceed task g (next o)).1
        · rw [e]
          rfl

/-- Searches are scheduled one by one, and get the next number. -/
theorem scheduled_move (env : Environment) (l : Loop) (m : Move) :
    (l.move env m).scheduled =
      match m with
      | .schedule _ => l.session.work.length :: l.scheduled
      | _ => l.scheduled := by
  cases m with
  | schedule f =>
    show l.session.work.length :: l.disarmed.scheduled = l.session.work.length :: l.scheduled
    rw [scheduled_disarmed]
  | search f => rfl
  | connect c => rfl
  | pass seconds => rfl
  | expire task =>
    simp only [move]
    split <;> rfl
  | answer request o =>
    simp only [move]
    split
    · split <;> rfl
    · rfl
  | cancel task => exact scheduled_callOff task
  | turn task =>
    simp only [move]
    split <;> rfl

/-! ## Runs -/

/-- What moves do, one after the other. -/
def run (env : Environment) (l : Loop) (ms : List Move) : Loop := ms.foldl (move env) l

theorem run_append (ms ns : List Move) : l.run env (ms ++ ns) = (l.run env ms).run env ns :=
  List.foldl_append

theorem searches_append (ms ns : List Move) :
    l.searches env (ms ++ ns) = l.searches env ms ++ (l.run env ms).searches env ns := by
  induction ms generalizing l with
  | nil => rfl
  | cons m ms ih => simp [searches, run, ih]

theorem generation_run (ms : List Move) :
    (l.run env ms).session.generation =
      l.session.generation + (l.searches env ms).length := by
  induction ms generalizing l with
  | nil => rfl
  | cons m ms ih =>
    have later : (l.run env (m :: ms)).session.generation =
        (l.move env m).session.generation + ((l.move env m).searches env ms).length := ih
    rw [later, generation_move, searches, List.length_append]
    omega

end Loop

end IndexExplorer.Session
