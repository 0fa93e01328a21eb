import IndexExplorer.Explorer

/-!
A session of searches by one user.

Every search that starts gets the next generation, and only the result of the newest one is kept:
an older search that finishes later changes nothing. A scheduled search waits for a while first,
and scheduling another one calls off the one before.

A session is a state, and `step` says what an event does to it. Searches that wait for an answer
are kept as the programs they are.
-/
namespace IndexExplorer

/-- How a search ended. -/
inductive Ending where
  | page (p : SearchPage)
  | superseded
  | cancelled
  | failed (p : Problem)

/-- What has become of a search: it waits for its time, it waits for the answer to a request, or it
has ended. -/
inductive Work where
  | sleeping (due : Float) (filters : FilterState)
  | waiting (generation request : Nat) (next : Outcome → Operation SearchPage)
  | ended (e : Ending)

namespace Work

/-- The search has ended. -/
def isEnded : Work → Bool
  | .ended _ => true
  | _ => false

/-- The search waits for the answer to this request. -/
def waitsFor (request : Nat) : Work → Bool
  | .waiting _ r _ => r = request
  | _ => false

end Work

/-- A session. Searches and requests are known by their number, in the order in which they were
started and sent. -/
structure Session where
  connection : Connection
  /-- how long a scheduled search waits, in seconds, as it was given -/
  debounce : Json
  latest : Option SearchPage := none
  lastProblem : Option Problem := none
  generation : Nat := 0
  /-- seconds since the session began -/
  clock : Float := 0
  scheduled : Option Nat := none
  work : List Work := []
  sent : List Request := []

/-- What happens to a session. -/
inductive SessionEvent where
  | search (f : FilterState)
  | schedule (f : FilterState)
  | respond (request : Nat) (o : Outcome)
  | advance (seconds : Float)
  | cancel (task : Nat)
  | connect (c : Connection)

namespace Session

/-- How long scheduled searches wait: what is given, unless it is null. -/
def debounceOf (given : Json) : Json :=
  match given with
  | .null => .float 0.4
  | v => v

/-- The seconds to wait before a search that was scheduled, if any. Only a number tells. -/
def wait? (debounce : Json) : Result (Option Float) :=
  match debounce with
  | .int n => if n ≤ 0 then .ok none else ((Json.int n).toFloat).map some
  | .bool b => .ok (if b then some 1 else none)
  | .float x => .ok (if x > 0 then some x else none)
  | _ => .error .wrongKind

/-- A generation is the newest one. -/
def isCurrent (s : Session) (generation : Nat) : Bool := generation = s.generation

/-- A value is the number of the newest generation. -/
def isCurrentValue (s : Session) (v : Json) : Bool :=
  match v with
  | .int n => n = s.generation
  | .bool b => (if b then 1 else 0) = s.generation
  | .float x => x == Number.ofInt s.generation
  | _ => false

/-- The state of a search, changed. -/
def setWork (s : Session) (task : Nat) (w : Work) : Session := { s with work := s.work.set task w }

/-- A search that has finished: its result or problem is kept if it is the newest. -/
def conclude (s : Session) (task generation : Nat) (r : Result SearchPage) : Session :=
  if s.isCurrent generation then
    match r with
    | .ok p => { s.setWork task (.ended (.page p)) with latest := some p, lastProblem := none }
    | .error e => { s.setWork task (.ended (.failed e)) with lastProblem := some e }
  else s.setWork task (.ended .superseded)

/-- A search up to its next request, or to its end. -/
def proceed (s : Session) (task generation : Nat) (x : Operation SearchPage) : Session :=
  match x with
  | .done r => s.conclude task generation r
  | .send r next =>
    { s.setWork task (.waiting generation s.sent.length next) with sent := s.sent ++ [r] }

/-- A search starts: it gets the next generation, and the connection of this moment. -/
def start (env : Environment) (s : Session) (task : Nat) (f : FilterState) : Session :=
  let s := { s with generation := s.generation + 1 }
  s.proceed task s.generation (Explorer.search env s.connection f)

/-- A search is called off, unless it has ended. -/
def cancel (s : Session) (task : Nat) : Session :=
  match s.work[task]? with
  | some w => if w.isEnded then s else s.setWork task (.ended .cancelled)
  | none => s

/-- The search can still be called off. -/
def isCancellable (s : Session) (task : Nat) : Bool :=
  match s.work[task]? with
  | some w => !w.isEnded
  | none => false

/-- One search more. -/
def add (s : Session) (w : Work) : Session := { s with work := s.work ++ [w] }

/-- The search scheduled before is called off, and this one waits, if there is a time to wait. -/
def schedule (env : Environment) (s : Session) (f : FilterState) : Session :=
  let s := match s.scheduled with
    | some task => s.cancel task
    | none => s
  let task := s.work.length
  let s := { s.add (.sleeping s.clock f) with scheduled := some task }
  match wait? s.debounce with
  | .ok (some seconds) => s.setWork task (.sleeping (s.clock + seconds) f)
  | .ok none => start env s task f
  | .error p => s.setWork task (.ended (.failed p))

/-- The searches among the first `n` whose time has come start. -/
def wake (env : Environment) (s : Session) : Nat → Session
  | 0 => s
  | n + 1 =>
    let s := wake env s n
    match s.work[n]? with
    | some (.sleeping due f) => if due ≤ s.clock then start env s n f else s
    | _ => s

/-- The answer to a request reaches the search that waits for it, if one does. -/
def respond (s : Session) (request : Nat) (o : Outcome) : Session :=
  match s.work.findIdx? (·.waitsFor request) with
  | some task =>
    match s.work[task]? with
    | some (.waiting generation _ next) => s.proceed task generation (next o)
    | _ => s
  | none => s

/-- What an event does. -/
def step (env : Environment) (s : Session) : SessionEvent → Session
  | .search f =>
    let task := s.work.length
    start env (s.add (.sleeping s.clock f)) task f
  | .schedule f => schedule env s f
  | .respond request o => s.respond request o
  | .advance seconds =>
    let s := { s with clock := s.clock + seconds }
    wake env s s.work.length
  | .cancel task => s.cancel task
  | .connect c => { s with connection := c }

/-- What events do, one after the other. -/
def run (env : Environment) (s : Session) (events : List SessionEvent) : Session :=
  events.foldl (step env) s

end Session

end IndexExplorer
