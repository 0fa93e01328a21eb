import IndexExplorer.Proofs.Session.Superseded

/-!
Scheduling supersedes.

* `not_mem_scheduled_of_searches`: no search asks the engine before its wait is over;
* `searches_of_fresh`, `asks_of_fresh`: a search that is left to run asks the engine once;
* `scheduling_supersedes`: of the searches that are scheduled at most the last one is active, those
  before it do nothing any more, and of a burst only the last one asks the engine.
-/
namespace IndexExplorer.Session

namespace Loop

/-- The search sleeps, or is about to ask the engine. -/
def Fresh (l : Loop) (i : Nat) (f : FilterState) : Prop :=
  (∃ due, l.session.work[i]? = some (.sleeping due f)) ∧
    (l.turns i = none ∨ l.turns i = some .wait ∨ l.turns i = some .ask)

/-- The search does not sleep, so that it has asked the engine or will never do so. -/
def Awake (l : Loop) (i : Nat) : Prop :=
  i < l.session.work.length ∧ ∀ due f, l.session.work[i]? ≠ some (.sleeping due f)

/-- The scheduled search whose wait is over at a move. One that need not wait is through with it at
its first turn. -/
def expired (l : Loop) : Move → Option Nat
  | .expire task =>
    match l.turns task, l.session.work[task]? with
    | none, some (.sleeping _ _) => some task
    | _, _ => none
  | .turn task =>
    match l.turns task, l.session.work[task]? with
    | some .wait, some (.sleeping _ _) =>
      match wait? l.session.debounce with
      | .ok none => some task
      | _ => none
    | _, _ => none
  | _ => none

/-- The scheduled searches whose waits are over, in order. -/
def expiries (env : Environment) : Loop → List Move → List Nat
  | _, [] => []
  | l, m :: ms => (l.expired m).toList ++ expiries env (l.move env m) ms

variable {env : Environment} {l : Loop} {i : Nat}

/-! ## Before a wait is over -/

theorem mem_scheduled_of_move {m : Move} (mem : i ∈ (l.move env m).scheduled)
    (inside : i < l.session.work.length) : i ∈ l.scheduled := by
  rw [scheduled_move] at mem
  split at mem
  · rcases List.mem_cons.mp mem with rfl | mem
    · exact absurd inside (Nat.lt_irrefl _)
    · exact mem
  · exact mem

theorem mem_scheduled_of_run {ms : List Move} (mem : i ∈ (l.run env ms).scheduled)
    (inside : i < l.session.work.length) : i ∈ l.scheduled := by
  induction ms generalizing l with
  | nil => exact mem
  | cons m ms ih =>
    exact mem_scheduled_of_move
      (ih mem (Nat.lt_of_lt_of_le inside (length_le_move env l m))) inside

/-- A scheduled search asks the engine when its wait is over, or when it has been over before. -/
theorem expired_of_begun {m : Move} {f : FilterState} (asks : l.begun m = some (i, f)) :
    l.expired m = some i ∨ l.turns i = some .ask := by
  obtain ⟨rfl, t, due, turn, there, rfl | ⟨rfl, look⟩⟩ := begun_eq_some_iff.mp asks
  · exact .inr turn
  · exact .inl (by simp [expired, turn, there, look])

/-- Only the end of its wait lets a scheduled search ask the engine. -/
theorem not_ask_move {m : Move} (ordered : l.Ordered)
    (mem : i ∈ (l.move env m).scheduled) (quiet : l.expired m ≠ some i)
    (before : i ∈ l.scheduled → l.turns i ≠ some .ask) : (l.move env m).turns i ≠ some .ask := by
  rcases Nat.lt_or_ge i l.session.work.length with inside | outside
  · have old := before (mem_scheduled_of_move mem inside)
    rcases move_at env l m inside with ⟨-, t, -, -, none⟩ |
      ⟨-, same | ⟨rfl, idle, ⟨due, f, there⟩, -⟩ | ⟨r, o, -, -, -, resume⟩ | ⟨-, -, stop⟩⟩
    · simp [none]
    · rwa [same]
    · exact absurd (by simp [expired, idle, there]) quiet
    · simp [resume]
    · simp [stop]
  · rw [scheduled_move] at mem
    split at mem
    · rcases List.mem_cons.mp mem with rfl | mem
      · simp [move, enroll, turns_setTurn, session_disarmed]
      · exact absurd (ordered.inside i mem) (Nat.not_lt.mpr outside)
    · exact absurd (ordered.inside i mem) (Nat.not_lt.mpr outside)

/-- While none of the searches from a number on is through with its wait, none of those among them
that are scheduled asks the engine. -/
theorem not_mem_scheduled_of_searches {base : Nat} {ms : List Move} (ordered : l.Ordered)
    (dormant : ∀ i ∈ l.scheduled, base ≤ i → l.turns i ≠ some .ask)
    (quiet : ∀ i ∈ l.expiries env ms, i < base) :
    ∀ o ∈ l.searches env ms, base ≤ o.1 → o.1 ∉ (l.run env ms).scheduled := by
  induction ms generalizing l with
  | nil => exact fun o mem => absurd mem List.not_mem_nil
  | cons m ms ih =>
    have now : ∀ i, l.expired m = some i → i < base := fun i e =>
      quiet i (List.mem_append_left _ (by simp [e]))
    have later : ∀ i ∈ (l.move env m).expiries env ms, i < base := fun i mem =>
      quiet i (List.mem_append_right _ mem)
    intro o mem new scheduled
    rcases List.mem_append.mp mem with here | there
    · obtain ⟨i, f⟩ := o
      have asks : l.begun m = some (i, f) := Option.mem_toList.mp here
      obtain ⟨rfl, t, due, turn, sleeping, -⟩ := begun_eq_some_iff.mp asks
      have inside := (List.getElem?_eq_some_iff.mp sleeping).1
      rcases expired_of_begun asks with past | ask
      · exact absurd (now i past) (Nat.not_lt.mpr new)
      · have since : i ∈ (l.run env (.turn i :: ms)).scheduled := scheduled
        exact dormant i (mem_scheduled_of_run since inside) new ask
    · refine ih (ordered_move ordered m) ?_ later o there new scheduled
      intro i mem new
      exact not_ask_move ordered mem (fun e => absurd (now i e) (Nat.not_lt.mpr new))
        fun before => dormant i before new

/-! ## A search that is left to run -/

theorem debounce_move (env : Environment) (l : Loop) (m : Move) :
    (l.move env m).session.debounce = l.session.debounce := by
  cases m with
  | schedule f =>
    show l.disarmed.session.debounce = l.session.debounce
    rw [session_disarmed]
  | search f => rfl
  | connect c => rfl
  | pass seconds => rfl
  | expire task =>
    simp only [move]
    split <;> rfl
  | answer request o =>
    simp only [move]
    split
    · split <;> rfl
    · rfl
  | cancel task => exact congrArg Session.debounce (session_callOff task)
  | turn task =>
    simp only [move]
    split
    · exact (frame_take task _).2.1
    · rfl

theorem awake_move (awake : l.Awake i) (m : Move) : (l.move env m).Awake i := by
  obtain ⟨inside, up⟩ := awake
  refine ⟨Nat.lt_of_lt_of_le inside (length_le_move env l m), ?_⟩
  rcases move_at env l m inside with ⟨-, t, -, session, -⟩ | ⟨same, -⟩
  · rw [session]
    exact awake_take up t
  · rwa [same]

theorem not_begun_of_awake (awake : l.Awake i) (m : Move) (f : FilterState) :
    l.begun m ≠ some (i, f) := by
  intro asks
  obtain ⟨-, t, due, -, there, -⟩ := begun_eq_some_iff.mp asks
  exact awake.2 due f there

/-- What the searches of a list that are this one ask for. -/
def own (i : Nat) (os : List (Nat × FilterState)) : List (Nat × FilterState) :=
  os.filter (·.1 = i)

theorem own_append (os os' : List (Nat × FilterState)) :
    own i (os ++ os') = own i os ++ own i os' := List.filter_append ..

theorem own_eq_nil {m : Move} (idle : ∀ f, l.begun m ≠ some (i, f)) :
    own i (l.begun m).toList = [] := by
  cases asks : l.begun m with
  | none => rfl
  | some o =>
    obtain ⟨j, f⟩ := o
    have other : j ≠ i := fun e => idle f (e ▸ asks)
    simp [own, other]

theorem own_searches_of_awake (awake : l.Awake i) (ms : List Move) :
    own i (l.searches env ms) = [] := by
  induction ms generalizing l with
  | nil => rfl
  | cons m ms ih =>
    rw [searches, own_append, own_eq_nil (not_begun_of_awake awake m), ih (awake_move awake m)]
    rfl

/-- The turn of a search that sleeps: it asks the engine or goes on to sleep. It fails if it cannot
tell how long. -/
theorem turn_of_fresh {f : FilterState} {due : Float} {t : Turn}
    (there : l.session.work[i]? = some (.sleeping due f)) (turn : l.turns i = some t)
    (own : t = .wait ∨ t = .ask) :
    (∀ g, l.begun (.turn i) ≠ some (i, g)) ∧ (l.move env (.turn i)).Fresh i f ∨
      l.begun (.turn i) = some (i, f) ∧ (l.move env (.turn i)).Awake i ∨
      (∀ g, l.begun (.turn i) ≠ some (i, g)) ∧ (l.move env (.turn i)).Awake i ∧
        ∃ p, wait? l.session.debounce = .error p := by
  have inside := (List.getElem?_eq_some_iff.mp there).1
  have still : i < (l.move env (.turn i)).session.work.length :=
    Nat.lt_of_lt_of_le inside (length_le_move env l _)
  have idle : (l.move env (.turn i)).turns i = none := by simp [move, turn, turns_setTurn]
  have asked : l.begun (.turn i) = some (i, f) → (l.move env (.turn i)).Awake i := by
    intro asks
    refine ⟨still, ?_⟩
    rw [(session_of_begun asks).2]
    exact awake_start inside f
  rcases own with rfl | rfl
  · cases look : wait? l.session.debounce with
    | error p =>
      have failed : (l.move env (.turn i)).session = l.session.setWork i (.ended (.failed p)) := by
        simp [move, turn, take, there, look]
      refine .inr (.inr ⟨by simp [begun, turn, there, look], ⟨still, ?_⟩, p, rfl⟩)
      intro due g
      rw [failed, setWork, List.getElem?_set_self inside]
      simp
    | ok time =>
      cases time with
      | none =>
        have asks : l.begun (.turn i) = some (i, f) := by simp [begun, turn, there, look]
        exact .inr (.inl ⟨asks, asked asks⟩)
      | some seconds =>
        have slept : (l.move env (.turn i)).session =
            l.session.setWork i (.sleeping (l.session.clock + seconds) f) := by
          simp [move, turn, take, there, look]
        refine .inl ⟨by simp [begun, turn, there, look], ⟨l.session.clock + seconds, ?_⟩, .inl idle⟩
        rw [slept]
        exact List.getElem?_set_self inside
  · have asks : l.begun (.turn i) = some (i, f) := by simp [begun, turn, there]
    exact .inr (.inl ⟨asks, asked asks⟩)

/-- A search that nobody calls off sleeps on, or asks the engine, or fails because it cannot tell
how long to sleep. -/
theorem fresh_move {f : FilterState} (fresh : l.Fresh i f) {m : Move}
    (scheduled : ∀ g, m ≠ .schedule g) (cancelled : m ≠ .cancel i) :
    (∀ g, l.begun m ≠ some (i, g)) ∧ (l.move env m).Fresh i f ∨
      l.begun m = some (i, f) ∧ (l.move env m).Awake i ∨
      (∀ g, l.begun m ≠ some (i, g)) ∧ (l.move env m).Awake i ∧
        ∃ p, wait? l.session.debounce = .error p := by
  obtain ⟨⟨due, there⟩, turns⟩ := fresh
  have inside := (List.getElem?_eq_some_iff.mp there).1
  rcases move_at env l m inside with ⟨rfl, t, turn, -, -⟩ |
    ⟨same, kept | ⟨rfl, -, -, ask⟩ | ⟨r, o, -, -, awake, -⟩ | ⟨rfl | ⟨g, rfl⟩, -, -⟩⟩
  · refine turn_of_fresh there turn ?_
    rw [turn] at turns
    rcases turns with e | e | e
    · cases e
    · exact .inl (Option.some.inj e)
    · exact .inr (Option.some.inj e)
  · have idle : ∀ g, l.begun m ≠ some (i, g) := by
      intro g asks
      obtain ⟨rfl, t, -, turn, -, -⟩ := begun_eq_some_iff.mp asks
      have taken : (l.move env (.turn i)).turns i = none := by simp [move, turn, turns_setTurn]
      rw [kept, turn] at taken
      cases taken
    exact .inl ⟨idle, ⟨due, by rw [same, there]⟩, by rwa [kept]⟩
  · have idle : ∀ g, l.begun (.expire i) ≠ some (i, g) := by
      intro g asks
      cases asks
    exact .inl ⟨idle, ⟨due, by rw [same, there]⟩, .inr (.inr ask)⟩
  · exact absurd there (awake due f)
  · exact absurd rfl cancelled
  · exact absurd rfl (scheduled g)

/-- A search that nobody calls off sleeps, or has asked the engine once, or has failed because it
could not tell how long to sleep. -/
theorem searches_of_fresh {f : FilterState} {ms : List Move} (fresh : l.Fresh i f)
    (scheduled : ∀ g, .schedule g ∉ ms) (cancelled : .cancel i ∉ ms) :
    own i (l.searches env ms) = [] ∧ (l.run env ms).Fresh i f ∨
      own i (l.searches env ms) = [(i, f)] ∨
      own i (l.searches env ms) = [] ∧ ∃ p, wait? l.session.debounce = .error p := by
  induction ms generalizing l with
  | nil => exact .inl ⟨rfl, fresh⟩
  | cons m ms ih =>
    have first : ∀ g, m ≠ .schedule g := fun g e => scheduled g (e ▸ List.mem_cons_self)
    have uncancelled : m ≠ .cancel i := fun e => cancelled (e ▸ List.mem_cons_self)
    have rest : ∀ g, .schedule g ∉ ms := fun g mem => scheduled g (List.mem_cons_of_mem m mem)
    have uncalled : .cancel i ∉ ms := fun mem => cancelled (List.mem_cons_of_mem m mem)
    rw [searches, own_append]
    rcases fresh_move fresh first uncancelled with
      ⟨idle, still⟩ | ⟨asks, awake⟩ | ⟨idle, awake, p, look⟩
    · rw [own_eq_nil idle, List.nil_append]
      have later := ih still rest uncalled
      rwa [debounce_move] at later
    · refine .inr (.inl ?_)
      rw [own_searches_of_awake awake, asks]
      simp [own]
    · refine .inr (.inr ⟨?_, p, look⟩)
      rw [own_eq_nil idle, own_searches_of_awake awake]
      rfl

theorem searches_of_expire {f : FilterState} {due : Float}
    (there : l.session.work[i]? = some (.sleeping due f)) (idle : l.turns i = none) :
    own i (l.searches env [.expire i, .turn i]) = [(i, f)] := by
  have told : l.move env (.expire i) = l.setTurn i (some .ask) := by simp [move, idle, there]
  have asks : (l.setTurn i (some .ask)).begun (.turn i) = some (i, f) := by
    simp [begun, setTurn, there]
  have nothing : l.begun (.expire i) = none := rfl
  simp [searches, told, asks, nothing, own]

/-- A search that sleeps asks the engine when it is given its turns and its wait ends. -/
theorem searches_of_turns {f : FilterState} {wait : Option Float} (fresh : l.Fresh i f)
    (look : wait? l.session.debounce = .ok wait) :
    own i (l.searches env [.turn i, .expire i, .turn i]) = [(i, f)] := by
  obtain ⟨⟨due, there⟩, turns⟩ := fresh
  cases turn : l.turns i with
  | none =>
    have same : l.move env (.turn i) = l := by simp [move, turn]
    have idle : l.begun (.turn i) = none := by simp [begun, turn]
    rw [searches, same, idle]
    exact searches_of_expire there turn
  | some t =>
    have own_turn : t = .wait ∨ t = .ask := by
      rw [turn] at turns
      rcases turns with e | e | e
      · cases e
      · exact .inl (Option.some.inj e)
      · exact .inr (Option.some.inj e)
    have taken : (l.move env (.turn i)).turns i = none := by simp [move, turn, turns_setTurn]
    rw [searches, own_append]
    rcases turn_of_fresh there turn own_turn with
      ⟨idle, ⟨due', still⟩, -⟩ | ⟨asks, awake⟩ | ⟨-, -, p, look'⟩
    · rw [own_eq_nil idle, searches_of_expire still taken]
      rfl
    · rw [own_searches_of_awake awake, asks]
      simp [own]
    · rw [look] at look'
      cases look'

theorem debounce_run (ms : List Move) :
    (l.run env ms).session.debounce = l.session.debounce := by
  induction ms generalizing l with
  | nil => rfl
  | cons m ms ih =>
    rw [← debounce_move env l m]
    exact ih

/-- A search that nobody calls off asks the engine at most once. If it can tell how long to wait, it
has asked when it has ended, and otherwise it asks when it is given its turns and its wait ends. -/
theorem asks_of_fresh {f : FilterState} {ms : List Move} (fresh : l.Fresh i f)
    (scheduled : ∀ g, .schedule g ∉ ms) (cancelled : .cancel i ∉ ms) :
    (own i (l.searches env ms) = [] ∨ own i (l.searches env ms) = [(i, f)]) ∧
      ∀ wait, wait? l.session.debounce = .ok wait →
        ((∃ e, (l.run env ms).session.work[i]? = some (.ended e)) →
          own i (l.searches env ms) = [(i, f)]) ∧
        (own i (l.searches env ms) = [] →
          own i ((l.run env ms).searches env [.turn i, .expire i, .turn i]) = [(i, f)]) := by
  rcases searches_of_fresh fresh scheduled cancelled with
    ⟨none, ⟨due, there⟩, turns⟩ | one | ⟨none, problem, fails⟩
  · refine ⟨.inl none, fun wait look => ⟨?_, fun _ => ?_⟩⟩
    · rintro ⟨e, ended⟩
      rw [ended] at there
      cases there
    · exact searches_of_turns ⟨⟨due, there⟩, turns⟩ (by rw [debounce_run, look])
  · refine ⟨.inr one, fun wait look => ⟨fun _ => one, fun none => ?_⟩⟩
    rw [one] at none
    cases none
  · refine ⟨.inl none, fun wait look => ?_⟩
    rw [look] at fails
    cases fails

/-! ## Bursts -/

/-- The searches that have been scheduled since there were so many. -/
def scheduledSince (l : Loop) (base : Nat) : List Nat := l.scheduled.filter (base ≤ ·)

theorem mem_scheduledSince {base : Nat} :
    i ∈ l.scheduledSince base ↔ i ∈ l.scheduled ∧ base ≤ i := by
  simp [scheduledSince]

theorem searches_of_over (past : l.Over i) (ms : List Move) :
    ∀ o ∈ l.searches env ms, o.1 ≠ i := by
  induction ms generalizing l with
  | nil => exact fun o mem => absurd mem List.not_mem_nil
  | cons m ms ih =>
    intro o mem
    rcases List.mem_append.mp mem with here | there
    · rintro rfl
      exact not_begun_of_over past m o.2 (Option.mem_toList.mp here)
    · exact ih (over_move past m) o there

/-- A search that has just been scheduled sleeps until its first turn. -/
theorem fresh_schedule (f : FilterState) :
    (l.move env (.schedule f)).Fresh l.session.work.length f := by
  refine ⟨⟨l.session.clock, by simp [work_schedule]⟩, .inr (.inl ?_)⟩
  simp [move, enroll, turns_setTurn, session_disarmed]

theorem expiries_append (ms ns : List Move) :
    l.expiries env (ms ++ ns) = l.expiries env ms ++ (l.run env ms).expiries env ns := by
  induction ms generalizing l with
  | nil => rfl
  | cons m ms ih => simp [expiries, run, ih]

theorem length_le_run (ms : List Move) :
    l.session.work.length ≤ (l.run env ms).session.work.length := by
  induction ms generalizing l with
  | nil => exact Nat.le_refl _
  | cons m ms ih => exact Nat.le_trans (length_le_move env l m) ih

/-- Of the searches that are scheduled one after the other, with none through with its wait before
the last of them is scheduled, only that one can ask the engine. -/
theorem searches_of_burst {b : List Move} {f : FilterState} (ordered : l.Ordered)
    (quiet : ∀ i ∈ l.expiries env b, i < l.session.work.length) (q : List Move) :
    (l.searches env (b ++ .schedule f :: q)).filter
        (·.1 ∈ (l.run env (b ++ [.schedule f])).scheduledSince l.session.work.length) =
      own (l.run env b).session.work.length
        ((l.run env (b ++ [.schedule f])).searches env q) := by
  have last : (l.run env (b ++ [.schedule f])).scheduled =
      (l.run env b).session.work.length :: (l.run env b).scheduled := by
    rw [run_append]
    exact scheduled_move env _ (.schedule f)
  have before : (l.searches env (b ++ [.schedule f])).filter
      (·.1 ∈ (l.run env (b ++ [.schedule f])).scheduledSince l.session.work.length) = [] := by
    rw [List.filter_eq_nil_iff]
    intro o mem new
    obtain ⟨scheduled, since⟩ := mem_scheduledSince.mp (of_decide_eq_true new)
    refine not_mem_scheduled_of_searches ordered ?_ ?_ o mem since scheduled
    · intro i mem new
      exact absurd (ordered.inside i mem) (Nat.not_lt.mpr new)
    · rw [expiries_append]
      exact fun i mem => quiet i ((List.mem_append.mp mem).resolve_right List.not_mem_nil)
  have after : ∀ o ∈ (l.run env (b ++ [.schedule f])).searches env q,
      o.1 ∈ (l.run env (b ++ [.schedule f])).scheduledSince l.session.work.length ↔
        o.1 = (l.run env b).session.work.length := by
    intro o mem
    rw [mem_scheduledSince, last, List.mem_cons]
    constructor
    · rintro ⟨here | earlier, -⟩
      · exact here
      · have past : ((l.run env b).move env (.schedule f)).Over o.1 :=
          over_schedule (ordered_run ordered b) f earlier
        rw [run_append] at mem
        exact absurd rfl (searches_of_over past q o mem)
    · intro here
      exact ⟨.inl here, here ▸ length_le_run b⟩
  have split : b ++ .schedule f :: q = (b ++ [.schedule f]) ++ q := by simp
  rw [split, searches_append, List.filter_append, before, List.nil_append, own]
  refine List.filter_congr ?_
  intro o mem
  exact decide_eq_decide.mpr (after o mem)

/-! ## Runs -/

/-- The loop of a session as it begins. -/
def opened (c : Connection) (debounce : Json) : Loop := atRest { connection := c, debounce } []

theorem ordered_opened (c : Connection) (debounce : Json) : (opened c debounce).Ordered :=
  ⟨nofun, rfl, nofun⟩

end Loop

/-- **Scheduling supersedes.** Searches are begun and scheduled, waits end, answers come and
searches are called off in any order, and each search learns of it when its turn comes. The engine
is asked where the next generation is given. When a search is scheduled, no other scheduled one is
active, and those that were scheduled before never ask the engine again: at their turns they end,
and neither the generation nor what is shown changes. Of a burst, that is of searches scheduled
while none of them is through with its wait, at most the last one asks the engine, once and for
what it was scheduled for. If nobody calls it off and it can tell how long to wait, it has done so
when it has ended, and it does so when it is given its turns and its wait ends. -/
theorem scheduling_supersedes (env : Environment) (c : Connection) (debounce : Json) :
    (∀ events, ((Loop.opened c debounce).run env
        (movesOf env { connection := c, debounce } events)).session =
      Session.run env { connection := c, debounce } events) ∧
    (∀ (l : Loop) (m : Move),
      (l.move env m).session.generation = l.session.generation + (l.begun m).toList.length ∧
      ∀ i f, l.begun m = some (i, f) →
        m = .turn i ∧ (l.move env m).session = start env l.session i f) ∧
    ∀ (p b q : List Move) (f : FilterState),
      let before := (Loop.opened c debounce).run env p
      let last := (before.run env b).session.work.length
      let scheduled := before.run env (b ++ [.schedule f])
      let final := scheduled.run env q
      (∀ i ∈ scheduled.scheduled, ∀ j ∈ scheduled.scheduled,
        scheduled.Active i → scheduled.Active j → i = j) ∧
      (∀ i ∈ (before.run env b).scheduled, ∀ m,
        (∀ g, final.begun m ≠ some (i, g)) ∧
        (m = .turn i → (final.move env m).session = final.session.cancel i ∧
          (final.move env m).session.generation = final.session.generation ∧
          (final.move env m).session.latest = final.session.latest ∧
          (final.move env m).session.lastProblem = final.session.lastProblem)) ∧
      ((∀ i ∈ before.expiries env b, i < before.session.work.length) →
        (∀ g, .schedule g ∉ q) → .cancel last ∉ q →
        let burst := scheduled.scheduledSince before.session.work.length
        let asked := (before.searches env (b ++ .schedule f :: q)).filter (·.1 ∈ burst)
        (asked = [] ∨ asked = [(last, f)]) ∧
        ∀ wait, wait? debounce = .ok wait →
          ((∃ e, final.session.work[last]? = some (.ended e)) → asked = [(last, f)]) ∧
          (asked = [] → Loop.own last
            (final.searches env [.turn last, .expire last, .turn last]) = [(last, f)])) := by
  refine ⟨fun events => Loop.session_run_movesOf events [],
    fun l m => ⟨Loop.generation_move env l m, fun i f => Loop.session_of_begun⟩, ?_⟩
  intro p b q f before last scheduled final
  have ordered : before.Ordered := Loop.ordered_run (Loop.ordered_opened c debounce) p
  have reached : scheduled = (before.run env b).move env (.schedule f) := Loop.run_append ..
  have ordered_scheduled : scheduled.Ordered := Loop.ordered_run ordered _
  have past : ∀ i ∈ (before.run env b).scheduled, final.Over i := by
    intro i mem
    refine Loop.over_run ?_ q
    rw [reached]
    exact Loop.over_schedule (Loop.ordered_run ordered b) f mem
  refine ⟨?active, ?superseded, ?burst⟩
  case active =>
    intro i mem_i j mem_j active_i active_j
    have newest_i := Loop.newest_of_active ordered_scheduled mem_i active_i
    have newest_j := Loop.newest_of_active ordered_scheduled mem_j active_j
    exact Option.some.inj (newest_i.symm.trans newest_j)
  case superseded =>
    intro i mem m
    refine ⟨fun g => Loop.not_begun_of_over (past i mem) m g, ?_⟩
    rintro rfl
    have ends : (final.move env (.turn i)).session = final.session.cancel i :=
      Loop.session_of_over (past i mem)
    obtain ⟨work, -, e⟩ := cancel_eq (s := final.session) i
    rw [ends, e]
    exact ⟨rfl, rfl, rfl, rfl⟩
  case burst =>
    intro quiet unscheduled uncancelled burst asked
    have asked_eq : asked = Loop.own last (scheduled.searches env q) :=
      Loop.searches_of_burst ordered quiet q
    have fresh : scheduled.Fresh last f := by
      rw [reached]
      exact Loop.fresh_schedule f
    have same : scheduled.session.debounce = debounce := by
      rw [Loop.debounce_run, Loop.debounce_run]
      rfl
    obtain ⟨one, asks⟩ := Loop.asks_of_fresh fresh unscheduled uncancelled
    rw [asked_eq]
    exact ⟨one, fun wait look => asks wait (by rw [same, look])⟩

/-- Two searches are scheduled in a burst. The first is told to stop; the second waits and asks. -/
theorem scheduling_supersedes_twice :
    let env : Environment := { files := ⟨"", none, none⟩, time := 1440936000 }
    let opened := Loop.opened {} (.bool true)
    let first : FilterState := {}
    let second : FilterState := { query := "fox" }
    let q : List Move := [.turn 1, .expire 1, .turn 1]
    (opened.searches env (.schedule first :: .schedule second :: q)).filter (·.1 ∈ [1, 0]) =
      [(1, second)] := by
  intro env opened first second q
  obtain ⟨-, -, bursts⟩ := scheduling_supersedes env {} (.bool true)
  obtain ⟨-, -, burst⟩ := bursts [] [.schedule first] q second
  have quiet : ∀ i ∈ opened.expiries env [.schedule first], i < opened.session.work.length := nofun
  have unscheduled : ∀ g, .schedule g ∉ q := by simp [q]
  have uncancelled : .cancel 1 ∉ q := by simp [q]
  have ended : ((opened.run env [.schedule first, .schedule second]).run env q).session.work[1]? =
      some (.ended (.failed (.failure Failure.noNodesConfigured))) := by rfl
  have both : (opened.run env [.schedule first, .schedule second]).scheduledSince 0 = [1, 0] := by
    rfl
  rw [← both]
  exact ((burst quiet unscheduled uncancelled).2 (some 1) rfl).1 ⟨_, ended⟩

end IndexExplorer.Session
