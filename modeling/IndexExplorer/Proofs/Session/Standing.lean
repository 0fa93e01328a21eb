import IndexExplorer.Proofs.Session.Action

/-!
Which searches are in flight.

Every search that runs or waits stands for a generation. No two of them stand for the same one, none
for one that is still to come (`Sound`), and one that has finished does not come back (`Spent`).

* `sound_act`, `spent_act`: an action that can happen preserves this;
* `spent_finish`: a generation finishes once;
* `legal_history`: only actions that can happen do.
-/
namespace IndexExplorer.Session

/-! ## Generations in flight -/

/-- The generation that a search has, while it runs or waits. -/
def generationOf : Work → Option Nat
  | .waiting generation _ _ => some generation
  | _ => none

/-- The generation that a search stands for. -/
def standing (s : Session) (task : Nat) : Option Nat := s.work[task]?.bind generationOf

/-- What can happen to a session: a search has to be there to get a generation, and it sends or
finishes only for the one that it stands for. -/
def Allowed (s : Session) : Action → Prop
  | .issue task _ => task < s.work.length
  | .await task generation _ _ => s.standing task = some generation
  | .finish task generation _ => s.standing task = some generation
  | _ => True

/-- No two searches stand for the same generation, and none for one that is still to come. -/
structure Sound (s : Session) : Prop where
  distinct : ∀ i j g, s.standing i = some g → s.standing j = some g → i = j
  le : ∀ i g, s.standing i = some g → g ≤ s.generation

/-- A generation has been there, and no search stands for it any more. -/
structure Spent (g : Nat) (s : Session) : Prop where
  le : g ≤ s.generation
  gone : ∀ i, s.standing i ≠ some g

variable {env : Environment} {s : Session}

theorem lt_of_standing {task g : Nat} (h : s.standing task = some g) : task < s.work.length := by
  rcases Nat.lt_or_ge task s.work.length with inside | outside
  · exact inside
  · rw [standing, List.getElem?_eq_none outside] at h
    cases h

theorem standing_setWork (task i : Nat) (w : Work) :
    (s.setWork task w).standing i =
      if task = i ∧ task < s.work.length then generationOf w else s.standing i := by
  unfold standing setWork
  rw [List.getElem?_set]
  by_cases here : task = i
  · subst here
    by_cases inside : task < s.work.length
    · simp [inside]
    · simp [inside]
  · simp [here]

/-- A search that is put to sleep or has ended stands for no generation, and the others stay. -/
theorem standing_of_setWork {task i g : Nat} {w : Work} (idle : generationOf w = none)
    (h : (s.setWork task w).standing i = some g) : s.standing i = some g := by
  rw [standing_setWork, idle] at h
  split at h
  · cases h
  · exact h

theorem standing_add (due : Float) (f : FilterState) (i : Nat) :
    (s.add (.sleeping due f)).standing i = s.standing i := by
  unfold standing add
  rcases Nat.lt_trichotomy i s.work.length with lt | eq | gt
  · rw [List.getElem?_append_left lt]
  · simp [eq, generationOf]
  · have absent : s.work[i]? = none := List.getElem?_eq_none (by omega)
    have beyond : (s.work ++ [Work.sleeping due f])[i]? = none :=
      List.getElem?_eq_none (by simp; omega)
    rw [absent, beyond]

theorem standing_cancel {task i g : Nat} (h : (s.cancel task).standing i = some g) :
    s.standing i = some g := by
  unfold cancel at h
  split at h
  · split at h
    · exact h
    · exact standing_of_setWork rfl h
  · exact h

theorem standing_conclude (task generation i : Nat) (r : Result SearchPage) :
    ∃ e, (s.conclude task generation r).standing i = (s.setWork task (.ended e)).standing i := by
  by_cases current : generation = s.generation
  · subst current
    cases r with
    | ok p => exact ⟨.page p, by rw [conclude_page]; rfl⟩
    | error e => exact ⟨.failed e, by rw [conclude_problem]; rfl⟩
  · exact ⟨.superseded, by rw [conclude_of_ne current]⟩

theorem standing_issue (task i : Nat) (x : Operation SearchPage) :
    (s.act (.issue task x)).standing i =
      if task = i ∧ task < s.work.length then some (s.generation + 1) else s.standing i :=
  standing_setWork task i _

/-- But for a new generation, searches stand for what they stood for, or for none. -/
theorem standing_of_act {a : Action} (allowed : s.Allowed a) (old : ∀ task x, a ≠ .issue task x)
    {i g : Nat} (h : (s.act a).standing i = some g) : s.standing i = some g := by
  cases a with
  | issue task x => exact absurd rfl (old task x)
  | enroll due f => rwa [act, standing_add] at h
  | mark task => exact h
  | delay task due f => exact standing_of_setWork rfl h
  | reject task p => exact standing_of_setWork rfl h
  | callOff task => exact standing_cancel h
  | pass seconds => exact h
  | connect c => exact h
  | await task generation r next =>
    have here : (s.setWork task (.waiting generation s.sent.length next)).standing i = some g := h
    rw [standing_setWork] at here
    split at here
    · rename_i same
      obtain rfl : generation = g := Option.some.inj here
      rw [← same.1]
      exact allowed
    · exact here
  | finish task generation r =>
    obtain ⟨e, same⟩ := standing_conclude (s := s) task generation i r
    have here : (s.conclude task generation r).standing i = some g := h
    rw [same] at here
    exact standing_of_setWork rfl here

theorem generation_conclude (task generation : Nat) (r : Result SearchPage) :
    (s.conclude task generation r).generation = s.generation := by
  by_cases current : generation = s.generation
  · subst current
    cases r with
    | ok p => rw [conclude_page]; rfl
    | error e => rw [conclude_problem]; rfl
  · rw [conclude_of_ne current]
    rfl

theorem generation_act {a : Action} (old : ∀ task x, a ≠ .issue task x) :
    (s.act a).generation = s.generation := by
  cases a with
  | issue task x => exact absurd rfl (old task x)
  | callOff task =>
    obtain ⟨work, -, e⟩ := cancel_eq (s := s) task
    exact (congrArg Session.generation e).trans rfl
  | finish task generation r => exact generation_conclude ..
  | _ => rfl

theorem generation_le_act (a : Action) : s.generation ≤ (s.act a).generation := by
  by_cases new : ∃ task x, a = .issue task x
  · obtain ⟨task, x, rfl⟩ := new
    exact Nat.le_succ s.generation
  · exact Nat.le_of_eq (generation_act fun task x e => new ⟨task, x, e⟩).symm

theorem sound_act {a : Action} (sound : Sound s) (allowed : s.Allowed a) : Sound (s.act a) := by
  by_cases new : ∃ task x, a = .issue task x
  · obtain ⟨task, x, rfl⟩ := new
    constructor
    · intro i j g hi hj
      rw [standing_issue] at hi hj
      split at hi <;> split at hj
      · rename_i at_i at_j
        omega
      · have := sound.le j g hj
        cases hi
        omega
      · have := sound.le i g hi
        cases hj
        omega
      · exact sound.distinct i j g hi hj
    · intro i g hi
      rw [standing_issue] at hi
      have bound : (s.act (.issue task x)).generation = s.generation + 1 := rfl
      split at hi
      · cases hi
        omega
      · have := sound.le i g hi
        omega
  · have old : ∀ task x, a ≠ .issue task x := fun task x e => new ⟨task, x, e⟩
    constructor
    · intro i j g hi hj
      exact sound.distinct i j g (standing_of_act allowed old hi) (standing_of_act allowed old hj)
    · intro i g hi
      rw [generation_act old]
      exact sound.le i g (standing_of_act allowed old hi)

/-- A generation that is gone does not come back. -/
theorem spent_act {a : Action} {g : Nat} (spent : Spent g s) (allowed : s.Allowed a) :
    Spent g (s.act a) := by
  refine ⟨Nat.le_trans spent.le (generation_le_act a), ?_⟩
  intro i back
  by_cases new : ∃ task x, a = .issue task x
  · obtain ⟨task, x, rfl⟩ := new
    rw [standing_issue] at back
    split at back
    · have := spent.le
      cases back
      omega
    · exact spent.gone i back
  · exact spent.gone i (standing_of_act allowed (fun task x e => new ⟨task, x, e⟩) back)

/-- A generation is gone when its search has finished. -/
theorem spent_finish {task g : Nat} {r : Result SearchPage} (sound : Sound s)
    (allowed : s.Allowed (.finish task g r)) : Spent g (s.act (.finish task g r)) := by
  refine ⟨Nat.le_trans (sound.le task g allowed) (generation_le_act _), ?_⟩
  intro i back
  have before := standing_of_act allowed (fun _ _ e => by cases e) back
  obtain rfl : i = task := sound.distinct i task g before allowed
  obtain ⟨e, same⟩ := standing_conclude (s := s) i g i r
  have here : (s.conclude i g r).standing i = some g := back
  rw [same, standing_setWork, if_pos ⟨rfl, lt_of_standing before⟩] at here
  cases here

/-! ## Runs -/

/-- All actions can happen, each after the ones before it. -/
def Legal : Session → List Action → Prop
  | _, [] => True
  | s, a :: h => s.Allowed a ∧ Legal (s.act a) h

theorem legal_append {h k : List Action} :
    s.Legal (h ++ k) ↔ s.Legal h ∧ (h.foldl act s).Legal k := by
  induction h generalizing s with
  | nil => simp [Legal]
  | cons a h ih => simp [Legal, ih, and_assoc]

theorem sound_foldl {h : List Action} (sound : Sound s) (legal : s.Legal h) :
    Sound (h.foldl act s) := by
  induction h generalizing s with
  | nil => exact sound
  | cons a h ih => exact ih (sound_act sound legal.1) legal.2

theorem allowed_proceedAction {task generation : Nat} (h : s.standing task = some generation)
    (x : Operation SearchPage) : s.Allowed (proceedAction task generation x) := by
  cases x with
  | done r => exact h
  | send r next => exact h

theorem legal_startActions {task : Nat} (inside : task < s.work.length) (f : FilterState) :
    s.Legal (startActions env s task f) := by
  refine ⟨inside, allowed_proceedAction ?_ _, trivial⟩
  rw [standing_issue, if_pos ⟨rfl, inside⟩]

theorem legal_wakeActions (n : Nat) : s.Legal (wakeActions env s n) := by
  induction n with
  | zero => trivial
  | succ n ih =>
    rw [wakeActions, legal_append]
    refine ⟨ih, ?_⟩
    split
    · rename_i due f there
      split
      · exact legal_startActions (List.getElem?_eq_some_iff.mp there).1 f
      · trivial
    · trivial

theorem legal_respondActions (request : Nat) (o : Outcome) :
    s.Legal (respondActions s request o) := by
  unfold respondActions
  split
  · split
    · rename_i there
      refine ⟨allowed_proceedAction ?_ _, trivial⟩
      rw [standing, there]
      rfl
    · trivial
  · trivial

theorem legal_scheduleActions (f : FilterState) : s.Legal (scheduleActions env s f) := by
  have before : s.Legal ((s.scheduled.map Action.callOff).toList ++
      [Action.enroll s.clock f, Action.mark s.work.length]) := by
    cases s.scheduled with
    | none => exact ⟨trivial, trivial, trivial⟩
    | some task => exact ⟨trivial, trivial, trivial, trivial⟩
  rw [scheduleActions, legal_append]
  refine ⟨before, ?_⟩
  split
  · exact ⟨trivial, trivial⟩
  · refine legal_startActions ?_ f
    rw [List.foldl_append, foldl_callOff]
    obtain ⟨work, length, disarmed⟩ := disarmed_eq (s := s)
    rw [disarmed]
    simp [act, add, length]
  · exact ⟨trivial, trivial⟩

theorem legal_actions (e : SessionEvent) : s.Legal (actions env s e) := by
  cases e with
  | search f =>
    refine ⟨trivial, legal_startActions ?_ f⟩
    simp [act, add]
  | schedule f => exact legal_scheduleActions f
  | respond request o => exact legal_respondActions request o
  | advance seconds => exact ⟨trivial, legal_wakeActions _⟩
  | cancel task => exact ⟨trivial, trivial⟩
  | connect c => exact ⟨trivial, trivial⟩

theorem legal_history (events : List SessionEvent) : s.Legal (history env s events) := by
  induction events generalizing s with
  | nil => trivial
  | cons e events ih =>
    rw [history, legal_append, foldl_actions]
    exact ⟨legal_actions e, ih⟩

end IndexExplorer.Session
