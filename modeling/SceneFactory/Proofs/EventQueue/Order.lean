import SceneFactory.EventQueue

/-!
# The order in which tasks run

A queue is drained by two loops. One runs tasks until none is left (`Drains`), the other looks at a
clock before each task and stops when its slice is used up (`EventQueue.runSlice`). Both take the
oldest task there is, so a slice comes to running some number of tasks (`exists_runSlice_eq`), and
what one slice leaves the next one goes on with (`runPending_eq_append`).

A queue without posts from outside is run level by level: first the tasks that are in it, then
those that they post, and so on (`levelOrder`). The main statement (`run_in_order`) is about any
number of turns, posts from outside among them: the tasks that were run are the first of those that
were posted, and the others are in the queue.
-/

set_option autoImplicit false

namespace SceneFactory.EventQueue

variable {α : Type} {q r s : EventQueue α}

/-! ## Draining -/

/-- The loop that takes the oldest task and runs it until there is none: from one queue it ends
with the other, and performs the actions on the way. -/
inductive Drains : EventQueue α → List α → EventQueue α → Prop where
  | done {q : EventQueue α} (h : q.step? = none) : Drains q [] q
  | next {q r s : EventQueue α} {action : α} {actions : List α} (h : q.step? = some (action, r))
      (hrest : Drains r actions s) : Drains q (action :: actions) s

theorem step?_eq_none_iff : q.step? = none ↔ q.isEmpty = true := by
  obtain ⟨tasks⟩ := q
  cases tasks with
  | nil => exact ⟨fun _ => rfl, fun _ => rfl⟩
  | cons t rest =>
    obtain ⟨action, followUps⟩ := t
    constructor <;> exact nofun

theorem eq_empty_of_isEmpty (h : q.isEmpty = true) : q = .empty :=
  congrArg EventQueue.mk (List.isEmpty_iff.1 h)

theorem step?_cons (t : EventTask α) (rest : List (EventTask α)) :
    (⟨t :: rest⟩ : EventQueue α).step? = some (t.action, ⟨rest ++ t.followUps⟩) := by
  cases t
  rfl

theorem runUpTo_of_none (h : q.step? = none) (n : Nat) : q.runUpTo n = ([], q) := by
  cases n with
  | zero => rfl
  | succ n => rw [runUpTo, h]

theorem runPending_of_none (h : q.step? = none) : q.runPending = ([], q) := runUpTo_of_none h _

theorem runPending_of_some {action : α} (h : q.step? = some (action, r)) :
    q.runPending = (action :: r.runPending.1, r.runPending.2) := by
  rw [runPending, ← weight_step h, runUpTo, h]
  rfl

/-- The loop ends, in one way: it runs what is pending. -/
theorem drains_iff {actions : List α} : Drains q actions s ↔ q.runPending = (actions, s) := by
  constructor
  · intro h
    induction h with
    | done h => exact runPending_of_none h
    | next h _ ih => rw [runPending_of_some h, ih]
  · -- every task that is run takes one from the weight
    induction hweight : q.weight generalizing q actions with
    | zero =>
      have hnone := step?_eq_none_iff.2 (isEmpty_of_weight_zero hweight)
      rw [runPending_of_none hnone]
      intro h
      cases h
      exact .done hnone
    | succ n ih =>
      cases hstep : q.step? with
      | none =>
        rw [runPending_of_none hstep]
        intro h
        cases h
        exact .done hstep
      | some next =>
        obtain ⟨action, r⟩ := next
        have hr := weight_step hstep
        rw [runPending_of_some hstep]
        intro h
        cases h
        exact .next hstep (ih (by omega) rfl)

/-- Draining is going on where some tasks were run. -/
theorem runPending_eq_append (n : Nat) (q : EventQueue α) :
    q.runPending =
      ((q.runUpTo n).1 ++ (q.runUpTo n).2.runPending.1, (q.runUpTo n).2.runPending.2) := by
  induction n generalizing q with
  | zero => rfl
  | succ n ih =>
    rw [runUpTo]
    cases h : q.step? with
    | none => rfl
    | some next =>
      obtain ⟨action, r⟩ := next
      rw [runPending_of_some h, ih r]
      rfl

/-! ## Slices of time -/

/-- Runs tasks while there is time, `done` of them having been run: before each task the clock
is read, which shows `elapsed n` when `n` tasks have been run. -/
def runSliceFrom (slice : Duration) (elapsed : Nat → Duration) (done : Nat) (q : EventQueue α) :
    List α × EventQueue α :=
  if (elapsed done).nanos < slice.nanos then
    match _hstep : q.step? with
    | none => ([], q)
    | some (action, r) =>
      let (actions, s) := runSliceFrom slice elapsed (done + 1) r
      (action :: actions, s)
  else ([], q)
termination_by q.weight
decreasing_by
  have := weight_step _hstep
  omega

/-- One slice of the queue as the host's event loop, by a clock that starts with it. -/
def runSlice (slice : Duration) (elapsed : Nat → Duration) (q : EventQueue α) :
    List α × EventQueue α := q.runSliceFrom slice elapsed 0

/-- A slice runs some number of tasks, and then either it is over or none is left. -/
theorem runSliceFrom_eq (slice : Duration) (elapsed : Nat → Duration) (done : Nat)
    (q : EventQueue α) :
    ∃ n, q.runSliceFrom slice elapsed done = q.runUpTo n ∧
      (slice.nanos ≤ (elapsed (done + n)).nanos ∨ (q.runUpTo n).2.isEmpty = true) := by
  fun_induction runSliceFrom slice elapsed done q with
  | case1 done q htime hnone =>
    refine ⟨0, rfl, .inr ?_⟩
    exact step?_eq_none_iff.1 hnone
  | case2 done q htime action r h actions s heq ih =>
    obtain ⟨n, hn, hend⟩ := ih
    rw [heq] at hn
    have hrun : q.runUpTo (n + 1) = (action :: actions, s) := by
      rw [runUpTo, h]
      dsimp only
      rw [← hn]
    refine ⟨n + 1, hrun.symm, ?_⟩
    rw [hrun]
    rw [← hn, Nat.add_assoc, Nat.add_comm 1 n] at hend
    exact hend
  | case3 done q htime => exact ⟨0, rfl, .inl (Nat.le_of_not_lt htime)⟩

theorem exists_runSlice_eq (slice : Duration) (elapsed : Nat → Duration) (q : EventQueue α) :
    ∃ n, q.runSlice slice elapsed = q.runUpTo n :=
  (q.runSliceFrom_eq slice elapsed 0).imp fun _ h => h.1

/-- A slice may stop behind any number of tasks, if it has some length. -/
theorem exists_clock {slice : Duration} (h : 0 < slice.nanos) (n : Nat) (q : EventQueue α) :
    ∃ elapsed, q.runSlice slice elapsed = q.runUpTo n := by
  -- the clock stands still until the last of the tasks has been run
  refine ⟨fun k => if k < n then .zero else slice, ?_⟩
  suffices hfrom : ∀ done m, done + m = n →
      q.runSliceFrom slice (fun k => if k < n then .zero else slice) done = q.runUpTo m from
    hfrom 0 n (Nat.zero_add n)
  intro done m
  induction m generalizing done q with
  | zero =>
    intro hn
    have hover : ¬(if done < n then Duration.zero else slice).nanos < slice.nanos := by
      rw [if_neg (by omega)]
      exact Nat.lt_irrefl _
    rw [runSliceFrom, if_neg hover]
    rfl
  | succ m ih =>
    intro hn
    have htime : (if done < n then Duration.zero else slice).nanos < slice.nanos := by
      rw [if_pos (by omega)]
      exact h
    rw [runSliceFrom, if_pos htime, runUpTo]
    split
    · rename_i hnone
      rw [hnone]
    · rename_i action r hsome
      rw [hsome]
      dsimp only
      rw [ih r (done + 1) (by omega)]

/-- The slice that is charged no time of its own, by a clock that stands still. -/
theorem pump_eq_runSlice (slice : Duration) (q : EventQueue α) :
    ((q.pump slice).1, (q.pump slice).2.2) = q.runSlice slice fun _ => .zero := by
  obtain ⟨n, hn, hend⟩ := q.runSliceFrom_eq slice (fun _ => .zero) 0
  rw [runSlice, pump]
  by_cases hslice : slice.nanos = 0
  · rw [if_pos hslice, runSliceFrom, if_neg]
    rw [hslice]
    exact Nat.not_lt_zero _
  · rw [if_neg hslice, hn]
    have hempty : (q.runUpTo n).2.isEmpty = true :=
      hend.resolve_left fun hle => hslice (Nat.le_zero.1 hle)
    have hall : q.runPending = q.runUpTo n := by
      rw [runPending_eq_append n q, runPending_of_none (step?_eq_none_iff.2 hempty),
        List.append_nil]
    split
    · rename_i hq
      rw [runUpTo_of_none (step?_eq_none_iff.2 hq)]
    · rw [hall]

/-! ## Levels -/

theorem totalWeight_followUps (ts : List (EventTask α)) :
    EventTask.totalWeight (ts.flatMap EventTask.followUps) + ts.length =
      EventTask.totalWeight ts := by
  induction ts with
  | nil => rfl
  | cons t ts ih =>
    obtain ⟨action, followUps⟩ := t
    rw [List.flatMap_cons, totalWeight_append, List.length_cons, EventTask.totalWeight,
      EventTask.weight, EventTask.followUps, ← ih]
    omega

/-- The actions of some tasks and of all that comes of them, level by level: first those of the
tasks themselves, then those of the tasks that these post, and so on. -/
def levelOrder : List (EventTask α) → List α
  | [] => []
  | t :: ts =>
    (t :: ts).map EventTask.action ++ levelOrder ((t :: ts).flatMap EventTask.followUps)
termination_by ts => EventTask.totalWeight ts
decreasing_by
  have := totalWeight_followUps (t :: ts)
  rw [List.length_cons] at this
  omega

/-- The tasks in front are run first, and what they post is run behind what there is. -/
theorem runPending_append (ts us : List (EventTask α)) :
    (⟨ts ++ us⟩ : EventQueue α).runPending.1 =
      ts.map EventTask.action ++
        (⟨us ++ ts.flatMap EventTask.followUps⟩ : EventQueue α).runPending.1 := by
  induction ts generalizing us with
  | nil =>
    rw [List.flatMap_nil, List.append_nil]
    rfl
  | cons t ts ih =>
    rw [List.cons_append, runPending_of_some (step?_cons t (ts ++ us)), List.append_assoc, ih,
      List.map_cons, List.flatMap_cons, List.append_assoc]
    rfl

/-- A queue is run level by level. -/
theorem runPending_eq_levelOrder (q : EventQueue α) : q.runPending.1 = levelOrder q.tasks := by
  obtain ⟨ts⟩ := q
  dsimp only
  induction ts using levelOrder.induct with
  | case1 =>
    rw [levelOrder]
    rfl
  | case2 t ts ih =>
    have hlevel := runPending_append (t :: ts) []
    rw [List.append_nil, List.nil_append, ih] at hlevel
    rw [levelOrder, hlevel]

example :
    levelOrder [.mk 1 [.mk 3 [.mk 5 []], .mk 4 []], .mk 2 [.mk 6 []]] = [1, 2, 3, 4, 6, 5] := by
  cbv

/-- What has been run and what is left make up the levels. -/
theorem levelOrder_eq_append (n : Nat) (q : EventQueue α) :
    levelOrder q.tasks = (q.runUpTo n).1 ++ levelOrder (q.runUpTo n).2.tasks := by
  rw [← runPending_eq_levelOrder, ← runPending_eq_levelOrder, runPending_eq_append n q]

/-! ## Turns -/

/-- What a host does with a queue: it posts a task, gives the queue a slice of its event loop, or
runs all that is pending. -/
inductive Turn (α : Type) where
  | post (t : EventTask α)
  | slice (length : Duration) (elapsed : Nat → Duration)
  | drain

/-- Whether a turn posts a task from outside. -/
def Turn.isPost : Turn α → Bool
  | .post _ => true
  | _ => false

/-- Takes one turn: the actions performed in it, and the queue after it. -/
def perform (q : EventQueue α) : Turn α → List α × EventQueue α
  | .post t => ([], q.post t)
  | .slice length elapsed => q.runSlice length elapsed
  | .drain => q.runPending

/-- The queue after some turns. -/
def after (q : EventQueue α) : List (Turn α) → EventQueue α
  | [] => q
  | turn :: turns => (q.perform turn).2.after turns

/-- The actions performed in some turns, in order. -/
def log (q : EventQueue α) : List (Turn α) → List α
  | [] => []
  | turn :: turns => (q.perform turn).1 ++ (q.perform turn).2.log turns

/-- The first tasks that are run from a queue. -/
def running : Nat → EventQueue α → List (EventTask α)
  | 0, _ => []
  | n + 1, ⟨tasks⟩ =>
    match tasks with
    | [] => []
    | t :: rest => t :: running n ⟨rest ++ t.followUps⟩

/-- The tasks that are run in some turns, in order: in each as many as actions are performed. -/
def ran (q : EventQueue α) : List (Turn α) → List (EventTask α)
  | [] => []
  | turn :: turns => q.running (q.perform turn).1.length ++ (q.perform turn).2.ran turns

/-- The tasks that are posted in a turn, in order: one from outside, or those that the tasks post
that are run. -/
def postedIn (q : EventQueue α) : Turn α → List (EventTask α)
  | .post t => [t]
  | turn => (q.running (q.perform turn).1.length).flatMap EventTask.followUps

/-- The tasks that are posted in some turns, in order. -/
def posted (q : EventQueue α) : List (Turn α) → List (EventTask α)
  | [] => []
  | turn :: turns => q.postedIn turn ++ (q.perform turn).2.posted turns

/-- Tasks are taken off the front, and what they post goes to the end. -/
theorem runUpTo_running (n : Nat) (q : EventQueue α) :
    (q.runUpTo n).1 = (q.running n).map EventTask.action ∧
      q.tasks ++ (q.running n).flatMap EventTask.followUps =
        q.running n ++ (q.runUpTo n).2.tasks := by
  induction n generalizing q with
  | zero => exact ⟨rfl, List.append_nil _⟩
  | succ n ih =>
    obtain ⟨tasks⟩ := q
    cases tasks with
    | nil => exact ⟨rfl, rfl⟩
    | cons t rest =>
      -- the others run from the queue with the follow-ups at its end
      obtain ⟨hlog, htasks⟩ := ih ⟨rest ++ t.followUps⟩
      rw [runUpTo, step?_cons]
      dsimp only
      rw [running, hlog, List.map_cons, List.flatMap_cons, List.cons_append, List.cons_append,
        ← List.append_assoc, htasks]
      exact ⟨rfl, rfl⟩

/-- As many tasks as there are actions are the tasks whose actions they are. -/
theorem running_length (n : Nat) (q : EventQueue α) :
    q.running (q.runUpTo n).1.length = q.running n := by
  induction n generalizing q with
  | zero => rfl
  | succ n ih =>
    obtain ⟨tasks⟩ := q
    cases tasks with
    | nil => rfl
    | cons t rest =>
      rw [runUpTo, step?_cons]
      dsimp only
      rw [List.length_cons, running, running, ih]

/-- A turn that posts nothing from outside runs some number of tasks. -/
theorem exists_perform_eq (q : EventQueue α) {turn : Turn α} (h : turn.isPost = false) :
    ∃ n, q.perform turn = q.runUpTo n := by
  cases turn with
  | post t => cases h
  | slice length elapsed => exact q.exists_runSlice_eq length elapsed
  | drain => exact ⟨q.weight, rfl⟩

/-- What one turn does: the tasks that are run in it are those in front, and those that are
posted in it stand behind the others. -/
theorem perform_in_order (q : EventQueue α) (turn : Turn α) :
    let ran := q.running (q.perform turn).1.length
    (q.perform turn).1 = ran.map EventTask.action ∧
      q.tasks ++ q.postedIn turn = ran ++ (q.perform turn).2.tasks := by
  have hruns : turn.isPost = false → q.postedIn turn =
      (q.running (q.perform turn).1.length).flatMap EventTask.followUps := by
    intro h
    cases turn with
    | post t => cases h
    | slice length elapsed => rfl
    | drain => rfl
  cases hpost : turn.isPost with
  | false =>
    obtain ⟨n, hn⟩ := q.exists_perform_eq hpost
    rw [hruns hpost, hn, running_length]
    exact q.runUpTo_running n
  | true =>
    cases turn with
    | post t => exact ⟨rfl, rfl⟩
    | slice length elapsed => cases hpost
    | drain => cases hpost

/-- A turn without posts from outside performs the next stretch of the levels. -/
theorem levelOrder_perform (q : EventQueue α) {turn : Turn α} (h : turn.isPost = false) :
    levelOrder q.tasks = (q.perform turn).1 ++ levelOrder (q.perform turn).2.tasks := by
  obtain ⟨n, hn⟩ := q.exists_perform_eq h
  rw [hn]
  exact q.levelOrder_eq_append n

/-- What some turns do, as one turn does. -/
theorem after_in_order (q : EventQueue α) (turns : List (Turn α)) :
    q.log turns = (q.ran turns).map EventTask.action ∧
      q.tasks ++ q.posted turns = q.ran turns ++ (q.after turns).tasks := by
  induction turns generalizing q with
  | nil => exact ⟨rfl, List.append_nil _⟩
  | cons turn turns ih =>
    obtain ⟨hlog, htasks⟩ := ih (q.perform turn).2
    obtain ⟨hlog', htasks'⟩ := q.perform_in_order turn
    constructor
    · rw [log, ran, List.map_append, hlog, ← hlog']
    · rw [posted, ran, ← List.append_assoc, htasks', List.append_assoc, htasks, ← List.append_assoc]
      rfl

theorem levelOrder_after (q : EventQueue α) {turns : List (Turn α)}
    (h : ∀ turn ∈ turns, turn.isPost = false) :
    levelOrder q.tasks = q.log turns ++ levelOrder (q.after turns).tasks := by
  induction turns generalizing q with
  | nil => rfl
  | cons turn turns ih =>
    obtain ⟨hturn, hturns⟩ := List.forall_mem_cons.1 h
    rw [log, q.levelOrder_perform hturn, ih (q.perform turn).2 hturns, List.append_assoc]
    rfl

/-- First in, first out. For every queue and every number of turns, slices that stop behind any
number of tasks and posts from outside among them:

* the actions performed are those of the tasks that were run, and the tasks that were run are the
  first of those that were posted, in the order in which they were posted and each once; the others
  are in the queue still;
* without posts from outside the actions are a beginning of the levels of the tasks that there were,
  and the levels of what is left go on from there;
* the next turn, if it posts nothing from outside, performs the next stretch of the levels of what
  is left, and a slice of some length may stop behind any number of tasks; the slice that is charged
  no time is one of these turns;
* running what is pending ends, in one way, with the queue empty. All levels of what is left are
  performed, which is as many actions as there are tasks left, follow-ups included. -/
theorem run_in_order (q : EventQueue α) (turns : List (Turn α)) :
    let left := q.after turns
    (q.log turns = (q.ran turns).map EventTask.action ∧
        q.tasks ++ q.posted turns = q.ran turns ++ left.tasks) ∧
      ((∀ turn ∈ turns, turn.isPost = false) →
        levelOrder q.tasks = q.log turns ++ levelOrder left.tasks) ∧
      (∀ turn, turn.isPost = false →
        levelOrder left.tasks =
          (left.perform turn).1 ++ levelOrder (left.perform turn).2.tasks) ∧
      (∀ slice : Duration,
        ((left.pump slice).1, (left.pump slice).2.2) = left.perform (.slice slice fun _ => .zero) ∧
          (0 < slice.nanos → ∀ n, ∃ elapsed,
            left.perform (.slice slice elapsed) = left.runUpTo n)) ∧
      (left.perform .drain = (levelOrder left.tasks, .empty) ∧
        (∀ actions s, Drains left actions s ↔ actions = levelOrder left.tasks ∧ s = .empty) ∧
        (levelOrder left.tasks).length = left.weight) := by
  intro left
  have hrun : left.runPending = (levelOrder left.tasks, .empty) := by
    rw [← runPending_eq_levelOrder, ← eq_empty_of_isEmpty left.isEmpty_runPending]
  refine ⟨q.after_in_order turns, fun h => q.levelOrder_after h,
    fun turn => left.levelOrder_perform,
    fun slice => ⟨left.pump_eq_runSlice slice, fun h n => left.exists_clock h n⟩,
    hrun, fun actions s => ?_, ?_⟩
  · rw [drains_iff, hrun, Prod.mk.injEq, eq_comm, @eq_comm _ s]
  · rw [← runPending_eq_levelOrder, length_runPending]

end SceneFactory.EventQueue
