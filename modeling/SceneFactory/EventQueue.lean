import SceneFactory.Duration

/-!
# The host's event queue

Tasks run one at a time in the order in which they were posted. A task that runs
may post follow-ups, which go to the end of the queue like any other. A task is
the action that it performs together with the tasks that it posts.

Main statements: running is first in, first out (`runUpTo_add`: running in two
goes is running in one), and running as many tasks as are left in the queue,
follow-ups included, empties it (`isEmpty_runPending`).
-/

namespace SceneFactory

/-- An action and the tasks that it posts. -/
inductive EventTask (α : Type) where
  | mk (action : α) (followUps : List (EventTask α))
deriving Inhabited

/-- Posted tasks, the oldest first. -/
structure EventQueue (α : Type) where
  tasks : List (EventTask α)
deriving Inhabited

variable {α : Type}

/-- The action of a task. -/
def EventTask.action : EventTask α → α
  | .mk action _ => action

/-- The tasks that a task posts. -/
def EventTask.followUps : EventTask α → List (EventTask α)
  | .mk _ followUps => followUps

mutual

/-- How many tasks a task comes to, its follow-ups included. -/
def EventTask.weight : EventTask α → Nat
  | .mk _ followUps => EventTask.totalWeight followUps + 1

/-- How many tasks the tasks of a list come to. -/
def EventTask.totalWeight : List (EventTask α) → Nat
  | [] => 0
  | t :: ts => t.weight + totalWeight ts

end

namespace EventQueue

/-- The queue without tasks. -/
def empty : EventQueue α := ⟨[]⟩

/-- Posts a task. -/
def post (q : EventQueue α) (t : EventTask α) : EventQueue α := ⟨q.tasks ++ [t]⟩

/-- The number of tasks posted and not yet run. -/
def size (q : EventQueue α) : Nat := q.tasks.length

/-- Whether there is nothing to run. -/
def isEmpty (q : EventQueue α) : Bool := q.tasks.isEmpty

/-- How many tasks are left to run, follow-ups included. -/
def weight (q : EventQueue α) : Nat := EventTask.totalWeight q.tasks

/-- Runs the oldest task. -/
def step? (q : EventQueue α) : Option (α × EventQueue α) :=
  match q.tasks with
  | [] => none
  | .mk action followUps :: rest => some (action, ⟨rest ++ followUps⟩)

/-- Runs so many tasks, or all if there are fewer: the actions in the order in
which they were performed, and what is left. -/
def runUpTo : Nat → EventQueue α → List α × EventQueue α
  | 0, q => ([], q)
  | n + 1, q =>
    match q.step? with
    | none => ([], q)
    | some (action, q) =>
      let (actions, q) := runUpTo n q
      (action :: actions, q)

/-- Runs tasks until none is left. -/
def runPending (q : EventQueue α) : List α × EventQueue α := q.runUpTo q.weight

/-- One slice of the queue as the host's event loop: the tasks are run, which is
charged no time of its own, and an idle queue lets the slice pass. A slice of no
length runs nothing. -/
def pump (slice : Duration) (q : EventQueue α) : List α × Duration × EventQueue α :=
  if slice.nanos = 0 then ([], .zero, q)
  else if q.isEmpty then ([], slice, q)
  else
    let (actions, q) := q.runPending
    (actions, .zero, q)

/-- The written form for diagnostics. -/
def debugText (q : EventQueue α) : String :=
  "LocalEventQueue \x7b pending: " ++ toString q.size ++ " \x7d"

/-! ## Laws -/

theorem totalWeight_append (ts us : List (EventTask α)) :
    EventTask.totalWeight (ts ++ us) = EventTask.totalWeight ts + EventTask.totalWeight us := by
  induction ts with
  | nil => simp [EventTask.totalWeight]
  | cons t ts ih => simp only [List.cons_append, EventTask.totalWeight, ih]; omega

/-- A task that is run is one less to run. -/
theorem weight_step {q r : EventQueue α} {action : α} (h : q.step? = some (action, r)) :
    r.weight + 1 = q.weight := by
  obtain ⟨tasks⟩ := q
  cases tasks with
  | nil => simp [step?] at h
  | cons t rest =>
    obtain ⟨a, followUps⟩ := t
    simp only [step?, Option.some.injEq, Prod.mk.injEq] at h
    obtain ⟨-, rfl⟩ := h
    simp only [weight, totalWeight_append, EventTask.totalWeight, EventTask.weight]
    omega

theorem weight_runUpTo (n : Nat) (q : EventQueue α) :
    (q.runUpTo n).2.weight = q.weight - n := by
  induction n generalizing q with
  | zero => rfl
  | succ n ih =>
    unfold runUpTo
    cases h : q.step? with
    | none =>
      obtain ⟨tasks⟩ := q
      cases tasks with
      | nil => simp [weight, EventTask.totalWeight]
      | cons t rest => obtain ⟨a, followUps⟩ := t; simp [step?] at h
    | some r =>
      obtain ⟨action, r⟩ := r
      have := weight_step h
      simp only [ih]
      omega

theorem length_runUpTo (n : Nat) (q : EventQueue α) :
    (q.runUpTo n).1.length = min n q.weight := by
  induction n generalizing q with
  | zero => simp [runUpTo]
  | succ n ih =>
    unfold runUpTo
    cases h : q.step? with
    | none =>
      obtain ⟨tasks⟩ := q
      cases tasks with
      | nil => simp [weight, EventTask.totalWeight]
      | cons t rest => obtain ⟨a, followUps⟩ := t; simp [step?] at h
    | some r =>
      obtain ⟨action, r⟩ := r
      have := weight_step h
      simp only [List.length_cons, ih]
      omega

theorem isEmpty_of_weight_zero {q : EventQueue α} (h : q.weight = 0) : q.isEmpty = true := by
  obtain ⟨tasks⟩ := q
  cases tasks with
  | nil => rfl
  | cons t rest =>
    obtain ⟨a, followUps⟩ := t
    simp only [weight, EventTask.totalWeight, EventTask.weight] at h
    omega

/-- Running what is pending leaves the queue empty. -/
theorem isEmpty_runPending (q : EventQueue α) : q.runPending.2.isEmpty = true :=
  isEmpty_of_weight_zero (by simp [runPending, weight_runUpTo])

/-- Running what is pending runs every task once. -/
theorem length_runPending (q : EventQueue α) : q.runPending.1.length = q.weight := by
  simp [runPending, length_runUpTo]

/-- Running in two goes is running in one. -/
theorem runUpTo_add (m n : Nat) (q : EventQueue α) :
    q.runUpTo (m + n) =
      ((q.runUpTo m).1 ++ ((q.runUpTo m).2.runUpTo n).1, ((q.runUpTo m).2.runUpTo n).2) := by
  induction m generalizing q with
  | zero => simp [runUpTo]
  | succ m ih =>
    rw [Nat.succ_add]
    cases h : q.step? with
    | none =>
      have hn : q.runUpTo n = ([], q) := by
        cases n with
        | zero => rfl
        | succ n => simp [runUpTo, h]
      simp [runUpTo, h, hn]
    | some r =>
      obtain ⟨action, r⟩ := r
      simp [runUpTo, h, ih]

end EventQueue

end SceneFactory
