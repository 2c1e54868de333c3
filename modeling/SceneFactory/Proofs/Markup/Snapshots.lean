import SceneFactory.Proofs.Markup.Reported

/-!
# A compile is a snapshot, delivered once

An engine's compiles wait in its event queue while sources are registered anew, files change,
and other compiles of the same URI are asked for. Each waits with the source that it was asked
for with, and with the number of a template that no other compile has, so what is in between
does not matter: of a compile that waits, either it is still due, or it has been run, once
(`Markup.Engine.Tracks.perform`, for one step of an engine). A run of the queue reaches it
unless the run is left before, or breaks off at a compile that waits in front of it
(`Markup.Engine.Tracks.runs_iff`).

Main statement: `Markup.Engine.delivers_snapshot`, for every run of an engine. A compile whose
source breaks it off is delivered like any other, but its template is loading from then on
(`Markup.Engine.unsettled_of_open_brace`).
-/

set_option autoImplicit false

namespace SceneFactory

/-! ## Queues of tasks that post nothing -/

section Flat

variable {α : Type}

namespace EventQueue

variable {q r : EventQueue α} {a : α}

/-- The actions of the tasks in a queue. -/
def actions (q : EventQueue α) : List α := q.tasks.map EventTask.action

/-- No task of the queue posts another. -/
def IsFlat (q : EventQueue α) : Prop := ∀ t ∈ q.tasks, t.followUps = []

theorem IsFlat.post (h : q.IsFlat) (a : α) : (q.post (.mk a [])).IsFlat := by
  intro t ht
  rcases List.mem_append.1 ht with ht | ht
  · exact h t ht
  · rw [List.mem_singleton.1 ht]
    rfl

theorem actions_post (q : EventQueue α) (a : α) :
    (q.post (.mk a [])).actions = q.actions ++ [a] := List.map_append

/-- A task that is taken from a flat queue leaves what was behind it. -/
theorem IsFlat.step (h : q.IsFlat) (hq : q.step? = some (a, r)) :
    q.actions = a :: r.actions ∧ r.IsFlat := by
  obtain ⟨tasks⟩ := q
  cases tasks with
  | nil => cases hq
  | cons t rest =>
    obtain ⟨b, followUps⟩ := t
    obtain rfl : followUps = [] := h _ List.mem_cons_self
    simp only [step?, List.append_nil, Option.some.injEq, Prod.mk.injEq] at hq
    obtain ⟨rfl, rfl⟩ := hq
    exact ⟨rfl, fun t ht => h t (List.mem_cons_of_mem _ ht)⟩

theorem actions_of_step_none (hq : q.step? = none) : q.actions = [] := by
  obtain ⟨tasks⟩ := q
  cases tasks with
  | nil => rfl
  | cons t rest =>
    obtain ⟨b, followUps⟩ := t
    cases hq

/-- The tasks of a flat queue are all there is to run. -/
theorem IsFlat.weight_eq (h : q.IsFlat) : q.weight = q.size := by
  obtain ⟨tasks⟩ := q
  induction tasks with
  | nil => rfl
  | cons t rest ih =>
    obtain ⟨b, followUps⟩ := t
    obtain rfl : followUps = [] := h _ List.mem_cons_self
    have hrest := ih fun t ht => h t (List.mem_cons_of_mem _ ht)
    simp only [weight, size] at hrest ⊢
    rw [EventTask.totalWeight, hrest, EventTask.weight, EventTask.totalWeight, List.length_cons]
    exact Nat.add_comm _ _

end EventQueue

end Flat

namespace Markup.Engine

/-! ## What can be done to an engine -/

/-- The engine with other files behind its URIs. -/
def withFiles (engine : Engine) (files : Files.Reader) : Engine :=
  ⟨engine.roots, engine.sources, files, engine.deferred, engine.queue, engine.compiles,
    engine.templates⟩

/-- What can be done to an engine, and what can happen to it. -/
inductive Step where
  | register (uri source : String)
  | compile (uri : String) (mode : CompileMode)
  /-- The event queue is run until it is empty. -/
  | runQueue
  /-- The event queue is run as the host's event loop. -/
  | pumpQueue (slice : Duration)
  /-- The event queue is left after so many tasks. -/
  | runTasks (n : Nat)
  /-- Files are written, changed or deleted. -/
  | changeFiles (files : Files.Reader)

/-- Takes one step: the compiles that were run from the queue, and the engine after it. -/
def perform (engine : Engine) : Step → List PendingCompile × Engine
  | .register uri source => ([], engine.register uri source)
  | .compile uri mode => ([], (engine.compile uri mode).2)
  | .runQueue => ((engine.runTasks engine.queue.weight).1, engine.runQueue.2)
  | .pumpQueue slice =>
    ((engine.runTasks (engine.queue.pump slice).1.length).1, (engine.pumpQueue slice).2)
  | .runTasks n => engine.runTasks n
  | .changeFiles files => ([], engine.withFiles files)

/-- The engine after some steps. -/
def after (engine : Engine) : List Step → Engine
  | [] => engine
  | step :: steps => (engine.perform step).2.after steps

/-- The compiles that were run from the queue in some steps, in order. -/
def ran (engine : Engine) : List Step → List PendingCompile
  | [] => []
  | step :: steps => (engine.perform step).1 ++ (engine.perform step).2.ran steps

/-- How many tasks of the queue a step runs if none of them breaks off. -/
def Step.tasks (engine : Engine) : Step → Nat
  | .runQueue => engine.queue.size
  | .pumpQueue slice => if slice.nanos = 0 then 0 else engine.queue.size
  | .runTasks n => n
  | _ => 0

variable {engine : Engine}

theorem after_append (engine : Engine) (steps more : List Step) :
    engine.after (steps ++ more) = (engine.after steps).after more := by
  induction steps generalizing engine with
  | nil => rfl
  | cons step steps ih => exact ih (engine.perform step).2

/-- What every task keeps that is run, a run of the queue keeps. -/
theorem runTasks_induction {motive : Engine → Prop}
    (task : ∀ {engine : Engine} {pending : PendingCompile} {queue : EventQueue PendingCompile},
      engine.queue.step? = some (pending, queue) → motive engine →
        motive ((engine.withQueue queue).finish pending))
    (n : Nat) (h : motive engine) : motive (engine.runTasks n).2 := by
  induction n generalizing engine with
  | zero => exact h
  | succ n ih =>
    rw [runTasks]
    cases hq : engine.queue.step? with
    | none => exact h
    | some next =>
      obtain ⟨pending, queue⟩ := next
      have hnext := task hq h
      by_cases hbreaks : breaksOff pending = true
      · simpa only [if_pos hbreaks] using hnext
      · simpa only [if_neg hbreaks] using ih hnext

/-! ## What waits -/

/-- The queue holds nothing but compiles of templates that there are. -/
structure IsTidy (engine : Engine) : Prop where
  flat : engine.queue.IsFlat
  known : ∀ waiting ∈ engine.queue.actions, waiting.template ≤ engine.templates.size

theorem IsTidy.runTask {pending : PendingCompile} {queue : EventQueue PendingCompile}
    (hq : engine.queue.step? = some (pending, queue)) (h : engine.IsTidy) :
    ((engine.withQueue queue).finish pending).IsTidy := by
  obtain ⟨hactions, hflat⟩ := h.flat.step hq
  refine ⟨hflat, fun waiting hmem => ?_⟩
  have hsize : ((engine.withQueue queue).finish pending).templates.size =
      engine.templates.size := engine.templates.size_modify _ _
  rw [hsize]
  exact h.known waiting (hactions ▸ List.mem_cons_of_mem pending hmem)

theorem IsTidy.runTasks (h : engine.IsTidy) (n : Nat) : (engine.runTasks n).2.IsTidy :=
  runTasks_induction IsTidy.runTask n h

/-- Of compiles that wait, those that a run carries out: all up to the first that breaks off,
which is carried out too. -/
def reached : List PendingCompile → List PendingCompile
  | [] => []
  | pending :: rest => if breaksOff pending then [pending] else pending :: reached rest

/-- A run of the queue carries out what it reaches of the front. -/
theorem IsTidy.ran_runTasks (h : engine.IsTidy) (n : Nat) :
    (engine.runTasks n).1 = reached (engine.queue.actions.take n) := by
  induction n generalizing engine with
  | zero => rfl
  | succ n ih =>
    rw [Engine.runTasks]
    cases hq : engine.queue.step? with
    | none =>
      rw [EventQueue.actions_of_step_none hq]
      rfl
    | some next =>
      obtain ⟨pending, queue⟩ := next
      have hrest : (((engine.withQueue queue).finish pending).runTasks n).1 =
          reached (queue.actions.take n) := ih (h.runTask hq)
      rw [(h.flat.step hq).1, List.take_succ_cons, reached, ← hrest]
      by_cases hbreaks : breaksOff pending = true
      · simp only [if_pos hbreaks]
      · simp only [if_neg hbreaks]

/-- A slice of the event loop takes the whole queue, unless it has no length. -/
theorem IsTidy.length_pump (h : engine.IsTidy) (slice : Duration) :
    (engine.queue.pump slice).1.length = (Step.pumpQueue slice).tasks engine := by
  simp only [EventQueue.pump, Step.tasks]
  by_cases hslice : slice.nanos = 0
  · rw [if_pos hslice, if_pos hslice]
    rfl
  · rw [if_neg hslice, if_neg hslice]
    by_cases hidle : engine.queue.isEmpty = true
    · rw [if_pos hidle, EventQueue.size, List.isEmpty_iff.1 hidle]
      rfl
    · rw [if_neg hidle, ← h.flat.weight_eq]
      exact engine.queue.length_runPending

theorem IsTidy.ran_perform (h : engine.IsTidy) (step : Step) :
    (engine.perform step).1 = reached (engine.queue.actions.take (step.tasks engine)) := by
  cases step with
  | register uri source => rfl
  | compile uri mode => rfl
  | runQueue =>
    rw [Step.tasks, ← h.flat.weight_eq]
    exact h.ran_runTasks _
  | pumpQueue slice =>
    rw [← h.length_pump slice]
    exact h.ran_runTasks _
  | runTasks n => exact h.ran_runTasks n
  | changeFiles files => rfl

/-- A compile adds one template, and waits at the end of the queue or not at all. -/
theorem compile_frame (engine : Engine) (uri : String) (mode : CompileMode) :
    let pending : PendingCompile := ⟨engine.templates.next, uri, engine.source uri⟩
    let later := engine.deferred = true ∧ mode = .asynchronous
    let next := (engine.compile uri mode).2
    (engine.compile uri mode).1 = pending.template ∧
      next.templates.size = engine.templates.size + 1 ∧
      (later → next.queue = engine.queue.post (.mk pending [])) ∧
      (¬later → next.queue = engine.queue) ∧
      next.templates.get? pending.template =
        some ⟨uri, if engine.deferred = true ∧ mode = .asynchronous then .loading
          else outcome pending⟩ ∧
      ∀ t, t ≤ engine.templates.size → next.templates.get? t = engine.templates.get? t := by
  intro pending later next
  have hsize : next.templates.size = engine.templates.size + 1 := engine.size_compile uri mode
  have hbegun : (engine.begin uri).templates.get? pending.template = some ⟨uri, .loading⟩ :=
    engine.templates.get?_push_self _
  have hother : ∀ t, t ≤ engine.templates.size →
      (engine.begin uri).templates.get? t = engine.templates.get? t :=
    fun t ht => engine.templates.get?_push_of_le _ ht
  by_cases hlater : later
  · have hcompiled : engine.compile uri mode = (pending.template,
        (engine.begin uri).withQueue (engine.queue.post (.mk pending []))) := if_pos hlater
    simp only [next] at hsize ⊢
    rw [hcompiled] at hsize ⊢
    refine ⟨rfl, hsize, fun _ => rfl, fun h => absurd hlater h, ?_, hother⟩
    rw [if_pos hlater]
    exact hbegun
  · have hcompiled : engine.compile uri mode = (pending.template,
        (engine.begin uri).finish pending) := if_neg hlater
    simp only [next] at hsize ⊢
    rw [hcompiled] at hsize ⊢
    refine ⟨rfl, hsize, fun h => absurd h hlater, fun _ => rfl, ?_, ?_⟩
    · rw [if_neg hlater]
      exact (engine.begin uri).get?_finish hbegun
    · intro t ht
      have hne : pending.template ≠ t := Nat.ne_of_gt (Nat.lt_succ_of_le ht)
      change ((engine.begin uri).templates.modify pending.template _).get? t = _
      rw [Numbered.get?_modify, if_neg hne]
      exact hother t ht

theorem IsTidy.compile (h : engine.IsTidy) (uri : String) (mode : CompileMode) :
    (engine.compile uri mode).2.IsTidy := by
  obtain ⟨-, hsize, hposted, hkept, -, -⟩ := engine.compile_frame uri mode
  by_cases hlater : engine.deferred = true ∧ mode = .asynchronous
  · have hqueue := hposted hlater
    refine ⟨hqueue ▸ h.flat.post _, ?_⟩
    intro waiting hmem
    rw [hqueue, EventQueue.actions_post] at hmem
    rw [hsize]
    rcases List.mem_append.1 hmem with hmem | hmem
    · exact Nat.le_succ_of_le (h.known waiting hmem)
    · rw [List.mem_singleton.1 hmem]
      exact Nat.le_refl _
  · have hqueue := hkept hlater
    refine ⟨hqueue ▸ h.flat, ?_⟩
    intro waiting hmem
    rw [hqueue] at hmem
    rw [hsize]
    exact Nat.le_succ_of_le (h.known waiting hmem)

theorem IsTidy.perform (h : engine.IsTidy) (step : Step) : (engine.perform step).2.IsTidy := by
  cases step with
  | register uri source => exact ⟨h.flat, h.known⟩
  | compile uri mode => exact h.compile uri mode
  | runQueue => exact h.runTasks _
  | pumpQueue slice => exact h.runTasks _
  | runTasks n => exact h.runTasks n
  | changeFiles files => exact ⟨h.flat, h.known⟩

theorem isTidy_after (h : engine.IsTidy) (steps : List Step) : (engine.after steps).IsTidy := by
  induction steps generalizing engine with
  | nil => exact h
  | cons step steps ih => exact ih (h.perform step)

theorem isTidy_new (roots : Roots) (files : Files.Reader) (deferred : Bool) :
    (new roots files deferred).IsTidy :=
  ⟨fun _ ht => (by cases ht), fun _ hw => (by cases hw)⟩

/-! ## One compile among the others -/

/-- Those of some compiles that are for one template. -/
def ofTemplate (t : Nat) (pending : List PendingCompile) : List PendingCompile :=
  pending.filter fun p => p.template = t

/-- Where a compile stands: what is due for its template, and how far the template has come. -/
structure Tracks (engine : Engine) (pending : PendingCompile) (due : List PendingCompile) :
    Prop where
  tidy : engine.IsTidy
  waiting : ofTemplate pending.template engine.queue.actions = due
  once : due = [] ∨ due = [pending]
  template : engine.templates.get? pending.template =
    some ⟨pending.uri, if due = [] then outcome pending else .loading⟩

namespace Tracks

variable {pending : PendingCompile} {due : List PendingCompile} (h : engine.Tracks pending due)

include h

theorem le_size : pending.template ≤ engine.templates.size := by
  apply Nat.le_of_not_lt
  intro hlt
  have hnone := (engine.templates.get?_eq_none_iff _).2 (Or.inr hlt)
  rw [h.template] at hnone
  cases hnone

/-- A task that is run is the one that is due, and settles the template, or it is for another
template. -/
theorem runTask {waiting : PendingCompile} {queue : EventQueue PendingCompile}
    (hq : engine.queue.step? = some (waiting, queue)) :
    ∃ left, ofTemplate pending.template [waiting] ++ left = due ∧
      ((engine.withQueue queue).finish waiting).Tracks pending left := by
  obtain ⟨hactions, -⟩ := h.tidy.flat.step hq
  have htidy := h.tidy.runTask hq
  have hsplit : ofTemplate pending.template [waiting] ++ ofTemplate pending.template queue.actions =
      due := by
    rw [ofTemplate, ofTemplate, ← List.filter_append, List.singleton_append, ← hactions]
    exact h.waiting
  by_cases hown : waiting.template = pending.template
  · have hself : ofTemplate pending.template [waiting] = [waiting] := by simp [ofTemplate, hown]
    rw [hself, List.singleton_append] at hsplit
    obtain rfl : due = [pending] := h.once.resolve_left (hsplit ▸ List.cons_ne_nil _ _)
    obtain ⟨rfl, hleft⟩ := List.cons.inj hsplit
    refine ⟨[], by rw [hself, List.append_nil], htidy, hleft, Or.inl rfl, ?_⟩
    exact (engine.withQueue queue).get?_finish h.template
  · have hnone : ofTemplate pending.template [waiting] = [] := by simp [ofTemplate, hown]
    rw [hnone, List.nil_append] at hsplit
    refine ⟨due, by rw [hnone, List.nil_append], htidy, hsplit, h.once, ?_⟩
    change (engine.templates.modify waiting.template _).get? pending.template = _
    rw [Numbered.get?_modify, if_neg hown]
    exact h.template

/-- Of what is due, a run of the queue runs some and leaves the rest; what it runs settles the
template. -/
theorem runTasks (n : Nat) :
    ∃ left, ofTemplate pending.template (engine.runTasks n).1 ++ left = due ∧
      (engine.runTasks n).2.Tracks pending left := by
  induction n generalizing engine due with
  | zero => exact ⟨due, rfl, h⟩
  | succ n ih =>
    rw [Engine.runTasks]
    cases hq : engine.queue.step? with
    | none => exact ⟨due, rfl, h⟩
    | some next =>
      obtain ⟨waiting, queue⟩ := next
      obtain ⟨between, hfirst, hnext⟩ := h.runTask hq
      by_cases hbreaks : breaksOff waiting = true
      · simp only [if_pos hbreaks]
        exact ⟨between, hfirst, hnext⟩
      · simp only [if_neg hbreaks]
        obtain ⟨left, hrest, hlast⟩ := ih hnext
        refine ⟨left, ?_, hlast⟩
        rw [← List.singleton_append, ofTemplate, List.filter_append, List.append_assoc]
        exact (congrArg _ hrest).trans hfirst

/-- Another compile is for another template. -/
theorem compile (uri : String) (mode : CompileMode) :
    (engine.compile uri mode).2.Tracks pending due := by
  obtain ⟨-, -, hposted, hkept, -, hother⟩ := engine.compile_frame uri mode
  refine ⟨h.tidy.compile uri mode, ?_, h.once, (hother _ h.le_size).trans h.template⟩
  have hne : engine.templates.next ≠ pending.template :=
    Nat.ne_of_gt (Nat.lt_succ_of_le h.le_size)
  by_cases hlater : engine.deferred = true ∧ mode = .asynchronous
  · rw [hposted hlater, EventQueue.actions_post, ofTemplate, List.filter_append]
    have hnew : ([⟨engine.templates.next, uri, engine.source uri⟩] : List PendingCompile).filter
        (fun p => p.template = pending.template) = [] := by
      simpa using hne
    rw [hnew, List.append_nil]
    exact h.waiting
  · rw [hkept hlater]
    exact h.waiting

/-- In every step, what is due is run or stays due. -/
theorem perform (step : Step) :
    ∃ left, ofTemplate pending.template (engine.perform step).1 ++ left = due ∧
      (engine.perform step).2.Tracks pending left := by
  cases step with
  | register uri source =>
    exact ⟨due, rfl, ⟨h.tidy.flat, h.tidy.known⟩, h.waiting, h.once, h.template⟩
  | compile uri mode => exact ⟨due, rfl, h.compile uri mode⟩
  | runQueue => exact h.runTasks _
  | pumpQueue slice => exact h.runTasks _
  | runTasks n => exact h.runTasks n
  | changeFiles files =>
    exact ⟨due, rfl, ⟨h.tidy.flat, h.tidy.known⟩, h.waiting, h.once, h.template⟩

/-- In every run, what is due is run or stays due. -/
theorem after (steps : List Step) :
    ∃ left, ofTemplate pending.template (engine.ran steps) ++ left = due ∧
      (engine.after steps).Tracks pending left := by
  induction steps generalizing engine due with
  | nil => exact ⟨due, rfl, h⟩
  | cons step steps ih =>
    obtain ⟨between, hfirst, hnext⟩ := h.perform step
    obtain ⟨left, hrest, hlast⟩ := ih hnext
    refine ⟨left, ?_, hlast⟩
    rw [Engine.ran, ofTemplate, List.filter_append, List.append_assoc]
    exact (congrArg _ hrest).trans hfirst

end Tracks

/-- A compile that has been asked for is due if it is left to the queue, and settled at once if it
is not. -/
theorem tracks_compile (h : engine.IsTidy) (uri : String) (mode : CompileMode) :
    let pending : PendingCompile := ⟨engine.templates.next, uri, engine.source uri⟩
    (engine.compile uri mode).2.Tracks pending
      (if engine.deferred = true ∧ mode = .asynchronous then [pending] else []) := by
  intro pending
  obtain ⟨-, -, hposted, hkept, htemplate, -⟩ := engine.compile_frame uri mode
  have htidy := h.compile uri mode
  have hself : ofTemplate pending.template [pending] = [pending] := by simp [ofTemplate]
  have hnone : ofTemplate pending.template engine.queue.actions = [] := by
    apply List.filter_eq_nil_iff.2
    intro waiting hmem
    have hlt : waiting.template < pending.template := Nat.lt_succ_of_le (h.known waiting hmem)
    simpa using Nat.ne_of_lt hlt
  by_cases hlater : engine.deferred = true ∧ mode = .asynchronous
  · rw [if_pos hlater]
    rw [if_pos hlater] at htemplate
    refine ⟨htidy, ?_, Or.inr rfl, htemplate⟩
    rw [hposted hlater, EventQueue.actions_post, ofTemplate, List.filter_append]
    exact congrArg₂ (· ++ ·) hnone hself
  · rw [if_neg hlater]
    rw [if_neg hlater] at htemplate
    refine ⟨htidy, ?_, Or.inl rfl, htemplate⟩
    rw [hkept hlater]
    exact hnone

/-! ## The source of a compile -/

/-- What is registered for a URI once a step was taken, given what was before. -/
def Step.registered? (uri : String) (found : Option String) : Step → Option String
  | .register other source => if other = uri then some source else found
  | _ => found

/-- The files that a step leaves, given what they were before. -/
def Step.filesAfter (files : Files.Reader) : Step → Files.Reader
  | .changeFiles changed => changed
  | _ => files

/-- The source for a URI after some steps of an engine with the given roots and files: what was
registered last, or else what the file behind the URI holds by then. -/
def sourceAfter (roots : Roots) (files : Files.Reader) (steps : List Step) (uri : String) :
    Except MarkupError String :=
  match steps.foldl (Step.registered? uri) none with
  | some source => .ok source
  | none =>
    match locate? roots uri with
    | none => .error (.notFound uri)
    | some path => (steps.foldl Step.filesAfter files path).mapError fun fault =>
        .unreadable path fault.message

/-- What is left of an engine when its templates, its queue and its count are left out. -/
def origin (engine : Engine) : Roots × Assoc String String × Files.Reader × Bool :=
  (engine.roots, engine.sources, engine.files, engine.deferred)

theorem origin_runTasks (engine : Engine) (n : Nat) :
    (engine.runTasks n).2.origin = engine.origin :=
  runTasks_induction (motive := fun next => next.origin = engine.origin) (fun _ h => h) n rfl

theorem origin_compile (engine : Engine) (uri : String) (mode : CompileMode) :
    (engine.compile uri mode).2.origin = engine.origin := by
  rw [compile]
  split <;> rfl

/-- Nothing but a registration registers a source, and nothing changes files but a change of
files. -/
theorem origin_perform (engine : Engine) (step : Step) :
    let next := (engine.perform step).2
    next.roots = engine.roots ∧ next.deferred = engine.deferred ∧
      next.files = step.filesAfter engine.files ∧
      ∀ uri, next.sources.get? uri = step.registered? uri (engine.sources.get? uri) := by
  have hsame : ∀ next : Engine, next.origin = engine.origin →
      next.roots = engine.roots ∧ next.deferred = engine.deferred ∧ next.files = engine.files ∧
        ∀ uri, next.sources.get? uri = engine.sources.get? uri := by
    intro next h
    simp only [origin, Prod.mk.injEq] at h
    obtain ⟨hroots, hsources, hfiles, hdeferred⟩ := h
    exact ⟨hroots, hdeferred, hfiles, fun uri => by rw [hsources]⟩
  cases step with
  | register other source =>
    exact ⟨rfl, rfl, rfl, fun uri => engine.sources.get?_insert other uri source⟩
  | compile uri mode => exact hsame _ (engine.origin_compile uri mode)
  | runQueue => exact hsame _ (engine.origin_runTasks _)
  | pumpQueue slice => exact hsame _ (engine.origin_runTasks _)
  | runTasks n => exact hsame _ (engine.origin_runTasks n)
  | changeFiles files => exact ⟨rfl, rfl, rfl, fun _ => rfl⟩

/-- What is registered and what files hold is what the steps say. -/
theorem origin_after (engine : Engine) (steps : List Step) :
    let last := engine.after steps
    last.roots = engine.roots ∧ last.deferred = engine.deferred ∧
      last.files = steps.foldl Step.filesAfter engine.files ∧
      ∀ uri, last.sources.get? uri =
        steps.foldl (Step.registered? uri) (engine.sources.get? uri) := by
  induction steps generalizing engine with
  | nil => exact ⟨rfl, rfl, rfl, fun _ => rfl⟩
  | cons step steps ih =>
    obtain ⟨hroots, hdeferred, hfiles, hsources⟩ := engine.origin_perform step
    obtain ⟨hroots', hdeferred', hfiles', hsources'⟩ := ih (engine.perform step).2
    refine ⟨hroots'.trans hroots, hdeferred'.trans hdeferred, ?_, ?_⟩
    · rw [List.foldl_cons, ← hfiles]
      exact hfiles'
    · intro uri
      rw [List.foldl_cons, ← hsources uri]
      exact hsources' uri

theorem source_after (roots : Roots) (files : Files.Reader) (deferred : Bool) (steps : List Step)
    (uri : String) :
    ((new roots files deferred).after steps).source uri = sourceAfter roots files steps uri := by
  obtain ⟨hroots, -, hfiles, hsources⟩ := (new roots files deferred).origin_after steps
  rw [source, sourceAfter, hsources uri, hroots, hfiles]
  rfl

/-! ## Delivery -/

/-- The compiles that wait in front of the first one for a template. -/
def ahead (engine : Engine) (t : Nat) : List PendingCompile :=
  engine.queue.actions.takeWhile fun p => p.template ≠ t

/-- A run reaches a compile if it is long enough and nothing in front of the compile breaks it
off. -/
theorem mem_reached_take_iff {pending : PendingCompile} {front behind : List PendingCompile}
    (h : pending ∉ front) (n : Nat) :
    pending ∈ reached ((front ++ pending :: behind).take n) ↔
      front.length < n ∧ ∀ p ∈ front, breaksOff p = false := by
  induction front generalizing n with
  | nil =>
    cases n with
    | zero => simp [reached]
    | succ n =>
      rw [List.nil_append, List.take_succ_cons, reached]
      split <;> simp
  | cons first rest ih =>
    obtain ⟨hne, hrest⟩ : pending ≠ first ∧ pending ∉ rest := by simpa using h
    cases n with
    | zero => simp [reached]
    | succ n =>
      rw [List.cons_append, List.take_succ_cons, reached]
      by_cases hbreaks : breaksOff first = true
      · simp [hbreaks, hne]
      · rw [if_neg hbreaks, List.mem_cons, or_iff_right hne, ih hrest n]
        simp [hbreaks]

/-- A step runs a compile that waits iff it runs enough tasks and no compile that waits in front
of it breaks off. -/
theorem Tracks.runs_iff {pending : PendingCompile} (h : engine.Tracks pending [pending])
    (step : Step) :
    ofTemplate pending.template (engine.perform step).1 = [pending] ↔
      (engine.ahead pending.template).length < step.tasks engine ∧
        ∀ p ∈ engine.ahead pending.template, breaksOff p = false := by
  obtain ⟨front, behind, hactions, hfront, -, -⟩ := List.filter_eq_cons_iff.1 h.waiting
  have hahead : engine.ahead pending.template = front := by
    rw [ahead, hactions, List.takeWhile_append_of_pos fun p hp => by simpa using hfront p hp]
    simp
  have hnot : pending ∉ front := fun hmem => hfront pending hmem (by simp)
  obtain ⟨left, hsplit, -⟩ := h.perform step
  rw [hahead, ← mem_reached_take_iff hnot (step.tasks engine), ← hactions,
    ← h.tidy.ran_perform step]
  constructor
  · intro hown
    exact List.mem_of_mem_filter (hown ▸ List.mem_singleton_self pending)
  · intro hran
    have hmem : pending ∈ ofTemplate pending.template (engine.perform step).1 :=
      List.mem_filter.2 ⟨hran, by simp⟩
    rcases List.append_eq_singleton_iff.1 hsplit with ⟨hnone, -⟩ | ⟨hown, -⟩
    · rw [hnone] at hmem
      cases hmem
    · exact hown

/-! ## The main statement -/

/-- What a template shows once its compile has been carried out: its status, and the component
that it constructs from. A compile that breaks off leaves the template loading. -/
def shown : Except MarkupError Component → CompileStatus × Option Component
  | .ok component => (.ready, some component)
  | .error (.unreportable _) => (.loading, none)
  | .error e => (.failed e.message, none)

/-- Where a compile stands is what its template shows. -/
theorem Tracks.shows {pending : PendingCompile} {due : List PendingCompile}
    (h : engine.Tracks pending due) :
    (engine.status pending.template, engine.component? pending.template) =
      if due = [] then shown (pending.source.bind (Markup.compile pending.uri))
      else (.loading, none) := by
  rw [status, component?, h.template]
  by_cases hdue : due = []
  · rw [if_pos hdue, if_pos hdue, outcome]
    cases pending.source.bind (Markup.compile pending.uri) with
    | ok component => rfl
    | error e => cases e <;> rfl
  · rw [if_neg hdue, if_neg hdue]
    rfl

/-- What is shown is settled unless the compile breaks off. -/
theorem shown_ne_loading_iff (pending : PendingCompile) :
    (shown (pending.source.bind (Markup.compile pending.uri))).1 ≠ .loading ↔
      breaksOff pending = false := by
  rw [breaksOff, outcome]
  cases pending.source.bind (Markup.compile pending.uri) with
  | ok component => simp [shown, TemplateState.isBrokenOff]
  | error e => cases e <;> simp [shown, TemplateState.isBrokenOff]

/-- A compile is broken off when it is handed out iff it is carried out at once and breaks off. -/
theorem isBrokenOff_compile (engine : Engine) (uri : String) (mode : CompileMode) :
    (engine.compile uri mode).2.isBrokenOff (engine.compile uri mode).1 =
      if engine.deferred = true ∧ mode = .asynchronous then false
      else breaksOff ⟨engine.templates.next, uri, engine.source uri⟩ := by
  obtain ⟨hnumber, -, -, -, htemplate, -⟩ := engine.compile_frame uri mode
  rw [hnumber, isBrokenOff, htemplate, Option.any_some]
  split <;> rfl

/-- A compile is a snapshot, delivered once. Take any run of a new engine and any compile in it.

A compile that is left to the queue has one task, which is run at most once; as long as it has
not been run, the template is loading, and the next step runs it iff the step runs so many tasks
and no compile that waits in front of it breaks off. A compile that is not left to the queue has
no task, and hands out a template unless it breaks off. Once the compile has been carried out, its
template shows what compiling the source comes to that the URI had when the compile was asked for,
and shows it forever, whatever is registered, changed, compiled or run from then on. That is a
status that settles it unless the compile breaks off. -/
theorem delivers_snapshot (roots : Roots) (files : Files.Reader) (deferred : Bool)
    (earlier later : List Step) (uri : String) (mode : CompileMode) :
    let first := new roots files deferred
    let engine := first.after earlier
    let asked := engine.compile uri mode
    let number := asked.1
    let pending : PendingCompile := ⟨number, uri, sourceAfter roots files earlier uri⟩
    let result := shown (pending.source.bind (Markup.compile uri))
    let last := first.after (earlier ++ .compile uri mode :: later)
    let own := ofTemplate number (asked.2.ran later)
    let shows := fun engine : Engine => (engine.status number, engine.component? number)
    let queued := deferred = true ∧ mode = .asynchronous
    (queued → own = [] ∨ own = [pending]) ∧
      (¬queued → own = [] ∧
        engine.handedOut? uri mode = if breaksOff pending = true then none else some number) ∧
      (queued ∧ own = [] → shows last = (.loading, none) ∧
        ∀ step, ofTemplate number (last.perform step).1 = [pending] ↔
          (last.ahead number).length < step.tasks last ∧
            ∀ p ∈ last.ahead number, breaksOff p = false) ∧
      (¬(queued ∧ own = []) → ∀ more, shows (last.after more) = result) ∧
      (result.1 ≠ .loading ↔ breaksOff pending = false) := by
  intro first engine asked number pending result last own shows queued
  have hdeferred : engine.deferred = deferred := (first.origin_after earlier).2.1
  have hsource : engine.source uri = sourceAfter roots files earlier uri :=
    source_after roots files deferred earlier uri
  have hnumber : number = engine.templates.next := (engine.compile_frame uri mode).1
  have hbroken := engine.isBrokenOff_compile uri mode
  have hbegun := tracks_compile (isTidy_after (isTidy_new roots files deferred) earlier) uri mode
  rw [hsource, ← hnumber, hdeferred] at hbegun hbroken
  have hlast : last = asked.2.after later :=
    first.after_append earlier (.compile uri mode :: later)
  obtain ⟨left, hsplit, hends⟩ := hbegun.after later
  rw [← hlast] at hends
  have hcarried : left = [] → ∀ more, shows (last.after more) = result := by
    rintro rfl more
    obtain ⟨rest, hrest, hstays⟩ := hends.after more
    obtain ⟨-, rfl⟩ := List.append_eq_nil_iff.1 hrest
    exact hstays.shows
  have hsettled : result.1 ≠ .loading ↔ breaksOff pending = false := shown_ne_loading_iff pending
  by_cases hqueued : queued
  · rw [if_pos hqueued] at hsplit
    change own ++ left = [pending] at hsplit
    refine ⟨fun _ => ?_, fun h => absurd hqueued h, ?_, ?_, hsettled⟩
    · rcases List.append_eq_singleton_iff.1 hsplit with ⟨hown, -⟩ | ⟨hown, -⟩
      · exact Or.inl hown
      · exact Or.inr hown
    · rintro ⟨-, hown⟩
      obtain rfl : left = [pending] := by rwa [hown, List.nil_append] at hsplit
      exact ⟨hends.shows, hends.runs_iff⟩
    · intro hown
      rcases List.append_eq_singleton_iff.1 hsplit with ⟨hnone, -⟩ | ⟨-, hleft⟩
      · exact absurd ⟨hqueued, hnone⟩ hown
      · exact hcarried hleft
  · rw [if_neg hqueued] at hsplit hbroken
    obtain ⟨hown, hleft⟩ := List.append_eq_nil_iff.1 hsplit
    refine ⟨fun h => absurd h hqueued, fun _ => ⟨hown, ?_⟩, fun h => absurd h.1 hqueued,
      fun _ => hcarried hleft, hsettled⟩
    rw [handedOut?, ← hbroken]

/-- A source that is replaced while its compile waits behind another one: a run of the queue reaches
the compile iff it runs both, and the template is ready from then on, as the replaced source was
without a fault. -/
theorem delivers_snapshot_of_replacedSource :
    let first := new .empty Files.noFiles true
    let earlier : List Step :=
      [.register "mem:/A" "item A \x7b \x7d", .compile "mem:/B" .asynchronous]
    let later : List Step := [.register "mem:/A" "item A \x7b "]
    let last := first.after (earlier ++ .compile "mem:/A" .asynchronous :: later)
    (∀ n, ofTemplate 2 (last.perform (.runTasks n)).1 =
        [⟨2, "mem:/A", .ok "item A \x7b \x7d"⟩] ↔ 1 < n) ∧
      ∀ more, ((last.after [.runTasks 2]).after more).status 2 = .ready := by
  intro first earlier later last
  constructor
  · obtain ⟨-, -, hdue, -, -⟩ :=
      delivers_snapshot .empty Files.noFiles true earlier later "mem:/A" .asynchronous
    obtain ⟨-, hruns⟩ := hdue ⟨⟨rfl, rfl⟩, rfl⟩
    intro n
    have hahead : last.ahead 2 = [⟨1, "mem:/B", .error (.notFound "mem:/B")⟩] := rfl
    refine (hruns (.runTasks n)).trans ?_
    change (last.ahead 2).length < n ∧ (∀ p ∈ last.ahead 2, breaksOff p = false) ↔ 1 < n
    rw [hahead]
    exact and_iff_left (by simp [breaksOff, outcome, Except.bind, TemplateState.isBrokenOff])
  · obtain ⟨-, -, -, hstays, -⟩ := delivers_snapshot .empty Files.noFiles true earlier
      (later ++ [.runTasks 2]) "mem:/A" .asynchronous
    let asked := (first.after earlier).compile "mem:/A" .asynchronous
    have hran : (ofTemplate 2 (asked.2.ran (later ++ [.runTasks 2]))).length = 1 := by
      decide +kernel
    have hready : (shown (Markup.compile "mem:/A" "item A \x7b \x7d")).1 = .ready := by
      decide +kernel
    have hnot : ofTemplate 2 (asked.2.ran (later ++ [.runTasks 2])) ≠ [] :=
      List.ne_nil_of_length_pos (hran ▸ Nat.one_pos)
    exact fun more => (congrArg Prod.fst (hstays (fun h => hnot h.2) more)).trans hready

/-- An open brace and a blank behind it: the compile is carried out, and its template is loading
ever after. -/
theorem unsettled_of_open_brace :
    let first := new .empty Files.noFiles true
    let steps : List Step :=
      [.register "mem:/A" "item A \x7b ", .compile "mem:/A" .asynchronous, .runQueue]
    first.ran steps = [⟨1, "mem:/A", .ok "item A \x7b "⟩] ∧
      ∀ more, ((first.after steps).after more).status 1 = .loading := by
  intro first steps
  let registered := first.register "mem:/A" "item A \x7b "
  let pending : PendingCompile := ⟨1, "mem:/A", .ok "item A \x7b "⟩
  have hbreaks : breaksOff pending = true := by decide +kernel
  have htidy : registered.IsTidy := (isTidy_new .empty Files.noFiles true).perform (.register _ _)
  have hbegun : (registered.compile "mem:/A" .asynchronous).2.Tracks pending [pending] :=
    tracks_compile htidy "mem:/A" .asynchronous
  have hran : ((registered.compile "mem:/A" .asynchronous).2.perform .runQueue).1 = [pending] := by
    refine (hbegun.tidy.ran_perform .runQueue).trans ?_
    change reached [pending] = [pending]
    rw [reached, if_pos hbreaks]
  obtain ⟨left, hsplit, hends⟩ := hbegun.perform .runQueue
  obtain rfl : left = [] := by simpa [hran, ofTemplate, pending] using hsplit
  refine ⟨congrArg (· ++ []) hran, fun more => ?_⟩
  obtain ⟨rest, hrest, hstays⟩ := hends.after more
  obtain ⟨-, rfl⟩ := List.append_eq_nil_iff.1 hrest
  refine (congrArg Prod.fst hstays.shows).trans ?_
  exact Classical.not_not.1 fun h => by
    rw [(shown_ne_loading_iff pending).1 h] at hbreaks
    cases hbreaks

end Markup.Engine

end SceneFactory
