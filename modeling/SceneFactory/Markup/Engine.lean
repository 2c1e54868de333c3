import SceneFactory.EventQueue
import SceneFactory.Markup.Compile
import SceneFactory.Markup.Construct
import SceneFactory.Markup.Location
import SceneFactory.Numbered
import SceneFactory.Template.Status

/-!
# The markup engine

Compiles component sources, which are registered in memory or read from files.
The source is taken when the compile is asked for. An engine with an event queue
finishes asynchronous compiles from there; every other compile is finished at
once.

A syntax error without a place that could be shown breaks off the compile that comes
upon it. Such a compile leaves its template loading and breaks off what it is a part
of: the call that asked for it, which then hands out no template
(`Engine.handedOut?`), or the run of the queue, which leaves the tasks behind it
queued (`Engine.runTasks`). A request to a factory that comes upon it is broken off
too, and counts as one that fails (`Engine.verdict`).

Main statements: a compile counts once and makes one template
(`compiles_compile`, `size_compile`), and a synchronous compile has come to its end
when it is handed out (`verdict_compile_of_now`).
-/

namespace SceneFactory.Markup

/-- How far the compile of a template has come. -/
inductive TemplateState where
  | loading
  | ready (component : Component)
  /-- It has failed, or been broken off if the error is `unreportable`. -/
  | failed (e : MarkupError)
deriving Inhabited

/-- A component that is compiled or being compiled. -/
structure Template where
  uri : String
  state : TemplateState
deriving Inhabited

/-- A compile to be finished: the number of its template and the source as it was
when the compile was asked for. -/
structure PendingCompile where
  template : Nat
  uri : String
  source : Except MarkupError String

/-- The engine: where sources are, what was compiled, and what waits. -/
structure Engine where
  roots : Roots
  /-- Sources registered in memory, by URI. -/
  sources : Assoc String String
  /-- The files behind URIs. -/
  files : Files.Reader
  /-- Whether asynchronous compiles are finished from the queue. -/
  deferred : Bool
  queue : EventQueue PendingCompile
  /-- How many compiles were asked for. -/
  compiles : Nat
  templates : Numbered Template

namespace TemplateState

/-- What a compile has come to for a request that has to do with it: one that was
broken off fails the request. -/
def verdict : TemplateState → CompileStatus
  | .loading => .loading
  | .ready _ => .ready
  | .failed e => .failed e.message

/-- Whether the compile was broken off. -/
def isBrokenOff : TemplateState → Bool
  | .failed (.unreportable _) => true
  | _ => false

/-- The status that a template shows: a compile that was broken off never settles it. -/
def status (state : TemplateState) : CompileStatus :=
  if state.isBrokenOff then .loading else state.verdict

end TemplateState

namespace Engine

/-- An engine with the given roots and files that has compiled nothing. -/
def new (roots : Roots) (files : Files.Reader) (deferred : Bool) : Engine :=
  ⟨roots, .empty, files, deferred, .empty, 0, .empty⟩

instance : Inhabited Engine := ⟨new .empty Files.noFiles false⟩

/-- Serves a source for a URI from memory. -/
def register (engine : Engine) (uri source : String) : Engine :=
  ⟨engine.roots, engine.sources.insert uri source, engine.files, engine.deferred, engine.queue,
    engine.compiles, engine.templates⟩

/-- The source for a URI: the registered one, else the file behind it. -/
def source (engine : Engine) (uri : String) : Except MarkupError String :=
  match engine.sources.get? uri with
  | some source => .ok source
  | none =>
    match locate? engine.roots uri with
    | none => .error (.notFound uri)
    | some path => (engine.files path).mapError fun fault => .unreadable path fault.message

/-- What a pending compile comes to. -/
def outcome (pending : PendingCompile) : TemplateState :=
  match pending.source.bind (Markup.compile pending.uri) with
  | .ok component => .ready component
  | .error e => .failed e

/-- The engine with other templates. -/
def withTemplates (engine : Engine) (templates : Numbered Template) : Engine :=
  ⟨engine.roots, engine.sources, engine.files, engine.deferred, engine.queue, engine.compiles,
    templates⟩

/-- The engine with another queue. -/
def withQueue (engine : Engine) (queue : EventQueue PendingCompile) : Engine :=
  ⟨engine.roots, engine.sources, engine.files, engine.deferred, queue, engine.compiles,
    engine.templates⟩

/-- Whether a pending compile breaks off. -/
def breaksOff (pending : PendingCompile) : Bool := (outcome pending).isBrokenOff

/-- Carries out a pending compile. -/
def finish (engine : Engine) (pending : PendingCompile) : Engine :=
  engine.withTemplates
    (engine.templates.modify pending.template fun t => ⟨t.uri, outcome pending⟩)

/-- Adds a loading template and counts the compile. -/
def begin (engine : Engine) (uri : String) : Engine :=
  ⟨engine.roots, engine.sources, engine.files, engine.deferred, engine.queue, engine.compiles + 1,
    engine.templates.push ⟨uri, .loading⟩⟩

/-- Compiles a URI: the number of the template, whose compile is carried out now or
when the queue runs. -/
def compile (engine : Engine) (uri : String) (mode : CompileMode) : Nat × Engine :=
  -- the source is read now, even if the compile is finished later
  let pending : PendingCompile := ⟨engine.templates.next, uri, engine.source uri⟩
  let started := engine.begin uri
  if engine.deferred = true ∧ mode = .asynchronous then
    (pending.template, started.withQueue (started.queue.post (.mk pending [])))
  else (pending.template, started.finish pending)

/-- Whether the compile of a template was broken off. -/
def isBrokenOff (engine : Engine) (template : Nat) : Bool :=
  (engine.templates.get? template).any fun t => t.state.isBrokenOff

/-- The template that a compile hands out: none if it is broken off at once. -/
def handedOut? (engine : Engine) (uri : String) (mode : CompileMode) : Option Nat :=
  let (template, engine) := engine.compile uri mode
  if engine.isBrokenOff template then none else some template

/-- The status of a template. -/
def status (engine : Engine) (template : Nat) : CompileStatus :=
  match engine.templates.get? template with
  | some t => t.state.status
  | none => .loading

/-- What the compile of a template has come to for a request. -/
def verdict (engine : Engine) (template : Nat) : CompileStatus :=
  match engine.templates.get? template with
  | some t => t.state.verdict
  | none => .loading

/-- The component of a template that is ready. -/
def component? (engine : Engine) (template : Nat) : Option Component :=
  match engine.templates.get? template with
  | some ⟨_, .ready component⟩ => some component
  | _ => none

/-- Constructs an object of a template that is ready. -/
def construct? (engine : Engine) (template : Nat) (lookup : String → Option Value) :
    Option SceneObject :=
  (engine.component? template).map (Component.construct lookup)

/-- Completes an object with a template. -/
def complete (engine : Engine) (template : Nat) (o : SceneObject) : Except String SceneObject :=
  match engine.component? template with
  | some component => component.complete o
  | none =>
    let uri := (engine.templates.get? template).elim "" Template.uri
    .error ("'" ++ uri ++ "' is not compiled")

/-- Runs so many tasks of the queue, or all if there are fewer. One that breaks off
ends the run. Gives the compiles that were run, the one that broke off included. -/
def runTasks : Nat → Engine → List PendingCompile × Engine
  | 0, engine => ([], engine)
  | n + 1, engine =>
    match engine.queue.step? with
    | none => ([], engine)
    | some (pending, queue) =>
      -- the task has left the queue before it is run
      let engine := (engine.withQueue queue).finish pending
      if breaksOff pending then ([pending], engine)
      else
        let (ran, engine) := runTasks n engine
        (pending :: ran, engine)

/-- Runs the queue until it is empty, and says how many tasks it ran. -/
def runQueue (engine : Engine) : Nat × Engine :=
  let (ran, engine) := engine.runTasks engine.queue.weight
  (ran.length, engine)

/-- One slice of the queue as the host's event loop. -/
def pumpQueue (slice : Duration) (engine : Engine) : Duration × Engine :=
  let (tasks, elapsed, _) := engine.queue.pump slice
  (elapsed, (engine.runTasks tasks.length).2)

/-- The URIs of templates whose compiles were broken off. -/
def unreported (engine : Engine) : List String :=
  engine.templates.toList.filterMap fun t =>
    match t.state with
    | .failed (.unreportable uri) => some uri
    | _ => none

/-! ## Laws -/

/-- A compile counts once. -/
theorem compiles_compile (engine : Engine) (uri : String) (mode : CompileMode) :
    (engine.compile uri mode).2.compiles = engine.compiles + 1 := by
  unfold compile
  simp only
  split <;> rfl

/-- A compile makes one template. -/
theorem size_compile (engine : Engine) (uri : String) (mode : CompileMode) :
    (engine.compile uri mode).2.templates.size = engine.templates.size + 1 := by
  unfold compile
  simp only
  split
  · simp [withQueue, begin]
  · simp [finish, withTemplates, begin]

theorem verdict_finish (engine : Engine) (pending : PendingCompile) {t : Template}
    (h : engine.templates.get? pending.template = some t) :
    (engine.finish pending).verdict pending.template = (outcome pending).verdict := by
  simp [verdict, finish, withTemplates, Numbered.get?_modify, h]

/-- A compile that is not deferred has come to its end when it is handed out. -/
theorem verdict_compile_of_now (engine : Engine) (uri : String) {mode : CompileMode}
    (h : ¬(engine.deferred = true ∧ mode = .asynchronous)) :
    (engine.compile uri mode).2.verdict (engine.compile uri mode).1 =
      (outcome ⟨engine.templates.next, uri, engine.source uri⟩).verdict := by
  simp only [compile, if_neg h]
  exact verdict_finish _ _ (t := ⟨uri, .loading⟩) (by simp [begin])

end Engine

end SceneFactory.Markup
