import SceneFactory.Proofs.Modes.Alike
import SceneFactory.Proofs.Template.Failures

/-!
# Both modes do the same

A host that works with the markup engine alone (`Operation.IsOnSide`) cannot tell in which mode
its factory compiles: sessions that differ in nothing but the modes of their factories answer
every operation alike and stay alike (`Session.Alike.perform`), and so do their runs
(`Session.Alike.run`).

Main statement: `Session.modes_agree`.
-/

set_option autoImplicit false

namespace SceneFactory

variable {H : Host} (side : H.MarkupSide)

/-! ## Operations on the markup side -/

/-- What a host does that works with the markup engine alone: all that happens on its own side is
that sources are registered, and it names no other engine. Requests for a template alone are left
out, since a handle shows its serial number. -/
def Operation.IsOnSide : Operation H → Prop
  | .outside change => ∃ uri source, ∀ state engine, side.engine? state = some engine →
      side.engine? (change state) = some (engine.register uri source)
  | .template _ | .readyTemplate _ _ => False
  | .bind name => name = side.name
  | .addContainer _ _ engine? | .addContainerWith _ _ engine? =>
      ∀ name, engine? = some name → name = side.name
  | _ => True

variable {side} {engine : Markup.Engine}

namespace Session

/-- No container comes to know another engine. -/
theorem knowsOnly_perform {s : Session H} {op : Operation H}
    (h : s.world.scene.KnowsOnly side.name) (hop : op.IsOnSide side) :
    (s.perform op).2.world.scene.KnowsOnly side.name := by
  refine Scene.KnowsOnly.inherits ?_
    ((s.carryOut op).2.world.scene.inheritsContainers_forgetUnheld _)
  by_cases hanew : op.refersAnew = false
  · exact h.inherits (s.inherits_carryOut op hanew).containers
  · cases op with
    | newContext parent? => exact h
    | holdContext i =>
      simp only [carryOut]
      split <;> exact h
    | addContainer name context? engine? => exact h.addContainer name context? hop
    | addContainerWith name properties engine? => exact h.addContainer name _ hop
    | _ => exact absurd rfl hanew

/-! ## Two sessions -/

/-- Two sessions that differ in nothing but the modes of their factories, the serial numbers of
handles, and what their hosts are in beside the engine. -/
structure Alike (side : H.MarkupSide) (s s' : Session H) : Prop where
  shops : ∃ engine, s.world.Alike side engine s'.world ∧
    Option.Rel (Factory.Alike side engine) s.factory? s'.factory?
  tracker : s'.tracker = s.tracker
  heldInstances : s'.heldInstances = s.heldInstances
  heldContexts : s'.heldContexts = s.heldContexts

namespace Alike

variable {s s' : Session H} (h : s.Alike side s')

include h

theorem scene : s'.world.scene = s.world.scene := by
  obtain ⟨engine, hw, -⟩ := h.shops
  exact hw.scene

theorem contexts : s'.world.contexts = s.world.contexts := by
  obtain ⟨engine, hw, -⟩ := h.shops
  exact hw.contexts

theorem withScene (scene : Scene H.Engine) :
    (s.withScene scene).Alike side (s'.withScene scene) := by
  obtain ⟨engine, hw, hf⟩ := h.shops
  exact ⟨⟨engine, hw.withScene scene, hf⟩, h.tracker, h.heldInstances, h.heldContexts⟩

theorem withContexts (contexts : Contexts) :
    (s.withWorld (s.world.withContexts contexts)).Alike side
      (s'.withWorld (s'.world.withContexts contexts)) := by
  obtain ⟨engine, hw, hf⟩ := h.shops
  exact ⟨⟨engine, hw.withContexts contexts, hf⟩, h.tracker, h.heldInstances, h.heldContexts⟩

theorem withTracker (tracker : Tracker) :
    (s.withTracker tracker).Alike side (s'.withTracker tracker) :=
  ⟨h.shops, rfl, h.heldInstances, h.heldContexts⟩

theorem withHeldContexts (held : List ContextId) :
    (s.withHeldContexts held).Alike side (s'.withHeldContexts held) :=
  ⟨h.shops, h.tracker, h.heldInstances, rfl⟩

theorem hold (ids : List InstanceId) : (s.hold ids).Alike side (s'.hold ids) :=
  ⟨h.shops, h.tracker, congrArg (· ++ ids) h.heldInstances, h.heldContexts⟩

/-- What nobody refers to is the same in both. -/
theorem settle : s.settle.Alike side s'.settle := by
  have hreferences : s'.instanceReferences = s.instanceReferences := by
    obtain ⟨engine, -, hf⟩ := h.shops
    rw [instanceReferences, instanceReferences, h.heldInstances, h.tracker]
    generalize s.factory? = f? at hf ⊢
    generalize s'.factory? = f?' at hf ⊢
    cases hf with
    | none => rfl
    | some hf => simp only [Option.elim_some, hf.tracker]
  simp only [Session.settle, h.scene, hreferences]
  exact h.withScene _

/-- What a factory answers in one mode it answers in the other. -/
theorem atWork (hknown : s.world.scene.KnowsOnly side.name)
    {work : Workshop H → Outcome H × Workshop H} (hwork : Workshop.Agrees side work) :
    ∃ outcome next next', s.atWork work = (outcome, next) ∧ s'.atWork work = (outcome, next') ∧
      next.Alike side next' := by
  obtain ⟨world, factory?, tracker, heldInstances, heldContexts⟩ := s
  obtain ⟨world', factory?', tracker', heldInstances', heldContexts'⟩ := s'
  obtain ⟨⟨engine, hw, hf⟩, htracker, hinstances, hcontexts⟩ := h
  cases hf with
  | none => exact ⟨_, _, _, rfl, rfl, ⟨engine, hw, .none⟩, htracker, hinstances, hcontexts⟩
  | @some f f' hf =>
    obtain ⟨outcome, next, next', heq, heq', engine', hw', hf'⟩ :=
      hwork ⟨f, world⟩ ⟨f', world'⟩ ⟨engine, hw, hf⟩ hknown
    simp only [Session.atWork]
    rw [heq, heq']
    exact ⟨_, _, _, rfl, rfl, ⟨engine', hw', .some hf'⟩, htracker, hinstances, hcontexts⟩

theorem dropFactory (hknown : s.world.scene.KnowsOnly side.name) :
    ∃ outcome next next', s.dropFactory = (outcome, next) ∧ s'.dropFactory = (outcome, next') ∧
      next.Alike side next' := by
  obtain ⟨world, factory?, tracker, heldInstances, heldContexts⟩ := s
  obtain ⟨world', factory?', tracker', heldInstances', heldContexts'⟩ := s'
  obtain ⟨⟨engine, hw, hf⟩, htracker, hinstances, hcontexts⟩ := h
  cases hf with
  | none => exact ⟨_, _, _, rfl, rfl, ⟨engine, hw, .none⟩, htracker, hinstances, hcontexts⟩
  | @some f f' hf =>
    obtain ⟨outcome, next, next', heq, heq', engine', hw', -⟩ :=
      Workshop.agrees_teardown ⟨f, world⟩ ⟨f', world'⟩ ⟨engine, hw, hf⟩ hknown
    obtain ⟨-, rfl⟩ := Prod.mk.inj heq
    obtain ⟨-, rfl⟩ := Prod.mk.inj heq'
    exact ⟨_, _, _, rfl, rfl, ⟨engine', hw', .none⟩, htracker, hinstances, hcontexts⟩

/-- Registering a source settles and unsettles no template. -/
theorem register {change : H.State → H.State} {uri source : String}
    (hchange : ∀ state engine, side.engine? state = some engine →
      side.engine? (change state) = some (engine.register uri source)) :
    (s.withWorld (s.world.withState (change s.world.state))).Alike side
      (s'.withWorld (s'.world.withState (change s'.world.state))) := by
  obtain ⟨engine, hw, hf⟩ := h.shops
  refine ⟨⟨engine.register uri source, ?_, ?_⟩, h.tracker, h.heldInstances, h.heldContexts⟩
  · exact hw.withState (hchange _ _ hw.drained.engine?) (hchange _ _ hw.drained'.engine?)
      hw.drained.queue
  · change Option.Rel _ s.factory? s'.factory?
    generalize s.factory? = f? at hf ⊢
    generalize s'.factory? = f?' at hf ⊢
    cases hf with
    | none => exact .none
    | some hf => exact .some (hf.mono fun _ ht => ht)

/-- What an operation answers in one mode it answers in the other. -/
theorem carryOut (hknown : s.world.scene.KnowsOnly side.name) {op : Operation H}
    (hop : op.IsOnSide side) :
    ∃ outcome next next', s.carryOut op = (outcome, next) ∧ s'.carryOut op = (outcome, next') ∧
      next.Alike side next' := by
  -- beside the factory and the host's state there is nothing to tell apart
  obtain ⟨⟨state', contexts', scene'⟩, factory?', tracker', heldInstances', heldContexts'⟩ := s'
  obtain rfl : scene' = s.world.scene := h.scene
  obtain rfl : contexts' = s.world.contexts := h.contexts
  obtain rfl : tracker' = s.tracker := h.tracker
  obtain rfl : heldInstances' = s.heldInstances := h.heldInstances
  obtain rfl : heldContexts' = s.heldContexts := h.heldContexts
  cases op with
  | outside change =>
    obtain ⟨uri, source, hchange⟩ := hop
    exact ⟨_, _, _, rfl, rfl, h.register hchange⟩
  | bind name =>
    obtain rfl : name = side.name := hop
    exact h.atWork hknown Workshop.agrees_bind
  | template identifier => cases hop
  | readyTemplate container? identifier => cases hop
  | create container? identifier contextual direct ownership =>
    obtain ⟨outcome, next, next', heq, heq', hnext⟩ := h.atWork hknown
      ((Workshop.agrees_create container? identifier contextual direct ownership).map
        Outcome.created)
    simp only [Session.carryOut]
    rw [heq, heq']
    cases outcome with
    | created answer =>
      cases answer with
      | error e => exact ⟨_, _, _, rfl, rfl, hnext⟩
      | ok i => exact ⟨_, _, _, rfl, rfl, hnext.hold [i]⟩
    | _ => exact ⟨_, _, _, rfl, rfl, hnext⟩
  | createMany key values container? identifier base ownership =>
    obtain ⟨outcome, next, next', heq, heq', hnext⟩ := h.atWork hknown
      ((Workshop.agrees_createMany key values container? identifier base ownership).map
        Outcome.createdMany)
    simp only [Session.carryOut]
    rw [heq, heq']
    cases outcome with
    | createdMany ids => exact ⟨_, _, _, rfl, rfl, hnext.hold ids⟩
    | _ => exact ⟨_, _, _, rfl, rfl, hnext⟩
  | destroy i => exact h.atWork hknown ((Workshop.agrees_destroy i).map Outcome.flag)
  | destroyAll ids => exact h.atWork hknown ((Workshop.agrees_destroyAll ids).map Outcome.count)
  | flush busy => exact h.atWork hknown ((Workshop.agrees_flush busy).map Outcome.count)
  | teardown => exact h.atWork hknown Workshop.agrees_teardown
  | dropFactory => exact h.dropFactory hknown
  | setRootContext name value => exact h.atWork hknown (Workshop.agrees_setRootContext name value)
  | detach i access => exact ⟨_, _, _, rfl, rfl, h.withScene _⟩
  | dropInstance i => exact ⟨_, _, _, rfl, rfl, h.shops, rfl, rfl, rfl⟩
  | newContext parent? => exact ⟨_, _, _, rfl, rfl, (h.withContexts _).withHeldContexts _⟩
  | holdContext i =>
    simp only [Session.carryOut]
    cases (s.world.scene.instance? i).bind Instance.context? with
    | none => exact ⟨_, _, _, rfl, rfl, h⟩
    | some k => exact ⟨_, _, _, rfl, rfl, h.withHeldContexts _⟩
  | setContext k name value => exact ⟨_, _, _, rfl, rfl, h.withContexts _⟩
  | dropContext k => exact ⟨_, _, _, rfl, rfl, h.withHeldContexts _⟩
  | addContainer name context? engine? => exact ⟨_, _, _, rfl, rfl, h.withScene _⟩
  | addContainerWith name properties engine? =>
    exact ⟨_, _, _, rfl, rfl, (h.withContexts _).withScene _⟩
  | dropContainer c => exact ⟨_, _, _, rfl, rfl, h.withScene _⟩
  | attachChild c i => exact ⟨_, _, _, rfl, rfl, h.withScene _⟩
  | detachChild c i => exact ⟨_, _, _, rfl, rfl, h.withScene _⟩
  | register i => exact ⟨_, _, _, rfl, rfl, h.withTracker _⟩
  | destroyOwn i => exact ⟨_, _, _, rfl, rfl, h.withTracker _⟩
  | destroyAllOwn ids => exact ⟨_, _, _, rfl, rfl, h.withTracker _⟩
  | destroyEveryOwn => exact ⟨_, _, _, rfl, rfl, h.withTracker _⟩
  | flushOwn => exact ⟨_, _, _, rfl, rfl, (h.withScene _).withTracker _⟩

/-- Sessions that are alike stay alike, and answer alike. -/
theorem perform (hknown : s.world.scene.KnowsOnly side.name) {op : Operation H}
    (hop : op.IsOnSide side) :
    (s'.perform op).1 = (s.perform op).1 ∧ (s.perform op).2.Alike side (s'.perform op).2 := by
  obtain ⟨outcome, next, next', heq, heq', hnext⟩ := h.carryOut hknown hop
  simp only [Session.perform]
  rw [heq, heq']
  exact ⟨rfl, hnext.settle⟩

/-- Runs of sessions that are alike answer alike. -/
theorem run (hknown : s.world.scene.KnowsOnly side.name) {ops : List (Operation H)}
    (hops : ∀ op ∈ ops, op.IsOnSide side) :
    (Session.run ops s').1 = (Session.run ops s).1 ∧ (s.after ops).Alike side (s'.after ops) := by
  induction ops generalizing s s' with
  | nil => exact ⟨rfl, h⟩
  | cons op rest ih =>
    have hop := hops op List.mem_cons_self
    obtain ⟨hsame, hnext⟩ := h.perform hknown hop
    obtain ⟨hothers, hlast⟩ := ih hnext (knowsOnly_perform hknown hop)
      fun other hmem => hops other (List.mem_cons_of_mem op hmem)
    refine ⟨?_, hlast⟩
    simp only [Session.run]
    rw [hsame, hothers]

end Alike

end Session

/-- The settings with a given mode of compiling. -/
def Config.inMode (config : Config) (mode : CompileMode) : Config :=
  ⟨config.basePath, config.readyTimeout, config.pollSlice, mode, config.roots⟩

/-- A session starts alike in both modes. -/
theorem Session.alike_start (config : Config) (htimeout : 0 < config.readyTimeout.nanos)
    {state : H.State} (hengine : side.engine? state = some engine)
    (hqueue : engine.queue.tasks = []) (mode mode' : CompileMode) :
    (start (config.inMode mode) state).Alike side (start (config.inMode mode') state) := by
  have hserved : ∀ mode, (Workshop.new (config.inMode mode)
      ⟨state, .empty, .empty⟩).factory.IsServed side engine :=
    fun mode => ⟨fun _ h => (by cases h), htimeout, fun _ _ h => (by cases h)⟩
  have hfactories : Factory.Alike side engine
      (Workshop.new (config.inMode mode) ⟨state, .empty, .empty⟩).factory
      (Workshop.new (config.inMode mode') ⟨state, .empty, .empty⟩).factory :=
    ⟨hserved mode, hserved mode', rfl, rfl, rfl, rfl, rfl⟩
  have hdrained : ∀ w : World H, w.state = state → w.IsDrained side engine :=
    fun w hw => ⟨hw ▸ hengine, hqueue⟩
  exact ⟨⟨engine, ⟨hdrained _ rfl, hdrained _ rfl, rfl, rfl⟩, .some hfactories⟩, rfl, rfl, rfl⟩

/-- Both modes do the same. On the markup side of a host, where the event loop drains the
queue, with an empty queue and a timeout that is not zero, let two sessions start that differ in
the mode of compiling alone. In every run, whatever the sources, the identifiers and the
attributes:

* every operation answers the same in both sessions, failures with their details;
* the engines end in one state, with the same compiles counted, and their queues are empty;
* the factories, unless they were dropped, hold templates of the same URIs, know the same engine
  and track the same instances;
* the scenes, with the instances and the children of every container, are the same, and so are
  the contexts. -/
theorem Session.modes_agree (config : Config) (htimeout : 0 < config.readyTimeout.nanos)
    {state : H.State} (hengine : side.engine? state = some engine)
    (hqueue : engine.queue.tasks = []) {ops : List (Operation H)}
    (hops : ∀ op ∈ ops, op.IsOnSide side) :
    let now := start (config.inMode .synchronous) state
    let later := start (config.inMode .asynchronous) state
    (run ops later).1 = (run ops now).1 ∧
      (∃ last, side.engine? (now.after ops).world.state = some last ∧
        side.engine? (later.after ops).world.state = some last ∧ last.queue.tasks = []) ∧
      ((later.after ops).factory?.map fun f => (f.cache.uris, f.engine?, f.tracker)) =
        ((now.after ops).factory?.map fun f => (f.cache.uris, f.engine?, f.tracker)) ∧
      (later.after ops).world.scene = (now.after ops).world.scene ∧
      (later.after ops).world.contexts = (now.after ops).world.contexts := by
  intro now later
  have hstart : now.Alike side later := alike_start config htimeout hengine hqueue _ _
  have hknown : now.world.scene.KnowsOnly side.name := by
    intro c container name hc
    rw [show now.world.scene.container? c = none by cases c <;> rfl] at hc
    cases hc
  obtain ⟨hsame, hends⟩ := hstart.run hknown hops
  obtain ⟨last, hw, hf⟩ := hends.shops
  refine ⟨hsame, ⟨last, hw.drained.engine?, hw.drained'.engine?, hw.drained.queue⟩, ?_, hw.scene,
    hw.contexts⟩
  generalize (now.after ops).factory? = f? at hf ⊢
  generalize (later.after ops).factory? = f?' at hf ⊢
  cases hf with
  | none => rfl
  | some hf =>
    rw [Option.map_some, Option.map_some, TemplateCache.uris_eq_of_contents _ hf.contents,
      hf.engine?, hf.tracker]

/-- Registering a source keeps the studio on its markup side. -/
theorem Studio.isOnSide_register (uri source : String) :
    (Operation.outside (H := studio)
      fun (s : Studio.State) => s.withMarkup (s.markup.register uri source)).IsOnSide
        Studio.markupSide := by
  refine ⟨uri, source, ?_⟩
  intro s engine h
  obtain ⟨hloop, rfl⟩ := (State.queued?_eq_some_iff s engine).1 h
  exact (State.queued?_eq_some_iff _ _).2 ⟨hloop, rfl⟩

/-- A run in the studio: a creation fails for want of a source, and succeeds once there is one;
after a teardown there is no engine until it is bound again, and by then there is another
source. -/
def Studio.retryRun : List (Operation studio) :=
  [.bind EngineName.markup, .addContainer "root" none none,
    .create (some 1) "mem:/A" .empty .empty .tracked,
    .outside fun (s : Studio.State) => s.withMarkup (s.markup.register "mem:/A" "item A \x7b \x7d"),
    .create (some 1) "mem:/A" .empty .empty .tracked,
    .createMany "text" [.string "a", .string "b"] (some 1) "mem:/A" .empty .delegated,
    .destroy 1, .flush [], .teardown, .create (some 1) "mem:/A" .empty .empty .tracked,
    .bind EngineName.markup,
    .outside fun (s : Studio.State) => s.withMarkup (s.markup.register "mem:/A" "item B \x7b \x7d"),
    .create (some 1) "mem:/A" .empty .empty .tracked]

/-- Why a creation failed. -/
def Outcome.failure? : Outcome H → Option FactoryError
  | .created (.error e) => some e
  | _ => none

/-- With the compiles left to the queue, that run ends as it does with each finished at once:
the same two creations fail, there are three compiles, and the last instance is tracked. -/
theorem Session.modes_agree_of_retryRun :
    let later := start (H := studio) (Config.default.inMode .asynchronous) Studio.queued
    (run Studio.retryRun later).1.filterMap Outcome.failure? =
        [.compileFailed "mem:/A" "no source registered for 'mem:/A'", .engineNotBound] ∧
      (later.after Studio.retryRun).world.state.markup.compiles = 3 ∧
      (later.after Studio.retryRun).world.scene.children 1 = [2, 3, 4] ∧
      (later.after Studio.retryRun).factory?.map (fun f => f.tracker.live) = some [4] := by
  intro later
  let now := start (H := studio) (Config.default.inMode .synchronous) Studio.queued
  have hnow : ((run Studio.retryRun now).1.filterMap Outcome.failure?,
        (now.after Studio.retryRun).world.state.markup.compiles,
        (now.after Studio.retryRun).world.scene.children 1,
        (now.after Studio.retryRun).factory?.map fun f => f.tracker.live) =
      ([.compileFailed "mem:/A" "no source registered for 'mem:/A'", .engineNotBound], 3,
        [2, 3, 4], some [4]) := by
    decide +kernel
  have hops : ∀ op ∈ Studio.retryRun, op.IsOnSide Studio.markupSide := by
    simp only [Studio.retryRun, List.forall_mem_cons, List.not_mem_nil, false_imp_iff,
      implies_true]
    refine ⟨rfl, fun _ h => (by cases h), trivial, Studio.isOnSide_register _ _, trivial, trivial,
      trivial, trivial, trivial, trivial, rfl, Studio.isOnSide_register _ _, trivial, trivial⟩
  have hengine : Studio.markupSide.engine? Studio.queued = some Studio.queued.markup := rfl
  obtain ⟨hsame, ⟨last, hlast, hlast', -⟩, hfactories, hscene, -⟩ :=
    modes_agree Config.default (by decide) hengine rfl hops
  generalize (run Studio.retryRun now).1 = outcomes at hnow hsame
  generalize (run Studio.retryRun later).1 = outcomes' at hsame ⊢
  generalize now.after Studio.retryRun = ended at hnow hlast hfactories hscene
  generalize later.after Studio.retryRun = ended' at hlast' hfactories hscene ⊢
  obtain ⟨hfailures, hcompiles, hchildren, htracked⟩ := by simpa only [Prod.mk.injEq] using hnow
  obtain ⟨-, hmarkup⟩ := (Studio.State.queued?_eq_some_iff _ last).1 hlast
  obtain ⟨-, hmarkup'⟩ := (Studio.State.queued?_eq_some_iff _ last).1 hlast'
  refine ⟨?_, ?_, ?_, ?_⟩
  · rw [hsame]
    exact hfailures
  · rw [hmarkup', ← hmarkup]
    exact hcompiles
  · rw [hscene]
    exact hchildren
  · have hlive := congrArg (Option.map fun shown => shown.2.2.live) hfactories
    rw [Option.map_map, Option.map_map] at hlive
    exact hlive.trans htracked

-- With no time to wait the modes differ: what is left to the queue is given up at once.
example : ((Session.run Studio.retryRun (Session.start (H := studio)
    ⟨Config.default.basePath, .zero, Config.default.pollSlice, .asynchronous, .empty⟩
      Studio.queued)).1.filterMap Outcome.failure?).head? = some (.timedOut "mem:/A" .zero) := by
  decide +kernel

end SceneFactory
