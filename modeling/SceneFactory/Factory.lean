import SceneFactory.Config
import SceneFactory.Gate
import SceneFactory.Tracker
import SceneFactory.World

/-!
# The component factory

A factory turns a template identifier and initial attributes into a live instance
in a container:

identifier → canonical URI → cache → wait until ready → construct → attach → track

It compiles each template once, waits for templates that are still loading, and
tracks the instances that its callers want to destroy themselves. Creation begins
by releasing what was destroyed before.
-/

namespace SceneFactory

/-- Who destroys an instance: the visual tree, or the factory on demand. -/
inductive Ownership where
  | delegated
  | tracked
deriving DecidableEq, Inhabited

/-- The state of a factory. -/
structure Factory (H : Host) where
  config : Config
  engine? : Option H.Engine
  cache : TemplateCache H.Template
  tracker : Tracker
  /-- The context that constructions inherit from in containers without one. -/
  rootContext : ContextId

/-- A factory in the world that it works in. -/
structure Workshop (H : Host) where
  factory : Factory H
  world : World H

namespace Factory

variable {H : Host}

/-- How the factory waits. -/
def gate (f : Factory H) : Gate := .new f.config.readyTimeout f.config.pollSlice

/-- The factory with another bound engine. -/
def withEngine (f : Factory H) (engine? : Option H.Engine) : Factory H :=
  ⟨f.config, engine?, f.cache, f.tracker, f.rootContext⟩

/-- The factory with another cache. -/
def withCache (f : Factory H) (cache : TemplateCache H.Template) : Factory H :=
  ⟨f.config, f.engine?, cache, f.tracker, f.rootContext⟩

/-- The factory with another tracker. -/
def withTracker (f : Factory H) (tracker : Tracker) : Factory H :=
  ⟨f.config, f.engine?, f.cache, tracker, f.rootContext⟩

/-- Whether an engine is bound. -/
def isBound (f : Factory H) : Bool := f.engine?.isSome

/-- The canonical URI of an identifier. -/
def resolve (f : Factory H) (identifier : String) : String := f.cache.resolve identifier

/-- Registers a fresh instance that the caller wants to be tracked. -/
def adopt (f : Factory H) (i : InstanceId) : Ownership → Factory H
  | .delegated => f
  | .tracked => f.withTracker (f.tracker.register i)

end Factory

namespace Workshop

variable {H : Host}

/-- A factory without an engine, with a root context of its own. -/
def new (config : Config) (w : World H) : Workshop H :=
  let contexts := w.contexts.add none
  ⟨⟨config, none, .new config.basePath config.compileMode, .empty, contexts.newest⟩,
    w.withContexts contexts⟩

/-- Binds the container's engine if none is bound and it knows one. -/
def bindFrom (shop : Workshop H) (container? : Option ContainerId) : Workshop H :=
  match shop.factory.engine? with
  | some _ => shop
  | none =>
    let engine? := (container?.bind shop.world.scene.container?).bind Container.engine?
    ⟨shop.factory.withEngine engine?, shop.world⟩

/-- The template of an identifier, compiled on first use, without waiting. -/
def template (shop : Workshop H) (identifier : String) :
    Except FactoryError (TemplateHandle H.Template) × Workshop H :=
  let (result, cache, state) := shop.factory.cache.getOrCreate H.status
    (shop.factory.engine?.map H.compile) (shop.factory.resolve identifier) shop.world.state
  (result, ⟨shop.factory.withCache cache, shop.world.withState state⟩)

/-- Waits for a template. One that fails is evicted, so that the next request
compiles it again; one that is not ready in time stays cached and goes on loading. -/
def awaitReady (shop : Workshop H) (handle : TemplateHandle H.Template) :
    Except FactoryError (TemplateHandle H.Template) × Workshop H :=
  let (readiness, state) :=
    shop.factory.gate.await (H.status handle.template) H.pump shop.world.state
  let world := shop.world.withState state
  match readiness with
  | .ready => (.ok handle, ⟨shop.factory, world⟩)
  | .failed detail =>
    (.error (.compileFailed handle.uri detail),
      ⟨shop.factory.withCache (shop.factory.cache.evict handle.uri), world⟩)
  | .timedOut =>
    (.error (.timedOut handle.uri shop.factory.gate.timeout), ⟨shop.factory, world⟩)
  | .overflowed => (.error .clockOverflow, ⟨shop.factory, world⟩)

/-- The template of an identifier once it is ready. -/
def readyTemplate (shop : Workshop H) (container? : Option ContainerId) (identifier : String) :
    Except FactoryError (TemplateHandle H.Template) × Workshop H :=
  match (shop.bindFrom container?).template identifier with
  | (.error e, shop) => (.error e, shop)
  | (.ok handle, shop) => shop.awaitReady handle

/-- Releases everything that was destroyed since the last time, while others are at work on
some containers, and says how many instances that were. -/
def flush (shop : Workshop H) (busy : List ContainerId := []) : Nat × Workshop H :=
  let (count, tracker, scene) := shop.factory.tracker.flush busy shop.world.scene
  (count, ⟨shop.factory.withTracker tracker, shop.world.withScene scene⟩)

/-- Constructs one instance of a ready template and tracks it if asked to. -/
def construct (shop : Workshop H) (handle : TemplateHandle H.Template) (container : ContainerId)
    (contextual direct : Attributes) (ownership : Ownership) :
    Except FactoryError InstanceId × Workshop H :=
  match shop.world.construct handle container shop.factory.rootContext contextual direct with
  | (.error e, world) => (.error e, ⟨shop.factory, world⟩)
  | (.ok i, world) => (.ok i, ⟨shop.factory.adopt i ownership, world⟩)

/-- Creates one instance in a container. `contextual` attributes are seen by the
template's initializers, `direct` ones are written onto the object. -/
def create (shop : Workshop H) (container? : Option ContainerId) (identifier : String)
    (contextual direct : Attributes) (ownership : Ownership) :
    Except FactoryError InstanceId × Workshop H :=
  match container? with
  | none => (.error .noContainer, shop)
  | some container =>
    -- what was destroyed is released even if the creation fails
    match shop.flush.2.readyTemplate (some container) identifier with
    | (.error e, shop) => (.error e, shop)
    | (.ok handle, shop) => shop.construct handle container contextual direct ownership

/-- Constructs an instance for each value, with the value as one of its direct
attributes; values whose construction fails are passed over. -/
def constructEach (handle : TemplateHandle H.Template) (container : ContainerId) (key : String)
    (base : Attributes) (ownership : Ownership) :
    List Value → Workshop H → List InstanceId × Workshop H
  | [], shop => ([], shop)
  | value :: rest, shop =>
    match shop.construct handle container .empty (base.merged key value) ownership with
    | (.error _, shop) => constructEach handle container key base ownership rest shop
    | (.ok i, shop) =>
      let (others, shop) := constructEach handle container key base ownership rest shop
      (i :: others, shop)

/-- Creates an instance for each value in a container. The template is obtained
once; without it, or without values, nothing is created. -/
def createMany (shop : Workshop H) (key : String) (values : List Value)
    (container? : Option ContainerId) (identifier : String) (base : Attributes)
    (ownership : Ownership) : List InstanceId × Workshop H :=
  match container? with
  | none => ([], shop)
  | some container =>
    if values.isEmpty then ([], shop)
    else
      match shop.flush.2.readyTemplate (some container) identifier with
      | (.error _, shop) => ([], shop)
      | (.ok handle, shop) => constructEach handle container key base ownership values shop

/-- Destroys a tracked instance: it is released at the next flush. -/
def destroy (shop : Workshop H) (i : InstanceId) : Bool × Workshop H :=
  let (known, tracker) := shop.factory.tracker.destroy i
  (known, ⟨shop.factory.withTracker tracker, shop.world⟩)

/-- Destroys instances one after the other, and says how many were tracked. -/
def destroyAll (shop : Workshop H) (ids : List InstanceId) : Nat × Workshop H :=
  let (count, tracker) := Tracker.destroyAll ids shop.factory.tracker
  (count, ⟨shop.factory.withTracker tracker, shop.world⟩)

/-- Destroys and releases every tracked instance, forgets all templates and unbinds
the engine. -/
def teardown (shop : Workshop H) : Workshop H :=
  let cleared := shop.factory.withTracker shop.factory.tracker.destroyEverything.2
  let shop := (Workshop.mk cleared shop.world).flush.2
  ⟨(shop.factory.withCache shop.factory.cache.clear).withEngine none, shop.world⟩

end Workshop

end SceneFactory
