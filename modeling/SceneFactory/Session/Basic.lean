import SceneFactory.Factory

/-!
# A host's session

A session is everything that a host holds while it works with one factory: the
factory, until it is dropped, the world, a tracker of the host's own, and the
instances and contexts that it keeps references to. What nobody refers to any more
is let go at the end of each operation (`settle`).

`Session.perform` carries out one operation, `Session.run` a list of them.
-/

namespace SceneFactory

/-- A factory, until it is dropped, and all that the host holds beside it. -/
structure Session (H : Host) where
  world : World H
  factory? : Option (Factory H)
  /-- A tracker of the host's own. -/
  tracker : Tracker
  heldInstances : List InstanceId
  heldContexts : List ContextId

/-- What a host can do. -/
inductive Operation (H : Host) where
  /-- Something happens on the host's side. -/
  | outside (change : H.State → H.State)
  | bind (engine : H.Engine)
  | template (identifier : String)
  | readyTemplate (container? : Option ContainerId) (identifier : String)
  | create (container? : Option ContainerId) (identifier : String)
      (contextual direct : Attributes) (ownership : Ownership)
  | createMany (key : String) (values : List Value) (container? : Option ContainerId)
      (identifier : String) (base : Attributes) (ownership : Ownership)
  | destroy (i : InstanceId)
  | destroyAll (ids : List InstanceId)
  /-- The host may be at work on some containers while it flushes. -/
  | flush (busy : List ContainerId)
  | teardown
  | dropFactory
  | setRootContext (name : String) (value : Value)
  | detach (i : InstanceId) (access : Access)
  | dropInstance (i : InstanceId)
  | newContext (parent? : Option ContextId)
  | holdContext (i : InstanceId)
  | setContext (k : ContextId) (name : String) (value : Value)
  | dropContext (k : ContextId)
  | addContainer (name : String) (context? : Option ContextId) (engine? : Option H.Engine)
  /-- Adds a container with a context of its own, which has the given properties. -/
  | addContainerWith (name : String) (properties : Attributes) (engine? : Option H.Engine)
  | dropContainer (c : ContainerId)
  | attachChild (c : ContainerId) (i : InstanceId)
  | detachChild (c : ContainerId) (i : InstanceId)
  | register (i : InstanceId)
  | destroyOwn (i : InstanceId)
  | destroyAllOwn (ids : List InstanceId)
  | destroyEveryOwn
  | flushOwn (busy : List ContainerId)

/-- What an operation answers. -/
inductive Outcome (H : Host) where
  | nothing
  | flag (b : Bool)
  | count (n : Nat)
  | template (result : Except FactoryError (TemplateHandle H.Template))
  | created (result : Except FactoryError InstanceId)
  | createdMany (ids : List InstanceId)
  /-- The number of a new context or container. -/
  | made (number : Nat)
  /-- The factory was dropped before. -/
  | noFactory

namespace Session

variable {H : Host}

/-- A session in a fresh world with a fresh factory. -/
def start (config : Config) (state : H.State) : Session H :=
  let shop := Workshop.new config ⟨state, .empty, .empty⟩
  ⟨shop.world, some shop.factory, .empty, [], []⟩

/-! ## References -/

/-- The instances that are referred to other than by a container. -/
def instanceReferences (s : Session H) : List InstanceId :=
  s.heldInstances ++ s.tracker.held ++ (s.factory?.elim [] fun f => f.tracker.held)

/-- The contexts that are referred to, other than by a context inside them. -/
def contextReferences (s : Session H) : List ContextId :=
  s.heldContexts ++ (s.factory?.elim [] fun f => [f.rootContext]) ++ s.world.scene.heldContexts

/-- Whether a context is still alive. -/
def isContextAlive (s : Session H) (k : ContextId) : Bool :=
  s.world.contexts.isHeldBy s.contextReferences k

/-- Lets go of every instance that nobody refers to. -/
def settle (s : Session H) : Session H :=
  ⟨s.world.withScene (s.world.scene.forgetUnheld s.instanceReferences), s.factory?, s.tracker,
    s.heldInstances, s.heldContexts⟩

/-! ## Operations -/

/-- The session with another world. -/
def withWorld (s : Session H) (world : World H) : Session H :=
  ⟨world, s.factory?, s.tracker, s.heldInstances, s.heldContexts⟩

/-- The session with another scene. -/
def withScene (s : Session H) (scene : Scene H.Engine) : Session H :=
  s.withWorld (s.world.withScene scene)

/-- The session with another tracker of the host's own. -/
def withTracker (s : Session H) (tracker : Tracker) : Session H :=
  ⟨s.world, s.factory?, tracker, s.heldInstances, s.heldContexts⟩

/-- The session with a reference to more instances. -/
def hold (s : Session H) (ids : List InstanceId) : Session H :=
  ⟨s.world, s.factory?, s.tracker, s.heldInstances ++ ids, s.heldContexts⟩

/-- The session with other references to contexts. -/
def withHeldContexts (s : Session H) (held : List ContextId) : Session H :=
  ⟨s.world, s.factory?, s.tracker, s.heldInstances, held⟩

/-- Lets the factory work, if it is there. -/
def atWork (s : Session H) (work : Workshop H → Outcome H × Workshop H) : Outcome H × Session H :=
  match s.factory? with
  | none => (.noFactory, s)
  | some factory =>
    let (outcome, shop) := work ⟨factory, s.world⟩
    (outcome, ⟨shop.world, some shop.factory, s.tracker, s.heldInstances, s.heldContexts⟩)

/-- Drops the factory, which tears it down first. -/
def dropFactory (s : Session H) : Outcome H × Session H :=
  match s.factory? with
  | none => (.flag false, s)
  | some factory =>
    (.flag true,
      -- what it tracked is released; what it compiled is forgotten
      ⟨(Workshop.mk factory s.world).teardown.world, none, s.tracker, s.heldInstances,
        s.heldContexts⟩)

/-- Takes one reference out of a list of references. -/
def dropReference (held : List Nat) (n : Nat) : Bool × List Nat := (decide (n ∈ held), held.erase n)

/-- Carries out one operation, before what nobody refers to is let go. -/
def carryOut (s : Session H) : Operation H → Outcome H × Session H
  | .outside change => (.nothing, s.withWorld (s.world.withState (change s.world.state)))
  | .bind engine =>
    s.atWork fun shop => (.flag true, ⟨shop.factory.withEngine (some engine), shop.world⟩)
  | .template identifier =>
    s.atWork fun shop => (shop.template identifier).map .template id
  | .readyTemplate container? identifier =>
    s.atWork fun shop => (shop.readyTemplate container? identifier).map .template id
  | .create container? identifier contextual direct ownership =>
    match s.atWork fun shop =>
        (shop.create container? identifier contextual direct ownership).map .created id with
    | (.created (.ok i), s) => (.created (.ok i), s.hold [i])
    | other => other
  | .createMany key values container? identifier base ownership =>
    match s.atWork fun shop =>
        (shop.createMany key values container? identifier base ownership).map
          .createdMany id with
    | (.createdMany ids, s) => (.createdMany ids, s.hold ids)
    | other => other
  | .destroy i => s.atWork fun shop => (shop.destroy i).map .flag id
  | .destroyAll ids => s.atWork fun shop => (shop.destroyAll ids).map .count id
  | .flush busy => s.atWork fun shop => (shop.flush busy).map .count id
  | .teardown => s.atWork fun shop => (.nothing, shop.teardown)
  | .dropFactory => s.dropFactory
  | .setRootContext name value =>
    s.atWork fun shop =>
      (.nothing, ⟨shop.factory, shop.world.withContexts
        (shop.world.contexts.set shop.factory.rootContext name value)⟩)
  | .detach i access =>
    let (left, scene) := s.world.scene.detach i access
    (.flag left, s.withScene scene)
  | .dropInstance i =>
    let (was, held) := dropReference s.heldInstances i
    (.flag was, ⟨s.world, s.factory?, s.tracker, held, s.heldContexts⟩)
  | .newContext parent? =>
    let contexts := s.world.contexts.add parent?
    (.made contexts.newest,
      (s.withWorld (s.world.withContexts contexts)).withHeldContexts
        (s.heldContexts ++ [contexts.newest]))
  | .holdContext i =>
    match (s.world.scene.instance? i).bind Instance.context? with
    | some k => (.made k, s.withHeldContexts (s.heldContexts ++ [k]))
    | none => (.nothing, s)
  | .setContext k name value =>
    (.nothing, s.withWorld (s.world.withContexts (s.world.contexts.set k name value)))
  | .dropContext k =>
    let (was, held) := dropReference s.heldContexts k
    (.flag was, s.withHeldContexts held)
  | .addContainer name context? engine? =>
    let (c, scene) := s.world.scene.addContainer name context? engine?
    (.made c, s.withScene scene)
  | .addContainerWith name properties engine? =>
    let contexts := s.world.contexts.add none
    let (c, scene) := s.world.scene.addContainer name (some contexts.newest) engine?
    (.made c,
      (s.withWorld (s.world.withContexts (contexts.setAll contexts.newest properties))).withScene
        scene)
  | .dropContainer c =>
    (.flag (s.world.scene.container? c).isSome, s.withScene (s.world.scene.dropContainer c))
  | .attachChild c i => (.nothing, s.withScene (s.world.scene.attachChild c i))
  | .detachChild c i =>
    let (was, scene) := s.world.scene.detachChild c i
    (.flag was, s.withScene scene)
  | .register i => (.nothing, s.withTracker (s.tracker.register i))
  | .destroyOwn i =>
    let (was, tracker) := s.tracker.destroy i
    (.flag was, s.withTracker tracker)
  | .destroyAllOwn ids =>
    let (count, tracker) := Tracker.destroyAll ids s.tracker
    (.count count, s.withTracker tracker)
  | .destroyEveryOwn =>
    let (count, tracker) := s.tracker.destroyEverything
    (.count count, s.withTracker tracker)
  | .flushOwn busy =>
    let (count, tracker, scene) := s.tracker.flush busy s.world.scene
    (.count count, (s.withScene scene).withTracker tracker)

/-- Carries out one operation. -/
def perform (s : Session H) (op : Operation H) : Outcome H × Session H :=
  let (outcome, s) := s.carryOut op
  (outcome, s.settle)

/-- Carries out operations one after the other. -/
def run : List (Operation H) → Session H → List (Outcome H) × Session H
  | [], s => ([], s)
  | op :: ops, s =>
    let (outcome, s) := s.perform op
    let (outcomes, s) := run ops s
    (outcome :: outcomes, s)

end Session

end SceneFactory
