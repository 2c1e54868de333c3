import SceneFactory.Contexts
import SceneFactory.Object
import SceneFactory.Text.Quoted

/-!
# Live instances and the containers they attach to

An instance is a constructed object together with the context that it was
constructed in. It is attached to a container, which lists its children in the
order in which they came, and it may be detached again; releasing it lets go of
its object and then of its context, for good. Instances and containers are
numbered from 1 in order of creation.

What is let go is written down in order (`Release`), so that it can be said of any
object how often and when it was let go: an object is known by the context that it
was constructed in, since every construction has a context of its own.
-/

namespace SceneFactory

/-- The number of an instance. -/
abbrev InstanceId := Nat

/-- The number of a container. -/
abbrev ContainerId := Nat

/-- Where an instance is in its life. -/
inductive AttachmentState where
  | constructed
  | attached
  | detached
  | destroyed
deriving DecidableEq, Inhabited

/-- The written form of a state. -/
def AttachmentState.text : AttachmentState → String
  | .constructed => "constructed"
  | .attached => "attached"
  | .detached => "detached"
  | .destroyed => "destroyed"

/-- The name of a state in diagnostics. -/
def AttachmentState.debugText : AttachmentState → String
  | .constructed => "Constructed"
  | .attached => "Attached"
  | .detached => "Detached"
  | .destroyed => "Destroyed"

/-- A constructed object with the context of its construction, until they are let
go, and the container that it is attached to. -/
structure Instance where
  uri : String
  state : AttachmentState
  object? : Option SceneObject
  context? : Option ContextId
  parent? : Option ContainerId
deriving Inhabited

/-- A visual container. It may have a context, in which its children's contexts
are made, and know the engine that it was created by. -/
structure Container (ε : Type) where
  name : String
  context? : Option ContextId
  engine? : Option ε
  children : List InstanceId
  /-- Whether the container still exists. -/
  isLive : Bool
deriving Inhabited

/-- What was let go: the object constructed in a context, or that context. -/
inductive Release where
  | object (context : ContextId)
  | context (context : ContextId)
deriving DecidableEq, Inhabited

/-- Instances, containers, and what was let go, in order. -/
structure Scene (ε : Type) where
  instances : Numbered Instance
  containers : Numbered (Container ε)
  releases : List Release
deriving Inhabited

/-- Whether a container can be changed, or someone else is at work on it. -/
inductive Access where
  | free
  | busy
deriving DecidableEq, Inhabited

namespace Instance

/-- A fresh instance. -/
def new (uri : String) (o : SceneObject) (context : ContextId) : Instance :=
  ⟨uri, .constructed, some o, some context, none⟩

/-- Whether the instance was released. -/
def isDestroyed (i : Instance) : Bool := i.state = .destroyed

/-- The name of the object's type, unless the object was let go. -/
def typeName? (i : Instance) : Option String := i.object?.map SceneObject.typeName

/-- The properties of the object; none after it was let go. -/
def properties (i : Instance) : List (String × Value) :=
  (i.object?.map SceneObject.properties).getD []

/-- A property of the object. -/
def property? (i : Instance) (name : String) : Option Value :=
  i.object?.bind fun o => o.property? name

/-- The container name that the object reports. -/
def parentName? (i : Instance) : Option String := i.object?.bind SceneObject.reportedParentName

/-- The instance as attached to a container of a given name. -/
def attachedTo (i : Instance) (container : ContainerId) (name : String) : Instance :=
  ⟨i.uri, .attached, i.object?.map (·.setParentName (some name)), i.context?, some container⟩

/-- The instance as detached. -/
def asDetached (i : Instance) : Instance :=
  ⟨i.uri, .detached, i.object?.map (·.setParentName none), i.context?, none⟩

/-- The instance as released. -/
def asDestroyed (i : Instance) : Instance := ⟨i.uri, .destroyed, none, none, none⟩

/-- The instance as forgotten by everyone: the object and the context are gone. -/
def asForgotten (i : Instance) : Instance := ⟨i.uri, i.state, none, none, i.parent?⟩

/-- What is let go with an instance: its object, then its context. -/
def belongings (i : Instance) : List Release :=
  match i.context? with
  | some k => if i.object?.isSome then [.object k, .context k] else [.context k]
  | none => []

end Instance

namespace Scene

variable {ε : Type}

/-- The scene without instances and containers. -/
def empty : Scene ε := ⟨.empty, .empty, []⟩

/-! ## Parts -/

/-- The instance of a given number. -/
def instance? (scene : Scene ε) (i : InstanceId) : Option Instance := scene.instances.get? i

/-- The container of a given number, if it still exists. -/
def container? (scene : Scene ε) (c : ContainerId) : Option (Container ε) :=
  (scene.containers.get? c).filter Container.isLive

/-- The children of a container that still exists. -/
def children (scene : Scene ε) (c : ContainerId) : List InstanceId :=
  match scene.container? c with
  | some container => container.children
  | none => []

/-- The state of an instance. -/
def state? (scene : Scene ε) (i : InstanceId) : Option AttachmentState :=
  (scene.instance? i).map Instance.state

/-- The scene with one instance changed. -/
def modifyInstance (scene : Scene ε) (i : InstanceId) (f : Instance → Instance) : Scene ε :=
  ⟨scene.instances.modify i f, scene.containers, scene.releases⟩

/-- The scene with the children of one container changed. -/
def modifyChildren (scene : Scene ε) (c : ContainerId) (f : List InstanceId → List InstanceId) :
    Scene ε :=
  ⟨scene.instances,
    scene.containers.modify c fun container =>
      ⟨container.name, container.context?, container.engine?, f container.children,
        container.isLive⟩,
    scene.releases⟩

/-- Writes down what is let go. -/
def recordReleases (scene : Scene ε) (releases : List Release) : Scene ε :=
  ⟨scene.instances, scene.containers, scene.releases ++ releases⟩

/-! ## Containers -/

/-- Adds a container without children. -/
def addContainer (scene : Scene ε) (name : String) (context? : Option ContextId)
    (engine? : Option ε) : ContainerId × Scene ε :=
  (scene.containers.next,
    ⟨scene.instances, scene.containers.push ⟨name, context?, engine?, [], true⟩, scene.releases⟩)

/-- Drops a container: it forgets its children and is gone. -/
def dropContainer (scene : Scene ε) (c : ContainerId) : Scene ε :=
  ⟨scene.instances,
    scene.containers.modify c fun container =>
      ⟨container.name, container.context?, container.engine?, [], false⟩,
    scene.releases⟩

/-- Adds a child to a container's list, unless it is there. -/
def attachChild (scene : Scene ε) (c : ContainerId) (i : InstanceId) : Scene ε :=
  scene.modifyChildren c fun children => if i ∈ children then children else children ++ [i]

/-- Takes a child out of a container's list. Says whether it was there. -/
def detachChild (scene : Scene ε) (c : ContainerId) (i : InstanceId) : Bool × Scene ε :=
  (decide (i ∈ scene.children c), scene.modifyChildren c fun children => children.filter (· ≠ i))

/-! ## Instances -/

/-- Adds an instance. -/
def addInstance (scene : Scene ε) (uri : String) (o : SceneObject) (context : ContextId) :
    InstanceId × Scene ε :=
  (scene.instances.next,
    ⟨scene.instances.push (.new uri o context), scene.containers, scene.releases⟩)

/-- Whether an instance can be attached to a container. -/
def isVisual (scene : Scene ε) (i : InstanceId) : Bool :=
  match (scene.instance? i).bind Instance.object? with
  | some o => o.isVisual
  | none => false

/-- Attaches an instance to a container. -/
def attach (scene : Scene ε) (i : InstanceId) (c : ContainerId) : Scene ε :=
  match scene.container? c with
  | some container =>
    (scene.modifyInstance i fun inst => inst.attachedTo c container.name).attachChild c i
  | none => scene

/-- Detaches an instance from its container, and says whether it left the list of
a container that still exists. A container that someone else is at work on keeps the
child in its list; the instance is detached all the same. -/
def detach (scene : Scene ε) (i : InstanceId) (access : Access) : Bool × Scene ε :=
  match scene.instance? i with
  | none => (false, scene)
  | some inst =>
    if inst.state = .attached then
      let detached := scene.modifyInstance i Instance.asDetached
      match inst.parent? with
      | none => (false, detached)
      | some c =>
        if (scene.container? c).isSome then
          match access with
          | .free => detached.detachChild c i
          -- the list keeps the child, the instance is detached all the same
          | .busy => (false, detached)
        else (false, detached)
    else (false, scene)

/-- Releases an instance: its object is let go, then its context. Says whether it
was not released before. -/
def release (scene : Scene ε) (i : InstanceId) : Bool × Scene ε :=
  match scene.instance? i with
  | none => (false, scene)
  | some inst =>
    if inst.state = .destroyed then (false, scene)
    else (true, (scene.modifyInstance i Instance.asDestroyed).recordReleases inst.belongings)

/-- What someone who detaches an instance finds of its container, if others are at work on
some containers. -/
def accessTo (scene : Scene ε) (busy : List ContainerId) (i : InstanceId) : Access :=
  match (scene.instance? i).bind Instance.parent? with
  | some c => if c ∈ busy then .busy else .free
  | none => .free

/-- Detaches an instance and releases it, while others are at work on some containers.
Says whether it was not released before. -/
def dismiss (scene : Scene ε) (busy : List ContainerId) (i : InstanceId) : Bool × Scene ε :=
  -- out of its container first, so that no list keeps a released instance
  (scene.detach i (scene.accessTo busy i)).2.release i

/-- Lets go of an instance that nobody refers to any more. -/
def forget (scene : Scene ε) (i : InstanceId) : Scene ε :=
  match scene.instance? i with
  | none => scene
  | some inst => (scene.modifyInstance i Instance.asForgotten).recordReleases inst.belongings

/-- The children of all containers. -/
def allChildren (scene : Scene ε) : List InstanceId :=
  scene.containers.numbers.flatMap scene.children

/-- The instances that still have something to let go. -/
def livingInstances (scene : Scene ε) : List InstanceId :=
  scene.instances.numbers.filter fun i => ((scene.instance? i).bind Instance.context?).isSome

/-- Lets go of every instance that is neither a child of a container nor held
otherwise. -/
def forgetUnheld (scene : Scene ε) (held : List InstanceId) : Scene ε :=
  let kept := held ++ scene.allChildren
  (scene.livingInstances.filter fun i => i ∉ kept).foldl forget scene

/-! ## What lives -/

/-- The contexts that instances and containers hold. -/
def heldContexts (scene : Scene ε) : List ContextId :=
  (scene.containers.numbers.filterMap fun c => (scene.container? c).bind Container.context?) ++
    scene.instances.numbers.filterMap fun i => (scene.instance? i).bind Instance.context?

/-- How often the object constructed in a context was let go. -/
def objectReleases (scene : Scene ε) (context : ContextId) : Nat :=
  scene.releases.count (.object context)

end Scene

end SceneFactory
