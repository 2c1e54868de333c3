import SceneFactory.FactoryError
import SceneFactory.Host
import SceneFactory.Scene.Basic
import SceneFactory.Template.Cache

/-!
# The world and the construction of one instance

The world is the host's state, all contexts and the scene. One instance is
constructed in stages: a fresh context inside the container's takes the contextual
attributes, the template begins an object in it, the direct attributes are written
onto the object, the template completes it, and the object joins the container. On
every way out the object, if there is one, is let go before its context.
-/

namespace SceneFactory

/-- What a factory works in. -/
structure World (H : Host) where
  state : H.State
  contexts : Contexts
  scene : Scene H.Engine

namespace World

variable {H : Host}

/-- The world with another state of the host. -/
def withState (w : World H) (state : H.State) : World H := ⟨state, w.contexts, w.scene⟩

/-- The world with other contexts. -/
def withContexts (w : World H) (contexts : Contexts) : World H := ⟨w.state, contexts, w.scene⟩

/-- The world with another scene. -/
def withScene (w : World H) (scene : Scene H.Engine) : World H := ⟨w.state, w.contexts, scene⟩

/-- The context in which the contexts of a container's children are made: its own,
or the given one if it has none. -/
def outerContext (w : World H) (container : ContainerId) (rootContext : ContextId) : ContextId :=
  ((w.scene.container? container).bind Container.context?).getD rootContext

/-- Makes the context of a construction, with the contextual attributes in it. -/
def enter (w : World H) (container : ContainerId) (rootContext : ContextId)
    (contextual : Attributes) : World H :=
  let contexts := w.contexts.add (some (w.outerContext container rootContext))
  w.withContexts (contexts.setAll contexts.newest contextual)

/-- What a template sees in the newest context. -/
def surroundings (w : World H) : Surroundings :=
  ⟨w.contexts.newest, w.contexts.property? w.contexts.newest⟩

/-- Makes a complete object into an instance and attaches it to the container; an
object that is not visual is released at once. -/
def place (w : World H) (uri : String) (o : SceneObject) (container : ContainerId) :
    Except FactoryError InstanceId × World H :=
  let (i, scene) := w.scene.addInstance uri o w.contexts.newest
  if o.isVisual then (.ok i, w.withScene (scene.attach i container))
  else (.error (.incompatibleType uri o.typeName), w.withScene (scene.release i).2)

/-- Constructs one instance of a template in a container. -/
def construct (w : World H) (handle : TemplateHandle H.Template) (container : ContainerId)
    (rootContext : ContextId) (contextual direct : Attributes) :
    Except FactoryError InstanceId × World H :=
  let w := w.enter container rootContext contextual
  let around := w.surroundings
  match H.construct handle.template around w.state with
  -- no object: only the context is let go
  | (none, state) =>
    (.error (.constructionFailed handle.uri),
      (w.withState state).withScene (w.scene.recordReleases [.context around.context]))
  | (some o, state) =>
    match H.complete handle.template around (o.writeAttributes direct) state with
    -- the object goes before the context that it was made in
    | (.error detail, state) =>
      (.error (.completionFailed handle.uri detail),
        (w.withState state).withScene
          (w.scene.recordReleases [.object around.context, .context around.context]))
    | (.ok o, state) => (w.withState state).place handle.uri o container

end World

end SceneFactory
