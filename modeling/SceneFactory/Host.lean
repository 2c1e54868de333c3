import SceneFactory.Contexts
import SceneFactory.Duration
import SceneFactory.Object
import SceneFactory.Template.Status

/-!
# The host

What a factory finds around it: engines that compile templates, templates that
construct objects in two steps, and an event loop that is given control a slice at
a time. All of them may change the host's state as they work, and nothing else. Of the
contexts of construction they see only the values that names have there.
-/

namespace SceneFactory

/-- What a template sees of the context that it constructs in. -/
structure Surroundings where
  context : ContextId
  lookup : String → Option Value

/-- Engines, templates and an event loop. -/
structure Host where
  State : Type
  Engine : Type
  Template : Type
  /-- Starts to compile the template of a URI. -/
  compile : Engine → String → CompileMode → State → Template × State
  /-- How far the compile of a template has come. -/
  status : Template → State → CompileStatus
  /-- Begins an object, unless the template produces none. -/
  construct : Template → Surroundings → State → Option SceneObject × State
  /-- Completes an object once its attributes are written, or says why it cannot. -/
  complete : Template → Surroundings → SceneObject → State → Except String SceneObject × State
  /-- Lets the event loop work for at most a slice; says how long it took. -/
  pump : Duration → State → Duration × State

end SceneFactory
