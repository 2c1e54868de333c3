import SceneFactory.Scene.Basic
import SceneFactory.Value.Text

/-!
# Pictures of the scene

The indented tree of a container with its children and their properties, and the
written forms of instances.
-/

namespace SceneFactory

/-- The written form of an instance's number. -/
def instanceLabel (i : InstanceId) : String := "#" ++ toString i

/-- The written form of an instance for diagnostics. -/
def Instance.debugText (i : InstanceId) (inst : Instance) : String :=
  "Instance \x7b id: InstanceId(" ++ toString i ++ "), uri: " ++ Text.quoted inst.uri ++
    ", state: " ++ inst.state.debugText ++ " \x7d"

/-- The lines of a child: what it is, then its properties. -/
def Instance.dump (i : InstanceId) (inst : Instance) : String :=
  "  " ++ inst.typeName?.getD "<released>" ++ " " ++ instanceLabel i ++ " [" ++ inst.state.text ++
    "] " ++ inst.uri ++ "\n" ++
    String.join (inst.properties.map fun e => "    " ++ e.1 ++ " = " ++ e.2.text ++ "\n")

/-- The tree of a container: its name, then its children in order. -/
def Scene.dump {ε : Type} (scene : Scene ε) (c : ContainerId) : String :=
  match scene.container? c with
  | none => ""
  | some container =>
    container.name ++ "\n" ++
      String.join (container.children.map fun i =>
        match scene.instance? i with
        | some inst => inst.dump i
        | none => "")

end SceneFactory
