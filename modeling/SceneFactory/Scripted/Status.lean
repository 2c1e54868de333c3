import SceneFactory.Assoc
import SceneFactory.Gate
import SceneFactory.Numbered
import SceneFactory.Scripted.Pump

/-!
# Scripted statuses

Templates that are nothing but a status: one that a scripted event loop changes
while a gate waits for it, and an engine that gives each compile of a URI the next
status of a list.
-/

namespace SceneFactory.Scripted

/-! ## One template -/

/-- A template of a given status, and the event loop that changes it. -/
structure Trial where
  status : CompileStatus
  pump : Pump CompileStatus
deriving Inhabited

/-- One slice of the event loop. -/
def Trial.step (slice : Duration) (t : Trial) : Duration × Trial :=
  let (e, pump) := t.pump.play slice
  (Pump.elapsed slice e, ⟨e.change?.getD t.status, pump⟩)

/-- Waits for the template at a gate. -/
def Trial.run (gate : Gate) (t : Trial) : Readiness × Trial :=
  gate.await Trial.status Trial.step t

/-! ## An engine -/

/-- The statuses to come by URI, and the templates compiled so far. -/
structure StatusEngine where
  script : Assoc String (List CompileStatus)
  modes : List CompileMode
  /-- The template last compiled for each URI. -/
  newest : Assoc String Nat
  templates : Numbered CompileStatus
deriving Inhabited

namespace StatusEngine

/-- An engine with a script that has compiled nothing. -/
def new (script : List (String × List CompileStatus)) : StatusEngine :=
  ⟨.ofList script, [], .empty, .empty⟩

/-- The status of the next compile of a URI, and what is left of the script: the last
status of a list repeats, and a URI without one is ready. -/
def nextStatus (script : Assoc String (List CompileStatus)) (uri : String) :
    CompileStatus × Assoc String (List CompileStatus) :=
  match script.get? uri with
  | none | some [] => (.ready, script)
  | some [status] => (status, script)
  | some (status :: rest) => (status, script.insert uri rest)

/-- Compiles a URI. -/
def compile (uri : String) (mode : CompileMode) (engine : StatusEngine) : Nat × StatusEngine :=
  let (status, script) := nextStatus engine.script uri
  (engine.templates.next,
    ⟨script, engine.modes ++ [mode], engine.newest.insert uri engine.templates.next,
      engine.templates.push status⟩)

/-- The status of a template. -/
def status (template : Nat) (engine : StatusEngine) : CompileStatus :=
  (engine.templates.get? template).getD .loading

/-- Changes the status of the template last compiled for a URI. -/
def setStatus (uri : String) (status : CompileStatus) (engine : StatusEngine) : StatusEngine :=
  match engine.newest.get? uri with
  | none => engine
  | some template =>
    ⟨engine.script, engine.modes, engine.newest,
      engine.templates.modify template fun _ => status⟩

end StatusEngine

end SceneFactory.Scripted
