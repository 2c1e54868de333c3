import SceneFactory.Markup.Engine
import SceneFactory.Scripted.Engine
import SceneFactory.Scripted.Pump
import SceneFactory.Session.Basic

/-!
# A host with two engines

The studio is a host with the markup engine and a scripted one side by side, and
with an event loop that sleeps, runs the event queue, or follows a script.
-/

namespace SceneFactory.Studio

/-- Which engine. -/
inductive EngineName where
  | markup
  | scripted
deriving DecidableEq, Inhabited

/-- A template of one of the engines. -/
inductive TemplateRef where
  | markup (template : Nat)
  | scripted (template : Nat)
deriving DecidableEq, Inhabited

/-- The event loop. -/
inductive EventLoop where
  /-- Lets each slice pass. -/
  | sleep
  /-- Runs the event queue. -/
  | queue
  /-- Follows a script, which changes the status of scripted templates by URI. -/
  | script (pump : Scripted.Pump (String × CompileStatus))
deriving Inhabited

/-- The engines and the event loop. -/
structure State where
  markup : Markup.Engine
  scripted : Scripted.Engine
  loop : EventLoop
deriving Inhabited

namespace State

/-- The state with another markup engine. -/
def withMarkup (s : State) (markup : Markup.Engine) : State := ⟨markup, s.scripted, s.loop⟩

/-- The state with another scripted engine. -/
def withScripted (s : State) (scripted : Scripted.Engine) : State := ⟨s.markup, scripted, s.loop⟩

/-- Compiles a URI with one of the engines. -/
def compile (engine : EngineName) (uri : String) (mode : CompileMode) (s : State) :
    TemplateRef × State :=
  match engine with
  | .markup =>
    let (template, markup) := s.markup.compile uri mode
    (.markup template, s.withMarkup markup)
  | .scripted =>
    let (template, scripted) := s.scripted.compile uri
    (.scripted template, s.withScripted scripted)

/-- The status of a template. A markup compile that was broken off breaks off the
request that comes upon it, which counts as failing. -/
def status (template : TemplateRef) (s : State) : CompileStatus :=
  match template with
  | .markup t => s.markup.verdict t
  | .scripted t => s.scripted.status t

/-- Begins an object. -/
def construct (template : TemplateRef) (around : Surroundings) (s : State) :
    Option SceneObject × State :=
  match template with
  | .markup t => (s.markup.construct? t around.lookup, s)
  | .scripted t =>
    let (o, scripted) := s.scripted.construct t around
    (o, s.withScripted scripted)

/-- Completes an object. -/
def complete (s : State) (template : TemplateRef) (o : SceneObject) : Except String SceneObject :=
  match template with
  | .markup t => s.markup.complete t o
  | .scripted t => s.scripted.complete t o

/-- One slice of the event loop. -/
def pump (slice : Duration) (s : State) : Duration × State :=
  match s.loop with
  | .sleep => (slice, s)
  | .queue =>
    let (elapsed, markup) := s.markup.pumpQueue slice
    (elapsed, s.withMarkup markup)
  | .script p =>
    let (e, p) := p.play slice
    -- the queue runs before the change is made
    let markup := if e.runsQueue then s.markup.runQueue.2 else s.markup
    let scripted :=
      match e.change? with
      | some (uri, status) => s.scripted.setStatus uri status
      | none => s.scripted
    (Scripted.Pump.elapsed slice e, ⟨markup, scripted, .script p⟩)

end State

end Studio

/-- The host with the markup engine and the scripted engine. -/
def studio : Host where
  State := Studio.State
  Engine := Studio.EngineName
  Template := Studio.TemplateRef
  compile := Studio.State.compile
  status := Studio.State.status
  construct := Studio.State.construct
  complete template _ o s := (s.complete template o, s)
  pump := Studio.State.pump

end SceneFactory
