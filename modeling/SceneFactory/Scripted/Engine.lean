import SceneFactory.Host
import SceneFactory.Numbered

/-!
# A scripted engine

Templates given as data: what status they have, what object they construct, and
whether they complete it. The engine writes down each construction that is begun,
with the values that it saw of its context.
-/

namespace SceneFactory.Scripted

/-- What a template makes of a construction. -/
inductive Kind where
  /-- An object that can be attached. -/
  | visual
  /-- An object that cannot be attached. -/
  | plain
  /-- An object with a type name and nothing else. -/
  | bare
  | noObject
  /-- An object whose completion fails. -/
  | failComplete
deriving DecidableEq, Inhabited

/-- A template as it is given. -/
structure Script where
  uri : String
  status : CompileStatus
  kind : Kind
  /-- Why completion fails, if it does. -/
  detail : String
  typeName : String
  declared : Attributes
  hasBinding : Bool
  hasReflection : Bool
  /-- A declared property and a value with which the object cannot be attached. -/
  demotion? : Option (String × Value)
  /-- The names whose values are written down. -/
  observed : List String
deriving Inhabited

/-- A construction that was begun. -/
structure Begun where
  context : ContextId
  observed : List (Option Value)
  /-- Whether there is an object with properties, which is counted when it is let
  go. -/
  isCounted : Bool
deriving Inhabited

/-- A template with its present status and its constructions. -/
structure Template where
  script : Script
  status : CompileStatus
  begun : List Begun
deriving Inhabited

/-- The engine: its templates, and which of them serves each URI. -/
structure Engine where
  compiles : Nat
  serving : Assoc String Nat
  templates : Numbered Template
deriving Inhabited

namespace Script

/-- The object that a template begins, if any. -/
def object? (s : Script) : Option SceneObject :=
  match s.kind with
  | .noObject => none
  | .bare => some ⟨s.typeName, .never, false, .none, none, .empty, .empty⟩
  | kind =>
    let visibility :=
      match kind, s.demotion? with
      | .plain, _ => Visibility.never
      | _, none => .always
      | _, some (name, value) => .unlessEqual name value
    some ⟨s.typeName, visibility, s.hasBinding, if s.hasReflection then .everything else .none,
      none, s.declared, .empty⟩

/-- Whether the objects of a template are counted when they are let go. -/
def isCounted (s : Script) : Bool :=
  match s.kind with
  | .noObject | .bare => false
  | _ => true

end Script

namespace Engine

/-- The engine without templates. -/
def empty : Engine := ⟨0, .empty, .empty⟩

/-- Gives a template; it serves its URI from now on. -/
def add (engine : Engine) (s : Script) : Engine :=
  ⟨engine.compiles, engine.serving.insert s.uri engine.templates.next,
    engine.templates.push ⟨s, s.status, []⟩⟩

/-- The template of a URI that nothing was given for. -/
def missing (uri : String) : Template :=
  ⟨⟨uri, .failed ("no such template: " ++ uri), .noObject, "", "", .empty, false, false, none, []⟩,
    .failed ("no such template: " ++ uri), []⟩

/-- Compiles a URI: the template that serves it, the same each time. -/
def compile (engine : Engine) (uri : String) : Nat × Engine :=
  match engine.serving.get? uri with
  | some template => (template, ⟨engine.compiles + 1, engine.serving, engine.templates⟩)
  | none =>
    (engine.templates.next,
      ⟨engine.compiles + 1, engine.serving, engine.templates.push (missing uri)⟩)

/-- The status of a template. -/
def status (engine : Engine) (template : Nat) : CompileStatus :=
  match engine.templates.get? template with
  | some t => t.status
  | none => .loading

/-- The template that serves a URI. -/
def serving? (engine : Engine) (uri : String) : Option Template :=
  (engine.serving.get? uri).bind engine.templates.get?

/-- Changes the status of the template that serves a URI. -/
def setStatus (engine : Engine) (uri : String) (status : CompileStatus) : Engine :=
  match engine.serving.get? uri with
  | none => engine
  | some template =>
    ⟨engine.compiles, engine.serving,
      engine.templates.modify template fun t => ⟨t.script, status, t.begun⟩⟩

/-- Begins an object, and writes the construction down. -/
def construct (engine : Engine) (template : Nat) (around : Surroundings) :
    Option SceneObject × Engine :=
  match engine.templates.get? template with
  | none => (none, engine)
  | some t =>
    let begun : Begun := ⟨around.context, t.script.observed.map around.lookup, t.script.isCounted⟩
    (t.script.object?,
      ⟨engine.compiles, engine.serving,
        engine.templates.modify template fun t => ⟨t.script, t.status, t.begun ++ [begun]⟩⟩)

/-- Completes an object, unless the template's completion fails. -/
def complete (engine : Engine) (template : Nat) (o : SceneObject) : Except String SceneObject :=
  match engine.templates.get? template with
  | some t => if t.script.kind = .failComplete then .error t.script.detail else .ok o
  | none => .ok o

end Engine

end SceneFactory.Scripted
