/-!
# Compile status and compile mode

The two small types that everything about templates shares: how far the compile
of a template has come, and whether it may be finished later.
-/

namespace SceneFactory

/-- How far a compile has come. -/
inductive CompileStatus where
  | loading
  | ready
  | failed (detail : String)
deriving DecidableEq, Inhabited

/-- Whether the status will not change any more. -/
def CompileStatus.isTerminal : CompileStatus → Bool
  | .loading => false
  | _ => true

/-- The written form of a status. -/
def CompileStatus.text : CompileStatus → String
  | .loading => "loading"
  | .ready => "ready"
  | .failed detail => "error: " ++ detail

/-- How an engine is asked to compile: at once, or later from its event queue if
it has one. -/
inductive CompileMode where
  | asynchronous
  | synchronous
deriving DecidableEq, Inhabited

/-- The name of a mode in configuration files. -/
def CompileMode.name : CompileMode → String
  | .asynchronous => "asynchronous"
  | .synchronous => "synchronous"

/-- The mode of a given name. -/
def CompileMode.ofName? (name : String) : Option CompileMode :=
  [CompileMode.asynchronous, .synchronous].find? fun m => m.name = name

end SceneFactory
