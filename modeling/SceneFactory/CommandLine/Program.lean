import SceneFactory.CommandLine.Texts
import SceneFactory.Scene.Dump
import SceneFactory.Studio

/-!
# The program of the command line

The program reads its arguments, then the files that they name, then the template's
source, and ends with an exit code and what it writes. It is a value that says which
file it wants to read next and how it goes on, so that it can be run on any files.
-/

namespace SceneFactory.CommandLine

/-- How the program ended. -/
structure Result where
  code : Nat
  output : String
  errors : String
deriving DecidableEq, Inhabited

/-- A program that reads files. -/
inductive Program where
  | done (result : Result)
  | read (path : String) (next : Except Files.ReadFault String → Program)

/-- Runs a program on given files. -/
def Program.run (files : Files.Reader) : Program → Result
  | .done result => result
  | .read path next => (next (files path)).run files

/-! ## Instantiating -/

/-- The session of the program: a markup engine that finishes asynchronous compiles
from the event queue, and a factory bound to it. -/
def openSession (config : Config) (files : Files.Reader) : Session studio :=
  let state : Studio.State := ⟨.new config.roots files true, .empty, .queue⟩
  ((Session.start config state).perform (.bind Studio.EngineName.markup)).2

/-- What creating the instances came to: the written errors, and whether there is an
instance. -/
structure Creation where
  errors : String
  isAny : Bool

/-- Creates the instance or the batch of an attribute file in a container. -/
def createAll (s : Session studio) (container : ContainerId) (template : String)
    (attributes : AttributeFile) : Creation × Session studio :=
  match attributes.batch with
  | some batch =>
    match s.perform (.createMany batch.key batch.values (some container) template
        attributes.direct .delegated) with
    | (.createdMany ids, s) =>
      let warning :=
        if ids.length < batch.values.length then
          "Warning: created " ++ toString ids.length ++ " of " ++
            toString batch.values.length ++ " instances\n"
        else ""
      (⟨warning, !ids.isEmpty⟩, s)
    | (_, s) => (⟨"", false⟩, s)
  | none =>
    match s.perform (.create (some container) template attributes.context attributes.direct
        .delegated) with
    | (.created (.ok _), s) => (⟨"", true⟩, s)
    | (.created (.error e), s) => (⟨"Error: " ++ e.message ++ "\n", false⟩, s)
    | (_, s) => (⟨"", false⟩, s)

/-- Instantiates a template in a fresh container and shows the container. A syntax
error without a place that could be shown breaks the program off. -/
def instantiate (config : Config) (attributes : AttributeFile) (template : String)
    (files : Files.Reader) : Result :=
  match (openSession config files).perform (.addContainer "root" none none) with
  | (.made container, s) =>
    let (creation, s) := createAll s container template attributes
    -- what was reached before the break is not shown
    if !s.world.state.markup.unreported.isEmpty then ⟨101, "", ""⟩
    else if creation.isAny then ⟨0, s.world.scene.dump container, creation.errors⟩
    else ⟨1, "", creation.errors⟩
  | _ => ⟨1, "", ""⟩

/-- A reader that knows what one file holds. -/
def oneFile (path : String) (content : Except Files.ReadFault String) : Files.Reader := fun p =>
  if p = path then content else .error .notFound

/-- Reads the template's source and instantiates it. -/
def readTemplate (config : Config) (attributes : AttributeFile) (template : String) : Program :=
  match Markup.locate? config.roots (Template.resolve config.basePath template) with
  | none => .done (instantiate config attributes template Files.noFiles)
  | some path =>
    .read path fun content => .done (instantiate config attributes template (oneFile path content))

/-! ## Settings -/

/-- The settings with what the arguments say. -/
def Arguments.override (a : Arguments) (config : Config) : Config where
  basePath := a.base?.getD config.basePath
  readyTimeout := config.readyTimeout
  pollSlice := config.pollSlice
  compileMode := if a.isAsync then .asynchronous else config.compileMode
  roots := config.roots.insertAll a.roots

/-- The settings if no file gives them: everything is compiled at once. -/
def ownConfig : Config :=
  ⟨Config.default.basePath, Config.default.readyTimeout, Config.default.pollSlice, .synchronous,
    .empty⟩

/-- Ends with a file that could not be used. -/
def loadFailure (what path : String) (e : ConfigError) : Program :=
  .done ⟨1, "", "Error loading " ++ what ++ " '" ++ path ++ "': " ++ e.message ++ "\n"⟩

/-- Reads a file, if one is named, and goes on with what it holds. -/
def readFile {α : Type} (what : String) (path? : Option String) (otherwise : α)
    (load : Files.Reader → String → Except ConfigError α) (next : α → Program) : Program :=
  match path? with
  | none => next otherwise
  | some path =>
    .read path fun content =>
      match load (oneFile path content) path with
      | .error e => loadFailure what path e
      | .ok a => next a

/-- The program for given arguments. -/
def programOf (a : Arguments) : Program :=
  if a.isGrammar then .done ⟨0, textOfLines grammarReference, ""⟩
  else
    match a.template? with
    | none => .done ⟨0, textOfLines introduction, ""⟩
    | some template =>
      readFile "config" a.config? ownConfig Config.load fun config =>
        readFile "attributes" a.attrs? default AttributeFile.load fun attributes =>
          readTemplate (a.override config) attributes template

/-- The program. -/
def program (arguments : List String) : Program :=
  match Arguments.parse arguments with
  | .ok a => programOf a
  | .error .helpWanted => .done ⟨0, textOfLines helpLines, ""⟩
  | .error refusal => .done ⟨2, "", refusalText refusal⟩

end SceneFactory.CommandLine
