import SceneFactory.Attributes
import SceneFactory.Duration
import SceneFactory.Files
import SceneFactory.Template.Status
import SceneFactory.Toml.Shape

/-!
# Configuration and attribute files

The settings of a factory, and the attributes of one instantiation or a batch,
both read from TOML documents. Keys that are missing keep their defaults.
-/

namespace SceneFactory

/-- Why a configuration cannot be read. -/
inductive ConfigError where
  | unreadable (reason : String)
  | noDocument
  | shape (e : Toml.ShapeError)
  | invalid (reason : String)

/-- The fault of a document that does not have the expected shape. One with a
mark that spells no date or time is no document for that matter. -/
def ConfigError.ofShape (table : Toml.Table) (e : Toml.ShapeError) : ConfigError :=
  if (Toml.unmarkEntries? table).isSome then .shape e else .noDocument

/-! ## Factory settings -/

/-- The settings of a component factory. -/
structure Config where
  /-- Put in front of relative template identifiers. -/
  basePath : String
  /-- How long to wait for a loading template. -/
  readyTimeout : Duration
  /-- The longest single hand-off to the event pump while waiting. -/
  pollSlice : Duration
  compileMode : CompileMode
  /-- Directories by URI beginnings. -/
  roots : Assoc String String

/-- Where relative identifiers are looked up if nothing else is said. -/
def Config.defaultBasePath : String := "qrc:/NodeLink/resources/View/"

/-- The settings if nothing else is said. -/
def Config.default : Config :=
  ⟨defaultBasePath, Duration.ofMillis 5000, Duration.ofMillis 10, .asynchronous, Assoc.empty⟩

instance : Inhabited Config := ⟨Config.default⟩

/-- The settings that a document's `factory` table names. -/
structure FactorySettings where
  basePath : Option String
  readyTimeout : Option Nat
  pollSlice : Option Nat
  compileMode : Option CompileMode

/-- Sets one setting by its name. -/
def FactorySettings.set (s : FactorySettings) (name : String) (v : Toml.Value) :
    Except Toml.ShapeError FactorySettings := do
  match name with
  | "base_path" => return ⟨← Toml.readText "a string" v, s.readyTimeout, s.pollSlice, s.compileMode⟩
  | "ready_timeout_ms" => return ⟨s.basePath, ← Toml.readNatural v, s.pollSlice, s.compileMode⟩
  | "poll_slice_ms" => return ⟨s.basePath, s.readyTimeout, ← Toml.readNatural v, s.compileMode⟩
  | "compile_mode" =>
    let mode ← Toml.readVariant [CompileMode.asynchronous.name, CompileMode.synchronous.name]
      CompileMode.ofName? v
    return ⟨s.basePath, s.readyTimeout, s.pollSlice, mode⟩
  | _ => return s

/-- Reads the directories of a document's `roots` table. -/
def readRoots (v : Toml.Value) : Except Toml.ShapeError (Assoc String String) := do
  let entries ← (← Toml.readMap v).mapM fun (name, dir) => do
    return (name, ← Toml.readText "path string" dir)
  return Assoc.ofList entries

/-- Reads both tables of a configuration document. -/
def readConfigTables (table : Toml.Table) :
    Except Toml.ShapeError (FactorySettings × Assoc String String) :=
  table.foldlM (fun (s, roots) (key, v) => do
    match key with
    | "factory" =>
      let s ← Toml.readStructure "TomlFactory"
        ["base_path", "ready_timeout_ms", "poll_slice_ms", "compile_mode"]
        FactorySettings.set ⟨none, none, none, none⟩ v
      return (s, roots)
    | "roots" => return (s, ← readRoots v)
    | _ => return (s, roots))
    (⟨none, none, none, none⟩, Assoc.empty)

/-- Reads settings from a document. -/
def Config.parse (text : String) : Except ConfigError Config :=
  match Toml.parse? text with
  | none => .error .noDocument
  | some table =>
    match readConfigTables table with
    | .error e => .error (.ofShape table e)
    | .ok (s, roots) =>
      if s.pollSlice = some 0 then .error (.invalid "poll_slice_ms must be positive")
      else
        .ok {
          basePath := s.basePath.getD defaultBasePath
          readyTimeout := (s.readyTimeout.map Duration.ofMillis).getD Config.default.readyTimeout
          pollSlice := (s.pollSlice.map Duration.ofMillis).getD Config.default.pollSlice
          compileMode := s.compileMode.getD .asynchronous
          roots }

/-! ## Attribute files -/

/-- A batch: every value becomes an instance, written under the key. -/
structure BatchSpec where
  key : String
  values : List Value
deriving DecidableEq, Inhabited

/-- The attributes of one instantiation or one batch. -/
structure AttributeFile where
  /-- Seen by initializers. -/
  context : Attributes
  /-- Written onto the object. -/
  direct : Attributes
  batch : Option BatchSpec

instance : Inhabited AttributeFile := ⟨⟨Assoc.empty, Assoc.empty, none⟩⟩

/-- Reads a document's value as an attribute value. Every value has a reading. -/
def readAttribute (v : Toml.Value) : Value := (Value.read? (Content.ofToml v)).getD .null

/-- Reads an attribute table. -/
def readAttributes (v : Toml.Value) : Except Toml.ShapeError Attributes := do
  let entries ← Toml.readMap v
  return Assoc.ofList (entries.map fun (name, v) => (name, readAttribute v))

/-- Reads a batch. -/
def readBatch (v : Toml.Value) : Except Toml.ShapeError BatchSpec := do
  let (key, values) ← Toml.readStructure "BatchSpec" ["key", "values"]
    (fun (key, values) name v => do
      if name = "key" then return (some (← Toml.readText "a string" v), values)
      else return (key, some ((← Toml.readSequence v).map readAttribute)))
    ((none, none) : Option String × Option (List Value)) v
  match key, values with
  | none, _ => .error (.missingField "key")
  | _, none => .error (.missingField "values")
  | some key, some values => .ok ⟨key, values⟩

/-- Sets one part of an attribute file by its name. -/
def AttributeFile.set (file : AttributeFile) (name : String) (v : Toml.Value) :
    Except Toml.ShapeError AttributeFile := do
  match name with
  | "context" => return ⟨← readAttributes v, file.direct, file.batch⟩
  | "direct" => return ⟨file.context, ← readAttributes v, file.batch⟩
  | "batch" => return ⟨file.context, file.direct, some (← readBatch v)⟩
  | _ => return file

/-- Reads the attributes of a document. -/
def AttributeFile.parse (text : String) : Except ConfigError AttributeFile :=
  match Toml.parse? text with
  | none => .error .noDocument
  | some table =>
    (table.foldlM (fun file (e : String × Toml.Value) => AttributeFile.set file e.1 e.2)
      default).mapError (.ofShape table)

/-- Reads the settings in a file. -/
def Config.load (files : Files.Reader) (path : String) : Except ConfigError Config :=
  match files path with
  | .error fault => .error (.unreadable fault.message)
  | .ok text => Config.parse text

/-- Reads the attributes in a file. -/
def AttributeFile.load (files : Files.Reader) (path : String) : Except ConfigError AttributeFile :=
  match files path with
  | .error fault => .error (.unreadable fault.message)
  | .ok text => AttributeFile.parse text

/-- The attributes of a table, converted kind by kind. -/
def Attributes.ofToml (table : Toml.Table) : Attributes :=
  Assoc.ofList (Value.entriesOfToml table)

/-- The wording of an error. The fault in a text that is no document is left to
the reader. -/
def ConfigError.message : ConfigError → String
  | .unreadable reason => "Failed to read config file: " ++ reason
  | .noDocument => "Failed to parse config TOML: "
  | .shape e => "Failed to parse config TOML: " ++ e.message
  | .invalid reason => "Invalid config: " ++ reason

end SceneFactory
