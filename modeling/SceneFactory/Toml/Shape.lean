import SceneFactory.Content.Basic
import SceneFactory.Text.Quoted

/-!
# Shapes expected of document values

Readers that ask for a value of one shape and say what they found instead. A
structure may be given as a table, by field names, or as an array, by position;
fields it does not know are passed over. Of several faults the first in document
order is reported, and a missing field only after all others.
-/

namespace SceneFactory.Toml

/-- Why a value does not have the shape that is expected of it. -/
inductive ShapeError where
  | invalidType (found : Value) (expected : String)
  | invalidValue (found : Value) (expected : String)
  | invalidLength (length : Nat) (expected : String)
  | missingField (name : String)
  | unknownVariant (name : String) (variants : List String)
  | noVariant
  | variantCount (atAll : Bool)
  | variantContent (found : Value)

/-- The number with a point, if it is finite. -/
def pointedText (x : Binary64) : String :=
  let text := x.text
  if x.isFinite ∧ !text.toList.contains '.' then text ++ ".0" else text

/-- How a value that was found is named in messages. -/
def Value.found : Value → String
  | .string s => "string " ++ Text.quoted s
  | .integer n => "integer `" ++ toString n.toInt ++ "`"
  | .float x => "floating point `" ++ pointedText x ++ "`"
  | .boolean b => "boolean `" ++ (if b then "true" else "false") ++ "`"
  | .array _ | .tables _ => "sequence"
  | .table _ | .dateTime _ => "map"

/-- The name of a value's type. -/
def Value.typeName : Value → String
  | .string _ => "string"
  | .integer _ => "integer"
  | .float _ => "float"
  | .boolean _ => "boolean"
  | .dateTime _ => "datetime"
  | .array _ => "array"
  | .tables _ => "array of tables"
  | .table _ => "table"

/-- Alternatives in a message. -/
def alternatives (names : List String) : String :=
  " or ".intercalate (names.map fun n => "`" ++ n ++ "`")

/-- The wording of an error. -/
def ShapeError.message : ShapeError → String
  | .invalidType v expected => "invalid type: " ++ v.found ++ ", expected " ++ expected
  | .invalidValue v expected => "invalid value: " ++ v.found ++ ", expected " ++ expected
  | .invalidLength n expected => "invalid length " ++ toString n ++ ", expected " ++ expected
  | .missingField name => "missing field `" ++ name ++ "`"
  | .unknownVariant name variants =>
    "unknown variant `" ++ name ++ "`, expected " ++ alternatives variants
  | .noVariant => "wanted string or table"
  | .variantCount atAll =>
    "wanted exactly 1 element, " ++ if atAll then "more than 1 element" else "found 0 elements"
  | .variantContent v =>
    match v with
    | .tables _ => "expected empty array"
    | .array _ | .table _ => "expected empty table"
    | v => "expected table, found " ++ v.typeName

/-! ## Readers -/

/-- The entries of a value that is presented as a map. -/
def Value.entries? : Value → Option Table
  | .table es => some es
  | .dateTime d => some [(dateTimeKey, .string d.text)]
  | _ => none

/-- The items of a value that is presented as a sequence. -/
def Value.items? : Value → Option (List Value)
  | .array items | .tables items => some items
  | _ => none

/-- Reads a text; `expected` says what kind of text. -/
def readText (expected : String) : Value → Except ShapeError String
  | .string s => .ok s
  | v => .error (.invalidType v expected)

/-- Reads an integer that is not negative. -/
def readNatural : Value → Except ShapeError Nat
  | .integer n =>
    if 0 ≤ n.toInt then .ok n.toInt.toNat else .error (.invalidValue (.integer n) "u64")
  | v => .error (.invalidType v "u64")

/-- Reads the entries of a map. -/
def readMap (v : Value) : Except ShapeError Table :=
  match v.entries? with
  | some es => .ok es
  | none => .error (.invalidType v "a map")

/-- Reads the items of a sequence. -/
def readSequence (v : Value) : Except ShapeError (List Value) :=
  match v.items? with
  | some items => .ok items
  | none => .error (.invalidType v "a sequence")

/-- Reads a structure field by field. -/
def readStructure {α : Type} (title : String) (fields : List String)
    (set : α → String → Value → Except ShapeError α) (start : α) (v : Value) :
    Except ShapeError α :=
  match v.entries?, v.items? with
  | some es, _ =>
    es.foldlM (fun a e => if e.1 ∈ fields then set a e.1 e.2 else .ok a) start
  | none, some items => do
    let a ← (fields.zip items).foldlM (fun a e => set a e.1 e.2) start
    if items.length < fields.length then
      .error (.invalidLength items.length
        ("struct " ++ title ++ " with " ++ toString fields.length ++ " elements"))
    else .ok a
  | none, none => .error (.invalidType v ("struct " ++ title))

/-- Reads one of several named variants: its name, or a table with its name as
the only key and nothing under it. -/
def readVariant {α : Type} (names : List String) (ofName? : String → Option α) :
    Value → Except ShapeError α
  | .string s => variant s
  | .table [(name, content)] => do
    let a ← variant name
    match content with
    | .table [] | .array [] | .tables [] => .ok a
    | content => .error (.variantContent content)
  | .table es => .error (.variantCount !es.isEmpty)
  | _ => .error .noVariant
where
  /-- The variant of a name. -/
  variant (name : String) : Except ShapeError α :=
    match ofName? name with
    | some a => .ok a
    | none => .error (.unknownVariant name names)

end SceneFactory.Toml
