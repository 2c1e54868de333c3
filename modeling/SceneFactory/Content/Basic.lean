import SceneFactory.Value.Basic
import SceneFactory.Toml.Marked

/-!
# Self-describing content

The common form in which data formats present what they hold, and its reading as
a value. The reading tries the kinds of values one after the other, null first
and maps last, and takes the first that fits (`Value.read?`). An integer beyond
64 bits with sign is thereby read as a float. Formats without dates present a
date as a map with one marked key.
-/

namespace SceneFactory

/-- What a data format presents. -/
inductive Content where
  | null
  | bool (b : Bool)
  | integer (n : Int)
  | float (x : Binary64)
  | string (s : String)
  | sequence (items : List Content)
  | mapping (entries : List (String × Content))
deriving Inhabited

/-- The number nearest to an integer. -/
def Binary64.ofInt (n : Int) : Binary64 := Binary64.ofRatio (n < 0) n.natAbs 1

namespace Value

/-! ## One kind of value at a time -/

/-- Null, if that is what the content is. -/
def null? : Content → Option Value
  | .null => some .null
  | _ => none

/-- A boolean. -/
def bool? : Content → Option Value
  | .bool b => some (.bool b)
  | _ => none

/-- An integer of 64 bits with sign. -/
def integer? : Content → Option Value
  | .integer n =>
    if -9223372036854775808 ≤ n ∧ n ≤ 9223372036854775807 then some (.int (Int64.ofInt n))
    else none
  | _ => none

/-- A float; any integer will do. -/
def float? : Content → Option Value
  | .integer n => some (.float (Binary64.ofInt n))
  | .float x => some (.float x)
  | _ => none

/-- A string. -/
def text? : Content → Option Value
  | .string s => some (.string s)
  | _ => none

mutual

/-- The first kind of value that fits the content. -/
def read? (c : Content) : Option Value :=
  null? c <|> bool? c <|> integer? c <|> float? c <|> text? c <|>
    (match c with
      | .sequence items => (readItems? items).map .list
      | _ => none) <|>
    (match c with
      | .mapping entries => (readEntries? entries).map Value.ofEntries
      | _ => none)

/-- The values of all items. -/
def readItems? : List Content → Option (List Value)
  | [] => some []
  | c :: cs => do
    let v ← read? c
    let vs ← readItems? cs
    some (v :: vs)

/-- The values of all entries. -/
def readEntries? : List (String × Content) → Option (List (String × Value))
  | [] => some []
  | (k, c) :: cs => do
    let v ← read? c
    let vs ← readEntries? cs
    some ((k, v) :: vs)

end

end Value

/-! ## Content of TOML documents -/

namespace Content

mutual

/-- What a document's value is presented as. -/
def ofToml : Toml.Value → Content
  | .string s => .string s
  | .integer n => .integer n.toInt
  | .float x => .float x
  | .boolean b => .bool b
  | .dateTime d => .mapping [(Toml.dateTimeKey, .string d.text)]
  | .array items | .tables items => .sequence (itemsOfToml items)
  | .table entries => .mapping (entriesOfToml entries)

/-- What array items are presented as. -/
def itemsOfToml : List Toml.Value → List Content
  | [] => []
  | v :: vs => ofToml v :: itemsOfToml vs

/-- What table entries are presented as. -/
def entriesOfToml : List (String × Toml.Value) → List (String × Content)
  | [] => []
  | (k, v) :: es => (k, ofToml v) :: entriesOfToml es

end

end Content

/-! ## Direct conversion -/

namespace Value

mutual

/-- A document's value as an attribute value: kind by kind, with dates and times
as their text. -/
def ofToml : Toml.Value → Value
  | .string s => .string s
  | .integer n => .int n
  | .float x => .float x
  | .boolean b => .bool b
  | .dateTime d => .string d.text
  | .array items | .tables items => .list (itemsOfToml items)
  | .table entries => .map (entriesOfToml entries)

/-- Array items as attribute values. -/
def itemsOfToml : List Toml.Value → List Value
  | [] => []
  | v :: vs => ofToml v :: itemsOfToml vs

/-- Table entries as attribute values. -/
def entriesOfToml : List (String × Toml.Value) → List (String × Value)
  | [] => []
  | (k, v) :: es => (k, ofToml v) :: entriesOfToml es

end

end Value

end SceneFactory
