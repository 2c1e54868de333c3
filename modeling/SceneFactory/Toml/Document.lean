import SceneFactory.Assoc
import SceneFactory.Toml.Scalar

/-!
# TOML documents

A document is a table: keys with values, in the order in which the keys first
came in. It is read line by line. A header says where the following keys belong;
a table may be opened by one header only, unless it was implied by a longer one,
and a table that dotted keys opened cannot be opened again.
-/

namespace SceneFactory.Toml

/-- A value of a document. The entries of a table have distinct keys. -/
inductive Value where
  | string (s : String)
  | integer (n : Int64)
  | float (x : Binary64)
  | boolean (b : Bool)
  | dateTime (d : DateTime)
  | array (items : List Value)
  /-- An array of tables, each opened by a header of its own. -/
  | tables (elements : List Value)
  | table (entries : List (String × Value))
deriving Inhabited

/-- A table: keys and values in document order. -/
abbrev Table := List (String × Value)

/-! ## Tables under construction -/

/-- How a table came to be. -/
inductive Origin where
  /-- By its own header, as an element of an array of tables, or in braces. -/
  | defined
  /-- As a step on the way to a header. -/
  | implied
  /-- As a step in a dotted key. -/
  | dotted
deriving DecidableEq

/-- A part of a document under construction. -/
inductive Node where
  | leaf (v : Value)
  | table (origin : Origin) (entries : List (String × Node))
  | tables (elements : List (List (String × Node)))
deriving Inhabited

/-- A table under construction. -/
abbrev Draft := Origin × List (String × Node)

/-- Changes the table that a path leads to, which is created where it is missing.
An array of tables leads to its last element. Through a dotted key, no table is
entered that was defined before; values are never entered. -/
def editAt (dotted : Bool) (edit : Draft → Option Draft) : List String → Draft → Option Draft
  | [], draft => edit draft
  | key :: path, (origin, entries) =>
    match Assoc.find key entries with
    | none =>
      (editAt dotted edit path (if dotted then .dotted else .implied, [])).map fun (o, es) =>
        (origin, entries ++ [(key, .table o es)])
    | some (.leaf _) => none
    | some (.table o es) =>
      -- what has a header of its own is closed to dotted keys
      if dotted ∧ o = .defined then none
      else
        (editAt dotted edit path (o, es)).map fun (o, es) =>
          (origin, Assoc.put key (.table o es) entries)
    | some (.tables elements) =>
      match elements.getLast? with
      | none => none
      | some es =>
        (editAt dotted edit path (.defined, es)).map fun (_, es) =>
          (origin, Assoc.put key (.tables (elements.dropLast ++ [es])) entries)

/-- Adds a key to a table. The last step of a dotted key lies in a table that
dotted keys opened, and a plain key does not; no key comes twice. -/
def addKey (dotted : Bool) (key : String) (v : Value) : Draft → Option Draft
  | (origin, entries) =>
    -- a dotted key and a plain key never add to the same table
    if (origin = .dotted) ≠ dotted then none
    else
      match Assoc.find key entries with
      | some _ => none
      | none => some (origin, entries ++ [(key, .leaf v)])

/-- Adds a value under a key of one or more parts. -/
def addEntry (path : List String) (v : Value) (draft : Draft) : Option Draft := do
  let key ← path.getLast?
  let steps := path.dropLast
  editAt true (addKey (!steps.isEmpty) key v) steps draft

/-- Opens a table. One that was implied before moves to the end. -/
def openTable (key : String) : Draft → Option Draft
  | (origin, entries) =>
    match Assoc.find key entries with
    | none => some (origin, entries ++ [(key, .table .defined [])])
    -- implied by a longer header before: it is opened now, once
    | some (.table .implied es) =>
      some (origin, (entries.filter fun e => e.1 ≠ key) ++ [(key, .table .defined es)])
    | some _ => none

/-- Opens a further element of an array of tables. -/
def openElement (key : String) : Draft → Option Draft
  | (origin, entries) =>
    match Assoc.find key entries with
    | none => some (origin, entries ++ [(key, .tables [[]])])
    | some (.tables elements) =>
      some (origin, Assoc.put key (.tables (elements ++ [[]])) entries)
    | some _ => none

mutual

/-- The value that a finished part stands for. -/
def Node.value : Node → Value
  | .leaf v => v
  | .table _ entries => .table (entryValues entries)
  | .tables elements => .tables (elementValues elements)

/-- The values of finished entries. -/
def entryValues : List (String × Node) → Table
  | [] => []
  | (key, node) :: rest => (key, node.value) :: entryValues rest

/-- The values of the finished elements of an array of tables. -/
def elementValues : List (List (String × Node)) → List Value
  | [] => []
  | entries :: rest => .table (entryValues entries) :: elementValues rest

end

/-! ## Values -/

/-- Reads items with commas between them, in brackets that have been opened; a
last comma may follow the last item. -/
def readItems (readItem : Reader Value) : Nat → Reader (List Value)
  | 0, _ => none
  | fuel + 1, cs =>
    match skipFiller cs.length cs with
    | ']' :: rest => some ([], rest)
    | cs => do
      let (item, rest) ← readItem cs
      match skipFiller rest.length rest with
      | ']' :: rest => some ([item], rest)
      | ',' :: rest => (readItems readItem fuel rest).map fun (items, rest) => (item :: items, rest)
      | _ => none

/-- Reads a key, an equals sign and a value, with blank space around each. -/
def readPair (readItem : Reader Value) : Reader (List String × Value) := fun cs => do
  let (path, cs) ← readKey cs
  let (_, cs) ← readChar '=' cs
  let (v, cs) ← readItem (skipBlank cs)
  some ((path, v), skipBlank cs)

/-- Reads pairs with commas between them, in braces that have been opened, into a
table. -/
def readPairs (readItem : Reader Value) : Nat → Draft → Reader Draft
  | 0, _, _ => none
  | fuel + 1, draft, cs => do
    let ((path, v), rest) ← readPair readItem cs
    let draft ← addEntry path v draft
    match rest with
    | '\x7d' :: rest => some (draft, rest)
    | ',' :: rest => readPairs readItem fuel draft rest
    | _ => none

/-- Reads a value in which collections may nest as deep as the first argument
says. -/
def readValue : Nat → Reader Value
  | depth, cs =>
    match cs with
    | '[' :: rest =>
      match depth with
      | 0 => none
      | depth + 1 =>
        (readItems (readValue depth) cs.length rest).map fun (items, rest) => (.array items, rest)
    | '\x7b' :: rest =>
      match depth with
      | 0 => none
      | depth + 1 =>
        match skipBlank rest with
        | '\x7d' :: rest => some (.table [], rest)
        | _ =>
          (readPairs (readValue depth) cs.length (.defined, []) rest).map fun (draft, rest) =>
            (.table (entryValues draft.2), rest)
    | 't' :: 'r' :: 'u' :: 'e' :: rest => some (.boolean true, rest)
    | 'f' :: 'a' :: 'l' :: 's' :: 'e' :: rest => some (.boolean false, rest)
    | c :: _ =>
      if c = '"' ∨ c = '\'' then (readString cs).map fun (s, rest) => (.string s, rest)
      else
        (readNumber cs).map fun (n, rest) =>
          (match n with
            | .integer n => .integer n
            | .float x => .float x
            | .dateTime d => .dateTime d, rest)
    | [] => none

/-! ## Documents -/

/-- A document being read: its root table and the path of the last header. -/
structure Reading where
  root : Draft
  header : List String

/-- Reads a header, its first bracket read. -/
def readHeader (doc : Reading) (cs : List Char) : Option (Reading × List Char) := do
  let (element, cs) := match cs with
    | '[' :: rest => (true, rest)
    | cs => (false, cs)
  let (path, cs) ← readKey cs
  let (_, cs) ← readChar ']' cs
  let cs ← if element then (readChar ']' cs).map Prod.snd else some cs
  let cs ← skipLineEnd? cs
  let key ← path.getLast?
  let place := if element then openElement key else openTable key
  let root ← editAt false place path.dropLast doc.root
  some (⟨root, path⟩, cs)

/-- Reads a line with a key and a value. -/
def readEntry (doc : Reading) (cs : List Char) : Option (Reading × List Char) := do
  let ((path, v), cs) ← readPair (readValue (nestingLimit - 1)) cs
  let cs ← skipLineEnd? cs
  let root ← editAt false (addEntry path v) doc.header doc.root
  some (⟨root, doc.header⟩, cs)

/-- Reads the lines of a document. -/
def readLines : Nat → Reading → List Char → Option Reading
  | 0, _, _ => none
  | fuel + 1, doc, cs =>
    match skipBlank cs with
    | [] => some doc
    | '#' :: rest => (skipLineEnd? ('#' :: rest)).bind (readLines fuel doc)
    | '[' :: rest => do
      let (doc, cs) ← readHeader doc rest
      readLines fuel doc cs
    | cs =>
      match skipBreak? cs with
      | some rest => readLines fuel doc rest
      | none => do
        let (doc, cs) ← readEntry doc cs
        readLines fuel doc cs

/-- The table that a text spells, if it is a document. A byte-order mark in front
is left out. -/
def parse? (text : String) : Option Table :=
  let cs := match text.toList with
    | '\ufeff' :: rest => rest
    | cs => cs
  (readLines (cs.length + 1) ⟨(.defined, []), []⟩ cs).map fun doc => entryValues doc.root.2

end SceneFactory.Toml
