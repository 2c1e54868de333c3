import SceneFactory.Toml.Document
import SceneFactory.Proofs.Construction.Writes

/-!
# The keys of a document's tables

Tables are lists of keys and values, and a document reads into lists whose keys are distinct, in
the root as in every table below it (`properTable_of_parse?`). So a table may stand for an
association without a loss.

A document is written down by edits of a draft (`editAt` leads an edit to its table), and each
edit keeps the keys of the draft distinct (`Keeps`). The values that the edits add are read by
recursion on the depth to which they nest, and those in braces are drafts once more.
-/

set_option autoImplicit false

namespace SceneFactory.Toml

/-! ## Entries with distinct keys -/

section Keyed

variable {ν : Type} {P : ν → Prop} {entries : List (String × ν)}

/-- Entries with distinct keys, each with a value that has a property. -/
structure Keyed (P : ν → Prop) (entries : List (String × ν)) : Prop where
  nodup : (entries.map Prod.fst).Nodup
  all : ∀ e ∈ entries, P e.2

namespace Keyed

theorem nil : Keyed P [] := ⟨List.nodup_nil, fun _ h => nomatch h⟩

theorem of_find {key : String} {v : ν} (h : Keyed P entries)
    (hfind : Assoc.find key entries = some v) : P v :=
  h.all (key, v) (Assoc.mem_of_find hfind)

theorem put {key : String} {v : ν} (h : Keyed P entries) (hv : P v) :
    Keyed P (Assoc.put key v entries) where
  nodup := Assoc.nodup_put key v h.nodup
  all e he := by
    obtain rfl | hold := Assoc.mem_of_mem_put he
    · exact hv
    · exact h.all e hold

theorem concat {key : String} {v : ν} (h : Keyed P entries) (hfresh : key ∉ entries.map Prod.fst)
    (hv : P v) : Keyed P (entries ++ [(key, v)]) := by
  rw [← Assoc.put_of_not_mem v hfresh]
  exact h.put hv

theorem filter (h : Keyed P entries) (keep : String × ν → Bool) :
    Keyed P (entries.filter keep) where
  nodup := (List.filter_sublist.map Prod.fst).nodup h.nodup
  all e he := h.all e (List.mem_filter.1 he).1

end Keyed

end Keyed

/-! ## Proper values and drafts -/

/-- Values whose tables have distinct keys, at every depth. -/
inductive Value.IsProper : Value → Prop
  | string (s : String) : IsProper (.string s)
  | integer (n : Int64) : IsProper (.integer n)
  | float (x : Binary64) : IsProper (.float x)
  | boolean (b : Bool) : IsProper (.boolean b)
  | dateTime (d : DateTime) : IsProper (.dateTime d)
  | array {items : List Value} (hitems : ∀ v ∈ items, IsProper v) : IsProper (.array items)
  | tables {elements : List Value} (helements : ∀ v ∈ elements, IsProper v) :
    IsProper (.tables elements)
  | table {entries : Table} (hkeys : (entries.map Prod.fst).Nodup)
    (hvalues : ∀ e ∈ entries, IsProper e.2) : IsProper (.table entries)

/-- Tables with distinct keys, which hold no table without. -/
abbrev IsProperTable (table : Table) : Prop := Keyed Value.IsProper table

theorem Value.IsProper.keyed {entries : Table} : (Value.table entries).IsProper →
    IsProperTable entries
  | .table hkeys hvalues => ⟨hkeys, hvalues⟩

theorem Keyed.isProper {entries : Table} (h : IsProperTable entries) :
    (Value.table entries).IsProper := .table h.nodup h.all

/-- Parts of a draft whose tables have distinct keys, at every depth. -/
inductive Node.IsProper : Node → Prop
  | leaf {v : Value} (hv : v.IsProper) : IsProper (.leaf v)
  | table {origin : Origin} {entries : List (String × Node)} (hkeys : (entries.map Prod.fst).Nodup)
    (hnodes : ∀ e ∈ entries, IsProper e.2) : IsProper (.table origin entries)
  | tables {elements : List (List (String × Node))}
    (hkeys : ∀ entries ∈ elements, (entries.map Prod.fst).Nodup)
    (hnodes : ∀ entries ∈ elements, ∀ e ∈ entries, IsProper e.2) : IsProper (.tables elements)

/-- Drafts of tables with distinct keys, which hold no table without. -/
abbrev Draft.IsProper (draft : Draft) : Prop := Keyed Node.IsProper draft.2

namespace Node

theorem isProper_table_iff {origin : Origin} {entries : List (String × Node)} :
    (Node.table origin entries).IsProper ↔ Keyed IsProper entries := by
  constructor
  · rintro ⟨⟩
    constructor <;> assumption
  · exact fun h => .table h.nodup h.all

theorem isProper_tables_iff {elements : List (List (String × Node))} :
    (Node.tables elements).IsProper ↔ ∀ entries ∈ elements, Keyed IsProper entries := by
  constructor
  · rintro ⟨⟩ entries hmem
    rename_i hkeys hnodes
    exact ⟨hkeys entries hmem, hnodes entries hmem⟩
  · exact fun h => .tables (fun es hes => (h es hes).nodup) fun es hes => (h es hes).all

end Node

/-- The values of a draft's entries stand under the same keys. -/
theorem keys_entryValues (entries : List (String × Node)) :
    (entryValues entries).map Prod.fst = entries.map Prod.fst := by
  induction entries with
  | nil => rfl
  | cons e rest ih => simp [entryValues, ih]

mutual

/-- A proper part stands for a proper value. -/
theorem Node.isProper_value : ∀ (node : Node), node.IsProper → node.value.IsProper
  | .leaf _, .leaf hv => hv
  | .table _ entries, .table hkeys hnodes =>
    .table ((keys_entryValues entries).symm ▸ hkeys) (all_entryValues hnodes)
  | .tables _, .tables hkeys hnodes => .tables (all_elementValues hkeys hnodes)

theorem all_entryValues : ∀ {entries : List (String × Node)}, (∀ e ∈ entries, e.2.IsProper) →
    ∀ e ∈ entryValues entries, e.2.IsProper
  | [], _ => fun _ h => nomatch h
  | (key, node) :: rest, h => by
    obtain ⟨hnode, hrest⟩ := List.forall_mem_cons.1 h
    exact List.forall_mem_cons.2 ⟨node.isProper_value hnode, all_entryValues hrest⟩

theorem all_elementValues : ∀ {elements : List (List (String × Node))},
    (∀ entries ∈ elements, (entries.map Prod.fst).Nodup) →
    (∀ entries ∈ elements, ∀ e ∈ entries, e.2.IsProper) →
    ∀ v ∈ elementValues elements, v.IsProper
  | [], _, _ => fun _ h => nomatch h
  | entries :: rest, hkeys, hnodes => by
    obtain ⟨hnodup, hkeys⟩ := List.forall_mem_cons.1 hkeys
    obtain ⟨hall, hnodes⟩ := List.forall_mem_cons.1 hnodes
    refine List.forall_mem_cons.2 ⟨.table ?_ (all_entryValues hall), all_elementValues hkeys hnodes⟩
    rwa [keys_entryValues]

end

theorem Keyed.values {entries : List (String × Node)} (h : Keyed Node.IsProper entries) :
    IsProperTable (entryValues entries) :=
  ⟨(keys_entryValues entries).symm ▸ h.nodup, all_entryValues h.all⟩

/-! ## Edits -/

/-- Edits that leave a proper draft proper. -/
def Keeps (edit : Draft → Option Draft) : Prop :=
  ∀ ⦃draft draft' : Draft⦄, draft.IsProper → edit draft = some draft' → draft'.IsProper

/-- An edit of the table that a path leads to keeps what the edit keeps. -/
theorem keeps_editAt {dotted : Bool} {edit : Draft → Option Draft} (hedit : Keeps edit)
    (path : List String) : Keeps (editAt dotted edit path) := by
  induction path with
  | nil => exact hedit
  | cons key path ih =>
    rintro ⟨origin, entries⟩ draft' hdraft h
    rw [editAt] at h
    split at h
    case h_1 hfind =>
      -- the step is missing, and what the edit makes of an empty table is put under its key
      obtain ⟨⟨o, es⟩, hes, rfl⟩ := Option.map_eq_some_iff.1 h
      have hnew : Keyed Node.IsProper es := ih .nil hes
      have hfresh := (Assoc.find_eq_none_iff key entries).1 hfind
      exact hdraft.concat hfresh (Node.isProper_table_iff.2 hnew)
    case h_2 => cases h
    case h_3 o es hfind =>
      split at h
      · cases h
      obtain ⟨⟨o', es'⟩, hes, rfl⟩ := Option.map_eq_some_iff.1 h
      have hold := Node.isProper_table_iff.1 (hdraft.of_find hfind)
      exact hdraft.put (Node.isProper_table_iff.2 (ih hold hes))
    case h_4 elements hfind =>
      split at h
      · cases h
      next es hlast =>
      obtain ⟨⟨o', es'⟩, hes, rfl⟩ := Option.map_eq_some_iff.1 h
      have hold := Node.isProper_tables_iff.1 (hdraft.of_find hfind)
      have hnew : Keyed Node.IsProper es' := ih (hold es (List.mem_of_getLast? hlast)) hes
      refine hdraft.put (Node.isProper_tables_iff.2 fun entries hmem => ?_)
      obtain hinit | hend := List.mem_append.1 hmem
      · exact hold entries (List.dropLast_subset elements hinit)
      · rw [List.mem_singleton.1 hend]
        exact hnew

theorem keeps_addKey {dotted : Bool} {key : String} {v : Value} (hv : v.IsProper) :
    Keeps (addKey dotted key v) := by
  rintro ⟨origin, entries⟩ draft' hdraft h
  rw [addKey] at h
  split at h
  · cases h
  split at h
  case h_1 => cases h
  case h_2 hfind =>
    cases h
    exact hdraft.concat ((Assoc.find_eq_none_iff key entries).1 hfind) (.leaf hv)

theorem keeps_addEntry {path : List String} {v : Value} (hv : v.IsProper) :
    Keeps (addEntry path v) := by
  intro draft draft' hdraft h
  obtain ⟨key, -, h⟩ := Option.bind_eq_some_iff.1 h
  exact keeps_editAt (keeps_addKey hv) _ hdraft h

theorem keeps_openTable (key : String) : Keeps (openTable key) := by
  rintro ⟨origin, entries⟩ draft' hdraft h
  rw [openTable] at h
  split at h
  case h_1 hfind =>
    cases h
    exact hdraft.concat ((Assoc.find_eq_none_iff key entries).1 hfind)
      (Node.isProper_table_iff.2 .nil)
  case h_2 es hfind =>
    cases h
    -- the table leaves its place before it comes in at the end, so its key is free
    refine (hdraft.filter _).concat ?_ (Node.isProper_table_iff.2 ?_)
    · simp
    · exact Node.isProper_table_iff.1 (hdraft.of_find hfind)
  case h_3 => cases h

theorem keeps_openElement (key : String) : Keeps (openElement key) := by
  rintro ⟨origin, entries⟩ draft' hdraft h
  rw [openElement] at h
  split at h
  case h_1 hfind =>
    cases h
    refine hdraft.concat ((Assoc.find_eq_none_iff key entries).1 hfind) ?_
    exact Node.isProper_tables_iff.2 (List.forall_mem_singleton.2 .nil)
  case h_2 elements hfind =>
    cases h
    have hold := Node.isProper_tables_iff.1 (hdraft.of_find hfind)
    refine hdraft.put (Node.isProper_tables_iff.2 ?_)
    exact List.forall_mem_append.2 ⟨hold, List.forall_mem_singleton.2 .nil⟩
  case h_3 => cases h

/-! ## Values -/

/-- Readers that give only what has a property. -/
def Yields {α : Type} (P : α → Prop) (read : Reader α) : Prop :=
  ∀ ⦃cs : List Char⦄ ⦃a : α⦄ ⦃rest : List Char⦄, read cs = some (a, rest) → P a

section Readers

variable {readItem : Reader Value} (hread : Yields Value.IsProper readItem)
include hread

theorem yields_readItems (fuel : Nat) :
    Yields (fun items => ∀ v ∈ items, v.IsProper) (readItems readItem fuel) := by
  induction fuel with
  | zero => exact fun _ _ _ h => nomatch h
  | succ fuel ih =>
    intro cs items rest h
    rw [readItems] at h
    split at h
    · cases h
      exact fun _ h => nomatch h
    obtain ⟨⟨item, after⟩, hitem, h⟩ := Option.bind_eq_some_iff.1 h
    have hproper := hread hitem
    dsimp only at h
    split at h
    · cases h
      exact List.forall_mem_singleton.2 hproper
    · obtain ⟨⟨more, end_⟩, hmore, h⟩ := Option.map_eq_some_iff.1 h
      cases h
      exact List.forall_mem_cons.2 ⟨hproper, ih hmore⟩
    · cases h

theorem yields_readPair : Yields (fun pair => pair.2.IsProper) (readPair readItem) := by
  intro cs pair rest h
  obtain ⟨⟨path, cs⟩, -, h⟩ := Option.bind_eq_some_iff.1 h
  obtain ⟨⟨_, cs⟩, -, h⟩ := Option.bind_eq_some_iff.1 h
  obtain ⟨⟨v, cs⟩, hv, h⟩ := Option.bind_eq_some_iff.1 h
  cases h
  exact hread hv

theorem yields_readPairs (fuel : Nat) : ∀ ⦃draft : Draft⦄, draft.IsProper →
    Yields Draft.IsProper (readPairs readItem fuel draft) := by
  induction fuel with
  | zero => exact fun _ _ _ _ _ h => nomatch h
  | succ fuel ih =>
    intro draft hdraft cs draft' rest h
    rw [readPairs] at h
    obtain ⟨⟨⟨path, v⟩, after⟩, hpair, h⟩ := Option.bind_eq_some_iff.1 h
    obtain ⟨added, hadded, h⟩ := Option.bind_eq_some_iff.1 h
    have hkept := keeps_addEntry (yields_readPair hread hpair) hdraft hadded
    split at h
    · cases h
      exact hkept
    · exact ih hkept h
    · cases h

end Readers

/-- Every value that is read is proper. -/
theorem yields_readValue (depth : Nat) : Yields Value.IsProper (readValue depth) := by
  -- on the depth: the parts of a collection are read with one level less
  induction depth using Nat.strongRecOn with
  | ind depth ih =>
    intro cs v after h
    unfold readValue at h
    split at h
    case h_1 rest =>
      cases depth with
      | zero => cases h
      | succ depth =>
        obtain ⟨⟨items, end_⟩, hitems, h⟩ := Option.map_eq_some_iff.1 h
        cases h
        exact .array (yields_readItems (ih depth depth.lt_succ_self) _ hitems)
    case h_2 rest =>
      cases depth with
      | zero => cases h
      | succ depth =>
        dsimp only at h
        split at h
        · cases h
          exact Keyed.nil.isProper
        obtain ⟨⟨draft, end_⟩, hpairs, h⟩ := Option.map_eq_some_iff.1 h
        cases h
        exact (yields_readPairs (ih depth depth.lt_succ_self) _ .nil hpairs).values.isProper
    case h_3 =>
      cases h
      exact .boolean true
    case h_4 =>
      cases h
      exact .boolean false
    case h_5 =>
      split at h
      · obtain ⟨⟨s, end_⟩, -, h⟩ := Option.map_eq_some_iff.1 h
        cases h
        exact .string s
      · obtain ⟨⟨n, end_⟩, -, h⟩ := Option.map_eq_some_iff.1 h
        cases h
        cases n with
        | integer n => exact .integer n
        | float x => exact .float x
        | dateTime d => exact .dateTime d
    case h_6 => cases h

/-! ## Documents -/

theorem isProper_readHeader {doc doc' : Reading} {cs rest : List Char} (hdoc : doc.root.IsProper)
    (h : readHeader doc cs = some (doc', rest)) : doc'.root.IsProper := by
  obtain ⟨⟨path, cs⟩, -, h⟩ := Option.bind_eq_some_iff.1 h
  obtain ⟨⟨_, cs⟩, -, h⟩ := Option.bind_eq_some_iff.1 h
  dsimp only at h
  split at h
  all_goals
    simp only [Bool.false_eq_true, reduceIte] at h
    obtain ⟨_, -, h⟩ := Option.bind_eq_some_iff.1 h
    obtain ⟨_, -, h⟩ := Option.bind_eq_some_iff.1 h
    obtain ⟨key, -, h⟩ := Option.bind_eq_some_iff.1 h
    obtain ⟨root, hroot, h⟩ := Option.bind_eq_some_iff.1 h
    cases h
    refine keeps_editAt ?_ _ hdoc hroot
  · exact keeps_openElement key
  · exact keeps_openTable key

theorem isProper_readEntry {doc doc' : Reading} {cs rest : List Char} (hdoc : doc.root.IsProper)
    (h : readEntry doc cs = some (doc', rest)) : doc'.root.IsProper := by
  obtain ⟨⟨⟨path, v⟩, cs⟩, hpair, h⟩ := Option.bind_eq_some_iff.1 h
  obtain ⟨cs, -, h⟩ := Option.bind_eq_some_iff.1 h
  obtain ⟨root, hroot, h⟩ := Option.bind_eq_some_iff.1 h
  cases h
  have hv : v.IsProper := yields_readPair (yields_readValue _) hpair
  exact keeps_editAt (keeps_addEntry hv) doc.header hdoc hroot

theorem isProper_readLines (fuel : Nat) : ∀ {doc doc' : Reading} {cs : List Char},
    doc.root.IsProper → readLines fuel doc cs = some doc' → doc'.root.IsProper := by
  induction fuel with
  | zero => exact fun _ h => nomatch h
  | succ fuel ih =>
    intro doc doc' cs hdoc h
    rw [readLines] at h
    split at h
    case h_1 =>
      cases h
      exact hdoc
    case h_2 =>
      obtain ⟨rest, -, h⟩ := Option.bind_eq_some_iff.1 h
      exact ih hdoc h
    case h_3 =>
      obtain ⟨⟨read, rest⟩, hread, h⟩ := Option.bind_eq_some_iff.1 h
      exact ih (isProper_readHeader hdoc hread) h
    case h_4 =>
      split at h
      · exact ih hdoc h
      · obtain ⟨⟨read, rest⟩, hread, h⟩ := Option.bind_eq_some_iff.1 h
        exact ih (isProper_readEntry hdoc hread) h

/-- Every document is a table with distinct keys, at every depth. -/
theorem properTable_of_parse? {text : String} {table : Table} (h : parse? text = some table) :
    IsProperTable table := by
  obtain ⟨doc, hdoc, rfl⟩ := Option.map_eq_some_iff.1 h
  have hstart : Draft.IsProper (.defined, []) := .nil
  exact (isProper_readLines _ hstart hdoc).values

end SceneFactory.Toml
