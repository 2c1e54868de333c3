import Mathlib
import SceneFactory.Config
import SceneFactory.Proofs.Construction.Writes
import SceneFactory.Proofs.Toml.Keys

/-!
# Two readings of a document's values

Attributes come from a document in two ways. The direct conversion goes kind by kind. The reading
of attribute files tries the kinds of values one after the other on what the document presents,
and at no value does an earlier kind take what belongs to a later one: the two agree
(`agree_read?`), by induction over arrays and tables.

They differ in one place. A date is its text for the direct conversion, and a map with the marked
key for the other reading. `Agree` states the agreement with the difference, and its constructors
are the kinds of a document's values. Two values that agree are equal exactly if no date stands in
the document's value at any depth (`Agree.eq_iff`). For a table the readings have the same names in
the same order (`readings_agree`), and so for the sections of a file
(`AttributeFile.agreeEntries_of_parse`).
-/

set_option autoImplicit false

namespace SceneFactory

/-! ## Agreement -/

mutual

/-- What the direct conversion (second) and the reading kind after kind (third) make of a
document's value: values of its kind and with its content. Only a date comes to different values. -/
inductive Agree : Toml.Value → Value → Value → Prop
  | string (s : String) : Agree (.string s) (.string s) (.string s)
  | integer (n : Int64) : Agree (.integer n) (.int n) (.int n)
  | float (x : Binary64) : Agree (.float x) (.float x) (.float x)
  | boolean (b : Bool) : Agree (.boolean b) (.bool b) (.bool b)
  | dateTime (d : Toml.DateTime) :
    Agree (.dateTime d) (.string d.text) (.map [(Toml.dateTimeKey, .string d.text)])
  | array {items : List Toml.Value} {vs ws : List Value} (h : AgreeItems items vs ws) :
    Agree (.array items) (.list vs) (.list ws)
  | tables {elements : List Toml.Value} {vs ws : List Value} (h : AgreeItems elements vs ws) :
    Agree (.tables elements) (.list vs) (.list ws)
  | table {entries : Toml.Table} {vs ws : List (String × Value)} (h : AgreeEntries entries vs ws) :
    Agree (.table entries) (.map vs) (.map ws)

/-- Agreement item by item. -/
inductive AgreeItems : List Toml.Value → List Value → List Value → Prop
  | nil : AgreeItems [] [] []
  | cons {item : Toml.Value} {v w : Value} {items : List Toml.Value} {vs ws : List Value}
    (h : Agree item v w) (hs : AgreeItems items vs ws) :
    AgreeItems (item :: items) (v :: vs) (w :: ws)

/-- Agreement entry by entry, each under its own key. -/
inductive AgreeEntries : Toml.Table → List (String × Value) → List (String × Value) → Prop
  | nil : AgreeEntries [] [] []
  | cons (key : String) {item : Toml.Value} {v w : Value} {entries : Toml.Table}
    {vs ws : List (String × Value)} (h : Agree item v w) (hs : AgreeEntries entries vs ws) :
    AgreeEntries ((key, item) :: entries) ((key, v) :: vs) ((key, w) :: ws)

end

/-- Values of a document in which a date stands, at any depth. -/
inductive HasDate : Toml.Value → Prop
  | here (d : Toml.DateTime) : HasDate (.dateTime d)
  | array {items : List Toml.Value} {v : Toml.Value} (hmem : v ∈ items) (h : HasDate v) :
    HasDate (.array items)
  | tables {elements : List Toml.Value} {v : Toml.Value} (hmem : v ∈ elements) (h : HasDate v) :
    HasDate (.tables elements)
  | table {entries : Toml.Table} {e : String × Toml.Value} (hmem : e ∈ entries)
    (h : HasDate e.2) : HasDate (.table entries)

namespace HasDate

theorem array_iff {items : List Toml.Value} :
    HasDate (.array items) ↔ ∃ v ∈ items, HasDate v :=
  ⟨fun | .array hmem h => ⟨_, hmem, h⟩, fun ⟨_, hmem, h⟩ => .array hmem h⟩

theorem tables_iff {elements : List Toml.Value} :
    HasDate (.tables elements) ↔ ∃ v ∈ elements, HasDate v :=
  ⟨fun | .tables hmem h => ⟨_, hmem, h⟩, fun ⟨_, hmem, h⟩ => .tables hmem h⟩

theorem table_iff {entries : Toml.Table} : HasDate (.table entries) ↔ ∃ e ∈ entries, HasDate e.2 :=
  ⟨fun | .table hmem h => ⟨_, hmem, h⟩, fun ⟨_, hmem, h⟩ => .table hmem h⟩

end HasDate

theorem AgreeEntries.keys {entries : Toml.Table} {vs ws : List (String × Value)}
    (h : AgreeEntries entries vs ws) :
    vs.map Prod.fst = entries.map Prod.fst ∧ ws.map Prod.fst = entries.map Prod.fst := by
  induction entries generalizing vs ws with
  | nil =>
    cases h
    exact ⟨rfl, rfl⟩
  | cons e entries ih =>
    obtain _ | ⟨key, -, hs⟩ := h
    simp [ih hs]

mutual

/-- The two readings of a value are equal exactly if no date stands in it. -/
theorem Agree.eq_iff : ∀ {item : Toml.Value} {v w : Value}, Agree item v w →
    (v = w ↔ ¬HasDate item)
  | _, _, _, .string _ => iff_of_true rfl (fun h => nomatch h)
  | _, _, _, .integer _ => iff_of_true rfl (fun h => nomatch h)
  | _, _, _, .float _ => iff_of_true rfl (fun h => nomatch h)
  | _, _, _, .boolean _ => iff_of_true rfl (fun h => nomatch h)
  | _, _, _, .dateTime d => iff_of_false (fun h => nomatch h) (fun hnone => hnone (.here d))
  | _, _, _, .array h => by
    rw [Value.list.injEq, h.eq_iff, HasDate.array_iff]
    simp only [not_exists, not_and]
  | _, _, _, .tables h => by
    rw [Value.list.injEq, h.eq_iff, HasDate.tables_iff]
    simp only [not_exists, not_and]
  | _, _, _, .table h => by
    rw [Value.map.injEq, h.eq_iff, HasDate.table_iff]
    simp only [not_exists, not_and]

theorem AgreeItems.eq_iff : ∀ {items : List Toml.Value} {vs ws : List Value},
    AgreeItems items vs ws → (vs = ws ↔ ∀ item ∈ items, ¬HasDate item)
  | _, _, _, .nil => by simp
  | _, _, _, .cons h hs => by rw [List.cons.injEq, h.eq_iff, hs.eq_iff, List.forall_mem_cons]

theorem AgreeEntries.eq_iff : ∀ {entries : Toml.Table} {vs ws : List (String × Value)},
    AgreeEntries entries vs ws → (vs = ws ↔ ∀ e ∈ entries, ¬HasDate e.2)
  | _, _, _, .nil => by simp
  | _, _, _, .cons key h hs => by
    rw [List.cons.injEq, Prod.mk.injEq, h.eq_iff, hs.eq_iff, List.forall_mem_cons]
    simp

end

/-! ## One kind after the other -/

namespace Value

/-- An integer of 64 bits is not left to the floats. -/
theorem read?_integer (n : Int64) : read? (.integer n.toInt) = some (.int n) := by
  have hrange : -9223372036854775808 ≤ n.toInt ∧ n.toInt ≤ 9223372036854775807 :=
    ⟨n.le_toInt, Int.le_of_lt_add_one n.toInt_lt⟩
  simp [read?, null?, bool?, integer?, hrange]

theorem read?_float (x : Binary64) : read? (.float x) = some (.float x) := by
  simp [read?, null?, bool?, integer?, float?]

theorem read?_sequence (items : List Content) :
    read? (.sequence items) = (readItems? items).map .list := by
  simp [read?, null?, bool?, integer?, float?, text?]

theorem read?_mapping (entries : List (String × Content)) :
    read? (.mapping entries) = (readEntries? entries).map Value.ofEntries := by
  simp [read?, null?, bool?, integer?, float?, text?]

end Value

mutual

/-- The reading kind after kind agrees with the direct conversion, at every depth. -/
theorem agree_read? : ∀ {item : Toml.Value}, item.IsProper →
    ∃ w, Value.read? (Content.ofToml item) = some w ∧ Agree item (Value.ofToml item) w
  | .string s, _ => ⟨.string s, rfl, .string s⟩
  | .integer n, _ => ⟨.int n, Value.read?_integer n, .integer n⟩
  | .float x, _ => ⟨.float x, Value.read?_float x, .float x⟩
  | .boolean b, _ => ⟨.bool b, rfl, .boolean b⟩
  | .dateTime d, _ => ⟨_, Value.read?_mapping _, .dateTime d⟩
  | .array items, .array hitems => by
    obtain ⟨ws, hread, hagree⟩ := agree_readItems? hitems
    refine ⟨.list ws, ?_, .array hagree⟩
    rw [Content.ofToml, Value.read?_sequence, hread, Option.map_some]
  | .tables elements, .tables helements => by
    obtain ⟨ws, hread, hagree⟩ := agree_readItems? helements
    refine ⟨.list ws, ?_, .tables hagree⟩
    rw [Content.ofToml, Value.read?_sequence, hread, Option.map_some]
  | .table entries, .table hkeys hvalues => by
    obtain ⟨ws, hread, hagree⟩ := agree_readEntries? hvalues
    refine ⟨.map ws, ?_, .table hagree⟩
    -- no entry is written over another, since the keys are those of the table
    have hnodup : (ws.map Prod.fst).Nodup := hagree.keys.2 ▸ hkeys
    rw [Content.ofToml, Value.read?_mapping, hread, Option.map_some, Value.ofEntries,
      Assoc.entries_ofList hnodup]

theorem agree_readItems? : ∀ {items : List Toml.Value}, (∀ item ∈ items, item.IsProper) →
    ∃ ws, Value.readItems? (Content.itemsOfToml items) = some ws ∧
      AgreeItems items (Value.itemsOfToml items) ws
  | [], _ => ⟨[], rfl, .nil⟩
  | item :: items, h => by
    obtain ⟨hitem, hitems⟩ := List.forall_mem_cons.1 h
    obtain ⟨w, hw, hagree⟩ := agree_read? hitem
    obtain ⟨ws, hws, hagrees⟩ := agree_readItems? hitems
    refine ⟨w :: ws, ?_, .cons hagree hagrees⟩
    simp [Content.itemsOfToml, Value.readItems?, hw, hws]

theorem agree_readEntries? : ∀ {entries : Toml.Table}, (∀ e ∈ entries, e.2.IsProper) →
    ∃ ws, Value.readEntries? (Content.entriesOfToml entries) = some ws ∧
      AgreeEntries entries (Value.entriesOfToml entries) ws
  | [], _ => ⟨[], rfl, .nil⟩
  | (key, item) :: entries, h => by
    obtain ⟨hitem, hentries⟩ := List.forall_mem_cons.1 h
    obtain ⟨w, hw, hagree⟩ := agree_read? hitem
    obtain ⟨ws, hws, hagrees⟩ := agree_readEntries? hentries
    refine ⟨(key, w) :: ws, ?_, .cons key hagree hagrees⟩
    simp [Content.entriesOfToml, Value.readEntries?, hw, hws]

end

/-! ## Attributes -/

theorem agree_readAttribute {item : Toml.Value} (h : item.IsProper) :
    Agree item (Value.ofToml item) (readAttribute item) := by
  obtain ⟨w, hread, hagree⟩ := agree_read? h
  rwa [readAttribute, hread]

theorem agreeEntries_readAttribute : ∀ {table : Toml.Table}, (∀ e ∈ table, e.2.IsProper) →
    AgreeEntries table (Value.entriesOfToml table)
      (table.map fun (name, item) => (name, readAttribute item))
  | [], _ => .nil
  | (name, _) :: _, h => by
    obtain ⟨hitem, hrest⟩ := List.forall_mem_cons.1 h
    exact .cons name (agree_readAttribute hitem) (agreeEntries_readAttribute hrest)

/-- A table whose keys are distinct loses no entry in either reading. -/
theorem agreeEntries_of_read {table : Toml.Table} {attributes : Attributes}
    (h : Toml.IsProperTable table) (hread : readAttributes (.table table) = .ok attributes) :
    AgreeEntries table (Attributes.ofToml table).entries attributes.entries := by
  have hagree := agreeEntries_readAttribute h.all
  have hdirect : (Attributes.ofToml table).entries = Value.entriesOfToml table :=
    Assoc.entries_ofList (hagree.keys.1 ▸ h.nodup)
  cases hread
  rw [hdirect, Assoc.entries_ofList (hagree.keys.2 ▸ h.nodup)]
  exact hagree

/-- The two readings of an attribute table agree. For every table with distinct keys, and as
far down as its arrays and tables go: the reading kind after kind succeeds, and an attribute file
takes its result for either of its sections; both readings have the table's names in the table's
order; under each name stand values of the same kind and content but for dates, which are their
text for the direct conversion and a map with the marked key for the other; and so the readings
are equal exactly if the table holds no date at any depth. -/
theorem readings_agree {table : Toml.Table} (h : Toml.IsProperTable table) :
    ∃ attributes : Attributes,
      readAttributes (.table table) = .ok attributes ∧
      (∀ file : AttributeFile,
        file.set "context" (.table table) = .ok { file with context := attributes } ∧
        file.set "direct" (.table table) = .ok { file with direct := attributes }) ∧
      (Attributes.ofToml table).keys = table.map Prod.fst ∧
      attributes.keys = table.map Prod.fst ∧
      AgreeEntries table (Attributes.ofToml table).entries attributes.entries ∧
      (Attributes.ofToml table = attributes ↔ ∀ e ∈ table, ¬HasDate e.2) := by
  obtain ⟨attributes, hread⟩ : ∃ attributes, readAttributes (.table table) = .ok attributes :=
    ⟨_, rfl⟩
  have hagree := agreeEntries_of_read h hread
  refine ⟨attributes, hread, fun file => ⟨?_, ?_⟩, hagree.keys.1, hagree.keys.2, hagree, ?_⟩
  · simp only [AttributeFile.set, hread]
    rfl
  · simp only [AttributeFile.set, hread]
    rfl
  · rw [Assoc.eq_iff, hagree.eq_iff]

/-- A text with numbers of both kinds and, three levels down, a date. -/
def datedText : String :=
  "sizes = [1, inf]\nbox = \x7b name = \"a\", made = [1979-05-27] \x7d"

/-- The table that it spells. -/
def datedTable : Toml.Table :=
  [("sizes", .array [.integer 1, .float (Binary64.infinity false)]),
    ("box", .table [("name", .string "a"), ("made", .array [.dateTime (.date ⟨1979, 5, 27⟩)])])]

theorem readings_agree_datedTable :
    Toml.parse? datedText = some datedTable ∧
      ∃ attributes : Attributes, readAttributes (.table datedTable) = .ok attributes ∧
        AgreeEntries datedTable (Attributes.ofToml datedTable).entries attributes.entries ∧
        Attributes.ofToml datedTable ≠ attributes := by
  have hparse : Toml.parse? datedText = some datedTable := by cbv
  have hproper : Toml.IsProperTable datedTable := Toml.properTable_of_parse? hparse
  obtain ⟨attributes, hread, -, -, -, hagree, hsame⟩ := readings_agree hproper
  refine ⟨hparse, attributes, hread, hagree, fun heq => ?_⟩
  have hdate : HasDate (.array [.dateTime (.date ⟨1979, 5, 27⟩)]) := .array (.head _) (.here _)
  exact hsame.1 heq _ (.tail _ (.head _)) (.table (.tail _ (.head _)) hdate)

/-! ## Attribute files -/

/-- A computation in steps succeeds by the success of each. -/
theorem of_bind_eq_ok {ε α β : Type} {x : Except ε α} {f : α → Except ε β} {b : β}
    (h : x >>= f = .ok b) : ∃ a, x = .ok a ∧ f a = .ok b := by
  cases x with
  | error e => cases h
  | ok a => exact ⟨a, rfl, h⟩

theorem of_mapError_eq_ok {ε ε' α : Type} {x : Except ε α} {f : ε → ε'} {a : α}
    (h : x.mapError f = .ok a) : x = .ok a := by
  cases x with
  | error e => cases h
  | ok a' =>
    cases h
    rfl

namespace AttributeFile

/-- What setting a part of a file can do to its two sections. -/
theorem set_cases {file file' : AttributeFile} {name : String} {v : Toml.Value}
    (h : file.set name v = .ok file') :
    (name = "context" ∧ ∃ attributes, readAttributes v = .ok attributes ∧
      file' = { file with context := attributes }) ∨
    (name = "direct" ∧ ∃ attributes, readAttributes v = .ok attributes ∧
      file' = { file with direct := attributes }) ∨
    (name ≠ "context" ∧ name ≠ "direct" ∧
      file'.context = file.context ∧ file'.direct = file.direct) := by
  unfold set at h
  split at h
  case h_1 =>
    obtain ⟨attributes, hread, h⟩ := of_bind_eq_ok h
    cases h
    exact .inl ⟨rfl, attributes, hread, rfl⟩
  case h_2 =>
    obtain ⟨attributes, hread, h⟩ := of_bind_eq_ok h
    cases h
    exact .inr (.inl ⟨rfl, attributes, hread, rfl⟩)
  case h_3 =>
    obtain ⟨batch, -, h⟩ := of_bind_eq_ok h
    cases h
    exact .inr (.inr ⟨by decide, by decide, rfl, rfl⟩)
  case h_4 hcontext hdirect hbatch =>
    cases h
    exact .inr (.inr ⟨hcontext, hdirect, rfl, rfl⟩)

/-- The part of an attribute file that is read under a name, and under no other. -/
structure IsSection (name : String) (part : AttributeFile → Attributes) : Prop where
  read {file file' : AttributeFile} {v : Toml.Value} :
    file.set name v = .ok file' → readAttributes v = .ok (part file')
  other {file file' : AttributeFile} {name' : String} {v : Toml.Value} :
    name' ≠ name → file.set name' v = .ok file' → part file' = part file

theorem isSection_context : IsSection "context" context where
  read h := by
    obtain ⟨-, attributes, hread, rfl⟩ | ⟨hname, -⟩ | ⟨hname, -⟩ := set_cases h
    · exact hread
    · exact absurd hname (by decide)
    · exact absurd rfl hname
  other hne h := by
    obtain ⟨hname, -⟩ | ⟨-, attributes, -, rfl⟩ | ⟨-, -, hkept, -⟩ := set_cases h
    · exact absurd hname hne
    · rfl
    · exact hkept

theorem isSection_direct : IsSection "direct" direct where
  read h := by
    obtain ⟨hname, -⟩ | ⟨-, attributes, hread, rfl⟩ | ⟨-, hname, -⟩ := set_cases h
    · exact absurd hname (by decide)
    · exact hread
    · exact absurd rfl hname
  other hne h := by
    obtain ⟨-, attributes, -, rfl⟩ | ⟨hname, -⟩ | ⟨-, -, -, hkept⟩ := set_cases h
    · rfl
    · exact absurd hname hne
    · exact hkept

/-- A section of a file is what is read under its name in the document. -/
theorem IsSection.part_of_sets {name : String} {part : AttributeFile → Attributes}
    (hpart : IsSection name part) {document : Toml.Table}
    (hkeys : (document.map Prod.fst).Nodup) {file file' : AttributeFile}
    (h : document.foldlM (fun file (e : String × Toml.Value) => file.set e.1 e.2) file =
      .ok file') :
    (name ∉ document.map Prod.fst → part file' = part file) ∧
      ∀ v, (name, v) ∈ document → readAttributes v = .ok (part file') := by
  induction document generalizing file with
  | nil =>
    cases h
    exact ⟨fun _ => rfl, fun _ h => nomatch h⟩
  | cons e document ih =>
    obtain ⟨name', item⟩ := e
    obtain ⟨hnew, hrest⟩ := List.nodup_cons.1 hkeys
    obtain ⟨next, hset, h⟩ := of_bind_eq_ok h
    obtain ⟨hkept, hread⟩ := ih hrest h
    constructor
    · intro hnone
      rw [List.map_cons, List.mem_cons, not_or] at hnone
      rw [hkept hnone.2]
      exact hpart.other (Ne.symm hnone.1) hset
    · rintro v (_ | hmem)
      -- the name comes once, so what is set under it is kept to the end
      · rw [hkept hnew]
        exact hpart.read hset
      · exact hread v ‹_›

/-- The sections of an attribute file agree with the direct conversion of their tables. -/
theorem agreeEntries_of_parse {text : String} {file : AttributeFile}
    (h : AttributeFile.parse text = .ok file) :
    ∃ document, Toml.parse? text = some document ∧ ∀ table : Toml.Table,
      (("context", .table table) ∈ document →
        AgreeEntries table (Attributes.ofToml table).entries file.context.entries) ∧
      (("direct", .table table) ∈ document →
        AgreeEntries table (Attributes.ofToml table).entries file.direct.entries) := by
  rw [AttributeFile.parse] at h
  split at h
  · cases h
  next document hdocument =>
  have hproper := Toml.properTable_of_parse? hdocument
  have hsets := of_mapError_eq_ok h
  have hcontext := (isSection_context.part_of_sets hproper.nodup hsets).2
  have hdirect := (isSection_direct.part_of_sets hproper.nodup hsets).2
  refine ⟨document, hdocument, fun table => ⟨fun hmem => ?_, fun hmem => ?_⟩⟩
  · exact agreeEntries_of_read (hproper.all _ hmem).keyed (hcontext _ hmem)
  · exact agreeEntries_of_read (hproper.all _ hmem).keyed (hdirect _ hmem)

end AttributeFile

end SceneFactory
