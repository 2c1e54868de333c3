import SceneFactory.Proofs.CommandLine.Opening
import SceneFactory.Proofs.Creation.Order

/-!
# How the program ends

Single requests and batches come to an exit code along different paths. Both make one request for
the template, and then put what they construct behind the children of a fresh container. So there
are four ways to end once the settings are there (`CommandLine.Ending`), and before that a file
that cannot be used ends the program with a line that begins with `Error`.

Main statement: `CommandLine.program_outcome`.
-/

set_option autoImplicit false

namespace SceneFactory

/-! ## Pictures and references -/

/-- What nobody refers to is in no picture. -/
theorem Scene.dump_forgetUnheld {ε : Type} (scene : Scene ε) (referred : List InstanceId)
    (c : ContainerId) : (scene.forgetUnheld referred).dump c = scene.dump c := by
  have hsame : (scene.forgetUnheld referred).container? c = scene.container? c := by
    rw [container?, containers_forgetUnheld]
    rfl
  rw [dump, dump, hsame]
  cases hc : scene.container? c with
  | none => rfl
  | some container =>
    refine congrArg (fun lines => container.name ++ "\n" ++ String.join lines)
      (List.map_congr_left ?_)
    intro i hmem
    cases hi : scene.instance? i with
    | none =>
      rw [forgetUnheld, instance?_foldl_forget, hi, Option.map_none, ite_self]
    | some inst =>
      rcases scene.instance?_forgetUnheld referred hi with ⟨heq, -⟩ | ⟨-, hnot⟩
      · rw [heq]
      · -- a child is referred to by its container
        exact absurd (.inr ⟨c, by rwa [scene.children_of_container? hc]⟩) hnot

namespace Session

variable {H : Host} {s : Session H} {factory : Factory H} {container? : Option ContainerId}
  {identifier : String} {next : Workshop H}

/-- Of a creation the session holds the instance, if there is one. -/
theorem perform_create (hf : s.factory? = some factory) {contextual direct : Attributes}
    {ownership : Ownership} {result : Except FactoryError InstanceId}
    (h : Workshop.create ⟨factory, s.world⟩ container? identifier contextual direct ownership =
      (result, next)) :
    s.perform (.create container? identifier contextual direct ownership) =
      (.created result, ((s.withShop next).hold result.toOption.toList).settle) := by
  simp only [perform, carryOut, atWork, hf, h]
  cases result with
  | ok i => rfl
  | error e =>
    have hnone : (s.withShop next).hold [] = s.withShop next := by simp [hold, withShop]
    exact congrArg (fun held => (Outcome.created (.error e), Session.settle held)) hnone.symm

/-- Of a batch the session holds all instances. -/
theorem perform_createMany (hf : s.factory? = some factory) {key : String} {values : List Value}
    {base : Attributes} {ownership : Ownership} {ids : List InstanceId}
    (h : Workshop.createMany ⟨factory, s.world⟩ key values container? identifier base ownership =
      (ids, next)) :
    s.perform (.createMany key values container? identifier base ownership) =
      (.createdMany ids, ((s.withShop next).hold ids).settle) := by
  simp only [perform, carryOut, atWork, hf, h]
  rfl

end Session

/-- What an attribute file asks for, as single creations: one, or one for each value of a batch,
in order. -/
def AttributeFile.oneByOne {H : Host} (attributes : AttributeFile) (container : ContainerId)
    (template : String) (shop : Workshop H) : List (Except FactoryError InstanceId) × Workshop H :=
  match attributes.batch with
  | none =>
    let (result, next) := shop.create (some container) template attributes.context
      attributes.direct .delegated
    ([result], next)
  | some batch =>
    Workshop.createEach container template batch.key attributes.direct .delegated batch.values shop

/-- Whether an attribute file asks for an instance at all. -/
def AttributeFile.IsAsking (attributes : AttributeFile) : Prop :=
  ∀ batch, attributes.batch = some batch → batch.values ≠ []

namespace CommandLine

/-! ## Creating -/

/-- What the program says of a single creation. -/
def complaint : Except FactoryError InstanceId → String
  | .ok _ => ""
  | .error e => "Error: " ++ e.message ++ "\n"

/-- What the program says of a batch: how many instances were created, if there are fewer than
values. -/
def shortfall (created asked : Nat) : String :=
  if created < asked then
    "Warning: created " ++ toString created ++ " of " ++ toString asked ++ " instances\n"
  else ""

section Instantiate

variable {config : Config} {attributes : AttributeFile} {template : String}
  {files : Files.Reader} {next : Workshop studio}

/-- A single creation by the program. -/
theorem createAll_single (hbatch : attributes.batch = none)
    {result : Except FactoryError InstanceId}
    (h : (openShop config files).create (some 1) template attributes.context attributes.direct
      .delegated = (result, next)) :
    createAll (opened config files) 1 template attributes =
      (⟨complaint result, !result.toOption.toList.isEmpty⟩,
        (((opened config files).withShop next).hold result.toOption.toList).settle) := by
  have hcreated := Session.perform_create (s := opened config files) rfl h
  simp only [createAll, hbatch]
  rw [hcreated]
  cases result <;> rfl

/-- A batch by the program. -/
theorem createAll_batch {batch : BatchSpec} (hbatch : attributes.batch = some batch)
    {ids : List InstanceId}
    (h : (openShop config files).createMany batch.key batch.values (some 1) template
      attributes.direct .delegated = (ids, next)) :
    createAll (opened config files) 1 template attributes =
      (⟨shortfall ids.length batch.values.length, !ids.isEmpty⟩,
        (((opened config files).withShop next).hold ids).settle) := by
  have hcreated := Session.perform_createMany (s := opened config files) rfl h
  simp only [createAll, hbatch]
  rw [hcreated]
  rfl

/-- What the program shows: nothing if a syntax error cannot be shown, else the container if
it has children. -/
theorem instantiate_of_createAll {errors : String} {ids : List InstanceId}
    (h : createAll (opened config files) 1 template attributes = (⟨errors, !ids.isEmpty⟩,
      (((opened config files).withShop next).hold ids).settle)) :
    instantiate config attributes template files =
      if next.world.state.markup.unreported ≠ [] then ⟨101, "", ""⟩
      else if ids ≠ [] then ⟨0, next.world.scene.dump 1, errors⟩
      else ⟨1, "", errors⟩ := by
  have hpicture : (((opened config files).withShop next).hold ids).settle.world.scene.dump 1 =
      next.world.scene.dump 1 := Scene.dump_forgetUnheld _ _ _
  have hstate : (((opened config files).withShop next).hold ids).settle.world.state =
      next.world.state := rfl
  simp only [instantiate]
  rw [perform_openSession]
  dsimp only
  rw [h]
  dsimp only
  rw [hpicture, hstate]
  cases next.world.state.markup.unreported <;> cases ids <;> rfl

/-- What creating leaves: the container has the instances that were created, and there is a syntax
error that cannot be shown iff one was come upon. -/
structure Leaves (config : Config) (files : Files.Reader) (template : String)
    (ids : List InstanceId) (next : Workshop studio) : Prop where
  unreported : next.world.state.markup.unreported ≠ [] ↔
    config.Awaits ∧ BreaksOff config files template
  root : next.world.scene.container? 1 = some ⟨"root", none, none, ids, true⟩
  consistent : next.world.scene.IsConsistent

/-- What the request for the template leaves. -/
theorem leaves_of_readyTemplate {result : Except FactoryError (TemplateHandle studio.Template)}
    (h : (openShop config files).readyTemplate (some 1) template = (result, next)) :
    Leaves config files template [] next ∧
      ∀ handle, result = .ok handle → studio.IsPlain handle.template := by
  obtain ⟨result', next', heq, hunreported, hok⟩ := readyTemplate_openShop config files template
  cases h.symm.trans heq
  obtain ⟨hscene, -⟩ := (openShop config files).readyTemplate_frame (some 1) template
  rw [h] at hscene
  have hsame : next.world.scene = (openShop config files).world.scene := hscene
  refine ⟨⟨hunreported, ?_, ?_⟩, fun handle hhandle => (hok handle hhandle).1⟩
  · rw [hsame]
    exact container?_openShop config files
  · rw [hsame]
    exact isConsistent_openShop config files

/-- What a construction leaves behind others. -/
theorem Leaves.construct {ids : List InstanceId} (h : Leaves config files template ids next)
    {handle : TemplateHandle studio.Template} (hplain : studio.IsPlain handle.template)
    (contextual direct : Attributes) (ownership : Ownership) :
    let made := next.construct handle 1 contextual direct ownership
    Leaves config files template (ids ++ made.1.toOption.toList) made.2 where
  unreported := by
    rw [Workshop.world_construct, World.state_construct _ _ _ _ _ _ hplain]
    exact h.unreported
  root := Workshop.container?_construct h.consistent h.root handle contextual direct ownership
  consistent := h.consistent.changes (next.changes_construct handle 1 contextual direct ownership)

/-- What a batch of constructions leaves behind others. -/
theorem Leaves.constructEach {ids : List InstanceId} (h : Leaves config files template ids next)
    {handle : TemplateHandle studio.Template} (hplain : studio.IsPlain handle.template)
    (key : String) (base : Attributes) (ownership : Ownership) (values : List Value) :
    let made := Workshop.constructEach handle 1 key base ownership values next
    Leaves config files template (ids ++ made.1) made.2 where
  unreported := by
    have hstate : (Workshop.constructEach handle 1 key base ownership values next).2.world.state =
        next.world.state := by
      -- a plain template leaves the engine, and what it could not report, as they are
      refine Workshop.constructEach_induction
        (P := fun shop => shop.world.state = next.world.state) ?_ values rfl
      intro shop direct hshop
      rw [Workshop.world_construct, World.state_construct _ _ _ _ _ _ hplain]
      exact hshop
    rw [hstate]
    exact h.unreported
  root := Workshop.container?_constructEach h.consistent h.root key base ownership values
  consistent := h.consistent.changes (next.changes_constructEach handle 1 key base ownership values)

variable (config files template)

/-- What a single creation comes to. -/
theorem create_openShop (contextual direct : Attributes) :
    ∃ result next, (openShop config files).create (some 1) template contextual direct .delegated =
        (result, next) ∧ Leaves config files template result.toOption.toList next := by
  have hflush : (openShop config files).flush.2 = openShop config files := rfl
  cases hready : (openShop config files).readyTemplate (some 1) template with
  | mk result next =>
    obtain ⟨hleaves, hplain⟩ := leaves_of_readyTemplate hready
    simp only [Workshop.create]
    rw [hflush, hready]
    cases result with
    | error e => exact ⟨_, _, rfl, hleaves⟩
    | ok handle => exact ⟨_, _, rfl, hleaves.construct (hplain handle rfl) _ _ _⟩

/-- What a batch comes to: nothing, or what the single creations come to. -/
theorem createMany_openShop (key : String) (base : Attributes) {values : List Value}
    (hv : values ≠ []) :
    let single := Workshop.createEach 1 template key base .delegated values
      (openShop config files)
    ∃ ids next, (openShop config files).createMany key values (some 1) template base .delegated =
        (ids, next) ∧ Leaves config files template ids next ∧
      (ids ≠ [] → ids = Workshop.successes single.1 ∧ next = single.2) := by
  intro single
  let shop := openShop config files
  have hflush : shop.flush.2 = shop := rfl
  cases hready : shop.flush.2.readyTemplate (some 1) template with
  | mk result next =>
    obtain ⟨hleaves, hplain⟩ := leaves_of_readyTemplate hready
    cases result with
    | error e =>
      exact ⟨[], next, shop.createMany_of_error hready key hv base .delegated, hleaves,
        fun hne => absurd rfl hne⟩
    | ok handle =>
      have hne : ¬values.isEmpty = true := by simpa using hv
      have hmany : shop.createMany key values (some 1) template base .delegated =
          Workshop.constructEach handle 1 key base .delegated values next := by
        simp only [Workshop.createMany]
        rw [if_neg hne, hready]
      have hfiled : shop.factory.cache.IsFiled := by
        intro uri handle hget
        cases hget
      -- single creations ask for the template each time, and find it as ready as the batch has
      have hstays := (shop.flush.2.ready_of_readyTemplate hready).2
      have heach := Workshop.constructEach_eq_createEach key base .delegated
        (shop.isSetFor_of_readyTemplate hfiled hready) fun done _ _ (_ : values = _) =>
          (Workshop.status_constructEach Studio.keepsStatus next handle 1 key base .delegated done
            handle.template).trans hstays
      have hsame := shop.createEach_of_readyTemplate hfiled hready key base .delegated hv
      refine ⟨_, _, hmany, hleaves.constructEach (hplain handle rfl) key base .delegated values,
        fun _ => ?_⟩
      rw [heach, ← hsame]
      exact ⟨rfl, rfl⟩

end Instantiate

/-! ## Endings -/

/-- A line that explains a failure. -/
def Explains (errors : String) : Prop :=
  Text.begins errors "Error" = true ∨ Text.begins errors "Warning:" = true

theorem begins_append (beginning rest : String) :
    Text.begins (beginning ++ rest) beginning = true := by
  rw [Text.begins, String.toList_append, List.isPrefixOf_iff_prefix]
  exact List.prefix_append _ _

theorem explains_error (rest : String) : Explains ("Error" ++ rest) :=
  .inl (begins_append "Error" rest)

theorem explains_complaint (e : FactoryError) : Explains (complaint (.error e)) := by
  have hword : "Error: " = "Error" ++ ": " := rfl
  rw [complaint, hword]
  simp only [String.append_assoc]
  exact explains_error _

theorem explains_shortfall {asked : Nat} (h : 0 < asked) : Explains (shortfall 0 asked) := by
  have hword : "Warning: created " = "Warning:" ++ " created " := rfl
  rw [shortfall, if_pos h, hword]
  simp only [String.append_assoc]
  exact .inr (begins_append "Warning:" _)

/-- What the program writes beside the picture of so many instances. -/
def warning (attributes : AttributeFile) (created : Nat) : String :=
  match attributes.batch with
  | some batch => shortfall created batch.values.length
  | none => ""

/-- How the program can end once the settings and the attributes are there. -/
inductive Ending (config : Config) (attributes : AttributeFile) (template : String)
    (files : Files.Reader) : Result → Prop where
  /-- A batch without values is nothing to do, and nothing is said. -/
  | silent (asks : ¬attributes.IsAsking) : Ending config attributes template files ⟨1, "", ""⟩
  /-- A syntax error that cannot be shown breaks the program off. -/
  | broken (asks : attributes.IsAsking)
      (breaks : config.Awaits ∧ BreaksOff config files template) :
      Ending config attributes template files ⟨101, "", ""⟩
  /-- Nothing is created, and it is said why. -/
  | failed (asks : attributes.IsAsking)
      (breaks : ¬(config.Awaits ∧ BreaksOff config files template)) {errors : String}
      (explains : Explains errors) : Ending config attributes template files ⟨1, "", errors⟩
  /-- What was created is shown. -/
  | shown (asks : attributes.IsAsking)
      (breaks : ¬(config.Awaits ∧ BreaksOff config files template))
      {results : List (Except FactoryError InstanceId)} {next : Workshop studio}
      (made : attributes.oneByOne 1 template (openShop config files) = (results, next))
      (any : Workshop.successes results ≠ [])
      (leaves : Leaves config files template (Workshop.successes results) next) :
      Ending config attributes template files ⟨0, next.world.scene.dump 1,
        warning attributes (Workshop.successes results).length⟩

variable (config : Config) (attributes : AttributeFile) (template : String) (files : Files.Reader)

/-- What creating comes to if an instance is asked for. -/
theorem createAll_cases (hasks : attributes.IsAsking) :
    ∃ errors ids next, createAll (opened config files) 1 template attributes =
        (⟨errors, !ids.isEmpty⟩, (((opened config files).withShop next).hold ids).settle) ∧
      Leaves config files template ids next ∧ (ids = [] → Explains errors) ∧
      (ids ≠ [] → ∃ results, attributes.oneByOne 1 template (openShop config files) =
        (results, next) ∧ Workshop.successes results = ids ∧
          errors = warning attributes ids.length) := by
  cases hbatch : attributes.batch with
  | none =>
    obtain ⟨result, next, hcreate, hleaves⟩ :=
      create_openShop config template files attributes.context attributes.direct
    refine ⟨_, _, _, createAll_single hbatch hcreate, hleaves, ?_, ?_⟩
    · intro hnone
      cases result with
      | ok i => cases hnone
      | error e => exact explains_complaint e
    · intro hany
      cases result with
      | error e => exact absurd rfl hany
      | ok i =>
        refine ⟨[.ok i], ?_, rfl, ?_⟩
        · simp only [AttributeFile.oneByOne, hbatch]
          rw [hcreate]
        · rw [warning, hbatch]
          rfl
  | some batch =>
    obtain ⟨ids, next, hcreate, hleaves, hsame⟩ :=
      createMany_openShop config template files batch.key attributes.direct (hasks batch hbatch)
    refine ⟨_, _, _, createAll_batch hbatch hcreate, hleaves, ?_, ?_⟩
    · rintro rfl
      exact explains_shortfall (List.length_pos_of_ne_nil (hasks batch hbatch))
    · intro hany
      obtain ⟨hids, hnext⟩ := hsame hany
      refine ⟨_, ?_, hids.symm, ?_⟩
      · simp only [AttributeFile.oneByOne, hbatch]
        rw [hnext]
      · rw [warning, hbatch]

/-- The program ends in one of these ways. -/
theorem ending_instantiate :
    Ending config attributes template files (instantiate config attributes template files) := by
  by_cases hasks : attributes.IsAsking
  · obtain ⟨errors, ids, next, hall, hleaves, hnone, hany⟩ :=
      createAll_cases config attributes template files hasks
    rw [instantiate_of_createAll hall]
    by_cases hbreaks : config.Awaits ∧ BreaksOff config files template
    · rw [if_pos (hleaves.unreported.2 hbreaks)]
      exact .broken hasks hbreaks
    · rw [if_neg (mt hleaves.unreported.1 hbreaks)]
      by_cases hids : ids = []
      · rw [if_neg (not_not.2 hids)]
        exact .failed hasks hbreaks (hnone hids)
      · obtain ⟨results, hmade, rfl, rfl⟩ := hany hids
        rw [if_pos hids]
        exact .shown hasks hbreaks hmade hids hleaves
  · have hempty : ∃ batch, attributes.batch = some batch ∧ batch.values = [] := by
      simpa [AttributeFile.IsAsking] using hasks
    obtain ⟨batch, hbatch, hvalues⟩ := hempty
    have hcreate : (openShop config files).createMany batch.key batch.values (some 1) template
        attributes.direct .delegated = ([], openShop config files) := by
      rw [hvalues]
      rfl
    rw [instantiate_of_createAll (createAll_batch hbatch hcreate), hvalues]
    exact .silent hasks

/-! ## Settings -/

/-- What a file holds, if one is named. -/
def loaded {α : Type} (path? : Option String) (otherwise : α)
    (load : Files.Reader → String → Except ConfigError α) (files : Files.Reader) :
    Except ConfigError α :=
  match path? with
  | none => .ok otherwise
  | some path => load files path

/-- What is written about a file that cannot be used. -/
def loadComplaint (what : String) (path? : Option String) (e : ConfigError) : String :=
  "Error loading " ++ what ++ " '" ++ path?.getD "" ++ "': " ++ e.message ++ "\n"

/-- The settings and the attributes that the arguments name, or what is written about the first
file that cannot be used. -/
def Arguments.settings (a : Arguments) (files : Files.Reader) :
    Except String (Config × AttributeFile) :=
  match loaded a.config? ownConfig Config.load files with
  | .error e => .error (loadComplaint "config" a.config? e)
  | .ok config =>
    match loaded a.attrs? default AttributeFile.load files with
    | .error e => .error (loadComplaint "attributes" a.attrs? e)
    | .ok attributes => .ok (a.override config, attributes)

/-- The file behind the template's URI, which is the only one that the engine is given. -/
def sourceFiles : Files.Reader :=
  match Markup.locate? config.roots (Template.resolve config.basePath template) with
  | none => Files.noFiles
  | some path => oneFile path (files path)

/-- The engine is given the source that the whole file system has. -/
theorem breaksOff_sourceFiles :
    BreaksOff config (sourceFiles config template files) template ↔
      BreaksOff config files template := by
  have hsame : ∀ path, Markup.locate? config.roots (Template.resolve config.basePath template) =
      some path → sourceFiles config template files path = files path := by
    intro path hpath
    simp only [sourceFiles, hpath]
    exact if_pos rfl
  constructor
  · rintro ⟨path, source, e, hpath, hread, hrest⟩
    exact ⟨path, source, e, hpath, (hsame path hpath).symm.trans hread, hrest⟩
  · rintro ⟨path, source, e, hpath, hread, hrest⟩
    exact ⟨path, source, e, hpath, (hsame path hpath).trans hread, hrest⟩

theorem run_readTemplate :
    (readTemplate config attributes template).run files =
      instantiate config attributes template (sourceFiles config template files) := by
  rw [readTemplate, sourceFiles]
  cases Markup.locate? config.roots (Template.resolve config.basePath template) <;> rfl

/-- Reading a file goes on with what it holds, or ends the program. -/
theorem run_readFile {α : Type} (what : String) (path? : Option String) (otherwise : α)
    {load : Files.Reader → String → Except ConfigError α}
    (hload : ∀ path, load (oneFile path (files path)) path = load files path)
    (next : α → Program) :
    (readFile what path? otherwise load next).run files =
      match loaded path? otherwise load files with
      | .error e => ⟨1, "", loadComplaint what path? e⟩
      | .ok a => (next a).run files := by
  cases path? with
  | none => rfl
  | some path =>
    simp only [readFile, Program.run, loaded, hload]
    cases load files path <;> rfl

/-- The program reads its settings and instantiates the template. -/
theorem run_programOf {a : Arguments} {template : String} (hgrammar : a.isGrammar = false)
    (htemplate : a.template? = some template) :
    (programOf a).run files =
      match a.settings files with
      | .error errors => ⟨1, "", errors⟩
      | .ok (config, attributes) =>
        instantiate config attributes template (sourceFiles config template files) := by
  have hconfig : ∀ path, Config.load (oneFile path (files path)) path =
      Config.load files path := fun path => by simp [Config.load, oneFile]
  have hattributes : ∀ path, AttributeFile.load (oneFile path (files path)) path =
      AttributeFile.load files path := fun path => by simp [AttributeFile.load, oneFile]
  simp only [programOf, hgrammar, htemplate]
  rw [if_neg Bool.false_ne_true, run_readFile files _ _ _ hconfig, Arguments.settings]
  cases loaded a.config? ownConfig Config.load files with
  | error e => rfl
  | ok config =>
    dsimp only
    rw [run_readFile files _ _ _ hattributes]
    cases loaded a.attrs? default AttributeFile.load files with
    | error e => rfl
    | ok attributes => exact run_readTemplate _ _ _ _

theorem explains_loadComplaint (what : String) (path? : Option String) (e : ConfigError) :
    Explains (loadComplaint what path? e) := by
  have hword : "Error loading " = "Error" ++ " loading " := rfl
  unfold loadComplaint
  rw [hword]
  simp only [String.append_assoc]
  exact explains_error _

theorem explains_of_settings {a : Arguments} {errors : String}
    (h : a.settings files = .error errors) : Explains errors := by
  rw [Arguments.settings] at h
  split at h
  · cases h
    exact explains_loadComplaint _ _ _
  · split at h
    · cases h
      exact explains_loadComplaint _ _ _
    · cases h

/-- What the program comes to with a template, whatever the files hold.

* It ends with code 0, 1 or 101, and with 101 iff the settings are there, an instance is asked
  for, the compile is finished and its source has a syntax error that cannot be shown; then nothing
  is written at all.
* With code 0 there are instances. They are what comes, in order, of creating them one by one;
  they are the children of the container, they are attached to it, and its picture is the output.
  There is a warning with the two counts iff a batch has more values than instances were created.
* With code 1 there is no output, and a line that begins with `Error` or `Warning:` is written,
  except for a batch without values: then the code is 1 and nothing is written. -/
theorem program_outcome (files : Files.Reader) {arguments : List String} {a : Arguments}
    {template : String} (hparse : Arguments.parse arguments = .ok a)
    (hgrammar : a.isGrammar = false) (htemplate : a.template? = some template) :
    let result := (program arguments).run files
    (result.code = 0 ∨ result.code = 1 ∨ result.code = 101) ∧
      (result.code = 101 ↔ ∃ config attributes, a.settings files = .ok (config, attributes) ∧
        attributes.IsAsking ∧ config.Awaits ∧ BreaksOff config files template) ∧
      (result.code = 101 → result.output = "" ∧ result.errors = "") ∧
      (result.code = 0 → ∃ config attributes results next,
        a.settings files = .ok (config, attributes) ∧
          attributes.oneByOne 1 template (openShop config (sourceFiles config template files)) =
            (results, next) ∧
          let ids := Workshop.successes results
          ids ≠ [] ∧
            next.world.scene.container? 1 = some ⟨"root", none, none, ids, true⟩ ∧
            (∀ i ∈ ids, ∃ inst, next.world.scene.instance? i = some inst ∧
              inst.state = .attached ∧ inst.parent? = some 1) ∧
            result.output = next.world.scene.dump 1 ∧
            result.errors = match attributes.batch with
              | some batch =>
                if ids.length < batch.values.length then
                  "Warning: created " ++ toString ids.length ++ " of " ++
                    toString batch.values.length ++ " instances\n"
                else ""
              | none => "") ∧
      (result.code = 1 → result.output = "" ∧
        ((Text.begins result.errors "Error" = true ∨
            Text.begins result.errors "Warning:" = true) ↔
          ¬∃ config attributes, a.settings files = .ok (config, attributes) ∧
            ¬attributes.IsAsking)) ∧
      ∀ config attributes, a.settings files = .ok (config, attributes) → ¬attributes.IsAsking →
        result = ⟨1, "", ""⟩ := by
  intro result
  have hrun : result = (programOf a).run files := by
    simp only [result, program, hparse]
  rw [run_programOf files hgrammar htemplate] at hrun
  cases hsettings : a.settings files with
  | error errors =>
    rw [hsettings] at hrun
    have hexplains : Explains errors := explains_of_settings files hsettings
    rw [hrun]
    refine ⟨.inr (.inl rfl), iff_of_false nofun nofun, nofun, nofun, fun _ => ⟨rfl, ?_⟩, nofun⟩
    exact iff_of_true hexplains nofun
  | ok found =>
    obtain ⟨config, attributes⟩ := found
    rw [hsettings] at hrun
    have hending : Ending config attributes template (sourceFiles config template files) result :=
      hrun ▸ ending_instantiate config attributes template (sourceFiles config template files)
    have hbreaksOff := breaksOff_sourceFiles config template files
    clear_value result
    cases hending with
    | silent asks =>
      refine ⟨.inr (.inl rfl), iff_of_false nofun ?_, nofun, nofun, fun _ => ⟨rfl, ?_⟩,
        fun _ _ _ _ => rfl⟩
      · rintro ⟨_, _, ⟨⟩, hasks, -⟩
        exact asks hasks
      · exact iff_of_false (by decide) (not_not.2 ⟨config, attributes, rfl, asks⟩)
    | broken asks breaks =>
      rw [hbreaksOff] at breaks
      refine ⟨.inr (.inr rfl), iff_of_true rfl ⟨config, attributes, rfl, asks, breaks⟩,
        fun _ => ⟨rfl, rfl⟩, nofun, nofun, ?_⟩
      rintro _ _ ⟨⟩ hnot
      exact absurd asks hnot
    | failed asks breaks explains =>
      rw [hbreaksOff] at breaks
      refine ⟨.inr (.inl rfl), iff_of_false nofun ?_, nofun, nofun, fun _ => ⟨rfl, ?_⟩, ?_⟩
      · rintro ⟨_, _, ⟨⟩, -, hbreaks⟩
        exact breaks hbreaks
      · refine iff_of_true explains ?_
        rintro ⟨_, _, ⟨⟩, hnot⟩
        exact hnot asks
      · rintro _ _ ⟨⟩ hnot
        exact absurd asks hnot
    | shown asks breaks made any leaves =>
      rename_i results next
      rw [hbreaksOff] at breaks
      refine ⟨.inl rfl, iff_of_false nofun ?_, nofun, fun _ => ⟨config, attributes, results, next,
        rfl, made, any, leaves.root, ?_, rfl, rfl⟩, nofun, ?_⟩
      · rintro ⟨_, _, ⟨⟩, -, hbreaks⟩
        exact breaks hbreaks
      · intro i hi
        obtain ⟨inst, hinst, hattached, hparent, -⟩ :=
          (leaves.consistent.fits i).of_mem leaves.root hi
        exact ⟨inst, hinst, hattached, hparent⟩
      · rintro _ _ ⟨⟩ hnot
        exact absurd asks hnot

/-- A component and an attribute file. -/
def twoFiles (source attributes : String) : Files.Reader := fun path =>
  if path = "T" then .ok source
  else if path = "a" then .ok attributes
  else .error .notFound

/-- The arguments for the two files. -/
def twoFilesArguments : Arguments := ⟨some "T", none, some "", [], some "a", false, false, false⟩

theorem program_outcome_of_two_values :
    let files := twoFiles "item T \x7b \x7d" "[batch]\nkey='n'\nvalues=[true,false]\n"
    let result := (program ["-b", "", "-a", "a", "T"]).run files
    Arguments.parse ["-b", "", "-a", "a", "T"] = .ok twoFilesArguments ∧
      result = ⟨0, "root\n  T #1 [attached] T\n    n = true\n  T #2 [attached] T\n    n = false\n",
        ""⟩ ∧
      ∃ (results : List (Except FactoryError InstanceId)) (next : Workshop studio),
        Workshop.successes results ≠ [] ∧
          next.world.scene.container? 1 =
            some ⟨"root", none, none, Workshop.successes results, true⟩ ∧
          result.output = next.world.scene.dump 1 := by
  intro files result
  have hparse : Arguments.parse ["-b", "", "-a", "a", "T"] = .ok twoFilesArguments := by
    decide +kernel
  have hresult : result =
      ⟨0, "root\n  T #1 [attached] T\n    n = true\n  T #2 [attached] T\n    n = false\n", ""⟩ := by
    decide +kernel
  obtain ⟨-, -, -, hshown, -⟩ := program_outcome files hparse rfl rfl
  obtain ⟨_, _, results, next, -, -, hany, hroot, -, hpicture, -⟩ :=
    hshown (congrArg Result.code hresult)
  exact ⟨hparse, hresult, results, next, hany, hroot, hpicture⟩

/-- Two failures that are not explained: a batch without values, and an open brace with a blank
behind it. -/
theorem unexplained_failures :
    Arguments.parse ["-b", "", "-a", "a", "T"] = .ok twoFilesArguments ∧
      (program ["-b", "", "-a", "a", "T"]).run
        (twoFiles "item T \x7b \x7d" "[batch]\nkey='n'\nvalues=[]\n") = ⟨1, "", ""⟩ ∧
      (program ["-b", "", "-a", "a", "T"]).run (twoFiles "item A \x7b " "") = ⟨101, "", ""⟩ := by
  decide +kernel

end CommandLine

end SceneFactory
