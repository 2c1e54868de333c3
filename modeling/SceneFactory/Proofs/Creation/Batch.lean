import SceneFactory.Proofs.Creation.Failure
import SceneFactory.Proofs.World.Recipe

/-!
# A batch is one creation after the other

A batch obtains its template once and goes around the single creation from then on. As long as
the template stays ready this makes no difference: a creation that finds nothing to release and
a template that is held and ready goes straight to the construction
(`Workshop.create_of_isSetFor`), and each construction leaves the next one in that position
(`Workshop.IsSetFor.construct`).

Main statement: `Session.createMany_eq_createEach`. A batch returns the successes of the single
creations and ends in the very state that they end in; a value that fails leaves no trace for
the others; and a batch that does not obtain its template creates nothing.
-/

set_option autoImplicit false

namespace SceneFactory

variable {H : Host}

namespace Workshop

/-- Creates one instance after the other, each for a value that is one of its direct
attributes. -/
def createEach (container : ContainerId) (identifier key : String) (base : Attributes)
    (ownership : Ownership) :
    List Value → Workshop H → List (Except FactoryError InstanceId) × Workshop H
  | [], shop => ([], shop)
  | value :: rest, shop =>
    let (result, shop) :=
      shop.create (some container) identifier .empty (base.merged key value) ownership
    let (results, shop) := createEach container identifier key base ownership rest shop
    (result :: results, shop)

/-- The instances among some results. -/
def successes (results : List (Except FactoryError InstanceId)) : List InstanceId :=
  results.filterMap Except.toOption

variable (shop : Workshop H) {container : ContainerId} {identifier : String}
  {handle : TemplateHandle H.Template}

/-! ## Where a creation goes straight to the construction -/

/-- Nothing waits for its release, the engine at hand is bound, and the template is held. -/
structure IsSetFor (container : ContainerId) (identifier : String)
    (handle : TemplateHandle H.Template) : Prop where
  pending : shop.factory.tracker.pending = []
  bound : shop.factory.engine?.or
    ((shop.world.scene.container? container).bind Container.engine?) = shop.factory.engine?
  held : shop.factory.cache.get? (shop.factory.resolve identifier) = some handle

/-- A flush has nothing to do where nothing waits. -/
theorem flush_of_pending (h : shop.factory.tracker.pending = []) : shop.flush.2 = shop := by
  obtain ⟨⟨config, engine?, cache, ⟨live, pending, hnodup⟩, rootContext⟩, world⟩ := shop
  subst h
  rfl

/-- The container's engine is not bound a second time. -/
theorem bindFrom_of_bound (h : shop.factory.engine?.or
    ((shop.world.scene.container? container).bind Container.engine?) = shop.factory.engine?) :
    shop.bindFrom (some container) = shop := by
  obtain ⟨⟨config, engine?, cache, tracker, rootContext⟩, world⟩ := shop
  cases engine? with
  | some engine => rfl
  | none =>
    rw [Option.none_or] at h
    simp only [bindFrom, Option.bind_some, h]
    rfl

/-- A creation that finds its template ready is a construction. -/
theorem create_of_isSetFor (h : shop.IsSetFor container identifier handle)
    (hready : H.status handle.template shop.world.state = .ready)
    (contextual direct : Attributes) (ownership : Ownership) :
    shop.create (some container) identifier contextual direct ownership =
      shop.construct handle container contextual direct ownership := by
  have htemplate := shop.readyTemplate_of_ready (some container) h.held hready
  rw [shop.bindFrom_of_bound h.bound] at htemplate
  simp only [create]
  rw [shop.flush_of_pending h.pending, htemplate]

/-- A construction changes nothing of the factory but what is tracked. -/
theorem construct_frame (handle : TemplateHandle H.Template) (container : ContainerId)
    (contextual direct : Attributes) (ownership : Ownership) :
    let next := (shop.construct handle container contextual direct ownership).2
    next.factory.engine? = shop.factory.engine? ∧
      next.factory.cache = shop.factory.cache ∧
      next.factory.tracker.pending = shop.factory.tracker.pending := by
  simp only [construct]
  split
  · exact ⟨rfl, rfl, rfl⟩
  · cases ownership <;> exact ⟨rfl, rfl, rfl⟩

/-- Each construction leaves the next creation where it was itself. -/
theorem IsSetFor.construct {shop : Workshop H} (h : shop.IsSetFor container identifier handle)
    (contextual direct : Attributes) (ownership : Ownership) :
    (shop.construct handle container contextual direct ownership).2.IsSetFor container
      identifier handle := by
  obtain ⟨hengine, hcache, hpending⟩ :=
    shop.construct_frame handle container contextual direct ownership
  refine ⟨hpending.trans h.pending, ?_, ?_⟩
  · rw [hengine, world_construct, shop.world.bind_container?_construct _ _ _ _ _ fun _ _ => rfl]
    exact h.bound
  · rw [Factory.resolve, hcache]
    exact h.held

/-- Once a template was obtained, the creation that asked for it is where a creation goes
straight to the construction. -/
theorem isSetFor_of_readyTemplate {next : Workshop H} (hfiled : shop.factory.cache.IsFiled)
    (h : shop.flush.2.readyTemplate (some container) identifier = (.ok handle, next)) :
    next.IsSetFor container identifier handle := by
  obtain ⟨hscene, -, htracker, -⟩ := shop.flush.2.readyTemplate_frame (some container) identifier
  obtain ⟨hengine, -, hcache, -⟩ :=
    shop.flush.2.readyTemplate_factory hfiled (some container) identifier
  obtain ⟨hheld, -⟩ := shop.flush.2.ready_of_readyTemplate h
  rw [h] at hscene htracker hengine hcache
  rw [engine?_bindFrom] at hengine
  refine ⟨?_, ?_, ?_⟩
  · rw [show next.factory.tracker = _ from htracker]
    rfl
  · rw [show next.factory.engine? = _ from hengine, show next.world.scene = _ from hscene,
      Option.or_assoc]
    exact congrArg _ Option.or_self
  · rw [Factory.resolve, TemplateCache.resolve, show next.factory.cache.basePath = _ from
      hcache.basePath]
    exact hheld

/-! ## The batch -/

/-- From there on, a batch is one creation after the other, if the template stays ready. -/
theorem constructEach_eq_createEach (key : String) (base : Attributes) (ownership : Ownership)
    {values : List Value} {shop : Workshop H} (h : shop.IsSetFor container identifier handle)
    (hready : ∀ done value rest, values = done ++ value :: rest → H.status handle.template
      (constructEach handle container key base ownership done shop).2.world.state = .ready) :
    let single := createEach container identifier key base ownership values shop
    constructEach handle container key base ownership values shop =
      (successes single.1, single.2) := by
  induction values generalizing shop with
  | nil => rfl
  | cons value rest ih =>
    have hfirst := shop.create_of_isSetFor h (hready [] value rest rfl) .empty
      (base.merged key value) ownership
    have hnext := h.construct .empty (base.merged key value) ownership
    rw [constructEach, createEach, hfirst]
    cases hc : shop.construct handle container .empty (base.merged key value) ownership with
    | mk result next =>
      rw [hc] at hnext
      -- the template is as ready as the rest of the batch finds it
      have hrest : ∀ done value' rest', rest = done ++ value' :: rest' →
          H.status handle.template
            (constructEach handle container key base ownership done next).2.world.state =
              .ready := by
        rintro done value' rest' rfl
        have hlater := hready (value :: done) value' rest' rfl
        rw [constructEach, hc] at hlater
        cases result with
        | error e => exact hlater
        | ok i => exact hlater
      have hih := ih hnext hrest
      dsimp only at hih ⊢
      cases result with
      | error e => exact hih
      | ok i =>
        dsimp only
        rw [hih]
        rfl

/-- The first creation obtains the template; from the same start the others find it ready. -/
theorem createEach_of_readyTemplate {next : Workshop H} (hfiled : shop.factory.cache.IsFiled)
    (h : shop.flush.2.readyTemplate (some container) identifier = (.ok handle, next))
    (key : String) (base : Attributes) (ownership : Ownership) {values : List Value}
    (hv : values ≠ []) :
    createEach container identifier key base ownership values shop =
      createEach container identifier key base ownership values next := by
  cases values with
  | nil => exact absurd rfl hv
  | cons value rest =>
    have hset := shop.isSetFor_of_readyTemplate hfiled h
    have hready := (shop.flush.2.ready_of_readyTemplate h).2
    have hfirst : shop.create (some container) identifier .empty (base.merged key value)
        ownership = next.create (some container) identifier .empty (base.merged key value)
          ownership := by
      rw [next.create_of_isSetFor hset hready]
      simp only [create]
      rw [h]
    rw [createEach, createEach, hfirst]

theorem isFiled_createEach {shop : Workshop H} (h : shop.factory.cache.IsFiled)
    (container : ContainerId) (identifier key : String) (base : Attributes)
    (ownership : Ownership) (values : List Value) :
    (createEach container identifier key base ownership values shop).2.factory.cache.IsFiled := by
  induction values generalizing shop with
  | nil => exact h
  | cons value rest ih =>
    exact ih ((shop.handling_create (some container) identifier .empty (base.merged key value)
      ownership).isFiled h)

end Workshop

/-! ## Hosts where a ready template stays ready -/

/-- Constructions change the status of no template. -/
structure Host.KeepsStatus (H : Host) : Prop where
  construct : ∀ template around state t,
    H.status t (H.construct template around state).2 = H.status t state
  complete : ∀ template around o state t,
    H.status t (H.complete template around o state).2 = H.status t state

theorem World.status_construct (hkeeps : H.KeepsStatus) (w : World H)
    (handle : TemplateHandle H.Template) (container : ContainerId) (rootContext : ContextId)
    (contextual direct : Attributes) (t : H.Template) :
    H.status t (w.construct handle container rootContext contextual direct).2.state =
      H.status t w.state := by
  have hbegun := hkeeps.construct handle.template
    (w.enter container rootContext contextual).surroundings w.state t
  have hstate : (w.enter container rootContext contextual).state = w.state := rfl
  simp only [construct, hstate]
  split
  · rename_i state hc
    rw [hc] at hbegun
    exact hbegun
  · rename_i o state hc
    rw [hc] at hbegun
    have hcomplete := hkeeps.complete handle.template
      (w.enter container rootContext contextual).surroundings (o.writeAttributes direct) state t
    split
    · rename_i detail state' hm
      rw [hm] at hcomplete
      exact hcomplete.trans hbegun
    · rename_i o' state' hm
      rw [hm] at hcomplete
      have hplaced := hcomplete.trans hbegun
      simp only [place]
      split <;> exact hplaced

/-- Where constructions change no status, a template that is ready stays ready. -/
theorem Workshop.status_constructEach (hkeeps : H.KeepsStatus) (shop : Workshop H)
    (handle : TemplateHandle H.Template) (container : ContainerId) (key : String)
    (base : Attributes) (ownership : Ownership) (values : List Value) (t : H.Template) :
    H.status t (constructEach handle container key base ownership values shop).2.world.state =
      H.status t shop.world.state := by
  refine constructEach_induction
    (P := fun next => H.status t next.world.state = H.status t shop.world.state) ?_ values rfl
  intro next direct h
  rw [world_construct, World.status_construct hkeeps]
  exact h

/-- In the studio a construction is at most written down. -/
theorem Studio.keepsStatus : studio.KeepsStatus where
  construct template around s t := by
    cases template with
    | markup n => rfl
    | scripted n =>
      cases t with
      | markup m => rfl
      | scripted m =>
        change (s.scripted.construct n around).2.status m = s.scripted.status m
        rw [Scripted.Engine.construct]
        cases hn : s.scripted.templates.get? n with
        | none => rfl
        | some begun =>
          simp only [Scripted.Engine.status]
          rw [Numbered.get?_modify]
          by_cases hnm : n = m
          · rw [if_pos hnm, ← hnm, hn]
            rfl
          · rw [if_neg hnm]
  complete template around o s t := rfl

/-! ## In a session -/

namespace Session

open Workshop

/-- A batch equals repeated single creation. In every session that a host can reach, for
every list of values that is not empty:

* if the template is obtained and stays ready, the batch returns the successes of the single
  creations, in order, and ends in the state that they end in; a value whose creation fails
  leaves no trace, so that the others find what they would find without it; and if what the
  template makes depends on what names mean alone, each instance is the product of its own
  value;
* if the template is not obtained, nothing is returned, attached or tracked, and whatever counts
  compiles has counted one at most. -/
theorem createMany_eq_createEach (config : Config) (state : H.State) {ops : List (Operation H)}
    (hops : (start config state).Throughout (fun s op => op.NamesContext s) ops)
    {factory : Factory H} (hf : ((start config state).after ops).factory? = some factory)
    (container : ContainerId) (identifier key : String) (base : Attributes)
    (ownership : Ownership) {values : List Value} (hv : values ≠ []) :
    let shop : Workshop H := ⟨factory, ((start config state).after ops).world⟩
    let single := createEach container identifier key base ownership
    let batch := shop.createMany key values (some container) identifier base ownership
    match shop.flush.2.readyTemplate (some container) identifier with
    | (.ok handle, ready) =>
      (∀ done value rest, values = done ++ value :: rest → H.status handle.template
          (constructEach handle container key base ownership done ready).2.world.state = .ready) →
        batch = (successes (single values shop).1, (single values shop).2) ∧
          (∀ done value rest e after, values = done ++ value :: rest →
            let before := (single done shop).2
            before.create (some container) identifier .empty (base.merged key value) ownership =
                (.error e, after) →
              before.LeavesNoTrace after container (before.factory.resolve identifier) e) ∧
          ∀ recipe steady, H.Follows handle.template recipe steady → steady ready.world.state →
            let lookup := ready.world.meaning container factory.rootContext .empty
            List.Forall₂
              (fun i o => ∃ k, batch.2.world.scene.instance? i =
                some (ready.world.scene.seated container (.new handle.uri o k)))
              batch.1 (values.filterMap fun value => recipe.product? lookup (base.merged key value))
    | (.error _, next) =>
      batch = ([], next) ∧ next.world.scene = shop.flush.2.world.scene ∧
        next.world.contexts = shop.world.contexts ∧
        next.factory.tracker = shop.flush.2.factory.tracker ∧
        ∀ count, H.Counts count → count next.world.state ≤ count shop.world.state + 1 := by
  intro shop single batch
  have hgrounded := isGrounded_after config state hops
  have hfiled : shop.factory.cache.IsFiled := isFiled_after config state ops factory hf
  obtain ⟨hscene, hcontexts, htracker, hroot⟩ :=
    shop.flush.2.readyTemplate_frame (some container) identifier
  have hcount : ∀ count, H.Counts count → _ := fun count hcounts =>
    shop.flush.2.count_readyTemplate hcounts (some container) identifier
  cases hr : shop.flush.2.readyTemplate (some container) identifier with
  | mk result next =>
    rw [hr] at hscene hcontexts htracker hroot hcount
    cases result with
    | error e =>
      refine ⟨shop.createMany_of_error hr key hv base ownership, hscene, hcontexts, htracker, ?_⟩
      intro count hcounts
      rw [show count next.world.state = _ from hcount count hcounts]
      exact Nat.add_le_add_left (Bool.toNat_le _) _
    | ok handle =>
      intro hstays
      have hbatch : batch = constructEach handle container key base ownership values next := by
        have hne : ¬values.isEmpty = true := by simpa using hv
        simp only [batch, createMany]
        rw [if_neg hne, hr]
      refine ⟨?_, ?_, ?_⟩
      · rw [hbatch]
        simp only [single]
        rw [shop.createEach_of_readyTemplate hfiled hr key base ownership hv]
        exact constructEach_eq_createEach key base ownership
          (shop.isSetFor_of_readyTemplate hfiled hr) hstays
      · intro done value rest e after _ before hfails
        have hbefore : before.factory.cache.IsFiled :=
          isFiled_createEach hfiled container identifier key base ownership done
        exact before.leavesNoTrace_of_create hbefore hfails
      · intro recipe steady hfollows hsteady lookup
        -- the context that names are looked up in was there before the batch
        have houter : next.world.outerContext container next.factory.rootContext ≤
            next.world.contexts.newest := by
          rw [show next.factory.rootContext = factory.rootContext from hroot,
            show next.world.contexts = _ from hcontexts]
          refine hgrounded.outerContext_le hf container ?_
          rw [show next.world.scene = _ from hscene]
          exact Scene.inheritsContainers_releaseAll _ _
        have hforall := next.constructEach_of_recipe handle container key base ownership hfollows
          hsteady houter values
        rw [← hbatch, show next.factory.rootContext = factory.rootContext from hroot] at hforall
        exact hforall

end Session

/-- A run in the studio: there is a template of labels, which turn into sounds if they are
told to. -/
def Studio.labelsRun : List (Operation studio) :=
  [.outside fun (s : Studio.State) => s.withScripted (s.scripted.add
      ⟨"/label", .ready, .visual, "", "Label", .ofList [("kind", .string "label")], true, true,
        some ("kind", .string "sound"), []⟩),
    .addContainer "root" none (some EngineName.scripted)]

/-- After that run the second of three labels fails, and the batch is the other two. -/
theorem Session.createMany_of_labelsRun :
    let s := (start (H := studio) Config.default (default : Studio.State)).after Studio.labelsRun
    let values : List Value := [.string "label", .string "sound", .string "label"]
    ∃ factory, s.factory? = some factory ∧
      let shop : Workshop studio := ⟨factory, s.world⟩
      let single := Workshop.createEach 1 "/label" "kind" .empty .tracked values shop
      shop.createMany "kind" values (some 1) "/label" .empty .tracked =
          (Workshop.successes single.1, single.2) ∧
        Workshop.successes single.1 = [1, 3] := by
  have hops : (start (H := studio) Config.default (default : Studio.State)).Throughout
      (fun s op => op.NamesContext s) Studio.labelsRun := ⟨trivial, trivial, trivial⟩
  have hbatch := fun (factory : Factory studio)
      (hf : ((start (H := studio) Config.default (default : Studio.State)).after
        Studio.labelsRun).factory? = some factory) =>
    createMany_eq_createEach (H := studio) Config.default (default : Studio.State) hops hf 1
      "/label" "kind" .empty .tracked
      (List.cons_ne_nil (.string "label") [.string "sound", .string "label"])
  have hrun : (((start (H := studio) Config.default (default : Studio.State)).after
      Studio.labelsRun).factory?.map fun factory =>
        let shop : Workshop studio := ⟨factory, ((start (H := studio) Config.default
          (default : Studio.State)).after Studio.labelsRun).world⟩
        ((shop.flush.2.readyTemplate (some 1) "/label").1.toOption.isSome,
          (shop.createMany "kind" [.string "label", .string "sound", .string "label"] (some 1)
            "/label" .empty .tracked).1)) = some (true, [1, 3]) := by
    decide +kernel
  generalize (start (H := studio) Config.default (default : Studio.State)).after
    Studio.labelsRun = s at hbatch hrun ⊢
  obtain ⟨factory, hf, hrun⟩ := Option.map_eq_some_iff.1 hrun
  obtain ⟨hok, hids⟩ := Prod.mk.inj hrun
  have hbatch := hbatch factory hf
  dsimp only at hbatch hok hids ⊢
  cases hr : (Workshop.mk factory s.world).flush.2.readyTemplate (some 1) "/label" with
  | mk result ready =>
    rw [hr] at hok hbatch
    cases result with
    | error e => cases hok
    | ok handle =>
      have hready := ((Workshop.mk factory s.world).flush.2.ready_of_readyTemplate hr).2
      obtain ⟨hsame, -⟩ := hbatch fun done _ _ _ =>
        (Workshop.status_constructEach Studio.keepsStatus ready handle 1 "kind" .empty .tracked done
          handle.template).trans hready
      refine ⟨factory, hf, hsame, ?_⟩
      rw [hsame] at hids
      dsimp only at hids
      exact hids

end SceneFactory
