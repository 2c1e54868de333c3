import SceneFactory.Proofs.Isolation.Worlds

/-!
# Factories that differ in what they track

Two factories that do the same work with other attributes hold the same templates and know the
same engine; only their trackers differ (`Factory.Parallel`), since what succeeds in one may fail
in the other. As to templates neither tracker nor contexts nor instances make a difference: a
request comes to the same beside any of them (`Workshop.readyTemplate_beside`).

Main statements: work with other attributes keeps workshops in parallel
(`Workshop.Parallel.create`, `Workshop.Parallel.createMany`), and with the same attributes, where
names mean the same, a creation comes to the same in both (`Workshop.Parallel.create_same`).
-/

set_option autoImplicit false

namespace SceneFactory

variable {H : Host} {engine : H.Engine}

/-! ## Factories that hold plain templates -/

/-- A factory that knows one engine at most and holds plain templates only. -/
structure Factory.IsPlain (engine : H.Engine) (f : Factory H) : Prop where
  bound : ∀ name, f.engine? = some name → name = engine
  held : ∀ uri handle, f.cache.get? uri = some handle → H.IsPlain handle.template

namespace Factory.IsPlain

variable {engine : H.Engine} {f : Factory H} (h : f.IsPlain engine)

include h

theorem withEngine {engine? : Option H.Engine}
    (hengine : ∀ name, engine? = some name → name = engine) :
    (f.withEngine engine?).IsPlain engine :=
  ⟨hengine, h.held⟩

theorem keep (uri : String) {template : H.Template} (htemplate : H.IsPlain template) :
    (f.withCache (f.cache.keep uri template).2).IsPlain engine where
  bound := h.bound
  held other handle hget := by
    have hkept := f.cache.get?_keep uri other template
    rw [show (f.cache.keep uri template).2.get? other = some handle from hget] at hkept
    split at hkept
    · cases hkept
      exact htemplate
    · exact h.held other handle hkept.symm

theorem evict (uri : String) : (f.withCache (f.cache.evict uri)).IsPlain engine where
  bound := h.bound
  held other handle hget := by
    have hkept := f.cache.get?_evict uri other
    rw [show (f.cache.evict uri).get? other = some handle from hget] at hkept
    split at hkept
    · cases hkept
    · exact h.held other handle hkept.symm

end Factory.IsPlain

namespace Workshop

variable {shop : Workshop H}

theorem isPlain_bindFrom (h : shop.factory.IsPlain engine)
    (hknown : shop.world.scene.KnowsOnly engine) (container? : Option ContainerId) :
    (shop.bindFrom container?).factory.IsPlain engine := by
  rw [factory_bindFrom]
  exact h.withEngine fun _ => engine?_bindFrom_of_knowsOnly h.bound hknown container?

/-- What is compiled is plain if the engine compiles to plain templates. -/
theorem isPlain_template (hcompiles : H.CompilesPlain engine) (h : shop.factory.IsPlain engine)
    (identifier : String) :
    (shop.template identifier).2.factory.IsPlain engine ∧
      ∀ handle, (shop.template identifier).1 = .ok handle → H.IsPlain handle.template := by
  rcases shop.template_cases identifier with
    ⟨held, hget, heq⟩ | ⟨-, -, heq⟩ | ⟨name, -, hname, ⟨detail, -, heq⟩ | ⟨-, heq⟩⟩
  · rw [heq]
    refine ⟨h, fun handle hok => ?_⟩
    cases hok
    exact h.held _ held hget
  · rw [heq]
    exact ⟨h, fun handle hok => (by cases hok)⟩
  · rw [heq]
    exact ⟨h, fun handle hok => (by cases hok)⟩
  · -- a compile is kept, and it is one of the engine that is known
    obtain rfl := h.bound name hname
    rw [heq]
    have hplain := hcompiles (shop.factory.resolve identifier) shop.factory.cache.mode
      shop.world.state
    refine ⟨h.keep _ hplain, fun handle hok => ?_⟩
    cases hok
    exact hplain

theorem isPlain_awaitReady (h : shop.factory.IsPlain engine)
    (handle : TemplateHandle H.Template) : (shop.awaitReady handle).2.factory.IsPlain engine := by
  rcases shop.awaitReady_cases handle with ⟨-, heq⟩ | ⟨detail, -, heq⟩ | ⟨-, heq⟩ | heq
  · rw [heq]
    exact h
  · rw [heq]
    exact h.evict handle.uri
  · rw [heq]
    exact h
  · rw [heq]
    exact h

/-- What a request hands out is plain, and so is what the factory holds after it. -/
theorem isPlain_readyTemplate (hcompiles : H.CompilesPlain engine)
    (h : shop.factory.IsPlain engine) (hknown : shop.world.scene.KnowsOnly engine)
    (container? : Option ContainerId) (identifier : String) :
    (shop.readyTemplate container? identifier).2.factory.IsPlain engine ∧
      ∀ handle, (shop.readyTemplate container? identifier).1 = .ok handle →
        H.IsPlain handle.template := by
  obtain ⟨hfound, hplain⟩ :=
    isPlain_template hcompiles (isPlain_bindFrom h hknown container?) identifier
  cases htemplate : (shop.bindFrom container?).template identifier with
  | mk answer found =>
    rw [htemplate] at hfound hplain
    cases answer with
    | error e =>
      rw [shop.readyTemplate_of_error htemplate]
      exact ⟨hfound, fun handle hok => (by cases hok)⟩
    | ok held =>
      rw [shop.readyTemplate_of_ok htemplate]
      refine ⟨isPlain_awaitReady hfound held, fun handle hok => ?_⟩
      rcases found.awaitReady_cases held with ⟨-, heq⟩ | ⟨detail, -, heq⟩ | ⟨-, heq⟩ | heq
      · rw [heq] at hok
        cases hok
        exact hplain held rfl
      all_goals
        rw [heq] at hok
        cases hok

/-! ## Requests beside other things -/

/-- The workshop with another tracker, other contexts and another scene. -/
def beside (shop : Workshop H) (tracker : Tracker) (contexts : Contexts)
    (scene : Scene H.Engine) : Workshop H :=
  ⟨shop.factory.withTracker tracker, ⟨shop.world.state, contexts, scene⟩⟩

variable (shop) (tracker : Tracker) (contexts : Contexts) (scene : Scene H.Engine)

theorem bindFrom_beside (hplaces : scene.places = shop.world.scene.places)
    (container? : Option ContainerId) :
    (shop.beside tracker contexts scene).bindFrom container? =
      (shop.bindFrom container?).beside tracker contexts scene := by
  have hengine : (container?.bind scene.container?).bind Container.engine? =
      (container?.bind shop.world.scene.container?).bind Container.engine? := by
    cases container? with
    | none => rfl
    | some c => exact shop.world.scene.bind_container?_of_places hplaces (fun _ => rfl) c
  have hbound : (shop.beside tracker contexts scene).factory.engine? = shop.factory.engine? := rfl
  rw [bindFrom, bindFrom, hbound]
  cases shop.factory.engine? with
  | some name => rfl
  | none =>
    exact congrArg (fun found => Workshop.mk ((shop.factory.withTracker tracker).withEngine found)
      ⟨shop.world.state, contexts, scene⟩) hengine

theorem template_beside (identifier : String) :
    (shop.beside tracker contexts scene).template identifier =
      ((shop.template identifier).1, (shop.template identifier).2.beside tracker contexts scene) :=
  rfl

theorem awaitReady_beside (handle : TemplateHandle H.Template) :
    (shop.beside tracker contexts scene).awaitReady handle =
      ((shop.awaitReady handle).1, (shop.awaitReady handle).2.beside tracker contexts scene) := by
  have hgate : (shop.beside tracker contexts scene).factory.gate = shop.factory.gate := rfl
  have hstate : (shop.beside tracker contexts scene).world.state = shop.world.state := rfl
  simp only [awaitReady, hgate, hstate]
  split <;> rfl

/-- A request comes to the same beside other contexts and instances. -/
theorem readyTemplate_beside (hplaces : scene.places = shop.world.scene.places)
    (container? : Option ContainerId) (identifier : String) :
    (shop.beside tracker contexts scene).readyTemplate container? identifier =
      ((shop.readyTemplate container? identifier).1,
        (shop.readyTemplate container? identifier).2.beside tracker contexts scene) := by
  have hfound := (shop.bindFrom container?).template_beside tracker contexts scene identifier
  rw [← shop.bindFrom_beside tracker contexts scene hplaces container?] at hfound
  cases htemplate : (shop.bindFrom container?).template identifier with
  | mk answer found =>
    rw [htemplate] at hfound
    cases answer with
    | error e =>
      rw [shop.readyTemplate_of_error htemplate, readyTemplate_of_error _ hfound]
    | ok handle =>
      rw [shop.readyTemplate_of_ok htemplate, readyTemplate_of_ok _ hfound,
        found.awaitReady_beside]

end Workshop

/-! ## Two factories -/

/-- Two factories that are the same but for their trackers. Their root context is older than any
context of a creation. -/
structure Factory.Parallel (engine : H.Engine) (made : ContextId → Prop) (f f' : Factory H) :
    Prop where
  plain : f.IsPlain engine
  older : ∀ k, made k → f.rootContext < k
  same : ∃ tracker, f' = f.withTracker tracker

/-- Two factories in worlds that are in parallel, and that are so themselves. -/
structure Workshop.Parallel (engine : H.Engine) (made : ContextId → Prop)
    (shop shop' : Workshop H) : Prop where
  world : shop.world.Parallel engine made shop'.world
  factory : shop.factory.Parallel engine made shop'.factory

variable {made : ContextId → Prop}

namespace Factory.Parallel

variable {f f' g g' : Factory H} (h : f.Parallel engine made f')

include h

/-- Trackers do not matter. -/
theorem withTrackers (hg : ∃ tracker, g = f.withTracker tracker)
    (hg' : ∃ tracker, g' = f'.withTracker tracker) : g.Parallel engine made g' := by
  obtain ⟨tracker, rfl⟩ := hg
  obtain ⟨tracker', rfl⟩ := hg'
  obtain ⟨tracker'', rfl⟩ := h.same
  exact ⟨⟨h.plain.bound, h.plain.held⟩, h.older, tracker', rfl⟩

theorem withEngine {engine? : Option H.Engine}
    (hengine : ∀ name, engine? = some name → name = engine) :
    (f.withEngine engine?).Parallel engine made (f'.withEngine engine?) := by
  obtain ⟨tracker, rfl⟩ := h.same
  exact ⟨h.plain.withEngine hengine, h.older, tracker, rfl⟩

theorem clear : (f.withCache f.cache.clear).Parallel engine made
    (f'.withCache f'.cache.clear) := by
  obtain ⟨tracker, rfl⟩ := h.same
  exact ⟨⟨h.plain.bound, fun _ _ hget => (by cases hget)⟩, h.older, tracker, rfl⟩

theorem rootContext : f'.rootContext = f.rootContext := by
  obtain ⟨tracker, rfl⟩ := h.same
  rfl

end Factory.Parallel

namespace Workshop

variable {shop shop' : Workshop H}

/-- A construction changes at most the tracker of a factory. -/
theorem exists_factory_construct (shop : Workshop H) (handle : TemplateHandle H.Template)
    (container : ContainerId) (contextual direct : Attributes) (ownership : Ownership) :
    ∃ tracker, (shop.construct handle container contextual direct ownership).2.factory =
      shop.factory.withTracker tracker := by
  rw [construct]
  split
  · exact ⟨shop.factory.tracker, rfl⟩
  · cases ownership with
    | delegated => exact ⟨shop.factory.tracker, rfl⟩
    | tracked => exact ⟨_, rfl⟩

/-- A construction makes one context. -/
theorem newest_construct (shop : Workshop H) (handle : TemplateHandle H.Template)
    (container : ContainerId) (contextual direct : Attributes) (ownership : Ownership) :
    (shop.construct handle container contextual direct ownership).2.world.contexts.newest =
      shop.world.contexts.newest + 1 := by
  rw [world_construct]
  obtain ⟨hcontexts, -⟩ := shop.world.construct_cases handle container shop.factory.rootContext
    contextual direct
  rw [hcontexts, World.newest_enter]

/-- A batch makes as many contexts as it has values. -/
theorem newest_constructEach (shop : Workshop H) (handle : TemplateHandle H.Template)
    (container : ContainerId) (key : String) (base : Attributes) (ownership : Ownership)
    (values : List Value) :
    (constructEach handle container key base ownership values shop).2.world.contexts.newest =
      shop.world.contexts.newest + values.length := by
  induction values generalizing shop with
  | nil => rfl
  | cons value rest ih =>
    rw [constructEach_cons, ih, newest_construct]
    exact Nat.add_right_comm _ 1 _

namespace Parallel

variable (h : shop.Parallel engine made shop')

include h

theorem flush (busy : List ContainerId := []) :
    (shop.flush busy).2.Parallel engine made (shop'.flush busy).2 where
  world := h.world.withScene (Scene.places_releaseAll _ _) (Scene.places_releaseAll _ _)
  factory := h.factory.withTrackers ⟨_, rfl⟩ ⟨_, rfl⟩

theorem teardown : shop.teardown.Parallel engine made shop'.teardown where
  world := h.world.withScene (Scene.places_releaseAll _ _) (Scene.places_releaseAll _ _)
  factory := by
    apply Factory.Parallel.withEngine
    · exact (h.factory.withTrackers ⟨_, rfl⟩ ⟨_, rfl⟩).clear
    · intro name hname
      cases hname

/-- The second workshop is the first beside other things. -/
theorem exists_beside : ∃ tracker,
    shop' = shop.beside tracker shop'.world.contexts shop'.world.scene := by
  obtain ⟨tracker, hsame⟩ := h.factory.same
  have hstate := h.world.state
  obtain ⟨f', ⟨state', contexts', scene'⟩⟩ := shop'
  dsimp only at hsame hstate
  rw [hsame, hstate]
  exact ⟨tracker, rfl⟩

theorem template (hcompiles : H.CompilesPlain engine) (identifier : String) :
    (shop.template identifier).2.Parallel engine made (shop'.template identifier).2 := by
  obtain ⟨hplain, -⟩ := isPlain_template hcompiles h.factory.plain identifier
  obtain ⟨tracker, hbeside⟩ := h.exists_beside
  have hsame := shop.template_beside tracker shop'.world.contexts shop'.world.scene identifier
  rw [← hbeside] at hsame
  rw [hsame]
  exact ⟨⟨h.world.known, rfl, h.world.contexts, h.world.places⟩, hplain, h.factory.older,
    tracker, rfl⟩

/-- A request comes to the same in both workshops, and what it hands out is plain. -/
theorem readyTemplate (hcompiles : H.CompilesPlain engine) (container? : Option ContainerId)
    (identifier : String) :
    ∃ answer next next', shop.readyTemplate container? identifier = (answer, next) ∧
      shop'.readyTemplate container? identifier = (answer, next') ∧
      next.Parallel engine made next' ∧ next.world.contexts = shop.world.contexts ∧
      next'.world.contexts = shop'.world.contexts ∧ next.world.scene = shop.world.scene ∧
      next.factory.rootContext = shop.factory.rootContext ∧
      ∀ handle, answer = .ok handle → H.IsPlain handle.template := by
  obtain ⟨hplain, hhandle⟩ := isPlain_readyTemplate hcompiles h.factory.plain h.world.known
    container? identifier
  obtain ⟨hscene, hcontexts, -, hroot⟩ := shop.readyTemplate_frame container? identifier
  obtain ⟨tracker, hbeside⟩ := h.exists_beside
  have hsame := shop.readyTemplate_beside tracker shop'.world.contexts shop'.world.scene
    h.world.places container? identifier
  rw [← hbeside] at hsame
  cases hr : shop.readyTemplate container? identifier with
  | mk answer next =>
    rw [hr] at hplain hhandle hscene hcontexts hroot hsame
    dsimp only at hplain hhandle hscene hcontexts hroot hsame
    have hworld : next.world.Parallel engine made
        (next.beside tracker shop'.world.contexts shop'.world.scene).world :=
      ⟨hscene ▸ h.world.known, rfl, hcontexts ▸ h.world.contexts, hscene ▸ h.world.places⟩
    exact ⟨answer, next, _, rfl, hsame, ⟨hworld, hplain, hroot ▸ h.factory.older, tracker, rfl⟩,
      hcontexts, rfl, hscene, hroot, hhandle⟩

/-- A construction with any attributes keeps workshops in parallel. -/
theorem construct {handle : TemplateHandle H.Template} (hplain : H.IsPlain handle.template)
    (hmade : made (shop.world.contexts.newest + 1)) (container : ContainerId)
    (contextual direct contextual' direct' : Attributes) (ownership : Ownership) :
    (shop.construct handle container contextual direct ownership).2.Parallel engine made
      (shop'.construct handle container contextual' direct' ownership).2 where
  world := by
    rw [world_construct, world_construct, h.factory.rootContext]
    exact h.world.construct hplain hmade container _ contextual direct contextual' direct'
  factory := h.factory.withTrackers (shop.exists_factory_construct _ _ _ _ _)
    (shop'.exists_factory_construct _ _ _ _ _)

/-- A batch with any attributes, of as many values, keeps workshops in parallel. -/
theorem constructEach {handle : TemplateHandle H.Template} (hplain : H.IsPlain handle.template)
    (container : ContainerId) (key key' : String) (base base' : Attributes)
    (ownership : Ownership) {values values' : List Value}
    (hlength : values'.length = values.length)
    (hmade : ∀ k, shop.world.contexts.newest < k →
      k ≤ shop.world.contexts.newest + values.length → made k) :
    (constructEach handle container key base ownership values shop).2.Parallel engine made
      (constructEach handle container key' base' ownership values' shop').2 := by
  induction values generalizing values' shop shop' with
  | nil =>
    obtain rfl := List.eq_nil_of_length_eq_zero hlength
    exact h
  | cons value rest ih =>
    cases values' with
    | nil => cases hlength
    | cons value' rest' =>
      have hmade_first := hmade _ (Nat.lt_succ_self _)
        (Nat.add_le_add_left (Nat.succ_le_succ (Nat.zero_le rest.length)) _)
      have hfirst := h.construct hplain hmade_first container .empty (base.merged key value)
        .empty (base'.merged key' value') ownership
      rw [constructEach_cons, constructEach_cons]
      refine ih hfirst (Nat.succ.inj hlength) fun k hk hle => ?_
      rw [newest_construct] at hk hle
      exact hmade k (Nat.lt_of_succ_lt hk)
        (Nat.le_trans hle (Nat.le_of_eq (Nat.add_right_comm _ 1 _)))

/-- A creation with any attributes keeps workshops in parallel. -/
theorem create (hcompiles : H.CompilesPlain engine) (container? : Option ContainerId)
    (identifier : String) (contextual direct contextual' direct' : Attributes)
    (ownership : Ownership)
    (hmade : ∀ k, shop.world.contexts.newest < k →
      k ≤ (shop.create container? identifier contextual direct
        ownership).2.world.contexts.newest → made k) :
    (shop.create container? identifier contextual direct ownership).2.Parallel engine made
      (shop'.create container? identifier contextual' direct' ownership).2 := by
  cases container? with
  | none => exact h
  | some container =>
    obtain ⟨answer, next, next', hready, hready', hnext, hcontexts, -, -, -, hplain⟩ :=
      h.flush.readyTemplate hcompiles (some container) identifier
    simp only [Workshop.create] at hmade ⊢
    rw [hready] at hmade
    rw [hready, hready']
    cases answer with
    | error e => exact hnext
    | ok handle =>
      dsimp only at hmade ⊢
      rw [newest_construct] at hmade
      refine hnext.construct (hplain handle rfl) (hmade _ ?_ (Nat.le_refl _)) container
        contextual direct contextual' direct' ownership
      rw [hcontexts]
      exact Nat.lt_succ_self _

/-- A batch with any attributes, for as many values, keeps workshops in parallel. -/
theorem createMany (hcompiles : H.CompilesPlain engine) (key key' : String)
    {values values' : List Value} (hlength : values'.length = values.length)
    (container? : Option ContainerId) (identifier : String) (base base' : Attributes)
    (ownership : Ownership)
    (hmade : ∀ k, shop.world.contexts.newest < k →
      k ≤ (shop.createMany key values container? identifier base
        ownership).2.world.contexts.newest → made k) :
    (shop.createMany key values container? identifier base ownership).2.Parallel engine made
      (shop'.createMany key' values' container? identifier base' ownership).2 := by
  have hempty : values'.isEmpty = values.isEmpty := by
    rw [Bool.eq_iff_iff, List.isEmpty_iff_length_eq_zero, List.isEmpty_iff_length_eq_zero, hlength]
  cases container? with
  | none => exact h
  | some container =>
    obtain ⟨answer, next, next', hready, hready', hnext, hcontexts, -, -, -, hplain⟩ :=
      h.flush.readyTemplate hcompiles (some container) identifier
    simp only [Workshop.createMany] at hmade ⊢
    rw [hempty]
    split at hmade
    · rename_i hnone
      rw [if_pos hnone, if_pos hnone]
      exact h
    · rename_i hsome
      rw [if_neg hsome, if_neg hsome, hready, hready']
      rw [hready] at hmade
      cases answer with
      | error e => exact hnext
      | ok handle =>
        dsimp only at hmade ⊢
        rw [newest_constructEach, hcontexts] at hmade
        refine hnext.constructEach (hplain handle rfl) container key key' base base' ownership
          hlength ?_
        rw [hcontexts]
        exact hmade

end Parallel

end Workshop

end SceneFactory
