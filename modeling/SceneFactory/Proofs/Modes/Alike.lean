import SceneFactory.Proofs.Contexts.Grounded
import SceneFactory.Proofs.Modes.Request

/-!
# Factories that do the same in different modes

Two factories on the markup side of a host, one that compiles at once and one that leaves its
compiles to the queue, take different ways to the same end: what fails is reported at once in one
mode and waited for, kept and evicted in the other. Once a request has ended nothing of this is
left but the serial numbers of handles, so the two workshops are alike again (`Workshop.Alike`),
with their engines in one and the same state and nothing in their queues.

Main statements: a request comes to the same in both (`Workshop.Alike.readyTemplate`), a
construction reads the host's state through the engine alone (`World.Alike.construct`), and with
them every work of a factory comes to the same (`Workshop.Agrees`).
-/

set_option autoImplicit false

namespace SceneFactory

variable {H : Host}

/-! ## The engines that containers know -/

namespace Scene

variable {ε : Type} {scene scene' : Scene ε} {name : ε}

/-- The containers know one engine at most. -/
def KnowsOnly (name : ε) (scene : Scene ε) : Prop :=
  ∀ c container other, scene.container? c = some container → container.engine? = some other →
    other = name

theorem KnowsOnly.inherits (h : scene.KnowsOnly name) (hs : scene.InheritsContainers scene') :
    scene'.KnowsOnly name := by
  intro c container' other hc hother
  obtain ⟨container, hcontainer, -, hengine⟩ := hs c container' hc
  exact h c container other hcontainer (hengine.trans hother)

theorem KnowsOnly.addContainer (h : scene.KnowsOnly name) (label : String)
    (context? : Option ContextId) {engine? : Option ε}
    (hengine : ∀ other, engine? = some other → other = name) :
    (scene.addContainer label context? engine?).2.KnowsOnly name := by
  intro c container other hc hother
  rw [container?_addContainer] at hc
  split at hc
  · cases hc
    exact hengine other hother
  · exact h c container other hc hother

end Scene

variable (side : H.MarkupSide)

/-! ## Two of a kind -/

/-- Two worlds with the engine in one state, whatever else their hosts are in. -/
structure World.Alike (engine : Markup.Engine) (w w' : World H) : Prop where
  drained : w.IsDrained side engine
  drained' : w'.IsDrained side engine
  contexts : w'.contexts = w.contexts
  scene : w'.scene = w.scene

/-- Two factories that hold the same, whatever their modes and whatever the serial numbers. -/
structure Factory.Alike (engine : Markup.Engine) (f f' : Factory H) : Prop where
  served : f.IsServed side engine
  served' : f'.IsServed side engine
  engine? : f'.engine? = f.engine?
  contents : f'.cache.contents = f.cache.contents
  basePath : f'.cache.basePath = f.cache.basePath
  tracker : f'.tracker = f.tracker
  rootContext : f'.rootContext = f.rootContext

/-- Two factories that are alike in worlds that are alike. -/
def Workshop.Alike (shop shop' : Workshop H) : Prop :=
  ∃ engine, shop.world.Alike side engine shop'.world ∧ shop.factory.Alike side engine shop'.factory

/-- Two handles of one template. -/
structure TemplateHandle.Alike (handle handle' : TemplateHandle H.Template) : Prop where
  uri : handle'.uri = handle.uri
  template : ∃ t, handle.template = side.template t ∧ handle'.template = side.template t

variable {side} {engine : Markup.Engine}

namespace World.Alike

variable {w w' : World H} (h : w.Alike side engine w')

include h

theorem withScene (scene : Scene H.Engine) :
    (w.withScene scene).Alike side engine (w'.withScene scene) :=
  ⟨⟨h.drained.engine?, h.drained.queue⟩, ⟨h.drained'.engine?, h.drained'.queue⟩, h.contexts, rfl⟩

theorem withContexts (contexts : Contexts) :
    (w.withContexts contexts).Alike side engine (w'.withContexts contexts) :=
  ⟨⟨h.drained.engine?, h.drained.queue⟩, ⟨h.drained'.engine?, h.drained'.queue⟩, rfl, h.scene⟩

theorem withState {state state' : H.State} {next : Markup.Engine}
    (hstate : side.engine? state = some next) (hstate' : side.engine? state' = some next)
    (hqueue : next.queue.tasks = []) :
    (w.withState state).Alike side next (w'.withState state') :=
  ⟨⟨hstate, hqueue⟩, ⟨hstate', hqueue⟩, h.contexts, h.scene⟩

end World.Alike

namespace Factory.Alike

variable {f f' : Factory H} (h : f.Alike side engine f')

include h

theorem withTracker (tracker : Tracker) :
    (f.withTracker tracker).Alike side engine (f'.withTracker tracker) :=
  { h with
    served := ⟨h.served.bound, h.served.timeout, h.served.held⟩
    served' := ⟨h.served'.bound, h.served'.timeout, h.served'.held⟩
    tracker := rfl }

theorem adopt (i : InstanceId) (ownership : Ownership) :
    (f.adopt i ownership).Alike side engine (f'.adopt i ownership) := by
  cases ownership with
  | delegated => exact h
  | tracked =>
    simp only [Factory.adopt, h.tracker]
    exact h.withTracker _

theorem withEngine {engine? : Option H.Engine}
    (hengine : ∀ name, engine? = some name → name = side.name) :
    (f.withEngine engine?).Alike side engine (f'.withEngine engine?) :=
  { h with
    served := ⟨hengine, h.served.timeout, h.served.held⟩
    served' := ⟨hengine, h.served'.timeout, h.served'.held⟩
    engine? := rfl }

theorem clear :
    (f.withCache f.cache.clear).Alike side engine (f'.withCache f'.cache.clear) :=
  { h with
    served := ⟨h.served.bound, h.served.timeout, fun _ _ hget => by cases hget⟩
    served' := ⟨h.served'.bound, h.served'.timeout, fun _ _ hget => by cases hget⟩
    contents := rfl }

/-- Serial numbers do not matter. -/
theorem withCache {cache cache' : TemplateCache H.Template}
    (hc : cache.contents = f.cache.contents) (hb : cache.basePath = f.cache.basePath)
    (hc' : cache'.contents = f'.cache.contents) (hb' : cache'.basePath = f'.cache.basePath) :
    (f.withCache cache).Alike side engine (f'.withCache cache') :=
  { h with
    served := h.served.withCache hc
    served' := h.served'.withCache hc'
    contents := hc'.trans (h.contents.trans hc.symm)
    basePath := hb'.trans (h.basePath.trans hb.symm) }

/-- What the engine does with other templates does not matter. -/
theorem mono {next : Markup.Engine}
    (hready : ∀ t, engine.verdict t = .ready → next.verdict t = .ready) : f.Alike side next f' :=
  { h with
    served := h.served.mono hready
    served' := h.served'.mono hready }

/-- Both may keep a compile that is ready. -/
theorem keep {uri : String} (hget : f.cache.get? uri = none) (hget' : f'.cache.get? uri = none)
    {t : Nat} (hready : engine.verdict t = .ready) :
    (f.withCache (f.cache.keep uri (side.template t)).2).Alike side engine
      (f'.withCache (f'.cache.keep uri (side.template t)).2) :=
  { h with
    served := h.served.keep uri hready
    served' := h.served'.keep uri hready
    contents := by
      have hkept := f.cache.contents_keep hget (side.template t)
      have hkept' := f'.cache.contents_keep hget' (side.template t)
      exact hkept'.trans ((congrArg (· ++ _) h.contents).trans hkept.symm) }

/-- Where one finds a template, the other finds it too. -/
theorem get? {uri : String} {handle : TemplateHandle H.Template}
    (hget : f.cache.get? uri = some handle) :
    ∃ handle', f'.cache.get? uri = some handle' ∧ handle.Alike side handle' := by
  have hsame := f.cache.get?_of_contents h.contents uri
  rw [hget] at hsame
  obtain ⟨handle', hget', heq⟩ := Option.map_eq_some_iff.1 hsame
  obtain ⟨huri, htemplate⟩ := Prod.mk.inj heq
  obtain ⟨-, t, ht, -⟩ := h.served.held uri handle hget
  exact ⟨handle', hget', huri, t, ht, htemplate.trans ht⟩

theorem get?_none {uri : String} (hget : f.cache.get? uri = none) : f'.cache.get? uri = none := by
  have hsame := f.cache.get?_of_contents h.contents uri
  rw [hget] at hsame
  exact Option.map_eq_none_iff.1 hsame

theorem resolve (identifier : String) : f'.resolve identifier = f.resolve identifier :=
  congrArg (Template.resolve · identifier) h.basePath

end Factory.Alike

/-! ## One construction -/

namespace World.Alike

variable {w w' : World H} (h : w.Alike side engine w')

include h

theorem recordReleases (lost : List Release) :
    (w.withScene (w.scene.recordReleases lost)).Alike side engine
      (w'.withScene (w'.scene.recordReleases lost)) := by
  rw [h.scene]
  exact h.withScene _

theorem place (uri : String) (o : SceneObject) (container : ContainerId) :
    ∃ answer next next', w.place uri o container = (answer, next) ∧
      w'.place uri o container = (answer, next') ∧ next.Alike side engine next' := by
  simp only [World.place, h.scene, h.contexts]
  by_cases hvisual : o.isVisual = true
  · rw [if_pos hvisual, if_pos hvisual]
    exact ⟨_, _, _, rfl, rfl, h.withScene _⟩
  · rw [if_neg hvisual, if_neg hvisual]
    exact ⟨_, _, _, rfl, rfl, h.withScene _⟩

theorem enter (container : ContainerId) (rootContext : ContextId) (contextual : Attributes) :
    (w.enter container rootContext contextual).Alike side engine
      (w'.enter container rootContext contextual) := by
  simp only [World.enter, outerContext, h.scene, h.contexts]
  exact h.withContexts _

theorem surroundings : w'.surroundings = w.surroundings := by
  rw [World.surroundings, World.surroundings, h.contexts]

/-- A construction reads the host's state through the engine alone. -/
theorem construct {handle handle' : TemplateHandle H.Template}
    (hhandles : handle.Alike side handle') (container : ContainerId) (rootContext : ContextId)
    (contextual direct : Attributes) :
    ∃ answer next next',
      w.construct handle container rootContext contextual direct = (answer, next) ∧
        w'.construct handle' container rootContext contextual direct = (answer, next') ∧
        next.Alike side engine next' := by
  obtain ⟨huri, t, ht, ht'⟩ := hhandles
  have hentered := h.enter container rootContext contextual
  have hqueue := hentered.drained.queue
  simp only [World.construct, ht, ht', huri, hentered.surroundings]
  generalize w.enter container rootContext contextual = entered at hentered ⊢
  generalize w'.enter container rootContext contextual = entered' at hentered ⊢
  generalize entered.surroundings = around
  obtain ⟨begun, hbegun, hstate⟩ := side.construct t around hentered.drained.engine?
  obtain ⟨begun', hbegun', hstate'⟩ := side.construct t around hentered.drained'.engine?
  rw [hbegun, hbegun']
  cases engine.construct? t around.lookup with
  | none =>
    exact ⟨_, _, _, rfl, rfl, (hentered.withState hstate hstate' hqueue).recordReleases _⟩
  | some o =>
    dsimp only
    obtain ⟨ended, hended, hstate⟩ := side.complete t around (o.writeAttributes direct) hstate
    obtain ⟨ended', hended', hstate'⟩ := side.complete t around (o.writeAttributes direct) hstate'
    rw [hended, hended']
    have hworlds := hentered.withState hstate hstate' hqueue
    cases engine.complete t (o.writeAttributes direct) with
    | error detail => exact ⟨_, _, _, rfl, rfl, hworlds.recordReleases _⟩
    | ok o => exact hworlds.place handle.uri o container

end World.Alike

/-! ## The work of a factory -/

namespace Workshop

variable {shop shop' : Workshop H}

/-- The engine at hand is the one that is known, if there is one. -/
theorem engine?_bindFrom_of_knowsOnly {name other : H.Engine}
    (hbound : ∀ bound, shop.factory.engine? = some bound → bound = name)
    (hknown : shop.world.scene.KnowsOnly name) (container? : Option ContainerId)
    (h : (shop.bindFrom container?).factory.engine? = some other) : other = name := by
  rw [engine?_bindFrom, Option.or_eq_some_iff] at h
  rcases h with h | ⟨-, h⟩
  · exact hbound other h
  · obtain ⟨container, hcontainer, hengine⟩ := Option.bind_eq_some_iff.1 h
    obtain ⟨c, -, hc⟩ := Option.bind_eq_some_iff.1 hcontainer
    exact hknown c container other hc hengine

/-- Looking for an engine changes nothing else about a factory. -/
theorem factory_bindFrom (shop : Workshop H) (container? : Option ContainerId) :
    (shop.bindFrom container?).factory =
      shop.factory.withEngine (shop.bindFrom container?).factory.engine? := by
  rw [bindFrom]
  split <;> rfl

/-- Where the engine at hand comes from is the same for both. -/
theorem alike_bindFrom (hw : shop.world.Alike side engine shop'.world)
    (hf : shop.factory.Alike side engine shop'.factory)
    (hknown : shop.world.scene.KnowsOnly side.name) (container? : Option ContainerId) :
    (shop.bindFrom container?).factory.Alike side engine (shop'.bindFrom container?).factory := by
  have hsame : (shop'.bindFrom container?).factory.engine? =
      (shop.bindFrom container?).factory.engine? := by
    rw [engine?_bindFrom, engine?_bindFrom, hf.engine?, hw.scene]
  have hbound : ∀ name, (shop.bindFrom container?).factory.engine? = some name →
      name = side.name :=
    fun _ => engine?_bindFrom_of_knowsOnly hf.served.bound hknown container?
  rw [factory_bindFrom shop, factory_bindFrom shop', hsame]
  exact hf.withEngine hbound

/-- A request comes to the same in both modes: to one failure, or to handles of one
template. -/
theorem Alike.readyTemplate (h : shop.Alike side shop')
    (hknown : shop.world.scene.KnowsOnly side.name) (container? : Option ContainerId)
    (identifier : String) :
    (∃ e next next', shop.readyTemplate container? identifier = (.error e, next) ∧
        shop'.readyTemplate container? identifier = (.error e, next') ∧ next.Alike side next') ∨
      ∃ handle handle' next next', shop.readyTemplate container? identifier = (.ok handle, next) ∧
        shop'.readyTemplate container? identifier = (.ok handle', next') ∧
        handle.Alike side handle' ∧ next.Alike side next' := by
  obtain ⟨engine, hw, hf⟩ := h
  have hbound := alike_bindFrom hw hf hknown container?
  have hworlds : (shop.bindFrom container?).Alike side (shop'.bindFrom container?) := by
    refine ⟨engine, ?_, hbound⟩
    rw [world_bindFrom, world_bindFrom]
    exact hw
  have hsame := hf.resolve identifier
  cases hget : shop.factory.cache.get? (shop.factory.resolve identifier) with
  | some handle =>
    obtain ⟨handle', hget', hhandles⟩ := hf.get? hget
    rw [← hsame] at hget'
    exact Or.inr ⟨handle, handle', _, _,
      shop.readyTemplate_of_held container? identifier hf.served hw.drained.engine? hget,
      shop'.readyTemplate_of_held container? identifier hf.served' hw.drained'.engine? hget',
      hhandles, hworlds⟩
  | none =>
    have hget' := hf.get?_none hget
    rw [← hsame] at hget'
    cases hengine : (shop.bindFrom container?).factory.engine? with
    | none =>
      exact Or.inl ⟨.engineNotBound, _, _,
        shop.readyTemplate_of_unbound container? identifier hget hengine,
        shop'.readyTemplate_of_unbound container? identifier hget' (hbound.engine?.trans hengine),
        hworlds⟩
    | some name =>
      obtain rfl := hbound.served.bound name hengine
      obtain ⟨state, hstate, hends⟩ := shop.readyTemplate_of_bound container? identifier
        hf.served.timeout hw.drained hget hengine
      obtain ⟨state', hstate', hends'⟩ := shop'.readyTemplate_of_bound container? identifier
        hf.served'.timeout hw.drained' hget' (hbound.engine?.trans hengine)
      rw [hsame] at hget' hstate' hends'
      have hcompiled := hbound.mono fun _ =>
        engine.verdict_compile_of_ready (shop.factory.resolve identifier)
      have hworlds := hw.withState hstate hstate'
        ((engine.queue_compile_synchronous _).symm ▸ hw.drained.queue)
      rcases hends with ⟨detail, cache, hfailed, hc, hb, heq⟩ | ⟨hready, heq⟩
      · rcases hends' with ⟨detail', cache', hfailed', hc', hb', heq'⟩ | ⟨hready', -⟩
        · obtain rfl := CompileStatus.failed.inj (hfailed.symm.trans hfailed')
          exact Or.inl ⟨_, _, _, heq, heq', _, hworlds, hcompiled.withCache hc hb hc' hb'⟩
        · rw [hfailed] at hready'
          cases hready'
      · rcases hends' with ⟨detail', -, hfailed', -⟩ | ⟨-, heq'⟩
        · rw [hready] at hfailed'
          cases hfailed'
        · rw [← cache_bindFrom shop container?] at hget
          rw [← cache_bindFrom shop' container?] at hget'
          exact Or.inr ⟨_, _, _, _, heq, heq', ⟨rfl, _, rfl, rfl⟩, _, hworlds,
            hcompiled.keep hget hget' hready⟩

theorem Alike.construct (h : shop.Alike side shop') {handle handle' : TemplateHandle H.Template}
    (hhandles : handle.Alike side handle') (container : ContainerId)
    (contextual direct : Attributes) (ownership : Ownership) :
    ∃ answer next next',
      shop.construct handle container contextual direct ownership = (answer, next) ∧
        shop'.construct handle' container contextual direct ownership = (answer, next') ∧
        next.Alike side next' := by
  obtain ⟨engine, hw, hf⟩ := h
  obtain ⟨answer, next, next', heq, heq', hnext⟩ :=
    hw.construct hhandles container shop.factory.rootContext contextual direct
  simp only [Workshop.construct, hf.rootContext]
  rw [heq, heq']
  cases answer with
  | error e => exact ⟨_, _, _, rfl, rfl, engine, hnext, hf⟩
  | ok i => exact ⟨_, _, _, rfl, rfl, engine, hnext, hf.adopt i ownership⟩

theorem Alike.constructEach (h : shop.Alike side shop')
    {handle handle' : TemplateHandle H.Template} (hhandles : handle.Alike side handle')
    (container : ContainerId) (key : String) (base : Attributes) (ownership : Ownership)
    (values : List Value) :
    ∃ ids next next',
      constructEach handle container key base ownership values shop = (ids, next) ∧
        constructEach handle' container key base ownership values shop' = (ids, next') ∧
        next.Alike side next' := by
  induction values generalizing shop shop' with
  | nil => exact ⟨[], shop, shop', rfl, rfl, h⟩
  | cons value rest ih =>
    obtain ⟨answer, next, next', heq, heq', hnext⟩ :=
      h.construct hhandles container .empty (base.merged key value) ownership
    obtain ⟨ids, last, last', hrest, hrest', hlast⟩ := ih hnext
    simp only [Workshop.constructEach]
    rw [heq, heq']
    cases answer with
    | error e => exact ⟨ids, last, last', hrest, hrest', hlast⟩
    | ok i =>
      dsimp only
      rw [hrest, hrest']
      exact ⟨i :: ids, last, last', rfl, rfl, hlast⟩

/-! ### What agrees -/

/-- Work that comes to the same in workshops that are alike. -/
def Agrees {α : Type} (side : H.MarkupSide) (work : Workshop H → α × Workshop H) : Prop :=
  ∀ shop shop', shop.Alike side shop' → shop.world.scene.KnowsOnly side.name →
    ∃ answer next next', work shop = (answer, next) ∧ work shop' = (answer, next') ∧
      next.Alike side next'

theorem Agrees.map {α β : Type} {work : Workshop H → α × Workshop H} (h : Agrees side work)
    (f : α → β) : Agrees side fun shop => (work shop).map f id := by
  intro shop shop' halike hknown
  obtain ⟨answer, next, next', heq, heq', hnext⟩ := h shop shop' halike hknown
  dsimp only
  rw [heq, heq']
  exact ⟨f answer, next, next', rfl, rfl, hnext⟩

theorem agrees_bind : Agrees side fun shop : Workshop H =>
    (Outcome.flag (H := H) true,
      ⟨shop.factory.withEngine (some side.name), shop.world⟩) := by
  rintro shop shop' ⟨engine, hw, hf⟩ -
  refine ⟨_, _, _, rfl, rfl, engine, hw, hf.withEngine ?_⟩
  intro name hname
  exact (Option.some.inj hname).symm

theorem agrees_setRootContext (name : String) (value : Value) :
    Agrees side fun shop : Workshop H => (Outcome.nothing (H := H), ⟨shop.factory,
      shop.world.withContexts (shop.world.contexts.set shop.factory.rootContext name value)⟩) := by
  rintro shop shop' ⟨engine, hw, hf⟩ -
  dsimp only
  rw [hw.contexts, hf.rootContext]
  exact ⟨_, _, _, rfl, rfl, engine, hw.withContexts _, hf⟩

theorem agrees_flush (busy : List ContainerId) : Agrees side (H := H) (flush · busy) := by
  rintro shop shop' ⟨engine, hw, hf⟩ -
  simp only [flush]
  rw [hf.tracker, hw.scene]
  exact ⟨_, _, _, rfl, rfl, engine, hw.withScene _, hf.withTracker _⟩

theorem Alike.flush (h : shop.Alike side shop')
    (hknown : shop.world.scene.KnowsOnly side.name) : shop.flush.2.Alike side shop'.flush.2 := by
  obtain ⟨count, next, next', heq, heq', hnext⟩ := agrees_flush [] shop shop' h hknown
  dsimp only at heq heq'
  rw [heq, heq']
  exact hnext

theorem agrees_destroy (i : InstanceId) : Agrees side (H := H) (destroy · i) := by
  rintro shop shop' ⟨engine, hw, hf⟩ -
  simp only [destroy]
  rw [hf.tracker]
  exact ⟨_, _, _, rfl, rfl, engine, hw, hf.withTracker _⟩

theorem agrees_destroyAll (ids : List InstanceId) :
    Agrees side (H := H) (destroyAll · ids) := by
  rintro shop shop' ⟨engine, hw, hf⟩ -
  simp only [destroyAll]
  rw [hf.tracker]
  exact ⟨_, _, _, rfl, rfl, engine, hw, hf.withTracker _⟩

theorem agrees_teardown :
    Agrees side fun shop : Workshop H => (Outcome.nothing (H := H), shop.teardown) := by
  rintro shop shop' ⟨engine, hw, hf⟩ -
  simp only [teardown, flush]
  rw [hf.tracker, hw.scene]
  refine ⟨_, _, _, rfl, rfl, engine, hw.withScene _, ?_⟩
  apply (hf.withTracker _).clear.withEngine
  intro name hname
  cases hname

/-- A creation comes to the same in both modes. -/
theorem agrees_create (container? : Option ContainerId) (identifier : String)
    (contextual direct : Attributes) (ownership : Ownership) :
    Agrees side (H := H) (create · container? identifier contextual direct ownership) := by
  intro shop shop' h hknown
  cases container? with
  | none => exact ⟨_, _, _, rfl, rfl, h⟩
  | some container =>
    have hflushed := hknown.inherits shop.keeps_flush.containers
    rcases (h.flush hknown).readyTemplate hflushed (some container) identifier with
      ⟨e, next, next', heq, heq', hnext⟩ |
        ⟨handle, handle', next, next', heq, heq', hhandles, hnext⟩
    · exact ⟨.error e, next, next', shop.create_of_error heq contextual direct ownership,
        shop'.create_of_error heq' contextual direct ownership, hnext⟩
    · simp only [create]
      rw [heq, heq']
      exact hnext.construct hhandles container contextual direct ownership

/-- A batch comes to the same in both modes. -/
theorem agrees_createMany (key : String) (values : List Value) (container? : Option ContainerId)
    (identifier : String) (base : Attributes) (ownership : Ownership) :
    Agrees side (H := H) (createMany · key values container? identifier base ownership) := by
  intro shop shop' h hknown
  cases container? with
  | none => exact ⟨_, _, _, rfl, rfl, h⟩
  | some container =>
    cases values with
    | nil => exact ⟨_, _, _, rfl, rfl, h⟩
    | cons value rest =>
      have hflushed := hknown.inherits shop.keeps_flush.containers
      rcases (h.flush hknown).readyTemplate hflushed (some container) identifier with
        ⟨e, next, next', heq, heq', hnext⟩ |
          ⟨handle, handle', next, next', heq, heq', hhandles, hnext⟩
      · have hv : value :: rest ≠ [] := List.cons_ne_nil value rest
        exact ⟨[], next, next', shop.createMany_of_error heq key hv base ownership,
          shop'.createMany_of_error heq' key hv base ownership, hnext⟩
      · simp only [createMany]
        rw [heq, heq']
        exact hnext.constructEach hhandles container key base ownership (value :: rest)

end Workshop

end SceneFactory
