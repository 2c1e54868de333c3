import SceneFactory.Proofs.Construction.Create
import SceneFactory.Proofs.Session.Runs
import SceneFactory.Proofs.Template.Waiting
import SceneFactory.Proofs.World.Failure

/-!
# What a request for a template does

A request looks a URI up in the cache, compiles it if nothing is held for it, and may wait
until the template has settled. Each stage is said once, with everything that it can do:
`Workshop.template_cases` and `Workshop.awaitReady_cases`.

From them follow the frame of a request (it touches no URI but its own and at most binds
the container's engine) and its number of compiles (`Workshop.count_template`).
-/

set_option autoImplicit false

namespace SceneFactory

variable {H : Host}

/-! ## The cache -/

namespace TemplateCache

/-! ### Misses -/

section Miss

variable {τ σ : Type} {cache : TemplateCache τ} (status : τ → σ → CompileStatus)
  (compile : String → CompileMode → σ → τ × σ) {uri : String} {s : σ}

theorem getOrCreate_of_unbound (hget : cache.get? uri = none) :
    cache.getOrCreate status none uri s = (.error .engineNotBound, cache, s) := by
  simp [getOrCreate, hget]

/-- A compile that fails at once is reported and not kept. -/
theorem getOrCreate_of_failing (hget : cache.get? uri = none) {detail : String}
    (hstatus : status (compile uri cache.mode s).1 (compile uri cache.mode s).2 =
      .failed detail) :
    cache.getOrCreate status (some compile) uri s =
      (.error (.compileFailed uri detail), cache, (compile uri cache.mode s).2) := by
  simp only [getOrCreate, hget]
  rw [hstatus]

/-- Any other compile is kept. -/
theorem getOrCreate_of_compiling (hget : cache.get? uri = none)
    (hstatus : ∀ detail, status (compile uri cache.mode s).1 (compile uri cache.mode s).2 ≠
      .failed detail) :
    cache.getOrCreate status (some compile) uri s =
      (.ok (cache.keep uri (compile uri cache.mode s).1).1,
        (cache.keep uri (compile uri cache.mode s).1).2, (compile uri cache.mode s).2) := by
  simp only [getOrCreate, hget]

end Miss

/-! ### Handles under their own URIs -/

variable {τ : Type} {cache : TemplateCache τ}

/-- What is held behind an eviction was held before. -/
theorem get?_of_evict {uri other : String} {handle : TemplateHandle τ}
    (h : (cache.evict uri).get? other = some handle) : cache.get? other = some handle := by
  rw [get?_evict] at h
  by_cases heq : uri = other
  · rw [if_pos heq] at h
    cases h
  · rwa [if_neg heq] at h

/-- What is held behind a new handle is the new one or was held before. -/
theorem get?_of_keep {uri other : String} {template : τ} {handle : TemplateHandle τ}
    (h : (cache.keep uri template).2.get? other = some handle) :
    (uri = other ∧ (cache.keep uri template).1 = handle) ∨ cache.get? other = some handle := by
  rw [get?_keep] at h
  by_cases heq : uri = other
  · rw [if_pos heq] at h
    exact .inl ⟨heq, Option.some.inj h⟩
  · rw [if_neg heq] at h
    exact .inr h

/-- Every handle is kept under its own URI. -/
def IsFiled (cache : TemplateCache τ) : Prop :=
  ∀ uri handle, cache.get? uri = some handle → handle.uri = uri

namespace IsFiled

theorem keep (h : cache.IsFiled) (uri : String) (template : τ) :
    (cache.keep uri template).2.IsFiled := by
  intro other handle hget
  rcases get?_of_keep hget with ⟨heq, rfl⟩ | hheld
  · exact heq
  · exact h other handle hheld

theorem evict (h : cache.IsFiled) (uri : String) : (cache.evict uri).IsFiled :=
  fun other handle hget => h other handle (get?_of_evict hget)

theorem clear : cache.clear.IsFiled := by
  intro uri handle hget
  cases hget

end IsFiled

/-! ### Changes under one URI -/

/-- The second cache differs from the first at most in what is held for one URI. -/
structure SameBut (uri : String) (cache cache' : TemplateCache τ) : Prop where
  basePath : cache'.basePath = cache.basePath
  mode : cache'.mode = cache.mode
  get? : ∀ {other : String}, other ≠ uri → cache'.get? other = cache.get? other

namespace SameBut

variable {uri : String} {cache' cache'' : TemplateCache τ}

theorem refl (cache : TemplateCache τ) : SameBut uri cache cache := ⟨rfl, rfl, fun _ => rfl⟩

theorem trans (h : SameBut uri cache cache') (h' : SameBut uri cache' cache'') :
    SameBut uri cache cache'' :=
  ⟨h'.basePath.trans h.basePath, h'.mode.trans h.mode,
    fun hne => (h'.get? hne).trans (h.get? hne)⟩

theorem keep (cache : TemplateCache τ) (uri : String) (template : τ) :
    SameBut uri cache (cache.keep uri template).2 :=
  ⟨rfl, rfl, fun hne => by rw [get?_keep, if_neg hne.symm]⟩

theorem evict (cache : TemplateCache τ) (uri : String) :
    SameBut uri cache (cache.evict uri) :=
  ⟨rfl, rfl, fun hne => by rw [get?_evict, if_neg hne.symm]⟩

end SameBut

end TemplateCache

/-! ## The stages of a request -/

/-- Detaching brings no container back. -/
theorem Scene.container?_detach_of_none {ε : Type} (scene : Scene ε) (i : InstanceId)
    {c : ContainerId} (h : scene.container? c = none) :
    (scene.detach i .free).2.container? c = none := by
  by_cases hs : scene.state? i = some .attached
  · obtain ⟨inst, hi, hatt⟩ : ∃ inst, scene.instance? i = some inst ∧ inst.state = .attached := by
      simpa [state?] using hs
    rw [scene.container?_detach_free i hi hatt, h]
    split <;> rfl
  · rw [scene.detach_of_not_attached i .free hs]
    exact h

theorem Tracker.container?_releaseAll_of_none {ε : Type} (ids : List InstanceId)
    (scene : Scene ε) {c : ContainerId} (h : scene.container? c = none) :
    (releaseAll [] ids scene).2.container? c = none := by
  induction ids generalizing scene with
  | nil => exact h
  | cons i rest ih =>
    have hdetach := scene.container?_detach_of_none i h
    rw [← Scene.container?_release _ i, ← scene.dismiss_nil] at hdetach
    exact ih _ hdetach

namespace Workshop

variable (shop : Workshop H)

/-! ### The engine at hand -/

/-- An engine that is bound stays bound; without one the container's is bound. -/
theorem engine?_bindFrom (container? : Option ContainerId) :
    (shop.bindFrom container?).factory.engine? = shop.factory.engine?.or
      ((container?.bind shop.world.scene.container?).bind Container.engine?) := by
  rw [bindFrom]
  cases hengine : shop.factory.engine? with
  | none => rfl
  | some engine => exact hengine

@[simp] theorem cache_bindFrom (container? : Option ContainerId) :
    (shop.bindFrom container?).factory.cache = shop.factory.cache := by
  rw [bindFrom]
  split <;> rfl

@[simp] theorem config_bindFrom (container? : Option ContainerId) :
    (shop.bindFrom container?).factory.config = shop.factory.config := by
  rw [bindFrom]
  split <;> rfl

@[simp] theorem resolve_bindFrom (container? : Option ContainerId) (identifier : String) :
    (shop.bindFrom container?).factory.resolve identifier = shop.factory.resolve identifier := by
  simp only [Factory.resolve]
  rw [cache_bindFrom]

/-- A flush takes no engine away from a container. -/
theorem engine?_container_flush (c : ContainerId) :
    (shop.flush.2.world.scene.container? c).bind Container.engine? =
      (shop.world.scene.container? c).bind Container.engine? := by
  change ((Tracker.releaseAll [] shop.factory.tracker.pending shop.world.scene).2.container? c).bind
    Container.engine? = _
  cases hc : shop.world.scene.container? c with
  | some container =>
    obtain ⟨children, hflushed⟩ := Tracker.exists_container?_releaseAll
      shop.factory.tracker.pending shop.world.scene hc
    rw [hflushed]
    rfl
  | none => rw [Tracker.container?_releaseAll_of_none _ _ hc]

/-- A flush before a request makes no difference to the engine at hand. -/
theorem engine?_bindFrom_flush (container? : Option ContainerId) :
    (shop.flush.2.bindFrom container?).factory.engine? =
      (shop.bindFrom container?).factory.engine? := by
  rw [engine?_bindFrom, engine?_bindFrom]
  cases container? with
  | none => rfl
  | some c => exact congrArg shop.factory.engine?.or (shop.engine?_container_flush c)

/-! ### Looking up and compiling -/

/-- What is held is handed out, whatever its status. -/
theorem template_of_get? {identifier : String} {handle : TemplateHandle H.Template}
    (hget : shop.factory.cache.get? (shop.factory.resolve identifier) = some handle) :
    shop.template identifier = (.ok handle, shop) := by
  rw [template, TemplateCache.getOrCreate_of_get? _ _ _ hget]
  rfl

/-- What a request can do before it waits. A held handle is handed out; or there is
no engine; or the URI is compiled, and then the template is kept unless it has failed at
once. -/
theorem template_cases (identifier : String) :
    let uri := shop.factory.resolve identifier
    let cache := shop.factory.cache
    (∃ handle, cache.get? uri = some handle ∧ shop.template identifier = (.ok handle, shop)) ∨
      (cache.get? uri = none ∧ shop.factory.engine? = none ∧
        shop.template identifier = (.error .engineNotBound, shop)) ∨
      (∃ engine, cache.get? uri = none ∧ shop.factory.engine? = some engine ∧
        let compiled := H.compile engine uri cache.mode shop.world.state
        let kept := cache.keep uri compiled.1
        let world := shop.world.withState compiled.2
        (∃ detail, H.status compiled.1 compiled.2 = .failed detail ∧
            shop.template identifier =
              (.error (.compileFailed uri detail), ⟨shop.factory, world⟩)) ∨
          ((∀ detail, H.status compiled.1 compiled.2 ≠ .failed detail) ∧
            shop.template identifier =
              (.ok kept.1, ⟨shop.factory.withCache kept.2, world⟩))) := by
  intro uri cache
  cases hget : cache.get? uri with
  | some handle => exact Or.inl ⟨handle, rfl, shop.template_of_get? hget⟩
  | none =>
    refine Or.inr ?_
    cases hengine : shop.factory.engine? with
    | none =>
      refine Or.inl ⟨rfl, rfl, ?_⟩
      rw [template, hengine]
      exact congrArg (fun r => (r.1, Workshop.mk (shop.factory.withCache r.2.1)
        (shop.world.withState r.2.2))) (TemplateCache.getOrCreate_of_unbound H.status hget)
    | some engine =>
      refine Or.inr ⟨engine, rfl, rfl, ?_⟩
      intro compiled kept world
      rw [template, hengine]
      by_cases hfails : ∃ detail, H.status compiled.1 compiled.2 = .failed detail
      · obtain ⟨detail, hstatus⟩ := hfails
        refine Or.inl ⟨detail, hstatus, ?_⟩
        rw [Option.map_some, TemplateCache.getOrCreate_of_failing H.status _ hget hstatus]
        rfl
      · have hstatus : ∀ detail, H.status compiled.1 compiled.2 ≠ .failed detail :=
          not_exists.1 hfails
        refine Or.inr ⟨hstatus, ?_⟩
        rw [Option.map_some, TemplateCache.getOrCreate_of_compiling H.status _ hget hstatus]

/-! ### Waiting for a handle -/

/-- The host's state after the wait for a handle. -/
def waited (handle : TemplateHandle H.Template) : H.State :=
  (shop.factory.gate.await (H.status handle.template) H.pump shop.world.state).2

/-- How a wait can end: with a template that is ready, with one that has failed and is
evicted, with one that is loading still, or with more time than can be counted. -/
theorem awaitReady_cases (handle : TemplateHandle H.Template) :
    let state := shop.waited handle
    let world := shop.world.withState state
    (H.status handle.template state = .ready ∧
        shop.awaitReady handle = (.ok handle, ⟨shop.factory, world⟩)) ∨
      (∃ detail, H.status handle.template state = .failed detail ∧
        shop.awaitReady handle = (.error (.compileFailed handle.uri detail),
          ⟨shop.factory.withCache (shop.factory.cache.evict handle.uri), world⟩)) ∨
      (H.status handle.template state = .loading ∧
        shop.awaitReady handle = (.error (.timedOut handle.uri shop.factory.gate.timeout),
          ⟨shop.factory, world⟩)) ∨
      shop.awaitReady handle = (.error .clockOverflow, ⟨shop.factory, world⟩) := by
  intro state world
  have hfits := shop.factory.gate.await_fits (H.status handle.template) H.pump shop.world.state
  simp only [awaitReady, state, world, waited]
  cases hawait : shop.factory.gate.await (H.status handle.template) H.pump
      shop.world.state with
  | mk readiness state =>
    rw [hawait] at hfits
    cases readiness with
    | ready => exact Or.inl ⟨hfits, rfl⟩
    | failed detail => exact Or.inr (Or.inl ⟨detail, hfits, rfl⟩)
    | timedOut => exact Or.inr (Or.inr (Or.inl ⟨hfits, rfl⟩))
    | overflowed => exact Or.inr (Or.inr (Or.inr rfl))

/-- There is no wait for a template that is ready. -/
theorem awaitReady_of_ready {handle : TemplateHandle H.Template}
    (h : H.status handle.template shop.world.state = .ready) :
    shop.awaitReady handle = (.ok handle, shop) := by
  simp only [awaitReady]
  rw [Gate.await_of_ready _ _ _ h]
  rfl

/-! ### What a request leaves alone -/

/-- What a request touches of a cache is its own URI. -/
theorem sameBut_template (identifier : String) :
    TemplateCache.SameBut (shop.factory.resolve identifier) shop.factory.cache
      (shop.template identifier).2.factory.cache := by
  rcases shop.template_cases identifier with
    ⟨handle, -, heq⟩ | ⟨-, -, heq⟩ | ⟨engine, -, -, ⟨detail, -, heq⟩ | ⟨-, heq⟩⟩
  · rw [heq]
    exact .refl _
  · rw [heq]
    exact .refl _
  · rw [heq]
    exact .refl _
  · rw [heq]
    exact .keep _ _ _

theorem isFiled_template (h : shop.factory.cache.IsFiled) (identifier : String) :
    (shop.template identifier).2.factory.cache.IsFiled := by
  rcases shop.template_cases identifier with
    ⟨handle, -, heq⟩ | ⟨-, -, heq⟩ | ⟨engine, -, -, ⟨detail, -, heq⟩ | ⟨-, heq⟩⟩
  · rw [heq]
    exact h
  · rw [heq]
    exact h
  · rw [heq]
    exact h
  · rw [heq]
    exact h.keep _ _

/-- A handle that is handed out is held under the URI asked for. -/
theorem get?_of_template {identifier : String} {handle : TemplateHandle H.Template}
    {next : Workshop H} (h : shop.template identifier = (.ok handle, next)) :
    next.factory.cache.get? (shop.factory.resolve identifier) = some handle := by
  rcases shop.template_cases identifier with
    ⟨held, hget, heq⟩ | ⟨-, -, heq⟩ | ⟨engine, -, -, ⟨detail, -, heq⟩ | ⟨-, heq⟩⟩
  · rw [heq] at h
    cases h
    exact hget
  · rw [heq] at h
    cases h
  · rw [heq] at h
    cases h
  · rw [heq] at h
    cases h
    exact (TemplateCache.get?_keep _ _ _ _).trans (if_pos rfl)

theorem awaitReady_factory (handle : TemplateHandle H.Template) :
    (shop.awaitReady handle).2.factory.engine? = shop.factory.engine? ∧
      (shop.awaitReady handle).2.factory.config = shop.factory.config ∧
      TemplateCache.SameBut handle.uri shop.factory.cache
        (shop.awaitReady handle).2.factory.cache ∧
      (shop.factory.cache.IsFiled → (shop.awaitReady handle).2.factory.cache.IsFiled) := by
  rcases shop.awaitReady_cases handle with ⟨-, heq⟩ | ⟨detail, -, heq⟩ | ⟨-, heq⟩ | heq
  · rw [heq]
    exact ⟨rfl, rfl, .refl _, id⟩
  · rw [heq]
    exact ⟨rfl, rfl, .evict _ _, fun h => h.evict _⟩
  · rw [heq]
    exact ⟨rfl, rfl, .refl _, id⟩
  · rw [heq]
    exact ⟨rfl, rfl, .refl _, id⟩

/-! ### The whole request -/

theorem readyTemplate_of_error {container? : Option ContainerId} {identifier : String}
    {e : FactoryError} {next : Workshop H}
    (h : (shop.bindFrom container?).template identifier = (.error e, next)) :
    shop.readyTemplate container? identifier = (.error e, next) := by
  rw [readyTemplate, h]

theorem readyTemplate_of_ok {container? : Option ContainerId} {identifier : String}
    {handle : TemplateHandle H.Template} {next : Workshop H}
    (h : (shop.bindFrom container?).template identifier = (.ok handle, next)) :
    shop.readyTemplate container? identifier = next.awaitReady handle := by
  rw [readyTemplate, h]

/-- Without an engine nothing is compiled. -/
theorem readyTemplate_of_unbound (container? : Option ContainerId) (identifier : String)
    (hget : shop.factory.cache.get? (shop.factory.resolve identifier) = none)
    (hengine : (shop.bindFrom container?).factory.engine? = none) :
    shop.readyTemplate container? identifier =
      (.error .engineNotBound, shop.bindFrom container?) := by
  rcases (shop.bindFrom container?).template_cases identifier with
    ⟨handle, hheld, -⟩ | ⟨-, -, heq⟩ | ⟨name, -, hname, -⟩
  · rw [cache_bindFrom, resolve_bindFrom, hget] at hheld
    cases hheld
  · exact shop.readyTemplate_of_error heq
  · rw [hengine] at hname
    cases hname

/-- A request at most binds the container's engine, and touches no URI but its own. -/
theorem readyTemplate_factory (hfiled : shop.factory.cache.IsFiled)
    (container? : Option ContainerId) (identifier : String) :
    let next := (shop.readyTemplate container? identifier).2
    next.factory.engine? = (shop.bindFrom container?).factory.engine? ∧
      next.factory.config = shop.factory.config ∧
      TemplateCache.SameBut (shop.factory.resolve identifier) shop.factory.cache
        next.factory.cache ∧
      next.factory.cache.IsFiled := by
  intro next
  have hsame := (shop.bindFrom container?).sameBut_template identifier
  have hkept := (shop.bindFrom container?).isFiled_template (by rwa [cache_bindFrom]) identifier
  rw [cache_bindFrom, resolve_bindFrom] at hsame
  cases htemplate : (shop.bindFrom container?).template identifier with
  | mk result found =>
    have hengine : found.factory.engine? = (shop.bindFrom container?).factory.engine? := by
      have hfound := congrArg (fun r => r.2.factory.engine?) htemplate
      exact hfound.symm
    have hconfig : found.factory.config = shop.factory.config := by
      have hfound := congrArg (fun r => r.2.factory.config) htemplate
      exact hfound.symm.trans (shop.config_bindFrom container?)
    rw [htemplate] at hsame hkept
    cases result with
    | error e =>
      simp only [next]
      rw [shop.readyTemplate_of_error htemplate]
      exact ⟨hengine, hconfig, hsame, hkept⟩
    | ok handle =>
      have hheld := (shop.bindFrom container?).get?_of_template htemplate
      rw [resolve_bindFrom] at hheld
      obtain ⟨hwengine, hwconfig, hwsame, hwkept⟩ := found.awaitReady_factory handle
      rw [hkept _ handle hheld] at hwsame
      simp only [next]
      rw [shop.readyTemplate_of_ok htemplate]
      exact ⟨hwengine.trans hengine, hwconfig.trans hconfig, hsame.trans hwsame, hwkept hkept⟩

/-- A request fails before anything is constructed. -/
theorem not_isOfConstruction_of_readyTemplate {container? : Option ContainerId}
    {identifier : String} {e : FactoryError} {next : Workshop H}
    (h : shop.readyTemplate container? identifier = (.error e, next)) :
    e.isOfConstruction = false := by
  rcases (shop.bindFrom container?).template_cases identifier with
    ⟨handle, -, heq⟩ | ⟨-, -, heq⟩ | ⟨engine, -, -, ⟨detail, -, heq⟩ | ⟨-, heq⟩⟩
  case inl | inr.inr.inr =>
    rw [shop.readyTemplate_of_ok heq] at h
    rcases awaitReady_cases _ _ with ⟨-, hwait⟩ | ⟨detail, -, hwait⟩ | ⟨-, hwait⟩ | hwait
    all_goals
      rw [hwait] at h
      cases h
    all_goals rfl
  all_goals
    rw [shop.readyTemplate_of_error heq] at h
    cases h
    rfl

/-- A template that a request waits for in vain is not handed out: what is handed out is
held and ready. -/
theorem ready_of_readyTemplate {container? : Option ContainerId} {identifier : String}
    {handle : TemplateHandle H.Template} {next : Workshop H}
    (h : shop.readyTemplate container? identifier = (.ok handle, next)) :
    next.factory.cache.get? (shop.factory.resolve identifier) = some handle ∧
      H.status handle.template next.world.state = .ready := by
  cases htemplate : (shop.bindFrom container?).template identifier with
  | mk result found =>
    cases result with
    | error e =>
      rw [shop.readyTemplate_of_error htemplate] at h
      cases h
    | ok held =>
      have hheld := (shop.bindFrom container?).get?_of_template htemplate
      rw [resolve_bindFrom] at hheld
      rw [shop.readyTemplate_of_ok htemplate] at h
      rcases found.awaitReady_cases held with
        ⟨hstatus, heq⟩ | ⟨detail, -, heq⟩ | ⟨-, heq⟩ | heq
      · rw [heq] at h
        cases h
        exact ⟨hheld, hstatus⟩
      · rw [heq] at h
        cases h
      · rw [heq] at h
        cases h
      · rw [heq] at h
        cases h

/-- A handle that is held is handed out or waited for: it stays held, unless the wait ends with
a failure, and there is no wait for a handle that is ready. -/
theorem get?_readyTemplate_of_get? (hfiled : shop.factory.cache.IsFiled)
    (container? : Option ContainerId) {identifier : String} {handle : TemplateHandle H.Template}
    (hget : shop.factory.cache.get? (shop.factory.resolve identifier) = some handle) :
    let next := (shop.readyTemplate container? identifier).2
    next.factory.cache.get? (shop.factory.resolve identifier) = some handle ∨
      (next.factory.cache.get? (shop.factory.resolve identifier) = none ∧
        H.status handle.template shop.world.state ≠ .ready) := by
  intro next
  have hfound : (shop.bindFrom container?).template identifier =
      (.ok handle, shop.bindFrom container?) := by
    apply template_of_get?
    rw [cache_bindFrom, resolve_bindFrom]
    exact hget
  have hkept : (shop.bindFrom container?).factory.cache.get? (shop.factory.resolve identifier) =
      some handle := by
    rw [cache_bindFrom]
    exact hget
  simp only [next]
  rw [shop.readyTemplate_of_ok hfound]
  by_cases hready : H.status handle.template shop.world.state = .ready
  · rw [awaitReady_of_ready _ (by rw [world_bindFrom]; exact hready)]
    exact Or.inl hkept
  · rcases (shop.bindFrom container?).awaitReady_cases handle with
      ⟨-, heq⟩ | ⟨detail, -, heq⟩ | ⟨-, heq⟩ | heq
    · rw [heq]
      exact Or.inl hkept
    · rw [heq]
      refine Or.inr ⟨?_, hready⟩
      exact (TemplateCache.get?_evict _ _ _).trans (if_pos (hfiled _ handle hget))
    · rw [heq]
      exact Or.inl hkept
    · rw [heq]
      exact Or.inl hkept

/-! ### Creations that get no template -/

/-- A creation whose template is not obtained fails as the request for the template does. -/
theorem create_of_error {c : ContainerId} {identifier : String} {e : FactoryError}
    {next : Workshop H}
    (h : shop.flush.2.readyTemplate (some c) identifier = (.error e, next))
    (contextual direct : Attributes) (ownership : Ownership) :
    shop.create (some c) identifier contextual direct ownership = (.error e, next) := by
  simp only [create]
  rw [h]

/-- A batch whose template is not obtained creates nothing. -/
theorem createMany_of_error {c : ContainerId} {identifier : String} {e : FactoryError}
    {next : Workshop H}
    (h : shop.flush.2.readyTemplate (some c) identifier = (.error e, next)) (key : String)
    {values : List Value} (hv : values ≠ []) (base : Attributes) (ownership : Ownership) :
    shop.createMany key values (some c) identifier base ownership = ([], next) := by
  have hne : ¬values.isEmpty = true := by simpa using hv
  simp only [createMany]
  rw [if_neg hne, h]

end Workshop

/-! ## Counting compiles -/

/-- A number that a host's state holds and that counts compiles: each raises it by one, and
the event loop leaves it alone. -/
structure Host.Counts (H : Host) (count : H.State → Nat) : Prop where
  compile : ∀ engine uri mode state, count (H.compile engine uri mode state).2 = count state + 1
  pump : ∀ slice state, count (H.pump slice state).2 = count state

/-- Whether a request for a URI compiles it: nothing is held for it, and there is an engine. -/
def Factory.compiles (f : Factory H) (uri : String) : Bool :=
  (f.cache.get? uri).isNone && f.isBound

namespace Workshop

variable (shop : Workshop H) {count : H.State → Nat}

/-- A request that does not wait compiles once or not at all, and it compiles iff nothing
is held. -/
theorem count_template (hcount : H.Counts count) (identifier : String) :
    count (shop.template identifier).2.world.state = count shop.world.state +
      (shop.factory.compiles (shop.factory.resolve identifier)).toNat := by
  rcases shop.template_cases identifier with
    ⟨handle, hget, heq⟩ | ⟨hget, hengine, heq⟩ |
      ⟨engine, hget, hengine, ⟨detail, -, heq⟩ | ⟨-, heq⟩⟩
  · rw [heq, Factory.compiles, hget]
    rfl
  · rw [heq, Factory.compiles, Factory.isBound, hengine, Bool.and_comm]
    rfl
  · rw [heq, Factory.compiles, Factory.isBound, hget, hengine]
    exact hcount.compile _ _ _ _
  · rw [heq, Factory.compiles, Factory.isBound, hget, hengine]
    exact hcount.compile _ _ _ _

theorem count_awaitReady (hcount : H.Counts count) (handle : TemplateHandle H.Template) :
    count (shop.awaitReady handle).2.world.state = count shop.world.state := by
  have hwaited : count (shop.waited handle) = count shop.world.state :=
    shop.factory.gate.await_preserves (H.status handle.template) H.pump
      (P := fun state => count state = count shop.world.state)
      (fun slice state h => (hcount.pump slice state).trans h) rfl
  rcases shop.awaitReady_cases handle with ⟨-, heq⟩ | ⟨detail, -, heq⟩ | ⟨-, heq⟩ | heq
  · rw [heq]
    exact hwaited
  · rw [heq]
    exact hwaited
  · rw [heq]
    exact hwaited
  · rw [heq]
    exact hwaited

/-- A wait compiles nothing more. -/
theorem count_readyTemplate (hcount : H.Counts count) (container? : Option ContainerId)
    (identifier : String) :
    count (shop.readyTemplate container? identifier).2.world.state = count shop.world.state +
      ((shop.bindFrom container?).factory.compiles (shop.factory.resolve identifier)).toNat := by
  have htemplate := (shop.bindFrom container?).count_template hcount identifier
  rw [world_bindFrom, resolve_bindFrom] at htemplate
  cases heq : (shop.bindFrom container?).template identifier with
  | mk result found =>
    rw [heq] at htemplate
    cases result with
    | error e =>
      rw [shop.readyTemplate_of_error heq]
      exact htemplate
    | ok handle =>
      rw [shop.readyTemplate_of_ok heq, found.count_awaitReady hcount]
      exact htemplate

end Workshop

end SceneFactory
