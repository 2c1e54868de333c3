import SceneFactory.Proofs.Actors.Sound
import SceneFactory.Proofs.Template.Outcomes

/-!
# A creation that fails leaves no trace

A creation can fail without a container, while its template is obtained, or while its object is
constructed. Whatever the stage, what is left next to the flush that it began with is the same
(`Workshop.LeavesNoTrace`): the lists of children, the tracker, the instances and the properties
of all contexts are as they were, an object that was begun is let go once and before its
context, and of the cache at most the requested URI has changed.

Main statement: `Session.failed_creation_leaves_no_trace`, for every session that is reached with
engines and an event loop that leave contexts and scene alone (`Actors.Spares`) and keep no
reference to a context; there the context of the construction is not alive either. Without that
condition it does not hold: an event loop that detaches an instance while a creation waits leaves
its trace in a list of children (`Session.children_of_meddledRun`).
-/

set_option autoImplicit false

namespace SceneFactory

variable {H : Host} {a : Actors H}

/-! ## What a failed creation leaves -/

/-- No trace. What a creation that failed leaves behind, next to what it found and to the
flush that it began with. -/
structure Workshop.LeavesNoTrace (shop next : Workshop H) (container : ContainerId)
    (uri : String) (e : FactoryError) : Prop where
  children : ∀ c, next.world.scene.children c = shop.flush.2.world.scene.children c
  /-- Instances that were there are as they were; one that was made on the way is destroyed. -/
  abandons : shop.flush.2.world.scene.Abandons next.world.scene
    (e.lost (shop.world.contexts.newest + 1))
  live : next.factory.tracker.live = shop.factory.tracker.live
  pending : next.factory.tracker.pending = []
  own : ∀ j ≤ shop.world.contexts.newest, ∀ name,
    next.world.contexts.own? j name = shop.world.contexts.own? j name
  property : ∀ j ≤ shop.world.contexts.newest, ∀ name,
    next.world.contexts.property? j name = shop.world.contexts.property? j name
  engine : next.factory.engine? =
    shop.factory.engine?.or ((shop.world.scene.container? container).bind Container.engine?)
  cache : TemplateCache.SameBut uri shop.factory.cache next.factory.cache
  config : next.factory.config = shop.factory.config
  rootContext : next.factory.rootContext = shop.factory.rootContext

namespace Actors

/-- Whether a creation gets as far as to begin an object. -/
def begins (a : Actors H) (shop : Workshop H) (container : ContainerId) (identifier : String)
    (contextual : Attributes) : Bool :=
  match a.readyTemplate shop.flush.2 (some container) identifier with
  | (.error _, _) => false
  | (.ok handle, ready) =>
    let entered := ready.world.enter container ready.factory.rootContext contextual
    (a.construct handle.template entered.surroundings entered).1.isSome

variable {shop : Workshop H} {container : ContainerId} {identifier : String}
  {contextual direct : Attributes} {ownership : Ownership} {e : FactoryError} {next : Workshop H}

/-- A construction that fails changes nothing about the factory. -/
theorem constructIn_of_error {handle : TemplateHandle H.Template}
    (h : a.constructIn shop handle container contextual direct ownership = (.error e, next)) :
    a.build shop.world handle container shop.factory.rootContext contextual direct =
        (.error e, next.world) ∧
      next.factory = shop.factory := by
  rw [constructIn] at h
  cases hbuilt : a.build shop.world handle container shop.factory.rootContext contextual
      direct with
  | mk result world =>
    rw [hbuilt] at h
    cases result with
    | error e' =>
      cases h
      exact ⟨rfl, rfl⟩
    | ok i => cases h

/-- A creation that fails leaves no trace, and it lets go of an object iff it has begun
one. -/
theorem leavesNoTrace_of_create (hcontexts : a.Spares World.contexts)
    (hscene : a.Spares World.scene) (hfiled : shop.factory.cache.IsFiled)
    (h : a.create shop (some container) identifier contextual direct ownership =
      (.error e, next)) :
    shop.LeavesNoTrace next container (shop.factory.resolve identifier) e ∧
      (e.lost (shop.world.contexts.newest + 1)).count
          (.object (shop.world.contexts.newest + 1)) =
        (a.begins shop container identifier contextual).toNat := by
  obtain ⟨hs, hc, htracker, hroot⟩ :=
    readyTemplate_frame hcontexts hscene shop.flush.2 (some container) identifier
  obtain ⟨hengine, hconfig, hcache, -⟩ :=
    readyTemplate_factory hcontexts hscene shop.flush.2 hfiled (some container) identifier
  rw [shop.engine?_bindFrom_flush, shop.engine?_bindFrom] at hengine
  rw [begins]
  simp only [create] at h
  cases hready : a.readyTemplate shop.flush.2 (some container) identifier with
  | mk result ready =>
    rw [hready] at h hs hc htracker hroot hengine hconfig hcache
    have hlive : ready.factory.tracker.live = shop.factory.tracker.live := by
      rw [show ready.factory.tracker = _ from htracker]
      rfl
    have hpending : ready.factory.tracker.pending = [] := by
      rw [show ready.factory.tracker = _ from htracker]
      rfl
    cases result with
    | error e' =>
      -- no template: the world has not been touched since the flush
      cases h
      have hlost := FactoryError.lost_of_not_isOfConstruction (shop.world.contexts.newest + 1)
        (not_isOfConstruction_of_readyTemplate hcontexts hscene hready)
      rw [hlost]
      refine ⟨⟨?_, ?_, hlive, hpending, ?_, ?_, hengine, hcache, hconfig, hroot⟩, rfl⟩
      · intro c
        rw [hs]
      · rw [hs, hlost]
        exact .refl _
      · intro j _ name
        rw [hc]
        rfl
      · intro j _ name
        rw [hc]
        rfl
    | ok handle =>
      -- with the template: a context was made, and all that was made is let go
      obtain ⟨hbuilt, hfactory⟩ := constructIn_of_error h
      obtain ⟨hentered, habandons, hbegun⟩ := build_error hcontexts hscene _ _ _ _ _ _ hbuilt
      have hnewest : ready.world.contexts.newest = shop.world.contexts.newest := by
        rw [hc]
        rfl
      rw [hnewest, hs] at habandons
      rw [hnewest] at hbegun
      refine ⟨⟨?_, habandons, ?_, ?_, ?_, ?_, ?_, ?_, ?_, ?_⟩, hbegun⟩
      · intro c
        simp only [Scene.children, Scene.container?]
        rw [habandons.containers]
      · rw [hfactory]
        exact hlive
      · rw [hfactory]
        exact hpending
      · intro j hj name
        rw [hentered, ready.world.own?_enter_of_le _ _ _ (hnewest ▸ hj), hc]
        rfl
      · intro j hj name
        rw [hentered, ready.world.property?_enter_of_le _ _ _ (hnewest ▸ hj), hc]
        rfl
      · rw [hfactory]
        exact hengine
      · rw [hfactory]
        exact hcache
      · rw [hfactory]
        exact hconfig
      · rw [hfactory]
        exact hroot

end Actors

/-- The actors of a host act on its state only, so no creation that fails leaves a trace. -/
theorem Workshop.leavesNoTrace_of_create {shop next : Workshop H} {container : ContainerId}
    {identifier : String} {contextual direct : Attributes} {ownership : Ownership}
    {e : FactoryError} (hfiled : shop.factory.cache.IsFiled)
    (h : shop.create (some container) identifier contextual direct ownership =
      (.error e, next)) :
    shop.LeavesNoTrace next container (shop.factory.resolve identifier) e := by
  rw [← Actors.create_host] at h
  exact (Actors.leavesNoTrace_of_create Actors.spares_contexts_host Actors.spares_scene_host
    hfiled h).1

/-! ## In a session -/

namespace Session

variable {s : Session H} {factory : Factory H} {container : ContainerId} {identifier : String}
  {contextual direct : Attributes} {ownership : Ownership} {e : FactoryError} {next : Workshop H}

/-- After a creation that failed, every reference leads to a context that was there before
it. -/
theorem le_of_mem_contextReferences_of_trace (hsound : s.IsSound) (hf : s.factory? = some factory)
    {uri : String} (htrace : (Workshop.mk factory s.world).LeavesNoTrace next container uri e)
    {k : ContextId} (hk : k ∈ (s.withShop next).contextReferences) :
    k ≤ s.world.contexts.newest := by
  let shop : Workshop H := ⟨factory, s.world⟩
  have hgrounded := hsound.grounded
  have hflushed : shop.flush.2.world.scene.IsBooked s.world.contexts.newest :=
    hsound.booked.moves shop.changes_flush.moves
  simp only [contextReferences, Scene.heldContexts, List.mem_append, List.mem_filterMap] at hk
  rcases hk with (hk | hk) | ⟨c, -, hk⟩ | ⟨i, -, hk⟩
  · exact hgrounded.held k hk
  · rw [List.mem_singleton.1 hk, show next.factory.rootContext = _ from htrace.rootContext]
    exact hgrounded.root factory hf
  · obtain ⟨child, hc, hcontext⟩ := Option.bind_eq_some_iff.1 hk
    have hflush : shop.flush.2.world.scene.container? c = some child := by
      rw [← hc]
      simp only [Scene.container?, withShop]
      rw [htrace.abandons.containers]
    obtain ⟨parent, hparent, hsame, -⟩ := shop.keeps_flush.containers c child hflush
    exact hgrounded.container c parent k hparent (hsame.trans hcontext)
  · -- an instance is as it was after the flush, or destroyed
    obtain ⟨inst, hi, hcontext⟩ := Option.bind_eq_some_iff.1 hk
    by_cases hold : i ≤ shop.flush.2.world.scene.instances.size
    · rw [show (s.withShop next).world = next.world from rfl, htrace.abandons.old hold] at hi
      exact (hflushed.held hi hcontext).1
    · rw [htrace.abandons.new (Nat.lt_of_not_le hold) hi] at hcontext
      cases hcontext

/-- A creation that fails leaves no trace. In every session that a host can reach, with
whatever engines and event loop that leave contexts and scene alone:

* without a container the creation fails for that reason, and nothing has changed at all;
* with one, it leaves no trace beside the flush that it began with; the context of the
  construction, if one was made, is not alive; an object is let go exactly once if one was
  begun, and before its context, and else never. -/
theorem failed_creation_leaves_no_trace (hcontexts : a.Spares World.contexts)
    (hscene : a.Spares World.scene) (config : Config) (state : H.State)
    {ops : List (Operation H)}
    (hops : a.Throughout (fun s op => op.NamesContext s) (start config state) ops)
    (hf : (a.after (start config state) ops).factory? = some factory)
    {container? : Option ContainerId}
    (h : a.create ⟨factory, (a.after (start config state) ops).world⟩ container? identifier
      contextual direct ownership = (.error e, next)) :
    let s := a.after (start config state) ops
    let shop : Workshop H := ⟨factory, s.world⟩
    let k := s.world.contexts.newest + 1
    (container? = none → e = .noContainer ∧ next = shop) ∧
      ∀ container, container? = some container →
        shop.LeavesNoTrace next container (factory.resolve identifier) e ∧
          (s.withShop next).isContextAlive k = false ∧
          next.world.scene.objectReleases k =
            (a.begins shop container identifier contextual).toNat ∧
          next.world.scene.releases = shop.flush.2.world.scene.releases ++ e.lost k ∧
          next.world.scene.releases.Nodup ∧
          factory.rootContext ≤ s.world.contexts.newest ∧
          ∀ c place j, s.world.scene.container? c = some place → place.context? = some j →
            j ≤ s.world.contexts.newest := by
  intro s shop k
  have hsound : s.IsSound := Actors.isSound_after hcontexts hscene config state hops
  have hshop : (s.withShop shop).IsSound := by
    rw [show s.withShop shop = s by rw [withShop, ← hf]]
    exact hsound
  have hfiled : factory.cache.IsFiled := hsound.filed factory hf
  refine ⟨?_, ?_⟩
  · rintro rfl
    cases h
    exact ⟨rfl, rfl⟩
  · rintro container rfl
    obtain ⟨htrace, hbegun⟩ := Actors.leavesNoTrace_of_create hcontexts hscene hfiled h
    have hflushed : shop.flush.2.world.scene.IsBooked s.world.contexts.newest :=
      hsound.booked.moves shop.changes_flush.moves
    have hnext := Actors.isSound_create hcontexts hscene hshop (some container) identifier
      contextual direct ownership
    rw [show a.create shop (some container) identifier contextual direct ownership = _ from h]
      at hnext
    have hunwritten : shop.flush.2.world.scene.releases.count (.object k) = 0 := by
      rw [List.count_eq_zero]
      intro hmem
      exact Nat.not_succ_le_self _ (hflushed.origin_le _ hmem)
    refine ⟨htrace, ?_, ?_, htrace.abandons.releases, hnext.booked.nodup,
      hsound.grounded.root factory hf, hsound.grounded.container⟩
    · apply isContextAlive_of_references
      intro j hj
      exact Nat.lt_succ_of_le (le_of_mem_contextReferences_of_trace hsound hf htrace hj)
    · rw [Scene.objectReleases, htrace.abandons.releases, List.count_append, hunwritten,
        Nat.zero_add]
      exact hbegun

end Session

/-- A run in the studio: a label is created and destroyed, and there is a template whose objects
cannot be attached. -/
def Studio.soundRun : List (Operation studio) :=
  [.outside fun (s : Studio.State) => s.withScripted ((s.scripted.add
      ⟨"/label", .ready, .visual, "", "Label", .empty, true, true, none, []⟩).add
      ⟨"/sound", .ready, .plain, "", "Sound", .empty, true, true, none, []⟩),
    .addContainer "root" none (some EngineName.scripted),
    .create (some 1) "/label" .empty .empty .tracked, .destroy 1]

/-- After that run a sound fails to be created: the flush has released the label, the sound was
let go once, and its context is not alive. -/
theorem Session.failed_creation_of_soundRun :
    let s := (start (H := studio) Config.default (default : Studio.State)).after Studio.soundRun
    ∃ factory next, s.factory? = some factory ∧
      Workshop.create ⟨factory, s.world⟩ (some 1) "/sound" .empty .empty .tracked =
        (.error (.incompatibleType "/sound" "Sound"), next) ∧
      next.world.scene.releases = [.object 2, .context 2, .object 3, .context 3] ∧
      next.world.scene.children 1 = [] ∧ next.factory.tracker.live = [] ∧
      (s.withShop next).isContextAlive 3 = false := by
  intro s
  have hrun : (s.factory?.map fun factory =>
      let shop : Workshop studio := ⟨factory, s.world⟩
      ((shop.create (some 1) "/sound" .empty .empty .tracked).1, shop.flush.2.world.scene.releases,
        shop.flush.2.world.scene.children 1, factory.tracker.live)) =
      some (.error (.incompatibleType "/sound" "Sound"), [.object 2, .context 2], [], []) := by
    decide +kernel
  have hops : studio.actors.Throughout (fun s op => op.NamesContext s)
      (start (H := studio) Config.default (default : Studio.State)) Studio.soundRun :=
    Actors.throughout_host.2 ⟨trivial, trivial, trivial, trivial, trivial⟩
  have hafter : studio.actors.after (start (H := studio) Config.default (default : Studio.State))
      Studio.soundRun = s := Actors.after_host _ _
  have hnewest : s.world.contexts.newest = 2 := by decide +kernel
  obtain ⟨factory, hf, hrun⟩ := Option.map_eq_some_iff.1 hrun
  obtain ⟨herror, hrest⟩ := Prod.mk.inj hrun
  obtain ⟨hreleases, hrest⟩ := Prod.mk.inj hrest
  obtain ⟨hchildren, hlive⟩ := Prod.mk.inj hrest
  obtain ⟨next, hcreate⟩ : ∃ next,
      Workshop.create ⟨factory, s.world⟩ (some 1) "/sound" .empty .empty .tracked =
        (.error (.incompatibleType "/sound" "Sound"), next) := ⟨_, Prod.ext herror rfl⟩
  obtain ⟨-, htrace⟩ := failed_creation_leaves_no_trace (H := studio)
    Actors.spares_contexts_host Actors.spares_scene_host Config.default
    (default : Studio.State) hops (hafter ▸ hf)
    ((Actors.create_host _ _ _ _ _ _).trans (hafter ▸ hcreate))
  obtain ⟨htrace, halive, -, hnext, -⟩ := htrace 1 rfl
  rw [hafter] at htrace halive hnext
  rw [hreleases, show _ = 2 from hnewest] at hnext
  rw [show _ = 2 from hnewest] at halive
  exact ⟨factory, next, hf, hcreate, hnext, (htrace.children 1).trans hchildren,
    htrace.live.trans hlive, halive⟩

/-- The actors of the studio with an event loop that detaches the first instance in each
slice. -/
def Studio.meddling : Actors studio :=
  ⟨studio.actors.compile, studio.actors.construct, studio.actors.complete,
    fun slice w => (slice, w.withScene (w.scene.detach 1 .free).2)⟩

/-- A run in the studio: there is one label in a container, and a template that is loading. -/
def Studio.meddledRun : List (Operation studio) :=
  [.outside fun (s : Studio.State) => s.withScripted ((s.scripted.add
      ⟨"/label", .ready, .visual, "", "Label", .empty, true, true, none, []⟩).add
      ⟨"/slow", .loading, .visual, "", "Slow", .empty, true, true, none, []⟩),
    .addContainer "root" none (some EngineName.scripted),
    .create (some 1) "/label" .empty .empty .delegated]

/-- A trace in a list of children. An event loop that writes to no context and detaches the label
while a creation waits for the other template leaves the container without a child, though the
creation fails. -/
theorem Session.children_of_meddledRun :
    let s := Studio.meddling.after (start Studio.impatient Studio.quiet) Studio.meddledRun
    Studio.meddling.Spares World.contexts ∧
      Studio.meddling.Throughout (fun s op => op.NamesContext s)
        (start Studio.impatient Studio.quiet) Studio.meddledRun ∧
      ∃ factory next, s.factory? = some factory ∧
        Studio.meddling.create ⟨factory, s.world⟩ (some 1) "/slow" .empty .empty .tracked =
          (.error (.timedOut "/slow" (Duration.ofMillis 2)), next) ∧
        (Workshop.mk factory s.world).flush.2.world.scene.children 1 = [1] ∧
        next.world.scene.children 1 = [] := by
  intro s
  refine ⟨⟨fun _ _ _ _ => rfl, fun _ _ _ => rfl, fun _ _ _ _ => rfl, fun _ _ => rfl⟩,
    ⟨trivial, trivial, trivial, trivial⟩, ?_⟩
  have hrun : (s.factory?.map fun factory =>
      let shop : Workshop studio := ⟨factory, s.world⟩
      let created := Studio.meddling.create shop (some 1) "/slow" .empty .empty .tracked
      (created.1, shop.flush.2.world.scene.children 1, created.2.world.scene.children 1)) =
      some (.error (.timedOut "/slow" (Duration.ofMillis 2)), [1], []) := by
    decide +kernel
  obtain ⟨factory, hf, hrun⟩ := Option.map_eq_some_iff.1 hrun
  obtain ⟨herror, hrest⟩ := Prod.mk.inj hrun
  obtain ⟨hbefore, hafter⟩ := Prod.mk.inj hrest
  exact ⟨factory, _, hf, Prod.ext herror rfl, hbefore, hafter⟩

end SceneFactory
