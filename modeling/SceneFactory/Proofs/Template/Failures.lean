import SceneFactory.Proofs.Template.Runs
import SceneFactory.Proofs.World.Failure

/-!
# Failures that are held

A compile may fail while nobody waits for it: after a request that came too early, or after
one that did not wait at all. The failed compile is then held like any other, and a request
looks at nothing but what is held: one that does not wait hands the failed handle out, one
that waits reports the failure that is stored and only then forgets it. Nothing is compiled
in either case (`Session.held_failure_iff`).

A request at which no failed compile is held is answered afresh: an error that it reports
belongs to a compile that it made itself or that was still loading when it began.
-/

set_option autoImplicit false

namespace SceneFactory

variable {H : Host}

/-- The compile that is held for a URI has failed. -/
def Factory.HoldsFailed (f : Factory H) (state : H.State) (uri detail : String) : Prop :=
  ∃ handle, f.cache.get? uri = some handle ∧ H.status handle.template state = .failed detail

/-- The compile that is held for a URI has not come to an end. -/
def Factory.HoldsLoading (f : Factory H) (state : H.State) (uri : String) : Prop :=
  ∃ handle, f.cache.get? uri = some handle ∧ H.status handle.template state = .loading

/-- Whether a request for a URI can report what was not known when it began: it compiles the
URI, or the compile that is held is loading still. -/
def Factory.AsksAnew (f : Factory H) (state : H.State) (uri : String) : Prop :=
  f.HoldsLoading state uri ∨ f.compiles uri = true

theorem Factory.asksAnew_congr {f g : Factory H} (hcache : f.cache = g.cache)
    (hengine : f.engine? = g.engine?) {state : H.State} {uri : String} :
    f.AsksAnew state uri ↔ g.AsksAnew state uri := by
  rw [AsksAnew, HoldsLoading, compiles, isBound, hcache, hengine]
  exact Iff.rfl

/-- At a failed compile nothing is asked anew. -/
theorem Factory.HoldsFailed.not_asksAnew {f : Factory H} {state : H.State} {uri detail : String}
    (h : f.HoldsFailed state uri detail) : ¬f.AsksAnew state uri := by
  obtain ⟨handle, hget, hfailed⟩ := h
  rintro (⟨other, hother, hloading⟩ | hcompiles)
  · rw [hget] at hother
    cases hother
    rw [hfailed] at hloading
    cases hloading
  · rw [compiles, hget] at hcompiles
    cases hcompiles

namespace Workshop

variable (shop : Workshop H) {identifier detail : String}

/-- A request that does not wait hands a failed handle out iff one is held. -/
theorem template_failed_iff :
    (∃ handle, (shop.template identifier).1 = .ok handle ∧
        H.status handle.template (shop.template identifier).2.world.state = .failed detail) ↔
      shop.factory.HoldsFailed shop.world.state (shop.factory.resolve identifier) detail := by
  rcases shop.template_cases identifier with
    ⟨held, hget, heq⟩ | ⟨hget, -, heq⟩ |
      ⟨engine, hget, -, ⟨reason, -, heq⟩ | ⟨hstatus, heq⟩⟩
  · rw [heq, Factory.HoldsFailed, hget]
    constructor
    · rintro ⟨handle, hok, hfailed⟩
      cases hok
      exact ⟨held, rfl, hfailed⟩
    · rintro ⟨handle, hok, hfailed⟩
      cases hok
      exact ⟨held, rfl, hfailed⟩
  · rw [heq, Factory.HoldsFailed, hget]
    constructor <;> rintro ⟨handle, hok, -⟩ <;> cases hok
  · rw [heq, Factory.HoldsFailed, hget]
    constructor <;> rintro ⟨handle, hok, -⟩ <;> cases hok
  · rw [heq, Factory.HoldsFailed, hget]
    constructor
    · rintro ⟨handle, hok, hfailed⟩
      cases hok
      exact absurd hfailed (hstatus detail)
    · rintro ⟨handle, hok, -⟩
      cases hok

/-- A request that waits reports the failure that is held, without a compile, and forgets
it. -/
theorem readyTemplate_of_failed (hfiled : shop.factory.cache.IsFiled)
    (h : shop.factory.HoldsFailed shop.world.state (shop.factory.resolve identifier) detail)
    (container? : Option ContainerId) :
    shop.readyTemplate container? identifier =
      (.error (.compileFailed (shop.factory.resolve identifier) detail),
        ⟨(shop.bindFrom container?).factory.withCache
          (shop.factory.cache.evict (shop.factory.resolve identifier)), shop.world⟩) := by
  obtain ⟨handle, hget, hfailed⟩ := h
  have hfound : (shop.bindFrom container?).template identifier =
      (.ok handle, shop.bindFrom container?) := by
    apply template_of_get?
    rw [cache_bindFrom, resolve_bindFrom]
    exact hget
  rw [← world_bindFrom shop container?] at hfailed
  rw [shop.readyTemplate_of_ok hfound]
  simp only [awaitReady]
  rw [Gate.await_of_failed _ _ _ hfailed]
  dsimp only
  rw [hfiled _ handle hget, cache_bindFrom, world_bindFrom]
  rfl

/-- A compile error that is no stored failure is news. -/
theorem compileFailed_of_readyTemplate (hfiled : shop.factory.cache.IsFiled)
    {container? : Option ContainerId} {uri : String} {next : Workshop H}
    (h : shop.readyTemplate container? identifier = (.error (.compileFailed uri detail), next)) :
    uri = shop.factory.resolve identifier ∧
      (shop.factory.HoldsFailed shop.world.state uri detail ∨
        (shop.bindFrom container?).factory.AsksAnew shop.world.state uri) := by
  rcases (shop.bindFrom container?).template_cases identifier with
    ⟨handle, hget, heq⟩ | ⟨-, -, heq⟩ |
      ⟨engine, hget, hengine, ⟨reason, -, heq⟩ | ⟨-, heq⟩⟩
  · -- the error names the handle's URI, which is the one asked for
    have huri : handle.uri = shop.factory.resolve identifier := by
      rw [resolve_bindFrom, cache_bindFrom] at hget
      exact hfiled _ handle hget
    rw [resolve_bindFrom] at hget
    rw [shop.readyTemplate_of_ok heq] at h
    cases hstatus : H.status handle.template (shop.bindFrom container?).world.state with
    | ready =>
      simp only [awaitReady] at h
      rw [Gate.await_of_ready _ _ _ hstatus] at h
      cases h
    | failed reason =>
      simp only [awaitReady] at h
      rw [Gate.await_of_failed _ _ _ hstatus] at h
      cases h
      rw [cache_bindFrom] at hget
      rw [world_bindFrom] at hstatus
      exact ⟨huri, Or.inl ⟨handle, huri ▸ hget, hstatus⟩⟩
    | loading =>
      rw [world_bindFrom] at hstatus
      rcases (shop.bindFrom container?).awaitReady_cases handle with
        ⟨-, hwait⟩ | ⟨reason, -, hwait⟩ | ⟨-, hwait⟩ | hwait
      · rw [hwait] at h
        cases h
      · rw [hwait] at h
        cases h
        exact ⟨huri, Or.inr (Or.inl ⟨handle, huri ▸ hget, hstatus⟩)⟩
      · rw [hwait] at h
        cases h
      · rw [hwait] at h
        cases h
  · rw [shop.readyTemplate_of_error heq] at h
    cases h
  · rw [shop.readyTemplate_of_error heq] at h
    cases h
    refine ⟨shop.resolve_bindFrom container? identifier, Or.inr (Or.inr ?_)⟩
    rw [Factory.compiles, hget, Factory.isBound, hengine]
    rfl
  · rw [shop.readyTemplate_of_ok heq] at h
    rcases awaitReady_cases _ _ with ⟨-, hwait⟩ | ⟨reason, -, hwait⟩ | ⟨-, hwait⟩ | hwait
    · rw [hwait] at h
      cases h
    · rw [hwait] at h
      cases h
      refine ⟨shop.resolve_bindFrom container? identifier, Or.inr (Or.inr ?_)⟩
      change Factory.compiles _ ((shop.bindFrom container?).factory.resolve identifier) = true
      rw [Factory.compiles, hget, Factory.isBound, hengine]
      rfl
    · rw [hwait] at h
      cases h
    · rw [hwait] at h
      cases h

/-- A request that waits reports a failure of old iff one is held. -/
theorem readyTemplate_failed_iff (hfiled : shop.factory.cache.IsFiled)
    (container? : Option ContainerId) :
    ((shop.readyTemplate container? identifier).1 =
          .error (.compileFailed (shop.factory.resolve identifier) detail) ∧
        ¬(shop.bindFrom container?).factory.AsksAnew shop.world.state
          (shop.factory.resolve identifier)) ↔
      shop.factory.HoldsFailed shop.world.state (shop.factory.resolve identifier) detail := by
  constructor
  · rintro ⟨herror, hanew⟩
    obtain ⟨-, hfailed | hnews⟩ :=
      shop.compileFailed_of_readyTemplate hfiled (Prod.ext herror rfl)
    · exact hfailed
    · exact absurd hnews hanew
  · intro hfailed
    have hbound : (shop.bindFrom container?).factory.HoldsFailed shop.world.state
        (shop.factory.resolve identifier) detail := by
      rw [Factory.HoldsFailed, cache_bindFrom]
      exact hfailed
    exact ⟨by rw [shop.readyTemplate_of_failed hfiled hfailed container?], hbound.not_asksAnew⟩

/-- A creation reports a compile error iff the request for its template does. -/
theorem compileFailed_create_iff (c : ContainerId) (contextual direct : Attributes)
    (ownership : Ownership) (uri : String) :
    (shop.create (some c) identifier contextual direct ownership).1 =
        .error (.compileFailed uri detail) ↔
      (shop.flush.2.readyTemplate (some c) identifier).1 = .error (.compileFailed uri detail) := by
  cases hr : shop.flush.2.readyTemplate (some c) identifier with
  | mk result next =>
    cases result with
    | error e =>
      rw [shop.create_of_error hr]
      constructor <;> intro herror <;> cases herror <;> rfl
    | ok handle =>
      constructor
      · intro herror
        simp only [create] at herror
        rw [hr] at herror
        have hbuilt : (next.world.construct handle c next.factory.rootContext contextual
            direct).1 = .error (.compileFailed uri detail) := by
          rw [← next.answer_construct handle c contextual direct ownership]
          exact herror
        obtain ⟨hconstruction, -⟩ := World.construct_error _ _ _ _ _ _ (Prod.ext hbuilt rfl)
        cases hconstruction
      · intro herror
        cases herror

/-- A creation reports a failure of old iff one is held. -/
theorem create_failed_iff (hfiled : shop.factory.cache.IsFiled) (c : ContainerId)
    (contextual direct : Attributes) (ownership : Ownership) :
    ((shop.create (some c) identifier contextual direct ownership).1 =
          .error (.compileFailed (shop.factory.resolve identifier) detail) ∧
        ¬(shop.bindFrom (some c)).factory.AsksAnew shop.world.state
          (shop.factory.resolve identifier)) ↔
      shop.factory.HoldsFailed shop.world.state (shop.factory.resolve identifier) detail := by
  have hanew : (shop.bindFrom (some c)).factory.AsksAnew shop.world.state
        (shop.factory.resolve identifier) ↔
      (shop.flush.2.bindFrom (some c)).factory.AsksAnew shop.world.state
        (shop.factory.resolve identifier) := by
    apply Factory.asksAnew_congr
    · rw [cache_bindFrom, cache_bindFrom]
      rfl
    · exact (shop.engine?_bindFrom_flush (some c)).symm
  rw [shop.compileFailed_create_iff, hanew]
  exact shop.flush.2.readyTemplate_failed_iff hfiled (some c)

end Workshop

/-- Failures that are held are served. In every session, for every request:

* a request that does not wait hands out a handle that has failed iff a failed compile is held
  for its URI;
* a request that waits, and a creation, report a failure that was there when they began iff a
  failed compile is held for the URI;
* where one is held, none of them touches the host: nothing is compiled. One that waits forgets
  the URI, a creation too, and a batch is empty;
* in any way of counting compiles, a request counts one iff nothing is held and there is an
  engine. -/
theorem Session.held_failure_iff (config : Config) (state : H.State) (ops : List (Operation H))
    {factory : Factory H} (hf : ((start config state).after ops).factory? = some factory)
    (identifier detail : String) :
    let shop : Workshop H := ⟨factory, ((start config state).after ops).world⟩
    let uri := factory.resolve identifier
    ((∃ handle, (shop.template identifier).1 = .ok handle ∧
          H.status handle.template (shop.template identifier).2.world.state = .failed detail) ↔
        factory.HoldsFailed shop.world.state uri detail) ∧
      (∀ container?,
        ((shop.readyTemplate container? identifier).1 = .error (.compileFailed uri detail) ∧
            ¬(shop.bindFrom container?).factory.AsksAnew shop.world.state uri) ↔
          factory.HoldsFailed shop.world.state uri detail) ∧
      (∀ c contextual direct ownership,
        ((shop.create (some c) identifier contextual direct ownership).1 =
              .error (.compileFailed uri detail) ∧
            ¬(shop.bindFrom (some c)).factory.AsksAnew shop.world.state uri) ↔
          factory.HoldsFailed shop.world.state uri detail) ∧
      (factory.HoldsFailed shop.world.state uri detail →
        (shop.template identifier).2 = shop ∧
          (∀ container?, (shop.readyTemplate container? identifier).2.world = shop.world ∧
            (shop.readyTemplate container? identifier).2.factory.cache =
              factory.cache.evict uri) ∧
          ∀ c contextual direct ownership key value rest base,
            let created := shop.create (some c) identifier contextual direct ownership
            created.2.world = shop.flush.2.world ∧
              created.2.factory.cache = factory.cache.evict uri ∧
              shop.createMany key (value :: rest) (some c) identifier base ownership =
                ([], created.2)) ∧
      ∀ count, H.Counts count →
        count (shop.template identifier).2.world.state =
            count shop.world.state + (factory.compiles uri).toNat ∧
          ∀ container?, count (shop.readyTemplate container? identifier).2.world.state =
            count shop.world.state + ((shop.bindFrom container?).factory.compiles uri).toNat := by
  intro shop uri
  have hfiled : factory.cache.IsFiled := isFiled_after config state ops factory hf
  refine ⟨shop.template_failed_iff,
    fun container? => shop.readyTemplate_failed_iff hfiled container?,
    fun c contextual direct ownership =>
      shop.create_failed_iff hfiled c contextual direct ownership, fun hfailed => ⟨?_, ?_, ?_⟩,
    fun count hcount => ⟨shop.count_template hcount identifier, fun container? =>
      shop.count_readyTemplate hcount container? identifier⟩⟩
  · obtain ⟨handle, hget, -⟩ := hfailed
    rw [shop.template_of_get? hget]
  · intro container?
    rw [shop.readyTemplate_of_failed hfiled hfailed container?]
    exact ⟨rfl, rfl⟩
  · intro c contextual direct ownership key value rest base created
    -- the flush that comes first changes neither the cache nor the host
    have hready := shop.flush.2.readyTemplate_of_failed hfiled hfailed (some c)
    have hcreated : created = _ := shop.create_of_error hready contextual direct ownership
    rw [hcreated]
    exact ⟨rfl, rfl,
      shop.createMany_of_error hready key (List.cons_ne_nil value rest) base ownership⟩

/-- A run in the studio: a request that does not wait starts a compile before there is a
source, the compile fails in the queue, and the source comes too late. -/
def Studio.lateRun : List (Operation studio) :=
  [.bind EngineName.markup, .addContainer "root" none none, .template "mem:/A",
    .outside fun (s : Studio.State) => s.withMarkup s.markup.runQueue.2,
    .outside fun (s : Studio.State) => s.withMarkup (s.markup.register "mem:/A" "item A \x7b \x7d")]

/-- The studio with an event queue that its engine alone uses. -/
def Studio.queued : Studio.State :=
  ⟨Markup.Engine.new .empty Files.noFiles true, Scripted.Engine.empty, .queue⟩

/-- With the source there, a request still gets the failure of the compile that came too
early: it is handed out, a creation reports it, and nothing is compiled again. -/
theorem Session.stale_failure_of_lateRun :
    let s := (start (H := studio) Config.default Studio.queued).after Studio.lateRun
    (s.factory?.map fun factory =>
        let shop : Workshop studio := ⟨factory, s.world⟩
        let asked := shop.template "mem:/A"
        let created := shop.create (some 1) "mem:/A" .empty .empty .delegated
        (asked.1.toOption.map fun handle => studio.status handle.template asked.2.world.state,
          (match created.1 with
            | .error e => some e
            | .ok _ => none),
          asked.2.world.state.markup.compiles, created.2.world.state.markup.compiles)) =
      some (some (.failed "no source registered for 'mem:/A'"),
        some (.compileFailed "mem:/A" "no source registered for 'mem:/A'"), 1, 1) ∧
    s.world.state.markup.compiles = 1 ∧
    (s.world.state.markup.source "mem:/A").toOption = some "item A \x7b \x7d" := by
  decide +kernel

/-- What `held_failure_iff` says at the end of that run: for every container and all attributes,
a creation compiles nothing and reports the failure that is held. -/
theorem Session.held_failure_of_lateRun :
    ∃ factory, ((start (H := studio) Config.default Studio.queued).after
        Studio.lateRun).factory? = some factory ∧
      ∀ c contextual direct ownership,
        let shop : Workshop studio := ⟨factory,
          ((start (H := studio) Config.default Studio.queued).after Studio.lateRun).world⟩
        (shop.create (some c) "mem:/A" contextual direct ownership).1 =
            .error (.compileFailed "mem:/A" "no source registered for 'mem:/A'") ∧
          (shop.create (some c) "mem:/A" contextual direct ownership).2.world =
            shop.flush.2.world := by
  have hheld : (((start (H := studio) Config.default Studio.queued).after
      Studio.lateRun).factory?.bind fun factory =>
        (factory.cache.get? (factory.resolve "mem:/A")).map fun handle =>
          (factory.resolve "mem:/A", studio.status handle.template
            ((start (H := studio) Config.default Studio.queued).after
              Studio.lateRun).world.state)) =
      some ("mem:/A", .failed "no source registered for 'mem:/A'") := by
    decide +kernel
  obtain ⟨factory, hf, hheld⟩ := Option.bind_eq_some_iff.1 hheld
  obtain ⟨handle, hget, hstatus⟩ := Option.map_eq_some_iff.1 hheld
  obtain ⟨huri, hfailed⟩ := Prod.mk.inj hstatus
  obtain ⟨-, -, hcreate, hquiet, -⟩ := held_failure_iff (H := studio) Config.default
    Studio.queued Studio.lateRun hf "mem:/A" "no source registered for 'mem:/A'"
  rw [huri] at hcreate hquiet hget
  obtain ⟨-, -, hquiet⟩ := hquiet ⟨handle, hget, hfailed⟩
  refine ⟨factory, hf, fun c contextual direct ownership => ⟨?_, ?_⟩⟩
  · exact ((hcreate c contextual direct ownership).2 ⟨handle, hget, hfailed⟩).1
  · exact (hquiet c contextual direct ownership "key" .null [] .empty).1

end SceneFactory
