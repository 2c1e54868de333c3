import SceneFactory.Proofs.Template.Runs

/-!
# What comes of a request for a template

A request that waits has five ways to end, and `Workshop.readyTemplate_cases` says of each what
is held for the URI afterwards: the handle that is handed out, nothing after a failure, a handle
that is loading still after a wait in vain.

Main statement: `Session.request_outcome`, about every request in every reachable session. A
handle that a wait gave up on is not given up: as long as the URI is held, that handle is what is
held for it, and once it is ready every request is answered with it (`Session.Serves`).
-/

set_option autoImplicit false

namespace SceneFactory

variable {H : Host}

/-! ## The ways in which a request ends -/

namespace Workshop

variable (shop : Workshop H) (container? : Option ContainerId) (identifier : String)

/-- The template that a request for a URI is about: the one that is held, or else what the engine
at hand makes of the URI. -/
def Asks (uri : String) (template : H.Template) : Prop :=
  (∃ handle, shop.factory.cache.get? uri = some handle ∧ handle.template = template) ∨
    (shop.factory.cache.get? uri = none ∧
      ∃ engine, (shop.bindFrom container?).factory.engine? = some engine ∧
        template = (H.compile engine uri shop.factory.cache.mode shop.world.state).1)

variable {container? identifier}

/-- A handle that is obtained without a wait is the one that the request is about. -/
theorem asks_of_template {handle : TemplateHandle H.Template} {found : Workshop H}
    (h : (shop.bindFrom container?).template identifier = (.ok handle, found)) :
    shop.Asks container? (shop.factory.resolve identifier) handle.template ∧
      found.factory.config = shop.factory.config := by
  rcases (shop.bindFrom container?).template_cases identifier with
    ⟨held, hget, heq⟩ | ⟨-, -, heq⟩ | ⟨engine, hget, hengine, ⟨detail, -, heq⟩ | ⟨-, heq⟩⟩
  · rw [heq] at h
    cases h
    rw [cache_bindFrom, resolve_bindFrom] at hget
    exact ⟨Or.inl ⟨handle, hget, rfl⟩, shop.config_bindFrom container?⟩
  · rw [heq] at h
    cases h
  · rw [heq] at h
    cases h
  · rw [heq] at h
    cases h
    rw [cache_bindFrom, resolve_bindFrom] at hget
    refine ⟨Or.inr ⟨hget, engine, hengine, ?_⟩, shop.config_bindFrom container?⟩
    rw [cache_bindFrom, resolve_bindFrom, world_bindFrom]
    rfl

variable (container? identifier)

/-- The five ways in which a request ends: with a handle that is held and ready; with the
failure of the template that it is about, and nothing is held; with a handle that is held and
loading still; for want of an engine, while nothing is held; or with more time than can be
counted. -/
theorem readyTemplate_cases (hfiled : shop.factory.cache.IsFiled) :
    let uri := shop.factory.resolve identifier
    let result := shop.readyTemplate container? identifier
    let held := result.2.factory.cache.get? uri
    let state := result.2.world.state
    (∃ handle, result.1 = .ok handle ∧ held = some handle ∧
        H.status handle.template state = .ready) ∨
      (∃ detail template, result.1 = .error (.compileFailed uri detail) ∧ held = none ∧
        shop.Asks container? uri template ∧ H.status template state = .failed detail) ∨
      (∃ handle, result.1 = .error (.timedOut uri shop.factory.config.readyTimeout) ∧
        held = some handle ∧ H.status handle.template state = .loading) ∨
      (result.1 = .error .engineNotBound ∧ shop.factory.cache.get? uri = none ∧
        (shop.bindFrom container?).factory.engine? = none) ∨
      (∃ handle, result.1 = .error .clockOverflow ∧ held = some handle) := by
  intro uri result held state
  simp only [held, state, result]
  rcases htemplate : (shop.bindFrom container?).template identifier with ⟨answer, found⟩
  cases answer with
  | error e =>
    rw [shop.readyTemplate_of_error htemplate]
    rcases (shop.bindFrom container?).template_cases identifier with
      ⟨handle, -, heq⟩ | ⟨hget, hengine, heq⟩ |
        ⟨engine, hget, hengine, ⟨detail, hfails, heq⟩ | ⟨-, heq⟩⟩
    · rw [heq] at htemplate
      cases htemplate
    · rw [heq] at htemplate
      cases htemplate
      rw [cache_bindFrom, resolve_bindFrom] at hget
      exact Or.inr (Or.inr (Or.inr (Or.inl ⟨rfl, hget, hengine⟩)))
    · rw [heq] at htemplate
      cases htemplate
      rw [cache_bindFrom, resolve_bindFrom] at hget
      rw [cache_bindFrom, resolve_bindFrom, world_bindFrom] at hfails ⊢
      refine Or.inr (Or.inl ⟨detail, _, rfl, hget, Or.inr ⟨hget, engine, hengine, rfl⟩, hfails⟩)
    · rw [heq] at htemplate
      cases htemplate
  | ok handle =>
    rw [shop.readyTemplate_of_ok htemplate]
    obtain ⟨hasks, hconfig⟩ := shop.asks_of_template htemplate
    have hget := (shop.bindFrom container?).get?_of_template htemplate
    have hkept := (shop.bindFrom container?).isFiled_template
      (by rw [cache_bindFrom]; exact hfiled) identifier
    rw [htemplate] at hkept
    rw [resolve_bindFrom] at hget
    have huri : handle.uri = uri := hkept _ handle hget
    have htimeout : found.factory.gate.timeout = shop.factory.config.readyTimeout := by
      rw [← hconfig]
      rfl
    rcases found.awaitReady_cases handle with
      ⟨hstatus, heq⟩ | ⟨detail, hstatus, heq⟩ | ⟨hstatus, heq⟩ | heq
    · rw [heq]
      exact Or.inl ⟨handle, rfl, hget, hstatus⟩
    · rw [heq, huri]
      refine Or.inr (Or.inl ⟨detail, handle.template, rfl, ?_, hasks, hstatus⟩)
      exact (TemplateCache.get?_evict _ _ _).trans (if_pos rfl)
    · rw [heq, huri, htimeout]
      exact Or.inr (Or.inr (Or.inl ⟨handle, rfl, hget, hstatus⟩))
    · rw [heq]
      exact Or.inr (Or.inr (Or.inr (Or.inr ⟨handle, rfl, hget⟩)))

/-- A request fails for want of an engine iff there is none at hand. -/
theorem readyTemplate_engineNotBound_iff (hfiled : shop.factory.cache.IsFiled)
    (hidle : shop.factory.IsIdleUnbound) :
    (shop.readyTemplate container? identifier).1 = .error .engineNotBound ↔
      (shop.bindFrom container?).factory.engine? = none := by
  constructor
  · intro herror
    rcases shop.readyTemplate_cases container? identifier hfiled with
      ⟨_, heq, -⟩ | ⟨_, _, heq, -⟩ | ⟨_, heq, -⟩ | ⟨-, -, hnone⟩ | ⟨_, heq, -⟩
    case inr.inr.inr.inl => exact hnone
    all_goals cases herror.symm.trans heq
  · intro hnone
    rw [hidle.readyTemplate_of_unbound hnone identifier]

end Workshop

/-! ## Handles that are served -/

namespace Session

variable {s : Session H} {uri : String} {handle : TemplateHandle H.Template}

/-- Something is held for a URI. -/
def Holds (s : Session H) (uri : String) : Prop :=
  ∃ f, s.factory? = some f ∧ (f.cache.get? uri).isSome = true

/-- A handle is held for a URI. If it is ready, then every request for the URI is answered with
it and leaves the host as it is, so that nothing is compiled; and only tearing the factory down
can forget it. -/
def Serves (s : Session H) (uri : String) (handle : TemplateHandle H.Template) : Prop :=
  ∃ f, s.factory? = some f ∧ f.cache.get? uri = some handle ∧
    (H.status handle.template s.world.state = .ready →
      (∀ identifier, f.resolve identifier = uri →
        let shop : Workshop H := ⟨f, s.world⟩
        shop.template identifier = (.ok handle, shop) ∧
          (∀ container?, shop.readyTemplate container? identifier =
            (.ok handle, shop.bindFrom container?)) ∧
          ∀ c ownership,
            let ready := shop.flush.2.bindFrom (some c)
            (∀ contextual direct, shop.create (some c) identifier contextual direct ownership =
              ready.construct handle c contextual direct ownership) ∧
            ∀ key value rest base,
              shop.createMany key (value :: rest) (some c) identifier base ownership =
                Workshop.constructEach handle c key base ownership (value :: rest) ready) ∧
      ∀ op f', op.tearsDown = false → (s.perform op).2.factory? = some f' →
        f'.cache.get? uri = some handle)

/-- What is held is served. -/
theorem serves_of_get? (hfiled : s.IsFiled) {f : Factory H} (hf : s.factory? = some f)
    (hget : f.cache.get? uri = some handle) : s.Serves uri handle := by
  refine ⟨f, hf, hget, fun hready => ⟨?_, ?_⟩⟩
  · rintro identifier rfl shop
    refine ⟨shop.template_of_get? hget,
      fun container? => shop.readyTemplate_of_ready container? hget hready, ?_⟩
    intro c ownership ready
    have hobtained : shop.flush.2.readyTemplate (some c) identifier = (.ok handle, ready) :=
      shop.flush.2.readyTemplate_of_ready (some c) hget hready
    refine ⟨?_, ?_⟩
    · intro contextual direct
      simp only [Workshop.create]
      rw [hobtained]
    · intro key value rest base
      simp only [Workshop.createMany]
      rw [hobtained]
      rfl
  · intro op f' hop hf'
    obtain ⟨f, hbefore, ⟨hdown, -⟩ | ⟨-, hhandling⟩⟩ := s.handling_perform op hf'
    · rw [hop] at hdown
      cases hdown
    · cases hf.symm.trans hbefore
      rcases hhandling.get? (hfiled _ hf) hget with hkept | ⟨-, hnot⟩
      · exact hkept
      · exact absurd hready hnot

/-- As long as a URI is held, it is the same handle that is held. -/
theorem serves_after (hfiled : s.IsFiled) {f : Factory H} (hf : s.factory? = some f)
    (hget : f.cache.get? uri = some handle) {more : List (Operation H)}
    (hheld : s.Throughout (fun t op => (t.perform op).2.Holds uri) more) :
    (s.after more).Serves uri handle := by
  have hkept : (s.after more).IsFiled ∧
      ∃ f', (s.after more).factory? = some f' ∧ f'.cache.get? uri = some handle := by
    refine hheld.induction (Q := fun t => t.IsFiled ∧
      ∃ f', t.factory? = some f' ∧ f'.cache.get? uri = some handle) ?_ ⟨hfiled, f, hf, hget⟩
    rintro t op ⟨f', hf', hsome⟩ ⟨hfiled, g, hg, hget⟩
    refine ⟨hfiled.perform op, f', hf', ?_⟩
    obtain ⟨before, hbefore, ⟨-, -, hcleared⟩ | ⟨-, hhandling⟩⟩ := t.handling_perform op hf'
    · rw [hcleared] at hsome
      cases hsome
    · cases hg.symm.trans hbefore
      rcases hhandling.get? (hfiled g hg) hget with hkept | ⟨hnone, -⟩
      · exact hkept
      · rw [hnone] at hsome
        cases hsome
  obtain ⟨hfiled, f', hf', hget⟩ := hkept
  exact serves_of_get? hfiled hf' hget

/-! ## The outcome of a request -/

/-- What comes of a request for a template, in every session that can be reached, whatever the
engines and the event loop do:

* a factory without an engine holds nothing;
* a handle that is handed out is the one that is held for the URI, and it is ready;
* after a compile error nothing is held for the URI, and the error is that of the template that
  the request was about;
* after a timeout a handle is held that is loading still. In any run in which the URI stays held,
  it is this handle that is held, and once it is ready it is served without a compile;
* the request fails for want of an engine iff neither the factory nor the container has one, and
  then it changes nothing;
* other URIs are left alone;
* in any way of counting compiles, the request makes one if nothing is held and there is an
  engine, and none otherwise. -/
theorem request_outcome (config : Config) (state : H.State) (ops : List (Operation H))
    {factory : Factory H} (hf : ((start config state).after ops).factory? = some factory)
    (container? : Option ContainerId) (identifier : String) :
    let s := (start config state).after ops
    let shop : Workshop H := ⟨factory, s.world⟩
    let uri := factory.resolve identifier
    let result := shop.readyTemplate container? identifier
    let next := result.2
    (factory.engine? = none → factory.cache.size = 0) ∧
      (∀ handle, result.1 = .ok handle → next.factory.cache.get? uri = some handle ∧
        H.status handle.template next.world.state = .ready) ∧
      (∀ failed detail, result.1 = .error (.compileFailed failed detail) →
        failed = uri ∧ next.factory.cache.get? uri = none ∧
          ∃ template, shop.Asks container? uri template ∧
            H.status template next.world.state = .failed detail) ∧
      (∀ late limit, result.1 = .error (.timedOut late limit) →
        late = uri ∧ limit = factory.config.readyTimeout ∧
          ∃ handle, next.factory.cache.get? uri = some handle ∧
            H.status handle.template next.world.state = .loading ∧
            let later := (s.perform (.readyTemplate container? identifier)).2
            later.factory? = some next.factory ∧
              ∀ more, later.Throughout (fun t op => (t.perform op).2.Holds uri) more →
                (later.after more).Serves uri handle) ∧
      (result.1 = .error .engineNotBound ↔ factory.engine? = none ∧
        (container?.bind s.world.scene.container?).bind Container.engine? = none) ∧
      (result.1 = .error .engineNotBound → next = shop) ∧
      (∀ other, other ≠ uri → next.factory.cache.get? other = factory.cache.get? other) ∧
      ∀ count, H.Counts count → count next.world.state = count s.world.state +
        ((shop.bindFrom container?).factory.compiles uri).toNat := by
  intro s shop uri result next
  have hfiled : s.IsFiled := isFiled_after config state ops
  have hidle : shop.factory.IsIdleUnbound := isIdleUnbound_after config state ops factory hf
  have hcases := shop.readyTemplate_cases container? identifier (hfiled factory hf)
  have hnotBound : result.1 = .error .engineNotBound ↔
      (shop.bindFrom container?).factory.engine? = none :=
    shop.readyTemplate_engineNotBound_iff container? identifier (hfiled factory hf) hidle
  refine ⟨hidle, ?_, ?_, ?_, ?_, ?_, ?_, ?_⟩
  · intro handle hok
    rcases hcases with ⟨held, heq, hget, hready⟩ | ⟨_, _, heq, -⟩ | ⟨_, heq, -⟩ | ⟨heq, -⟩ |
      ⟨_, heq, -⟩
    all_goals cases hok.symm.trans heq
    exact ⟨hget, hready⟩
  · intro failed detail herror
    rcases hcases with ⟨_, heq, -⟩ | ⟨_, template, heq, hnone, hasks, hstatus⟩ | ⟨_, heq, -⟩ |
      ⟨heq, -⟩ | ⟨_, heq, -⟩
    all_goals cases herror.symm.trans heq
    exact ⟨rfl, hnone, template, hasks, hstatus⟩
  · intro late limit herror
    rcases hcases with ⟨_, heq, -⟩ | ⟨_, _, heq, -⟩ | ⟨handle, heq, hget, hloading⟩ | ⟨heq, -⟩ |
      ⟨_, heq, -⟩
    all_goals cases herror.symm.trans heq
    have hlater : ((s.perform (.readyTemplate container? identifier)).2).factory? =
        some next.factory := by
      change (s.atWork fun shop =>
        (shop.readyTemplate container? identifier).map .template id).2.factory? = _
      rw [atWork, hf]
      rfl
    refine ⟨rfl, rfl, handle, hget, hloading, hlater, ?_⟩
    intro more hheld
    exact serves_after (hfiled.perform _) hlater hget hheld
  · rw [hnotBound, shop.engine?_bindFrom container?]
    exact Option.or_eq_none_iff
  · intro herror
    simp only [next, result]
    rw [hidle.readyTemplate_of_unbound (hnotBound.1 herror) identifier]
  · intro other hother
    obtain ⟨-, -, hbut, -⟩ := shop.readyTemplate_factory (hfiled factory hf) container? identifier
    exact hbut.get? hother
  · intro count hcount
    exact shop.count_readyTemplate hcount container? identifier

end Session

/-- A run in the studio: the factory has an engine whose one template is loading. -/
def Studio.slowRun : List (Operation studio) :=
  [.bind EngineName.scripted,
    .outside fun (s : Studio.State) => s.withScripted (s.scripted.add
      ⟨"mem:/A", .loading, .visual, "", "A", .empty, true, true, none, []⟩)]

/-- Settings with which a request waits for two slices. -/
def Studio.impatient : Config :=
  ⟨Config.defaultBasePath, Duration.ofMillis 2, Duration.ofMillis 1, .asynchronous, .empty⟩

/-- The studio without templates, in which each slice passes. -/
def Studio.quiet : Studio.State :=
  ⟨Markup.Engine.new .empty Files.noFiles true, Scripted.Engine.empty, .sleep⟩

/-- A wait in vain is not for nothing: the request that ends it leaves a handle behind, and
once its template is ready, that handle is served. -/
theorem Session.request_outcome_of_slowRun :
    let s := (start (H := studio) Studio.impatient Studio.quiet).after Studio.slowRun
    let ready := Operation.outside (H := studio) fun (t : Studio.State) =>
      t.withScripted (t.scripted.setStatus "mem:/A" .ready)
    ∃ factory, s.factory? = some factory ∧
      ((Workshop.mk factory s.world).readyTemplate none "mem:/A").1 =
        .error (.timedOut "mem:/A" (Duration.ofMillis 2)) ∧
      ∃ handle, studio.status handle.template
          ((s.perform (.readyTemplate none "mem:/A")).2.after [ready]).world.state = .ready ∧
        ((s.perform (.readyTemplate none "mem:/A")).2.after [ready]).Serves "mem:/A" handle := by
  intro s ready
  have hasked : (s.factory?.bind fun factory =>
      (match ((Workshop.mk factory s.world).readyTemplate none "mem:/A").1 with
        | .error e => some (factory.resolve "mem:/A", e)
        | .ok _ => none)) = some ("mem:/A", .timedOut "mem:/A" (Duration.ofMillis 2)) := by
    decide +kernel
  have hready : ((s.perform (.readyTemplate none "mem:/A")).2.after [ready]).factory?.bind
      (fun factory => (factory.cache.get? "mem:/A").map fun handle =>
        studio.status handle.template
          ((s.perform (.readyTemplate none "mem:/A")).2.after [ready]).world.state) =
      some .ready := by
    decide +kernel
  obtain ⟨factory, hf, hlate⟩ := Option.bind_eq_some_iff.1 hasked
  obtain ⟨later, hlater, hheld⟩ := Option.bind_eq_some_iff.1 hready
  obtain ⟨held, hget, hstatus⟩ := Option.map_eq_some_iff.1 hheld
  split at hlate
  case h_2 => cases hlate
  case h_1 e herror =>
    obtain ⟨huri, rfl⟩ := Prod.mk.inj (Option.some.inj hlate)
    obtain ⟨-, -, -, htimeout, -⟩ := request_outcome (H := studio) Studio.impatient Studio.quiet
      Studio.slowRun hf none "mem:/A"
    obtain ⟨-, -, handle, -, -, -, hserves⟩ := htimeout _ _ herror
    rw [huri] at hserves
    have hserved := hserves [ready]
      ⟨⟨later, hlater, Option.isSome_iff_exists.2 ⟨held, hget⟩⟩, trivial⟩
    obtain ⟨f, hf', hget', hanswers⟩ := hserved
    cases hlater.symm.trans hf'
    cases hget.symm.trans hget'
    exact ⟨factory, hf, herror, held, hstatus, later, hlater, hget, hanswers⟩

end SceneFactory
