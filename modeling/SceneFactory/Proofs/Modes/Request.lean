import SceneFactory.Proofs.Modes.Engine
import SceneFactory.Proofs.Template.Requests

/-!
# Requests that the queue is drained for

A host has a markup side if one of its engines is a markup engine whose event queue nobody else
uses, and if its event loop empties that queue whenever it is given any time
(`Host.MarkupSide`); the studio has one while its event loop runs the queue
(`Studio.markupSide`).

Main statement: `Workshop.readyTemplate_of_bound`. On such a side, with an empty queue and some
time to wait, a request for a template that is not held comes to what a compile comes to at once,
in either mode. What is held is ready (`Factory.IsServed`) and is handed out
(`Workshop.readyTemplate_of_held`).
-/

set_option autoImplicit false

namespace SceneFactory

variable {H : Host}

/-! ## The markup side of a host -/

/-- A markup engine of a host, in whatever states the host may be otherwise, and an event loop
that drains its queue. -/
structure Host.MarkupSide (H : Host) where
  name : H.Engine
  template : Nat → H.Template
  /-- The engine, in the states in which the event loop drains its queue. -/
  engine? : H.State → Option Markup.Engine
  compile : ∀ {state engine} uri mode, engine? state = some engine →
    ∃ next, H.compile name uri mode state = (template (engine.compile uri mode).1, next) ∧
      engine? next = some (engine.compile uri mode).2
  /-- A compile that was broken off breaks off the request that comes upon it. -/
  status : ∀ {state engine} t, engine? state = some engine →
    H.status (template t) state = engine.verdict t
  construct : ∀ {state engine} t around, engine? state = some engine →
    ∃ next, H.construct (template t) around state = (engine.construct? t around.lookup, next) ∧
      engine? next = some engine
  complete : ∀ {state engine} t around o, engine? state = some engine →
    ∃ next, H.complete (template t) around o state = (engine.complete t o, next) ∧
      engine? next = some engine
  /-- A slice of any length runs the queue until it is empty, or a compile breaks off. -/
  pump : ∀ {state engine} (slice : Duration), 0 < slice.nanos → engine? state = some engine →
    engine? (H.pump slice state).2 = some engine.runQueue.2

namespace Studio

/-- The markup engine, while the event loop runs the queue. -/
def State.queued? (s : State) : Option Markup.Engine :=
  match s.loop with
  | .queue => some s.markup
  | _ => none

theorem State.queued?_eq_some_iff (s : State) (engine : Markup.Engine) :
    s.queued? = some engine ↔ s.loop = .queue ∧ s.markup = engine := by
  obtain ⟨markup, scripted, loop⟩ := s
  cases loop <;> simp [queued?]

/-- The markup side of the studio, while the event loop runs the queue. -/
def markupSide : studio.MarkupSide where
  name := EngineName.markup
  template := TemplateRef.markup
  engine? := State.queued?
  compile := by
    intro s engine uri mode h
    obtain ⟨hloop, rfl⟩ := (State.queued?_eq_some_iff s engine).1 h
    exact ⟨_, rfl, (State.queued?_eq_some_iff _ _).2 ⟨hloop, rfl⟩⟩
  status := by
    intro s engine t h
    obtain ⟨-, rfl⟩ := (State.queued?_eq_some_iff s engine).1 h
    rfl
  construct := by
    intro s engine t around h
    obtain ⟨-, rfl⟩ := (State.queued?_eq_some_iff s engine).1 h
    exact ⟨s, rfl, h⟩
  complete := by
    intro s engine t around o h
    obtain ⟨-, rfl⟩ := (State.queued?_eq_some_iff s engine).1 h
    exact ⟨s, rfl, h⟩
  pump := by
    intro s engine slice hslice h
    obtain ⟨markup, scripted, loop⟩ := s
    obtain ⟨rfl, rfl⟩ := (State.queued?_eq_some_iff _ engine).1 h
    refine (State.queued?_eq_some_iff _ _).2 ⟨rfl, ?_⟩
    change (markup.pumpQueue slice).2 = markup.runQueue.2
    obtain ⟨roots, sources, files, deferred, ⟨tasks⟩, compiles, templates⟩ := markup
    simp only [Markup.Engine.pumpQueue, EventQueue.pump]
    rw [if_neg (Nat.ne_of_gt hslice)]
    cases tasks with
    | nil => rfl
    | cons task rest =>
      change (Markup.Engine.runTasks (EventQueue.runPending ⟨task :: rest⟩).1.length _).2 = _
      rw [EventQueue.length_runPending]
      rfl

end Studio

/-! ## What a cache holds -/

/-- A handle without its serial number. -/
def TemplateHandle.unnumbered {τ : Type} (handle : TemplateHandle τ) : String × τ :=
  (handle.uri, handle.template)

namespace TemplateCache

variable {τ : Type} (cache : TemplateCache τ) {cache' : TemplateCache τ} {uri : String}

/-- What a cache holds, without the serial numbers. -/
def contents : List (String × String × τ) :=
  cache.entries.entries.map fun e => (e.1, e.2.unnumbered)

theorem uris_eq_of_contents (h : cache'.contents = cache.contents) : cache'.uris = cache.uris := by
  have hkeys : ∀ c : TemplateCache τ, c.entries.keys = c.contents.map Prod.fst := by
    intro c
    simp [contents, Assoc.keys, Function.comp_def]
  rw [uris, uris, hkeys, hkeys, h]

theorem map_get? (uri : String) :
    (cache.get? uri).map TemplateHandle.unnumbered = Assoc.find uri cache.contents := by
  simp only [get?, Assoc.get?, contents]
  induction cache.entries.entries with
  | nil => rfl
  | cons e rest ih =>
    simp only [List.map_cons, Assoc.find]
    split
    · rfl
    · exact ih

/-- Where the same is held, the same is found, but for its serial number. -/
theorem get?_of_contents (h : cache'.contents = cache.contents) (uri : String) :
    (cache'.get? uri).map TemplateHandle.unnumbered =
      (cache.get? uri).map TemplateHandle.unnumbered := by
  rw [map_get?, map_get?, h]

/-- What is kept anew goes last. -/
theorem contents_keep (h : cache.get? uri = none) (template : τ) :
    (cache.keep uri template).2.contents = cache.contents ++ [(uri, uri, template)] := by
  have hnew : uri ∉ cache.entries.entries.map Prod.fst := (cache.entries.get?_eq_none_iff uri).1 h
  change (Assoc.put uri _ cache.entries.entries).map _ = _
  rw [Assoc.put_of_not_mem _ hnew, List.map_append]
  rfl

theorem contents_evict (uri : String) :
    (cache.evict uri).contents = cache.contents.filter fun e => e.1 ≠ uri := by
  change (cache.entries.entries.filter _).map _ = _
  rw [contents, List.filter_map]
  rfl

/-- A compile that is kept and then evicted leaves no trace but a number. -/
theorem contents_evict_keep (h : cache.get? uri = none) (template : τ) :
    ((cache.keep uri template).2.evict uri).contents = cache.contents := by
  have hnew : uri ∉ cache.contents.map Prod.fst := by
    rw [← Assoc.find_eq_none_iff, ← map_get?, h]
    rfl
  rw [contents_evict, cache.contents_keep h, List.filter_append, List.filter_eq_self.2,
    List.filter_cons, if_neg (by simp)]
  · exact List.append_nil _
  · intro e he
    have hkey : e.1 ≠ uri := fun hkey => hnew (hkey ▸ List.mem_map_of_mem he)
    simpa using hkey

end TemplateCache

variable (side : H.MarkupSide)

/-! ## Worlds and factories on that side -/

/-- The engine is in the given state and has nothing to run. -/
structure World.IsDrained (engine : Markup.Engine) (w : World H) : Prop where
  engine? : side.engine? w.state = some engine
  queue : engine.queue.tasks = []

/-- The factory knows no other engine, has time to wait, and holds compiles that are ready. -/
structure Factory.IsServed (engine : Markup.Engine) (f : Factory H) : Prop where
  bound : ∀ name, f.engine? = some name → name = side.name
  timeout : 0 < f.config.readyTimeout.nanos
  held : ∀ uri handle, f.cache.get? uri = some handle → handle.uri = uri ∧
    ∃ t, handle.template = side.template t ∧ engine.verdict t = .ready

namespace Factory.IsServed

variable {side} {f : Factory H} {engine : Markup.Engine} (h : f.IsServed side engine)

include h

/-- Serial numbers do not matter. -/
theorem withCache {cache : TemplateCache H.Template} (hc : cache.contents = f.cache.contents) :
    (f.withCache cache).IsServed side engine where
  bound := h.bound
  timeout := h.timeout
  held uri handle hget := by
    have hsame := f.cache.get?_of_contents hc uri
    rw [show cache.get? uri = some handle from hget] at hsame
    obtain ⟨held, hheld, heq⟩ := Option.map_eq_some_iff.1 hsame.symm
    obtain ⟨huri, t, htemplate, hready⟩ := h.held uri held hheld
    obtain ⟨huri', htemplate'⟩ := Prod.mk.inj heq
    exact ⟨huri'.symm.trans huri, t, htemplate'.symm.trans htemplate, hready⟩

/-- What the engine does with other templates does not matter. -/
theorem mono {next : Markup.Engine}
    (hready : ∀ t, engine.verdict t = .ready → next.verdict t = .ready) : f.IsServed side next where
  bound := h.bound
  timeout := h.timeout
  held uri handle hget := by
    obtain ⟨huri, t, htemplate, ht⟩ := h.held uri handle hget
    exact ⟨huri, t, htemplate, hready t ht⟩

/-- A compile that is ready may be kept. -/
theorem keep (uri : String) {t : Nat} (hready : engine.verdict t = .ready) :
    (f.withCache (f.cache.keep uri (side.template t)).2).IsServed side engine where
  bound := h.bound
  timeout := h.timeout
  held other handle hget := by
    have hget : (f.cache.keep uri (side.template t)).2.get? other = some handle := hget
    rw [TemplateCache.get?_keep] at hget
    by_cases hother : uri = other
    · rw [if_pos hother] at hget
      cases hget
      exact ⟨hother, t, rfl, hready⟩
    · rw [if_neg hother] at hget
      exact h.held other handle hget

end Factory.IsServed

/-! ## Requests -/

namespace Workshop

variable {side} (shop : Workshop H) {engine : Markup.Engine}

/-- A wait for a template that the queue settles ends with the first slice. -/
theorem awaitReady_of_draining (handle : TemplateHandle H.Template) {t : Nat}
    (htemplate : handle.template = side.template t)
    (htimeout : 0 < shop.factory.config.readyTimeout.nanos)
    (hengine : side.engine? shop.world.state = some engine)
    (hloading : engine.verdict t = .loading) (hsettled : engine.runQueue.2.verdict t ≠ .loading) :
    ∃ state, side.engine? state = some engine.runQueue.2 ∧
      ((∃ detail, engine.runQueue.2.verdict t = .failed detail ∧
          shop.awaitReady handle = (.error (.compileFailed handle.uri detail),
            ⟨shop.factory.withCache (shop.factory.cache.evict handle.uri),
              shop.world.withState state⟩)) ∨
        (engine.runQueue.2.verdict t = .ready ∧
          shop.awaitReady handle = (.ok handle, ⟨shop.factory, shop.world.withState state⟩))) := by
  have hpump : ∀ slice : Duration, 0 < slice.nanos →
      H.status handle.template (H.pump slice shop.world.state).2 =
        engine.runQueue.2.verdict t := by
    intro slice hslice
    rw [htemplate]
    exact side.status t (side.pump slice hslice hengine)
  have hnow : H.status handle.template shop.world.state = .loading := by
    rw [htemplate, side.status t hengine]
    exact hloading
  obtain ⟨slice, hslice, hends⟩ := shop.factory.gate.await_of_settling
    (H.status handle.template) H.pump hnow htimeout
    fun slice hslice => (hpump slice hslice).symm ▸ hsettled
  refine ⟨(H.pump slice shop.world.state).2, side.pump slice hslice hengine, ?_⟩
  rw [← hpump slice hslice]
  simp only [awaitReady]
  rcases hends with ⟨hstatus, hawait⟩ | ⟨detail, hstatus, hawait⟩
  · rw [hawait]
    exact Or.inr ⟨hstatus, rfl⟩
  · rw [hawait]
    exact Or.inl ⟨detail, hstatus, rfl⟩

section Request

variable (container? : Option ContainerId) (identifier : String)

/-- What is held is ready and is handed out. -/
theorem readyTemplate_of_held (hf : shop.factory.IsServed side engine)
    (hengine : side.engine? shop.world.state = some engine) {handle : TemplateHandle H.Template}
    (hget : shop.factory.cache.get? (shop.factory.resolve identifier) = some handle) :
    shop.readyTemplate container? identifier = (.ok handle, shop.bindFrom container?) := by
  obtain ⟨-, t, htemplate, hready⟩ := hf.held _ handle hget
  refine shop.readyTemplate_of_ready container? hget ?_
  rw [htemplate, side.status t hengine]
  exact hready

/-- What is not held is compiled, and then kept unless the compile has failed by then. -/
theorem template_of_bound (hengine : side.engine? shop.world.state = some engine)
    (hget : shop.factory.cache.get? (shop.factory.resolve identifier) = none)
    (hbound : shop.factory.engine? = some side.name) :
    let uri := shop.factory.resolve identifier
    let asked := engine.compile uri shop.factory.cache.mode
    ∃ state, side.engine? state = some asked.2 ∧
      ((∃ detail, asked.2.verdict asked.1 = .failed detail ∧
          shop.template identifier =
            (.error (.compileFailed uri detail), ⟨shop.factory, shop.world.withState state⟩)) ∨
        ((∀ detail, asked.2.verdict asked.1 ≠ .failed detail) ∧
          let kept := shop.factory.cache.keep uri (side.template asked.1)
          shop.template identifier =
            (.ok kept.1, ⟨shop.factory.withCache kept.2, shop.world.withState state⟩))) := by
  intro uri asked
  rcases shop.template_cases identifier with
    ⟨handle, hheld, -⟩ | ⟨-, hunbound, -⟩ | ⟨name, -, hname, hcompiled⟩
  · rw [hget] at hheld
    cases hheld
  · rw [hbound] at hunbound
    cases hunbound
  · obtain rfl : side.name = name := Option.some.inj (hbound.symm.trans hname)
    obtain ⟨state, heq, hstate⟩ := side.compile uri shop.factory.cache.mode hengine
    rw [heq] at hcompiled
    dsimp only at hcompiled
    rw [side.status _ hstate] at hcompiled
    exact ⟨state, hstate, hcompiled⟩

/-- A request for what is not held comes to what a compile comes to at once, in either
mode. -/
theorem readyTemplate_of_bound (htimeout : 0 < shop.factory.config.readyTimeout.nanos)
    (hw : shop.world.IsDrained side engine)
    (hget : shop.factory.cache.get? (shop.factory.resolve identifier) = none)
    (hengine : (shop.bindFrom container?).factory.engine? = some side.name) :
    let bound := (shop.bindFrom container?).factory
    let uri := shop.factory.resolve identifier
    let now := engine.compile uri .synchronous
    ∃ state, side.engine? state = some now.2 ∧
      ((∃ detail cache, now.2.verdict now.1 = .failed detail ∧
          cache.contents = bound.cache.contents ∧ cache.basePath = bound.cache.basePath ∧
          shop.readyTemplate container? identifier = (.error (.compileFailed uri detail),
            ⟨bound.withCache cache, shop.world.withState state⟩)) ∨
        (now.2.verdict now.1 = .ready ∧
          let kept := bound.cache.keep uri (side.template now.1)
          shop.readyTemplate container? identifier =
            (.ok kept.1, ⟨bound.withCache kept.2, shop.world.withState state⟩))) := by
  intro bound uri now
  rw [← cache_bindFrom shop container?, ← resolve_bindFrom shop container?] at hget
  obtain ⟨state, hstate, hasks⟩ := (shop.bindFrom container?).template_of_bound identifier
    ((congrArg (side.engine? ·.state) (shop.world_bindFrom container?)).trans hw.engine?) hget
    hengine
  rw [resolve_bindFrom] at hget hstate hasks
  rw [world_bindFrom] at hasks
  have hsettled : now.2.verdict now.1 ≠ .loading := engine.verdict_compile_synchronous_ne uri
  have hasked := engine.compile_cases uri hw.queue bound.cache.mode
  generalize engine.compile uri bound.cache.mode = asked at hasks hasked hstate
  rcases hasks with ⟨detail, hfailed, heq⟩ | ⟨hkept, heq⟩
  · rcases hasked with rfl | ⟨-, hloading, -⟩
    · exact ⟨state, hstate, Or.inl ⟨detail, bound.cache, hfailed, rfl, rfl,
        shop.readyTemplate_of_error heq⟩⟩
    · rw [hfailed] at hloading
      cases hloading
  have hresult := shop.readyTemplate_of_ok heq
  rcases hasked with rfl | ⟨hsame, hloading, hrun⟩
  · have hready : now.2.verdict now.1 = .ready := by
      cases hnow : now.2.verdict now.1 with
      | ready => rfl
      | failed detail => exact absurd hnow (hkept detail)
      | loading => exact absurd hnow hsettled
    refine ⟨state, hstate, Or.inr ⟨hready, ?_⟩⟩
    rw [hresult]
    exact awaitReady_of_ready _ ((side.status now.1 hstate).trans hready)
  · rw [hsame] at hresult hloading
    rw [← hrun] at hsettled
    let kept := bound.cache.keep uri (side.template now.1)
    let waiting : Workshop H := ⟨bound.withCache kept.2, shop.world.withState state⟩
    obtain ⟨state', hstate', hends⟩ := waiting.awaitReady_of_draining kept.1 rfl
      ((shop.config_bindFrom container?).symm ▸ htimeout) hstate hloading hsettled
    rw [hrun] at hstate' hends
    refine ⟨state', hstate', ?_⟩
    rw [hresult]
    rcases hends with ⟨detail, hfailed, hends⟩ | ⟨hready, hends⟩
    · exact Or.inl ⟨detail, _, hfailed, bound.cache.contents_evict_keep hget _, rfl, hends⟩
    · exact Or.inr ⟨hready, hends⟩

end Request

end Workshop

end SceneFactory
