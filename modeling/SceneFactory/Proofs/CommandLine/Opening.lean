import SceneFactory.CommandLine.Program
import SceneFactory.Proofs.Isolation.Worlds
import SceneFactory.Proofs.Markup.Reported
import SceneFactory.Proofs.Modes.Request
import SceneFactory.Proofs.Scene.Tree

/-!
# The first request of the program

The program begins with a factory that is bound to a fresh markup engine, and with a container
without children (`CommandLine.openShop`). Its only request compiles the template's source, at
once or from the event queue. There is one case in which the compile is not finished: it was left
to the queue, and there is no time to wait (`Config.Awaits`).

Main statement: after the request there is a syntax error without a place that could be shown iff
the compile was finished and its source has such an error; a template that is obtained leaves
none, and constructions leave the engine alone (`CommandLine.readyTemplate_openShop`).
-/

set_option autoImplicit false

namespace SceneFactory

/-! ## Compiles without a report -/

namespace Markup

/-- The only URI for which a compile can be without a report is its own. -/
theorem eq_of_compile_unreportable {uri source other : String}
    (h : compile uri source = .error (.unreportable other)) : other = uri := by
  rw [compile] at h
  split at h
  · split at h
    · cases h
    · cases h
      rfl
  · split at h <;> cases h

namespace Engine

/-- A source is missing or cannot be read; it is never without a report. -/
theorem source_ne_unreportable (engine : Engine) (uri other : String) :
    engine.source uri ≠ .error (.unreportable other) := by
  intro h
  rw [source] at h
  split at h
  · cases h
  · split at h
    · cases h
    · rename_i path _
      cases hread : engine.files path with
      | ok text =>
        rw [hread] at h
        cases h
      | error fault =>
        rw [hread] at h
        cases h

/-- A compile is without a report iff its source has an error behind tokens and more. -/
theorem outcome_unreportable_iff (engine : Engine) (n : Nat) (uri : String) :
    (∃ other, outcome ⟨n, uri, engine.source uri⟩ = .failed (.unreportable other)) ↔
      ∃ text e, engine.source uri = .ok text ∧ parse text = .error e ∧ e.IsBehindTokens text := by
  have hnever := engine.source_ne_unreportable uri
  cases hsource : engine.source uri with
  | error e =>
    rw [hsource] at hnever
    constructor
    · rintro ⟨other, hother⟩
      have heq : TemplateState.failed e = .failed (.unreportable other) := hother
      cases heq
      exact absurd rfl (hnever other)
    · rintro ⟨text, e', htext, -⟩
      cases htext
  | ok text =>
    let pending : PendingCompile := ⟨n, uri, .ok text⟩
    have hcompiled : outcome pending = .failed (.unreportable uri) ↔
        ∃ e, parse text = .error e ∧ e.IsBehindTokens text := by
      rw [← exists_reversed_iff, ← compile_eq_unreportable_iff uri text]
      exact outcome_eq_unreportable_iff (show pending.source = .ok text from rfl)
    constructor
    · rintro ⟨other, hother⟩
      have hown : other = uri := by
        rw [outcome] at hother
        split at hother
        · cases hother
        · rename_i e he
          cases hother
          exact eq_of_compile_unreportable he
      obtain ⟨e, he, hbehind⟩ := hcompiled.1 (hown ▸ hother)
      exact ⟨text, e, rfl, he, hbehind⟩
    · rintro ⟨text', e, htext, he, hbehind⟩
      cases htext
      exact ⟨uri, hcompiled.2 ⟨e, he, hbehind⟩⟩

variable (engine : Engine) (uri : String) (hempty : engine.templates = .empty)

include hempty

/-- The first compile of an engine, finished at once, makes its first template. -/
theorem templates_compile_synchronous :
    (engine.compile uri .synchronous).2.templates.toList =
      [⟨uri, outcome ⟨1, uri, engine.source uri⟩⟩] := by
  rw [compile_synchronous]
  simp only [finish, withTemplates, begin, hempty]
  rfl

theorem unreported_compile_synchronous :
    (engine.compile uri .synchronous).2.unreported ≠ [] ↔
      ∃ text e, engine.source uri = .ok text ∧ parse text = .error e ∧ e.IsBehindTokens text := by
  rw [← engine.outcome_unreportable_iff 1 uri, unreported,
    engine.templates_compile_synchronous uri hempty]
  simp only [List.filterMap_cons, List.filterMap_nil]
  cases outcome ⟨1, uri, engine.source uri⟩ with
  | failed e => cases e <;> simp
  | _ => simp

/-- A first compile that is ready leaves nothing without a report. -/
theorem unreported_of_ready
    (h : (engine.compile uri .synchronous).2.verdict (engine.compile uri .synchronous).1 = .ready) :
    (engine.compile uri .synchronous).2.unreported = [] := by
  rw [unreported, engine.templates_compile_synchronous uri hempty]
  rw [engine.verdict_compile_of_now uri fun h => CompileMode.noConfusion h.2, hempty] at h
  change (outcome ⟨1, uri, engine.source uri⟩).verdict = .ready at h
  simp only [List.filterMap_cons, List.filterMap_nil]
  cases hout : outcome ⟨1, uri, engine.source uri⟩ with
  | failed e =>
    rw [hout] at h
    cases h
  | _ => rfl

/-- A first compile that is left to the queue has nothing to report yet. -/
theorem unreported_compile_deferred (hdeferred : engine.deferred = true) :
    (engine.compile uri .asynchronous).2.unreported = [] ∧
      (engine.compile uri .asynchronous).2.verdict (engine.compile uri .asynchronous).1 =
        .loading := by
  simp only [compile]
  rw [if_pos ⟨hdeferred, trivial⟩]
  simp only [unreported, withQueue, begin, hempty]
  exact ⟨rfl, rfl⟩

end Engine

end Markup

/-- A wait without any time ends at once with a template that is loading. -/
theorem Workshop.awaitReady_of_no_time {H : Host} (shop : Workshop H)
    (handle : TemplateHandle H.Template)
    (hloading : H.status handle.template shop.world.state = .loading)
    (htimeout : shop.factory.config.readyTimeout.nanos = 0) :
    shop.awaitReady handle =
      (.error (.timedOut handle.uri shop.factory.config.readyTimeout), shop) := by
  have hends : shop.factory.gate.await (H.status handle.template) H.pump shop.world.state =
      (.timedOut, shop.world.state) :=
    shop.factory.gate.awaitFrom_of_timeout _ _ hloading (Nat.le_of_eq htimeout)
  simp only [awaitReady]
  rw [hends]
  rfl

/-- Whether a compile is finished before a request for it gives up. -/
def Config.Awaits (config : Config) : Prop :=
  config.compileMode = .synchronous ∨ 0 < config.readyTimeout.nanos

namespace CommandLine

/-! ## The program's factory and container -/

/-- The factory that the program works with, and its container. -/
def openShop (config : Config) (files : Files.Reader) : Workshop studio :=
  let contexts := Contexts.empty.add none
  ⟨⟨config, some .markup, .new config.basePath config.compileMode, .empty, contexts.newest⟩,
    ⟨⟨.new config.roots files true, .empty, .queue⟩, contexts,
      (Scene.empty.addContainer "root" none none).2⟩⟩

variable (config : Config) (files : Files.Reader) (template : String)

/-- The session once the container is there. -/
def opened : Session studio :=
  ⟨(openShop config files).world, some (openShop config files).factory, .empty, [], []⟩

theorem perform_openSession :
    (openSession config files).perform (.addContainer "root" none none) =
      (.made 1, opened config files) :=
  rfl

/-- The container has the number 1 and no children. -/
theorem container?_openShop :
    (openShop config files).world.scene.container? 1 = some ⟨"root", none, none, [], true⟩ :=
  rfl

theorem isConsistent_openShop : (openShop config files).world.scene.IsConsistent :=
  Scene.isConsistent_empty.addContainer "root" none none

/-- The source that is compiled has a syntax error without a place that could be shown. -/
def BreaksOff : Prop :=
  ∃ path source e, Markup.locate? config.roots (Template.resolve config.basePath template) =
    some path ∧ files path = .ok source ∧ Markup.parse source = .error e ∧ e.IsBehindTokens source

/-! ## The request -/

/-- The engine finds its sources in the files behind URIs. -/
theorem breaksOff_iff :
    BreaksOff config files template ↔
      ∃ text e, (Markup.Engine.new config.roots files true).source
          (Template.resolve config.basePath template) = .ok text ∧
        Markup.parse text = .error e ∧ e.IsBehindTokens text := by
  rw [BreaksOff]
  generalize Template.resolve config.basePath template = uri
  have hnone (hpath : Markup.locate? config.roots uri = none) :
      (Markup.Engine.new config.roots files true).source uri = .error (.notFound uri) := by
    rw [Markup.Engine.source, show (Markup.Engine.new config.roots files true).sources.get? uri =
      none from rfl]
    dsimp only [Markup.Engine.new]
    rw [hpath]
  have hsome {path : String} (hpath : Markup.locate? config.roots uri = some path) :
      (Markup.Engine.new config.roots files true).source uri =
        (files path).mapError fun fault => .unreadable path fault.message := by
    rw [Markup.Engine.source, show (Markup.Engine.new config.roots files true).sources.get? uri =
      none from rfl]
    dsimp only [Markup.Engine.new]
    rw [hpath]
  constructor
  · rintro ⟨path, text, e, hpath, hread, he, hbehind⟩
    refine ⟨text, e, ?_, he, hbehind⟩
    rw [hsome hpath, hread]
    rfl
  · rintro ⟨text, e, htext, he, hbehind⟩
    cases hpath : Markup.locate? config.roots uri with
    | none =>
      rw [hnone hpath] at htext
      cases htext
    | some path =>
      rw [hsome hpath] at htext
      cases hread : files path with
      | error fault =>
        rw [hread] at htext
        cases htext
      | ok source =>
        rw [hread] at htext
        cases htext
        exact ⟨path, text, e, rfl, hread, he, hbehind⟩

/-- A request that waits long enough leaves the engine with its compile finished. -/
theorem readyTemplate_of_awaits (hawaits : config.Awaits) :
    let now := (Markup.Engine.new config.roots files true).compile
      (Template.resolve config.basePath template) .synchronous
    ∃ result next, (openShop config files).readyTemplate (some 1) template = (result, next) ∧
      next.world.state.markup = now.2 ∧
      ∀ handle, result = .ok handle →
        studio.IsPlain handle.template ∧ now.2.verdict now.1 = .ready := by
  intro now
  let shop := openShop config files
  have hdrained : shop.world.IsDrained Studio.markupSide
    (Markup.Engine.new config.roots files true) := ⟨rfl, rfl⟩
  have hget : shop.factory.cache.get? (shop.factory.resolve template) = none := rfl
  have hplain : studio.IsPlain (Studio.TemplateRef.markup now.1) :=
    ⟨fun _ _ => rfl, fun _ _ _ => rfl⟩
  by_cases htimeout : 0 < config.readyTimeout.nanos
  · obtain ⟨state, hstate, hends⟩ :=
      shop.readyTemplate_of_bound (some 1) template htimeout hdrained hget rfl
    have hmarkup := ((Studio.State.queued?_eq_some_iff state now.2).1 hstate).2
    rcases hends with ⟨detail, cache, -, -, -, heq⟩ | ⟨hready, heq⟩
    · exact ⟨_, _, heq, hmarkup, nofun⟩
    · refine ⟨_, _, heq, hmarkup, ?_⟩
      rintro handle ⟨⟩
      exact ⟨hplain, hready⟩
  · -- without time a compile is finished only if it is finished at once
    have hmode : shop.factory.cache.mode = .synchronous := hawaits.resolve_right htimeout
    obtain ⟨state, hstate, hends⟩ := shop.template_of_bound template hdrained.engine? hget rfl
    rw [hmode] at hstate hends
    have hmarkup := ((Studio.State.queued?_eq_some_iff state now.2).1 hstate).2
    rcases hends with ⟨detail, -, heq⟩ | ⟨hkept, heq⟩
    · exact ⟨_, _, shop.readyTemplate_of_error heq, hmarkup, nofun⟩
    · have hready : now.2.verdict now.1 = .ready := by
        cases hnow : now.2.verdict now.1 with
        | ready => rfl
        | failed detail => exact absurd hnow (hkept detail)
        | loading => exact absurd hnow (Markup.Engine.verdict_compile_synchronous_ne _ _)
      have hstatus := (Studio.markupSide.status now.1 hstate).trans hready
      refine ⟨_, _, (shop.readyTemplate_of_ok heq).trans
        (Workshop.awaitReady_of_ready _ hstatus), hmarkup, ?_⟩
      rintro handle ⟨⟩
      exact ⟨hplain, hready⟩

/-- A request that does not wait finds the template loading. -/
theorem readyTemplate_of_not_awaits (hawaits : ¬config.Awaits) :
    ∃ e next, (openShop config files).readyTemplate (some 1) template = (.error e, next) ∧
      next.world.state.markup.unreported = [] := by
  let shop := openShop config files
  let engine := Markup.Engine.new config.roots files true
  obtain ⟨hmode, htimeout⟩ := not_or.1 hawaits
  have hasynchronous : shop.factory.cache.mode = .asynchronous := by
    change config.compileMode = .asynchronous
    cases hm : config.compileMode with
    | asynchronous => rfl
    | synchronous => exact absurd hm hmode
  have hengine : Studio.markupSide.engine? shop.world.state = some engine := rfl
  obtain ⟨state, hstate, hends⟩ := shop.template_of_bound template hengine rfl rfl
  rw [hasynchronous] at hstate hends
  obtain ⟨hunreported, hloading⟩ :=
    engine.unreported_compile_deferred (shop.factory.resolve template) rfl rfl
  have hmarkup := ((Studio.State.queued?_eq_some_iff state _).1 hstate).2
  rcases hends with ⟨detail, hfailed, -⟩ | ⟨-, heq⟩
  · cases hloading.symm.trans hfailed
  · refine ⟨_, _, (shop.readyTemplate_of_ok heq).trans (Workshop.awaitReady_of_no_time _ _
      ((Studio.markupSide.status _ hstate).trans hloading) ?_), ?_⟩
    · exact Nat.eq_zero_of_not_pos htimeout
    · exact hmarkup ▸ hunreported

/-- What the request of the program comes to. There is a syntax error that cannot be shown iff
the compile was finished and its source has such an error. If the template is obtained there is
none, and what is constructed from it leaves the engine alone. -/
theorem readyTemplate_openShop :
    ∃ result next, (openShop config files).readyTemplate (some 1) template = (result, next) ∧
      (next.world.state.markup.unreported ≠ [] ↔
        config.Awaits ∧ BreaksOff config files template) ∧
      ∀ handle, result = .ok handle →
        studio.IsPlain handle.template ∧ next.world.state.markup.unreported = [] := by
  by_cases hawaits : config.Awaits
  · obtain ⟨result, next, heq, hmarkup, hok⟩ :=
      readyTemplate_of_awaits config files template hawaits
    refine ⟨result, next, heq, ?_, ?_⟩
    · rw [hmarkup, breaksOff_iff, Markup.Engine.unreported_compile_synchronous _ _ rfl]
      exact (and_iff_right hawaits).symm
    · intro handle hhandle
      obtain ⟨hplain, hready⟩ := hok handle hhandle
      rw [hmarkup]
      exact ⟨hplain, Markup.Engine.unreported_of_ready _ _ rfl hready⟩
  · obtain ⟨e, next, heq, hunreported⟩ :=
      readyTemplate_of_not_awaits config files template hawaits
    refine ⟨.error e, next, heq, iff_of_false ?_ fun h => hawaits h.1, nofun⟩
    exact not_not.2 hunreported

end CommandLine

end SceneFactory
