import SceneFactory.Proofs.Contexts.Grounded
import SceneFactory.Proofs.Template.Runs

/-!
# Engines and event loops that act on the world

A host acts on its own state. Code that a factory calls can do more: an engine that compiles, a
template that constructs, and a task that the event loop runs may have an instance or a context
at hand, and detach the one or write to the other while a creation is under way. `Actors` are
such code, and `Actors.create` is the creation in which they take part; with the actors of a
host it is the creation that the factory does (`Actors.create_host`).

Actors that leave contexts and scene alone (`Actors.Spares`) act like a host for as long as a
request or a construction lasts (`Actors.hostAt`). So what is known of these for every host is
known for such actors (`Actors.readyTemplate_ofHostAt`, `Actors.build_ofHostAt`), and every
session that they lead to is in order (`Actors.isSound_after`).
-/

set_option autoImplicit false

namespace SceneFactory

/-- Engines, templates and an event loop, each with the whole world at hand. -/
structure Actors (H : Host) where
  compile : H.Engine → String → CompileMode → World H → H.Template × World H
  construct : H.Template → Surroundings → World H → Option SceneObject × World H
  complete : H.Template → Surroundings → SceneObject → World H →
    Except String SceneObject × World H
  pump : Duration → World H → Duration × World H

/-- The actors of a host act on its state. -/
def Host.actors (H : Host) : Actors H where
  compile engine uri mode w := (H.compile engine uri mode w.state).map id w.withState
  construct template around w := (H.construct template around w.state).map id w.withState
  complete template around o w := (H.complete template around o w.state).map id w.withState
  pump slice w := (H.pump slice w.state).map id w.withState

namespace Actors

variable {H : Host}

/-- No actor changes a given part of the world. -/
structure Spares {α : Type} (a : Actors H) (part : World H → α) : Prop where
  compile : ∀ engine uri mode w, part (a.compile engine uri mode w).2 = part w
  construct : ∀ template around w, part (a.construct template around w).2 = part w
  complete : ∀ template around o w, part (a.complete template around o w).2 = part w
  pump : ∀ slice w, part (a.pump slice w).2 = part w

/-! ## A factory among actors -/

variable (a : Actors H)

/-- The template of an identifier, compiled on first use, without waiting. -/
def template (shop : Workshop H) (identifier : String) :
    Except FactoryError (TemplateHandle H.Template) × Workshop H :=
  let (result, cache, world) := shop.factory.cache.getOrCreate
    (fun template (w : World H) => H.status template w.state)
    (shop.factory.engine?.map a.compile) (shop.factory.resolve identifier) shop.world
  (result, ⟨shop.factory.withCache cache, world⟩)

/-- Waits for a template. -/
def awaitReady (shop : Workshop H) (handle : TemplateHandle H.Template) :
    Except FactoryError (TemplateHandle H.Template) × Workshop H :=
  let (readiness, world) := shop.factory.gate.await
    (fun (w : World H) => H.status handle.template w.state) a.pump shop.world
  match readiness with
  | .ready => (.ok handle, ⟨shop.factory, world⟩)
  | .failed detail =>
    (.error (.compileFailed handle.uri detail),
      ⟨shop.factory.withCache (shop.factory.cache.evict handle.uri), world⟩)
  | .timedOut =>
    (.error (.timedOut handle.uri shop.factory.gate.timeout), ⟨shop.factory, world⟩)
  | .overflowed => (.error .clockOverflow, ⟨shop.factory, world⟩)

/-- The template of an identifier once it is ready. -/
def readyTemplate (shop : Workshop H) (container? : Option ContainerId) (identifier : String) :
    Except FactoryError (TemplateHandle H.Template) × Workshop H :=
  match a.template (shop.bindFrom container?) identifier with
  | (.error e, shop) => (.error e, shop)
  | (.ok handle, shop) => a.awaitReady shop handle

/-- Constructs one instance of a template in a container. The instance is of the context that
was made for it, whatever contexts the actors may have made since. -/
def build (w : World H) (handle : TemplateHandle H.Template) (container : ContainerId)
    (rootContext : ContextId) (contextual direct : Attributes) :
    Except FactoryError InstanceId × World H :=
  let w := w.enter container rootContext contextual
  let around := w.surroundings
  match a.construct handle.template around w with
  | (none, w) =>
    (.error (.constructionFailed handle.uri),
      w.withScene (w.scene.recordReleases [.context around.context]))
  | (some o, w) =>
    match a.complete handle.template around (o.writeAttributes direct) w with
    | (.error detail, w) =>
      (.error (.completionFailed handle.uri detail),
        w.withScene
          (w.scene.recordReleases [.object around.context, .context around.context]))
    | (.ok o, w) =>
      let (i, scene) := w.scene.addInstance handle.uri o around.context
      if o.isVisual then (.ok i, w.withScene (scene.attach i container))
      else (.error (.incompatibleType handle.uri o.typeName), w.withScene (scene.release i).2)

/-- Constructs one instance of a ready template and tracks it if asked to. -/
def constructIn (shop : Workshop H) (handle : TemplateHandle H.Template)
    (container : ContainerId) (contextual direct : Attributes) (ownership : Ownership) :
    Except FactoryError InstanceId × Workshop H :=
  match a.build shop.world handle container shop.factory.rootContext contextual direct with
  | (.error e, world) => (.error e, ⟨shop.factory, world⟩)
  | (.ok i, world) => (.ok i, ⟨shop.factory.adopt i ownership, world⟩)

/-- Creates one instance in a container. -/
def create (shop : Workshop H) (container? : Option ContainerId) (identifier : String)
    (contextual direct : Attributes) (ownership : Ownership) :
    Except FactoryError InstanceId × Workshop H :=
  match container? with
  | none => (.error .noContainer, shop)
  | some container =>
    match a.readyTemplate shop.flush.2 (some container) identifier with
    | (.error e, shop) => (.error e, shop)
    | (.ok handle, shop) => a.constructIn shop handle container contextual direct ownership

/-- Constructs an instance for each value; values whose construction fails are passed over. -/
def constructEach (handle : TemplateHandle H.Template) (container : ContainerId) (key : String)
    (base : Attributes) (ownership : Ownership) :
    List Value → Workshop H → List InstanceId × Workshop H
  | [], shop => ([], shop)
  | value :: rest, shop =>
    match a.constructIn shop handle container .empty (base.merged key value) ownership with
    | (.error _, shop) => constructEach handle container key base ownership rest shop
    | (.ok i, shop) =>
      let (others, shop) := constructEach handle container key base ownership rest shop
      (i :: others, shop)

/-- Creates an instance for each value in a container. -/
def createMany (shop : Workshop H) (key : String) (values : List Value)
    (container? : Option ContainerId) (identifier : String) (base : Attributes)
    (ownership : Ownership) : List InstanceId × Workshop H :=
  match container? with
  | none => ([], shop)
  | some container =>
    if values.isEmpty then ([], shop)
    else
      match a.readyTemplate shop.flush.2 (some container) identifier with
      | (.error _, shop) => ([], shop)
      | (.ok handle, shop) => a.constructEach handle container key base ownership values shop

/-! ## A session among actors -/

/-- Carries out one operation, before what nobody refers to is let go. The actors take part in
requests and creations. -/
def carryOut (s : Session H) : Operation H → Outcome H × Session H
  | .template identifier =>
    s.atWork fun shop => (a.template shop identifier).map .template id
  | .readyTemplate container? identifier =>
    s.atWork fun shop => (a.readyTemplate shop container? identifier).map .template id
  | .create container? identifier contextual direct ownership =>
    match s.atWork fun shop =>
        (a.create shop container? identifier contextual direct ownership).map .created id with
    | (.created (.ok i), s) => (.created (.ok i), s.hold [i])
    | other => other
  | .createMany key values container? identifier base ownership =>
    match s.atWork fun shop =>
        (a.createMany shop key values container? identifier base ownership).map
          .createdMany id with
    | (.createdMany ids, s) => (.createdMany ids, s.hold ids)
    | other => other
  | op => s.carryOut op

/-- Carries out one operation. -/
def perform (s : Session H) (op : Operation H) : Outcome H × Session H :=
  let (outcome, s) := a.carryOut s op
  (outcome, s.settle)

/-- The session after some operations. -/
def after : Session H → List (Operation H) → Session H
  | s, [] => s
  | s, op :: ops => after (a.perform s op).2 ops

/-- Every operation of a run meets a condition in the session in which it is carried out. -/
def Throughout (P : Session H → Operation H → Prop) : Session H → List (Operation H) → Prop
  | _, [] => True
  | s, op :: ops => P s op ∧ Throughout P (a.perform s op).2 ops

/-! ## Actors that act like a host -/

/-- What the actors do to the host's state in a world with given contexts and a given scene. -/
@[reducible] def hostAt (contexts : Contexts) (scene : Scene H.Engine) : Host where
  State := H.State
  Engine := H.Engine
  Template := H.Template
  compile engine uri mode state :=
    (a.compile engine uri mode ⟨state, contexts, scene⟩).map id World.state
  status := H.status
  construct template around state :=
    (a.construct template around ⟨state, contexts, scene⟩).map id World.state
  complete template around o state :=
    (a.complete template around o ⟨state, contexts, scene⟩).map id World.state
  pump slice state := (a.pump slice ⟨state, contexts, scene⟩).map id World.state

end Actors

variable {H : Host} {a : Actors H} {contexts : Contexts} {scene : Scene H.Engine}

/-- The world as that host has it. -/
def World.toHostAt (a : Actors H) (contexts : Contexts) (scene : Scene H.Engine) (w : World H) :
    World (a.hostAt contexts scene) :=
  ⟨w.state, w.contexts, w.scene⟩

/-- A world of that host, as it is for the actors. -/
def World.ofHostAt (w : World (a.hostAt contexts scene)) : World H :=
  ⟨w.state, w.contexts, w.scene⟩

/-- The workshop as that host has it. -/
def Workshop.toHostAt (a : Actors H) (contexts : Contexts) (scene : Scene H.Engine)
    (shop : Workshop H) : Workshop (a.hostAt contexts scene) :=
  ⟨⟨shop.factory.config, shop.factory.engine?, shop.factory.cache, shop.factory.tracker,
    shop.factory.rootContext⟩, shop.world.toHostAt a contexts scene⟩

/-- A workshop of that host, as it is for the actors. -/
def Workshop.ofHostAt (shop : Workshop (a.hostAt contexts scene)) : Workshop H :=
  ⟨⟨shop.factory.config, shop.factory.engine?, shop.factory.cache, shop.factory.tracker,
    shop.factory.rootContext⟩, shop.world.ofHostAt⟩

/-! ### States that are part of other states -/

/-- A lookup in a state that another state is part of is the lookup in that part, if compiles
and statuses are. -/
theorem TemplateCache.getOrCreate_map {τ σ ρ ε : Type} (f : σ → ρ)
    (status : τ → σ → CompileStatus) (status' : τ → ρ → CompileStatus)
    (compile : ε → String → CompileMode → σ → τ × σ)
    (compile' : ε → String → CompileMode → ρ → τ × ρ)
    (hstatus : ∀ template s, status' template (f s) = status template s)
    (hcompile : ∀ engine uri mode s,
      compile' engine uri mode (f s) = (compile engine uri mode s).map id f)
    (cache : TemplateCache τ) (engine? : Option ε) (uri : String) (s : σ) :
    cache.getOrCreate status' (engine?.map compile') uri (f s) =
      (cache.getOrCreate status (engine?.map compile) uri s).map id (Prod.map id f) := by
  simp only [getOrCreate]
  cases cache.get? uri with
  | some handle => rfl
  | none =>
    cases engine? with
    | none => rfl
    | some engine =>
      simp only [Option.map_some, hcompile]
      cases compile engine uri cache.mode s with
      | mk template s' =>
        simp only [Prod.map_apply, id, hstatus]
        cases status template s' <;> rfl

theorem Gate.awaitFrom_map {σ ρ : Type} (f : σ → ρ) (status : σ → CompileStatus)
    (status' : ρ → CompileStatus) (pump : Duration → σ → Duration × σ)
    (pump' : Duration → ρ → Duration × ρ) (hstatus : ∀ s, status' (f s) = status s)
    (hpump : ∀ slice s, pump' slice (f s) = (pump slice s).map id f) (gate : Gate)
    (waited : Duration) (s : σ) :
    gate.awaitFrom status' pump' waited (f s) =
      (gate.awaitFrom status pump waited s).map id f := by
  fun_induction gate.awaitFrom status pump waited s with
  | case1 waited s h =>
    rw [awaitFrom_of_ready _ _ _ _ ((hstatus s).trans h)]
    rfl
  | case2 waited s detail h =>
    rw [awaitFrom_of_failed _ _ _ _ ((hstatus s).trans h)]
    rfl
  | case3 waited s h hlt elapsed s' heq hadd =>
    have hslice := (hpump (gate.nextSlice waited) s).trans (congrArg (Prod.map id f) heq)
    rw [awaitFrom, hstatus, h]
    dsimp only
    rw [dif_pos hlt]
    split
    · rw [hslice]
      rfl
    · rename_i hsome
      rw [hslice, show (elapsed, s').map id f = (elapsed, f s') from rfl, hadd] at hsome
      cases hsome
  | case4 waited s h hlt elapsed s' heq waited' hadd ih =>
    have hslice := (hpump (gate.nextSlice waited) s).trans (congrArg (Prod.map id f) heq)
    rw [awaitFrom, hstatus, h]
    dsimp only
    rw [dif_pos hlt]
    split
    · rename_i hnone
      rw [hslice, show (elapsed, s').map id f = (elapsed, f s') from rfl, hadd] at hnone
      cases hnone
    · rename_i other hsome
      rw [hslice, show (elapsed, s').map id f = (elapsed, f s') from rfl, hadd] at hsome
      cases hsome
      rw [hslice]
      exact ih
  | case5 waited s h hlt =>
    rw [awaitFrom_of_timeout _ _ _ ((hstatus s).trans h) (Nat.le_of_not_lt hlt)]
    rfl

/-- A wait in a state that another state is part of is the wait in that part. -/
theorem Gate.await_map {σ ρ : Type} (f : σ → ρ) (status : σ → CompileStatus)
    (status' : ρ → CompileStatus) (pump : Duration → σ → Duration × σ)
    (pump' : Duration → ρ → Duration × ρ) (hstatus : ∀ s, status' (f s) = status s)
    (hpump : ∀ slice s, pump' slice (f s) = (pump slice s).map id f) (gate : Gate) (s : σ) :
    gate.await status' pump' (f s) = (gate.await status pump s).map id f :=
  gate.awaitFrom_map f status status' pump pump' hstatus hpump .zero s

/-! ### Requests and constructions -/

/-- A world with the contexts and the scene of the host is its state. -/
theorem World.ofHostAt_eq (w : World (a.hostAt contexts scene)) (hc : w.contexts = contexts)
    (hs : w.scene = scene) : w.ofHostAt = ⟨w.state, contexts, scene⟩ := by
  change (⟨w.state, w.contexts, w.scene⟩ : World H) = _
  exact congr (congrArg (World.mk (H := H) w.state) hc) hs

theorem Workshop.bindFrom_ofHostAt (shop : Workshop (a.hostAt contexts scene))
    (container? : Option ContainerId) :
    shop.ofHostAt.bindFrom container? = (shop.bindFrom container?).ofHostAt := by
  obtain ⟨⟨config, engine?, cache, tracker, rootContext⟩, world⟩ := shop
  cases engine? <;> rfl

namespace Actors

/-- A step that leaves contexts and scene alone is what it does to the state. -/
theorem eq_map_of_spares {α : Type} {step : World H → α × World H} {state : H.State}
    (hcontexts : (step ⟨state, contexts, scene⟩).2.contexts = contexts)
    (hscene : (step ⟨state, contexts, scene⟩).2.scene = scene) :
    step ⟨state, contexts, scene⟩ =
      ((step ⟨state, contexts, scene⟩).map id World.state).map id
        fun state => ⟨state, contexts, scene⟩ := by
  cases hstep : step ⟨state, contexts, scene⟩ with
  | mk answer w =>
    rw [hstep] at hcontexts hscene
    obtain ⟨state', contexts', scene'⟩ := w
    cases hcontexts
    cases hscene
    rfl

variable (hcontexts : a.Spares World.contexts) (hscene : a.Spares World.scene)

section Requests

variable (shop : Workshop (a.hostAt contexts scene)) (hc : shop.world.contexts = contexts)
  (hs : shop.world.scene = scene)

include hcontexts hscene hc hs

theorem template_ofHostAt (identifier : String) :
    a.template shop.ofHostAt identifier = (shop.template identifier).map id Workshop.ofHostAt := by
  have hlookup := TemplateCache.getOrCreate_map
    (fun state => (⟨state, contexts, scene⟩ : World H)) H.status
    (fun template (w : World H) => H.status template w.state)
    (a.hostAt contexts scene).compile a.compile (fun _ _ => rfl)
    (fun engine uri mode state => eq_map_of_spares (hcontexts.compile engine uri mode _)
      (hscene.compile engine uri mode _))
    shop.factory.cache shop.factory.engine? (shop.factory.resolve identifier) shop.world.state
  have hnext := (shop.template identifier).2.world.ofHostAt_eq hc hs
  rw [template, show shop.ofHostAt.world = _ from shop.world.ofHostAt_eq hc hs]
  refine (congrArg (fun r => (r.1, Workshop.mk (shop.ofHostAt.factory.withCache r.2.1) r.2.2))
    hlookup).trans ?_
  exact congrArg (fun w => ((shop.template identifier).1,
    Workshop.mk (shop.template identifier).2.ofHostAt.factory w)) hnext.symm

theorem awaitReady_ofHostAt (handle : TemplateHandle H.Template) :
    a.awaitReady shop.ofHostAt handle = (shop.awaitReady handle).map id Workshop.ofHostAt := by
  have hwait := Gate.await_map (fun state => (⟨state, contexts, scene⟩ : World H))
    (H.status handle.template) (fun (w : World H) => H.status handle.template w.state)
    (a.hostAt contexts scene).pump a.pump (fun _ => rfl)
    (fun slice state => eq_map_of_spares (hcontexts.pump slice _) (hscene.pump slice _))
    shop.factory.gate shop.world.state
  simp only [awaitReady, Workshop.awaitReady]
  rw [show shop.ofHostAt.world = _ from shop.world.ofHostAt_eq hc hs,
    show shop.ofHostAt.factory.gate = shop.factory.gate from rfl, hwait]
  cases shop.factory.gate.await (H.status handle.template) (a.hostAt contexts scene).pump
      shop.world.state with
  | mk readiness state =>
    have hworld : (⟨state, contexts, scene⟩ : World H) = (shop.world.withState state).ofHostAt :=
      ((shop.world.withState state).ofHostAt_eq hc hs).symm
    rw [Prod.map_apply, hworld]
    cases readiness <;> rfl

/-- A request among actors that leave contexts and scene alone is a request for the host that
they act like. -/
theorem readyTemplate_ofHostAt (container? : Option ContainerId) (identifier : String) :
    a.readyTemplate shop.ofHostAt container? identifier =
      (shop.readyTemplate container? identifier).map id Workshop.ofHostAt := by
  have hc' : (shop.bindFrom container?).world.contexts = contexts := by
    rw [Workshop.world_bindFrom]
    exact hc
  have hs' : (shop.bindFrom container?).world.scene = scene := by
    rw [Workshop.world_bindFrom]
    exact hs
  have htemplate := template_ofHostAt hcontexts hscene _ hc' hs' identifier
  rw [readyTemplate, shop.bindFrom_ofHostAt, htemplate, Workshop.readyTemplate]
  cases hfound : (shop.bindFrom container?).template identifier with
  | mk result found =>
    cases result with
    | error e => rfl
    | ok handle =>
      refine awaitReady_ofHostAt hcontexts hscene found ?_ ?_ handle
      · exact (congrArg (fun r => r.2.world.contexts) hfound).symm.trans hc'
      · exact (congrArg (fun r => r.2.world.scene) hfound).symm.trans hs'

end Requests

/-- What an actor that leaves contexts and scene alone does in a world of the host that it acts
like. -/
theorem step_ofHostAt {α : Type} {step : World H → α × World H}
    (w : World (a.hostAt contexts scene)) (hc : w.contexts = contexts) (hs : w.scene = scene)
    (hcontexts : (step ⟨w.state, contexts, scene⟩).2.contexts = contexts)
    (hscene : (step ⟨w.state, contexts, scene⟩).2.scene = scene) :
    step w.ofHostAt = ((step ⟨w.state, contexts, scene⟩).map id World.state).map id
      fun state => (w.withState state).ofHostAt := by
  have hparts : (fun state => (⟨state, contexts, scene⟩ : World H)) =
      fun state => (w.withState state).ofHostAt :=
    funext fun state => ((w.withState state).ofHostAt_eq hc hs).symm
  rw [w.ofHostAt_eq hc hs, ← hparts]
  exact eq_map_of_spares hcontexts hscene

/-- A construction among actors that leave contexts and scene alone is a construction for the
host that they act like, once the context of the construction has been made. -/
theorem build_ofHostAt (hcontexts : a.Spares World.contexts) (hscene : a.Spares World.scene)
    (w : World (a.hostAt contexts scene)) (handle : TemplateHandle H.Template)
    (container : ContainerId) (rootContext : ContextId) (contextual direct : Attributes)
    (hc : (w.enter container rootContext contextual).contexts = contexts)
    (hs : w.scene = scene) :
    a.build w.ofHostAt handle container rootContext contextual direct =
      (w.construct handle container rootContext contextual direct).map id World.ofHostAt := by
  have hsame : (w.enter container rootContext contextual).scene = scene := hs
  simp only [build, World.construct]
  rw [show w.ofHostAt.enter container rootContext contextual =
    (w.enter container rootContext contextual).ofHostAt from rfl]
  generalize w.enter container rootContext contextual = entered at hc hsame ⊢
  rw [show entered.ofHostAt.surroundings = entered.surroundings from rfl]
  have hbegun := step_ofHostAt entered hc hsame
    (hcontexts.construct handle.template entered.surroundings _)
    (hscene.construct handle.template entered.surroundings _)
  rw [hbegun]
  cases (a.construct handle.template entered.surroundings
      ⟨entered.state, contexts, scene⟩).map id World.state with
  | mk o? state =>
    cases o? with
    | none => rfl
    | some o =>
      have hcompleted : a.complete handle.template entered.surroundings
          (o.writeAttributes direct) (entered.withState state).ofHostAt =
          ((a.complete handle.template entered.surroundings (o.writeAttributes direct)
            ⟨state, contexts, scene⟩).map id World.state).map id
              fun next => (entered.withState next).ofHostAt :=
        step_ofHostAt (entered.withState state) hc hsame
          (hcontexts.complete handle.template entered.surroundings _ _)
          (hscene.complete handle.template entered.surroundings _ _)
      simp only [Prod.map_apply, id]
      rw [hcompleted]
      cases (a.complete handle.template entered.surroundings (o.writeAttributes direct)
          ⟨state, contexts, scene⟩).map id World.state with
      | mk result state =>
        cases result with
        | error detail => rfl
        | ok o =>
          simp only [Prod.map_apply, id, World.place]
          by_cases hv : o.isVisual = true
          · rw [if_pos hv, if_pos hv]
            rfl
          · rw [if_neg hv, if_neg hv]
            rfl

/-! ### What actors do that leave contexts and scene alone -/

section Spared

variable (hcontexts : a.Spares World.contexts) (hscene : a.Spares World.scene)

include hcontexts hscene

theorem readyTemplate_eq (shop : Workshop H) (container? : Option ContainerId)
    (identifier : String) :
    a.readyTemplate shop container? identifier =
      ((shop.toHostAt a shop.world.contexts shop.world.scene).readyTemplate container?
        identifier).map id Workshop.ofHostAt :=
  readyTemplate_ofHostAt hcontexts hscene
    (shop.toHostAt a shop.world.contexts shop.world.scene) rfl rfl container? identifier

theorem build_eq (w : World H) (handle : TemplateHandle H.Template) (container : ContainerId)
    (rootContext : ContextId) (contextual direct : Attributes) :
    a.build w handle container rootContext contextual direct =
      ((w.toHostAt a (w.enter container rootContext contextual).contexts w.scene).construct handle
        container rootContext contextual direct).map id World.ofHostAt :=
  build_ofHostAt hcontexts hscene
    (w.toHostAt a (w.enter container rootContext contextual).contexts w.scene) handle container
    rootContext contextual direct rfl rfl

end Spared

theorem spares_contexts_host : H.actors.Spares World.contexts :=
  ⟨fun _ _ _ _ => rfl, fun _ _ _ => rfl, fun _ _ _ _ => rfl, fun _ _ => rfl⟩

theorem spares_scene_host : H.actors.Spares World.scene :=
  ⟨fun _ _ _ _ => rfl, fun _ _ _ => rfl, fun _ _ _ _ => rfl, fun _ _ => rfl⟩

theorem readyTemplate_host (shop : Workshop H) (container? : Option ContainerId)
    (identifier : String) :
    H.actors.readyTemplate shop container? identifier =
      shop.readyTemplate container? identifier :=
  readyTemplate_eq spares_contexts_host spares_scene_host shop container? identifier

theorem build_host (w : World H) (handle : TemplateHandle H.Template) (container : ContainerId)
    (rootContext : ContextId) (contextual direct : Attributes) :
    H.actors.build w handle container rootContext contextual direct =
      w.construct handle container rootContext contextual direct :=
  build_eq spares_contexts_host spares_scene_host w handle container rootContext contextual direct

theorem template_host (shop : Workshop H) (identifier : String) :
    H.actors.template shop identifier = shop.template identifier :=
  template_ofHostAt spares_contexts_host spares_scene_host
    (shop.toHostAt H.actors shop.world.contexts shop.world.scene) rfl rfl identifier

theorem constructIn_host (shop : Workshop H) (handle : TemplateHandle H.Template)
    (container : ContainerId) (contextual direct : Attributes) (ownership : Ownership) :
    H.actors.constructIn shop handle container contextual direct ownership =
      shop.construct handle container contextual direct ownership := by
  rw [constructIn, build_host]
  rfl

/-- With the actors of a host, a creation is what the factory does. -/
theorem create_host (shop : Workshop H) (container? : Option ContainerId) (identifier : String)
    (contextual direct : Attributes) (ownership : Ownership) :
    H.actors.create shop container? identifier contextual direct ownership =
      shop.create container? identifier contextual direct ownership := by
  simp only [create, readyTemplate_host, constructIn_host]
  rfl

theorem constructEach_host (handle : TemplateHandle H.Template) (container : ContainerId)
    (key : String) (base : Attributes) (ownership : Ownership) (values : List Value)
    (shop : Workshop H) :
    H.actors.constructEach handle container key base ownership values shop =
      Workshop.constructEach handle container key base ownership values shop := by
  induction values generalizing shop with
  | nil => rfl
  | cons value rest ih =>
    simp only [constructEach, constructIn_host, ih]
    rfl

theorem createMany_host (shop : Workshop H) (key : String) (values : List Value)
    (container? : Option ContainerId) (identifier : String) (base : Attributes)
    (ownership : Ownership) :
    H.actors.createMany shop key values container? identifier base ownership =
      shop.createMany key values container? identifier base ownership := by
  simp only [createMany, readyTemplate_host, constructEach_host]
  rfl

theorem perform_host (s : Session H) (op : Operation H) :
    H.actors.perform s op = s.perform op := by
  have hcarried : H.actors.carryOut s op = s.carryOut op := by
    cases op with
    | template identifier => simp only [carryOut, Session.carryOut, template_host]
    | readyTemplate container? identifier =>
      simp only [carryOut, Session.carryOut, readyTemplate_host]
    | create container? identifier contextual direct ownership =>
      simp only [carryOut, create_host]
      rfl
    | createMany key values container? identifier base ownership =>
      simp only [carryOut, createMany_host]
      rfl
    | _ => rfl
  rw [perform, hcarried]
  rfl

/-- With the actors of a host, a run leads where it leads. -/
theorem after_host (s : Session H) (ops : List (Operation H)) :
    H.actors.after s ops = s.after ops := by
  induction ops generalizing s with
  | nil => rfl
  | cons op ops ih =>
    rw [after, ih, perform_host]
    rfl

theorem throughout_host {P : Session H → Operation H → Prop} {s : Session H}
    {ops : List (Operation H)} : H.actors.Throughout P s ops ↔ s.Throughout P ops := by
  induction ops generalizing s with
  | nil => exact Iff.rfl
  | cons op ops ih =>
    rw [Throughout, ih, perform_host]
    rfl

end Actors

end SceneFactory
