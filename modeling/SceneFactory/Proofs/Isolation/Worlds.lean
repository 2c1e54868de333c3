import SceneFactory.Proofs.Isolation.Contexts
import SceneFactory.Proofs.Lifetime.Tended
import SceneFactory.Proofs.Modes.Alike
import SceneFactory.Proofs.World.Recipe

/-!
# Worlds that differ in what creations made

What the attributes of a creation can reach is little. Instances come and go in the children of
containers, but a container without its children is the same whatever happens to instances
(`Scene.places`). A template may be such that it leaves the host's state as it finds it
(`Host.IsPlain`); those of the markup engine are (`Studio.compilesPlain_markup`).

So worlds in which the same is constructed with other attributes stay in parallel
(`World.Parallel`): their hosts are in one state, their containers differ in the children alone,
and their contexts are the same outside those that creations have made. Instances may differ in
any way.

Main statements: constructions with any attributes keep worlds in parallel
(`World.Parallel.construct`); with the same attributes, where names mean the same, they come to
the same (`World.Parallel.construct_same`).
-/

set_option autoImplicit false

namespace SceneFactory

/-! ## Containers without their children -/

/-- The container without its children. -/
def Container.bare {ε : Type} (container : Container ε) : Container ε :=
  ⟨container.name, container.context?, container.engine?, [], container.isLive⟩

namespace Scene

variable {ε : Type} (scene : Scene ε) {scene' : Scene ε}

/-- All containers, without their children. -/
def places : List (Container ε) := scene.containers.toList.map Container.bare

theorem getElem?_places (i : Nat) :
    scene.places[i]? = (scene.containers.get? (i + 1)).map Container.bare := by
  simp [places, Numbered.toList, Numbered.get?]

/-- What is read off a living container beside its children depends on the places alone. -/
theorem bind_container?_of_places {β : Type} (h : scene'.places = scene.places)
    {f : Container ε → Option β} (hf : ∀ container : Container ε, f container.bare = f container)
    (c : ContainerId) : (scene'.container? c).bind f = (scene.container? c).bind f := by
  -- a container is alive without its children as it is with them
  have hread : ∀ shown : Scene ε, (shown.container? c).bind f =
      (((shown.containers.get? c).map Container.bare).filter Container.isLive).bind f := by
    intro shown
    rw [container?]
    cases shown.containers.get? c with
    | none => rfl
    | some container =>
      cases hlive : container.isLive with
      | false => simp [Option.filter, Container.bare, hlive]
      | true =>
        have hbare : container.bare.isLive = true := hlive
        simp only [Option.filter, hlive, hbare, Option.map_some, if_true, Option.bind_some]
        exact (hf container).symm
  rw [hread, hread]
  cases c with
  | zero => rfl
  | succ i => rw [← getElem?_places, ← getElem?_places, h]

theorem KnowsOnly.of_places {name : ε} (hknown : scene.KnowsOnly name)
    (h : scene'.places = scene.places) : scene'.KnowsOnly name := by
  intro c container other hc hother
  have hread := scene.bind_container?_of_places h (f := Container.engine?) (fun _ => rfl) c
  rw [hc, Option.bind_some, hother] at hread
  obtain ⟨before, hbefore, hengine⟩ := Option.bind_eq_some_iff.1 hread.symm
  exact hknown c before other hbefore hengine

/-! ### What leaves the places alone -/

theorem places_of_containers (h : scene'.containers = scene.containers) :
    scene'.places = scene.places := by
  rw [places, places, h]

@[simp] theorem places_modifyChildren (c : ContainerId)
    (f : List InstanceId → List InstanceId) : (scene.modifyChildren c f).places = scene.places := by
  apply List.ext_getElem?
  intro i
  rw [getElem?_places, getElem?_places, modifyChildren, Numbered.get?_modify]
  by_cases hc : c = i + 1
  · rw [if_pos hc, Option.map_map]
    rfl
  · rw [if_neg hc]

@[simp] theorem places_attach (i : InstanceId) (c : ContainerId) :
    (scene.attach i c).places = scene.places := by
  rw [attach]
  split
  · rw [attachChild, places_modifyChildren]
    rfl
  · rfl

@[simp] theorem places_detach (i : InstanceId) (access : Access) :
    (scene.detach i access).2.places = scene.places := by
  rw [detach]
  split
  · rfl
  · split
    · dsimp only
      split
      · rfl
      · split
        · cases access with
          | free => exact places_modifyChildren _ _ _
          | busy => rfl
        · rfl
    · rfl

@[simp] theorem places_release (i : InstanceId) :
    (scene.release i).2.places = scene.places := by
  rw [release]
  split
  · rfl
  · split <;> rfl

@[simp] theorem places_forgetUnheld (referred : List InstanceId) :
    (scene.forgetUnheld referred).places = scene.places :=
  scene.places_of_containers (scene.containers_forgetUnheld referred)

@[simp] theorem places_releaseAll {busy : List ContainerId} (ids : List InstanceId) :
    (Tracker.releaseAll busy ids scene).2.places = scene.places := by
  induction ids generalizing scene with
  | nil => rfl
  | cons i rest ih =>
    have hfirst : (scene.dismiss busy i).2.places = scene.places := by
      rw [dismiss, places_release, places_detach]
    exact (ih _).trans hfirst

/-! ### What changes places -/

theorem places_addContainer (name : String) (context? : Option ContextId) (engine? : Option ε) :
    (scene.addContainer name context? engine?).2.places =
      scene.places ++ [⟨name, context?, engine?, [], true⟩] := by
  simp [places, addContainer, Numbered.toList, Numbered.push, Container.bare]

theorem places_dropContainer (h : scene'.places = scene.places) (c : ContainerId) :
    (scene'.dropContainer c).places = (scene.dropContainer c).places := by
  have hread : ∀ (shown : Scene ε) (i : Nat), (shown.dropContainer c).places[i]? =
      if c = i + 1 then shown.places[i]?.map fun place =>
        ⟨place.name, place.context?, place.engine?, [], false⟩
      else shown.places[i]? := by
    intro shown i
    rw [getElem?_places, getElem?_places, dropContainer, Numbered.get?_modify]
    by_cases hc : c = i + 1
    · rw [if_pos hc, if_pos hc, Option.map_map, Option.map_map]
      rfl
    · rw [if_neg hc, if_neg hc]
  apply List.ext_getElem?
  intro i
  rw [hread, hread, h]

end Scene

/-! ## Templates that leave the host alone -/

variable {H : Host}

/-- A template that leaves the host's state as it finds it. -/
structure Host.IsPlain (H : Host) (template : H.Template) : Prop where
  construct : ∀ around state, (H.construct template around state).2 = state
  complete : ∀ around o state, (H.complete template around o state).2 = state

/-- An engine whose templates leave the host's state as they find it. -/
def Host.CompilesPlain (H : Host) (engine : H.Engine) : Prop :=
  ∀ uri mode state, H.IsPlain (H.compile engine uri mode state).1

/-- Two worlds with the host in one state, with the same places, and with contexts that are the
same outside some. -/
structure World.Parallel (engine : H.Engine) (made : ContextId → Prop) (w w' : World H) :
    Prop where
  known : w.scene.KnowsOnly engine
  state : w'.state = w.state
  contexts : w.contexts.SameOutside made w'.contexts
  places : w'.scene.places = w.scene.places

namespace World

variable (w : World H) (handle : TemplateHandle H.Template) (container : ContainerId)
  (rootContext : ContextId) (contextual direct : Attributes)

/-- A construction of a plain template leaves the host's state alone. -/
theorem state_construct (hplain : H.IsPlain handle.template) :
    (w.construct handle container rootContext contextual direct).2.state = w.state := by
  have hbegin := hplain.construct (w.enter container rootContext contextual).surroundings w.state
  have hstate : (w.enter container rootContext contextual).state = w.state := rfl
  simp only [construct, hstate]
  cases hc : H.construct handle.template
      (w.enter container rootContext contextual).surroundings w.state with
  | mk o? state =>
    rw [hc] at hbegin
    cases o? with
    | none => exact hbegin
    | some o =>
      have hend := hplain.complete (w.enter container rootContext contextual).surroundings
        (o.writeAttributes direct) state
      dsimp only
      cases hm : H.complete handle.template
          (w.enter container rootContext contextual).surroundings (o.writeAttributes direct)
          state with
      | mk completed state' =>
        rw [hm] at hend
        cases completed with
        | error detail => exact hend.trans hbegin
        | ok o =>
          dsimp only [place]
          split <;> exact hend.trans hbegin

theorem outerContext_of_places {w w' : World H} (h : w'.scene.places = w.scene.places)
    (container : ContainerId) (rootContext : ContextId) :
    w'.outerContext container rootContext = w.outerContext container rootContext :=
  congrArg (Option.getD · rootContext)
    (w.scene.bind_container?_of_places h (fun _ => rfl) container)

theorem places_construct :
    (w.construct handle container rootContext contextual direct).2.scene.places =
      w.scene.places := by
  obtain ⟨-, ⟨e, lost, -, -, hs⟩ | ⟨o, -, -, hs⟩ | ⟨o, -, -, hs⟩⟩ :=
    w.construct_cases handle container rootContext contextual direct
  · rw [hs]
    rfl
  · rw [hs, Scene.places_release]
    rfl
  · rw [hs, Scene.places_attach]
    rfl

namespace Parallel

variable {engine : H.Engine} {made : ContextId → Prop} {w w' : World H} {handle}
  (h : w.Parallel engine made w')

include h

theorem withState (state : H.State) :
    (w.withState state).Parallel engine made (w'.withState state) :=
  ⟨h.known, rfl, h.contexts, h.places⟩

theorem withContexts {contexts contexts' : Contexts}
    (hcontexts : contexts.SameOutside made contexts') :
    (w.withContexts contexts).Parallel engine made (w'.withContexts contexts') :=
  ⟨h.known, h.state, hcontexts, h.places⟩

/-- The scenes may change in any way that leaves the places alone. -/
theorem withScene {scene scene' : Scene H.Engine} (hscene : scene.places = w.scene.places)
    (hscene' : scene'.places = w'.scene.places) :
    (w.withScene scene).Parallel engine made (w'.withScene scene') where
  known := h.known.of_places _ hscene
  state := h.state
  contexts := h.contexts
  places := hscene'.trans (h.places.trans hscene.symm)

theorem seated (container : ContainerId) (inst : Instance) :
    w'.scene.seated container inst = w.scene.seated container inst := by
  apply Scene.seated_congr
  rw [Option.map_eq_bind, Option.map_eq_bind]
  exact w.scene.bind_container?_of_places h.places (fun _ => rfl) container

/-- The contexts of two constructions differ in nothing but themselves. -/
theorem enter (hmade : made (w.contexts.newest + 1)) (container : ContainerId)
    (rootContext : ContextId) (contextual contextual' : Attributes) :
    (w.enter container rootContext contextual).Parallel engine made
      (w'.enter container rootContext contextual') := by
  have hadded := h.contexts.add (some (w.outerContext container rootContext))
  simp only [World.enter]
  rw [outerContext_of_places h.places, hadded.newest]
  refine h.withContexts (hadded.setAll_of_made ?_ contextual contextual')
  rw [Contexts.newest_add]
  exact hmade

/-- Constructions with any attributes keep worlds in parallel. -/
theorem construct (hplain : H.IsPlain handle.template) (hmade : made (w.contexts.newest + 1))
    (container : ContainerId) (rootContext : ContextId)
    (contextual direct contextual' direct' : Attributes) :
    (w.construct handle container rootContext contextual direct).2.Parallel engine made
      (w'.construct handle container rootContext contextual' direct').2 := by
  have hscene := w.places_construct handle container rootContext contextual direct
  have hscene' := w'.places_construct handle container rootContext contextual' direct'
  refine ⟨h.known.of_places _ hscene, ?_, ?_, hscene'.trans (h.places.trans hscene.symm)⟩
  · rw [state_construct _ _ _ _ _ _ hplain, state_construct _ _ _ _ _ _ hplain, h.state]
  · obtain ⟨hcontexts, -⟩ := w.construct_cases handle container rootContext contextual direct
    obtain ⟨hcontexts', -⟩ :=
      w'.construct_cases handle container rootContext contextual' direct'
    rw [hcontexts, hcontexts']
    exact (h.enter hmade container rootContext contextual contextual').contexts

end Parallel

end World

end SceneFactory
