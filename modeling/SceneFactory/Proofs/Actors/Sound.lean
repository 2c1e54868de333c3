import SceneFactory.Proofs.Actors.Basic

/-!
# Sessions among actors that leave contexts and scene alone

Actors that leave contexts and scene alone act like a host while a template is obtained and
while an instance is constructed. What is known of these for every host is carried over here:
what a request leaves alone (`Actors.readyTemplate_frame`, `Actors.readyTemplate_factory`), how a
construction fails (`Actors.build_error`), and that constructions keep the books in order
(`Actors.build_frame`).

Main statement: every session that such actors lead to is in order (`Actors.isSound_after`), by
induction over the run with one lemma for each way in which a factory works.
-/

set_option autoImplicit false

namespace SceneFactory

namespace Actors

variable {H : Host} {a : Actors H}

/-! ## Requests and constructions -/

section Frame

variable (hcontexts : a.Spares World.contexts) (hscene : a.Spares World.scene)

include hcontexts hscene

/-- Obtaining a template leaves the scene, the contexts and the tracker alone. -/
theorem readyTemplate_frame (shop : Workshop H) (container? : Option ContainerId)
    (identifier : String) :
    (a.readyTemplate shop container? identifier).2.world.scene = shop.world.scene ∧
      (a.readyTemplate shop container? identifier).2.world.contexts = shop.world.contexts ∧
      (a.readyTemplate shop container? identifier).2.factory.tracker = shop.factory.tracker ∧
      (a.readyTemplate shop container? identifier).2.factory.rootContext =
        shop.factory.rootContext := by
  rw [readyTemplate_eq hcontexts hscene]
  exact (shop.toHostAt a shop.world.contexts shop.world.scene).readyTemplate_frame container?
    identifier

/-- A request at most binds the container's engine, and touches no URI but its own. -/
theorem readyTemplate_factory (shop : Workshop H) (hfiled : shop.factory.cache.IsFiled)
    (container? : Option ContainerId) (identifier : String) :
    let next := (a.readyTemplate shop container? identifier).2
    next.factory.engine? = (shop.bindFrom container?).factory.engine? ∧
      next.factory.config = shop.factory.config ∧
      TemplateCache.SameBut (shop.factory.resolve identifier) shop.factory.cache
        next.factory.cache ∧
      next.factory.cache.IsFiled := by
  let lent := shop.toHostAt a shop.world.contexts shop.world.scene
  have hbound : (lent.bindFrom container?).factory.engine? =
      (shop.bindFrom container?).factory.engine? :=
    congrArg (fun shop => shop.factory.engine?) (lent.bindFrom_ofHostAt container?).symm
  obtain ⟨hengine, hrest⟩ := lent.readyTemplate_factory hfiled container? identifier
  rw [readyTemplate_eq hcontexts hscene]
  exact ⟨hengine.trans hbound, hrest⟩

/-- A request fails before anything is constructed. -/
theorem not_isOfConstruction_of_readyTemplate {shop next : Workshop H}
    {container? : Option ContainerId} {identifier : String} {e : FactoryError}
    (h : a.readyTemplate shop container? identifier = (.error e, next)) :
    e.isOfConstruction = false := by
  rw [readyTemplate_eq hcontexts hscene] at h
  cases hlent : (shop.toHostAt a shop.world.contexts shop.world.scene).readyTemplate container?
      identifier with
  | mk result found =>
    rw [hlent] at h
    cases h
    exact Workshop.not_isOfConstruction_of_readyTemplate _ hlent

theorem template_frame (shop : Workshop H) (identifier : String) :
    (a.template shop identifier).2.world.scene = shop.world.scene ∧
      (a.template shop identifier).2.world.contexts = shop.world.contexts ∧
      (shop.factory.cache.IsFiled →
        (a.template shop identifier).2.factory.cache.IsFiled) := by
  let lent := shop.toHostAt a shop.world.contexts shop.world.scene
  have heq : a.template shop identifier = (lent.template identifier).map id Workshop.ofHostAt :=
    template_ofHostAt hcontexts hscene lent rfl rfl identifier
  rw [heq]
  exact ⟨rfl, rfl, fun hfiled => lent.isFiled_template hfiled identifier⟩

/-- What a construction that fails leaves: a context, and the note of what was let go. -/
theorem build_error (w : World H) (handle : TemplateHandle H.Template)
    (container : ContainerId) (rootContext : ContextId) (contextual direct : Attributes)
    {e : FactoryError} {w' : World H}
    (h : a.build w handle container rootContext contextual direct = (.error e, w')) :
    let k := w.contexts.newest + 1
    let entered := w.enter container rootContext contextual
    w'.contexts = entered.contexts ∧ w.scene.Abandons w'.scene (e.lost k) ∧
      (e.lost k).count (.object k) =
        (a.construct handle.template entered.surroundings entered).1.isSome.toNat := by
  intro k entered
  rw [build_eq hcontexts hscene] at h
  cases hlent : (w.toHostAt a entered.contexts w.scene).construct handle container rootContext
      contextual direct with
  | mk result found =>
    rw [hlent] at h
    cases h
    exact (World.construct_error _ _ _ _ _ _ hlent).2

/-- A construction keeps the books in order and gives no container another context. -/
theorem build_frame (w : World H) (handle : TemplateHandle H.Template) (container : ContainerId)
    (rootContext : ContextId) (contextual direct : Attributes) :
    let next := (a.build w handle container rootContext contextual direct).2
    w.contexts.newest ≤ next.contexts.newest ∧ w.scene.InheritsContainers next.scene ∧
      (w.scene.IsBooked w.contexts.newest → next.scene.IsBooked next.contexts.newest) := by
  let lent := w.toHostAt a (w.enter container rootContext contextual).contexts w.scene
  have hchange := lent.change_construct handle container rootContext contextual direct
  rw [build_eq hcontexts hscene]
  refine ⟨hchange.newest_le, lent.inheritsContainers_construct _ _ _ _ _, fun hbooked => ?_⟩
  exact Scene.IsBooked.moves (w := lent) hbooked (Relation.ReflTransGen.single (.change hchange))

end Frame

end Actors

/-! ## Sessions in order -/

namespace Session

variable {H : Host} {s : Session H}

/-- The session once its factory has worked. -/
def withShop (s : Session H) (shop : Workshop H) : Session H :=
  ⟨shop.world, some shop.factory, s.tracker, s.heldInstances, s.heldContexts⟩

/-- What every session keeps to in which the host names contexts that exist: references lead to
contexts that were made, the books are in order, and handles are kept under their own URIs. -/
structure IsSound (s : Session H) : Prop where
  grounded : s.IsGrounded
  booked : s.world.scene.IsBooked s.world.contexts.newest
  filed : s.IsFiled

namespace IsSound

theorem start (config : Config) (state : H.State) : (start config state).IsSound :=
  ⟨isGrounded_start config state, Scene.isBooked_empty _, isFiled_start config state⟩

theorem perform (h : s.IsSound) {op : Operation H} (hop : op.NamesContext s) :
    (s.perform op).2.IsSound :=
  ⟨h.grounded.perform h.booked hop, h.booked.moves (s.moves_perform op), h.filed.perform op⟩

theorem hold (h : s.IsSound) (ids : List InstanceId) : (s.hold ids).IsSound :=
  ⟨⟨h.grounded.held, h.grounded.root, h.grounded.container⟩, h.booked, h.filed⟩

theorem settle (h : s.IsSound) : s.settle.IsSound :=
  ⟨h.grounded.settle, h.booked.moves s.changes_settle.moves, h.filed⟩

/-- Work of a factory that makes contexts, gives containers none and keeps the books and the
cache in order leaves the session sound. -/
theorem work {shop next : Workshop H} (h : (s.withShop shop).IsSound) (hkeeps : shop.Keeps next)
    (hnewest : shop.world.contexts.newest ≤ next.world.contexts.newest)
    (hbooked : next.world.scene.IsBooked next.world.contexts.newest)
    (hfiled : next.factory.cache.IsFiled) : (s.withShop next).IsSound where
  grounded := by
    refine h.grounded.inherits ⟨List.Subset.refl _, ?_, hkeeps.containers⟩ hnewest
    intro f' hf'
    cases hf'
    exact ⟨shop.factory, rfl, hkeeps.rootContext.symm⟩
  booked := hbooked
  filed := by
    intro f hf
    cases hf
    exact hfiled

theorem flush {shop : Workshop H} (h : (s.withShop shop).IsSound) :
    (s.withShop shop.flush.2).IsSound :=
  h.work shop.keeps_flush (Nat.le_refl _) (h.booked.moves shop.changes_flush.moves)
    (h.filed shop.factory rfl)

theorem atWork (h : s.IsSound) {work : Workshop H → Outcome H × Workshop H}
    (hwork : ∀ shop, (s.withShop shop).IsSound → (s.withShop (work shop).2).IsSound) :
    (s.atWork work).2.IsSound := by
  rw [Session.atWork]
  cases hf : s.factory? with
  | none => exact h
  | some factory =>
    refine hwork ⟨factory, s.world⟩ ?_
    rwa [withShop, ← hf]

end IsSound

end Session

namespace Actors

section Sound

variable {H : Host} {a : Actors H} (hcontexts : a.Spares World.contexts)
  (hscene : a.Spares World.scene) {s : Session H} {shop : Workshop H}

include hcontexts hscene

theorem isSound_template (h : (s.withShop shop).IsSound) (identifier : String) :
    (s.withShop (a.template shop identifier).2).IsSound := by
  obtain ⟨hs, hc, hfiled⟩ := template_frame hcontexts hscene shop identifier
  refine h.work ⟨rfl, ?_⟩ ?_ ?_ (hfiled (h.filed shop.factory rfl))
  · rw [hs]
    exact .refl _
  · rw [hc]
  · rw [hs, hc]
    exact h.booked

theorem isSound_readyTemplate (h : (s.withShop shop).IsSound) (container? : Option ContainerId)
    (identifier : String) :
    (s.withShop (a.readyTemplate shop container? identifier).2).IsSound := by
  obtain ⟨hs, hc, -, hroot⟩ := readyTemplate_frame hcontexts hscene shop container? identifier
  obtain ⟨-, -, -, hfiled⟩ := readyTemplate_factory hcontexts hscene shop
    (h.filed shop.factory rfl) container? identifier
  refine h.work ⟨hroot, ?_⟩ ?_ ?_ hfiled
  · rw [hs]
    exact .refl _
  · rw [hc]
  · rw [hs, hc]
    exact h.booked

theorem isSound_constructIn (h : (s.withShop shop).IsSound)
    (handle : TemplateHandle H.Template) (container : ContainerId)
    (contextual direct : Attributes) (ownership : Ownership) :
    (s.withShop
      (a.constructIn shop handle container contextual direct ownership).2).IsSound := by
  obtain ⟨hnewest, hcontainers, hbooked⟩ := build_frame hcontexts hscene shop.world handle
    container shop.factory.rootContext contextual direct
  have hfiled : shop.factory.cache.IsFiled := h.filed shop.factory rfl
  rw [constructIn]
  cases hbuilt : a.build shop.world handle container shop.factory.rootContext contextual
      direct with
  | mk result world =>
    rw [hbuilt] at hnewest hcontainers hbooked
    cases result with
    | error e => exact h.work ⟨rfl, hcontainers⟩ hnewest (hbooked h.booked) hfiled
    | ok i =>
      refine h.work ⟨?_, hcontainers⟩ hnewest (hbooked h.booked) ?_
      · cases ownership <;> rfl
      · cases ownership <;> exact hfiled

theorem isSound_create (h : (s.withShop shop).IsSound) (container? : Option ContainerId)
    (identifier : String) (contextual direct : Attributes) (ownership : Ownership) :
    (s.withShop (a.create shop container? identifier contextual direct ownership).2).IsSound := by
  cases container? with
  | none => exact h
  | some container =>
    have hready := isSound_readyTemplate hcontexts hscene h.flush (some container) identifier
    simp only [create]
    cases hr : a.readyTemplate shop.flush.2 (some container) identifier with
    | mk result next =>
      rw [hr] at hready
      cases result with
      | error e => exact hready
      | ok handle =>
        exact isSound_constructIn hcontexts hscene hready handle container contextual direct
          ownership

theorem isSound_constructEach (handle : TemplateHandle H.Template) (container : ContainerId)
    (key : String) (base : Attributes) (ownership : Ownership) (values : List Value)
    (h : (s.withShop shop).IsSound) :
    (s.withShop (a.constructEach handle container key base ownership values shop).2).IsSound := by
  induction values generalizing shop with
  | nil => exact h
  | cons value rest ih =>
    have hfirst := isSound_constructIn hcontexts hscene h handle container .empty
      (base.merged key value) ownership
    rw [constructEach]
    cases hc : a.constructIn shop handle container .empty (base.merged key value) ownership with
    | mk result next =>
      rw [hc] at hfirst
      cases result with
      | error e => exact ih hfirst
      | ok i => exact ih hfirst

theorem isSound_createMany (h : (s.withShop shop).IsSound) (key : String) (values : List Value)
    (container? : Option ContainerId) (identifier : String) (base : Attributes)
    (ownership : Ownership) :
    (s.withShop
      (a.createMany shop key values container? identifier base ownership).2).IsSound := by
  cases container? with
  | none => exact h
  | some container =>
    have hready := isSound_readyTemplate hcontexts hscene h.flush (some container) identifier
    simp only [createMany]
    split
    · exact h
    · cases hr : a.readyTemplate shop.flush.2 (some container) identifier with
      | mk result next =>
        rw [hr] at hready
        cases result with
        | error e => exact hready
        | ok handle =>
          exact isSound_constructEach hcontexts hscene handle container key base ownership values
            hready

/-- Every operation leaves a sound session sound. -/
theorem isSound_perform (h : s.IsSound) {op : Operation H} (hop : op.NamesContext s) :
    (a.perform s op).2.IsSound := by
  cases op with
  | template identifier =>
    have hworked : (s.atWork fun shop =>
        (a.template shop identifier).map .template id).2.IsSound :=
      h.atWork fun _ hs => isSound_template hcontexts hscene hs identifier
    exact hworked.settle
  | readyTemplate container? identifier =>
    have hworked : (s.atWork fun shop =>
        (a.readyTemplate shop container? identifier).map .template id).2.IsSound :=
      h.atWork fun _ hs => isSound_readyTemplate hcontexts hscene hs container? identifier
    exact hworked.settle
  | create container? identifier contextual direct ownership =>
    have hworked : (s.atWork fun shop => (a.create shop container? identifier contextual direct
        ownership).map .created id).2.IsSound :=
      h.atWork fun _ hs =>
        isSound_create hcontexts hscene hs container? identifier contextual direct ownership
    suffices hcarried : (a.carryOut s
        (.create container? identifier contextual direct ownership)).2.IsSound from hcarried.settle
    simp only [carryOut]
    split
    · rename_i heq
      rw [heq] at hworked
      exact hworked.hold _
    · exact hworked
  | createMany key values container? identifier base ownership =>
    have hworked : (s.atWork fun shop => (a.createMany shop key values container? identifier base
        ownership).map .createdMany id).2.IsSound :=
      h.atWork fun _ hs =>
        isSound_createMany hcontexts hscene hs key values container? identifier base ownership
    suffices hcarried : (a.carryOut s
        (.createMany key values container? identifier base ownership)).2.IsSound from
      hcarried.settle
    simp only [carryOut]
    split
    · rename_i heq
      rw [heq] at hworked
      exact hworked.hold _
    · exact hworked
  | _ => exact h.perform hop

/-- So every session is sound that actors lead to which leave contexts and scene alone. -/
theorem isSound_after (config : Config) (state : H.State) {ops : List (Operation H)}
    (hops : a.Throughout (fun s op => op.NamesContext s) (Session.start config state) ops) :
    (a.after (Session.start config state) ops).IsSound := by
  have hrun : ∀ {s : Session H}, s.IsSound → ∀ {ops : List (Operation H)},
      a.Throughout (fun s op => op.NamesContext s) s ops → (a.after s ops).IsSound := by
    intro s hs ops hops
    induction ops generalizing s with
    | nil => exact hs
    | cons op ops ih => exact ih (isSound_perform hcontexts hscene hs hops.1) hops.2
  exact hrun (.start config state) hops

end Sound

end Actors

end SceneFactory
