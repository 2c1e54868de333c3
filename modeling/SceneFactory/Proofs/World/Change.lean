import Mathlib.Logic.Relation
import SceneFactory.Proofs.Scene.Views
import SceneFactory.Session.Basic

/-!
# The elementary changes of a world

Whatever a factory or its host does to a world is put together from few elementary
changes (`World.Change`): time passes beside the scene, a construction ends in one of
three ways, an instance is detached, released or forgotten, a container comes or goes.

What a construction does is said once (`World.construct_cases`). From it, every
operation of a factory and of a session is a sequence of elementary changes
(`Workshop.changes_create`, `Workshop.changes_createMany`, `Session.changes_perform`),
so that an invariant of worlds needs to be looked at one elementary change at a time.
The operations in which the host itself puts its hands into the lists of children are
left out (`Operation.isTidy`).
-/

set_option autoImplicit false

namespace SceneFactory

variable {H : Host}

/-! ## Contexts along a construction -/

namespace Contexts

variable (cs : Contexts)

@[simp] theorem newest_add (parent : Option ContextId) :
    (cs.add parent).newest = cs.newest + 1 := by
  simp [newest, add]

@[simp] theorem newest_set (k : ContextId) (name : String) (value : Value) :
    (cs.set k name value).newest = cs.newest := by
  simp [newest, set]

@[simp] theorem newest_setAll (k : ContextId) (attributes : Attributes) :
    (cs.setAll k attributes).newest = cs.newest := by
  rw [setAll]
  induction attributes.entries generalizing cs with
  | nil => rfl
  | cons e es ih =>
    rw [List.foldl_cons, ih]
    exact cs.newest_set k e.1 e.2

end Contexts

namespace World

@[simp] theorem newest_enter (w : World H) (container : ContainerId) (rootContext : ContextId)
    (contextual : Attributes) :
    (w.enter container rootContext contextual).contexts.newest = w.contexts.newest + 1 := by
  simp [enter, withContexts]

/-! ## What a construction does -/

/-- What is let go when a construction in a context comes to nothing: the context, and
before it the object, if one was begun. -/
def IsRemains (k : ContextId) (lost : List Release) : Prop :=
  lost = [.context k] ∨ lost = [.object k, .context k]

/-- A construction ends in one of three ways. In a fresh context it comes to nothing, or
its object is not visual and is released at once, or its object is visual and becomes an
instance in the container. -/
theorem construct_cases (w : World H) (handle : TemplateHandle H.Template)
    (container : ContainerId) (rootContext : ContextId) (contextual direct : Attributes) :
    let k := w.contexts.newest + 1
    let i := w.scene.instances.next
    let result := w.construct handle container rootContext contextual direct
    result.2.contexts = (w.enter container rootContext contextual).contexts ∧
      ((∃ e lost, result.1 = .error e ∧ IsRemains k lost ∧
          result.2.scene = w.scene.recordReleases lost) ∨
        (∃ o : SceneObject, o.isVisual = false ∧
          result.1 = .error (.incompatibleType handle.uri o.typeName) ∧
          result.2.scene = ((w.scene.addInstance handle.uri o k).2.release i).2) ∨
        (∃ o : SceneObject, o.isVisual = true ∧ result.1 = .ok i ∧
          result.2.scene = (w.scene.addInstance handle.uri o k).2.attach i container)) := by
  intro k i result
  have hk : (w.enter container rootContext contextual).contexts.newest = k :=
    w.newest_enter container rootContext contextual
  simp only [result, construct, surroundings, hk]
  cases hc : H.construct handle.template
      ⟨k, (w.enter container rootContext contextual).contexts.property? k⟩
      (w.enter container rootContext contextual).state with
  | mk o? state =>
    cases o? with
    | none =>
      exact ⟨rfl, Or.inl ⟨_, _, rfl, Or.inl rfl, rfl⟩⟩
    | some o =>
      dsimp only
      cases hm : H.complete handle.template
          ⟨k, (w.enter container rootContext contextual).contexts.property? k⟩
          (o.writeAttributes direct) state with
      | mk completed state =>
        cases completed with
        | error detail =>
          exact ⟨rfl, Or.inl ⟨_, _, rfl, Or.inr rfl, rfl⟩⟩
        | ok o =>
          dsimp only [place, withState]
          rw [hk]
          by_cases hv : o.isVisual = true
          · rw [if_pos hv]
            exact ⟨rfl, Or.inr (Or.inr ⟨o, hv, rfl, rfl⟩)⟩
          · rw [if_neg hv]
            exact ⟨rfl, Or.inr (Or.inl ⟨o, Bool.eq_false_iff.2 hv, rfl, rfl⟩)⟩

/-! ## Elementary changes -/

/-- One elementary change of a world. -/
inductive Change : World H → World H → Prop where
  /-- The host and the contexts move on beside the scene. -/
  | aside {w w' : World H} (newest_le : w.contexts.newest ≤ w'.contexts.newest)
      (scene : w'.scene = w.scene) : Change w w'
  /-- A construction comes to nothing. -/
  | abandon {w w' : World H} (lost : List Release)
      (remains : IsRemains (w.contexts.newest + 1) lost)
      (newest : w'.contexts.newest = w.contexts.newest + 1)
      (scene : w'.scene = w.scene.recordReleases lost) : Change w w'
  /-- A constructed object is not visual and is released at once. -/
  | reject {w w' : World H} (uri : String) (o : SceneObject)
      (newest : w'.contexts.newest = w.contexts.newest + 1)
      (scene : w'.scene = ((w.scene.addInstance uri o (w.contexts.newest + 1)).2.release
        w.scene.instances.next).2) : Change w w'
  /-- A constructed object is visual and becomes an instance in a container. -/
  | place {w w' : World H} (uri : String) (o : SceneObject) (c : ContainerId)
      (visual : o.isVisual = true)
      (newest : w'.contexts.newest = w.contexts.newest + 1)
      (scene : w'.scene = (w.scene.addInstance uri o (w.contexts.newest + 1)).2.attach
        w.scene.instances.next c) : Change w w'
  /-- An instance is detached. -/
  | detach {w w' : World H} (i : InstanceId)
      (newest : w'.contexts.newest = w.contexts.newest)
      (scene : w'.scene = (w.scene.detach i .free).2) : Change w w'
  /-- An instance is detached and released. -/
  | release {w w' : World H} (i : InstanceId)
      (newest : w'.contexts.newest = w.contexts.newest)
      (scene : w'.scene = ((w.scene.detach i .free).2.release i).2) : Change w w'
  /-- An instance that is nobody's child is forgotten. -/
  | forget {w w' : World H} (i : InstanceId) (childless : ∀ c, i ∉ w.scene.children c)
      (newest : w'.contexts.newest = w.contexts.newest)
      (scene : w'.scene = w.scene.forget i) : Change w w'
  /-- A container is added. -/
  | addContainer {w w' : World H} (name : String) (context? : Option ContextId)
      (engine? : Option H.Engine)
      (newest : w'.contexts.newest = w.contexts.newest)
      (scene : w'.scene = (w.scene.addContainer name context? engine?).2) : Change w w'
  /-- A container is dropped. -/
  | dropContainer {w w' : World H} (c : ContainerId)
      (newest : w'.contexts.newest = w.contexts.newest)
      (scene : w'.scene = w.scene.dropContainer c) : Change w w'

/-- A sequence of elementary changes. -/
abbrev Changes : World H → World H → Prop := Relation.ReflTransGen Change

/-- The world beside the scene may move on by itself. -/
theorem changes_aside {w w' : World H} (hk : w.contexts.newest ≤ w'.contexts.newest)
    (hs : w'.scene = w.scene) : Changes w w' :=
  Relation.ReflTransGen.single (.aside hk hs)

/-- A construction is one elementary change. -/
theorem change_construct (w : World H) (handle : TemplateHandle H.Template)
    (container : ContainerId) (rootContext : ContextId) (contextual direct : Attributes) :
    Change w (w.construct handle container rootContext contextual direct).2 := by
  obtain ⟨hcs, hcases⟩ :=
    w.construct_cases handle container rootContext contextual direct
  have hk : (w.construct handle container rootContext contextual direct).2.contexts.newest =
      w.contexts.newest + 1 := by
    rw [hcs]
    exact w.newest_enter container rootContext contextual
  rcases hcases with ⟨e, lost, -, hlost, hs⟩ | ⟨o, -, -, hs⟩ | ⟨o, hv, -, hs⟩
  · exact .abandon lost hlost hk hs
  · exact .reject handle.uri o hk hs
  · exact .place handle.uri o container hv hk hs

end World

/-! ## Factories at work -/

namespace Workshop

variable (shop : Workshop H)

/-! ### Obtaining a template

Templates are obtained beside the scene: no context, instance or tracked instance is
touched on the way. -/

@[simp] theorem world_bindFrom (container? : Option ContainerId) :
    (shop.bindFrom container?).world = shop.world := by
  rw [bindFrom]
  split <;> rfl

@[simp] theorem tracker_bindFrom (container? : Option ContainerId) :
    (shop.bindFrom container?).factory.tracker = shop.factory.tracker := by
  rw [bindFrom]
  split <;> rfl

@[simp] theorem rootContext_bindFrom (container? : Option ContainerId) :
    (shop.bindFrom container?).factory.rootContext = shop.factory.rootContext := by
  rw [bindFrom]
  split <;> rfl

@[simp] theorem scene_template (identifier : String) :
    (shop.template identifier).2.world.scene = shop.world.scene := rfl

@[simp] theorem contexts_template (identifier : String) :
    (shop.template identifier).2.world.contexts = shop.world.contexts := rfl

@[simp] theorem tracker_template (identifier : String) :
    (shop.template identifier).2.factory.tracker = shop.factory.tracker := rfl

@[simp] theorem rootContext_template (identifier : String) :
    (shop.template identifier).2.factory.rootContext = shop.factory.rootContext := rfl

theorem awaitReady_frame (handle : TemplateHandle H.Template) :
    (shop.awaitReady handle).2.world.scene = shop.world.scene ∧
      (shop.awaitReady handle).2.world.contexts = shop.world.contexts ∧
      (shop.awaitReady handle).2.factory.tracker = shop.factory.tracker ∧
      (shop.awaitReady handle).2.factory.rootContext = shop.factory.rootContext := by
  simp only [awaitReady]
  split <;> exact ⟨rfl, rfl, rfl, rfl⟩

/-- Obtaining a template leaves the scene, the contexts and the tracker alone. -/
theorem readyTemplate_frame (container? : Option ContainerId) (identifier : String) :
    (shop.readyTemplate container? identifier).2.world.scene = shop.world.scene ∧
      (shop.readyTemplate container? identifier).2.world.contexts = shop.world.contexts ∧
      (shop.readyTemplate container? identifier).2.factory.tracker = shop.factory.tracker ∧
      (shop.readyTemplate container? identifier).2.factory.rootContext =
        shop.factory.rootContext := by
  have hscene := (shop.bindFrom container?).scene_template identifier
  have hcontexts := (shop.bindFrom container?).contexts_template identifier
  have htracker := (shop.bindFrom container?).tracker_template identifier
  have hroot := (shop.bindFrom container?).rootContext_template identifier
  rw [readyTemplate]
  split
  · rename_i e shop' heq
    rw [heq] at hscene hcontexts htracker hroot
    simp only [world_bindFrom, tracker_bindFrom, rootContext_bindFrom] at *
    exact ⟨hscene, hcontexts, htracker, hroot⟩
  · rename_i handle shop' heq
    rw [heq] at hscene hcontexts htracker hroot
    obtain ⟨hs, hc, ht, hr⟩ := shop'.awaitReady_frame handle
    simp only [world_bindFrom, tracker_bindFrom, rootContext_bindFrom] at *
    exact ⟨hs.trans hscene, hc.trans hcontexts, ht.trans htracker, hr.trans hroot⟩

theorem changes_readyTemplate (container? : Option ContainerId) (identifier : String) :
    World.Changes shop.world (shop.readyTemplate container? identifier).2.world := by
  obtain ⟨hs, hc, -, -⟩ := shop.readyTemplate_frame container? identifier
  exact World.changes_aside (Nat.le_of_eq (by rw [hc])) hs

/-! ### Releasing -/

/-- Releasing one instance after the other is a sequence of changes. -/
theorem changes_releaseAll (w : World H) (ids : List InstanceId) :
    World.Changes w (w.withScene (Tracker.releaseAll [] ids w.scene).2) := by
  induction ids generalizing w with
  | nil => exact Relation.ReflTransGen.refl
  | cons i rest ih =>
    let next := w.withScene (w.scene.dismiss [] i).2
    have hfirst : World.Change w next := .release i rfl (congrArg Prod.snd (w.scene.dismiss_nil i))
    exact Relation.ReflTransGen.head hfirst (ih next)

theorem changes_flush : World.Changes shop.world shop.flush.2.world :=
  changes_releaseAll shop.world shop.factory.tracker.pending

theorem changes_teardown : World.Changes shop.world shop.teardown.world :=
  changes_releaseAll shop.world shop.factory.tracker.destroyEverything.2.pending

/-! ### Creating -/

/-- The world after a construction, whether or not the instance is tracked. -/
theorem world_construct (handle : TemplateHandle H.Template) (container : ContainerId)
    (contextual direct : Attributes) (ownership : Ownership) :
    (shop.construct handle container contextual direct ownership).2.world =
      (shop.world.construct handle container shop.factory.rootContext contextual direct).2 := by
  rw [construct]
  cases shop.world.construct handle container shop.factory.rootContext contextual direct with
  | mk result world => cases result <;> rfl

theorem changes_construct (handle : TemplateHandle H.Template) (container : ContainerId)
    (contextual direct : Attributes) (ownership : Ownership) :
    World.Changes shop.world
      (shop.construct handle container contextual direct ownership).2.world := by
  rw [world_construct]
  exact Relation.ReflTransGen.single (shop.world.change_construct _ _ _ _ _)

theorem changes_constructEach (handle : TemplateHandle H.Template) (container : ContainerId)
    (key : String) (base : Attributes) (ownership : Ownership) (values : List Value) :
    World.Changes shop.world
      (constructEach handle container key base ownership values shop).2.world := by
  induction values generalizing shop with
  | nil => exact Relation.ReflTransGen.refl
  | cons value rest ih =>
    have hfirst :=
      shop.changes_construct handle container .empty (base.merged key value) ownership
    rw [constructEach]
    cases hc : shop.construct handle container .empty (base.merged key value) ownership with
    | mk result next =>
      rw [hc] at hfirst
      cases result with
      | error e => exact hfirst.trans (ih next)
      | ok i => exact hfirst.trans (ih next)

/-- What every construction of a batch keeps, the batch keeps. -/
theorem constructEach_induction {P : Workshop H → Prop} {handle : TemplateHandle H.Template}
    {container : ContainerId} {key : String} {base : Attributes} {ownership : Ownership}
    (step : ∀ (shop : Workshop H) (direct : Attributes), P shop →
      P (shop.construct handle container .empty direct ownership).2)
    (values : List Value) {shop : Workshop H} (h : P shop) :
    P (constructEach handle container key base ownership values shop).2 := by
  induction values generalizing shop with
  | nil => exact h
  | cons value rest ih =>
    have hfirst := step shop (base.merged key value) h
    rw [constructEach]
    cases hc : shop.construct handle container .empty (base.merged key value) ownership with
    | mk result next =>
      rw [hc] at hfirst
      cases result with
      | error e => exact ih hfirst
      | ok i => exact ih hfirst

/-- What a creation does after its flush is a sequence of changes. -/
theorem changes_create (container : ContainerId) (identifier : String)
    (contextual direct : Attributes) (ownership : Ownership) :
    World.Changes shop.flush.2.world
      (shop.create (some container) identifier contextual direct ownership).2.world := by
  have htemplate := shop.flush.2.changes_readyTemplate (some container) identifier
  simp only [create]
  cases hr : shop.flush.2.readyTemplate (some container) identifier with
  | mk result next =>
    rw [hr] at htemplate
    cases result with
    | error e => exact htemplate
    | ok handle =>
      exact htemplate.trans (next.changes_construct handle container contextual direct ownership)

/-- What a batch of values does after its flush is a sequence of changes. -/
theorem changes_createMany (key : String) {values : List Value} (hv : values ≠ [])
    (container : ContainerId) (identifier : String) (base : Attributes) (ownership : Ownership) :
    World.Changes shop.flush.2.world
      (shop.createMany key values (some container) identifier base ownership).2.world := by
  have htemplate := shop.flush.2.changes_readyTemplate (some container) identifier
  have hne : ¬values.isEmpty = true := by simpa using hv
  simp only [createMany]
  rw [if_neg hne]
  cases hr : shop.flush.2.readyTemplate (some container) identifier with
  | mk result next =>
    rw [hr] at htemplate
    cases result with
    | error e => exact htemplate
    | ok handle =>
      exact htemplate.trans
        (next.changes_constructEach handle container key base ownership values)

end Workshop

/-! ## Sessions -/

/-- Whether an operation leaves the lists of children to the factory: the host neither puts
a child into a list nor takes one out of it, and is at work on no container while it detaches
or flushes. -/
def Operation.isTidy : Operation H → Bool
  | .attachChild _ _ | .detachChild _ _ | .detach _ .busy => false
  | .flush busy | .flushOwn busy => busy.isEmpty
  | _ => true

namespace Session

variable (s : Session H)

/-- Forgetting instances that are nobody's children is a sequence of changes. -/
theorem changes_foldl_forget (w : World H) {ids : List InstanceId}
    (h : ∀ i ∈ ids, ∀ c, i ∉ w.scene.children c) :
    World.Changes w (w.withScene (ids.foldl Scene.forget w.scene)) := by
  induction ids generalizing w with
  | nil => exact Relation.ReflTransGen.refl
  | cons i rest ih =>
    let next := w.withScene (w.scene.forget i)
    have hfirst : World.Change w next := .forget i (h i List.mem_cons_self) rfl rfl
    refine Relation.ReflTransGen.head hfirst (ih next ?_)
    intro j hj c
    -- forgetting touches no list, so the others are nobody's children still
    change j ∉ (w.scene.forget i).children c
    rw [Scene.children_forget]
    exact h j (List.mem_cons_of_mem i hj) c

/-- The instances that are let go at the end of an operation. -/
theorem mem_unheld {held : List InstanceId} {scene : Scene H.Engine} {i : InstanceId}
    (h : i ∈ scene.livingInstances.filter fun i => i ∉ held ++ scene.allChildren) :
    i ∉ held ∧ ∀ c, i ∉ scene.children c := by
  have hi : i ∉ held ++ scene.allChildren := by simpa using (List.mem_filter.1 h).2
  rw [List.mem_append, not_or] at hi
  exact ⟨hi.1, fun c hc => hi.2 (scene.mem_allChildren hc)⟩

theorem changes_settle : World.Changes s.world s.settle.world :=
  changes_foldl_forget s.world fun _ hi => (mem_unheld hi).2

/-- What a factory changes, its session changes. -/
theorem changes_atWork (work : Workshop H → Outcome H × Workshop H)
    (h : ∀ shop : Workshop H, World.Changes shop.world (work shop).2.world) :
    World.Changes s.world (s.atWork work).2.world := by
  rw [atWork]
  cases s.factory? with
  | none => exact Relation.ReflTransGen.refl
  | some factory => exact h ⟨factory, s.world⟩

/-- A creation is the factory's work, and what comes of it is held. -/
theorem carryOut_create (container? : Option ContainerId) (identifier : String)
    (contextual direct : Attributes) (ownership : Ownership) :
    let worked := s.atWork fun shop =>
      (shop.create container? identifier contextual direct ownership).map .created id
    ∃ ids, s.carryOut (.create container? identifier contextual direct ownership) =
      (worked.1, worked.2.hold ids) := by
  intro worked
  simp only [carryOut]
  split
  · rename_i i s' heq
    exact ⟨[i], by rw [show worked = _ from heq]⟩
  · exact ⟨[], by simp [hold, worked]⟩

theorem carryOut_createMany (key : String) (values : List Value)
    (container? : Option ContainerId) (identifier : String) (base : Attributes)
    (ownership : Ownership) :
    let worked := s.atWork fun shop =>
      (shop.createMany key values container? identifier base ownership).map .createdMany id
    ∃ ids, s.carryOut (.createMany key values container? identifier base ownership) =
      (worked.1, worked.2.hold ids) := by
  intro worked
  simp only [carryOut]
  split
  · rename_i ids s' heq
    exact ⟨ids, by rw [show worked = _ from heq]⟩
  · exact ⟨[], by simp [hold, worked]⟩

/-- A tidy operation is a sequence of changes, before what nobody refers to is let go. -/
theorem changes_carryOut (op : Operation H) (h : op.isTidy = true) :
    World.Changes s.world (s.carryOut op).2.world := by
  cases op with
  | «outside» change => exact World.changes_aside (Nat.le_refl _) rfl
  | bind engine => exact s.changes_atWork _ fun shop => Relation.ReflTransGen.refl
  | template identifier =>
    exact s.changes_atWork _ fun shop => World.changes_aside (Nat.le_refl _) rfl
  | readyTemplate container? identifier =>
    exact s.changes_atWork _ fun shop => shop.changes_readyTemplate container? identifier
  | create container? identifier contextual direct ownership =>
    obtain ⟨ids, heq⟩ := s.carryOut_create container? identifier contextual direct ownership
    rw [heq]
    apply s.changes_atWork
    intro shop
    cases container? with
    | none => exact Relation.ReflTransGen.refl
    | some container =>
      exact shop.changes_flush.trans
        (shop.changes_create container identifier contextual direct ownership)
  | createMany key values container? identifier base ownership =>
    obtain ⟨ids, heq⟩ :=
      s.carryOut_createMany key values container? identifier base ownership
    rw [heq]
    apply s.changes_atWork
    intro shop
    cases container? with
    | none => exact Relation.ReflTransGen.refl
    | some container =>
      cases values with
      | nil => exact Relation.ReflTransGen.refl
      | cons value rest =>
        exact shop.changes_flush.trans
          (shop.changes_createMany key (List.cons_ne_nil value rest) container identifier base
            ownership)
  | destroy i => exact s.changes_atWork _ fun shop => Relation.ReflTransGen.refl
  | destroyAll ids => exact s.changes_atWork _ fun shop => Relation.ReflTransGen.refl
  | flush busy =>
    cases busy with
    | nil => exact s.changes_atWork _ fun shop => shop.changes_flush
    | cons c rest => cases h
  | teardown => exact s.changes_atWork _ fun shop => shop.changes_teardown
  | dropFactory =>
    rw [carryOut, dropFactory]
    cases s.factory? with
    | none => exact Relation.ReflTransGen.refl
    | some factory => exact (Workshop.mk factory s.world).changes_teardown
  | setRootContext name value =>
    refine s.changes_atWork _ fun shop => World.changes_aside ?_ rfl
    exact Nat.le_of_eq (Contexts.newest_set _ _ _ _).symm
  | detach i access =>
    cases access with
    | free => exact Relation.ReflTransGen.single (.detach i rfl rfl)
    | busy => cases h
  | dropInstance i => exact Relation.ReflTransGen.refl
  | newContext parent? =>
    refine World.changes_aside ?_ rfl
    change s.world.contexts.newest ≤ (s.world.contexts.add parent?).newest
    rw [Contexts.newest_add]
    exact Nat.le_succ _
  | holdContext i =>
    simp only [carryOut]
    split <;> exact Relation.ReflTransGen.refl
  | setContext k name value =>
    refine World.changes_aside ?_ rfl
    exact Nat.le_of_eq (Contexts.newest_set _ _ _ _).symm
  | dropContext k => exact Relation.ReflTransGen.refl
  | addContainer name context? engine? =>
    exact Relation.ReflTransGen.single (.addContainer name context? engine? rfl rfl)
  | addContainerWith name properties engine? =>
    -- the context comes first, the container that has it second
    let contexts := s.world.contexts.add none
    let middle := s.world.withContexts (contexts.setAll contexts.newest properties)
    have hfirst : World.Changes s.world middle := by
      refine World.changes_aside ?_ rfl
      change s.world.contexts.newest ≤ (contexts.setAll contexts.newest properties).newest
      rw [Contexts.newest_setAll, Contexts.newest_add]
      exact Nat.le_succ _
    exact hfirst.tail (.addContainer name (some contexts.newest) engine? rfl rfl)
  | dropContainer c => exact Relation.ReflTransGen.single (.dropContainer c rfl rfl)
  | attachChild c i => cases h
  | detachChild c i => cases h
  | register i => exact Relation.ReflTransGen.refl
  | destroyOwn i => exact Relation.ReflTransGen.refl
  | destroyAllOwn ids => exact Relation.ReflTransGen.refl
  | destroyEveryOwn => exact Relation.ReflTransGen.refl
  | flushOwn busy =>
    cases busy with
    | nil => exact Workshop.changes_releaseAll s.world s.tracker.pending
    | cons c rest => cases h

/-- A tidy operation is a sequence of elementary changes. -/
theorem changes_perform (op : Operation H) (h : op.isTidy = true) :
    World.Changes s.world (s.perform op).2.world :=
  (s.changes_carryOut op h).trans (s.carryOut op).2.changes_settle

end Session

end SceneFactory
