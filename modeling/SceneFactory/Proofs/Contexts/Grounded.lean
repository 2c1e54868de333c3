import SceneFactory.Proofs.Construction.Lookup
import SceneFactory.Proofs.Release.OnTime

/-!
# Contexts that are referred to exist

A context is alive as long as someone refers to it or to a context inside it. Contexts are
numbered as they are made, so a context that is yet to be made can have no references: every
reference of a session leads to a context that was made before (`Session.IsGrounded`).

The one place where a context comes in from the outside is a container that the host gives a
context to; if the host names contexts that exist (`Operation.NamesContext`), every reachable
session is grounded (`Session.isGrounded_after`). What a factory does by itself gives no
container a context, or another engine (`Workshop.Keeps`).
-/

set_option autoImplicit false

namespace SceneFactory

variable {H : Host}

/-! ## Containers with their contexts and engines -/

namespace Scene

variable {ε : Type} {scene scene' scene'' : Scene ε}

/-- Every container of the second scene was in the first, with the same context and the same
engine. -/
def InheritsContainers (scene scene' : Scene ε) : Prop :=
  ∀ c container', scene'.container? c = some container' →
    ∃ container, scene.container? c = some container ∧
      container.context? = container'.context? ∧ container.engine? = container'.engine?

namespace InheritsContainers

theorem refl (scene : Scene ε) : scene.InheritsContainers scene :=
  fun _ container' h => ⟨container', h, rfl, rfl⟩

theorem trans (h : scene.InheritsContainers scene') (h' : scene'.InheritsContainers scene'') :
    scene.InheritsContainers scene'' := by
  intro c container'' hc
  obtain ⟨container', hc', hcontext', hengine'⟩ := h' c container'' hc
  obtain ⟨container, hc, hcontext, hengine⟩ := h c container' hc'
  exact ⟨container, hc, hcontext.trans hcontext', hengine.trans hengine'⟩

/-- Where the containers are the same, so are their contexts and engines. -/
theorem of_container? (h : ∀ c, scene'.container? c = scene.container? c) :
    scene.InheritsContainers scene' := by
  intro c container' hc
  rw [h] at hc
  exact ⟨container', hc, rfl, rfl⟩

end InheritsContainers

variable (scene)

theorem inheritsContainers_modifyChildren (c : ContainerId)
    (f : List InstanceId → List InstanceId) :
    scene.InheritsContainers (scene.modifyChildren c f) := by
  intro d container' hd
  rw [container?_modifyChildren] at hd
  by_cases hcd : c = d
  · rw [if_pos hcd] at hd
    obtain ⟨container, hcontainer, rfl⟩ := Option.map_eq_some_iff.1 hd
    exact ⟨container, hcontainer, rfl, rfl⟩
  · rw [if_neg hcd] at hd
    exact ⟨container', hd, rfl, rfl⟩

theorem inheritsContainers_dropContainer (c : ContainerId) :
    scene.InheritsContainers (scene.dropContainer c) := by
  intro d container' hd
  rw [container?_dropContainer] at hd
  split at hd
  · cases hd
  · exact ⟨container', hd, rfl, rfl⟩

theorem inheritsContainers_attach (i : InstanceId) (c : ContainerId) :
    scene.InheritsContainers (scene.attach i c) := by
  cases hc : scene.container? c with
  | none =>
    rw [scene.attach_of_dead i c hc]
    exact .refl scene
  | some container =>
    rw [scene.attach_of_container? i c hc]
    exact inheritsContainers_modifyChildren _ c _

theorem inheritsContainers_detach (i : InstanceId) (access : Access) :
    scene.InheritsContainers (scene.detach i access).2 := by
  simp only [detach]
  cases scene.instance? i with
  | none => exact .refl scene
  | some inst =>
    dsimp only
    by_cases hs : inst.state = .attached
    · rw [if_pos hs]
      cases inst.parent? with
      | none => exact .refl scene
      | some c =>
        dsimp only
        split
        · cases access with
          | free => exact inheritsContainers_modifyChildren _ c _
          | busy => exact .refl scene
        · exact .refl scene
    · rw [if_neg hs]
      exact .refl scene

theorem inheritsContainers_releaseAll {busy : List ContainerId} (ids : List InstanceId) :
    scene.InheritsContainers (Tracker.releaseAll busy ids scene).2 := by
  induction ids generalizing scene with
  | nil => exact .refl scene
  | cons i rest ih =>
    have hdetach := scene.inheritsContainers_detach i (scene.accessTo busy i)
    have hrelease : (scene.detach i (scene.accessTo busy i)).2.InheritsContainers
        (scene.dismiss busy i).2 :=
      .of_container? (container?_release _ i)
    exact (hdetach.trans hrelease).trans (ih _)

theorem inheritsContainers_forgetUnheld (held : List InstanceId) :
    scene.InheritsContainers (scene.forgetUnheld held) := by
  rw [forgetUnheld]
  generalize scene.livingInstances.filter _ = ids
  induction ids generalizing scene with
  | nil => exact .refl scene
  | cons i rest ih =>
    have hfirst : scene.InheritsContainers (scene.forget i) :=
      .of_container? (scene.container?_forget i)
    exact hfirst.trans (ih (scene.forget i))

end Scene

/-! ## The newest context -/

namespace World

variable {w w' : World H}

/-- Contexts are made and never unmade. -/
theorem Change.newest_le (h : Change w w') : w.contexts.newest ≤ w'.contexts.newest := by
  cases h with
  | aside hk _ => exact hk
  | abandon _ _ hk _ => exact hk ▸ Nat.le_succ _
  | reject _ _ hk _ => exact hk ▸ Nat.le_succ _
  | place _ _ _ _ hk _ => exact hk ▸ Nat.le_succ _
  | detach _ hk _ => exact Nat.le_of_eq hk.symm
  | release _ hk _ => exact Nat.le_of_eq hk.symm
  | forget _ _ hk _ => exact Nat.le_of_eq hk.symm
  | addContainer _ _ _ hk _ => exact Nat.le_of_eq hk.symm
  | dropContainer _ hk _ => exact Nat.le_of_eq hk.symm

theorem Moves.newest_le (h : Moves w w') : w.contexts.newest ≤ w'.contexts.newest := by
  induction h with
  | refl => exact Nat.le_refl _
  | tail _ hlast ih =>
    cases hlast with
    | change hc => exact Nat.le_trans ih hc.newest_le
    | attachChild => exact ih
    | detachChild => exact ih
    | detachBusy => exact ih

theorem inheritsContainers_construct (w : World H) (handle : TemplateHandle H.Template)
    (container : ContainerId) (rootContext : ContextId) (contextual direct : Attributes) :
    w.scene.InheritsContainers
      (w.construct handle container rootContext contextual direct).2.scene := by
  obtain ⟨-, ⟨e, lost, -, -, hs⟩ | ⟨o, -, -, hs⟩ | ⟨o, -, -, hs⟩⟩ :=
    w.construct_cases handle container rootContext contextual direct
  · rw [hs]
    exact .refl w.scene
  · rw [hs]
    exact .of_container? (Scene.container?_release _ _)
  · rw [hs]
    exact Scene.inheritsContainers_attach _ _ container

end World

/-! ## Contexts that were there before a construction -/

namespace World

variable (w : World H) (container : ContainerId) (rootContext : ContextId)
  (contextual : Attributes) {j : ContextId}

/-- The context of a construction is made beside the others. -/
theorem own?_enter_of_le (hj : j ≤ w.contexts.newest) (name : String) :
    (w.enter container rootContext contextual).contexts.own? j name =
      w.contexts.own? j name := by
  have hne : (w.contexts.add (some (w.outerContext container rootContext))).newest ≠ j := by
    rw [Contexts.newest_add]
    exact Nat.ne_of_gt (Nat.lt_succ_of_le hj)
  exact (Contexts.own?_setAll_of_ne _ hne contextual name).trans
    (w.contexts.own?_add_of_le _ hj name)

/-- In a context that was there a name means what it meant. -/
theorem property?_enter_of_le (hj : j ≤ w.contexts.newest) (name : String) :
    (w.enter container rootContext contextual).contexts.property? j name =
      w.contexts.property? j name := by
  refine Contexts.property?_congr ?_ ?_
  · exact (Contexts.chain_setAll _ _ j contextual).trans (w.contexts.chain_add_of_le _ hj)
  · intro i hi
    exact w.own?_enter_of_le container rootContext contextual
      (Nat.le_trans (w.contexts.le_of_mem_chain hi) hj) name

end World

/-! ## Factories at work -/

/-- What a factory at work leaves as it was: where its constructions inherit from, and which
engines the containers know. -/
structure Workshop.Keeps (shop shop' : Workshop H) : Prop where
  rootContext : shop'.factory.rootContext = shop.factory.rootContext
  containers : shop.world.scene.InheritsContainers shop'.world.scene

namespace Workshop

variable (shop : Workshop H)

theorem Keeps.trans {shop shop' shop'' : Workshop H} (h : shop.Keeps shop')
    (h' : shop'.Keeps shop'') : shop.Keeps shop'' :=
  ⟨h'.rootContext.trans h.rootContext, h.containers.trans h'.containers⟩

theorem keeps_readyTemplate (container? : Option ContainerId) (identifier : String) :
    shop.Keeps (shop.readyTemplate container? identifier).2 := by
  obtain ⟨hscene, -, -, hroot⟩ := shop.readyTemplate_frame container? identifier
  refine ⟨hroot, ?_⟩
  rw [hscene]
  exact .refl _

theorem keeps_flush (busy : List ContainerId := []) : shop.Keeps (shop.flush busy).2 :=
  ⟨rfl, Scene.inheritsContainers_releaseAll _ _⟩

theorem keeps_construct (handle : TemplateHandle H.Template) (container : ContainerId)
    (contextual direct : Attributes) (ownership : Ownership) :
    shop.Keeps (shop.construct handle container contextual direct ownership).2 := by
  refine ⟨?_, ?_⟩
  · rw [construct]
    split
    · rfl
    · cases ownership <;> rfl
  · rw [world_construct]
    exact shop.world.inheritsContainers_construct _ _ _ _ _

theorem keeps_constructEach (handle : TemplateHandle H.Template) (container : ContainerId)
    (key : String) (base : Attributes) (ownership : Ownership) (values : List Value) :
    shop.Keeps (constructEach handle container key base ownership values shop).2 := by
  refine constructEach_induction (P := shop.Keeps) ?_ values ⟨rfl, .refl _⟩
  intro next direct h
  exact h.trans (next.keeps_construct handle container .empty direct ownership)

theorem keeps_create (container? : Option ContainerId) (identifier : String)
    (contextual direct : Attributes) (ownership : Ownership) :
    shop.Keeps (shop.create container? identifier contextual direct ownership).2 := by
  cases container? with
  | none => exact ⟨rfl, .refl _⟩
  | some container =>
    have hready := shop.keeps_flush.trans (shop.flush.2.keeps_readyTemplate container identifier)
    simp only [create]
    cases hr : shop.flush.2.readyTemplate (some container) identifier with
    | mk result next =>
      rw [hr] at hready
      cases result with
      | error e => exact hready
      | ok handle =>
        exact hready.trans (next.keeps_construct handle container contextual direct ownership)

theorem keeps_createMany (key : String) (values : List Value) (container? : Option ContainerId)
    (identifier : String) (base : Attributes) (ownership : Ownership) :
    shop.Keeps (shop.createMany key values container? identifier base ownership).2 := by
  cases container? with
  | none => exact ⟨rfl, .refl _⟩
  | some container =>
    have hready := shop.keeps_flush.trans (shop.flush.2.keeps_readyTemplate container identifier)
    simp only [createMany]
    split
    · exact ⟨rfl, .refl _⟩
    · cases hr : shop.flush.2.readyTemplate (some container) identifier with
      | mk result next =>
        rw [hr] at hready
        cases result with
        | error e => exact hready
        | ok handle =>
          exact hready.trans
            (next.keeps_constructEach handle container key base ownership values)

theorem keeps_teardown : shop.Keeps shop.teardown :=
  ⟨rfl, Scene.inheritsContainers_releaseAll _ _⟩

end Workshop

/-! ## Sessions -/

/-- A context that the host gives to a container was made before. -/
def Operation.NamesContext (s : Session H) : Operation H → Prop
  | .addContainer _ (some k) _ => k ≤ s.world.contexts.newest
  | _ => True

/-- Whether an operation leaves the session with a new reference to a context. -/
def Operation.refersAnew : Operation H → Bool
  | .newContext _ | .holdContext _ | .addContainer _ _ _ | .addContainerWith _ _ _ => true
  | _ => false

namespace Session

/-- The second session refers to no context that the first does not refer to, but for the
contexts of instances, and its containers are containers of the first. -/
structure Inherits (s s' : Session H) : Prop where
  held : s'.heldContexts ⊆ s.heldContexts
  root : ∀ f', s'.factory? = some f' → ∃ f, s.factory? = some f ∧ f.rootContext = f'.rootContext
  containers : s.world.scene.InheritsContainers s'.world.scene

section Inherits

variable (s : Session H)

/-- Nothing but the scene has changed, and it has taken its containers over. -/
theorem inherits_of_scene {s' : Session H} (hheld : s'.heldContexts = s.heldContexts)
    (hfactory : s'.factory? = s.factory?)
    (hcontainers : s.world.scene.InheritsContainers s'.world.scene) : s.Inherits s' where
  held := by rw [hheld]; exact List.Subset.refl _
  root f hf := ⟨f, hfactory ▸ hf, rfl⟩
  containers := hcontainers

/-- What instances the host holds makes no difference. -/
theorem Inherits.hold {s s' : Session H} (h : s.Inherits s') (ids : List InstanceId) :
    s.Inherits (s'.hold ids) :=
  ⟨h.held, h.root, h.containers⟩

theorem inherits_atWork {work : Workshop H → Outcome H × Workshop H}
    (hwork : ∀ shop : Workshop H, shop.Keeps (work shop).2) : s.Inherits (s.atWork work).2 := by
  rw [atWork]
  cases hfactory : s.factory? with
  | none => exact s.inherits_of_scene rfl rfl (.refl _)
  | some factory =>
    have hkeeps := hwork ⟨factory, s.world⟩
    refine ⟨List.Subset.refl _, ?_, hkeeps.containers⟩
    intro f' hf'
    cases hf'
    exact ⟨factory, hfactory, hkeeps.rootContext.symm⟩

theorem inherits_dropFactory : s.Inherits s.dropFactory.2 := by
  rw [dropFactory]
  cases s.factory? with
  | none => exact s.inherits_of_scene rfl rfl (.refl _)
  | some factory =>
    refine ⟨List.Subset.refl _, ?_, (Workshop.mk factory s.world).keeps_teardown.containers⟩
    intro f' hf'
    cases hf'

/-- An operation that refers to nothing anew refers to what was referred to. -/
theorem inherits_carryOut (op : Operation H) (h : op.refersAnew = false) :
    s.Inherits (s.carryOut op).2 := by
  cases op with
  | bind engine => exact s.inherits_atWork fun shop => ⟨rfl, .refl _⟩
  | template identifier => exact s.inherits_atWork fun shop => ⟨rfl, .refl _⟩
  | readyTemplate container? identifier =>
    exact s.inherits_atWork fun shop => shop.keeps_readyTemplate container? identifier
  | create container? identifier contextual direct ownership =>
    obtain ⟨ids, heq⟩ := s.carryOut_create container? identifier contextual direct ownership
    rw [heq]
    apply Inherits.hold
    exact s.inherits_atWork fun shop =>
      shop.keeps_create container? identifier contextual direct ownership
  | createMany key values container? identifier base ownership =>
    obtain ⟨ids, heq⟩ :=
      s.carryOut_createMany key values container? identifier base ownership
    rw [heq]
    apply Inherits.hold
    exact s.inherits_atWork fun shop =>
      shop.keeps_createMany key values container? identifier base ownership
  | destroy i => exact s.inherits_atWork fun shop => ⟨rfl, .refl _⟩
  | destroyAll ids => exact s.inherits_atWork fun shop => ⟨rfl, .refl _⟩
  | flush busy => exact s.inherits_atWork fun shop => shop.keeps_flush busy
  | teardown => exact s.inherits_atWork fun shop => shop.keeps_teardown
  | dropFactory => exact s.inherits_dropFactory
  | setRootContext name value => exact s.inherits_atWork fun shop => ⟨rfl, .refl _⟩
  | detach i access =>
    exact s.inherits_of_scene rfl rfl (s.world.scene.inheritsContainers_detach i access)
  | newContext parent? => cases h
  | holdContext i => cases h
  | dropContext k => exact ⟨List.erase_subset, fun f hf => ⟨f, hf, rfl⟩, .refl _⟩
  | addContainer name context? engine? => cases h
  | addContainerWith name properties engine? => cases h
  | dropContainer c =>
    exact s.inherits_of_scene rfl rfl (s.world.scene.inheritsContainers_dropContainer c)
  | attachChild c i =>
    exact s.inherits_of_scene rfl rfl (s.world.scene.inheritsContainers_modifyChildren c _)
  | detachChild c i =>
    exact s.inherits_of_scene rfl rfl (s.world.scene.inheritsContainers_modifyChildren c _)
  | flushOwn =>
    exact s.inherits_of_scene rfl rfl
      (s.world.scene.inheritsContainers_releaseAll s.tracker.pending)
  | _ => exact s.inherits_of_scene rfl rfl (.refl _)

end Inherits

/-- Every context that is referred to was made before. -/
structure IsGrounded (s : Session H) : Prop where
  held : ∀ k ∈ s.heldContexts, k ≤ s.world.contexts.newest
  root : ∀ f, s.factory? = some f → f.rootContext ≤ s.world.contexts.newest
  container : ∀ c container k, s.world.scene.container? c = some container →
    container.context? = some k → k ≤ s.world.contexts.newest

theorem isGrounded_start (config : Config) (state : H.State) :
    (start config state).IsGrounded where
  held := by
    intro k hk
    cases hk
  root := by
    intro f hf
    cases hf
    exact Nat.le_refl _
  container := by
    intro c container k hc
    rw [show (start config state).world.scene.container? c = none by cases c <;> rfl] at hc
    cases hc

namespace IsGrounded

variable {s s' : Session H} (h : s.IsGrounded)

include h

theorem inherits (hs : s.Inherits s')
    (hnewest : s.world.contexts.newest ≤ s'.world.contexts.newest) : s'.IsGrounded where
  held k hk := Nat.le_trans (h.held k (hs.held hk)) hnewest
  root f' hf' := by
    obtain ⟨f, hf, heq⟩ := hs.root f' hf'
    exact heq ▸ Nat.le_trans (h.root f hf) hnewest
  container c container' k hc hk := by
    obtain ⟨container, hcontainer, hcontext, -⟩ := hs.containers c container' hc
    exact Nat.le_trans (h.container c container k hcontainer (hcontext.trans hk)) hnewest

/-- A container may come with a context that is there by then. -/
theorem addContainer (name : String) (context? : Option ContextId) (engine? : Option H.Engine)
    (hk : ∀ k, context? = some k → k ≤ s.world.contexts.newest) :
    (s.withScene (s.world.scene.addContainer name context? engine?).2).IsGrounded where
  held := h.held
  root := h.root
  container c container k hc hcontext := by
    change (s.world.scene.addContainer name context? engine?).2.container? c = some container at hc
    rw [Scene.container?_addContainer] at hc
    split at hc
    · cases hc
      exact hk k hcontext
    · exact h.container c container k hc hcontext

/-- Contexts may be added, and their properties set. -/
theorem withContexts {contexts : Contexts} (hnewest : s.world.contexts.newest ≤ contexts.newest) :
    (s.withWorld (s.world.withContexts contexts)).IsGrounded :=
  h.inherits (s.inherits_of_scene rfl rfl (.refl _)) hnewest

/-- A context that is there may be held. -/
theorem hold {k : ContextId} (hk : k ≤ s.world.contexts.newest) :
    (s.withHeldContexts (s.heldContexts ++ [k])).IsGrounded where
  held j hj := by
    rcases List.mem_append.1 hj with hj | hj
    · exact h.held j hj
    · rw [List.mem_singleton.1 hj]
      exact hk
  root := h.root
  container := h.container

theorem settle : s.settle.IsGrounded :=
  h.inherits (s.inherits_of_scene rfl rfl (s.world.scene.inheritsContainers_forgetUnheld _))
    (Nat.le_refl _)

/-- Every operation that names contexts that exist refers to contexts that exist. What an
instance refers to is in order with the books. -/
theorem perform (hbooks : s.world.scene.IsBooked s.world.contexts.newest) {op : Operation H}
    (hop : op.NamesContext s) : (s.perform op).2.IsGrounded := by
  by_cases hanew : op.refersAnew = false
  · obtain ⟨hheld, hroot, hcontainers⟩ := s.inherits_carryOut op hanew
    have hsettled := (s.carryOut op).2.world.scene.inheritsContainers_forgetUnheld
      (s.carryOut op).2.instanceReferences
    exact h.inherits ⟨hheld, hroot, hcontainers.trans hsettled⟩ (s.moves_perform op).newest_le
  · -- four operations bring in a reference, each to a context that is there
    suffices hcarried : (s.carryOut op).2.IsGrounded from hcarried.settle
    have hgrown : ∀ parent? : Option ContextId,
        s.world.contexts.newest ≤ (s.world.contexts.add parent?).newest := by
      intro parent?
      rw [Contexts.newest_add]
      exact Nat.le_succ _
    cases op with
    | newContext parent? => exact (h.withContexts (hgrown parent?)).hold (Nat.le_refl _)
    | holdContext i =>
      simp only [carryOut]
      split
      · rename_i k hk
        obtain ⟨inst, hi, hcontext⟩ := Option.bind_eq_some_iff.1 hk
        exact h.hold (hbooks.held hi hcontext).1
      · exact h
    | addContainer name context? engine? =>
      refine h.addContainer name context? engine? ?_
      rintro k rfl
      exact hop
    | addContainerWith name properties engine? =>
      have hnewest : ((s.world.contexts.add none).setAll (s.world.contexts.add none).newest
          properties).newest = (s.world.contexts.add none).newest := Contexts.newest_setAll _ _ _
      have hmade := h.withContexts (Nat.le_trans (hgrown none) (Nat.le_of_eq hnewest.symm))
      refine hmade.addContainer name _ engine? ?_
      rintro k ⟨⟩
      exact Nat.le_of_eq hnewest.symm
    | _ => exact absurd rfl hanew

/-- The context that a construction inherits from is there. -/
theorem outerContext_le {factory : Factory H} (hf : s.factory? = some factory) (c : ContainerId)
    {w : World H} (hw : s.world.scene.InheritsContainers w.scene) :
    w.outerContext c factory.rootContext ≤ s.world.contexts.newest := by
  rw [World.outerContext]
  cases hcontext : (w.scene.container? c).bind Container.context? with
  | none => exact h.root factory hf
  | some k =>
    obtain ⟨container', hc', hk'⟩ := Option.bind_eq_some_iff.1 hcontext
    obtain ⟨container, hc, hcontext, -⟩ := hw c container' hc'
    exact h.container c container k hc (hcontext.trans hk')

end IsGrounded

/-- A context is not alive if every reference leads to an older one. -/
theorem isContextAlive_of_references {s : Session H} {k : ContextId}
    (h : ∀ j ∈ s.contextReferences, j < k) : s.isContextAlive k = false := by
  rw [isContextAlive, Contexts.isHeldBy, List.any_eq_false]
  intro j hj hmem
  have hle := s.world.contexts.le_of_mem_chain (List.contains_iff_mem.1 hmem)
  exact Nat.not_le_of_lt (h j hj) hle

/-! ### Along a run -/

/-- If the host names contexts that exist, every reference of a session leads to one that
exists. -/
theorem isGrounded_after (config : Config) (state : H.State) {ops : List (Operation H)}
    (hops : (start config state).Throughout (fun s op => op.NamesContext s) ops) :
    ((start config state).after ops).IsGrounded := by
  have hboth : ((start config state).after ops).IsGrounded ∧
      ((start config state).after ops).world.scene.IsBooked
        ((start config state).after ops).world.contexts.newest := by
    refine hops.induction (Q := fun s => s.IsGrounded ∧
      s.world.scene.IsBooked s.world.contexts.newest) ?_
      ⟨isGrounded_start config state, Scene.isBooked_empty _⟩
    rintro s op hop ⟨hgrounded, hbooks⟩
    exact ⟨hgrounded.perform hbooks hop, hbooks.moves (s.moves_perform op)⟩
  exact hboth.1

end Session

end SceneFactory
