import SceneFactory.Proofs.Lifetime.Tended

/-!
# References along a run

Who refers to an instance: the host by a handle, a container that has it as a child, the
factory's tracker or the host's own (`Session.Reaches`). References are handed on: an operation
leaves the session with references to what was referred to, and to what it has just created.

Main statement: `Session.isTended_after`. In every run in which the host itself takes references
to nothing but what is referred to (`Operation.NamesReached`), the session stays tended; and what
has something to let go at the end of an operation is referred to.
-/

set_option autoImplicit false

namespace SceneFactory

variable {H : Host}

/-! ## Factories at work -/

namespace Workshop

variable {root : ContextId} {others : List InstanceId}

/-- The world of a factory is tended, with the references of the factory's tracker and others. -/
structure IsTended (shop : Workshop H) (root : ContextId) (others : List InstanceId) : Prop where
  world : shop.world.IsTended root (others ++ shop.factory.tracker.held)
  rootContext : shop.factory.rootContext = root

namespace IsTended

variable {shop : Workshop H} (h : shop.IsTended root others)

include h

/-- The factory does something beside the scene, and what it tracks it tracked before. -/
theorem aside {next : Workshop H} (hcontexts : shop.world.contexts.Extends next.world.contexts)
    (hscene : next.world.scene = shop.world.scene)
    (htracker : ∀ i ∈ next.factory.tracker.held, i ∈ shop.factory.tracker.held)
    (hroot : next.factory.rootContext = shop.factory.rootContext) :
    next.IsTended root others where
  world := by
    refine h.world.aside hcontexts hscene ?_
    intro i hi
    refine Or.inl ?_
    rcases List.mem_append.1 hi with hi | hi
    · exact List.mem_append_left _ hi
    · exact List.mem_append_right _ (htracker i hi)
  rootContext := hroot.trans h.rootContext

theorem readyTemplate (container? : Option ContainerId) (identifier : String) :
    (shop.readyTemplate container? identifier).2.IsTended root others := by
  obtain ⟨hscene, hcontexts, htracker, hroot⟩ := shop.readyTemplate_frame container? identifier
  refine h.aside ?_ hscene ?_ hroot
  · rw [hcontexts]
    exact .refl _
  · intro i hi
    rw [htracker] at hi
    exact hi

theorem flush (busy : List ContainerId := []) : (shop.flush busy).2.IsTended root others where
  world := by
    refine (h.world.releaseAll busy shop.factory.tracker.pending).mono ?_
    intro i hi
    rcases List.mem_append.1 hi with hi | hi
    · exact List.mem_append_left _ hi
    · rcases List.mem_append.1 hi with hi | hi
      · exact List.mem_append_right _ (List.mem_append_left _ hi)
      · cases hi
  rootContext := h.rootContext

/-- What comes of a construction may be held, and tracked. -/
theorem construct (handle : TemplateHandle H.Template) (container : ContainerId)
    (contextual direct : Attributes) (ownership : Ownership) :
    let result := shop.construct handle container contextual direct ownership
    result.2.IsTended root (result.1.toOption.toList ++ others) := by
  have hworld := h.world.construct handle container contextual direct
  intro result
  simp only [result, Workshop.construct]
  rw [h.rootContext]
  generalize shop.world.construct handle container root contextual direct = made at hworld
  obtain ⟨made, world⟩ := made
  cases made with
  | error e => exact ⟨hworld, h.rootContext⟩
  | ok i =>
    refine ⟨hworld.mono ?_, ?_⟩
    · intro j hj
      cases ownership with
      | delegated => exact hj
      | tracked =>
        change j ∈ i :: (others ++ shop.factory.tracker.held)
        change j ∈ (i :: others) ++ (shop.factory.tracker.register i).held at hj
        simp only [Tracker.held, List.mem_append, List.mem_cons, Tracker.mem_live_register] at hj ⊢
        tauto
    · cases ownership <;> exact h.rootContext

theorem constructEach (handle : TemplateHandle H.Template) (container : ContainerId)
    (key : String) (base : Attributes) (ownership : Ownership) (values : List Value) :
    let result := Workshop.constructEach handle container key base ownership values shop
    result.2.IsTended root (result.1 ++ others) := by
  induction values generalizing shop others with
  | nil => exact h
  | cons value rest ih =>
    have hfirst := h.construct handle container .empty (base.merged key value) ownership
    intro result
    simp only [result, Workshop.constructEach]
    generalize shop.construct handle container .empty (base.merged key value) ownership =
      made at hfirst
    obtain ⟨made, next⟩ := made
    cases made with
    | error e => exact ih hfirst
    | ok i =>
      obtain ⟨hrest, hroot⟩ := ih hfirst
      refine ⟨hrest.mono ?_, hroot⟩
      intro j hj
      change j ∈ (i :: _ ++ others) ++ _ at hj
      change j ∈ (_ ++ ([i] ++ others)) ++ _
      simp only [List.mem_append, List.mem_cons, List.not_mem_nil, or_false] at hj ⊢
      tauto

theorem create (container? : Option ContainerId) (identifier : String)
    (contextual direct : Attributes) (ownership : Ownership) :
    let result := shop.create container? identifier contextual direct ownership
    result.2.IsTended root (result.1.toOption.toList ++ others) := by
  cases container? with
  | none => exact h
  | some container =>
    have htemplate := h.flush.readyTemplate (some container) identifier
    intro result
    simp only [result, Workshop.create]
    generalize shop.flush.2.readyTemplate (some container) identifier = obtained at htemplate
    obtain ⟨obtained, next⟩ := obtained
    cases obtained with
    | error e => exact htemplate
    | ok handle => exact htemplate.construct handle container contextual direct ownership

theorem createMany (key : String) (values : List Value) (container? : Option ContainerId)
    (identifier : String) (base : Attributes) (ownership : Ownership) :
    let result := shop.createMany key values container? identifier base ownership
    result.2.IsTended root (result.1 ++ others) := by
  cases container? with
  | none => exact h
  | some container =>
    have htemplate := h.flush.readyTemplate (some container) identifier
    intro result
    simp only [result, Workshop.createMany]
    split
    · exact h
    · generalize shop.flush.2.readyTemplate (some container) identifier = obtained at htemplate
      obtain ⟨obtained, next⟩ := obtained
      cases obtained with
      | error e => exact htemplate
      | ok handle => exact htemplate.constructEach handle container key base ownership values

theorem teardown : shop.teardown.IsTended root others := by
  have hqueued : (Workshop.mk (shop.factory.withTracker shop.factory.tracker.destroyEverything.2)
      shop.world).IsTended root others := by
    refine h.aside (.refl _) rfl ?_ rfl
    intro i hi
    change i ∈ shop.factory.tracker.pending ++ shop.factory.tracker.live at hi
    exact (List.mem_append.1 hi).elim (List.mem_append_right _) (List.mem_append_left _)
  exact ⟨hqueued.flush.world, hqueued.flush.rootContext⟩

end IsTended

end Workshop

/-! ## Sessions -/

namespace Tracker

/-- To destroy is to queue: nothing is held that was not held. -/
theorem mem_held_destroy {t : Tracker} {i j : InstanceId} (h : j ∈ (t.destroy i).2.held) :
    j ∈ t.held := by
  rw [destroy] at h
  split at h
  · rename_i hi
    simp only [held, List.mem_append, List.mem_filter, List.mem_singleton] at h ⊢
    rcases h with ⟨hj, -⟩ | hj | rfl
    · exact Or.inl hj
    · exact Or.inr hj
    · exact Or.inl hi
  · exact h

theorem mem_held_destroyAll {t : Tracker} {ids : List InstanceId} {j : InstanceId}
    (h : j ∈ (destroyAll ids t).2.held) : j ∈ t.held := by
  induction ids generalizing t with
  | nil => exact h
  | cons i rest ih => exact mem_held_destroy (ih h)

theorem mem_held_destroyEverything {t : Tracker} {j : InstanceId}
    (h : j ∈ t.destroyEverything.2.held) : j ∈ t.held :=
  (List.mem_append.1 h).elim (fun h => absurd h List.not_mem_nil) fun h =>
    (List.mem_append.1 h).elim (List.mem_append_right _) (List.mem_append_left _)

end Tracker

namespace Session

/-- Someone refers to an instance: the host, a container that is there, the host's own tracker or
the factory's. -/
def Reaches (s : Session H) (i : InstanceId) : Prop :=
  i ∈ s.heldInstances ∨ (∃ c, i ∈ s.world.scene.children c) ∨
    ∃ t : Tracker, (t = s.tracker ∨ ∃ f, s.factory? = some f ∧ t = f.tracker) ∧
      (i ∈ t.live ∨ i ∈ t.pending)

theorem mem_instanceReferences (s : Session H) (i : InstanceId) :
    i ∈ s.instanceReferences ↔ i ∈ s.heldInstances ∨
      ∃ t : Tracker, (t = s.tracker ∨ ∃ f, s.factory? = some f ∧ t = f.tracker) ∧
        (i ∈ t.live ∨ i ∈ t.pending) := by
  cases hf : s.factory? with
  | none =>
    simp [instanceReferences, hf, Tracker.held]
  | some f =>
    simp [instanceReferences, hf, Tracker.held, or_assoc]

theorem reaches_iff (s : Session H) (i : InstanceId) :
    s.Reaches i ↔ s.world.scene.IsReached s.instanceReferences i := by
  rw [Reaches, Scene.IsReached, mem_instanceReferences, or_assoc]
  exact or_congr Iff.rfl or_comm

end Session

/-- The host takes a reference to an instance, or puts it into a container, only while someone
refers to it. -/
def Operation.NamesReached (s : Session H) : Operation H → Prop
  | .register i | .attachChild _ i => s.Reaches i
  | _ => True

/-- The instances that an answer hands out. -/
def Outcome.handedOut : Outcome H → List InstanceId
  | .created (.ok i) => [i]
  | .createdMany ids => ids
  | _ => []

@[simp] theorem Outcome.handedOut_created (result : Except FactoryError InstanceId) :
    (created result : Outcome H).handedOut = result.toOption.toList := by
  cases result <;> rfl

namespace Session

variable {root : ContextId}

/-- The world of a session is tended, with all references to instances. -/
structure IsTended (s : Session H) (root : ContextId) : Prop where
  world : s.world.IsTended root s.instanceReferences
  rootContext : ∀ f, s.factory? = some f → f.rootContext = root

theorem isTended_start (config : Config) (state : H.State) : (start config state).IsTended 1 where
  world := by
    refine ⟨Nat.le_refl _, ?_, ?_, ?_⟩
    · exact Contexts.parent?_add _ _ _
    · intro i inst hi
      rw [show (start config state).world.scene.instance? i = none by cases i <;> rfl] at hi
      cases hi
    · intro i inst k hi
      rw [show (start config state).world.scene.instance? i = none by cases i <;> rfl] at hi
      cases hi
  rootContext := by
    intro f hf
    cases hf
    rfl

namespace IsTended

variable {s s' : Session H} (h : s.IsTended root)

include h

/-- The host does something beside the factory. -/
theorem beside (hworld : s'.world.IsTended root s.instanceReferences)
    (hreferred : ∀ i ∈ s'.instanceReferences, i ∈ s.instanceReferences)
    (hfactory : s'.factory? = s.factory?) : s'.IsTended root where
  world := hworld.mono hreferred
  rootContext f hf := h.rootContext f (hfactory ▸ hf)

/-- The host's handles and its own tracker hold nothing that they did not hold. -/
theorem aside (hcontexts : s.world.contexts.Extends s'.world.contexts)
    (hscene : s'.world.scene = s.world.scene)
    (hheld : ∀ i ∈ s'.heldInstances, i ∈ s.heldInstances)
    (htracker : ∀ i ∈ s'.tracker.held, i ∈ s.tracker.held)
    (hfactory : s'.factory? = s.factory?) : s'.IsTended root := by
  refine h.beside (h.world.aside hcontexts hscene fun i hi => Or.inl hi) ?_ hfactory
  intro i hi
  rw [instanceReferences, hfactory] at hi
  rcases List.mem_append.1 hi with hi | hi
  · refine List.mem_append_left _ ?_
    rcases List.mem_append.1 hi with hi | hi
    · exact List.mem_append_left _ (hheld i hi)
    · exact List.mem_append_right _ (htracker i hi)
  · exact List.mem_append_right _ hi

/-- A factory at work keeps a session tended, and what comes of its work may be held. -/
theorem atWork {work : Workshop H → Outcome H × Workshop H} (ids : Outcome H → List InstanceId)
    (hnone : ids .noFactory = [])
    (hwork : ∀ (shop : Workshop H) (others : List InstanceId), shop.IsTended root others →
      (work shop).2.IsTended root (ids (work shop).1 ++ others)) :
    ((s.atWork work).2.hold (ids (s.atWork work).1)).IsTended root := by
  cases hf : s.factory? with
  | none =>
    have hidle : s.atWork work = (.noFactory, s) := by
      rw [Session.atWork, hf]
    rw [hidle]
    exact h.aside (.refl _) rfl (by simp [hold, hnone]) (fun _ => id) rfl
  | some factory =>
    have hshop : (Workshop.mk factory s.world).IsTended root
        (s.heldInstances ++ s.tracker.held) := by
      refine ⟨?_, h.rootContext factory hf⟩
      have hworld := h.world
      rw [instanceReferences, hf] at hworld
      exact hworld
    have hdone : s.atWork work = ((work ⟨factory, s.world⟩).1,
        ⟨(work ⟨factory, s.world⟩).2.world, some (work ⟨factory, s.world⟩).2.factory, s.tracker,
          s.heldInstances, s.heldContexts⟩) := by
      rw [Session.atWork, hf]
    obtain ⟨hworld, hroot⟩ := hwork _ _ hshop
    rw [hdone]
    refine ⟨hworld.mono ?_, ?_⟩
    · intro i hi
      simp only [instanceReferences, hold, Option.elim_some, List.mem_append] at hi ⊢
      tauto
    · rintro f ⟨⟩
      exact hroot

/-- A factory at work of which nothing comes that is held. -/
theorem atWork_quiet {work : Workshop H → Outcome H × Workshop H}
    (hwork : ∀ (shop : Workshop H) (others : List InstanceId), shop.IsTended root others →
      (work shop).2.IsTended root others) : (s.atWork work).2.IsTended root := by
  have hquiet := h.atWork (fun _ => []) rfl hwork
  simpa only [hold, List.append_nil] using hquiet

theorem dropFactory : s.dropFactory.2.IsTended root := by
  rw [Session.dropFactory]
  cases hf : s.factory? with
  | none => exact h
  | some factory =>
    have hworld := h.world
    rw [instanceReferences, hf] at hworld
    have hshop : (Workshop.mk factory s.world).IsTended root _ :=
      ⟨hworld, h.rootContext factory hf⟩
    have htorn := hshop.teardown
    refine ⟨htorn.world.mono ?_, ?_⟩
    · intro i hi
      change i ∈ (s.heldInstances ++ s.tracker.held) ++ [] at hi
      rw [List.append_nil] at hi
      exact List.mem_append_left _ hi
    · rintro f ⟨⟩

end IsTended

/-- A creation is the factory's work, and what it hands out is held. -/
theorem carryOut_create_handedOut (s : Session H) (container? : Option ContainerId)
    (identifier : String) (contextual direct : Attributes) (ownership : Ownership) :
    let worked := s.atWork fun (shop : Workshop H) =>
      (shop.create container? identifier contextual direct ownership).map Outcome.created id
    s.carryOut (.create container? identifier contextual direct ownership) =
      (worked.1, worked.2.hold worked.1.handedOut) := by
  intro worked
  have hworked : (∃ result, worked.1 = Outcome.created result) ∨ worked.1 = .noFactory := by
    simp only [worked, atWork]
    cases s.factory? with
    | none => exact Or.inr rfl
    | some factory => exact Or.inl ⟨_, rfl⟩
  simp only [carryOut]
  split
  · rename_i i s' heq
    rw [show worked = _ from heq]
    rfl
  · rename_i hother
    have hnone : worked.1.handedOut = [] := by
      rcases hworked with ⟨result, heq⟩ | heq
      · rw [heq]
        cases result with
        | error e => rfl
        | ok i => exact (hother i worked.2 (Prod.ext heq rfl)).elim
      · rw [heq]
        rfl
    rw [hnone]
    simp [hold, worked]

theorem carryOut_createMany_handedOut (s : Session H) (key : String) (values : List Value)
    (container? : Option ContainerId) (identifier : String) (base : Attributes)
    (ownership : Ownership) :
    let worked := s.atWork fun (shop : Workshop H) =>
      (shop.createMany key values container? identifier base ownership).map
        Outcome.createdMany id
    s.carryOut (.createMany key values container? identifier base ownership) =
      (worked.1, worked.2.hold worked.1.handedOut) := by
  intro worked
  have hworked : (∃ ids, worked.1 = Outcome.createdMany ids) ∨ worked.1 = .noFactory := by
    simp only [worked, atWork]
    cases s.factory? with
    | none => exact Or.inr rfl
    | some factory => exact Or.inl ⟨_, rfl⟩
  simp only [carryOut]
  split
  · rename_i ids s' heq
    rw [show worked = _ from heq]
    rfl
  · rename_i hother
    have hnone : worked.1.handedOut = [] := by
      rcases hworked with ⟨ids, heq⟩ | heq
      · exact (hother ids worked.2 (Prod.ext heq rfl)).elim
      · rw [heq]
        rfl
    rw [hnone]
    simp [hold, worked]

namespace IsTended

variable {s : Session H} (h : s.IsTended root)

include h

/-- The host does something to the scene. -/
theorem withScene {scene : Scene H.Engine}
    (hscene : (s.world.withScene scene).IsTended root s.instanceReferences) :
    (s.withScene scene).IsTended root :=
  ⟨hscene, h.rootContext⟩

/-- An operation that names what is referred to keeps a session tended, before what nobody
refers to is let go. -/
theorem carryOut {op : Operation H} (hop : op.NamesReached s) :
    (s.carryOut op).2.IsTended root := by
  cases op with
  | «outside» change => exact h.aside (.refl _) rfl (fun _ => id) (fun _ => id) rfl
  | bind engine => exact h.atWork_quiet fun shop _ h => h.aside (.refl _) rfl (fun _ => id) rfl
  | template identifier =>
    exact h.atWork_quiet fun shop _ h => h.aside (.refl _) rfl (fun _ => id) rfl
  | readyTemplate container? identifier =>
    exact h.atWork_quiet fun shop _ h => h.readyTemplate container? identifier
  | create container? identifier contextual direct ownership =>
    rw [carryOut_create_handedOut]
    refine h.atWork Outcome.handedOut rfl fun shop others h => ?_
    rw [Prod.map_fst, Outcome.handedOut_created]
    exact h.create container? identifier contextual direct ownership
  | createMany key values container? identifier base ownership =>
    rw [carryOut_createMany_handedOut]
    exact h.atWork Outcome.handedOut rfl fun shop others h =>
      h.createMany key values container? identifier base ownership
  | destroy i =>
    exact h.atWork_quiet fun shop _ h =>
      h.aside (.refl _) rfl (fun _ => Tracker.mem_held_destroy) rfl
  | destroyAll ids =>
    exact h.atWork_quiet fun shop _ h =>
      h.aside (.refl _) rfl (fun _ => Tracker.mem_held_destroyAll) rfl
  | flush busy => exact h.atWork_quiet fun shop _ h => h.flush busy
  | teardown => exact h.atWork_quiet fun shop _ h => h.teardown
  | dropFactory => exact h.dropFactory
  | setRootContext name value =>
    exact h.atWork_quiet fun shop _ h =>
      h.aside (shop.world.contexts.extends_set _ name value) rfl (fun _ => id) rfl
  | detach i access => exact h.withScene (h.world.detach i access)
  | dropInstance i =>
    exact h.aside (.refl _) rfl (fun _ => List.mem_of_mem_erase) (fun _ => id) rfl
  | newContext parent? =>
    exact h.aside (s.world.contexts.extends_add parent?) rfl (fun _ => id) (fun _ => id) rfl
  | holdContext i =>
    simp only [Session.carryOut]
    split
    · exact h.aside (.refl _) rfl (fun _ => id) (fun _ => id) rfl
    · exact h
  | setContext k name value =>
    exact h.aside (s.world.contexts.extends_set k name value) rfl (fun _ => id) (fun _ => id) rfl
  | dropContext k => exact h.aside (.refl _) rfl (fun _ => id) (fun _ => id) rfl
  | addContainer name context? engine? =>
    exact h.withScene (h.world.addContainer name context? engine?)
  | addContainerWith name properties engine? =>
    -- the context comes first, the container that has it second
    let contexts := s.world.contexts.add none
    have hcontexts : s.world.contexts.Extends (contexts.setAll contexts.newest properties) :=
      (s.world.contexts.extends_add none).trans (contexts.extends_setAll _ _)
    have hmiddle : (s.withWorld (s.world.withContexts
        (contexts.setAll contexts.newest properties))).IsTended root :=
      h.aside hcontexts rfl (fun _ => id) (fun _ => id) rfl
    exact hmiddle.withScene (hmiddle.world.addContainer name (some contexts.newest) engine?)
  | dropContainer c => exact h.withScene (h.world.dropContainer c)
  | attachChild c i =>
    exact h.withScene (h.world.attachChild c ((s.reaches_iff i).1 hop))
  | detachChild c i => exact h.withScene (h.world.detachChild c i)
  | register i =>
    refine ⟨h.world.aside (.refl _) rfl ?_, h.rootContext⟩
    intro j hj
    have hcases : j = i ∨ j ∈ s.instanceReferences := by
      change j ∈ s.heldInstances ++ (s.tracker.register i).held ++ _ at hj
      simp only [instanceReferences, Tracker.held, List.mem_append,
        Tracker.mem_live_register] at hj ⊢
      tauto
    rcases hcases with rfl | hj
    · exact (s.reaches_iff j).1 hop
    · exact Or.inl hj
  | destroyOwn i =>
    exact h.aside (.refl _) rfl (fun _ => id) (fun _ => Tracker.mem_held_destroy) rfl
  | destroyAllOwn ids =>
    exact h.aside (.refl _) rfl (fun _ => id) (fun _ => Tracker.mem_held_destroyAll) rfl
  | destroyEveryOwn =>
    exact h.aside (.refl _) rfl (fun _ => id) (fun _ => Tracker.mem_held_destroyEverything) rfl
  | flushOwn busy =>
    refine h.beside (h.world.releaseAll busy s.tracker.pending) ?_ rfl
    intro j hj
    change j ∈ s.heldInstances ++ (s.tracker.live ++ []) ++ _ at hj
    simp only [instanceReferences, Tracker.held, List.mem_append, List.not_mem_nil,
      or_false] at hj ⊢
    tauto

/-- At the end of an operation the session is tended. -/
theorem perform {op : Operation H} (hop : op.NamesReached s) :
    (s.perform op).2.IsTended root := by
  have hcarried := h.carryOut hop
  exact ⟨hcarried.world.settle, hcarried.rootContext⟩

end IsTended

/-- What nobody refers to has nothing left at the end of an operation. -/
theorem reaches_of_perform (s : Session H) (op : Operation H) {i : InstanceId} {inst : Instance}
    (hi : (s.perform op).2.world.scene.instance? i = some inst)
    (hk : inst.context?.isSome = true) : (s.perform op).2.Reaches i := by
  have hkept : ∀ next : Session H, next.settle.world.scene.instance? i = some inst →
      next.settle.Reaches i := by
    intro next hi
    refine (reaches_iff _ i).2 ((Scene.isReached_forgetUnheld _ _ _).2 ?_)
    rcases next.world.scene.instance?_of_forgetUnheld hi with
      ⟨-, hreached | hnone⟩ | ⟨hnone, -⟩
    · exact hreached
    · rw [hnone] at hk
      cases hk
    · rw [hnone] at hk
      cases hk
  exact hkept _ hi

/-- A session stays tended as long as the host names what is referred to. -/
theorem isTended_after (config : Config) (state : H.State) {ops : List (Operation H)}
    (hops : (start config state).Throughout (fun s op => op.NamesReached s) ops) :
    ((start config state).after ops).IsTended 1 :=
  hops.induction (Q := fun s => s.IsTended 1) (fun _ _ hop h => h.perform hop)
    (isTended_start config state)

end Session

end SceneFactory
