import SceneFactory.Proofs.World.Failure
import SceneFactory.Proofs.World.Recipe

/-!
# What an instance has, and what becomes of it

An instance has an object and the context that the object was built in, or it has neither
(`Instance.IsSound`). Short of being forgotten, an instance can be detached or destroyed and
nothing else (`Instance.Becomes`); `World.Move.hasBecome` says so of every move of a world.

Main statement: `World.Moves.keeps_or_lets_go`. Whatever happens, an instance keeps its context,
or else its object was let go and right after it the context.
-/

set_option autoImplicit false

namespace SceneFactory

variable {H : Host}

/-! ## One instance -/

namespace Instance

variable {inst inst' : Instance}

/-- An instance has both an object and a context, or neither; and a destroyed one has neither. -/
structure IsSound (inst : Instance) : Prop where
  both : inst.object?.isSome = inst.context?.isSome
  destroyed : inst.state = .destroyed → inst.object? = none

/-- What can become of an instance in one step, other than that it is forgotten. -/
inductive Becomes : Instance → Instance → Prop where
  | same (inst : Instance) : Becomes inst inst
  | detached (inst : Instance) (h : inst.state = .attached) : Becomes inst inst.asDetached
  | destroyed (inst : Instance) : Becomes inst inst.asDestroyed

theorem isSound_new (uri : String) (o : SceneObject) (k : ContextId) :
    (new uri o k).IsSound where
  both := rfl
  destroyed := by
    intro h
    cases h

theorem isSound_asForgotten (inst : Instance) : inst.asForgotten.IsSound := ⟨rfl, fun _ => rfl⟩

namespace IsSound

variable (h : inst.IsSound)

include h

theorem attachedTo (c : ContainerId) (name : String) : (inst.attachedTo c name).IsSound where
  both := by
    rw [← show inst.context?.isSome = (inst.attachedTo c name).context?.isSome from rfl, ← h.both]
    exact Option.isSome_map
  destroyed := by
    intro h
    cases h

theorem becomes (hb : inst.Becomes inst') : inst'.IsSound := by
  cases hb with
  | same => exact h
  | detached =>
    refine ⟨?_, ?_⟩
    · rw [← show inst.context?.isSome = inst.asDetached.context?.isSome from rfl, ← h.both]
      exact Option.isSome_map
    · intro hs
      cases hs
  | destroyed => exact ⟨rfl, fun _ => rfl⟩

/-- An instance that has a context has its object, and would let go of both. -/
theorem belongings {k : ContextId} (hk : inst.context? = some k) :
    inst.object?.isSome = true ∧ inst.belongings = [.object k, .context k] := by
  have ho : inst.object?.isSome = true := by
    rw [h.both, hk]
    rfl
  refine ⟨ho, ?_⟩
  rw [Instance.belongings, hk]
  exact if_pos ho

end IsSound

namespace Becomes

variable (h : inst.Becomes inst')

include h

/-- What is not destroyed was not destroyed. -/
theorem state_ne (hs : inst'.state ≠ .destroyed) : inst.state ≠ .destroyed := by
  cases h with
  | same => exact hs
  | detached hattached =>
    rw [hattached]
    intro hs
    cases hs
  | destroyed => exact absurd rfl hs

/-- An instance that is not destroyed keeps its object. -/
theorem isSome_object (hs : inst'.state ≠ .destroyed) (ho : inst.object?.isSome = true) :
    inst'.object?.isSome = true := by
  cases h with
  | same => exact ho
  | detached => exact Option.isSome_map.trans ho
  | destroyed => exact absurd rfl hs

/-- No instance comes by a context. -/
theorem context?_of_some {k : ContextId} (hk : inst'.context? = some k) :
    inst.context? = some k := by
  cases h with
  | same => exact hk
  | detached => exact hk
  | destroyed => cases hk

end Becomes

end Instance

/-! ## Scenes -/

namespace Scene

variable {ε : Type} {scene : Scene ε} {i j : InstanceId} {inst : Instance}

theorem becomes_detach (access : Access) (hj : scene.instance? j = some inst) :
    ∃ inst', (scene.detach i access).2.instance? j = some inst' ∧ inst.Becomes inst' ∧
      inst'.context? = inst.context? := by
  rw [instance?_detach]
  by_cases hij : i = j
  · rw [if_pos hij, hj]
    by_cases hs : inst.state = .attached
    · exact ⟨inst.asDetached, by simp [hs], .detached inst hs, rfl⟩
    · exact ⟨inst, by simp [hs], .same inst, rfl⟩
  · rw [if_neg hij]
    exact ⟨inst, hj, .same inst, rfl⟩

/-- Detached and released, an instance is destroyed, and all that it had is let go. -/
theorem becomes_releaseOne (access : Access) (hj : scene.instance? j = some inst) :
    ∃ inst', ((scene.detach i access).2.release i).2.instance? j = some inst' ∧
      inst.Becomes inst' ∧ (inst'.context? = inst.context? ∨
        inst'.context? = none ∧
          ((scene.detach i access).2.release i).2.releases =
            scene.releases ++ inst.belongings) := by
  by_cases hij : i = j
  · subst hij
    have hview := scene.instance?_detach i access i
    rw [if_pos rfl, hj, Option.map_some] at hview
    by_cases hd : inst.state = .destroyed
    · refine ⟨inst, ?_, .same inst, Or.inl rfl⟩
      rw [instance?_release, if_pos rfl, hview]
      simp [hd]
    · refine ⟨inst.asDestroyed, ?_, .destroyed inst, Or.inr ⟨rfl, ?_⟩⟩
      · rw [instance?_release, if_pos rfl, hview]
        by_cases hs : inst.state = .attached
        · simp [hs, Instance.asDetached, Instance.asDestroyed]
        · simp [hs, hd]
      · rw [releases_release, hview, releases_detach]
        by_cases hs : inst.state = .attached
        · simp [hs, Instance.asDetached, Instance.belongings]
        · simp [hs, hd]
  · rw [Tracker.instance?_releaseOne_of_ne scene hij]
    exact ⟨inst, hj, .same inst, Or.inl rfl⟩

theorem becomes_forget (hj : scene.instance? j = some inst) :
    ∃ inst', (scene.forget i).instance? j = some inst' ∧ (inst' = inst ∨
      inst' = inst.asForgotten ∧
        (scene.forget i).releases = scene.releases ++ inst.belongings) := by
  by_cases hij : i = j
  · subst hij
    refine ⟨inst.asForgotten, ?_, Or.inr ⟨rfl, ?_⟩⟩
    · rw [instance?_forget, if_pos rfl, hj, Option.map_some]
    · rw [releases_forget, hj]
      rfl
  · refine ⟨inst, ?_, Or.inl rfl⟩
    rw [instance?_forget, if_neg hij]
    exact hj

/-- What has become of an instance in a scene: something that it can become, or nothing any more,
and where its context went its belongings were let go. -/
def HasBecome (scene : Scene ε) (i : InstanceId) (inst : Instance) : Prop :=
  ∃ inst', scene.instance? i = some inst' ∧
    (inst.Becomes inst' ∨ inst' = inst.asForgotten) ∧
    (inst'.context? = inst.context? ∨
      inst'.context? = none ∧ inst.belongings <:+: scene.releases)

theorem hasBecome_of_eq (h : scene.instance? i = some inst) : scene.HasBecome i inst :=
  ⟨inst, h, Or.inl (.same inst), Or.inl rfl⟩

end Scene

/-! ## Moves -/

namespace World

variable {w w' : World H} {i : InstanceId} {inst : Instance}

theorem Change.hasBecome (hc : Change w w') (hi : w.scene.instance? i = some inst) :
    w'.scene.HasBecome i inst := by
  -- a number that is in use is not the next one
  have hne : i ≠ w.scene.instances.next := by
    rintro rfl
    rw [w.scene.instance?_next] at hi
    cases hi
  cases hc with
  | aside _ hs => exact Scene.hasBecome_of_eq (hs ▸ hi)
  | abandon lost _ _ hs => exact Scene.hasBecome_of_eq (hs ▸ hi)
  | reject uri o _ hs =>
    apply Scene.hasBecome_of_eq
    rw [hs, w.scene.instance?_reject_of_ne uri o _ hne]
    exact hi
  | place uri o c _ _ hs =>
    apply Scene.hasBecome_of_eq
    rw [hs, w.scene.instance?_place_of_ne uri o _ c hne]
    exact hi
  | detach j _ hs =>
    obtain ⟨inst', hi', hb, hk⟩ := Scene.becomes_detach (i := j) .free hi
    exact ⟨inst', hs ▸ hi', Or.inl hb, Or.inl hk⟩
  | release j _ hs =>
    obtain ⟨inst', hi', hb, hk⟩ := Scene.becomes_releaseOne (i := j) .free hi
    rw [← hs] at hi' hk
    refine ⟨inst', hi', Or.inl hb, hk.imp_right fun h => ⟨h.1, ?_⟩⟩
    rw [h.2]
    exact (List.suffix_append _ _).isInfix
  | forget j _ _ hs =>
    obtain ⟨inst', hi', hk⟩ := Scene.becomes_forget (i := j) hi
    rw [← hs] at hi' hk
    rcases hk with rfl | ⟨rfl, hreleases⟩
    · exact Scene.hasBecome_of_eq hi'
    · refine ⟨_, hi', Or.inr rfl, Or.inr ⟨rfl, ?_⟩⟩
      rw [hreleases]
      exact (List.suffix_append _ _).isInfix
  | addContainer name context? engine? _ hs => exact Scene.hasBecome_of_eq (hs ▸ hi)
  | dropContainer c _ hs => exact Scene.hasBecome_of_eq (hs ▸ hi)

/-- A move makes of an instance what it can become, or lets go of what it has. -/
theorem Move.hasBecome (hm : Move w w') (hi : w.scene.instance? i = some inst) :
    w'.scene.HasBecome i inst := by
  cases hm with
  | change hc => exact hc.hasBecome hi
  | attachChild c j => exact Scene.hasBecome_of_eq hi
  | detachChild c j => exact Scene.hasBecome_of_eq hi
  | detachBusy j =>
    obtain ⟨inst', hi', hb, hk⟩ := Scene.becomes_detach (i := j) .busy hi
    exact ⟨inst', hi', Or.inl hb, Or.inl hk⟩

/-- An instance that comes of a move is sound. -/
theorem Move.isSound_of_new (hm : Move w w') (hnew : w.scene.instance? i = none)
    (hi : w'.scene.instance? i = some inst) : inst.IsSound := by
  have hsame : w'.scene.instance? i = w.scene.instance? i → inst.IsSound := by
    intro heq
    rw [heq, hnew] at hi
    cases hi
  cases hm with
  | attachChild c j => exact hsame rfl
  | detachChild c j => exact hsame rfl
  | detachBusy j =>
    change (w.scene.detach j .busy).2.instance? i = _ at hi
    rw [Scene.instance?_detach, hnew] at hi
    split at hi <;> cases hi
  | change hc =>
    cases hc with
    | aside _ hs => exact hsame (by rw [hs])
    | abandon lost _ _ hs => exact hsame (by rw [hs]; rfl)
    | reject uri o _ hs =>
      have habandons := w.scene.abandons_release_addInstance uri o (w.contexts.newest + 1)
      rw [← hs] at habandons
      by_cases hle : i ≤ w.scene.instances.size
      · exact hsame (habandons.old hle)
      · rw [habandons.new (Nat.lt_of_not_le hle) hi]
        exact ⟨rfl, fun _ => rfl⟩
    | place uri o c _ _ hs =>
      by_cases hnext : i = w.scene.instances.next
      · rw [hs, hnext, w.scene.instance?_place_self] at hi
        cases hi
        rw [Scene.seated]
        split
        · exact (Instance.isSound_new uri o _).attachedTo c _
        · exact Instance.isSound_new uri o _
      · apply hsame
        rw [hs, w.scene.instance?_place_of_ne uri o _ c hnext]
    | detach j _ hs =>
      rw [hs, Scene.instance?_detach, hnew] at hi
      split at hi <;> cases hi
    | release j _ hs =>
      have hsome := Tracker.isSome_releaseOne w.scene .free j i
      rw [← hs, hi, hnew] at hsome
      cases hsome
    | forget j _ _ hs =>
      rw [hs, Scene.instance?_forget, hnew] at hi
      split at hi <;> cases hi
    | addContainer name context? engine? _ hs => exact hsame (by rw [hs]; rfl)
    | dropContainer c _ hs => exact hsame (by rw [hs]; rfl)

/-- Every instance of a scene is sound. -/
def IsSound (w : World H) : Prop :=
  ∀ {i : InstanceId} {inst : Instance}, w.scene.instance? i = some inst → inst.IsSound

theorem IsSound.move (h : w.IsSound) (hm : Move w w') : w'.IsSound := by
  intro i inst' hi'
  cases hi : w.scene.instance? i with
  | none => exact hm.isSound_of_new hi hi'
  | some inst =>
    obtain ⟨after, hafter, hb | rfl, -⟩ := hm.hasBecome hi
    · cases hafter.symm.trans hi'
      exact (h hi).becomes hb
    · cases hafter.symm.trans hi'
      exact inst.isSound_asForgotten

theorem IsSound.moves (h : w.IsSound) (hm : Moves w w') : w'.IsSound := by
  induction hm with
  | refl => exact h
  | tail _ hlast ih => exact ih.move hlast

/-- An instance keeps its context, or else its object was let go and right after it the
context. -/
theorem Moves.keeps_or_lets_go (hm : Moves w w') (h : w.IsSound)
    (hi : w.scene.instance? i = some inst) {k : ContextId} (hk : inst.context? = some k) :
    ∃ inst', w'.scene.instance? i = some inst' ∧ (inst'.context? = some k ∨
      inst'.context? = none ∧ [Release.object k, .context k] <:+: w'.scene.releases) := by
  induction hm with
  | refl => exact ⟨inst, hi, Or.inl hk⟩
  | @tail middle last hfirst hlast ih =>
    obtain ⟨now, hnow, hcontext⟩ := ih
    obtain ⟨next, hnext, -, hstep⟩ := hlast.hasBecome hnow
    refine ⟨next, hnext, ?_⟩
    rcases hcontext with hk | ⟨hnone, hgone⟩
    · refine hstep.imp (fun heq => heq.trans hk) fun hlost => ⟨hlost.1, ?_⟩
      obtain ⟨-, hbelongings⟩ := (h.moves hfirst hnow).belongings hk
      rw [← hbelongings]
      exact hlost.2
    · have hnone : next.context? = none := hstep.elim (fun heq => heq.trans hnone) And.left
      exact Or.inr ⟨hnone, hgone.trans hlast.releases_grow.isInfix⟩

end World

end SceneFactory
