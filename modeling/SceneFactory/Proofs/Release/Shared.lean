import SceneFactory.Proofs.Lifetime.Alive
import SceneFactory.Proofs.Release.Flush

/-!
# Several trackers over one world

Nothing keeps an instance from being registered in more than one tracker, or again after it
was queued or destroyed. It is then queued several times, in one tracker or in several, and
that it is released once is a matter of the instance's own state.

`TrackedWorld` is a world with any number of trackers, `TrackedWorld.Act` what can be done
to them. Main statement: `TrackedWorld.released_at_most_once`.
-/

set_option autoImplicit false

namespace SceneFactory

variable {H : Host}

/-- A world in which any number of trackers are at work. -/
structure TrackedWorld (H : Host) where
  world : World H
  trackers : Nat → Tracker

namespace TrackedWorld

/-- What can be done with the trackers and the instances of a world. -/
inductive Act where
  | register (t : Nat) (i : InstanceId)
  | destroy (t : Nat) (i : InstanceId)
  | destroyAll (t : Nat) (ids : List InstanceId)
  | destroyEverything (t : Nat)
  | flush (t : Nat) (busy : List ContainerId)
  | detach (i : InstanceId) (access : Access)
deriving DecidableEq

variable (tw : TrackedWorld H)

/-- The world with another tracker in the place of one. -/
def withTracker (t : Nat) (tracker : Tracker) : TrackedWorld H :=
  ⟨tw.world, Function.update tw.trackers t tracker⟩

/-- The world with another scene. -/
def withScene (scene : Scene H.Engine) : TrackedWorld H := ⟨tw.world.withScene scene, tw.trackers⟩

/-- Does one thing, and says what came of it. -/
def perform : Act → Outcome H × TrackedWorld H
  | .register t i => (.nothing, tw.withTracker t ((tw.trackers t).register i))
  | .destroy t i =>
    let (was, tracker) := (tw.trackers t).destroy i
    (.flag was, tw.withTracker t tracker)
  | .destroyAll t ids =>
    let (count, tracker) := Tracker.destroyAll ids (tw.trackers t)
    (.count count, tw.withTracker t tracker)
  | .destroyEverything t =>
    let (count, tracker) := (tw.trackers t).destroyEverything
    (.count count, tw.withTracker t tracker)
  | .flush t busy =>
    let (count, tracker, scene) := (tw.trackers t).flush busy tw.world.scene
    (.count count, (tw.withScene scene).withTracker t tracker)
  | .detach i access =>
    let (left, scene) := tw.world.scene.detach i access
    (.flag left, tw.withScene scene)

/-- Does one thing after the other. -/
def after (acts : List Act) : TrackedWorld H := acts.foldl (fun tw act => (tw.perform act).2) tw

/-! ## One act -/

/-- An act is a sequence of moves. -/
theorem moves_perform (act : Act) : World.Moves tw.world (tw.perform act).2.world := by
  cases act with
  | flush t busy => exact tw.world.moves_releaseAll busy (tw.trackers t).pending
  | detach i access =>
    cases access with
    | free => exact Relation.ReflTransGen.single (.change (.detach i rfl rfl))
    | busy => exact Relation.ReflTransGen.single (.detachBusy tw.world i)
  | _ => exact Relation.ReflTransGen.refl

/-- An instance has a context still, or it was released. -/
def KeepsOrWasReleased (k : ContextId) (i : InstanceId) : Prop :=
  ∃ inst, tw.world.scene.instance? i = some inst ∧
    (inst.context? = some k ∨ inst.state = .destroyed)

variable {tw}

/-- Only a release takes an instance's context. -/
theorem KeepsOrWasReleased.perform {k : ContextId} {i : InstanceId}
    (h : tw.KeepsOrWasReleased k i) (act : Act) : (tw.perform act).2.KeepsOrWasReleased k i := by
  obtain ⟨inst, hi, hinst⟩ := h
  cases act with
  | flush t busy =>
    have hview : (tw.perform (.flush t busy)).2.world.scene.instance? i = _ :=
      Tracker.instance?_releaseAll (tw.trackers t).pending tw.world.scene i
    rw [hi] at hview
    by_cases hmem : i ∈ (tw.trackers t).pending
    · rw [if_pos hmem] at hview
      refine ⟨inst.released, hview, Or.inr ?_⟩
      by_cases hd : inst.state = .destroyed <;>
        simp [Instance.released, hd, Instance.asDestroyed]
    · rw [if_neg hmem] at hview
      exact ⟨inst, hview, hinst⟩
  | detach j access =>
    have hview := tw.world.scene.instance?_detach j access i
    rw [hi] at hview
    by_cases hji : j = i
    · rw [if_pos hji, Option.map_some] at hview
      by_cases hs : inst.state = .attached
      · rw [if_pos hs] at hview
        refine ⟨inst.asDetached, hview, Or.inl (hinst.resolve_right ?_)⟩
        rw [hs]
        exact AttachmentState.noConfusion
      · rw [if_neg hs] at hview
        exact ⟨inst, hview, hinst⟩
    · rw [if_neg hji] at hview
      exact ⟨inst, hview, hinst⟩
  | _ => exact ⟨inst, hi, hinst⟩

variable (tw)

/-- A flush releases the instances that wait in its tracker, and touches nothing else: it
answers how many distinct ones of them were not destroyed before, none of them waits any
more, each is destroyed, and an instance that did not wait is as it was and where it was. -/
theorem perform_flush (t : Nat) (busy : List ContainerId) :
    let waiting := (tw.trackers t).pending
    let next := (tw.perform (.flush t busy)).2
    (tw.perform (.flush t busy)).1 = .count (tw.world.scene.intactAmong waiting).length ∧
      next.trackers t = (tw.trackers t).relieved ∧
      (∀ u, u ≠ t → next.trackers u = tw.trackers u) ∧
      (∀ i ∈ waiting, (tw.world.scene.instance? i).isSome = true →
        next.world.scene.state? i = some .destroyed) ∧
      (∀ i, i ∉ waiting →
        next.world.scene.instance? i = tw.world.scene.instance? i) ∧
      (∀ c, (next.world.scene.children c).filter (· ∉ waiting) =
        (tw.world.scene.children c).filter (· ∉ waiting)) ∧
      next.world.scene.releases.Perm (tw.world.scene.releases ++
        (tw.world.scene.intactAmong waiting).flatMap tw.world.scene.belongings) := by
  intro waiting next
  have hscene : next.world.scene = (Tracker.releaseAll busy waiting tw.world.scene).2 := rfl
  refine ⟨?_, ?_, ?_, ?_, ?_, ?_, ?_⟩
  · rw [← Tracker.fst_releaseAll]
    rfl
  · exact Function.update_self ..
  · intro u hu
    exact Function.update_of_ne hu ..
  · intro i hi hsome
    rw [hscene]
    exact Tracker.state?_releaseAll_of_mem waiting tw.world.scene hi hsome
  · intro i hi
    rw [hscene]
    exact Tracker.instance?_releaseAll_of_not_mem waiting tw.world.scene hi
  · intro c
    rw [hscene, Tracker.children_releaseAll, List.filter_filter]
    apply List.filter_congr
    intro i _
    by_cases hi : i ∈ waiting <;> simp [hi]
  · rw [hscene]
    exact Tracker.releases_releaseAll waiting tw.world.scene

/-! ## Runs -/

theorem moves_after (acts : List Act) : World.Moves tw.world (tw.after acts).world := by
  induction acts generalizing tw with
  | nil => exact Relation.ReflTransGen.refl
  | cons act acts ih => exact (tw.moves_perform act).trans (ih (tw.perform act).2)

theorem KeepsOrWasReleased.after {tw : TrackedWorld H} {k : ContextId} {i : InstanceId}
    (h : tw.KeepsOrWasReleased k i) (acts : List Act) : (tw.after acts).KeepsOrWasReleased k i := by
  induction acts generalizing tw with
  | nil => exact h
  | cons act acts ih => exact ih (h.perform act)

/-- An instance is released at most once, whatever is registered where. Take any number of
trackers, with whatever they have registered and queued, in any world that can be reached, and
let them register, destroy and flush, and instances be detached, in any order and with others at
work on any containers. In the end:
* nothing was let go twice; of an instance that had its object and its context at the
  beginning, both were let go once if it is destroyed, and neither if it is not;
* the flush of any tracker answers how many distinct instances wait in it that were not
  destroyed, and leaves none waiting and all of them destroyed; it lets go of what belongs to
  those it counts and of nothing else;
* an instance that does not wait in that tracker is not affected: neither it nor its place
  among the children of any container; and no other tracker is. -/
theorem released_at_most_once (config : Config) (state : H.State) (ops : List (Operation H))
    (trackers : Nat → Tracker) (acts : List Act) :
    let start : TrackedWorld H := ⟨((Session.start config state).after ops).world, trackers⟩
    let tw := start.after acts
    let scene := tw.world.scene
    (∀ r, scene.releases.count r ≤ 1) ∧
      (∀ i inst k, start.world.scene.instance? i = some inst → inst.context? = some k →
        ∀ r ∈ [Release.object k, .context k],
          scene.releases.count r = if scene.state? i = some .destroyed then 1 else 0) ∧
      ∀ t busy,
        let waiting := (tw.trackers t).pending
        let next := (tw.perform (.flush t busy)).2
        (tw.perform (.flush t busy)).1 = .count (scene.intactAmong waiting).length ∧
          (next.trackers t).pending = [] ∧ (next.trackers t).live = (tw.trackers t).live ∧
          (∀ i ∈ waiting, (scene.instance? i).isSome = true →
            next.world.scene.state? i = some .destroyed) ∧
          next.world.scene.releases.Perm
            (scene.releases ++ (scene.intactAmong waiting).flatMap scene.belongings) ∧
          (∀ i, i ∉ waiting → next.world.scene.instance? i = scene.instance? i) ∧
          (∀ c, (next.world.scene.children c).filter (· ∉ waiting) =
            (scene.children c).filter (· ∉ waiting)) ∧
          ∀ u, u ≠ t → next.trackers u = tw.trackers u := by
  intro start tw scene
  have hmoves : World.Moves start.world tw.world := start.moves_after acts
  have hbooked : scene.IsBooked tw.world.contexts.newest :=
    (Session.isBooked_after config state ops).moves hmoves
  have hsound : start.world.IsSound := Session.isSound_after config state ops
  refine ⟨List.nodup_iff_count_le_one.1 hbooked.nodup, ?_, ?_⟩
  · intro i inst k hi hk r hr
    obtain ⟨now, hnow, hfate⟩ := hmoves.keeps_or_lets_go hsound hi hk
    obtain ⟨now', hnow', hkept⟩ := KeepsOrWasReleased.after ⟨inst, hi, Or.inl hk⟩ acts
    cases hnow.symm.trans hnow'
    rw [show scene.state? i = some now.state from Scene.state?_of_instance? hnow]
    rcases hfate with hk' | ⟨hnone, hgone⟩
    · -- what is held was not let go, and what is destroyed holds nothing
      have hs : now.state ≠ .destroyed := by
        intro hs
        have ho := ((hsound.moves hmoves) hnow).belongings hk'
        rw [((hsound.moves hmoves) hnow).destroyed hs] at ho
        cases ho.1
      have hnot : r ∉ scene.releases := by
        obtain ⟨-, hobject, hcontext⟩ := hbooked.held hnow hk'
        simp only [List.mem_cons, List.not_mem_nil, or_false] at hr
        rcases hr with rfl | rfl
        · exact hobject
        · exact hcontext
      rw [if_neg fun h => hs (Option.some.inj h), List.count_eq_zero]
      exact hnot
    · have hs : now.state = .destroyed := by
        refine hkept.resolve_left ?_
        rw [hnone]
        exact (Option.some_ne_none k).symm
      rw [hs, if_pos rfl]
      exact List.count_eq_one_of_mem hbooked.nodup (hgone.mem hr)
  · intro t busy waiting next
    obtain ⟨hcount, hself, hothers, hwaiting, hrest, hchildren, hreleases⟩ :=
      tw.perform_flush t busy
    have hself : next.trackers t = (tw.trackers t).relieved := hself
    refine ⟨hcount, ?_, ?_, hwaiting, hreleases, hrest, hchildren, hothers⟩
    · rw [hself]
      rfl
    · rw [hself]
      rfl

/-- A label is registered in two trackers, and in one of them again after it was queued; the
first of the two flushes releases it. -/
example :
    let start : TrackedWorld studio :=
      ⟨((Session.start Config.default (default : Studio.State)).after Studio.labelRun).world,
        fun _ => .empty⟩
    let tw := start.after [.register 0 2, .register 1 2, .destroy 0 2, .register 0 2,
      .destroyAll 0 [2, 2, 7], .destroyEverything 1, .flush 1 []]
    (tw.trackers 0).pending = [2, 2] ∧ tw.world.scene.intactAmong [2, 2] = [] ∧
      tw.world.scene.releases = [.object 2, .context 2, .object 3, .context 3] := by
  decide +kernel

end TrackedWorld

end SceneFactory
