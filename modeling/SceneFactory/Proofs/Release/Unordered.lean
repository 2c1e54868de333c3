import Mathlib.Data.List.ReduceOption
import SceneFactory.Proofs.Lifetime.Alive
import SceneFactory.Proofs.Release.Flush

/-!
# The order of destruction does not matter

Which instances a factory is told to destroy decides what its next flush does; in what order
it is told, how often, among which others and with which flushes in between does not.

A session is looked at as its factory's tracker and its scene, with all else fixed
(`Session.tracking`). As nothing is let go behind the factory's back (`Session.IsSettled`),
to destroy and to flush in a session is to do so in the tracker and the scene
(`Session.perform_destroy`, `Session.perform_flush`). Main statement:
`Session.destruction_unordered`.
-/

set_option autoImplicit false

namespace SceneFactory

variable {H : Host}

/-! ## Steps of a destruction -/

/-- The operation to destroy an instance, or to flush with nobody else at work. -/
def Operation.step : Option InstanceId → Operation H
  | some i => .destroy i
  | none => .flush []

/-- How many instances an operation says to have unregistered, if it was told one. -/
def Outcome.unregistered : Outcome H → Nat
  | .flag was => was.toNat
  | _ => 0

/-- How many instances an operation says to have released, if it was told none. -/
def Outcome.released : Outcome H → Nat
  | .count n => n
  | _ => 0

namespace Session

variable {s : Session H} {factory : Factory H} {t t' : Tracker} {scene : Scene H.Engine}

/-! ## Settled sessions -/

/-- Someone refers to every instance that has something to let go, and none of them is
destroyed. -/
structure IsSettled (s : Session H) : Prop where
  reached : ∀ {i : InstanceId} {inst : Instance}, s.world.scene.instance? i = some inst →
    inst.context?.isSome = true → s.Reaches i
  bare : ∀ {i : InstanceId} {inst : Instance}, s.world.scene.instance? i = some inst →
    inst.state = .destroyed → inst.context? = none

/-- In a settled session there is nothing to be let go. -/
theorem IsSettled.settle_eq (h : s.IsSettled) : s.settle = s := by
  have hnone : (s.world.scene.livingInstances.filter
      fun i => i ∉ s.instanceReferences ++ s.world.scene.allChildren) = [] := by
    rw [List.eq_nil_iff_forall_not_mem]
    intro i hi
    obtain ⟨hnot, hchild⟩ := mem_unheld hi
    have hliving : ((s.world.scene.instance? i).bind Instance.context?).isSome = true :=
      (List.mem_filter.1 (List.mem_filter.1 hi).1).2
    obtain ⟨k, hk⟩ := Option.isSome_iff_exists.1 hliving
    obtain ⟨inst, hinst, hk⟩ := Option.bind_eq_some_iff.1 hk
    have hreached := (s.reaches_iff i).1 (h.reached hinst (by rw [hk]; rfl))
    rcases hreached with href | ⟨c, hc⟩
    · exact hnot href
    · exact hchild c hc
  have hscene : s.world.scene.forgetUnheld s.instanceReferences = s.world.scene := by
    rw [Scene.forgetUnheld]
    exact congrArg (List.foldl Scene.forget s.world.scene) hnone
  rw [settle, hscene]
  rfl

/-- A session is settled after every operation. -/
theorem isSettled_after (config : Config) (state : H.State) (ops : List (Operation H)) :
    ((start config state).after ops).IsSettled where
  reached := reaches_after config state ops
  bare := by
    intro i inst hi hs
    have hsound := isSound_after config state ops hi
    have hnone := hsound.both
    rw [hsound.destroyed hs] at hnone
    exact Option.isNone_iff_eq_none.1 (Option.isSome_eq_false_iff.1 hnone.symm)

/-! ## The tracker and the scene of a session -/

/-- The session with its factory's tracker and its scene as given. -/
def tracking (s : Session H) (factory : Factory H) (t : Tracker) (scene : Scene H.Engine) :
    Session H :=
  ⟨s.world.withScene scene, some (factory.withTracker t), s.tracker, s.heldInstances,
    s.heldContexts⟩

theorem tracking_self (hf : s.factory? = some factory) :
    s.tracking factory factory.tracker s.world.scene = s := by
  obtain ⟨world, factory?, tracker, heldInstances, heldContexts⟩ := s
  cases hf
  rfl

theorem reaches_tracking (i : InstanceId) :
    (s.tracking factory t scene).Reaches i ↔ i ∈ s.heldInstances ∨
      (∃ c, i ∈ scene.children c) ∨ i ∈ s.tracker.held ∨ i ∈ t.held := by
  simp only [Reaches, tracking, Tracker.held, List.mem_append, Option.some.injEq]
  refine or_congr Iff.rfl (or_congr Iff.rfl ⟨?_, ?_⟩)
  · rintro ⟨_, rfl | ⟨_, rfl, rfl⟩, hi⟩
    · exact Or.inl hi
    · exact Or.inr hi
  · rintro (hi | hi)
    · exact ⟨s.tracker, Or.inl rfl, hi⟩
    · exact ⟨t, Or.inr ⟨_, rfl, rfl⟩, hi⟩

namespace IsSettled

variable (h : (s.tracking factory t scene).IsSettled)

include h

/-- A tracker that refers to all that another refers to may take its place. -/
theorem retrack (ht : ∀ i ∈ t.held, i ∈ t'.held) :
    (s.tracking factory t' scene).IsSettled where
  reached := by
    intro i inst hi hk
    rw [reaches_tracking]
    refine ((reaches_tracking i).1 (h.reached hi hk)).imp_right fun hrest => ?_
    exact hrest.imp_right fun hrest => hrest.imp_right (ht i)
  bare := h.bare

/-- What a flush takes from the tracker and from containers has nothing left. -/
theorem flush :
    (s.tracking factory t.relieved (Tracker.releaseAll [] t.pending scene).2).IsSettled := by
  -- an instance is as it was, or it is destroyed and has nothing
  have hcases : ∀ {i : InstanceId} {inst : Instance},
      (Tracker.releaseAll [] t.pending scene).2.instance? i = some inst →
        (i ∉ t.pending ∧ scene.instance? i = some inst) ∨ inst.context? = none := by
    intro i inst hi
    rw [Tracker.instance?_releaseAll] at hi
    by_cases hmem : i ∈ t.pending
    · rw [if_pos hmem] at hi
      obtain ⟨before, hbefore, rfl⟩ := Option.map_eq_some_iff.1 hi
      refine Or.inr ?_
      by_cases hs : before.state = .destroyed
      · rw [Instance.released, if_pos hs]
        exact h.bare hbefore hs
      · rw [Instance.released, if_neg hs]
        rfl
    · rw [if_neg hmem] at hi
      exact Or.inl ⟨hmem, hi⟩
  refine ⟨?_, ?_⟩
  · intro i inst hi hk
    rcases hcases hi with ⟨hmem, hbefore⟩ | hnone
    · rw [reaches_tracking]
      refine ((reaches_tracking i).1 (h.reached hbefore hk)).imp_right fun hrest => ?_
      rcases hrest with ⟨c, hc⟩ | htracker | htracker
      · refine Or.inl ⟨c, ?_⟩
        rw [Tracker.children_releaseAll, List.mem_filter]
        exact ⟨hc, by simp [hmem]⟩
      · exact Or.inr (Or.inl htracker)
      · refine Or.inr (Or.inr (List.mem_append_left _ ?_))
        exact (List.mem_append.1 htracker).resolve_right hmem
    · rw [hnone] at hk
      cases hk
  · intro i inst hi hs
    rcases hcases hi with ⟨-, hbefore⟩ | hnone
    · exact h.bare hbefore hs
    · exact hnone

theorem destroyAll (ids : List InstanceId) :
    (s.tracking factory (Tracker.destroyAll ids t).2 scene).IsSettled :=
  h.retrack fun _ => (Tracker.held_destroyAll ids t).2

theorem destroy (i : InstanceId) : (s.tracking factory (t.destroy i).2 scene).IsSettled :=
  h.destroyAll [i]

/-! ## Destroying and flushing -/

/-- To destroy in a session is to destroy in the tracker. -/
theorem perform_destroy (i : InstanceId) :
    (s.tracking factory t scene).perform (.destroy i) =
      (.flag (t.destroy i).1, s.tracking factory (t.destroy i).2 scene) :=
  Prod.ext rfl (h.destroy i).settle_eq

theorem perform_destroyAll (ids : List InstanceId) :
    (s.tracking factory t scene).perform (.destroyAll ids) =
      (.count (Tracker.destroyAll ids t).1,
        s.tracking factory (Tracker.destroyAll ids t).2 scene) :=
  Prod.ext rfl (h.destroyAll ids).settle_eq

/-- To flush in a session is to flush the tracker. -/
theorem perform_flush :
    (s.tracking factory t scene).perform (.flush []) =
      (.count (Tracker.releaseAll [] t.pending scene).1,
        s.tracking factory t.relieved (Tracker.releaseAll [] t.pending scene).2) :=
  Prod.ext rfl h.flush.settle_eq

theorem run_destroyAll_flush (ids : List InstanceId) :
    let destroyed := Tracker.destroyAll ids t
    let released := Tracker.releaseAll [] destroyed.2.pending scene
    run [.destroyAll ids, .flush []] (s.tracking factory t scene) =
      ([.count destroyed.1, .count released.1],
        s.tracking factory destroyed.2.relieved released.2) := by
  intro destroyed released
  simp only [run, h.perform_destroyAll, (h.destroyAll ids).perform_flush]
  rfl

/-- One by one, to destroy is what it is all at once. -/
theorem run_destroy (ids : List InstanceId) :
    let result := run (ids.map .destroy) (s.tracking factory t scene)
    (result.1.map Outcome.unregistered).sum = (Tracker.destroyAll ids t).1 ∧
      result.2 = s.tracking factory (Tracker.destroyAll ids t).2 scene := by
  induction ids generalizing t with
  | nil => exact ⟨rfl, rfl⟩
  | cons i rest ih =>
    obtain ⟨hsum, hend⟩ := ih (h.destroy i)
    simp only [List.map_cons, run, h.perform_destroy, List.sum_cons, hsum, hend,
      Tracker.destroyAll_cons]
    exact ⟨Nat.add_comm _ _, trivial⟩

/-- Flushes in between change neither the end nor the counts. -/
theorem run_steps (steps : List (Option InstanceId)) :
    let destroyed := Tracker.destroyAll steps.reduceOption t
    let released := Tracker.releaseAll [] destroyed.2.pending scene
    let result := run (steps.map .step ++ [.flush []]) (s.tracking factory t scene)
    (result.1.map Outcome.unregistered).sum = destroyed.1 ∧
      (result.1.map Outcome.released).sum = released.1 ∧
      result.2 = s.tracking factory destroyed.2.relieved released.2 := by
  -- on the steps, for every tracker and scene that they may begin with
  induction steps generalizing t scene with
  | nil =>
    intro destroyed released result
    have hresult : result = ([.count released.1], s.tracking factory t.relieved released.2) := by
      simp only [result, List.map_nil, List.nil_append, run, h.perform_flush]
      rfl
    rw [hresult]
    exact ⟨rfl, rfl, rfl⟩
  | cons step rest ih =>
    cases step with
    | some i =>
      obtain ⟨hsum, hreleased, hend⟩ := ih (h.destroy i)
      intro destroyed released result
      have hresult : result =
          (.flag (t.destroy i).1 ::
            (run (rest.map .step ++ [.flush []]) (s.tracking factory (t.destroy i).2 scene)).1,
            (run (rest.map .step ++ [.flush []])
              (s.tracking factory (t.destroy i).2 scene)).2) := by
        simp only [result, List.map_cons, List.cons_append, Operation.step, run, h.perform_destroy]
      rw [hresult]
      refine ⟨?_, ?_, hend⟩
      · rw [List.map_cons, List.sum_cons, hsum]
        exact Nat.add_comm _ _
      · rw [List.map_cons, List.sum_cons, hreleased]
        exact Nat.zero_add _
    | none =>
      obtain ⟨hsum, hreleased, hend⟩ := ih h.flush
      intro destroyed released result
      let middle := s.tracking factory t.relieved (Tracker.releaseAll [] t.pending scene).2
      have hresult : result =
          (.count (Tracker.releaseAll [] t.pending scene).1 ::
            (run (rest.map .step ++ [.flush []]) middle).1,
            (run (rest.map .step ++ [.flush []]) middle).2) := by
        simp only [result, List.map_cons, List.cons_append, Operation.step, run, h.perform_flush]
        rfl
      have hpending : destroyed.2.pending =
          t.pending ++ (Tracker.destroyAll rest.reduceOption t.relieved).2.pending :=
        Tracker.pending_destroyAll _ t
      have hparts := Tracker.releaseAll_append [] t.pending scene
        (Tracker.destroyAll rest.reduceOption t.relieved).2.pending
      rw [← hpending] at hparts
      rw [hresult]
      refine ⟨?_, ?_, ?_⟩
      · rw [List.map_cons, List.sum_cons, hsum, Tracker.fst_destroyAll]
        exact (Nat.zero_add _).trans (Tracker.fst_destroyAll _ t).symm
      · rw [List.map_cons, List.sum_cons, hreleased]
        exact (congrArg Prod.fst hparts).symm
      · refine hend.trans ?_
        rw [Tracker.relieved_destroyAll]
        exact congrArg (s.tracking factory _) (congrArg Prod.snd hparts).symm

end IsSettled

/-! ## Destruction in any order -/

/-- The order of destruction does not matter. Take a session that can be reached, in which
the factory is there and nobody else is at work on a container, and two lists of any numbers that
have the same members. To destroy all of the one and flush, or all of the other and flush:
* answers the same, first how many registered instances are among the members, then how many
  distinct ones that wait for release were not destroyed;
* leads to the same session but for the order in which things were let go: left are the
  registered instances that are not among the members, in the order in which they were, and
  nothing waits; released are exactly the instances that waited or are among the members and
  were registered, each with all that belongs to it; and of the children of every container
  exactly these are gone that were attached to it, while the others stay in their order;
* is to destroy them one by one and flush, with any flushes in between; and already before the
  flush it is to destroy them one by one. -/
theorem destruction_unordered (config : Config) (state : H.State) (ops : List (Operation H))
    {factory : Factory H} (hf : ((start config state).after ops).factory? = some factory)
    {ids ids' : List InstanceId} (hsame : ∀ i, i ∈ ids ↔ i ∈ ids') :
    let s := (start config state).after ops
    let scene := s.world.scene
    let known := factory.tracker.live.filter (· ∈ ids)
    let waiting := factory.tracker.pending ++ known
    let answers := [.count known.length, .count (scene.intactAmong waiting).length]
    let ended := s.after [.destroyAll ids, .flush []]
    let ended' := s.after [.destroyAll ids', .flush []]
    ((run [.destroyAll ids, .flush []] s).1 = answers ∧
        (run [.destroyAll ids', .flush []] s).1 = answers) ∧
      (ended' = ended.withScene ended'.world.scene ∧
        ended.world.scene.SameUpToOrder ended'.world.scene) ∧
      (∃ left : Factory H, ended.factory? = some left ∧
        left.tracker.live = factory.tracker.live.filter (· ∉ ids) ∧ left.tracker.pending = []) ∧
      (∀ i, ended.world.scene.instance? i =
        if i ∈ waiting then (scene.instance? i).map Instance.released else scene.instance? i) ∧
      ended.world.scene.releases.Perm
        (scene.releases ++ (scene.intactAmong waiting).flatMap scene.belongings) ∧
      (∀ c, ended.world.scene.children c =
        (scene.children c).filter fun i => !(decide (i ∈ waiting) && scene.isLinked i c)) ∧
      (∀ steps : List (Option InstanceId), steps.reduceOption = ids →
        let result := run (steps.map .step ++ [.flush []]) s
        result.2 = ended ∧ (result.1.map Outcome.unregistered).sum = known.length ∧
          (result.1.map Outcome.released).sum = (scene.intactAmong waiting).length) ∧
      ((run (ids.map .destroy) s).1.map Outcome.unregistered).sum = known.length ∧
      s.after (ids.map .destroy) = s.after [.destroyAll ids] := by
  intro s scene known waiting answers ended ended'
  let t := factory.tracker
  let final := fun ids => s.tracking factory (Tracker.destroyAll ids t).2.relieved
    (Tracker.releaseAll [] (Tracker.destroyAll ids t).2.pending scene).2
  have hself : s.tracking factory t scene = s := tracking_self hf
  have h : (s.tracking factory t scene).IsSettled := by
    rw [hself]
    exact isSettled_after config state ops
  have hrun : ∀ ids, run [.destroyAll ids, .flush []] s =
      ([.count (Tracker.destroyAll ids t).1,
        .count (Tracker.releaseAll [] (Tracker.destroyAll ids t).2.pending scene).1],
        final ids) := by
    intro ids
    rw [← hself]
    exact h.run_destroyAll_flush ids
  have hended : ended = final ids := congrArg Prod.snd (hrun ids)
  have hended' : ended' = final ids' := congrArg Prod.snd (hrun ids')
  -- for either list, what waits before the flush has the members of `waiting`
  have hwaiting : ∀ i, i ∈ (Tracker.destroyAll ids t).2.pending ↔ i ∈ waiting :=
    fun i => Tracker.mem_pending_destroyAll_iff ids t
  have hwaiting' : ∀ i, i ∈ (Tracker.destroyAll ids t).2.pending ↔
      i ∈ (Tracker.destroyAll ids' t).2.pending := by
    intro i
    rw [Tracker.mem_pending_destroyAll, Tracker.mem_pending_destroyAll, hsame]
  have hknown : (Tracker.destroyAll ids' t).1 = known.length := by
    rw [Tracker.fst_destroyAll]
    simp only [← hsame]
    rfl
  have hcount : (Tracker.releaseAll [] (Tracker.destroyAll ids t).2.pending scene).1 =
      (scene.intactAmong waiting).length := by
    rw [Tracker.fst_releaseAll]
    exact (scene.intactAmong_perm hwaiting).length_eq
  obtain ⟨hcount', halike⟩ := Tracker.sameUpToOrder_releaseAll scene hwaiting'
  refine ⟨⟨?_, ?_⟩, ⟨?_, ?_⟩, ⟨_, congrArg factory? hended, ?_, rfl⟩, ?_, ?_, ?_, ?_, ?_, ?_⟩
  · rw [hrun, hcount, Tracker.fst_destroyAll]
  · rw [hrun, ← hcount', hcount, hknown]
  · rw [hended, hended']
    simp only [final, t]
    rw [Tracker.relieved_destroyAll_congr factory.tracker hsame]
    rfl
  · rw [hended, hended']
    exact halike
  · exact Tracker.live_destroyAll ids t
  · intro i
    rw [hended]
    refine (Tracker.instance?_releaseAll _ scene i).trans ?_
    simp only [hwaiting]
  · rw [hended]
    refine (Tracker.releases_releaseAll _ scene).trans (List.Perm.append_left _ ?_)
    exact (scene.intactAmong_perm hwaiting).flatMap_right _
  · intro c
    rw [hended]
    refine (Tracker.children_releaseAll _ scene c).trans ?_
    simp only [hwaiting, Scene.leaves_nil]
  · rintro steps rfl
    have hsteps := h.run_steps steps
    rw [hself] at hsteps
    obtain ⟨hsum, hreleased, hend⟩ := hsteps
    refine ⟨hend.trans hended.symm, ?_, hreleased.trans hcount⟩
    exact hsum.trans (Tracker.fst_destroyAll _ _)
  · have hdestroy := h.run_destroy ids
    rw [hself] at hdestroy
    exact hdestroy.1.trans (Tracker.fst_destroyAll _ _)
  · have hdestroy := h.run_destroy ids
    have hall := h.perform_destroyAll ids
    rw [hself] at hdestroy hall
    exact hdestroy.2.trans (congrArg Prod.snd hall).symm

end Session

/-- A run in the studio: three labels that are tracked and one that is not, in one container. -/
def Studio.shelfRun : List (Operation studio) :=
  [.outside fun (s : Studio.State) => s.withScripted (s.scripted.add
      ⟨"/label", .ready, .visual, "", "Label", .empty, true, true, none, []⟩),
    .bind EngineName.scripted, .addContainer "shelf" none none,
    .create (some 1) "/label" .empty .empty .tracked,
    .create (some 1) "/label" .empty .empty .tracked,
    .create (some 1) "/label" .empty .empty .delegated,
    .create (some 1) "/label" .empty .empty .tracked]

namespace Session

/-- Of the four labels the first and the last are destroyed; the third is not tracked, and there
is no ninth. -/
theorem destruction_unordered_of_shelf :
    let s := (start Config.default (default : Studio.State)).after Studio.shelfRun
    s.factory?.isSome = true ∧ (∀ i, i ∈ [4, 9, 1, 3, 4] ↔ i ∈ [1, 3, 4, 9]) ∧
      (s.after [.destroyAll [4, 9, 1, 3, 4], .flush []]).world.scene.SameUpToOrder
        (s.after [.destroyAll [1, 3, 4, 9], .flush []]).world.scene ∧
      (s.after [.destroyAll [4, 9, 1, 3, 4], .flush []]).world.scene.children 1 = [2, 3] := by
  have hsome : ((start Config.default (default : Studio.State)).after
      Studio.shelfRun).factory?.isSome = true := by decide +kernel
  obtain ⟨factory, hf⟩ := Option.isSome_iff_exists.1 hsome
  have hsame : ∀ i, i ∈ [4, 9, 1, 3, 4] ↔ i ∈ [1, 3, 4, 9] := by
    intro i
    simp only [List.mem_cons, List.not_mem_nil, or_false]
    omega
  obtain ⟨-, ⟨-, halike⟩, -⟩ := destruction_unordered (H := studio) Config.default
    (default : Studio.State) Studio.shelfRun hf hsame
  exact ⟨hsome, hsame, halike, by decide +kernel⟩

end Session

end SceneFactory
