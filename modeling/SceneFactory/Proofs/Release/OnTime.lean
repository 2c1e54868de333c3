import SceneFactory.Proofs.Release.Steps

/-!
# Released once, and on time

What becomes of an instance that a factory handed out can be read off the trace of the
run alone. Main statement: `Session.released_once_on_time`. It rests on two invariants of
runs: the tracker and the scene agree with the ledger of the trace, and the books of what
was let go are in order.
-/

set_option autoImplicit false

namespace SceneFactory

variable {H : Host}

/-- The instances that are destroyed in a scene and were not in the scene before. -/
def Scene.newlyDestroyed {ε : Type} (before scene : Scene ε) : List InstanceId :=
  scene.instances.numbers.filter fun i =>
    scene.state? i = some .destroyed ∧ before.state? i ≠ some .destroyed

theorem Scene.nodup_newlyDestroyed {ε : Type} (before scene : Scene ε) :
    (before.newlyDestroyed scene).Nodup := by
  apply List.Nodup.filter
  exact List.nodup_range.map fun a b h => Nat.succ.inj h

namespace Session

variable {s : Session H} {trace : List (Event H)}

/-! ## Answers -/

/-- Destroy succeeds exactly for what is tracked and not yet unregistered. -/
theorem perform_destroy_iff (h : s.IsAccounted trace) (i : InstanceId) :
    (s.perform (.destroy i)).1 = .flag true ↔
      wasCreated trace .tracked i ∧ ¬wasUnregistered trace i := by
  have hlive : i ∈ s.registry.live ↔ _ := h.mem_live
  refine Iff.trans ?_ hlive
  change (s.atWork fun shop => (shop.destroy i).map .flag id).1 = .flag true ↔ _
  rw [atWork]
  cases hf : s.factory? with
  | none =>
    rw [s.registry_of_none hf]
    constructor
    · intro hanswer
      cases hanswer
    · intro hmem
      cases hmem
  | some factory =>
    rw [s.registry_of_some hf]
    change Outcome.flag (factory.tracker.destroy i).1 = .flag true ↔ i ∈ factory.tracker.live
    rw [Outcome.flag.injEq]
    exact factory.tracker.destroy_eq_true_iff i

theorem destroys_eq_true_iff (i : InstanceId) (e : Event H) :
    Event.destroys i e = true ↔ e = (.destroy i, .flag true) := by
  constructor
  · intro h
    simp only [Event.destroys] at h
    split at h
    · rw [of_decide_eq_true h]
    · cases h
  · rintro rfl
    simp [Event.destroys]

/-- While an instance is not unregistered no destroy of it has succeeded, and afterwards
one at most. -/
theorem countP_destroys (config : Config) (state : H.State) {ops : List (Operation H)}
    (hown : ∀ op ∈ ops, op.isOwnFlush = false) (i : InstanceId) :
    (¬wasUnregistered ((start config state).trace ops) i →
        ((start config state).trace ops).countP (Event.destroys i) = 0) ∧
      ((start config state).trace ops).countP (Event.destroys i) ≤ 1 := by
  induction ops using List.reverseRecOn with
  | nil => exact ⟨fun _ => rfl, Nat.zero_le 1⟩
  | append_singleton ops op ih =>
    have hbefore : ∀ other ∈ ops, other.isOwnFlush = false := fun other hmem =>
      hown other (List.mem_append_left _ hmem)
    obtain ⟨hzero, hone⟩ := ih hbefore
    have h := isAccounted_after config state hbefore
    rw [trace_concat, List.countP_append, List.countP_singleton]
    by_cases hd : Event.destroys i (op, (((start config state).after ops).perform op).1) = true
    · -- the destroy that succeeds is the first one
      obtain ⟨rfl, hanswer⟩ := Prod.mk.inj ((destroys_eq_true_iff i _).1 hd)
      obtain ⟨hc, hu⟩ := (perform_destroy_iff h i).1 hanswer
      rw [hzero hu, if_pos hd]
      refine ⟨?_, Nat.le_refl 1⟩
      intro hnot
      exfalso
      apply hnot
      rw [wasUnregistered_concat]
      exact Or.inr ⟨hc, decide_eq_true rfl⟩
    · rw [if_neg hd]
      refine ⟨?_, hone⟩
      intro hnot
      rw [wasUnregistered_concat, not_or] at hnot
      exact hzero hnot.1

/-- A flush destroys exactly what waits for it. -/
theorem mem_newlyDestroyed_flush (h : s.IsAccounted trace) {factory : Factory H}
    (hf : s.factory? = some factory) (busy : List ContainerId) (i : InstanceId) :
    i ∈ s.world.scene.newlyDestroyed (s.perform (.flush busy)).2.world.scene ↔
      i ∈ factory.tracker.pending := by
  let released := (Tracker.releaseAll busy factory.tracker.pending s.world.scene).2
  let after := (s.perform (.flush busy)).2.world.scene
  -- what is let go after the flush is destroyed no more than it was
  have hafter : released.Resembles (fun _ => False) after := by
    have hscene : (s.carryOut (.flush busy)).2.world.scene = released := by
      change (s.atWork fun shop => (shop.flush busy).map .count id).2.world.scene = released
      rw [atWork, hf]
      rfl
    rw [← hscene]
    exact (s.carryOut (.flush busy)).2.world.scene.resembles_foldl_forget fun _ _ hk => hk
  rw [Scene.newlyDestroyed, List.mem_filter, decide_eq_true_iff, hafter.destroyed i]
  constructor
  · rintro ⟨-, hdestroyed, hbefore⟩
    by_contra hnot
    rw [Scene.state?, Tracker.instance?_releaseAll_of_not_mem _ _ hnot] at hdestroyed
    exact hbefore hdestroyed
  · intro hi
    have hmem : i ∈ s.registry.pending := by
      rw [s.registry_of_some hf]
      exact hi
    obtain ⟨inst, hinst, hs, -⟩ := h.isWhole_of_mem_pending hmem
    have hsome : (s.world.scene.instance? i).isSome = true := by
      rw [hinst]
      rfl
    refine ⟨?_, Tracker.state?_releaseAll_of_mem _ _ hi hsome, ?_⟩
    · have hsome' : (after.instance? i).isSome = true := by
        rw [hafter.isSome, Tracker.isSome_releaseAll]
        exact hsome
      obtain ⟨inst', hinst'⟩ := Option.isSome_iff_exists.1 hsome'
      exact after.mem_numbers_of_instance? hinst'
    · rw [Scene.state?_of_instance? hinst]
      intro heq
      exact hs (Option.some.inj heq)

/-- A flush answers how many instances it destroyed. -/
theorem perform_flush_count (h : s.IsAccounted trace) {busy : List ContainerId} {n : Nat}
    (hn : (s.perform (.flush busy)).1 = .count n) :
    n = (s.world.scene.newlyDestroyed (s.perform (.flush busy)).2.world.scene).length := by
  change (s.atWork fun shop => (shop.flush busy).map .count id).1 = .count n at hn
  cases hf : s.factory? with
  | none =>
    rw [atWork, hf] at hn
    cases hn
  | some factory =>
    have hregistry := s.registry_of_some hf
    have hwhole : ∀ i ∈ factory.tracker.pending, s.world.scene.IsWhole i := by
      intro i hi
      rw [← hregistry] at hi
      exact h.isWhole_of_mem_pending hi
    have hnodup : factory.tracker.pending.Nodup := by
      rw [← hregistry]
      exact h.nodup_pending
    have hcount : n = factory.tracker.pending.length := by
      rw [atWork, hf] at hn
      cases hn
      exact (Tracker.releaseAll_of_isWhole _ s.world.scene hnodup hwhole).1
    rw [hcount]
    apply List.Perm.length_eq
    apply (List.perm_ext_iff_of_nodup hnodup (Scene.nodup_newlyDestroyed _ _)).2
    intro i
    exact (mem_newlyDestroyed_flush h hf busy i).symm

/-! ## The books at a safe point -/

end Session

/-- What an operation releases if it is a safe point. -/
def Operation.released (t : Tracker) : Operation H → List InstanceId
  | .teardown | .dropFactory => t.pending ++ t.live
  | _ => t.pending

namespace Session

variable {s : Session H} {trace : List (Event H)}

/-- A safe point begins by releasing what waits for it. -/
theorem moves_safePoint {factory : Factory H} (hf : s.factory? = some factory)
    {op : Operation H} (hop : op.isSafePoint = true) :
    ∃ busy, World.Moves
      (s.world.withScene (Tracker.releaseAll busy (op.released s.registry) s.world.scene).2)
      (s.perform op).2.world := by
  have hwork : ∀ work : Workshop H → Outcome H × Workshop H,
      (s.atWork work).2.world = (work ⟨factory, s.world⟩).2.world := by
    intro work
    rw [atWork, hf]
  rw [s.registry_of_some hf]
  suffices hcarried : ∃ busy, World.Moves (s.world.withScene
      (Tracker.releaseAll busy (op.released factory.tracker) s.world.scene).2)
      (s.carryOut op).2.world by
    obtain ⟨busy, hcarried⟩ := hcarried
    exact ⟨busy, hcarried.trans (s.carryOut op).2.changes_settle.moves⟩
  cases op with
  | flush busy =>
    refine ⟨busy, ?_⟩
    change World.Moves _ (s.atWork fun shop => (shop.flush busy).map .count id).2.world
    rw [hwork]
    exact Relation.ReflTransGen.refl
  | teardown =>
    refine ⟨[], ?_⟩
    change World.Moves _ (s.atWork fun shop => (.nothing, shop.teardown)).2.world
    rw [hwork]
    exact Relation.ReflTransGen.refl
  | dropFactory =>
    refine ⟨[], ?_⟩
    rw [carryOut, dropFactory, hf]
    exact Relation.ReflTransGen.refl
  | create container? identifier contextual direct ownership =>
    obtain ⟨ids, heq⟩ := s.carryOut_create container? identifier contextual direct ownership
    refine ⟨[], ?_⟩
    rw [heq]
    change World.Moves _ (s.atWork _).2.world
    rw [hwork]
    cases container? with
    | none => cases hop
    | some container =>
      exact (Workshop.changes_create ⟨factory, s.world⟩ container identifier contextual direct
        ownership).moves
  | createMany key values container? identifier base ownership =>
    obtain ⟨ids, heq⟩ :=
      s.carryOut_createMany key values container? identifier base ownership
    refine ⟨[], ?_⟩
    rw [heq]
    change World.Moves _ (s.atWork _).2.world
    rw [hwork]
    cases values with
    | nil => cases container? <;> cases hop
    | cons value rest =>
      cases container? with
      | none => cases hop
      | some container =>
        exact (Workshop.changes_createMany ⟨factory, s.world⟩ key (List.cons_ne_nil value rest)
          container identifier base ownership).moves
  | _ => cases hop

/-- What an operation releases is whole, and nothing of it twice. -/
theorem isWhole_of_mem_released (h : s.IsAccounted trace) (op : Operation H) :
    (op.released s.registry).Nodup ∧
      ∀ i ∈ op.released s.registry, s.world.scene.IsWhole i := by
  have hall := h.destroyEverything
  have hboth : (s.registry.pending ++ s.registry.live).Nodup ∧
      ∀ i ∈ s.registry.pending ++ s.registry.live, s.world.scene.IsWhole i :=
    ⟨hall.nodup_pending, fun i hi => hall.isWhole_of_mem_pending hi⟩
  cases op with
  | teardown => exact hboth
  | dropFactory => exact hboth
  | _ => exact ⟨h.nodup_pending, fun i hi => h.isWhole_of_mem_pending hi⟩

/-- What becomes due with an operation is among what the operation releases. -/
theorem mem_released_of_due (h : s.IsAccounted trace) {op : Operation H} {outcome : Outcome H}
    {i : InstanceId} (hnot : ¬wasDue trace i)
    (hu : wasUnregistered (trace ++ [(op, outcome)]) i) (hop : op.isSafePoint = true) :
    i ∈ op.released s.registry := by
  rw [wasUnregistered_concat] at hu
  by_cases hold : wasUnregistered trace i
  · have hmem : i ∈ s.registry.pending := h.mem_pending.2 ⟨hold, hnot⟩
    cases op with
    | teardown => exact List.mem_append_left _ hmem
    | dropFactory => exact List.mem_append_left _ hmem
    | _ => exact hmem
  · obtain ⟨hc, hnow⟩ := hu.resolve_left hold
    have hmem : i ∈ s.registry.live := h.mem_live.2 ⟨hc, hold⟩
    cases op with
    | teardown => exact List.mem_append_right _ hmem
    | dropFactory => exact List.mem_append_right _ hmem
    | destroy j => cases hop
    | destroyAll ids => cases hop
    | _ => cases hnow

/-- What becomes due with an operation is released by it: the object, and right after
it the object's context. -/
theorem releases_of_due (h : s.IsAccounted trace) {op : Operation H} {outcome : Outcome H}
    {i : InstanceId} (hnot : ¬wasDue trace i) (hdue : wasDue (trace ++ [(op, outcome)]) i) :
    op.isSafePoint = true ∧ ∃ inst o k, s.world.scene.instance? i = some inst ∧
      inst.state ≠ .destroyed ∧ inst.object? = some o ∧ inst.context? = some k ∧
      ∃ earlier others, (s.perform op).2.world.scene.releases =
        s.world.scene.releases ++ earlier ++ [.object k, .context k] ++ others := by
  rw [wasDue_concat] at hdue
  obtain ⟨hu, hop⟩ := hdue.resolve_left hnot
  refine ⟨hop, ?_⟩
  have hreleased := mem_released_of_due h hnot hu hop
  obtain ⟨factory, hf⟩ : ∃ factory, s.factory? = some factory := by
    cases hf : s.factory? with
    | some factory => exact ⟨factory, rfl⟩
    | none =>
      rw [s.registry_of_none hf] at hreleased
      cases op <;> cases hreleased
  obtain ⟨hnodup, hwhole⟩ := isWhole_of_mem_released h op
  obtain ⟨inst, o, k, hinst, hs, ho, hk, hbelongings⟩ := (hwhole i hreleased).belongings
  refine ⟨inst, o, k, hinst, hs, ho, hk, ?_⟩
  obtain ⟨front, back, hsplit⟩ := List.append_of_mem hreleased
  obtain ⟨busy, hmoves⟩ := moves_safePoint hf hop
  obtain ⟨others, hmore⟩ := hmoves.releases_grow
  refine ⟨front.flatMap s.world.scene.belongings,
    back.flatMap s.world.scene.belongings ++ others, ?_⟩
  rw [← hmore]
  change (Tracker.releaseAll busy _ s.world.scene).2.releases ++ others = _
  rw [(Tracker.releaseAll_of_isWhole _ s.world.scene hnodup hwhole).2, hsplit,
    List.flatMap_append, List.flatMap_cons, hbelongings]
  simp only [List.append_assoc]

/-! ## Runs -/

theorem moves_after (s : Session H) (ops : List (Operation H)) :
    World.Moves s.world (s.after ops).world := by
  induction ops generalizing s with
  | nil => exact Relation.ReflTransGen.refl
  | cons op ops ih => exact (s.moves_perform op).trans (ih (s.perform op).2)

/-- The books of a run are in order. -/
theorem isBooked_after (config : Config) (state : H.State) (ops : List (Operation H)) :
    ((start config state).after ops).world.scene.IsBooked
      ((start config state).after ops).world.contexts.newest :=
  (Scene.isBooked_empty _).moves ((start config state).moves_after ops)

/-- What is due became due with one operation. -/
theorem exists_due_step (s : Session H) {ops : List (Operation H)} {i : InstanceId}
    (hdue : wasDue (s.trace ops) i) :
    ∃ before op later, ops = before ++ op :: later ∧ ¬wasDue (s.trace before) i ∧
      wasDue (s.trace (before ++ [op])) i := by
  induction ops using List.reverseRecOn with
  | nil =>
    obtain ⟨before, e, later, h, -⟩ := hdue
    cases before <;> cases h
  | append_singleton ops op ih =>
    by_cases hbefore : wasDue (s.trace ops) i
    · obtain ⟨before, first, later, rfl, hnot, hdue⟩ := ih hbefore
      exact ⟨before, first, later ++ [op], by simp, hnot, hdue⟩
    · exact ⟨ops, op, [], rfl, hbefore, hdue⟩

/-- Instances are released exactly once, and on time. From a fresh session, in whatever
order instances are created, destroyed, detached, flushed and torn down, with others at work on
any containers during a detach or a flush, and whatever else the host does short of releasing
instances itself:

* an instance that was handed out is destroyed iff it was handed out as tracked, then
  unregistered, and then, or with it, came a safe point; a delegated one never is; and what
  was never handed out was destroyed at once;
* destroy succeeds for exactly what is tracked and not yet unregistered, at most once in
  the run;
* a flush answers how many instances it destroyed;
* the operation with which a tracked instance becomes due is a safe point. There the
  instance has its object and its context still, both are let go, the object first, and
  in the whole run they are let go once;
* live are those that are tracked and not unregistered, pending those that are
  unregistered and not due, each once. -/
theorem released_once_on_time (config : Config) (state : H.State) (ops : List (Operation H))
    (hown : ∀ op ∈ ops, op.isOwnFlush = false) :
    let fresh := start config state
    let scene := (fresh.after ops).world.scene
    let trace := fresh.trace ops
    (∀ i, wasCreated trace .tracked i ∨ wasCreated trace .delegated i →
        (scene.state? i = some .destroyed ↔ wasDue trace i)) ∧
      (∀ i, wasCreated trace .delegated i →
        (scene.instance? i).isSome = true ∧ scene.state? i ≠ some .destroyed) ∧
      (∀ i, (scene.instance? i).isSome = true → ¬wasCreated trace .tracked i →
        ¬wasCreated trace .delegated i → scene.state? i = some .destroyed) ∧
      (∀ before i later, ops = before ++ .destroy i :: later →
        (((fresh.after before).perform (.destroy i)).1 = .flag true ↔
          wasCreated (fresh.trace before) .tracked i ∧
            ¬wasUnregistered (fresh.trace before) i)) ∧
      (∀ i, trace.countP (Event.destroys i) ≤ 1) ∧
      (∀ before busy later n, ops = before ++ .flush busy :: later →
        ((fresh.after before).perform (.flush busy)).1 = .count n →
          n = ((fresh.after before).world.scene.newlyDestroyed
            (fresh.after (before ++ [.flush busy])).world.scene).length) ∧
      (∀ i, wasDue trace i → ∃ before op later, ops = before ++ op :: later ∧
        op.isSafePoint = true ∧ ¬wasDue (fresh.trace before) i ∧
        wasDue (fresh.trace (before ++ [op])) i ∧
        ∃ inst o k, (fresh.after before).world.scene.instance? i = some inst ∧
          inst.state ≠ .destroyed ∧ inst.object? = some o ∧ inst.context? = some k ∧
          (∃ earlier others, (fresh.after (before ++ [op])).world.scene.releases =
            (fresh.after before).world.scene.releases ++ earlier ++
              [.object k, .context k] ++ others) ∧
          scene.releases.count (.object k) = 1 ∧ scene.releases.count (.context k) = 1) ∧
      (∀ factory, (fresh.after ops).factory? = some factory →
        (∀ i, i ∈ factory.tracker.live ↔
          wasCreated trace .tracked i ∧ ¬wasUnregistered trace i) ∧
        (∀ i, i ∈ factory.tracker.pending ↔
          wasUnregistered trace i ∧ ¬wasDue trace i) ∧
        factory.tracker.live.Nodup ∧ factory.tracker.pending.Nodup) := by
  intro fresh scene trace
  have h : (fresh.after ops).IsAccounted trace := isAccounted_after config state hown
  -- the beginning of a run is a run
  have hbegin : ∀ {before later : List (Operation H)}, ops = before ++ later →
      (fresh.after before).IsAccounted (fresh.trace before) := by
    intro before later heq
    refine isAccounted_after config state fun op hmem => hown op ?_
    rw [heq]
    exact List.mem_append_left later hmem
  refine ⟨fun i => h.destroyed_iff, fun i => h.delegated, fun i => h.unclaimed, ?_, ?_, ?_, ?_, ?_⟩
  · intro before i later heq
    exact perform_destroy_iff (hbegin heq) i
  · intro i
    exact (countP_destroys config state hown i).2
  · intro before busy later n heq hn
    rw [after_concat]
    exact perform_flush_count (hbegin heq) hn
  · intro i hdue
    obtain ⟨before, op, later, heq, hnot, hnow⟩ := fresh.exists_due_step hdue
    have hstep := hnow
    rw [trace_concat] at hstep
    obtain ⟨hop, inst, o, k, hinst, hs, ho, hk, earlier, others, hreleases⟩ :=
      releases_of_due (hbegin heq) hnot hstep
    refine ⟨before, op, later, heq, hop, hnot, hnow, inst, o, k, hinst, hs, ho, hk, ?_⟩
    rw [← after_concat] at hreleases
    have hnodup := (isBooked_after config state ops).nodup
    have hkept : (fresh.after (before ++ [op])).world.scene.releases <+: scene.releases := by
      have hmoves := (fresh.after (before ++ [op])).moves_after later
      rw [← after_append, List.append_assoc, List.singleton_append, ← heq] at hmoves
      exact hmoves.releases_grow
    have hmem : ∀ r ∈ [Release.object k, .context k], r ∈ scene.releases := by
      intro r hr
      apply hkept.mem
      rw [hreleases]
      exact List.mem_append_left _ (List.mem_append_right _ hr)
    refine ⟨⟨earlier, others, hreleases⟩, ?_, ?_⟩
    · exact List.count_eq_one_of_mem hnodup (hmem _ List.mem_cons_self)
    · exact List.count_eq_one_of_mem hnodup (hmem _ (List.mem_cons_of_mem _ List.mem_cons_self))
  · intro factory hf
    rw [IsAccounted, registry_of_some _ hf] at h
    exact ⟨fun i => h.mem_live, fun i => h.mem_pending, factory.tracker.nodup_live,
      h.nodup_pending⟩

/-- In the run of labels the first is destroyed by the creation that comes after its
destroy, and of the three only its belongings are let go. -/
theorem released_once_of_labelRun :
    let fresh := start Config.default (default : Studio.State)
    let scene := (fresh.after Studio.labelRun).world.scene
    (∀ op ∈ Studio.labelRun, op.isOwnFlush = false) ∧ wasDue (fresh.trace Studio.labelRun) 1 ∧
      scene.releases = [.object 2, .context 2] ∧
      (∀ i, (fresh.trace Studio.labelRun).countP (Event.destroys i) ≤ 1) ∧
      (∀ i, wasCreated (fresh.trace Studio.labelRun) .delegated i →
        (scene.instance? i).isSome = true ∧ scene.state? i ≠ some .destroyed) := by
  have hown : ∀ op ∈ Studio.labelRun, op.isOwnFlush = false := by decide
  obtain ⟨hdestroyed, hdelegated, -, -, hcount, -⟩ :=
    released_once_on_time Config.default (default : Studio.State) Studio.labelRun hown
  refine ⟨hown, ?_, by decide +kernel, hcount, hdelegated⟩
  refine (hdestroyed 1 (Or.inl ?_)).1 (by decide +kernel)
  exact List.any_eq_true.1 (by decide +kernel)

end Session

end SceneFactory
