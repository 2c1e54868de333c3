import SceneFactory.Proofs.Lifetime.References

/-!
# How long objects and contexts live

The object of an instance lives exactly as long as the instance is not destroyed and someone
refers to it. The context that it was built in lives exactly as long as the object does, or as
the host holds the context (`Session.HoldsContext`), or as an instance lives that was built inside
the context (`Session.HousesInstance`). Nothing else keeps either of them, and the object always
goes first.

The host can give the context of an instance to a container. What is built in that container keeps
the context, even when the container is gone and the host holds nothing of it
(`Session.alive_of_tenantRun`).

Main statement: `Session.lifetimes`, about every instance that was ever handed out, in every
session that can be reached.
-/

set_option autoImplicit false

namespace SceneFactory

variable {H : Host}

/-! ## Chains -/

namespace Contexts

variable (cs : Contexts) {i j k p : ContextId}

theorem mem_chain_of_parent? (h : cs.parent? k = some p) : k ∈ cs.chain k := by
  rw [chain, h]
  dsimp only
  split <;> exact List.mem_cons_self

/-- A chain leads on through the parent, if it leads on. -/
theorem mem_chain_cases (hj : j ∈ cs.chain k) :
    j = k ∨ ∃ p, cs.parent? k = some p ∧ p < k ∧ j ∈ cs.chain p := by
  rw [chain] at hj
  split at hj
  · rename_i p hp
    split at hj
    · rename_i hlt
      exact (List.mem_cons.1 hj).imp_right fun hj => ⟨p, hp, hlt, hj⟩
    · exact Or.inl (List.mem_singleton.1 hj)
  · split at hj
    · exact Or.inl (List.mem_singleton.1 hj)
    · cases hj

theorem mem_chain_of_lt (h : cs.parent? k = some p) (hlt : p < k) (hj : j ∈ cs.chain p) :
    j ∈ cs.chain k := by
  rw [chain, h]
  dsimp only
  rw [dif_pos hlt]
  exact List.mem_cons_of_mem k hj

/-- Chains go on from each of their contexts. -/
theorem mem_chain_trans (hi : i ∈ cs.chain j) (hj : j ∈ cs.chain k) : i ∈ cs.chain k := by
  induction k using Nat.strongRecOn with
  | ind k ih =>
    rcases cs.mem_chain_cases hj with rfl | ⟨p, hp, hlt, hj⟩
    · exact hi
    · exact cs.mem_chain_of_lt hp hlt (ih p hlt hj)

end Contexts

/-! ## References to contexts -/

/-- The contexts that the containers have that are there. -/
theorem Scene.mem_givenContexts {engine : Type} (scene : Scene engine) (k : ContextId) :
    k ∈ (scene.containers.numbers.filterMap fun c =>
      (scene.container? c).bind Container.context?) ↔
        ∃ c container, scene.container? c = some container ∧ container.context? = some k := by
  rw [List.mem_filterMap]
  constructor
  · rintro ⟨c, -, hk⟩
    exact ⟨c, Option.bind_eq_some_iff.1 hk⟩
  · rintro ⟨c, container, hc, hk⟩
    refine ⟨c, (scene.containers.mem_numbers c).2 ⟨?_, scene.le_size_of_container? hc⟩,
      Option.bind_eq_some_iff.2 ⟨container, hc, hk⟩⟩
    rcases Nat.eq_zero_or_pos c with rfl | hpos
    · cases hc
    · exact hpos

namespace Session

variable {s : Session H} {k : ContextId}

/-- The host holds a context: by a reference to it or to a context inside it, or through a
container that is there and that it gave such a context to. -/
def HoldsContext (s : Session H) (k : ContextId) : Prop :=
  (∃ j ∈ s.heldContexts, k ∈ s.world.contexts.chain j) ∨
    ∃ c container j, s.world.scene.container? c = some container ∧
      container.context? = some j ∧ k ∈ s.world.contexts.chain j

/-- An instance whose object is there was built inside a context. -/
def HousesInstance (s : Session H) (k : ContextId) : Prop :=
  ∃ i inst j, s.world.scene.instance? i = some inst ∧ inst.object?.isSome = true ∧
    inst.context? = some j ∧ j ≠ k ∧ k ∈ s.world.contexts.chain j

theorem mem_contextReferences (s : Session H) (k : ContextId) :
    k ∈ s.contextReferences ↔ k ∈ s.heldContexts ∨
      (∃ f, s.factory? = some f ∧ k = f.rootContext) ∨
      (∃ c container, s.world.scene.container? c = some container ∧
        container.context? = some k) ∨
      ∃ i inst, s.world.scene.instance? i = some inst ∧ inst.context? = some k := by
  have hroot : k ∈ (s.factory?.elim [] fun f => [f.rootContext]) ↔
      ∃ f, s.factory? = some f ∧ k = f.rootContext := by
    cases s.factory? <;> simp
  have hinstances : k ∈ (s.world.scene.instances.numbers.filterMap fun i =>
      (s.world.scene.instance? i).bind Instance.context?) ↔
        ∃ i inst, s.world.scene.instance? i = some inst ∧ inst.context? = some k := by
    rw [List.mem_filterMap]
    constructor
    · rintro ⟨i, -, hk⟩
      exact ⟨i, Option.bind_eq_some_iff.1 hk⟩
    · rintro ⟨i, inst, hi, hk⟩
      exact ⟨i, s.world.scene.mem_numbers_of_instance? hi,
        Option.bind_eq_some_iff.2 ⟨inst, hi, hk⟩⟩
  rw [contextReferences, Scene.heldContexts, List.mem_append, List.mem_append, List.mem_append,
    hroot, s.world.scene.mem_givenContexts, hinstances, or_assoc]

theorem isContextAlive_iff (s : Session H) (k : ContextId) :
    s.isContextAlive k = true ↔ ∃ j ∈ s.contextReferences, k ∈ s.world.contexts.chain j := by
  rw [isContextAlive, Contexts.isHeldBy, List.any_eq_true]
  simp only [List.contains_iff_mem]

/-- No instance has the root context: the one that it has is inside another. -/
theorem IsTended.context_ne_root {root : ContextId} (h : s.IsTended root) {i : InstanceId}
    {inst : Instance} (hi : s.world.scene.instance? i = some inst)
    (hk : inst.context? = some k) : k ≠ root := by
  rintro rfl
  obtain ⟨-, p, hp, -⟩ := h.world.nested hi hk
  rw [h.world.parent?_root] at hp
  cases hp

/-- A context other than the root is alive iff an instance has it, the host holds it, or an instance
was built inside it. -/
theorem IsTended.isContextAlive_iff {root : ContextId} (h : s.IsTended root)
    (hsound : s.world.IsSound) (hk : k ≠ root) :
    s.isContextAlive k = true ↔
      (∃ i inst, s.world.scene.instance? i = some inst ∧ inst.object?.isSome = true ∧
        inst.context? = some k) ∨ s.HoldsContext k ∨ s.HousesInstance k := by
  rw [Session.isContextAlive_iff]
  constructor
  · rintro ⟨j, href, hkj⟩
    rcases (s.mem_contextReferences j).1 href with
      hj | ⟨f, hf, rfl⟩ | ⟨c, container, hc, hcontext⟩ | ⟨i, inst, hi, hcontext⟩
    · exact Or.inr (Or.inl (Or.inl ⟨j, hj, hkj⟩))
    · rw [h.rootContext f hf] at hkj
      rcases s.world.contexts.mem_chain_cases hkj with rfl | ⟨p, hp, -⟩
      · exact absurd rfl hk
      · rw [h.world.parent?_root] at hp
        cases hp
    · exact Or.inr (Or.inl (Or.inr ⟨c, container, j, hc, hcontext, hkj⟩))
    · obtain ⟨ho, -⟩ := (hsound hi).belongings hcontext
      by_cases hjk : j = k
      · subst hjk
        exact Or.inl ⟨i, inst, hi, ho, hcontext⟩
      · exact Or.inr (Or.inr ⟨i, inst, j, hi, ho, hcontext, hjk, hkj⟩)
  · rintro (⟨i, inst, hi, -, hcontext⟩ | (⟨j, hj, hkj⟩ | ⟨c, container, j, hc, hgiven, hkj⟩) |
      ⟨i, inst, j, hi, -, hcontext, -, hkj⟩)
    · obtain ⟨-, p, hp, -⟩ := h.world.nested hi hcontext
      exact ⟨k, (s.mem_contextReferences k).2 (Or.inr (Or.inr (Or.inr ⟨i, inst, hi, hcontext⟩))),
        s.world.contexts.mem_chain_of_parent? hp⟩
    · exact ⟨j, (s.mem_contextReferences j).2 (Or.inl hj), hkj⟩
    · exact ⟨j, (s.mem_contextReferences j).2 (Or.inr (Or.inr (Or.inl
        ⟨c, container, hc, hgiven⟩))), hkj⟩
    · exact ⟨j, (s.mem_contextReferences j).2 (Or.inr (Or.inr (Or.inr
        ⟨i, inst, hi, hcontext⟩))), hkj⟩

end Session

/-! ## What is handed out -/

namespace Workshop

variable (shop : Workshop H)

theorem isWhole_construct (handle : TemplateHandle H.Template) (container : ContainerId)
    (contextual direct : Attributes) (ownership : Ownership) :
    let result := shop.construct handle container contextual direct ownership
    ∀ i ∈ result.1.toOption.toList, result.2.world.scene.IsWhole i := by
  intro result i hi
  obtain ⟨-, hcases⟩ := shop.world.construct_cases handle container shop.factory.rootContext
    contextual direct
  revert hi
  simp only [result]
  rw [world_construct]
  have hanswer : (shop.construct handle container contextual direct ownership).1 =
      (shop.world.construct handle container shop.factory.rootContext contextual direct).1 := by
    rw [construct]
    split <;> rename_i heq <;> rw [heq]
  rw [hanswer]
  rcases hcases with ⟨e, lost, herror, -⟩ | ⟨o, -, herror, -⟩ | ⟨o, -, hok, hs⟩
  · rw [herror]
    exact fun hi => absurd hi List.not_mem_nil
  · rw [herror]
    exact fun hi => absurd hi List.not_mem_nil
  · rw [hok, hs]
    intro hi
    rw [List.mem_singleton.1 hi]
    exact shop.world.scene.isWhole_place handle.uri o _ container

theorem isWhole_constructEach (handle : TemplateHandle H.Template) (container : ContainerId)
    (key : String) (base : Attributes) (ownership : Ownership) (values : List Value) :
    let result := constructEach handle container key base ownership values shop
    ∀ i ∈ result.1, result.2.world.scene.IsWhole i := by
  induction values generalizing shop with
  | nil =>
    intro result i hi
    cases hi
  | cons value rest ih =>
    have hfirst := shop.isWhole_construct handle container .empty (base.merged key value) ownership
    intro result
    simp only [result, constructEach]
    generalize shop.construct handle container .empty (base.merged key value) ownership =
      made at hfirst
    obtain ⟨made, next⟩ := made
    cases made with
    | error e => exact ih next
    | ok i =>
      intro j hj
      rcases List.mem_cons.1 hj with rfl | hj
      · obtain ⟨inst, hinst, hwhole⟩ := hfirst j List.mem_cons_self
        exact ⟨inst, next.instance?_constructEach handle container key base ownership hinst rest,
          hwhole⟩
      · exact ih next j hj

theorem isWhole_create (container? : Option ContainerId) (identifier : String)
    (contextual direct : Attributes) (ownership : Ownership) :
    let result := shop.create container? identifier contextual direct ownership
    ∀ i ∈ result.1.toOption.toList, result.2.world.scene.IsWhole i := by
  intro result
  simp only [result, create]
  split
  · exact fun i hi => absurd hi List.not_mem_nil
  · split
    · exact fun i hi => absurd hi List.not_mem_nil
    · rename_i next _
      exact next.isWhole_construct _ _ contextual direct ownership

theorem isWhole_createMany (key : String) (values : List Value)
    (container? : Option ContainerId) (identifier : String) (base : Attributes)
    (ownership : Ownership) :
    let result := shop.createMany key values container? identifier base ownership
    ∀ i ∈ result.1, result.2.world.scene.IsWhole i := by
  intro result
  simp only [result, createMany]
  split
  · exact fun i hi => absurd hi List.not_mem_nil
  · split
    · exact fun i hi => absurd hi List.not_mem_nil
    · split
      · exact fun i hi => absurd hi List.not_mem_nil
      · rename_i next _
        exact next.isWhole_constructEach _ _ key base ownership values

end Workshop

theorem Event.mem_handedOut_of_creates {op : Operation H} {answer : Outcome H}
    {ownership : Ownership} {i : InstanceId} (h : Event.creates ownership i (op, answer) = true) :
    i ∈ answer.handedOut := by
  unfold creates at h
  split at h
  · rename_i j heq
    cases heq
    rw [(of_decide_eq_true h).2]
    exact List.mem_singleton_self j
  · rename_i ids heq
    cases heq
    exact (of_decide_eq_true h).2
  · cases h

namespace Session

variable (s : Session H)

theorem isWhole_atWork {work : Workshop H → Outcome H × Workshop H}
    (hwork : ∀ shop : Workshop H, ∀ i ∈ (work shop).1.handedOut,
      (work shop).2.world.scene.IsWhole i) :
    ∀ i ∈ (s.atWork work).1.handedOut, (s.atWork work).2.world.scene.IsWhole i := by
  rw [atWork]
  split
  · exact fun i hi => absurd hi List.not_mem_nil
  · exact hwork _

/-- An instance that is handed out has a context and its object, at the end of the operation
as well. -/
theorem built_of_creates {op : Operation H} {ownership : Ownership} {i : InstanceId}
    (h : Event.creates ownership i (op, (s.perform op).1) = true) :
    ∃ inst k, (s.perform op).2.world.scene.instance? i = some inst ∧
      inst.object?.isSome = true ∧ inst.context? = some k := by
  suffices hwhole : (s.carryOut op).2.world.scene.IsWhole i ∧
      i ∈ (s.carryOut op).2.heldInstances by
    obtain ⟨⟨inst, hi, -, ho, hk⟩, hheld⟩ := hwhole
    obtain ⟨k, hk⟩ := Option.isSome_iff_exists.1 hk
    refine ⟨inst, k, ?_, ho, hk⟩
    rcases (s.carryOut op).2.world.scene.instance?_forgetUnheld
      (s.carryOut op).2.instanceReferences hi with ⟨heq, -⟩ | ⟨-, hnot⟩
    · exact heq
    · exact absurd (Or.inl (List.mem_append_left _ (List.mem_append_left _ hheld))) hnot
  have hmem : i ∈ (s.carryOut op).1.handedOut := Event.mem_handedOut_of_creates h
  cases op with
  | create container? identifier contextual direct ownership' =>
    have heq := s.carryOut_create_handedOut container? identifier contextual direct ownership'
    dsimp only at heq
    rw [heq] at hmem ⊢
    refine ⟨s.isWhole_atWork (fun shop => ?_) i hmem, List.mem_append_right _ hmem⟩
    rw [Prod.map_fst, Outcome.handedOut_created]
    exact shop.isWhole_create container? identifier contextual direct ownership'
  | createMany key values container? identifier base ownership' =>
    have heq := s.carryOut_createMany_handedOut key values container? identifier base ownership'
    dsimp only at heq
    rw [heq] at hmem ⊢
    refine ⟨s.isWhole_atWork (fun shop => ?_) i hmem, List.mem_append_right _ hmem⟩
    exact shop.isWhole_createMany key values container? identifier base ownership'
  | _ => cases h

/-- What is in a trace was answered to one of the operations. -/
theorem exists_of_mem_trace {ops : List (Operation H)} {e : Event H} (h : e ∈ s.trace ops) :
    ∃ before op later, ops = before ++ op :: later ∧
      e = (op, ((s.after before).perform op).1) := by
  induction ops generalizing s with
  | nil => cases h
  | cons first rest ih =>
    rw [trace_cons] at h
    rcases List.mem_cons.1 h with rfl | h
    · exact ⟨[], first, rest, rfl, rfl⟩
    · obtain ⟨before, op, later, rfl, he⟩ := ih _ h
      exact ⟨first :: before, op, later, rfl, he⟩

/-- After a run, what nobody refers to has nothing left. -/
theorem reaches_after (config : Config) (state : H.State) (ops : List (Operation H))
    {i : InstanceId} {inst : Instance}
    (hi : ((start config state).after ops).world.scene.instance? i = some inst)
    (hk : inst.context?.isSome = true) : ((start config state).after ops).Reaches i := by
  rcases List.eq_nil_or_concat ops with rfl | ⟨before, op, rfl⟩
  · rw [show ((start config state).after []).world.scene.instance? i = none by cases i <;> rfl]
      at hi
    cases hi
  · rw [List.concat_eq_append, after_concat] at hi ⊢
    exact reaches_of_perform _ op hi hk

theorem isSound_after (config : Config) (state : H.State) (ops : List (Operation H)) :
    ((start config state).after ops).world.IsSound := by
  refine World.IsSound.moves ?_ ((start config state).moves_after ops)
  intro i inst hi
  rw [show (start config state).world.scene.instance? i = none by cases i <;> rfl] at hi
  cases hi

end Session

/-- What was let go once, together with what went right before it, never went before that. -/
theorem mem_of_infix_of_nodup {α : Type} {xs earlier later : List α} {a b : α} (hnodup : xs.Nodup)
    (hpair : [a, b] <:+: xs) (hsplit : xs = earlier ++ b :: later) : a ∈ earlier := by
  obtain ⟨front, back, rfl⟩ := hpair
  rw [show front ++ [a, b] ++ back = (front ++ [a]) ++ b :: back by simp] at hnodup hsplit
  rcases List.append_eq_append_iff.1 hsplit with ⟨more, rfl, -⟩ | ⟨more, hfront, hmore⟩
  · exact List.mem_append_left _ (List.mem_append_right _ List.mem_cons_self)
  · cases more with
    | nil =>
      rw [List.append_nil] at hfront
      rw [← hfront]
      exact List.mem_append_right _ List.mem_cons_self
    | cons c more =>
      cases hmore
      rw [hfront, List.nodup_append] at hnodup
      exact absurd rfl (hnodup.2.2 b (List.mem_append_right _ List.mem_cons_self) b
        List.mem_cons_self)

/-! ## Lifetimes -/

namespace Session

/-- How long objects and contexts live, in every session that can be reached while the host
takes references only to what someone refers to. An instance that was handed out was built in a
context of its own, and

* its object is there iff the instance is not destroyed and someone refers to it: the host, a
  container that is there, or a tracker, whether the instance is live or pending there. Then, and
  only then, the object has not been let go;
* the context is alive iff the object is there, the host holds the context, or another instance
  whose object is there was built inside the context;
* the context was not let go before the object. -/
theorem lifetimes (config : Config) (state : H.State) {ops : List (Operation H)}
    (hops : (start config state).Throughout (fun s op => op.NamesReached s) ops)
    {ownership : Ownership} {i : InstanceId}
    (hcreated : wasCreated ((start config state).trace ops) ownership i) :
    let fresh := start config state
    let s := fresh.after ops
    ∃ k inst,
      (∃ before op later, ops = before ++ op :: later ∧
        Event.creates ownership i (op, ((fresh.after before).perform op).1) = true ∧
        ((fresh.after (before ++ [op])).world.scene.instance? i).bind Instance.context? =
          some k) ∧
      s.world.scene.instance? i = some inst ∧
      (inst.object?.isSome = true ↔ inst.state ≠ .destroyed ∧ s.Reaches i) ∧
      (inst.object?.isSome = true ↔ Release.object k ∉ s.world.scene.releases) ∧
      (s.isContextAlive k = true ↔
        inst.object?.isSome = true ∨ s.HoldsContext k ∨ s.HousesInstance k) ∧
      ∀ earlier later, s.world.scene.releases = earlier ++ .context k :: later →
        Release.object k ∈ earlier := by
  intro fresh s
  obtain ⟨e, he, hcreates⟩ := hcreated
  obtain ⟨before, op, later, rfl, rfl⟩ := fresh.exists_of_mem_trace he
  have hbuilt := (fresh.after before).built_of_creates hcreates
  rw [← after_concat] at hbuilt
  obtain ⟨inst₀, k, hi₀, ho₀, hk₀⟩ := hbuilt
  have hbegun : (fresh.after (before ++ [op])).IsTended 1 := by
    have hbefore := hops
    rw [List.append_cons] at hbefore
    exact isTended_after config state hbefore.of_append
  have hk : k ≠ 1 := hbegun.context_ne_root hi₀ hk₀
  have hmoves := (fresh.after (before ++ [op])).moves_after later
  rw [← after_append, List.append_assoc, List.singleton_append] at hmoves
  obtain ⟨inst, hi, hnow⟩ := hmoves.keeps_or_lets_go
    (isSound_after config state (before ++ [op])) hi₀ hk₀
  have htended : s.IsTended 1 := isTended_after config state hops
  have hsound : s.world.IsSound := isSound_after config state _
  have hbooked : s.world.scene.IsBooked s.world.contexts.newest := isBooked_after config state _
  have hobject : inst.object?.isSome = true ↔ inst.context? = some k := by
    rw [(hsound hi).both]
    rcases hnow with hkept | ⟨hnone, -⟩
    · simp [hkept]
    · simp [hnone]
  have hreleased : inst.object?.isSome = true ↔ Release.object k ∉ s.world.scene.releases := by
    rw [hobject]
    constructor
    · intro hkept
      exact (hbooked.held hi hkept).2.1
    · intro hnot
      rcases hnow with hkept | ⟨-, hgone⟩
      · exact hkept
      · exact absurd (hgone.mem List.mem_cons_self) hnot
  refine ⟨k, inst, ⟨before, op, later, rfl, hcreates, ?_⟩, hi, ?_, hreleased, ?_, ?_⟩
  · rw [hi₀]
    exact hk₀
  · constructor
    · intro ho
      refine ⟨?_, reaches_after config state _ hi ((hsound hi).both ▸ ho)⟩
      intro hdestroyed
      rw [(hsound hi).destroyed hdestroyed] at ho
      cases ho
    · rintro ⟨hs, hreached⟩
      exact htended.world.kept hi ((s.reaches_iff i).1 hreached) hs
  · rw [htended.isContextAlive_iff hsound hk]
    refine or_congr ⟨?_, fun ho => ⟨i, inst, hi, ho, hobject.1 ho⟩⟩ Iff.rfl
    rintro ⟨j, other, hj, -, hjk⟩
    -- no other instance has this context, whether or not this one has it still
    rcases hnow with hkept | ⟨-, hgone⟩
    · exact hobject.2 hkept
    · have hmem : Release.context k ∈ s.world.scene.releases :=
        hgone.mem (List.mem_cons_of_mem _ List.mem_cons_self)
      exact absurd hmem (hbooked.held hj hjk).2.2
  · intro earlier rest hsplit
    rcases hnow with hkept | ⟨-, hgone⟩
    · refine absurd ?_ (hbooked.held hi hkept).2.2
      rw [hsplit]
      exact List.mem_append_right _ List.mem_cons_self
    · exact mem_of_infix_of_nodup hbooked.nodup hgone hsplit

end Session

/-- A run in the studio: the host keeps the context of a label, and lets go of the label and of
its container. -/
def Studio.keepsakeRun : List (Operation studio) :=
  [.outside fun (s : Studio.State) => s.withScripted (s.scripted.add
      ⟨"/label", .ready, .visual, "", "Label", .empty, true, true, none, []⟩),
    .bind EngineName.scripted, .addContainer "root" none none,
    .create (some 1) "/label" .empty .empty .delegated, .holdContext 1, .dropInstance 1,
    .dropContainer 1]

/-- The label is gone and its context is not, as the host holds it. -/
theorem Session.lifetimes_of_keepsakeRun :
    let s := (start (H := studio) Config.default (default : Studio.State)).after
      Studio.keepsakeRun
    ¬s.Reaches 1 ∧
      ∃ k inst, s.world.scene.instance? 1 = some inst ∧ inst.object? = none ∧
        inst.state = .attached ∧ Release.object k ∈ s.world.scene.releases ∧
        k ∈ s.heldContexts ∧ s.isContextAlive k = true := by
  intro s
  have hops : (start (H := studio) Config.default (default : Studio.State)).Throughout
      (fun t op => op.NamesReached t) Studio.keepsakeRun :=
    ⟨trivial, trivial, trivial, trivial, trivial, trivial, trivial, trivial⟩
  have hcreated : wasCreated ((start (H := studio) Config.default
      (default : Studio.State)).trace Studio.keepsakeRun) .delegated 1 :=
    List.any_eq_true.1 (by decide +kernel)
  have hfacts : (s.world.scene.instance? 1).map (fun inst => (inst.object?.isSome, inst.state)) =
      some (false, .attached) ∧ s.world.scene.releases = [.object 2, .context 2] ∧
        s.heldContexts = [2] ∧ s.world.contexts.parent? 2 = some 1 := by
    decide +kernel
  obtain ⟨hstate, hreleases, hheld, hparent⟩ := hfacts
  obtain ⟨k, inst, -, hi, hobject, hreleased, halive, -⟩ := lifetimes (H := studio)
    Config.default (default : Studio.State) hops hcreated
  rw [show s.world.scene.instance? 1 = some inst from hi, Option.map_some] at hstate
  obtain ⟨hgone, hattached⟩ := Prod.mk.inj (Option.some.inj hstate)
  have hnot : ¬inst.object?.isSome = true := by simp [hgone]
  have hmem : Release.object k ∈ s.world.scene.releases :=
    Decidable.not_not.1 fun h => hnot (hreleased.2 h)
  have hk : k = 2 := by
    rw [hreleases] at hmem
    simpa using hmem
  subst hk
  refine ⟨fun hreached => hnot (hobject.2 ⟨?_, hreached⟩), 2, inst, hi, ?_, hattached,
    hmem, ?_, halive.2 (Or.inr (Or.inl (Or.inl ⟨2, ?_, ?_⟩)))⟩
  · rw [hattached]
    intro hs
    cases hs
  · exact Option.not_isSome_iff_eq_none.1 hnot
  · rw [hheld]
    exact List.mem_cons_self
  · rw [show _ = [2] from hheld]
    exact List.mem_cons_self
  · exact s.world.contexts.mem_chain_of_parent? hparent

/-- A run in the studio: the context of a label goes to a container, in which another label is
built. The host lets go of everything but the container of the first label, and the factory
destroys the first label. -/
def Studio.tenantRun : List (Operation studio) :=
  [.outside fun (s : Studio.State) => s.withScripted (s.scripted.add
      ⟨"/label", .ready, .visual, "", "Label", .empty, true, true, none, []⟩),
    .bind EngineName.scripted, .addContainer "root" none none,
    .create (some 1) "/label" .empty .empty .tracked, .holdContext 1,
    .addContainer "inner" (some 2) none, .create (some 2) "/label" .empty .empty .tracked,
    .dropContext 2, .dropInstance 1, .dropInstance 2, .dropContainer 2, .destroy 1, .flush []]

/-- The first label is destroyed, the host holds nothing of its context, and the context is alive:
the second label was built inside it. -/
theorem Session.alive_of_tenantRun :
    let fresh := start (H := studio) Config.default (default : Studio.State)
    let s := fresh.after Studio.tenantRun
    ((fresh.after (Studio.tenantRun.take 4)).world.scene.instance? 1).bind Instance.context? =
        some 2 ∧
      (s.world.scene.instance? 1).map Instance.state = some .destroyed ∧
      Release.object 2 ∈ s.world.scene.releases ∧ ¬s.HoldsContext 2 ∧
      s.isContextAlive 2 = true := by
  intro fresh s
  have hfacts : (s.world.scene.instance? 1).map Instance.state = some .destroyed ∧
      Release.object 2 ∈ s.world.scene.releases ∧ s.heldContexts = [] ∧
      (s.world.scene.containers.numbers.filterMap fun c =>
        (s.world.scene.container? c).bind Container.context?) = [] ∧
      s.isContextAlive 2 = true := by
    decide +kernel
  obtain ⟨hdestroyed, hreleased, hheld, hgiven, halive⟩ := hfacts
  refine ⟨by decide +kernel, hdestroyed, hreleased, ?_, halive⟩
  rintro (⟨j, hj, -⟩ | ⟨c, container, j, hc, hcontext, -⟩)
  · rw [hheld] at hj
    cases hj
  · have hmem := (s.world.scene.mem_givenContexts j).2 ⟨c, container, hc, hcontext⟩
    rw [hgiven] at hmem
    cases hmem

end SceneFactory
