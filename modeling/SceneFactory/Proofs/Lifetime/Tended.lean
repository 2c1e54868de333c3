import SceneFactory.Proofs.Lifetime.Belongings

/-!
# What someone refers to is there

In a tended world (`World.IsTended`) an instance that someone refers to has its object until it
is destroyed, and the context of an instance is made inside the root context or inside one that
was given to a container.

What an operation does to a world is one step (`World.Advances`): contexts are made, an instance
that was there becomes what it can become, and whoever is referred to afterwards was referred to
before or is new. Main statement: such a step keeps a world tended (`IsTended.advance`), and so
does forgetting what nobody refers to (`IsTended.settle`).
-/

set_option autoImplicit false

namespace SceneFactory

variable {H : Host}

/-! ## Contexts -/

namespace Contexts

variable {cs cs' cs'' : Contexts}

/-- Contexts may have been made, and nothing has happened to the parents of the others. -/
structure Extends (cs cs' : Contexts) : Prop where
  newest_le : cs.newest ≤ cs'.newest
  parent? : ∀ {k : ContextId}, k ≤ cs.newest → cs'.parent? k = cs.parent? k

namespace Extends

theorem refl (cs : Contexts) : cs.Extends cs := ⟨Nat.le_refl _, fun _ => rfl⟩

theorem trans (h : cs.Extends cs') (h' : cs'.Extends cs'') : cs.Extends cs'' where
  newest_le := Nat.le_trans h.newest_le h'.newest_le
  parent? hk := (h'.parent? (Nat.le_trans hk h.newest_le)).trans (h.parent? hk)

end Extends

variable (cs)

theorem extends_add (parent : Option ContextId) : cs.Extends (cs.add parent) where
  newest_le := by
    rw [newest_add]
    exact Nat.le_succ _
  parent? hk := by
    rw [parent?_add, if_neg (Nat.ne_of_lt (Nat.lt_succ_of_le hk))]

theorem extends_set (k : ContextId) (name : String) (value : Value) :
    cs.Extends (cs.set k name value) where
  newest_le := Nat.le_of_eq (cs.newest_set k name value).symm
  parent? _ := cs.parent?_set k _ name value

theorem extends_setAll (k : ContextId) (attributes : Attributes) :
    cs.Extends (cs.setAll k attributes) where
  newest_le := Nat.le_of_eq (cs.newest_setAll k attributes).symm
  parent? _ := cs.parent?_setAll k _ attributes

end Contexts

/-! ## Scenes -/

namespace Scene

variable {ε : Type}

/-- An instance is one of those referred to, or a child of a container. -/
def IsReached (scene : Scene ε) (referred : List InstanceId) (i : InstanceId) : Prop :=
  i ∈ referred ∨ ∃ c, i ∈ scene.children c

/-- A container, which may be gone, was given a context. -/
def Gave (scene : Scene ε) (k : ContextId) : Prop :=
  ∃ c container, scene.containers.get? c = some container ∧ container.context? = some k

variable (scene : Scene ε) {i : InstanceId} {c : ContainerId} {k : ContextId}

theorem mem_children_of_mem_detachChild {d : ContainerId} {j : InstanceId}
    (h : i ∈ (scene.detachChild d j).2.children c) : i ∈ scene.children c := by
  rw [children_detachChild] at h
  split at h
  · exact List.mem_of_mem_filter h
  · exact h

/-- To detach is to take out of a list, if anything. -/
theorem mem_children_of_mem_detach {j : InstanceId} {access : Access}
    (h : i ∈ (scene.detach j access).2.children c) : i ∈ scene.children c := by
  rw [detach] at h
  split at h
  · exact h
  · split at h
    · dsimp only at h
      split at h
      · exact h
      · split at h
        · cases access with
          | free =>
            have h := mem_children_of_mem_detachChild _ h
            exact h
          | busy => exact h
        · exact h
    · exact h

/-- To attach is to put into a list, if anything. -/
theorem mem_children_attachChild {d : ContainerId} {j : InstanceId}
    (h : i ∈ (scene.attachChild d j).children c) : i = j ∨ i ∈ scene.children c := by
  rw [attachChild, children_modifyChildren] at h
  split at h
  · split at h
    · exact Or.inr h
    · exact (List.mem_append.1 h).symm.imp_left List.mem_singleton.1
  · exact Or.inr h

theorem mem_children_attach {d : ContainerId} {j : InstanceId}
    (h : i ∈ (scene.attach j d).children c) : i = j ∨ i ∈ scene.children c := by
  rw [attach] at h
  split at h
  · exact mem_children_attachChild _ h
  · exact Or.inr h

/-- Changing a container leaves the contexts that were given, if the change does. -/
theorem gave_modify {scene' : Scene ε} {d : ContainerId} {f : Container ε → Container ε}
    (hcontainers : scene'.containers = scene.containers.modify d f)
    (hf : ∀ container, (f container).context? = container.context?) (h : scene.Gave k) :
    scene'.Gave k := by
  obtain ⟨c, container, hc, hk⟩ := h
  rw [Gave, hcontainers]
  by_cases hdc : d = c
  · refine ⟨c, f container, ?_, (hf container).trans hk⟩
    rw [Numbered.get?_modify, if_pos hdc, hc, Option.map_some]
  · refine ⟨c, container, ?_, hk⟩
    rw [Numbered.get?_modify, if_neg hdc]
    exact hc

theorem gave_modifyChildren {d : ContainerId} {f : List InstanceId → List InstanceId}
    (h : scene.Gave k) : (scene.modifyChildren d f).Gave k :=
  scene.gave_modify rfl (fun _ => rfl) h

theorem gave_detach {j : InstanceId} {access : Access} (h : scene.Gave k) :
    (scene.detach j access).2.Gave k := by
  rw [detach]
  split
  · exact h
  · split
    · dsimp only
      split
      · exact h
      · split
        · cases access with
          | free => exact gave_modifyChildren (scene.modifyInstance j Instance.asDetached) h
          | busy => exact h
        · exact h
    · exact h

theorem gave_release {j : InstanceId} (h : scene.Gave k) : (scene.release j).2.Gave k := by
  rw [release]
  split
  · exact h
  · split <;> exact h

theorem gave_attach {j : InstanceId} {d : ContainerId} (h : scene.Gave k) :
    (scene.attach j d).Gave k := by
  rw [attach]
  split
  · exact gave_modifyChildren _ h
  · exact h

theorem gave_addContainer {name : String} {context? : Option ContextId} {engine? : Option ε}
    (h : scene.Gave k) : (scene.addContainer name context? engine?).2.Gave k := by
  obtain ⟨c, container, hc, hk⟩ := h
  refine ⟨c, container, ?_, hk⟩
  change (scene.containers.push _).get? c = _
  rw [Numbered.get?_push, if_neg]
  · exact hc
  · rintro rfl
    have hnone : scene.containers.get? scene.containers.next = none :=
      (scene.containers.get?_eq_none_iff _).2 (Or.inr (Nat.lt_succ_self _))
    rw [hnone] at hc
    cases hc

/-- A container that lives was given its context. -/
theorem gave_of_container? {d : ContainerId}
    (h : (scene.container? d).bind Container.context? = some k) : scene.Gave k := by
  obtain ⟨container, hd, hk⟩ := Option.bind_eq_some_iff.1 h
  obtain ⟨hd, -⟩ := Option.filter_eq_some_iff.1 hd
  exact ⟨d, container, hd, hk⟩

/-! ### What is forgotten -/

theorem instance?_foldl_forget (ids : List InstanceId) (i : InstanceId) :
    (ids.foldl forget scene).instance? i =
      if i ∈ ids then (scene.instance? i).map Instance.asForgotten else scene.instance? i := by
  induction ids generalizing scene with
  | nil => rfl
  | cons j rest ih =>
    rw [List.foldl_cons, ih, instance?_forget]
    by_cases hji : j = i
    · subst hji
      cases scene.instance? j with
      | none => simp
      | some inst => by_cases hrest : j ∈ rest <;> simp [hrest, Instance.asForgotten]
    · simp [hji, Ne.symm hji]

/-- Exactly what nobody refers to is forgotten. -/
theorem instance?_forgetUnheld (referred : List InstanceId) {inst : Instance}
    (hi : scene.instance? i = some inst) :
    (scene.forgetUnheld referred).instance? i = some inst ∧
        (scene.IsReached referred i ∨ inst.context? = none) ∨
      (scene.forgetUnheld referred).instance? i = some inst.asForgotten ∧
        ¬scene.IsReached referred i := by
  have hreached : i ∈ referred ++ scene.allChildren ↔ scene.IsReached referred i := by
    rw [List.mem_append, IsReached]
    refine or_congr Iff.rfl ⟨?_, fun ⟨c, hc⟩ => scene.mem_allChildren hc⟩
    intro hmem
    obtain ⟨c, -, hc⟩ := List.mem_flatMap.1 hmem
    exact ⟨c, hc⟩
  rw [forgetUnheld, instance?_foldl_forget, hi]
  by_cases hmem : i ∈ scene.livingInstances.filter fun j => j ∉ referred ++ scene.allChildren
  · rw [if_pos hmem]
    refine Or.inr ⟨rfl, ?_⟩
    rw [← hreached]
    simpa using (List.mem_filter.1 hmem).2
  · rw [if_neg hmem]
    refine Or.inl ⟨rfl, ?_⟩
    by_cases hr : scene.IsReached referred i
    · exact Or.inl hr
    · refine Or.inr (Option.not_isSome_iff_eq_none.1 fun hk => hmem ?_)
      refine List.mem_filter.2 ⟨List.mem_filter.2 ⟨scene.mem_numbers_of_instance? hi, ?_⟩, ?_⟩
      · rw [hi]
        exact hk
      · rw [← hreached] at hr
        simpa using hr

/-- What has a context after what nobody refers to was forgotten is as it was, and it is
referred to. -/
theorem instance?_of_forgetUnheld {referred : List InstanceId} {inst : Instance}
    (hi : (scene.forgetUnheld referred).instance? i = some inst) :
    scene.instance? i = some inst ∧ (scene.IsReached referred i ∨ inst.context? = none) ∨
      inst.context? = none ∧ ¬scene.IsReached referred i := by
  cases hbefore : scene.instance? i with
  | none =>
    rw [forgetUnheld, instance?_foldl_forget, hbefore] at hi
    split at hi <;> cases hi
  | some before =>
    rcases scene.instance?_forgetUnheld referred hbefore with
      ⟨heq, hreached⟩ | ⟨heq, hnot⟩
    · cases heq.symm.trans hi
      exact Or.inl ⟨rfl, hreached⟩
    · cases heq.symm.trans hi
      exact Or.inr ⟨rfl, hnot⟩

@[simp] theorem containers_forgetUnheld (referred : List InstanceId) :
    (scene.forgetUnheld referred).containers = scene.containers := by
  rw [forgetUnheld]
  generalize scene.livingInstances.filter _ = ids
  induction ids generalizing scene with
  | nil => rfl
  | cons i rest ih =>
    rw [List.foldl_cons, ih, forget]
    split <;> rfl

/-- To forget is to leave the lists of children alone. -/
@[simp] theorem isReached_forgetUnheld (held referred : List InstanceId) :
    (scene.forgetUnheld held).IsReached referred i ↔ scene.IsReached referred i := by
  simp only [IsReached, children, container?, containers_forgetUnheld]

end Scene

/-! ## Tended worlds -/

namespace World

variable {w w' : World H} {root : ContextId} {referred referred' : List InstanceId}

/-- A context was made inside the root context, or inside one that was given to a container. -/
def IsNested (w : World H) (root k : ContextId) : Prop :=
  k ≤ w.contexts.newest ∧
    ∃ p, w.contexts.parent? k = some p ∧ (p = root ∨ w.scene.Gave p)

/-- Nothing that is referred to was let go before it was destroyed, and the contexts of the
instances are in their places. -/
structure IsTended (w : World H) (root : ContextId) (referred : List InstanceId) : Prop where
  root_le : root ≤ w.contexts.newest
  parent?_root : w.contexts.parent? root = none
  kept : ∀ {i : InstanceId} {inst : Instance}, w.scene.instance? i = some inst →
    w.scene.IsReached referred i → inst.state ≠ .destroyed → inst.object?.isSome = true
  nested : ∀ {i : InstanceId} {inst : Instance} {k : ContextId},
    w.scene.instance? i = some inst → inst.context? = some k → w.IsNested root k

/-- One step of a world with the references to its instances: nothing that is there is forgotten,
and no reference comes from nowhere. -/
structure Advances (root : ContextId) (w : World H) (referred : List InstanceId) (w' : World H)
    (referred' : List InstanceId) : Prop where
  contexts : w.contexts.Extends w'.contexts
  gave : ∀ {k : ContextId}, w.scene.Gave k → w'.scene.Gave k
  /-- An instance that was not there before comes with its object, or destroyed. -/
  instances : ∀ {i : InstanceId} {inst' : Instance}, w'.scene.instance? i = some inst' →
    (∃ inst, w.scene.instance? i = some inst ∧ inst.Becomes inst') ∨
      (inst'.state ≠ .destroyed → inst'.object?.isSome = true) ∧
        ∀ k, inst'.context? = some k → w'.IsNested root k
  reached : ∀ {i : InstanceId}, w'.scene.IsReached referred' i →
    w.scene.IsReached referred i ∨ w.scene.instance? i = none

theorem IsNested.advance {k : ContextId} (h : w.IsNested root k)
    (hcontexts : w.contexts.Extends w'.contexts)
    (hgave : ∀ {k : ContextId}, w.scene.Gave k → w'.scene.Gave k) : w'.IsNested root k := by
  obtain ⟨hk, p, hp, hplace⟩ := h
  exact ⟨Nat.le_trans hk hcontexts.newest_le, p, (hcontexts.parent? hk).trans hp,
    hplace.imp_right hgave⟩

namespace IsTended

variable (h : w.IsTended root referred)

include h

/-- A step keeps a world tended. -/
theorem advance (ha : Advances root w referred w' referred') : w'.IsTended root referred' where
  root_le := Nat.le_trans h.root_le ha.contexts.newest_le
  parent?_root := (ha.contexts.parent? h.root_le).trans h.parent?_root
  kept := by
    intro i inst' hi' hreached hs
    rcases ha.instances hi' with ⟨inst, hi, hb⟩ | ⟨hwhole, -⟩
    · rcases ha.reached hreached with hold | hnew
      · exact hb.isSome_object hs (h.kept hi hold (hb.state_ne hs))
      · rw [hi] at hnew
        cases hnew
    · exact hwhole hs
  nested := by
    intro i inst' k hi' hk
    rcases ha.instances hi' with ⟨inst, hi, hb⟩ | ⟨-, hnested⟩
    · exact (h.nested hi (hb.context?_of_some hk)).advance ha.contexts ha.gave
    · exact hnested k hk

/-- The scene is as it was; references come and go. -/
theorem aside (hcontexts : w.contexts.Extends w'.contexts) (hscene : w'.scene = w.scene)
    (hreferred : ∀ i ∈ referred', w.scene.IsReached referred i) :
    w'.IsTended root referred' := by
  refine h.advance ⟨hcontexts, ?_, ?_, ?_⟩
  · rw [hscene]
    exact id
  · intro i inst hi
    rw [hscene] at hi
    exact Or.inl ⟨inst, hi, .same inst⟩
  · intro i hreached
    rw [hscene] at hreached
    exact Or.inl (hreached.elim (hreferred i) Or.inr)

/-- Who is referred to need not be referred to any more. -/
theorem mono (hreferred : ∀ i ∈ referred', i ∈ referred) : w.IsTended root referred' :=
  h.aside (.refl _) rfl fun i hi => Or.inl (hreferred i hi)

/-- Instances become what they can become, and only who was reached is a child. -/
theorem withScene {scene' : Scene H.Engine}
    (hgave : ∀ {k : ContextId}, w.scene.Gave k → scene'.Gave k)
    (hinstances : ∀ {i : InstanceId} {inst' : Instance}, scene'.instance? i = some inst' →
      ∃ inst, w.scene.instance? i = some inst ∧ inst.Becomes inst')
    (hchildren : ∀ {c : ContainerId} {i : InstanceId}, i ∈ scene'.children c →
      w.scene.IsReached referred i) :
    (w.withScene scene').IsTended root referred := by
  refine h.advance ⟨.refl _, hgave, fun hi => Or.inl (hinstances hi), ?_⟩
  rintro i (hi | ⟨c, hi⟩)
  · exact Or.inl (Or.inl hi)
  · exact Or.inl (hchildren hi)

theorem detach (i : InstanceId) (access : Access) :
    (w.withScene (w.scene.detach i access).2).IsTended root referred := by
  refine h.withScene w.scene.gave_detach ?_ ?_
  · intro j inst' hj'
    cases hj : w.scene.instance? j with
    | none =>
      rw [Scene.instance?_detach, hj] at hj'
      split at hj' <;> cases hj'
    | some inst =>
      obtain ⟨after, hafter, hb, -⟩ := Scene.becomes_detach (i := i) access hj
      cases hafter.symm.trans hj'
      exact ⟨inst, rfl, hb⟩
  · intro c j hj
    exact Or.inr ⟨c, w.scene.mem_children_of_mem_detach hj⟩

theorem dismiss (busy : List ContainerId) (i : InstanceId) :
    (w.withScene (w.scene.dismiss busy i).2).IsTended root referred := by
  let access := w.scene.accessTo busy i
  refine h.withScene (fun hk => Scene.gave_release _ (w.scene.gave_detach hk)) ?_ ?_
  · intro j inst' hj'
    cases hj : w.scene.instance? j with
    | none =>
      have hsome := Tracker.isSome_releaseOne w.scene access i j
      rw [show ((w.scene.detach i access).2.release i).2.instance? j = _ from hj', hj] at hsome
      cases hsome
    | some inst =>
      obtain ⟨after, hafter, hb, -⟩ := Scene.becomes_releaseOne (i := i) access hj
      cases hafter.symm.trans hj'
      exact ⟨inst, rfl, hb⟩
  · intro c j hj
    rw [Scene.dismiss, Scene.children_release] at hj
    exact Or.inr ⟨c, w.scene.mem_children_of_mem_detach hj⟩

/-- Instances may be released one after the other. -/
theorem releaseAll (busy : List ContainerId) (ids : List InstanceId) :
    (w.withScene (Tracker.releaseAll busy ids w.scene).2).IsTended root referred := by
  induction ids generalizing w with
  | nil => exact h
  | cons i rest ih => exact ih (h.dismiss busy i)

/-- Who is reached may be made a child. -/
theorem attachChild (c : ContainerId) {i : InstanceId} (hi : w.scene.IsReached referred i) :
    (w.withScene (w.scene.attachChild c i)).IsTended root referred := by
  refine h.withScene w.scene.gave_modifyChildren (fun hj => ⟨_, hj, .same _⟩) ?_
  intro d j hj
  rcases w.scene.mem_children_attachChild hj with rfl | hj
  · exact hi
  · exact Or.inr ⟨d, hj⟩

theorem detachChild (c : ContainerId) (i : InstanceId) :
    (w.withScene (w.scene.detachChild c i).2).IsTended root referred := by
  refine h.withScene w.scene.gave_modifyChildren (fun hj => ⟨_, hj, .same _⟩) ?_
  intro d j hj
  exact Or.inr ⟨d, w.scene.mem_children_of_mem_detachChild hj⟩

theorem addContainer (name : String) (context? : Option ContextId) (engine? : Option H.Engine) :
    (w.withScene (w.scene.addContainer name context? engine?).2).IsTended root referred := by
  refine h.withScene w.scene.gave_addContainer (fun hj => ⟨_, hj, .same _⟩) ?_
  intro d j hj
  rw [Scene.children, Scene.container?_addContainer] at hj
  split at hj
  · rename_i container hd
    split at hd
    · cases hd
      cases hj
    · exact Or.inr ⟨d, by rw [Scene.children_of_container? _ hd]; exact hj⟩
  · cases hj

theorem dropContainer (c : ContainerId) :
    (w.withScene (w.scene.dropContainer c)).IsTended root referred := by
  refine h.withScene (w.scene.gave_modify rfl fun _ => rfl) (fun hj => ⟨_, hj, .same _⟩) ?_
  intro d j hj
  rw [Scene.children, Scene.container?_dropContainer] at hj
  split at hj
  · rename_i container hd
    split at hd
    · cases hd
    · exact Or.inr ⟨d, by rw [Scene.children_of_container? _ hd]; exact hj⟩
  · cases hj

/-- A failed construction leaves a context and nothing else that is there. -/
theorem abandon {lost : List Release} (hcontexts : w.contexts.Extends w'.contexts)
    (habandons : w.scene.Abandons w'.scene lost) : w'.IsTended root referred := by
  refine h.advance ⟨hcontexts, ?_, ?_, ?_⟩
  · rintro k ⟨c, container, hc, hk⟩
    exact ⟨c, container, habandons.containers ▸ hc, hk⟩
  · intro i inst hi
    by_cases hle : i ≤ w.scene.instances.size
    · rw [habandons.old hle] at hi
      exact Or.inl ⟨inst, hi, .same inst⟩
    · rw [habandons.new (Nat.lt_of_not_le hle) hi]
      refine Or.inr ⟨fun hs => absurd rfl hs, ?_⟩
      intro k hk
      cases hk
  · intro i hreached
    refine Or.inl (hreached.imp_right ?_)
    rintro ⟨c, hi⟩
    refine ⟨c, ?_⟩
    rw [Scene.children, Scene.container?] at hi ⊢
    rw [← habandons.containers]
    exact hi

/-- A fresh instance in a fresh context may be placed and referred to. -/
theorem place (uri : String) (o : SceneObject) (c : ContainerId) {k : ContextId}
    (hcontexts : w.contexts.Extends w'.contexts)
    (hscene : w'.scene = (w.scene.addInstance uri o k).2.attach w.scene.instances.next c)
    (hnested : w'.IsNested root k) :
    w'.IsTended root (w.scene.instances.next :: referred) := by
  refine h.advance ⟨hcontexts, ?_, ?_, ?_⟩
  · intro k hk
    rw [hscene]
    exact Scene.gave_attach _ hk
  · intro i inst hi
    by_cases hnext : i = w.scene.instances.next
    · rw [hscene, hnext, w.scene.instance?_place_self] at hi
      cases hi
      rw [Scene.seated]
      refine Or.inr ⟨?_, ?_⟩
      · intro _
        split <;> rfl
      · intro k' hk'
        have heq : some k = some k' := by
          split at hk' <;> exact hk'
        cases heq
        exact hnested
    · rw [hscene, w.scene.instance?_place_of_ne uri o k c hnext] at hi
      exact Or.inl ⟨inst, hi, .same inst⟩
  · have hnew := w.scene.instance?_next
    rintro i (hi | ⟨d, hi⟩)
    · rcases List.mem_cons.1 hi with rfl | hi
      · exact Or.inr hnew
      · exact Or.inl (Or.inl hi)
    · rw [hscene] at hi
      rcases Scene.mem_children_attach _ hi with rfl | hi
      · exact Or.inr hnew
      · exact Or.inl (Or.inr ⟨d, hi⟩)

/-- What comes of a construction may be referred to. -/
theorem construct (handle : TemplateHandle H.Template) (container : ContainerId)
    (contextual direct : Attributes) :
    let result := w.construct handle container root contextual direct
    result.2.IsTended root (result.1.toOption.toList ++ referred) := by
  intro result
  obtain ⟨hcontexts, hcases⟩ := w.construct_cases handle container root contextual direct
  have hextends : w.contexts.Extends result.2.contexts := by
    rw [show result.2.contexts = _ from hcontexts]
    exact (w.contexts.extends_add _).trans (Contexts.extends_setAll _ _ _)
  rcases hcases with ⟨e, lost, herror, -, hs⟩ | ⟨o, -, herror, hs⟩ | ⟨o, -, hok, hs⟩
  · rw [show result.1 = _ from herror]
    have habandons := w.scene.abandons_recordReleases lost
    rw [← hs] at habandons
    exact h.abandon hextends habandons
  · rw [show result.1 = _ from herror]
    have habandons := w.scene.abandons_release_addInstance handle.uri o (w.contexts.newest + 1)
    rw [← hs] at habandons
    exact h.abandon hextends habandons
  · rw [show result.1 = _ from hok]
    refine h.place handle.uri o container hextends hs ?_
    -- the context of the construction is made in the container's, or else in the root
    refine ⟨?_, w.outerContext container root, ?_, ?_⟩
    · rw [show result.2.contexts = _ from hcontexts, newest_enter]
    · rw [show result.2.contexts = _ from hcontexts]
      refine (Contexts.parent?_setAll _ _ _ _).trans ?_
      rw [Contexts.parent?_add, if_pos rfl]
    · rw [outerContext]
      cases houter : (w.scene.container? container).bind Container.context? with
      | none => exact Or.inl rfl
      | some p =>
        refine Or.inr ?_
        rw [hs]
        exact Scene.gave_attach _ (w.scene.gave_of_container? houter)

/-- What nobody refers to may be forgotten. -/
theorem settle : (w.withScene (w.scene.forgetUnheld referred)).IsTended root referred := by
  have hgave : ∀ {k : ContextId}, w.scene.Gave k → (w.scene.forgetUnheld referred).Gave k := by
    intro k hk
    rw [Scene.Gave, Scene.containers_forgetUnheld]
    exact hk
  refine ⟨h.root_le, h.parent?_root, ?_, ?_⟩
  · intro i inst hi hreached hs
    replace hreached := (w.scene.isReached_forgetUnheld referred referred).1 hreached
    rcases w.scene.instance?_of_forgetUnheld hi with ⟨hi, -⟩ | ⟨-, hnot⟩
    · exact h.kept hi hreached hs
    · exact absurd hreached hnot
  · intro i inst k hi hk
    rcases w.scene.instance?_of_forgetUnheld hi with ⟨hi, -⟩ | ⟨hnone, -⟩
    · exact (h.nested hi hk).advance (.refl _) hgave
    · rw [hnone] at hk
      cases hk

end IsTended

end World

end SceneFactory
