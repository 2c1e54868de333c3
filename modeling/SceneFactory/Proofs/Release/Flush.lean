import Mathlib.Data.List.Dedup
import SceneFactory.Proofs.Release.Accounts

/-!
# What a flush does, whatever waits for it

A tracker may have an instance waiting twice, or one that was released before, or one that
was never there. What a flush does is a matter of which instances wait, and of neither their
order nor how often each of them waits.

Main statements: the views of a scene after the release of a list of instances
(`Tracker.instance?_releaseAll`, `Tracker.get?_containers_releaseAll`,
`Tracker.fst_releaseAll`, `Tracker.releases_releaseAll`); two lists with the same members
are released to the same end, up to the order in which things are let go
(`Tracker.sameUpToOrder_releaseAll`); and what waits after instances were destroyed one
after the other (`Tracker.mem_pending_destroyAll`).
-/

set_option autoImplicit false

namespace SceneFactory

/-- Stores in which the same is found under every number are the same. -/
theorem Numbered.eq_of_get? {α : Type} {s t : Numbered α} (h : ∀ n, s.get? n = t.get? n) :
    s = t := by
  obtain ⟨records⟩ := s
  obtain ⟨records'⟩ := t
  congr 1
  exact Array.ext_getElem? fun i => h (i + 1)

/-- The instance once it was detached and released. -/
def Instance.released (inst : Instance) : Instance :=
  if inst.state = .destroyed then inst else inst.asDestroyed

/-- The container with some of its children only. -/
def Container.keeping {ε : Type} (container : Container ε) (kept : InstanceId → Bool) :
    Container ε :=
  ⟨container.name, container.context?, container.engine?, container.children.filter kept,
    container.isLive⟩

@[simp] theorem Container.keeping_all {ε : Type} (container : Container ε) :
    container.keeping (fun _ => true) = container := by
  simp [keeping]

namespace Scene

variable {ε : Type} (scene : Scene ε)

/-! ## Instances that can still be released -/

/-- Whether an instance is there and not destroyed. -/
def isIntact (i : InstanceId) : Bool :=
  (scene.instance? i).any fun inst => inst.state ≠ .destroyed

/-- Whether an instance is attached to a container. -/
def isLinked (i : InstanceId) (c : ContainerId) : Bool :=
  (scene.instance? i).any fun inst => inst.state = .attached && inst.parent? = some c

/-- Whether an instance that is dismissed while others are at work on some containers leaves the
list of a container, as long as that exists. -/
def leaves (busy : List ContainerId) (i : InstanceId) (c : ContainerId) : Bool :=
  scene.isLinked i c && decide (c ∉ busy)

theorem leaves_iff (busy : List ContainerId) (i : InstanceId) (c : ContainerId) :
    scene.leaves busy i c = true ↔ scene.isLinked i c = true ∧ c ∉ busy := by
  rw [leaves, Bool.and_eq_true, decide_eq_true_iff]

@[simp] theorem leaves_nil (i : InstanceId) (c : ContainerId) :
    scene.leaves [] i c = scene.isLinked i c := by
  simp [leaves]

/-- Those of some instances that can still be released, each once. -/
def intactAmong (ids : List InstanceId) : List InstanceId := ids.dedup.filter scene.isIntact

theorem nodup_intactAmong (ids : List InstanceId) : (scene.intactAmong ids).Nodup :=
  ids.nodup_dedup.filter _

theorem mem_intactAmong {ids : List InstanceId} {i : InstanceId} :
    i ∈ scene.intactAmong ids ↔ i ∈ ids ∧ scene.isIntact i = true := by
  rw [intactAmong, List.mem_filter, List.mem_dedup]

/-- Lists with the same members have the same instances to release. -/
theorem intactAmong_perm {ids ids' : List InstanceId} (h : ∀ i, i ∈ ids ↔ i ∈ ids') :
    (scene.intactAmong ids).Perm (scene.intactAmong ids') := by
  refine (List.perm_ext_iff_of_nodup (scene.nodup_intactAmong _) (scene.nodup_intactAmong _)).2 ?_
  intro i
  rw [mem_intactAmong, mem_intactAmong, h]

/-! ## Dismissing one instance -/

section Dismiss

variable {busy : List ContainerId}

theorem instance?_dismiss (i j : InstanceId) :
    (scene.dismiss busy i).2.instance? j =
      if i = j then (scene.instance? j).map Instance.released else scene.instance? j := by
  rw [dismiss, instance?_release, instance?_detach]
  by_cases hij : i = j
  · rw [if_pos hij, if_pos hij, if_pos hij, Option.map_map]
    congr 1
    funext inst
    -- a detached instance is not destroyed, and destroying it forgets that it was detached
    by_cases hs : inst.state = .attached
    · simp [Instance.released, Instance.asDetached, Instance.asDestroyed, hs]
    · simp [Instance.released, hs]
  · rw [if_neg hij, if_neg hij, if_neg hij]

/-- An instance is released if it can be. -/
theorem fst_dismiss (i : InstanceId) : (scene.dismiss busy i).1 = scene.isIntact i := by
  rw [Bool.eq_iff_iff, dismiss, release_eq_true_iff, instance?_detach, if_pos rfl, isIntact]
  cases scene.instance? i with
  | none => simp
  | some inst => by_cases hs : inst.state = .attached <;> simp [hs, Instance.asDetached]

theorem releases_dismiss (i : InstanceId) :
    (scene.dismiss busy i).2.releases =
      scene.releases ++ if scene.isIntact i then scene.belongings i else [] := by
  rw [dismiss, releases_release, releases_detach, instance?_detach, if_pos rfl, isIntact,
    Scene.belongings]
  cases scene.instance? i with
  | none => simp
  | some inst =>
    by_cases hs : inst.state = .attached
    · simp [hs, Instance.asDetached, Instance.belongings]
    · by_cases hd : inst.state = .destroyed <;> simp [hs, hd]

theorem isLinked_iff (i : InstanceId) (c : ContainerId) :
    scene.isLinked i c = true ↔ ∃ inst, scene.instance? i = some inst ∧
      inst.state = .attached ∧ inst.parent? = some c := by
  rw [isLinked, Option.any_eq_true]
  simp

/-- What is found of the container that an instance is attached to. -/
theorem accessTo_of_isLinked {i : InstanceId} {c : ContainerId}
    (h : scene.isLinked i c = true) :
    scene.accessTo busy i = if c ∈ busy then .busy else .free := by
  obtain ⟨inst, hi, -, hp⟩ := (scene.isLinked_iff i c).1 h
  rw [accessTo, hi, Option.bind_some, hp]

/-- An instance that is attached to no container that it could leave leaves none. -/
theorem containers_detach_of_staying (i : InstanceId)
    (h : ∀ c, scene.isLinked i c = true → c ∉ busy → scene.container? c = none) :
    (scene.detach i (scene.accessTo busy i)).2.containers = scene.containers := by
  rw [detach]
  cases hi : scene.instance? i with
  | none => rfl
  | some inst =>
    by_cases hs : inst.state = .attached
    · simp only [hs, if_true]
      cases hp : inst.parent? with
      | none => rfl
      | some c =>
        have hlinked := (scene.isLinked_iff i c).2 ⟨inst, hi, hs, hp⟩
        by_cases hbusy : c ∈ busy
        · rw [scene.accessTo_of_isLinked hlinked, if_pos hbusy]
          dsimp only
          split <;> rfl
        · simp only [h c hlinked hbusy, Option.isSome_none, Bool.false_eq_true, if_false]
          rfl
    · simp only [hs, if_false]

/-- A dismissed instance leaves the list of the container that it is attached to, as long
as that exists and nobody else is at work on it. -/
theorem get?_containers_dismiss (i : InstanceId) (c : ContainerId) :
    (scene.dismiss busy i).2.containers.get? c =
      (scene.containers.get? c).map fun container =>
        if container.isLive then
          container.keeping fun j => !(decide (j = i) && scene.leaves busy i c)
        else container := by
  have hrelease : (scene.dismiss busy i).2.containers =
      (scene.detach i (scene.accessTo busy i)).2.containers := by
    rw [dismiss, release]
    split
    · rfl
    · split <;> rfl
  rw [hrelease]
  by_cases h : ∀ d, scene.isLinked i d = true → d ∉ busy → scene.container? d = none
  · rw [scene.containers_detach_of_staying i h]
    cases hc : scene.containers.get? c with
    | none => rfl
    | some container =>
      cases hl : container.isLive with
      | false => simp [hl]
      | true =>
        have hnot : scene.leaves busy i c = false := by
          refine Bool.eq_false_iff.2 fun hleaves => ?_
          obtain ⟨hlinked, hfree⟩ := (scene.leaves_iff busy i c).1 hleaves
          have hdead := h c hlinked hfree
          simp [container?, hc, hl, Option.filter] at hdead
        simp [hnot]
  · simp only [not_forall] at h
    obtain ⟨d, hlinked, hfree, hthere⟩ := h
    have hleaves : scene.leaves busy i d = true := (scene.leaves_iff busy i d).2 ⟨hlinked, hfree⟩
    obtain ⟨inst, hi, hs, hp⟩ := (scene.isLinked_iff i d).1 hlinked
    rw [scene.accessTo_of_isLinked hlinked, if_neg hfree,
      scene.detach_free_of_attached i hi hs hp (Option.isSome_iff_ne_none.2 hthere)]
    refine (scene.containers.get?_modify d c _).trans ?_
    by_cases hdc : d = c
    · subst hdc
      rw [if_pos rfl]
      cases hc : scene.containers.get? d with
      | none => rfl
      | some container =>
        have hl : container.isLive = true := by
          by_contra hl
          simp [container?, hc, hl, Option.filter] at hthere
        simp [hl, hleaves, Container.keeping]
    · rw [if_neg hdc]
      have hnot : scene.leaves busy i c = false := by
        refine Bool.eq_false_iff.2 fun hother => ?_
        obtain ⟨inst', hi', -, hp'⟩ :=
          (scene.isLinked_iff i c).1 ((scene.leaves_iff busy i c).1 hother).1
        cases hi.symm.trans hi'
        exact hdc (Option.some.inj (hp.symm.trans hp'))
      simp [hnot]

theorem isIntact_dismiss (i j : InstanceId) :
    (scene.dismiss busy i).2.isIntact j = (decide (j ≠ i) && scene.isIntact j) := by
  rw [isIntact, instance?_dismiss, isIntact]
  by_cases hij : i = j
  · rw [if_pos hij]
    cases scene.instance? j with
    | none => simp
    | some inst =>
      by_cases hd : inst.state = .destroyed <;>
        simp [Instance.released, hd, Instance.asDestroyed, hij]
  · simp [if_neg hij, Ne.symm hij]

theorem isLinked_dismiss (i j : InstanceId) (c : ContainerId) :
    (scene.dismiss busy i).2.isLinked j c = (decide (j ≠ i) && scene.isLinked j c) := by
  rw [isLinked, instance?_dismiss, isLinked]
  by_cases hij : i = j
  · rw [if_pos hij]
    cases scene.instance? j with
    | none => simp
    | some inst =>
      by_cases hd : inst.state = .destroyed <;>
        simp [Instance.released, hd, Instance.asDestroyed, hij]
  · simp [if_neg hij, Ne.symm hij]

/-- What can be released after an instance was dismissed could be before, and the instance
itself cannot. -/
theorem intactAmong_cons_perm (busy : List ContainerId) (i : InstanceId) (rest : List InstanceId) :
    (scene.intactAmong (i :: rest)).Perm
      ((if scene.isIntact i then [i] else []) ++ (scene.dismiss busy i).2.intactAmong rest) := by
  have hnot : i ∉ (scene.dismiss busy i).2.intactAmong rest := by
    rw [mem_intactAmong, isIntact_dismiss]
    simp
  refine (List.perm_ext_iff_of_nodup (scene.nodup_intactAmong _) ?_).2 ?_
  · split
    · exact List.nodup_cons.2 ⟨hnot, nodup_intactAmong _ _⟩
    · exact nodup_intactAmong _ _
  · intro j
    rw [List.mem_append, mem_intactAmong, mem_intactAmong, isIntact_dismiss, List.mem_cons]
    by_cases hij : j = i
    · subst hij
      by_cases hs : scene.isIntact j = true <;> simp [hs]
    · by_cases hs : scene.isIntact i = true <;> simp [hs, hij]

end Dismiss

/-! ## Scenes that are the same -/

/-- Two scenes have the same instances and the same containers, and the same was let go in
both, in one order or another. -/
structure SameUpToOrder (scene scene' : Scene ε) : Prop where
  instances : scene'.instances = scene.instances
  containers : scene'.containers = scene.containers
  releases : scene'.releases.Perm scene.releases

end Scene

/-! ## Releasing one after the other -/

namespace Tracker

open Scene

variable {ε : Type} {busy : List ContainerId} (ids : List InstanceId) (scene : Scene ε)

theorem releaseAll_cons (i : InstanceId) :
    releaseAll busy (i :: ids) scene =
      ((releaseAll busy ids (scene.dismiss busy i).2).1 + (scene.dismiss busy i).1.toNat,
        (releaseAll busy ids (scene.dismiss busy i).2).2) := rfl

/-- A list may be released in two parts. -/
theorem releaseAll_append (busy : List ContainerId) (ids : List InstanceId) (scene : Scene ε)
    (more : List InstanceId) :
    releaseAll busy (ids ++ more) scene =
      ((releaseAll busy ids scene).1 + (releaseAll busy more (releaseAll busy ids scene).2).1,
        (releaseAll busy more (releaseAll busy ids scene).2).2) := by
  induction ids generalizing scene with
  | nil => simp [releaseAll]
  | cons i rest ih =>
    rw [List.cons_append, releaseAll_cons, releaseAll_cons, ih]
    refine Prod.ext ?_ rfl
    dsimp only
    omega

/-- Exactly the instances of the list are released. -/
theorem instance?_releaseAll (j : InstanceId) :
    (releaseAll busy ids scene).2.instance? j =
      if j ∈ ids then (scene.instance? j).map Instance.released else scene.instance? j := by
  induction ids generalizing scene with
  | nil => rfl
  | cons i rest ih =>
    rw [releaseAll_cons, ih, instance?_dismiss]
    by_cases hij : i = j
    · subst hij
      have htwice : ∀ inst : Instance, inst.released.released = inst.released := by
        intro inst
        by_cases hd : inst.state = .destroyed <;>
          simp [Instance.released, hd, Instance.asDestroyed]
      by_cases hrest : i ∈ rest
      · simp [hrest, Option.map_map, Function.comp_def, htwice]
      · simp [hrest]
    · simp [hij, Ne.symm hij]

/-- The instances of the list leave the containers that they are attached to, the others
stay there in their order, and no other container changes. -/
theorem get?_containers_releaseAll (c : ContainerId) :
    (releaseAll busy ids scene).2.containers.get? c =
      (scene.containers.get? c).map fun container =>
        if container.isLive then
          container.keeping fun j => !(decide (j ∈ ids) && scene.leaves busy j c)
        else container := by
  induction ids generalizing scene with
  | nil => simp [releaseAll]
  | cons i rest ih =>
    rw [releaseAll_cons, ih, get?_containers_dismiss, Option.map_map]
    congr 1
    funext container
    cases hl : container.isLive with
    | false => simp [hl]
    | true =>
      simp only [Function.comp_def, hl, if_true, Container.keeping, List.filter_filter, leaves,
        isLinked_dismiss]
      congr 1
      apply List.filter_congr
      intro j _
      by_cases hij : j = i
      · subst hij
        simp
      · simp [hij]

/-- The children of a container are those that were not released while attached to it; all of
them, if others are at work on it. -/
theorem children_releaseAll (c : ContainerId) :
    (releaseAll busy ids scene).2.children c =
      (scene.children c).filter fun j => !(decide (j ∈ ids) && scene.leaves busy j c) := by
  rw [children, container?, get?_containers_releaseAll, children, container?]
  cases scene.containers.get? c with
  | none => rfl
  | some container =>
    cases hl : container.isLive with
    | false => simp [hl, Option.filter]
    | true => simp [hl, Option.filter, Container.keeping]

/-- A release answers how many distinct instances could be released. -/
theorem fst_releaseAll : (releaseAll busy ids scene).1 = (scene.intactAmong ids).length := by
  -- the rest of the list is released in the scene that the first one leaves behind
  induction ids generalizing scene with
  | nil => rfl
  | cons i rest ih =>
    rw [releaseAll_cons, ih, (scene.intactAmong_cons_perm busy i rest).length_eq,
      List.length_append, fst_dismiss]
    cases scene.isIntact i with
    | false => exact (Nat.zero_add _).symm
    | true => exact Nat.add_comm _ 1

/-- Let go is what belongs to the instances that could be released. -/
theorem releases_releaseAll :
    (releaseAll busy ids scene).2.releases.Perm
      (scene.releases ++ (scene.intactAmong ids).flatMap scene.belongings) := by
  induction ids generalizing scene with
  | nil => simp [releaseAll, intactAmong]
  | cons i rest ih =>
    have hother : ((scene.dismiss busy i).2.intactAmong rest).flatMap
          (scene.dismiss busy i).2.belongings =
        ((scene.dismiss busy i).2.intactAmong rest).flatMap scene.belongings := by
      apply List.flatMap_congr
      intro j hj
      have hij : i ≠ j := by
        rintro rfl
        rw [mem_intactAmong, isIntact_dismiss] at hj
        simp at hj
      rw [Scene.belongings, instance?_dismiss, if_neg hij, Scene.belongings]
    have hfirst : (scene.dismiss busy i).2.releases =
        scene.releases ++ (if scene.isIntact i then [i] else []).flatMap scene.belongings := by
      rw [releases_dismiss]
      cases scene.isIntact i <;> simp
    have hall := (scene.intactAmong_cons_perm busy i rest).flatMap_right scene.belongings
    rw [List.flatMap_append] at hall
    rw [releaseAll_cons]
    refine (ih (scene.dismiss busy i).2).trans ?_
    rw [hother, hfirst, List.append_assoc]
    exact hall.symm.append_left scene.releases

/-- Lists with the same members are released to the same end. -/
theorem sameUpToOrder_releaseAll {ids ids' : List InstanceId} (h : ∀ i, i ∈ ids ↔ i ∈ ids') :
    (releaseAll busy ids scene).1 = (releaseAll busy ids' scene).1 ∧
      (releaseAll busy ids scene).2.SameUpToOrder (releaseAll busy ids' scene).2 := by
  have hperm := scene.intactAmong_perm h
  refine ⟨?_, ?_, ?_, ?_⟩
  · rw [fst_releaseAll, fst_releaseAll]
    exact hperm.length_eq
  · apply Numbered.eq_of_get?
    intro i
    have hi : (releaseAll busy ids scene).2.instance? i = _ := instance?_releaseAll ids scene i
    simp only [h] at hi
    exact (instance?_releaseAll ids' scene i).trans hi.symm
  · apply Numbered.eq_of_get?
    intro c
    have hc : (releaseAll busy ids scene).2.containers.get? c = _ :=
      get?_containers_releaseAll ids scene c
    simp only [h] at hc
    exact (get?_containers_releaseAll ids' scene c).trans hc.symm
  · refine (releases_releaseAll ids' scene).trans ?_
    refine ((hperm.symm.flatMap_right _).append_left _).trans ?_
    exact (releases_releaseAll ids scene).symm

/-! ## Destroying one after the other -/

variable (t : Tracker)

theorem destroyAll_cons (i : InstanceId) :
    destroyAll (i :: ids) t =
      ((destroyAll ids (t.destroy i).2).1 + (t.destroy i).1.toNat,
        (destroyAll ids (t.destroy i).2).2) := rfl

theorem live_destroy (i : InstanceId) : (t.destroy i).2.live = t.live.filter (· ≠ i) := by
  rw [destroy]
  split
  · rfl
  · rename_i hi
    refine (List.filter_eq_self.2 ?_).symm
    intro j hj
    apply decide_eq_true
    rintro rfl
    exact hi hj

/-- What is left is registered in the order in which it was. -/
theorem live_destroyAll : (destroyAll ids t).2.live = t.live.filter (· ∉ ids) := by
  induction ids generalizing t with
  | nil => simp [destroyAll]
  | cons i rest ih =>
    rw [destroyAll_cons, ih, live_destroy, List.filter_filter]
    apply List.filter_congr
    intro j _
    simp [Bool.and_comm]

/-- Counted are the registered instances among the given ones, each once. -/
theorem fst_destroyAll : (destroyAll ids t).1 = (t.live.filter (· ∈ ids)).length := by
  induction ids generalizing t with
  | nil => simp [destroyAll]
  | cons i rest ih =>
    rw [destroyAll_cons, ih, live_destroy]
    by_cases hi : i ∈ t.live
    · -- the first is counted now, and the rest finds it unregistered
      have hknown : (t.destroy i).1 = true := (t.destroy_eq_true_iff i).2 hi
      rw [hknown]
      have hnodup : (i :: (t.live.filter (· ≠ i)).filter (· ∈ rest)).Nodup :=
        List.nodup_cons.2 ⟨by simp, (t.nodup_live.filter _).filter _⟩
      have hperm : (i :: (t.live.filter (· ≠ i)).filter (· ∈ rest)).Perm
          (t.live.filter (· ∈ i :: rest)) := by
        refine (List.perm_ext_iff_of_nodup hnodup (t.nodup_live.filter _)).2 ?_
        intro j
        by_cases hij : j = i
        · subst hij
          simp [hi]
        · simp [hij]
      exact hperm.length_eq
    · have hknown : (t.destroy i).1 = false :=
        Bool.eq_false_iff.2 fun h => hi ((t.destroy_eq_true_iff i).1 h)
      rw [hknown, List.filter_filter]
      change (List.filter _ t.live).length = _
      congr 1
      apply List.filter_congr
      intro j hj
      have hij : j ≠ i := by
        rintro rfl
        exact hi hj
      simp [hij]

/-- The tracker with nothing that waits. -/
def relieved : Tracker := ⟨t.live, [], t.nodup_live⟩

theorem relieved_congr {t u : Tracker} (h : t.live = u.live) : t.relieved = u.relieved := by
  obtain ⟨live, pending, _⟩ := t
  obtain ⟨live', pending', _⟩ := u
  cases h
  rfl

/-- What is destroyed waits behind what waited before. -/
theorem pending_destroyAll :
    (destroyAll ids t).2.pending = t.pending ++ (destroyAll ids t.relieved).2.pending := by
  induction ids generalizing t with
  | nil => simp [destroyAll, relieved]
  | cons i rest ih =>
    rw [destroyAll_cons, destroyAll_cons, ih (t.destroy i).2, ih (t.relieved.destroy i).2]
    -- whether it is registered is a matter of what does not wait
    have hrelieved : (t.relieved.destroy i).2.relieved = (t.destroy i).2.relieved := by
      by_cases hi : i ∈ t.live <;> simp [destroy, relieved, hi]
    have hpending : (t.destroy i).2.pending =
        t.pending ++ (t.relieved.destroy i).2.pending := by
      by_cases hi : i ∈ t.live <;> simp [destroy, relieved, hi]
    rw [hrelieved, hpending, List.append_assoc]

/-- What was registered and is destroyed waits, beside what waited before. -/
theorem mem_pending_destroyAll {i : InstanceId} :
    i ∈ (destroyAll ids t).2.pending ↔ i ∈ t.pending ∨ i ∈ t.live ∧ i ∈ ids := by
  induction ids generalizing t with
  | nil => simp [destroyAll]
  | cons j rest ih =>
    rw [destroyAll_cons, ih, live_destroy]
    by_cases hj : j ∈ t.live
    · by_cases hij : i = j
      · subst hij
        simp [destroy, hj]
      · simp [destroy, hj, hij]
    · by_cases hij : i = j
      · subst hij
        simp [destroy, hj]
      · simp [destroy, hj, hij]

/-- What waits after instances were destroyed, as one list. -/
theorem mem_pending_destroyAll_iff {i : InstanceId} :
    i ∈ (destroyAll ids t).2.pending ↔ i ∈ t.pending ++ t.live.filter (· ∈ ids) := by
  rw [mem_pending_destroyAll, List.mem_append, List.mem_filter, decide_eq_true_iff]

/-- To destroy is to move from one list to the other. -/
theorem held_destroyAll {i : InstanceId} :
    i ∈ (destroyAll ids t).2.held ↔ i ∈ t.held := by
  rw [held, List.mem_append, live_destroyAll, List.mem_filter, mem_pending_destroyAll, held,
    List.mem_append]
  by_cases hi : i ∈ ids
  · simp [hi, or_comm]
  · simp [hi]

/-- Nothing that waits plays a part in what is left. -/
theorem relieved_destroyAll :
    (destroyAll ids t.relieved).2.relieved = (destroyAll ids t).2.relieved := by
  apply relieved_congr
  rw [live_destroyAll, live_destroyAll]
  rfl

/-- What is left is a matter of which instances are destroyed. -/
theorem relieved_destroyAll_congr {ids ids' : List InstanceId} (h : ∀ i, i ∈ ids ↔ i ∈ ids') :
    (destroyAll ids' t).2.relieved = (destroyAll ids t).2.relieved := by
  apply relieved_congr
  rw [live_destroyAll, live_destroyAll]
  apply List.filter_congr
  intro i _
  simp only [h]

end Tracker

end SceneFactory
