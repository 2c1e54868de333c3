import Mathlib.Data.List.Nodup
import SceneFactory.Proofs.Session.Runs

/-!
# The scene tree is consistent

Attachment is kept three times: in the container's list of children, in the instance's
state with its link to the parent, and in the name that the visual object holds of its
container. `Scene.Fits` says that the three agree about one instance, and
`Scene.IsConsistent` that they agree about all, with every list in order of creation.

A fresh scene is consistent, every elementary change keeps it so
(`Scene.IsConsistent.change`), and with it every run in which the host leaves the lists
of children to the factory (`Session.scene_tree_consistent`). Nearly every change is one
of a single instance, so that only this instance must be looked at
(`Scene.IsConsistent.changeAt`).
-/

set_option autoImplicit false

namespace SceneFactory

variable {H : Host}

/-! ## Consistency -/

namespace Scene

variable {ε : Type}

/-- Lists of children, state with link, and reported name say the same of an instance. -/
structure Fits (scene : Scene ε) (i : InstanceId) : Prop where
  /-- A child is attached, its link leads to the container whose list it is in, and it
  reports the container's name. -/
  of_mem : ∀ {c : ContainerId} {container : Container ε},
    scene.container? c = some container → i ∈ container.children →
      ∃ inst, scene.instance? i = some inst ∧ inst.state = .attached ∧
        inst.parent? = some c ∧ inst.parentName? = some container.name
  /-- An instance whose link leads to a living container is one of its children. -/
  mem_of : ∀ {c : ContainerId} {container : Container ε} {inst : Instance},
    scene.container? c = some container → scene.instance? i = some inst →
      inst.state = .attached → inst.parent? = some c → i ∈ container.children
  /-- A detached or destroyed instance has no parent and reports none. -/
  apart : ∀ {inst : Instance}, scene.instance? i = some inst →
    inst.state = .detached ∨ inst.state = .destroyed →
      inst.parent? = none ∧ inst.parentName? = none
  /-- Links lead to containers that were made. -/
  parent_le : ∀ {inst : Instance} {c : ContainerId},
    scene.instance? i = some inst → inst.parent? = some c → c ≤ scene.containers.size

/-- All instances fit, and children stand in order of creation. -/
structure IsConsistent (scene : Scene ε) : Prop where
  fits : ∀ i, scene.Fits i
  increasing : ∀ {c : ContainerId} {container : Container ε},
    scene.container? c = some container → container.children.Pairwise (· < ·)

theorem isConsistent_empty : (empty : Scene ε).IsConsistent where
  fits i := by
    have hi : (empty : Scene ε).instance? i = none := by simp [instance?, empty]
    refine ⟨?_, ?_, ?_, ?_⟩
    · intro c container hc
      simp [container?, empty] at hc
    · intro c container inst hc
      simp [container?, empty] at hc
    · intro inst hinst
      rw [hi] at hinst
      cases hinst
    · intro inst c hinst
      rw [hi] at hinst
      cases hinst
  increasing := by
    intro c container hc
    simp [container?, empty] at hc

/-- The living containers of the second scene were in the first, with the same children
but for one at most. -/
def SameListsBut (i : InstanceId) (scene scene' : Scene ε) : Prop :=
  ∀ {c : ContainerId} {container' : Container ε}, scene'.container? c = some container' →
    ∃ container, scene.container? c = some container ∧ container'.name = container.name ∧
      ∀ {j : InstanceId}, i ≠ j → (j ∈ container'.children ↔ j ∈ container.children)

theorem sameListsBut_of_container? {scene scene' : Scene ε} (i : InstanceId)
    (h : ∀ c, scene'.container? c = scene.container? c) : SameListsBut i scene scene' := by
  intro c container hc
  rw [h] at hc
  exact ⟨container, hc, rfl, fun _ => Iff.rfl⟩

namespace IsConsistent

variable {scene : Scene ε} (h : scene.IsConsistent)

include h

/-- A child's number is in use. -/
theorem le_size_of_mem {c : ContainerId} {container : Container ε} {i : InstanceId}
    (hc : scene.container? c = some container) (hi : i ∈ container.children) :
    i ≤ scene.instances.size := by
  obtain ⟨inst, hinst, -⟩ := (h.fits i).of_mem hc hi
  exact scene.le_size_of_instance? hinst

theorem recordReleases (releases : List Release) :
    (scene.recordReleases releases).IsConsistent :=
  ⟨fun i => ⟨(h.fits i).of_mem, (h.fits i).mem_of, (h.fits i).apart, (h.fits i).parent_le⟩,
    h.increasing⟩

/-- Where one instance changes alone, the others fit as before. -/
theorem changeAt {scene' : Scene ε} {i : InstanceId}
    (hother : ∀ {j : InstanceId}, i ≠ j → scene'.instance? j = scene.instance? j)
    (hlists : SameListsBut i scene scene')
    (hsize : scene'.containers.size = scene.containers.size) (hself : scene'.Fits i)
    (hincreasing : ∀ {c : ContainerId} {container : Container ε},
      scene'.container? c = some container → container.children.Pairwise (· < ·)) :
    scene'.IsConsistent := by
  refine ⟨fun j => ?_, hincreasing⟩
  -- of the one that changes the four parts are assumed, those of any other carry over
  by_cases hij : i = j
  · exact hij ▸ hself
  · refine ⟨?_, ?_, ?_, ?_⟩
    · intro c container' hc hj
      obtain ⟨container, hold, hname, hiff⟩ := hlists hc
      rw [hother hij, hname]
      exact (h.fits j).of_mem hold ((hiff hij).1 hj)
    · intro c container' inst hc hj hs hp
      obtain ⟨container, hold, -, hiff⟩ := hlists hc
      rw [hother hij] at hj
      exact (hiff hij).2 ((h.fits j).mem_of hold hj hs hp)
    · intro inst hj hs
      rw [hother hij] at hj
      exact (h.fits j).apart hj hs
    · intro inst c hj hp
      rw [hother hij] at hj
      rw [hsize]
      exact (h.fits j).parent_le hj hp

/-- A fresh instance belongs to no container yet. -/
theorem addInstance (uri : String) (o : SceneObject) (context : ContextId) :
    (scene.addInstance uri o context).2.IsConsistent := by
  have hself : (scene.addInstance uri o context).2.instance?
      (scene.addInstance uri o context).1 = some (.new uri o context) :=
    scene.instance?_addInstance_self uri o context
  refine h.changeAt (i := (scene.addInstance uri o context).1) ?_ ?_ rfl ⟨?_, ?_, ?_, ?_⟩
    h.increasing
  · intro j hij
    exact scene.instance?_addInstance_of_ne uri o context (Ne.symm hij)
  · exact sameListsBut_of_container? _ fun _ => rfl
  · intro c container hc hmem
    -- the number of the new instance is larger than that of every child
    have hle : scene.instances.size + 1 ≤ scene.instances.size := h.le_size_of_mem hc hmem
    exact absurd hle (Nat.not_succ_le_self _)
  · intro c container inst hc hinst hs hp
    rw [hself] at hinst
    cases hinst
    cases hs
  · intro inst hinst hs
    rw [hself] at hinst
    cases hinst
    rcases hs with hs | hs <;> cases hs
  · intro inst c hinst hp
    rw [hself] at hinst
    cases hinst
    cases hp

/-- An instance newer than every child may be attached. -/
theorem attach {i : InstanceId} {inst : Instance} {o : SceneObject} (c : ContainerId)
    (hi : scene.instance? i = some inst)
    (ho : inst.object? = some o) (hv : o.isVisual = true)
    (hnew : ∀ {d : ContainerId} {container : Container ε},
      scene.container? d = some container → ∀ j ∈ container.children, j < i) :
    (scene.attach i c).IsConsistent := by
  cases hc : scene.container? c with
  | none =>
    rw [scene.attach_of_dead i c hc]
    exact h
  | some container =>
    have hinst := scene.instance?_attach i c hc
    have hcont := scene.container?_attach i c hc
    have hfresh : i ∉ container.children := fun hm => Nat.lt_irrefl i (hnew hc i hm)
    rw [if_neg hfresh] at hcont
    have hself : (scene.attach i c).instance? i = some (inst.attachedTo c container.name) := by
      rw [hinst, if_pos rfl, hi]
      rfl
    -- the list of `c` gets `i` behind all others, and no other list changes
    refine h.changeAt (i := i) ?_ ?_ (scene.size_containers_attach i c) ⟨?_, ?_, ?_, ?_⟩ ?_
    · intro j hij
      rw [hinst, if_neg hij]
    · intro d container' hd
      rw [hcont] at hd
      by_cases hcd : c = d
      · subst hcd
        rw [if_pos rfl] at hd
        cases hd
        refine ⟨container, hc, rfl, fun hij => ?_⟩
        simp [Ne.symm hij]
      · rw [if_neg hcd] at hd
        exact ⟨container', hd, rfl, fun _ => Iff.rfl⟩
    · intro d container' hd hj
      rw [hcont] at hd
      by_cases hcd : c = d
      · subst hcd
        rw [if_pos rfl] at hd
        cases hd
        exact ⟨_, hself, rfl, rfl, inst.parentName?_attachedTo c container.name ho hv⟩
      · -- in another list there would be a child as new as `i`
        rw [if_neg hcd] at hd
        exact absurd (hnew hd i hj) (Nat.lt_irrefl i)
    · intro d container' inst' hd hj hs' hp
      rw [hself] at hj
      cases hj
      cases hp
      rw [hcont, if_pos rfl] at hd
      cases hd
      exact List.mem_append_right _ List.mem_cons_self
    · intro inst' hj hs'
      rw [hself] at hj
      cases hj
      rcases hs' with hs' | hs' <;> cases hs'
    · intro inst' d hj hp
      rw [hself] at hj
      cases hj
      cases hp
      rw [size_containers_attach]
      exact scene.le_size_of_container? hc
    · intro d container' hd
      rw [hcont] at hd
      by_cases hcd : c = d
      · subst hcd
        rw [if_pos rfl] at hd
        cases hd
        refine List.pairwise_append.2 ⟨h.increasing hc, List.pairwise_singleton _ _, ?_⟩
        intro a ha b hb
        rw [List.mem_singleton.1 hb]
        exact hnew hc a ha
      · rw [if_neg hcd] at hd
        exact h.increasing hd

/-- Detaching takes an instance out of its one list. -/
theorem detach (i : InstanceId) : (scene.detach i .free).2.IsConsistent := by
  by_cases hstate : scene.state? i = some .attached
  case neg =>
    rw [scene.detach_of_not_attached i .free hstate]
    exact h
  case pos =>
    obtain ⟨inst, hi, hs⟩ : ∃ inst, scene.instance? i = some inst ∧ inst.state = .attached := by
      simpa [state?] using hstate
    have hcont := scene.container?_detach_free i hi hs
    have hself : (scene.detach i .free).2.instance? i = some inst.asDetached := by
      rw [instance?_detach, if_pos rfl, hi]
      simp [hs]
    refine h.changeAt (i := i) ?_ ?_ (scene.size_containers_detach i .free) ⟨?_, ?_, ?_, ?_⟩ ?_
    · intro j hij
      rw [instance?_detach, if_neg hij]
    · intro d container' hd
      rw [hcont] at hd
      by_cases hp : inst.parent? = some d
      · rw [if_pos hp] at hd
        obtain ⟨container, hold, rfl⟩ := Option.map_eq_some_iff.1 hd
        refine ⟨container, hold, rfl, fun hij => ?_⟩
        simp [Ne.symm hij]
      · rw [if_neg hp] at hd
        exact ⟨container', hd, rfl, fun _ => Iff.rfl⟩
    · intro d container' hd hmem
      exfalso
      rw [hcont] at hd
      by_cases hp : inst.parent? = some d
      · rw [if_pos hp] at hd
        obtain ⟨container, -, rfl⟩ := Option.map_eq_some_iff.1 hd
        simp at hmem
      · rw [if_neg hp] at hd
        obtain ⟨inst', hi', -, hp', -⟩ := (h.fits i).of_mem hd hmem
        rw [hi] at hi'
        cases hi'
        exact hp hp'
    · intro d container' inst' hd hi' hs'
      rw [hself] at hi'
      cases hi'
      cases hs'
    · intro inst' hi' hs'
      rw [hself] at hi'
      cases hi'
      exact ⟨rfl, inst.parentName?_asDetached⟩
    · intro inst' d hi' hp
      rw [hself] at hi'
      cases hi'
      cases hp
    · intro d container' hd
      rw [hcont] at hd
      by_cases hp : inst.parent? = some d
      · rw [if_pos hp] at hd
        obtain ⟨container, hold, rfl⟩ := Option.map_eq_some_iff.1 hd
        exact (h.increasing hold).filter _
      · rw [if_neg hp] at hd
        exact h.increasing hd

/-- An instance that is nobody's child may be destroyed or forgotten. -/
theorem letGo {scene' : Scene ε} {i : InstanceId} (hchild : ∀ c, i ∉ scene.children c)
    (hother : ∀ {j : InstanceId}, i ≠ j → scene'.instance? j = scene.instance? j)
    (hself : ∀ {inst' : Instance}, scene'.instance? i = some inst' →
      ∃ inst, scene.instance? i = some inst ∧
        (inst' = inst ∨ inst' = inst.asDestroyed ∨ inst' = inst.asForgotten))
    (hcont : ∀ c, scene'.container? c = scene.container? c)
    (hsize : scene'.containers.size = scene.containers.size) : scene'.IsConsistent := by
  -- a destroyed instance has no parent, a forgotten one keeps it
  have hfits := h.fits i
  refine h.changeAt hother (sameListsBut_of_container? i hcont) hsize ⟨?_, ?_, ?_, ?_⟩ ?_
  · intro c container hc hmem
    rw [hcont] at hc
    rw [← scene.children_of_container? hc] at hmem
    exact absurd hmem (hchild c)
  · intro c container inst' hc hi' hs hp
    rw [hcont] at hc
    obtain ⟨inst, hi, rfl | rfl | rfl⟩ := hself hi'
    · exact hfits.mem_of hc hi hs hp
    · cases hs
    · exact hfits.mem_of hc hi hs hp
  · intro inst' hi' hs
    obtain ⟨inst, hi, rfl | rfl | rfl⟩ := hself hi'
    · exact hfits.apart hi hs
    · exact ⟨rfl, rfl⟩
    · exact ⟨(hfits.apart hi hs).1, rfl⟩
  · intro inst' c hi' hp
    rw [hsize]
    obtain ⟨inst, hi, rfl | rfl | rfl⟩ := hself hi'
    · exact hfits.parent_le hi hp
    · cases hp
    · exact hfits.parent_le hi hp
  · intro c container hc
    rw [hcont] at hc
    exact h.increasing hc

/-- An instance that is not attached may be released. -/
theorem release {i : InstanceId} (hs : scene.state? i ≠ some .attached) :
    (scene.release i).2.IsConsistent := by
  refine h.letGo (i := i) ?_ ?_ ?_ (scene.container?_release i)
    (scene.size_containers_release i)
  · intro c hmem
    obtain ⟨container, hc, hmem⟩ := scene.exists_container?_of_mem_children hmem
    obtain ⟨inst, hi, hatt, -⟩ := (h.fits i).of_mem hc hmem
    apply hs
    rw [state?, hi, Option.map_some, hatt]
  · intro j hij
    rw [instance?_release, if_neg hij]
  · intro inst' hi'
    rw [instance?_release, if_pos rfl] at hi'
    obtain ⟨inst, hi, rfl⟩ := Option.map_eq_some_iff.1 hi'
    by_cases hd : inst.state = .destroyed
    · exact ⟨inst, hi, Or.inl (by rw [if_pos hd])⟩
    · exact ⟨inst, hi, Or.inr (Or.inl (by rw [if_neg hd]))⟩

/-- An instance that is nobody's child may be forgotten. -/
theorem forget {i : InstanceId} (hchild : ∀ c, i ∉ scene.children c) :
    (scene.forget i).IsConsistent := by
  refine h.letGo hchild ?_ ?_ (scene.container?_forget i) (scene.size_containers_forget i)
  · intro j hij
    rw [instance?_forget, if_neg hij]
  · intro inst' hi'
    rw [instance?_forget, if_pos rfl] at hi'
    obtain ⟨inst, hi, rfl⟩ := Option.map_eq_some_iff.1 hi'
    exact ⟨inst, hi, Or.inr (Or.inr rfl)⟩

/-- A new container has no children, and no link leads to it. -/
theorem addContainer (name : String) (context? : Option ContextId) (engine? : Option ε) :
    (scene.addContainer name context? engine?).2.IsConsistent := by
  have hcont := scene.container?_addContainer name context? engine?
  have hsize := scene.size_containers_addContainer name context? engine?
  refine ⟨fun i => ⟨?_, ?_, (h.fits i).apart, ?_⟩, ?_⟩
  · intro c container hc hi
    rw [hcont] at hc
    by_cases hnew : c = scene.containers.size + 1
    · rw [if_pos hnew] at hc
      cases hc
      cases hi
    · rw [if_neg hnew] at hc
      exact (h.fits i).of_mem hc hi
  · intro c container inst hc hi hs hp
    rw [hcont] at hc
    by_cases hnew : c = scene.containers.size + 1
    · have hle := (h.fits i).parent_le hi hp
      rw [hnew] at hle
      exact absurd hle (Nat.not_succ_le_self _)
    · rw [if_neg hnew] at hc
      exact (h.fits i).mem_of hc hi hs hp
  · intro inst c hi hp
    rw [hsize]
    exact Nat.le_succ_of_le ((h.fits i).parent_le hi hp)
  · intro c container hc
    rw [hcont] at hc
    by_cases hnew : c = scene.containers.size + 1
    · rw [if_pos hnew] at hc
      cases hc
      exact List.Pairwise.nil
    · rw [if_neg hnew] at hc
      exact h.increasing hc

/-- Dropping a container says nothing about the others. -/
theorem dropContainer (c : ContainerId) : (scene.dropContainer c).IsConsistent := by
  have hkept : ∀ {d : ContainerId} {container : Container ε},
      (scene.dropContainer c).container? d = some container →
        scene.container? d = some container := by
    intro d container hd
    rw [container?_dropContainer] at hd
    by_cases hcd : c = d
    · rw [if_pos hcd] at hd
      cases hd
    · rw [if_neg hcd] at hd
      exact hd
  refine ⟨fun i => ⟨?_, ?_, (h.fits i).apart, ?_⟩, fun hd => h.increasing (hkept hd)⟩
  · intro d container hd hi
    exact (h.fits i).of_mem (hkept hd) hi
  · intro d container inst hd hi hs hp
    exact (h.fits i).mem_of (hkept hd) hi hs hp
  · intro inst d hi hp
    rw [size_containers_dropContainer]
    exact (h.fits i).parent_le hi hp

end IsConsistent

end Scene

/-! ## Every change keeps the tree consistent -/

namespace Scene.IsConsistent

/-- An elementary change keeps the tree consistent. -/
theorem change {w w' : World H} (h : w.scene.IsConsistent) (hc : World.Change w w') :
    w'.scene.IsConsistent := by
  cases hc with
  | aside _ hs => exact hs ▸ h
  | abandon lost _ _ hs => exact hs ▸ h.recordReleases lost
  | reject uri o _ hs =>
    rw [hs]
    apply (h.addInstance uri o _).release
    have hself := w.scene.instance?_addInstance_self uri o (w.contexts.newest + 1)
    change ((w.scene.addInstance uri o _).2.instance? _).map Instance.state ≠ _
    rw [show w.scene.instances.next = (w.scene.addInstance uri o
      (w.contexts.newest + 1)).1 from rfl, hself]
    simp [Instance.new]
  | place uri o c hv _ hs =>
    rw [hs]
    refine (h.addInstance uri o _).attach c
      (w.scene.instance?_addInstance_self uri o _) rfl hv ?_
    intro d container hd j hj
    exact Nat.lt_succ_of_le (h.le_size_of_mem hd hj)
  | detach i _ hs => exact hs ▸ h.detach i
  | release i _ hs => exact hs ▸ (h.detach i).release (w.scene.state?_detach_self i .free)
  | forget i hchild _ hs => exact hs ▸ h.forget hchild
  | addContainer name context? engine? _ hs =>
    exact hs ▸ h.addContainer name context? engine?
  | dropContainer c _ hs => exact hs ▸ h.dropContainer c

theorem changes {w w' : World H} (h : w.scene.IsConsistent) (hc : World.Changes w w') :
    w'.scene.IsConsistent := by
  induction hc with
  | refl => exact h
  | tail _ hlast ih => exact ih.change hlast

end Scene.IsConsistent

namespace Session

/-- A run of tidy operations keeps the tree consistent. -/
theorem isConsistent_after {s : Session H} (h : s.world.scene.IsConsistent)
    {ops : List (Operation H)} (htidy : ∀ op ∈ ops, op.isTidy = true) :
    (s.after ops).world.scene.IsConsistent := by
  refine s.after_induction (P := fun s => s.world.scene.IsConsistent) ops ?_ h
  intro t op hop ht
  exact ht.changes (t.changes_perform op (htidy op hop))

/-- The scene tree is consistent after every run. From a fresh session, whatever is
created, destroyed, flushed, torn down, detached or dropped, as long as the host leaves the
lists of children to the factory: a living container lists exactly the instances that are
attached with their link to it, each once and reporting its name; what is detached or
destroyed is in no list and has no parent and no parent's name; and lists are in order of
creation. -/
theorem scene_tree_consistent (config : Config) (state : H.State) (ops : List (Operation H))
    (htidy : ∀ op ∈ ops, op.isTidy = true) :
    let scene := ((start config state).after ops).world.scene
    (∀ c container, scene.container? c = some container →
        (∀ i, i ∈ container.children ↔ ∃ inst, scene.instance? i = some inst ∧
          inst.state = .attached ∧ inst.parent? = some c) ∧
        (∀ i ∈ container.children, container.children.count i = 1 ∧
          (scene.instance? i).bind Instance.parentName? = some container.name) ∧
        container.children.Pairwise (· < ·)) ∧
      (∀ i inst, scene.instance? i = some inst →
        inst.state = .detached ∨ inst.state = .destroyed →
          (∀ c, i ∉ scene.children c) ∧ inst.parent? = none ∧ inst.parentName? = none) := by
  intro scene
  have h : scene.IsConsistent := isConsistent_after Scene.isConsistent_empty htidy
  refine ⟨?_, ?_⟩
  · intro c container hc
    refine ⟨?_, ?_, h.increasing hc⟩
    · intro i
      constructor
      · intro hi
        obtain ⟨inst, hinst, hs, hp, -⟩ := (h.fits i).of_mem hc hi
        exact ⟨inst, hinst, hs, hp⟩
      · rintro ⟨inst, hinst, hs, hp⟩
        exact (h.fits i).mem_of hc hinst hs hp
    · intro i hi
      obtain ⟨inst, hinst, -, -, hname⟩ := (h.fits i).of_mem hc hi
      have hnodup : container.children.Nodup := (h.increasing hc).imp Nat.ne_of_lt
      refine ⟨List.count_eq_one_of_mem hnodup hi, ?_⟩
      rw [hinst]
      exact hname
  · intro i inst hinst hs
    refine ⟨?_, (h.fits i).apart hinst hs⟩
    intro c hmem
    obtain ⟨container, hc, hmem⟩ := scene.exists_container?_of_mem_children hmem
    obtain ⟨inst', hinst', hatt, -⟩ := (h.fits i).of_mem hc hmem
    rw [hinst] at hinst'
    cases hinst'
    rw [hatt] at hs
    rcases hs with hs | hs <;> cases hs

/-- The run of labels is tidy, and leaves the two that are attached in order. -/
theorem scene_tree_of_labelRun :
    let scene := ((start Config.default (default : Studio.State)).after
      Studio.labelRun).world.scene
    (∀ op ∈ Studio.labelRun, op.isTidy = true) ∧ scene.children 1 = [2, 3] ∧
      (∀ c container, scene.container? c = some container →
        ∀ i, i ∈ container.children ↔ ∃ inst, scene.instance? i = some inst ∧
          inst.state = .attached ∧ inst.parent? = some c) ∧
      (∀ i inst, scene.instance? i = some inst →
        inst.state = .detached ∨ inst.state = .destroyed →
          (∀ c, i ∉ scene.children c) ∧ inst.parent? = none ∧ inst.parentName? = none) := by
  have htidy : ∀ op ∈ Studio.labelRun, op.isTidy = true := by decide
  obtain ⟨hlisted, hapart⟩ := scene_tree_consistent Config.default (default : Studio.State)
    Studio.labelRun htidy
  refine ⟨htidy, by decide +kernel, ?_, hapart⟩
  intro c container hc
  exact (hlisted c container hc).1

end Session

end SceneFactory
