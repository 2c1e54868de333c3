import SceneFactory.Scene.Lemmas

/-!
# The views of a scene after each operation

A scene is looked at through its instances (`instance?`), its living containers
(`container?`) and what was let go (`releases`). The lemmas of this module say what
attaching, detaching, forgetting, and adding or dropping a container do to these
three views, so that no later proof unfolds an operation.
-/

set_option autoImplicit false

namespace SceneFactory

/-! ## Objects and the names of their containers -/

namespace SceneObject

variable (o : SceneObject) (name : Option String)

@[simp] theorem isVisual_setParentName : (o.setParentName name).isVisual = o.isVisual := by
  rw [setParentName]
  split <;> rfl

@[simp] theorem properties_setParentName :
    (o.setParentName name).properties = o.properties := by
  rw [setParentName]
  split <;> rfl

@[simp] theorem typeName_setParentName : (o.setParentName name).typeName = o.typeName := by
  rw [setParentName]
  split <;> rfl

/-- A visual object reports the name that it is told, and any other reports none. -/
theorem reportedParentName_setParentName :
    (o.setParentName name).reportedParentName = if o.isVisual then name else none := by
  rw [reportedParentName, isVisual_setParentName]
  by_cases h : o.isVisual = true
  · rw [if_pos h, if_pos h]
    simp [setParentName, h]
  · rw [if_neg h, if_neg h]

end SceneObject

namespace Instance

variable (inst : Instance)

theorem parentName?_attachedTo (c : ContainerId) (name : String) {o : SceneObject}
    (ho : inst.object? = some o) (hv : o.isVisual = true) :
    (inst.attachedTo c name).parentName? = some name := by
  simp [parentName?, attachedTo, ho, SceneObject.reportedParentName_setParentName, hv]

/-- An instance that is detached reports no container. -/
@[simp] theorem parentName?_asDetached : inst.asDetached.parentName? = none := by
  rw [parentName?, asDetached]
  cases inst.object? with
  | none => rfl
  | some o => simp [SceneObject.reportedParentName_setParentName]

end Instance

namespace Scene

variable {ε : Type} (scene : Scene ε)

/-! ## Instances by number -/

theorem instance?_eq_none_iff (i : InstanceId) :
    scene.instance? i = none ↔ i = 0 ∨ scene.instances.size < i :=
  scene.instances.get?_eq_none_iff i

/-- A number in use is at most the number of instances. -/
theorem le_size_of_instance? {i : InstanceId} {inst : Instance}
    (h : scene.instance? i = some inst) : i ≤ scene.instances.size := by
  apply Nat.le_of_not_lt
  intro hlt
  rw [(scene.instance?_eq_none_iff i).2 (Or.inr hlt)] at h
  cases h

theorem mem_numbers_of_instance? {i : InstanceId} {inst : Instance}
    (h : scene.instance? i = some inst) : i ∈ scene.instances.numbers := by
  have hle := scene.le_size_of_instance? h
  refine (scene.instances.mem_numbers i).2 ⟨?_, hle⟩
  rcases Nat.eq_zero_or_pos i with rfl | hpos
  · cases h
  · exact hpos

@[simp] theorem instance?_recordReleases (releases : List Release) (i : InstanceId) :
    (scene.recordReleases releases).instance? i = scene.instance? i := rfl

/-! ## Living containers -/

/-- Changing the children of a container changes nothing else about containers. -/
theorem container?_modifyChildren (c d : ContainerId)
    (f : List InstanceId → List InstanceId) :
    (scene.modifyChildren c f).container? d =
      if c = d then (scene.container? d).map fun container =>
        ⟨container.name, container.context?, container.engine?, f container.children,
          container.isLive⟩
      else scene.container? d := by
  simp only [container?, modifyChildren]
  rw [Numbered.get?_modify]
  by_cases hcd : c = d
  · subst hcd
    cases scene.containers.get? c with
    | none => simp
    | some container => cases hl : container.isLive <;> simp [Option.filter, hl]
  · simp [hcd]

theorem container?_dropContainer (c d : ContainerId) :
    (scene.dropContainer c).container? d = if c = d then none else scene.container? d := by
  simp only [container?, dropContainer]
  rw [Numbered.get?_modify]
  by_cases hcd : c = d
  · subst hcd
    cases scene.containers.get? c with
    | none => simp
    | some container => simp [Option.filter]
  · simp [hcd]

theorem container?_addContainer (name : String) (context? : Option ContextId)
    (engine? : Option ε) (d : ContainerId) :
    (scene.addContainer name context? engine?).2.container? d =
      if d = scene.containers.size + 1 then some ⟨name, context?, engine?, [], true⟩
      else scene.container? d := by
  simp only [container?, addContainer]
  rw [Numbered.get?_push]
  simp only [Numbered.next]
  by_cases hd : d = scene.containers.size + 1
  · simp [hd, Option.filter]
  · simp [hd]

@[simp] theorem size_containers_dropContainer (c : ContainerId) :
    (scene.dropContainer c).containers.size = scene.containers.size := by
  simp [dropContainer]

@[simp] theorem size_containers_addContainer (name : String) (context? : Option ContextId)
    (engine? : Option ε) :
    (scene.addContainer name context? engine?).2.containers.size =
      scene.containers.size + 1 := by
  simp [addContainer]

/-- A living container has a number in use. -/
theorem le_size_of_container? {c : ContainerId} {container : Container ε}
    (h : scene.container? c = some container) : c ≤ scene.containers.size := by
  apply Nat.le_of_not_lt
  intro hlt
  have hnone := (scene.containers.get?_eq_none_iff c).2 (Or.inr hlt)
  simp [container?, hnone] at h

theorem children_of_container? {c : ContainerId} {container : Container ε}
    (h : scene.container? c = some container) : scene.children c = container.children := by
  simp [children, h]

/-- Only a living container has children. -/
theorem exists_container?_of_mem_children {c : ContainerId} {i : InstanceId}
    (h : i ∈ scene.children c) :
    ∃ container, scene.container? c = some container ∧ i ∈ container.children := by
  cases hc : scene.container? c with
  | none => simp [children, hc] at h
  | some container =>
    rw [scene.children_of_container? hc] at h
    exact ⟨container, rfl, h⟩

/-- A child of a container is among the children of all containers. -/
theorem mem_allChildren {c : ContainerId} {i : InstanceId} (h : i ∈ scene.children c) :
    i ∈ scene.allChildren := by
  obtain ⟨container, hc, -⟩ := scene.exists_container?_of_mem_children h
  refine List.mem_flatMap.2 ⟨c, ?_, h⟩
  refine (scene.containers.mem_numbers c).2 ⟨?_, scene.le_size_of_container? hc⟩
  rcases Nat.eq_zero_or_pos c with rfl | hpos
  · cases hc
  · exact hpos

/-! ## Attaching -/

section Attach

variable (i : InstanceId) (c : ContainerId)

theorem attach_of_container? {container : Container ε}
    (h : scene.container? c = some container) :
    scene.attach i c =
      (scene.modifyInstance i fun inst => inst.attachedTo c container.name).attachChild c i := by
  simp [attach, h]

theorem attach_of_dead (h : scene.container? c = none) : scene.attach i c = scene := by
  simp [attach, h]

theorem instance?_attach {container : Container ε} (h : scene.container? c = some container)
    (j : InstanceId) :
    (scene.attach i c).instance? j =
      if i = j then (scene.instance? j).map fun inst => inst.attachedTo c container.name
      else scene.instance? j := by
  rw [scene.attach_of_container? i c h]
  exact scene.instance?_modifyInstance i j _

theorem container?_attach {container : Container ε} (h : scene.container? c = some container)
    (d : ContainerId) :
    (scene.attach i c).container? d =
      if c = d then some ⟨container.name, container.context?, container.engine?,
        if i ∈ container.children then container.children else container.children ++ [i],
        container.isLive⟩
      else scene.container? d := by
  rw [scene.attach_of_container? i c h]
  rw [attachChild, container?_modifyChildren, container?_modifyInstance]
  by_cases hcd : c = d
  · subst hcd
    simp [h]
  · simp [hcd]

@[simp] theorem releases_attach : (scene.attach i c).releases = scene.releases := by
  rw [attach]
  split <;> rfl

@[simp] theorem size_containers_attach :
    (scene.attach i c).containers.size = scene.containers.size := by
  rw [attach]
  split
  · simp [modifyInstance, attachChild, modifyChildren]
  · rfl

end Attach

/-! ## Detaching -/

section Detach

variable (i : InstanceId) (access : Access)

/-- Detaching changes the instance alone, and only if it is attached. -/
theorem instance?_detach (j : InstanceId) :
    (scene.detach i access).2.instance? j =
      if i = j then (scene.instance? j).map fun inst =>
        if inst.state = .attached then inst.asDetached else inst
      else scene.instance? j := by
  have hm := scene.instance?_modifyInstance i j Instance.asDetached
  rw [detach]
  cases hi : scene.instance? i with
  | none =>
    by_cases hij : i = j
    · subst hij
      simp [hi]
    · simp [hij]
  | some inst =>
    by_cases hs : inst.state = .attached
    · -- whatever the parent, among instances only `i` is changed
      have hgoal : (if i = j then (scene.instance? j).map fun inst =>
          if inst.state = .attached then inst.asDetached else inst
          else scene.instance? j) = (scene.modifyInstance i Instance.asDetached).instance? j := by
        rw [hm]
        by_cases hij : i = j
        · subst hij
          simp [hi, hs]
        · simp [hij]
      rw [hgoal]
      simp only [hs, if_true]
      split
      · rfl
      · split
        · cases access <;> rfl
        · rfl
    · by_cases hij : i = j
      · subst hij
        simp [hs, hi]
      · simp [hs, hij]

/-- The scene after a detachment from a container that nobody else is at work on, if the
instance is attached to a living one. -/
theorem detach_free_of_attached {inst : Instance} {c : ContainerId}
    (hi : scene.instance? i = some inst) (hs : inst.state = .attached)
    (hp : inst.parent? = some c) (hc : (scene.container? c).isSome = true) :
    (scene.detach i .free).2 =
      ((scene.modifyInstance i Instance.asDetached).detachChild c i).2 := by
  simp [detach, hi, hs, hp, hc]

/-- A detached instance leaves the list of its parent and no other. -/
theorem container?_detach_free {inst : Instance} (hi : scene.instance? i = some inst)
    (hs : inst.state = .attached) (d : ContainerId) :
    (scene.detach i .free).2.container? d =
      if inst.parent? = some d then (scene.container? d).map fun container =>
        ⟨container.name, container.context?, container.engine?,
          container.children.filter (· ≠ i), container.isLive⟩
      else scene.container? d := by
  cases hp : inst.parent? with
  | none => simp [detach, hi, hs, hp]
  | some c =>
    cases hc : scene.container? c with
    | none =>
      by_cases hcd : c = d
      · subst hcd
        simp [detach, hi, hs, hp, hc]
      · simp [detach, hi, hs, hp, hc, hcd]
    | some container =>
      rw [scene.detach_free_of_attached i hi hs hp (by simp [hc])]
      simp only [detachChild]
      rw [container?_modifyChildren, container?_modifyInstance]
      simp only [Option.some.injEq]

/-- Detaching an instance that is not attached changes nothing. -/
theorem detach_of_not_attached (h : scene.state? i ≠ some .attached) :
    (scene.detach i access).2 = scene := by
  rw [detach]
  cases hi : scene.instance? i with
  | none => rfl
  | some inst =>
    have hs : inst.state ≠ .attached := by simpa [state?, hi] using h
    simp [hs]

@[simp] theorem releases_detach : (scene.detach i access).2.releases = scene.releases := by
  rw [detach]
  split
  · rfl
  · split
    · dsimp only
      split
      · rfl
      · split
        · cases access <;> rfl
        · rfl
    · rfl

@[simp] theorem size_containers_detach :
    (scene.detach i access).2.containers.size = scene.containers.size := by
  rw [detach]
  split
  · rfl
  · split
    · dsimp only
      split
      · rfl
      · split
        · cases access <;> simp [modifyInstance, detachChild, modifyChildren]
        · rfl
    · rfl

/-- After a detachment the instance is not attached. -/
theorem state?_detach_self : (scene.detach i access).2.state? i ≠ some .attached := by
  rw [state?, instance?_detach, if_pos rfl]
  cases scene.instance? i with
  | none => simp
  | some inst => by_cases hs : inst.state = .attached <;> simp [hs, Instance.asDetached]

end Detach

/-! ## Releasing and forgetting -/

section LettingGo

variable (i : InstanceId)

@[simp] theorem container?_release (c : ContainerId) :
    (scene.release i).2.container? c = scene.container? c := by
  rw [release]
  split
  · rfl
  · split <;> rfl

@[simp] theorem size_containers_release :
    (scene.release i).2.containers.size = scene.containers.size := by
  rw [release]
  split
  · rfl
  · split <;> rfl

/-- Forgetting takes the object and the context of one instance. -/
theorem instance?_forget (j : InstanceId) :
    (scene.forget i).instance? j =
      if i = j then (scene.instance? j).map Instance.asForgotten else scene.instance? j := by
  rw [forget]
  cases hi : scene.instance? i with
  | none =>
    by_cases hij : i = j
    · subst hij
      simp [hi]
    · simp [hij]
  | some inst => exact scene.instance?_modifyInstance i j Instance.asForgotten

@[simp] theorem container?_forget (c : ContainerId) :
    (scene.forget i).container? c = scene.container? c := by
  rw [forget]
  split <;> rfl

@[simp] theorem children_forget (c : ContainerId) :
    (scene.forget i).children c = scene.children c := by
  simp only [children]
  rw [container?_forget]

@[simp] theorem size_containers_forget :
    (scene.forget i).containers.size = scene.containers.size := by
  rw [forget]
  split <;> rfl

theorem releases_forget :
    (scene.forget i).releases =
      scene.releases ++ ((scene.instance? i).elim [] Instance.belongings) := by
  rw [forget]
  cases scene.instance? i with
  | none => simp
  | some inst => rfl

end LettingGo

/-- Where nobody else is at work, every container is free. -/
@[simp] theorem accessTo_nil (i : InstanceId) : scene.accessTo [] i = .free := by
  rw [accessTo]
  split
  · rw [if_neg List.not_mem_nil]
  · rfl

theorem dismiss_nil (i : InstanceId) :
    scene.dismiss [] i = (scene.detach i .free).2.release i := by
  rw [dismiss, accessTo_nil]

end Scene

end SceneFactory
