import SceneFactory.Scene.Basic

/-!
# What the operations on the scene do to its views

A scene is looked at through its instances (`instance?`), the children of its
containers (`children`) and what was let go (`releases`). Each lemma says what one
operation does to one of these views.

Main statements: an instance that is attached is a child of its container exactly
once more (`children_attachChild`), a released instance is destroyed and stays so
(`instance?_release`), and it is released once (`release_eq_true_iff`).
-/

namespace SceneFactory.Scene

variable {ε : Type}

/-! ## Changing one instance -/

theorem instance?_modifyInstance (scene : Scene ε) (i j : InstanceId) (f : Instance → Instance) :
    (scene.modifyInstance i f).instance? j =
      if i = j then (scene.instance? j).map f else scene.instance? j :=
  scene.instances.get?_modify i j f

@[simp] theorem container?_modifyInstance (scene : Scene ε) (i : InstanceId)
    (f : Instance → Instance) (c : ContainerId) :
    (scene.modifyInstance i f).container? c = scene.container? c := rfl

@[simp] theorem children_modifyInstance (scene : Scene ε) (i : InstanceId)
    (f : Instance → Instance) (c : ContainerId) :
    (scene.modifyInstance i f).children c = scene.children c := rfl

@[simp] theorem releases_modifyInstance (scene : Scene ε) (i : InstanceId)
    (f : Instance → Instance) : (scene.modifyInstance i f).releases = scene.releases := rfl

/-! ## Changing the children of one container -/

@[simp] theorem instance?_modifyChildren (scene : Scene ε) (c : ContainerId)
    (f : List InstanceId → List InstanceId) (i : InstanceId) :
    (scene.modifyChildren c f).instance? i = scene.instance? i := rfl

/-- The children of a container are changed, those of every other are not. -/
theorem children_modifyChildren (scene : Scene ε) (c d : ContainerId)
    (f : List InstanceId → List InstanceId) :
    (scene.modifyChildren c f).children d =
      if c = d ∧ (scene.container? d).isSome = true then f (scene.children d)
      else scene.children d := by
  unfold children container? modifyChildren
  rw [Numbered.get?_modify]
  by_cases hcd : c = d
  · subst hcd
    cases hg : scene.containers.get? c with
    | none => simp
    | some container =>
      cases hl : container.isLive <;> simp [Option.filter, hl]
  · simp [hcd]

theorem children_attachChild (scene : Scene ε) (c : ContainerId) (i : InstanceId)
    (h : (scene.container? c).isSome = true) :
    (scene.attachChild c i).children c =
      if i ∈ scene.children c then scene.children c else scene.children c ++ [i] := by
  unfold attachChild
  rw [children_modifyChildren, if_pos ⟨rfl, h⟩]

theorem children_attachChild_of_ne (scene : Scene ε) {c d : ContainerId} (i : InstanceId)
    (h : c ≠ d) : (scene.attachChild c i).children d = scene.children d := by
  unfold attachChild
  rw [children_modifyChildren, if_neg fun hc => h hc.1]

/-- A child that is taken out is in the list no more, and the others keep their
order. -/
theorem children_detachChild (scene : Scene ε) (c d : ContainerId) (i : InstanceId) :
    (scene.detachChild c i).2.children d =
      if c = d then (scene.children d).filter (· ≠ i) else scene.children d := by
  unfold detachChild
  rw [children_modifyChildren]
  by_cases hcd : c = d
  · subst hcd
    by_cases hs : (scene.container? c).isSome = true
    · simp [hs]
    · have hn : scene.container? c = none := by simpa using hs
      simp [children, hn]
  · simp [hcd]

/-! ## Adding -/

@[simp] theorem instance?_addInstance_self (scene : Scene ε) (uri : String) (o : SceneObject)
    (context : ContextId) :
    (scene.addInstance uri o context).2.instance? (scene.addInstance uri o context).1 =
      some (.new uri o context) :=
  scene.instances.get?_push_self _

theorem instance?_addInstance_of_ne (scene : Scene ε) (uri : String) (o : SceneObject)
    (context : ContextId) {i : InstanceId} (h : i ≠ (scene.addInstance uri o context).1) :
    (scene.addInstance uri o context).2.instance? i = scene.instance? i := by
  change (scene.instances.push _).get? i = scene.instances.get? i
  have hi : i ≠ scene.instances.next := h
  rw [Numbered.get?_push, if_neg hi]

@[simp] theorem children_addInstance (scene : Scene ε) (uri : String) (o : SceneObject)
    (context : ContextId) (c : ContainerId) :
    (scene.addInstance uri o context).2.children c = scene.children c := rfl

/-! ## Releasing -/

/-- An instance is released iff it is there and was not released before. -/
theorem release_eq_true_iff (scene : Scene ε) (i : InstanceId) :
    (scene.release i).1 = true ↔
      ∃ inst, scene.instance? i = some inst ∧ inst.state ≠ .destroyed := by
  unfold release
  cases scene.instance? i with
  | none => simp
  | some inst => by_cases h : inst.state = .destroyed <;> simp [h]

/-- After a release the instance is destroyed, and no other has changed. -/
theorem instance?_release (scene : Scene ε) (i j : InstanceId) :
    (scene.release i).2.instance? j =
      if i = j then (scene.instance? j).map fun inst =>
        if inst.state = .destroyed then inst else inst.asDestroyed
      else scene.instance? j := by
  unfold release
  cases hi : scene.instance? i with
  | none =>
    by_cases hij : i = j
    · subst hij
      simp [hi]
    · simp [hij]
  | some inst =>
    by_cases hd : inst.state = .destroyed
    · by_cases hij : i = j
      · subst hij
        simp [hd, hi]
      · simp [hd, hij]
    · have hm := scene.instance?_modifyInstance i j Instance.asDestroyed
      simp only [hd, if_false]
      change (scene.modifyInstance i Instance.asDestroyed).instance? j = _
      rw [hm]
      by_cases hij : i = j
      · subst hij
        simp [hi, hd]
      · simp [hij]

/-- What a release lets go is written down once, the object before its context. -/
theorem releases_release (scene : Scene ε) (i : InstanceId) :
    (scene.release i).2.releases = scene.releases ++
      (match scene.instance? i with
        | some inst => if inst.state = .destroyed then [] else inst.belongings
        | none => []) := by
  unfold release
  cases scene.instance? i with
  | none => simp
  | some inst =>
    by_cases h : inst.state = .destroyed
    · simp [h]
    · simp [h, recordReleases]

@[simp] theorem children_release (scene : Scene ε) (i : InstanceId) (c : ContainerId) :
    (scene.release i).2.children c = scene.children c := by
  unfold release
  cases scene.instance? i with
  | none => rfl
  | some inst =>
    by_cases h : inst.state = .destroyed
    · simp [h]
    · simp only [h, if_false]
      rfl

end SceneFactory.Scene
