import SceneFactory.Proofs.Creation.Batch
import SceneFactory.Proofs.Scene.Tree

/-!
# Children in order of creation

A construction that succeeds puts its instance behind the container's children, and one that fails
leaves them alone (`World.container?_construct`). So the instances of a batch are behind the
children that were there, in order (`Workshop.container?_constructEach`).
-/

set_option autoImplicit false

namespace SceneFactory

variable {H : Host}

/-- A container with more children behind the others. -/
def Container.withMore {ε : Type} (place : Container ε) (ids : List InstanceId) : Container ε :=
  ⟨place.name, place.context?, place.engine?, place.children ++ ids, place.isLive⟩

@[simp] theorem Container.withMore_nil {ε : Type} (place : Container ε) :
    place.withMore [] = place := by
  rw [withMore, List.append_nil]

theorem Container.withMore_withMore {ε : Type} (place : Container ε) (ids more : List InstanceId) :
    (place.withMore ids).withMore more = place.withMore (ids ++ more) := by
  simp [withMore]

/-- A construction puts what it makes behind the children of its container. -/
theorem World.container?_construct (w : World H) (h : w.scene.IsConsistent)
    (handle : TemplateHandle H.Template) {container : ContainerId} {place : Container H.Engine}
    (hplace : w.scene.container? container = some place) (rootContext : ContextId)
    (contextual direct : Attributes) :
    let result := w.construct handle container rootContext contextual direct
    result.2.scene.container? container = some (place.withMore result.1.toOption.toList) := by
  intro result
  obtain ⟨-, ⟨e, lost, he, -, hs⟩ | ⟨o, -, he, hs⟩ | ⟨o, -, hok, hs⟩⟩ :=
    w.construct_cases handle container rootContext contextual direct
  · rw [show result.1 = _ from he, show result.2.scene = _ from hs]
    exact hplace.trans (congrArg some place.withMore_nil.symm)
  · rw [show result.1 = _ from he, show result.2.scene = _ from hs, Scene.container?_release]
    exact hplace.trans (congrArg some place.withMore_nil.symm)
  · rw [show result.1 = _ from hok, show result.2.scene = _ from hs]
    have hnew : w.scene.instances.next ∉ place.children := by
      intro hmem
      exact Nat.not_succ_le_self _ (h.le_size_of_mem hplace hmem)
    have hlive : (w.scene.addInstance handle.uri o (w.contexts.newest + 1)).2.container?
        container = some place := hplace
    rw [Scene.container?_attach _ _ container hlive, if_pos rfl, if_neg hnew]
    rfl

namespace Workshop

variable {shop : Workshop H} {handle : TemplateHandle H.Template} {container : ContainerId}
  {place : Container H.Engine} (h : shop.world.scene.IsConsistent)
  (hplace : shop.world.scene.container? container = some place)

include h hplace

theorem container?_construct (handle : TemplateHandle H.Template)
    (contextual direct : Attributes) (ownership : Ownership) :
    let result := shop.construct handle container contextual direct ownership
    result.2.world.scene.container? container =
      some (place.withMore result.1.toOption.toList) := by
  intro result
  simp only [result]
  rw [world_construct, answer_construct]
  exact shop.world.container?_construct h handle hplace _ contextual direct

/-- A batch puts its instances behind the children of its container, in order. -/
theorem container?_constructEach (key : String) (base : Attributes) (ownership : Ownership)
    (values : List Value) :
    let made := constructEach handle container key base ownership values shop
    made.2.world.scene.container? container = some (place.withMore made.1) := by
  induction values generalizing shop place with
  | nil => exact hplace.trans (congrArg some place.withMore_nil.symm)
  | cons value rest ih =>
    have hfirst := container?_construct h hplace handle .empty (base.merged key value) ownership
    have hconsistent := h.changes
      (shop.changes_construct handle container .empty (base.merged key value) ownership)
    rw [constructEach]
    cases hc : shop.construct handle container .empty (base.merged key value) ownership with
    | mk result next =>
      rw [hc] at hfirst hconsistent
      have hrest := ih hconsistent hfirst
      dsimp only at hrest
      rw [Container.withMore_withMore] at hrest
      cases result with
      | error e => exact hrest
      | ok i => exact hrest

end Workshop

end SceneFactory
