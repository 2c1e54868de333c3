import SceneFactory.Proofs.World.Change

/-!
# How a construction fails

A construction can fail at three stages, and what was built until then is let go at each of
them: the context alone if there is no object yet, and else the object before its context.
`FactoryError.lost` says which of the two, error by error. Main statement:
`World.construct_error` — beside the context that it was made in and what it writes down as
let go, a construction that fails leaves nothing.
-/

set_option autoImplicit false

namespace SceneFactory

variable {H : Host}

namespace FactoryError

/-- Whether an error comes from a construction, and not from obtaining the template. -/
def isOfConstruction : FactoryError → Bool
  | .constructionFailed _ | .completionFailed _ _ | .incompatibleType _ _ => true
  | _ => false

/-- What is let go before an error is reported, of a construction in a context. -/
def lost (k : ContextId) : FactoryError → List Release
  | .constructionFailed _ => [.context k]
  | .completionFailed _ _ | .incompatibleType _ _ => [.object k, .context k]
  | _ => []

theorem lost_of_not_isOfConstruction (k : ContextId) {e : FactoryError}
    (h : e.isOfConstruction = false) : e.lost k = [] := by
  cases e <;> first | rfl | cases h

end FactoryError

namespace Scene

variable {ε : Type}

/-- The second scene is the first with something let go, and perhaps with instances that
were destroyed as soon as they were made. -/
structure Abandons (scene scene' : Scene ε) (lost : List Release) : Prop where
  containers : scene'.containers = scene.containers
  releases : scene'.releases = scene.releases ++ lost
  /-- Instances that were there are as they were. -/
  old : ∀ {i : InstanceId}, i ≤ scene.instances.size → scene'.instance? i = scene.instance? i
  /-- Instances that were not there hold nothing. -/
  new : ∀ {i : InstanceId} {inst : Instance}, scene.instances.size < i →
    scene'.instance? i = some inst → inst = (inst.asDestroyed)

theorem Abandons.refl (scene : Scene ε) : scene.Abandons scene [] where
  containers := rfl
  releases := (List.append_nil _).symm
  old _ := rfl
  new hlt hi := by
    rw [(scene.instance?_eq_none_iff _).2 (Or.inr hlt)] at hi
    cases hi

theorem abandons_recordReleases (scene : Scene ε) (lost : List Release) :
    scene.Abandons (scene.recordReleases lost) lost where
  containers := rfl
  releases := rfl
  old _ := rfl
  new hlt hi := by
    rw [instance?_recordReleases, (scene.instance?_eq_none_iff _).2 (Or.inr hlt)] at hi
    cases hi

/-- An instance that is released as soon as it is made loses its object and then its
context. -/
theorem abandons_release_addInstance (scene : Scene ε) (uri : String) (o : SceneObject)
    (k : ContextId) :
    scene.Abandons ((scene.addInstance uri o k).2.release scene.instances.next).2
      [.object k, .context k] := by
  have hself : (scene.addInstance uri o k).2.instance? scene.instances.next =
      some (.new uri o k) := scene.instance?_addInstance_self uri o k
  refine ⟨?_, ?_, ?_, ?_⟩
  · simp only [release, hself]
    rfl
  · rw [releases_release, hself]
    rfl
  · intro i hle
    have hne : i ≠ scene.instances.next := Nat.ne_of_lt (Nat.lt_succ_of_le hle)
    rw [instance?_release, if_neg hne.symm, scene.instance?_addInstance_of_ne uri o k hne]
  · intro i inst hlt hi
    rw [instance?_release] at hi
    by_cases hnext : scene.instances.next = i
    · rw [if_pos hnext, ← hnext, hself] at hi
      cases hi
      rfl
    · rw [if_neg hnext, scene.instance?_addInstance_of_ne uri o k (Ne.symm hnext),
        (scene.instance?_eq_none_iff i).2 (Or.inr hlt)] at hi
      cases hi

end Scene

/-- What a construction that fails leaves: a context, and the note of what was let go. An
object is let go if and only if one was begun. -/
theorem World.construct_error (w : World H) (handle : TemplateHandle H.Template)
    (container : ContainerId) (rootContext : ContextId) (contextual direct : Attributes)
    {e : FactoryError} {w' : World H}
    (h : w.construct handle container rootContext contextual direct = (.error e, w')) :
    let k := w.contexts.newest + 1
    e.isOfConstruction = true ∧
      w'.contexts = (w.enter container rootContext contextual).contexts ∧
      w.scene.Abandons w'.scene (e.lost k) ∧
      (e.lost k).count (.object k) = (H.construct handle.template
        (w.enter container rootContext contextual).surroundings w.state).1.isSome.toNat := by
  intro k
  have hk : (w.enter container rootContext contextual).contexts.newest = k :=
    w.newest_enter container rootContext contextual
  have hstate : (w.enter container rootContext contextual).state = w.state := rfl
  simp only [construct, hstate] at h
  rw [show (w.enter container rootContext contextual).surroundings.context = k from hk] at h
  split at h
  · rename_i state hnone
    cases h
    refine ⟨rfl, rfl, Scene.abandons_recordReleases _ _, ?_⟩
    rw [hnone]
    rfl
  · rename_i o state hsome
    have hbegun : [Release.object k, .context k].count (.object k) = (H.construct handle.template
        (w.enter container rootContext contextual).surroundings w.state).1.isSome.toNat := by
      rw [hsome]
      simp
    split at h
    · cases h
      exact ⟨rfl, rfl, Scene.abandons_recordReleases _ _, hbegun⟩
    · rename_i o' _ _
      dsimp only [place, withState] at h
      rw [hk] at h
      by_cases hv : o'.isVisual = true
      · rw [if_pos hv] at h
        cases h
      · rw [if_neg hv] at h
        cases h
        exact ⟨rfl, rfl, Scene.abandons_release_addInstance _ _ _ _, hbegun⟩

end SceneFactory
