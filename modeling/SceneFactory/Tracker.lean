import SceneFactory.Scene.Basic

/-!
# Instances whose destruction the caller controls

A tracker knows instances in the order in which they were registered. Destroying
one is done in two phases: it is unregistered and queued, and the next flush
detaches and releases everything queued.

Main statements: only what is tracked can be destroyed (`destroy_eq_true_iff`), and a
flush leaves nothing queued (`pending_flush`).
-/

namespace SceneFactory

/-- Registered instances, and those that wait for release. -/
structure Tracker where
  live : List InstanceId
  pending : List InstanceId
  nodup_live : live.Nodup := by simp

namespace Tracker

/-- The tracker that knows nothing. -/
def empty : Tracker := { live := [], pending := [] }

instance : Inhabited Tracker := ⟨empty⟩

/-- Whether an instance is registered. -/
def isTracked (t : Tracker) (i : InstanceId) : Bool := i ∈ t.live

/-- Registers an instance; one that is registered keeps its place. -/
def register (t : Tracker) (i : InstanceId) : Tracker where
  live := if i ∈ t.live then t.live else t.live ++ [i]
  pending := t.pending
  nodup_live := by
    split
    · exact t.nodup_live
    · rename_i h
      refine List.nodup_append.2 ⟨t.nodup_live, by simp, ?_⟩
      intro a ha b hb
      simp only [List.mem_singleton] at hb
      subst hb
      exact fun hab => h (hab ▸ ha)

/-- Unregisters an instance and queues it. Says whether it was registered. -/
def destroy (t : Tracker) (i : InstanceId) : Bool × Tracker :=
  if i ∈ t.live then
    (true, ⟨t.live.filter (· ≠ i), t.pending ++ [i], List.filter_sublist.nodup t.nodup_live⟩)
  else (false, t)

/-- Destroys instances one after the other, and says how many were registered. -/
def destroyAll : List InstanceId → Tracker → Nat × Tracker
  | [], t => (0, t)
  | i :: rest, t =>
    let (known, t) := t.destroy i
    let (count, t) := destroyAll rest t
    (count + known.toNat, t)

/-- Destroys every registered instance, and says how many there were. -/
def destroyEverything (t : Tracker) : Nat × Tracker :=
  (t.live.length, ⟨[], t.pending ++ t.live, by simp⟩)

/-- Detaches and releases instances one after the other, while others are at work on some
containers, and says how many were not released before. -/
def releaseAll {ε : Type} (busy : List ContainerId) :
    List InstanceId → Scene ε → Nat × Scene ε
  | [], scene => (0, scene)
  | i :: rest, scene =>
    let (released, scene) := scene.dismiss busy i
    let (count, scene) := releaseAll busy rest scene
    (count + released.toNat, scene)

/-- Releases everything that waits for it, while others are at work on some containers, and
says how many instances that were. -/
def flush {ε : Type} (t : Tracker) (busy : List ContainerId) (scene : Scene ε) :
    Nat × Tracker × Scene ε :=
  let (count, scene) := releaseAll busy t.pending scene
  (count, ⟨t.live, [], t.nodup_live⟩, scene)

/-- The instances that a tracker keeps from being forgotten. -/
def held (t : Tracker) : List InstanceId := t.live ++ t.pending

/-! ## Laws -/

/-- Exactly what is registered can be destroyed. -/
theorem destroy_eq_true_iff (t : Tracker) (i : InstanceId) :
    (t.destroy i).1 = true ↔ i ∈ t.live := by
  unfold destroy
  split <;> simp_all

/-- What was destroyed is not registered any more. -/
theorem not_mem_live_destroy (t : Tracker) (i : InstanceId) : i ∉ (t.destroy i).2.live := by
  unfold destroy
  split <;> simp_all

theorem mem_live_register (t : Tracker) (i j : InstanceId) :
    j ∈ (t.register i).live ↔ j ∈ t.live ∨ j = i := by
  unfold register
  simp only
  split <;> simp_all

/-- A flush leaves nothing waiting. -/
theorem pending_flush {ε : Type} (t : Tracker) (busy : List ContainerId) (scene : Scene ε) :
    (t.flush busy scene).2.1.pending = [] := rfl

/-- A flush unregisters nothing. -/
theorem live_flush {ε : Type} (t : Tracker) (busy : List ContainerId) (scene : Scene ε) :
    (t.flush busy scene).2.1.live = t.live := rfl

end Tracker

end SceneFactory
