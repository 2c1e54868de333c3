import Mathlib.Data.List.Nodup
import SceneFactory.Proofs.Release.Books
import SceneFactory.Proofs.Release.Fates

/-!
# The tracker agrees with the ledger

`Ledger.Agrees` relates a ledger, the two lists of a tracker and a scene: live are the
instances that are tracked and not yet unregistered, pending those that are unregistered
and not yet due, and destroyed those that are due.

There is one lemma for each thing a factory does, which carries the relation to the
ledger afterwards: `Agrees.flush`, `Agrees.destroyAll`, `Agrees.destroyEverything`,
`Agrees.handOut`. What the host does beside it leaves the ledger as it is
(`Agrees.of_resembles`).
-/

set_option autoImplicit false

namespace SceneFactory

variable {H : Host}

namespace Scene

variable {ε : Type}

/-! ## Whole instances -/

/-- The instance is not destroyed and has its object and its context. -/
def IsWhole (scene : Scene ε) (i : InstanceId) : Prop :=
  ∃ inst, scene.instance? i = some inst ∧ inst.state ≠ .destroyed ∧
    inst.object?.isSome = true ∧ inst.context?.isSome = true

theorem state?_of_instance? {scene : Scene ε} {i : InstanceId} {inst : Instance}
    (h : scene.instance? i = some inst) : scene.state? i = some inst.state := by
  rw [state?, h, Option.map_some]

theorem IsWhole.state?_ne {scene : Scene ε} {i : InstanceId} (h : scene.IsWhole i) :
    ∃ state, scene.state? i = some state ∧ state ≠ .destroyed := by
  obtain ⟨inst, hi, hs, -, -⟩ := h
  exact ⟨inst.state, state?_of_instance? hi, hs⟩

/-- One scene resembles another if it has the same instances, the same of them are
destroyed, and those that are kept are whole as before. -/
structure Resembles (kept : InstanceId → Prop) (scene scene' : Scene ε) : Prop where
  isSome : ∀ i, (scene'.instance? i).isSome = (scene.instance? i).isSome
  destroyed : ∀ i, scene'.state? i = some .destroyed ↔ scene.state? i = some .destroyed
  whole : ∀ i, kept i → scene.IsWhole i → scene'.IsWhole i

namespace Resembles

variable {kept : InstanceId → Prop} {scene scene' scene'' : Scene ε}

theorem of_instances (h : ∀ i, scene'.instance? i = scene.instance? i) :
    Resembles kept scene scene' := by
  refine ⟨?_, ?_, ?_⟩
  · intro i
    rw [h]
  · intro i
    rw [state?, state?, h]
  · rintro i - ⟨inst, hi, hrest⟩
    exact ⟨inst, (h i).trans hi, hrest⟩

theorem refl (scene : Scene ε) : Resembles kept scene scene := of_instances fun _ => rfl

theorem trans (h : Resembles kept scene scene') (h' : Resembles kept scene' scene'') :
    Resembles kept scene scene'' :=
  ⟨fun i => (h'.isSome i).trans (h.isSome i), fun i => (h'.destroyed i).trans (h.destroyed i),
    fun i hk hw => h'.whole i hk (h.whole i hk hw)⟩

end Resembles

/-- A change of one instance that destroys nothing leaves the scene alike, if the instance
is whole afterwards or not kept. -/
theorem Resembles.of_change {scene scene' : Scene ε} {kept : InstanceId → Prop}
    {i : InstanceId} {f : Instance → Instance}
    (hview : ∀ j, scene'.instance? j =
      if i = j then (scene.instance? j).map f else scene.instance? j)
    (hdestroyed : ∀ inst, (f inst).state = .destroyed ↔ inst.state = .destroyed)
    (hwhole : ∀ inst, kept i → inst.object?.isSome = true → inst.context?.isSome = true →
      (f inst).object?.isSome = true ∧ (f inst).context?.isSome = true) :
    Resembles kept scene scene' := by
  refine ⟨?_, ?_, ?_⟩
  · intro j
    rw [hview]
    by_cases hij : i = j
    · rw [if_pos hij, Option.isSome_map]
    · rw [if_neg hij]
  · intro j
    rw [state?, state?, hview]
    by_cases hij : i = j
    · rw [if_pos hij]
      cases scene.instance? j with
      | none => rfl
      | some inst => simpa using hdestroyed inst
    · rw [if_neg hij]
  · rintro j hk ⟨inst, hj, hs, ho, hc⟩
    by_cases hij : i = j
    · subst hij
      refine ⟨f inst, ?_, ?_, hwhole inst hk ho hc⟩
      · rw [hview, if_pos rfl, hj, Option.map_some]
      · intro hd
        exact hs ((hdestroyed inst).1 hd)
    · exact ⟨inst, by rw [hview, if_neg hij, hj], hs, ho, hc⟩

/-- A detached instance is still whole. -/
theorem resembles_detach (scene : Scene ε) (kept : InstanceId → Prop) (i : InstanceId)
    (access : Access) : Resembles kept scene (scene.detach i access).2 := by
  apply Resembles.of_change (scene.instance?_detach i access)
  · intro inst
    by_cases hs : inst.state = .attached <;> simp [hs, Instance.asDetached]
  · rintro inst - ho hc
    by_cases hs : inst.state = .attached
    · simp [hs, Instance.asDetached, ho, hc]
    · simp [hs, ho, hc]

/-- An instance that is not kept may be forgotten. -/
theorem resembles_forget (scene : Scene ε) {kept : InstanceId → Prop} {i : InstanceId}
    (h : ¬kept i) : Resembles kept scene (scene.forget i) := by
  apply Resembles.of_change (scene.instance?_forget i)
  · intro inst
    exact Iff.rfl
  · intro inst hk
    exact absurd hk h

theorem resembles_foldl_forget (scene : Scene ε) {kept : InstanceId → Prop}
    {ids : List InstanceId} (h : ∀ i ∈ ids, ¬kept i) :
    Resembles kept scene (ids.foldl forget scene) := by
  induction ids generalizing scene with
  | nil => exact Resembles.refl scene
  | cons i rest ih =>
    have hfirst := scene.resembles_forget (h i List.mem_cons_self)
    exact hfirst.trans (ih (scene.forget i) fun j hj => h j (List.mem_cons_of_mem i hj))

/-- What an instance lets go when it is released. -/
def belongings (scene : Scene ε) (i : InstanceId) : List Release :=
  (scene.instance? i).elim [] Instance.belongings

/-- A whole instance lets go of its object and then of the object's context. -/
theorem IsWhole.belongings {scene : Scene ε} {i : InstanceId} (h : scene.IsWhole i) :
    ∃ inst o k, scene.instance? i = some inst ∧ inst.state ≠ .destroyed ∧
      inst.object? = some o ∧ inst.context? = some k ∧
      scene.belongings i = [.object k, .context k] := by
  obtain ⟨inst, hi, hs, ho, hc⟩ := h
  obtain ⟨o, ho⟩ := Option.isSome_iff_exists.1 ho
  obtain ⟨k, hk⟩ := Option.isSome_iff_exists.1 hc
  refine ⟨inst, o, k, hi, hs, ho, hk, ?_⟩
  simp [Scene.belongings, hi, Instance.belongings, hk, ho]

end Scene

/-! ## Releasing one after the other -/

namespace Tracker

open Scene

variable {ε : Type}

/-- Detaching and releasing one instance leaves every other as it was. -/
theorem instance?_releaseOne_of_ne (scene : Scene ε) {access : Access} {i j : InstanceId}
    (h : i ≠ j) : ((scene.detach i access).2.release i).2.instance? j = scene.instance? j := by
  rw [instance?_release, if_neg h, instance?_detach, if_neg h]

theorem isSome_releaseOne (scene : Scene ε) (access : Access) (i j : InstanceId) :
    (((scene.detach i access).2.release i).2.instance? j).isSome =
      (scene.instance? j).isSome := by
  rw [instance?_release, instance?_detach]
  by_cases hij : i = j
  · rw [if_pos hij, if_pos hij, Option.isSome_map, Option.isSome_map]
  · rw [if_neg hij, if_neg hij]

/-- An instance is destroyed once it is released. -/
theorem state?_releaseOne (scene : Scene ε) {access : Access} {i : InstanceId}
    (h : (scene.instance? i).isSome = true) :
    ((scene.detach i access).2.release i).2.state? i = some .destroyed := by
  obtain ⟨inst, hi⟩ := Option.isSome_iff_exists.1 h
  rw [state?, instance?_release, if_pos rfl, instance?_detach, if_pos rfl, hi]
  by_cases hs : inst.state = .attached
  · simp [hs, Instance.asDetached, Instance.asDestroyed]
  · by_cases hd : inst.state = .destroyed <;> simp [hs, hd, Instance.asDestroyed]

/-- A whole instance is released with all that belongs to it. -/
theorem releaseOne_of_isWhole (scene : Scene ε) {access : Access} {i : InstanceId}
    (h : scene.IsWhole i) :
    ((scene.detach i access).2.release i).1 = true ∧
      ((scene.detach i access).2.release i).2.releases =
        scene.releases ++ scene.belongings i := by
  obtain ⟨inst, hi, hs, -, -⟩ := h
  have hview := scene.instance?_detach i access i
  rw [if_pos rfl, hi, Option.map_some] at hview
  by_cases hatt : inst.state = .attached
  · rw [if_pos hatt] at hview
    have halive : inst.asDetached.state ≠ .destroyed := by
      intro hd
      cases hd
    refine ⟨(release_eq_true_iff _ i).2 ⟨_, hview, halive⟩, ?_⟩
    rw [releases_release, hview, releases_detach]
    simp [hi, Scene.belongings, Instance.asDetached, Instance.belongings]
  · rw [if_neg hatt] at hview
    refine ⟨(release_eq_true_iff _ i).2 ⟨_, hview, hs⟩, ?_⟩
    rw [releases_release, hview, releases_detach]
    simp [hs, hi, Scene.belongings]

variable {busy : List ContainerId} (ids : List InstanceId)

theorem isSome_releaseAll (scene : Scene ε) (j : InstanceId) :
    ((releaseAll busy ids scene).2.instance? j).isSome = (scene.instance? j).isSome := by
  induction ids generalizing scene with
  | nil => rfl
  | cons i rest ih =>
    change ((releaseAll busy rest (scene.dismiss busy i).2).2.instance? j).isSome = _
    rw [ih, Scene.dismiss, isSome_releaseOne]

theorem instance?_releaseAll_of_not_mem (scene : Scene ε) {j : InstanceId} (h : j ∉ ids) :
    (releaseAll busy ids scene).2.instance? j = scene.instance? j := by
  induction ids generalizing scene with
  | nil => rfl
  | cons i rest ih =>
    rw [List.mem_cons, not_or] at h
    change (releaseAll busy rest (scene.dismiss busy i).2).2.instance? j = _
    rw [ih _ h.2, Scene.dismiss, instance?_releaseOne_of_ne scene (Ne.symm h.1)]

/-- What is released in turn is destroyed in the end. -/
theorem state?_releaseAll_of_mem (scene : Scene ε) {j : InstanceId} (hmem : j ∈ ids)
    (h : (scene.instance? j).isSome = true) :
    (releaseAll busy ids scene).2.state? j = some .destroyed := by
  induction ids generalizing scene with
  | nil => cases hmem
  | cons i rest ih =>
    change (releaseAll busy rest (scene.dismiss busy i).2).2.state? j = _
    -- a later release of the same instance decides, if there is one
    by_cases hrest : j ∈ rest
    · apply ih _ hrest
      rw [Scene.dismiss, isSome_releaseOne]
      exact h
    · rcases List.mem_cons.1 hmem with rfl | hmem
      · rw [state?, instance?_releaseAll_of_not_mem rest _ hrest]
        exact state?_releaseOne scene h
      · exact absurd hmem hrest

/-- Whole instances are released one after the other, each with all that belongs to
it, and all of them count. -/
theorem releaseAll_of_isWhole (scene : Scene ε) (hnodup : ids.Nodup)
    (h : ∀ i ∈ ids, scene.IsWhole i) :
    (releaseAll busy ids scene).1 = ids.length ∧
      (releaseAll busy ids scene).2.releases = scene.releases ++ ids.flatMap scene.belongings := by
  induction ids generalizing scene with
  | nil => exact ⟨rfl, (List.append_nil _).symm⟩
  | cons i rest ih =>
    obtain ⟨hi, hrest⟩ := List.nodup_cons.1 hnodup
    -- as no instance comes twice, the others are as whole afterwards as before
    let next := (scene.dismiss busy i).2
    have hother : ∀ j ∈ rest, next.instance? j = scene.instance? j := by
      intro j hj
      refine instance?_releaseOne_of_ne scene ?_
      rintro rfl
      exact hi hj
    have hwhole : ∀ j ∈ rest, next.IsWhole j := by
      intro j hj
      obtain ⟨inst, hinst, hrest⟩ := h j (List.mem_cons_of_mem i hj)
      exact ⟨inst, (hother j hj).trans hinst, hrest⟩
    obtain ⟨hreleased, hwritten⟩ : (scene.dismiss busy i).1 = true ∧
        next.releases = scene.releases ++ scene.belongings i :=
      releaseOne_of_isWhole scene (h i List.mem_cons_self)
    obtain ⟨hcount, hreleases⟩ := ih next hrest hwhole
    have hsame : rest.flatMap next.belongings = rest.flatMap scene.belongings := by
      apply List.flatMap_congr
      intro j hj
      rw [Scene.belongings, hother j hj, Scene.belongings]
    refine ⟨?_, ?_⟩
    · change (releaseAll busy rest next).1 + (scene.dismiss busy i).1.toNat = _
      rw [hcount, hreleased]
      rfl
    · change (releaseAll busy rest next).2.releases = _
      rw [hreleases, hsame, List.flatMap_cons, ← List.append_assoc]
      exact congrArg (· ++ _) hwritten

end Tracker

/-! ## Agreement -/

namespace Ledger

variable {ε : Type}

/-- A tracker and a scene are as a ledger says. -/
structure Agrees (l : Ledger) (t : Tracker) (scene : Scene ε) : Prop where
  mem_live : ∀ {i : InstanceId}, i ∈ t.live ↔ l.tracked i ∧ ¬l.unregistered i
  mem_pending : ∀ {i : InstanceId}, i ∈ t.pending ↔ l.unregistered i ∧ ¬l.due i
  nodup_pending : t.pending.Nodup
  tracked_of_unregistered : ∀ {i : InstanceId}, l.unregistered i → l.tracked i
  unregistered_of_due : ∀ {i : InstanceId}, l.due i → l.unregistered i
  /-- No instance is handed out in both ways. -/
  apart : ∀ {i : InstanceId}, l.tracked i → ¬l.delegated i
  whole : ∀ {i : InstanceId}, l.tracked i → ¬l.due i → scene.IsWhole i
  destroyed : ∀ {i : InstanceId}, l.due i → scene.state? i = some .destroyed
  delegated : ∀ {i : InstanceId}, l.delegated i →
    (scene.instance? i).isSome = true ∧ scene.state? i ≠ some .destroyed
  /-- An instance that was never handed out was released at once. -/
  unclaimed : ∀ {i : InstanceId}, (scene.instance? i).isSome = true → ¬l.tracked i →
    ¬l.delegated i → scene.state? i = some .destroyed

theorem agrees_empty :
    (ofTrace ([] : List (Event H))).Agrees Tracker.empty (Scene.empty : Scene ε) := by
  have hu : ∀ i, ¬wasUnregistered ([] : List (Event H)) i := by
    rintro i ⟨before, e, later, h, -⟩
    cases before <;> cases h
  have hc : ∀ ownership i, ¬wasCreated ([] : List (Event H)) ownership i := by
    rintro ownership i ⟨e, h, -⟩
    cases h
  have hd : ∀ i, ¬wasDue ([] : List (Event H)) i := fun i h => hu i (wasUnregistered_of_wasDue h)
  refine ⟨?_, ?_, List.nodup_nil, ?_, ?_, ?_, ?_, ?_, ?_, ?_⟩
  · intro i
    exact ⟨fun h => absurd h List.not_mem_nil, fun h => absurd h.1 (hc .tracked i)⟩
  · intro i
    exact ⟨fun h => absurd h List.not_mem_nil, fun h => absurd h.1 (hu i)⟩
  · intro i h
    exact absurd h (hu i)
  · intro i h
    exact absurd h (hd i)
  · intro i h
    exact absurd h (hc .tracked i)
  · intro i h
    exact absurd h (hc .tracked i)
  · intro i h
    exact absurd h (hd i)
  · intro i h
    exact absurd h (hc .delegated i)
  · intro i h
    simp [Scene.instance?, Scene.empty] at h

namespace Agrees

variable {l : Ledger} {t : Tracker} {scene scene' : Scene ε} (h : l.Agrees t scene)

include h

/-- What was handed out exists. -/
theorem isSome_of_tracked {i : InstanceId} (hi : l.tracked i) :
    (scene.instance? i).isSome = true := by
  by_cases hd : l.due i
  · have hs := h.destroyed hd
    rw [Scene.state?] at hs
    obtain ⟨inst, hinst, -⟩ := Option.map_eq_some_iff.1 hs
    rw [hinst]
    rfl
  · obtain ⟨inst, hinst, -⟩ := h.whole hi hd
    rw [hinst]
    rfl

theorem isWhole_of_mem_pending {i : InstanceId} (hi : i ∈ t.pending) : scene.IsWhole i := by
  obtain ⟨hu, hd⟩ := h.mem_pending.1 hi
  exact h.whole (h.tracked_of_unregistered hu) hd

/-- Who was handed out is destroyed exactly when it is due. -/
theorem destroyed_iff {i : InstanceId} (hi : l.tracked i ∨ l.delegated i) :
    scene.state? i = some .destroyed ↔ l.due i := by
  refine ⟨?_, h.destroyed⟩
  intro hs
  by_contra hd
  rcases hi with hi | hi
  · obtain ⟨state, hstate, hne⟩ := (h.whole hi hd).state?_ne
    rw [hs] at hstate
    exact hne (Option.some.inj hstate).symm
  · exact (h.delegated hi).2 hs

/-- What resembles the scene agrees as well, if the instances that the tracker needs
are kept. -/
theorem of_resembles {kept : InstanceId → Prop} (hr : scene.Resembles kept scene')
    (hkept : ∀ {i : InstanceId}, l.tracked i → ¬l.due i → kept i) : l.Agrees t scene' := by
  refine ⟨h.mem_live, h.mem_pending, h.nodup_pending, h.tracked_of_unregistered,
    h.unregistered_of_due, h.apart, ?_, ?_, ?_, ?_⟩
  · intro i hi hd
    exact hr.whole i (hkept hi hd) (h.whole hi hd)
  · intro i hd
    exact (hr.destroyed i).2 (h.destroyed hd)
  · intro i hi
    obtain ⟨hsome, halive⟩ := h.delegated hi
    refine ⟨(hr.isSome i).trans hsome, ?_⟩
    intro hs
    exact halive ((hr.destroyed i).1 hs)
  · intro i hsome ht hd
    rw [hr.isSome] at hsome
    exact (hr.destroyed i).2 (h.unclaimed hsome ht hd)

/-- Only the members of the two lists matter. -/
theorem of_tracker {t' : Tracker} (hl : ∀ i, i ∈ t'.live ↔ i ∈ t.live)
    (hp : t'.pending = t.pending) : l.Agrees t' scene :=
  ⟨(hl _).trans h.mem_live, by rw [hp]; exact h.mem_pending, hp ▸ h.nodup_pending,
    h.tracked_of_unregistered, h.unregistered_of_due, h.apart, h.whole, h.destroyed,
    h.delegated, h.unclaimed⟩

/-- After a safe point all that was unregistered is destroyed. -/
theorem flush {busy : List ContainerId} :
    l.settleUp.Agrees (t.flush busy scene).2.1 (t.flush busy scene).2.2 := by
  have hwaits : ∀ {i : InstanceId}, ¬l.settleUp.due i → i ∉ t.pending := by
    intro i hd hmem
    exact hd (Or.inr (h.mem_pending.1 hmem).1)
  have hsame : ∀ {i : InstanceId}, i ∉ t.pending →
      (t.flush busy scene).2.2.instance? i = scene.instance? i :=
    Tracker.instance?_releaseAll_of_not_mem t.pending scene
  refine ⟨h.mem_live, ?_, List.nodup_nil, h.tracked_of_unregistered, ?_, h.apart, ?_, ?_, ?_, ?_⟩
  · intro i
    refine ⟨fun hmem => absurd hmem List.not_mem_nil, ?_⟩
    rintro ⟨hu, hd⟩
    exact absurd (Or.inr hu) hd
  · rintro i (hd | hu)
    · exact h.unregistered_of_due hd
    · exact hu
  · intro i hi hd
    obtain ⟨inst, hinst, hrest⟩ := h.whole hi fun hdue => hd (Or.inl hdue)
    exact ⟨inst, (hsame (hwaits hd)).trans hinst, hrest⟩
  · intro i hd
    by_cases hmem : i ∈ t.pending
    · refine Tracker.state?_releaseAll_of_mem t.pending scene hmem ?_
      exact h.isSome_of_tracked (h.tracked_of_unregistered (h.mem_pending.1 hmem).1)
    · have hdue : l.due i := by
        rcases hd with hd | hu
        · exact hd
        · by_contra hd
          exact hmem (h.mem_pending.2 ⟨hu, hd⟩)
      rw [Scene.state?, hsame hmem]
      exact h.destroyed hdue
  · intro i hi
    have hmem : i ∉ t.pending := by
      intro hmem
      exact h.apart (h.tracked_of_unregistered (h.mem_pending.1 hmem).1) hi
    rw [Scene.state?, hsame hmem]
    exact h.delegated hi
  · intro i hsome ht hd
    have hmem : i ∉ t.pending := by
      intro hmem
      exact ht (h.tracked_of_unregistered (h.mem_pending.1 hmem).1)
    rw [hsame hmem] at hsome
    rw [Scene.state?, hsame hmem]
    exact h.unclaimed hsome ht hd

/-- A destroyed instance waits for the next safe point. -/
theorem destroy (i : InstanceId) : (l.unregister (· = i)).Agrees (t.destroy i).2 scene := by
  have hlive : ∀ {j : InstanceId},
      j ∈ (t.destroy i).2.live ↔ j ∈ t.live ∧ j ≠ i := by
    intro j
    rw [Tracker.destroy]
    split
    · simp
    · rename_i hi
      exact ⟨fun hj => ⟨hj, fun heq => hi (heq ▸ hj)⟩, And.left⟩
  have hpending : (t.destroy i).2.pending =
      if i ∈ t.live then t.pending ++ [i] else t.pending := by
    rw [Tracker.destroy]
    split <;> rfl
  have hnew : i ∈ t.live → i ∉ t.pending := by
    intro hi hmem
    exact (h.mem_live.1 hi).2 (h.mem_pending.1 hmem).1
  refine ⟨?_, ?_, ?_, ?_, ?_, h.apart, h.whole, h.destroyed, h.delegated, h.unclaimed⟩
  · intro j
    rw [hlive, h.mem_live]
    constructor
    · rintro ⟨⟨ht, hu⟩, hne⟩
      refine ⟨ht, ?_⟩
      rintro (hu' | ⟨-, rfl⟩)
      · exact hu hu'
      · exact hne rfl
    · rintro ⟨ht, hu⟩
      exact ⟨⟨ht, fun hu' => hu (Or.inl hu')⟩, fun heq => hu (Or.inr ⟨ht, heq⟩)⟩
  · intro j
    rw [hpending]
    constructor
    · intro hj
      split at hj
      · rename_i hi
        rcases List.mem_append.1 hj with hj | hj
        · obtain ⟨hu, hd⟩ := h.mem_pending.1 hj
          exact ⟨Or.inl hu, hd⟩
        · cases List.mem_singleton.1 hj
          obtain ⟨ht, hu⟩ := h.mem_live.1 hi
          exact ⟨Or.inr ⟨ht, rfl⟩, fun hd => hu (h.unregistered_of_due hd)⟩
      · obtain ⟨hu, hd⟩ := h.mem_pending.1 hj
        exact ⟨Or.inl hu, hd⟩
    · rintro ⟨hu, hd⟩
      by_cases hold : l.unregistered j
      · have hj := h.mem_pending.2 ⟨hold, hd⟩
        split
        · exact List.mem_append_left [i] hj
        · exact hj
      · rcases hu with hu | ⟨ht, rfl⟩
        · exact absurd hu hold
        · rw [if_pos (h.mem_live.2 ⟨ht, hold⟩)]
          exact List.mem_append_right t.pending List.mem_cons_self
  · rw [hpending]
    split
    · rename_i hi
      rw [List.nodup_append]
      refine ⟨h.nodup_pending, List.nodup_singleton i, ?_⟩
      rintro a ha b hb rfl
      cases List.mem_singleton.1 hb
      exact hnew hi ha
    · exact h.nodup_pending
  · rintro j (hu | ⟨ht, -⟩)
    · exact h.tracked_of_unregistered hu
    · exact ht
  · intro j hd
    exact Or.inl (h.unregistered_of_due hd)

/-- After teardown's first half everything that was tracked waits. -/
theorem destroyEverything :
    (l.unregister fun _ => True).Agrees t.destroyEverything.2 scene := by
  have hall : ∀ {j : InstanceId}, l.unregistered j ∨ (l.tracked j ∧ True) ↔ l.tracked j := by
    intro j
    refine ⟨?_, fun ht => Or.inr ⟨ht, trivial⟩⟩
    rintro (hu | ⟨ht, -⟩)
    · exact h.tracked_of_unregistered hu
    · exact ht
  refine ⟨?_, ?_, ?_, hall.1, ?_, h.apart, h.whole, h.destroyed, h.delegated, h.unclaimed⟩
  · intro j
    refine ⟨fun hmem => absurd hmem List.not_mem_nil, ?_⟩
    rintro ⟨ht, hu⟩
    exact absurd (hall.2 ht) hu
  · intro j
    change j ∈ t.pending ++ t.live ↔ _
    rw [List.mem_append, h.mem_pending, h.mem_live]
    constructor
    · rintro (⟨hu, hd⟩ | ⟨ht, hu⟩)
      · exact ⟨Or.inl hu, hd⟩
      · exact ⟨Or.inr ⟨ht, trivial⟩, fun hd => hu (h.unregistered_of_due hd)⟩
    · rintro ⟨hu, hd⟩
      by_cases hold : l.unregistered j
      · exact Or.inl ⟨hold, hd⟩
      · exact Or.inr ⟨hall.1 hu, hold⟩
  · change (t.pending ++ t.live).Nodup
    rw [List.nodup_append]
    refine ⟨h.nodup_pending, t.nodup_live, ?_⟩
    rintro a ha b hb rfl
    exact (h.mem_live.1 hb).2 (h.mem_pending.1 ha).1
  · intro j hd
    exact Or.inl (h.unregistered_of_due hd)

/-- A fresh whole instance may be handed out in either way. -/
theorem handOut {new : InstanceId} (hnew : scene.instance? new = none)
    (hother : ∀ {i : InstanceId}, i ≠ new → scene'.instance? i = scene.instance? i)
    (hwhole : scene'.IsWhole new) {t' : Tracker} (ownership : Ownership)
    (ht' : t' = match ownership with
      | .tracked => t.register new
      | .delegated => t) :
    (l.handOut ownership [new]).Agrees t' scene' := by
  -- the ledger knows nothing of an instance that is not there yet
  have htracked : ¬l.tracked new := by
    intro ht
    have hsome := h.isSome_of_tracked ht
    rw [hnew] at hsome
    cases hsome
  have hdelegated : ¬l.delegated new := by
    intro hd
    have hsome := (h.delegated hd).1
    rw [hnew] at hsome
    cases hsome
  have hunregistered : ¬l.unregistered new := fun hu => htracked (h.tracked_of_unregistered hu)
  have hdue : ¬l.due new := fun hd => hunregistered (h.unregistered_of_due hd)
  have hpending : t'.pending = t.pending := by
    rw [ht']
    cases ownership <;> rfl
  refine ⟨?_, ?_, ?_, ?_, h.unregistered_of_due, ?_, ?_, ?_, ?_, ?_⟩
  · intro i
    have hlive : i ∈ t'.live ↔ i ∈ t.live ∨ (ownership = .tracked ∧ i = new) := by
      rw [ht']
      cases ownership with
      | delegated => simp
      | tracked => simpa using t.mem_live_register new i
    rw [hlive, h.mem_live]
    constructor
    · rintro (⟨ht, hu⟩ | ⟨hown, rfl⟩)
      · exact ⟨Or.inl ht, hu⟩
      · exact ⟨Or.inr ⟨hown, List.mem_cons_self⟩, hunregistered⟩
    · rintro ⟨ht | ⟨hown, hmem⟩, hu⟩
      · exact Or.inl ⟨ht, hu⟩
      · exact Or.inr ⟨hown, List.mem_singleton.1 hmem⟩
  · intro i
    rw [hpending]
    exact h.mem_pending
  · rw [hpending]
    exact h.nodup_pending
  · intro i hu
    exact Or.inl (h.tracked_of_unregistered hu)
  · rintro i (ht | ⟨hown, hmem⟩) (hd | ⟨hown', hmem'⟩)
    · exact h.apart ht hd
    · cases List.mem_singleton.1 hmem'
      exact htracked ht
    · cases List.mem_singleton.1 hmem
      exact hdelegated hd
    · rw [hown] at hown'
      cases hown'
  · intro i ht hd
    by_cases hi : i = new
    · rw [hi]
      exact hwhole
    · rcases ht with ht | ⟨-, hmem⟩
      · obtain ⟨inst, hinst, hrest⟩ := h.whole ht hd
        exact ⟨inst, (hother hi).trans hinst, hrest⟩
      · exact absurd (List.mem_singleton.1 hmem) hi
  · intro i hd
    have hi : i ≠ new := by
      rintro rfl
      exact hdue hd
    rw [Scene.state?, hother hi]
    exact h.destroyed hd
  · intro i hd
    by_cases hi : i = new
    · obtain ⟨state, hs, hne⟩ := hwhole.state?_ne
      obtain ⟨inst, hinst, -⟩ := hwhole
      rw [hi]
      refine ⟨by rw [hinst]; rfl, ?_⟩
      rw [hs]
      intro heq
      exact hne (Option.some.inj heq)
    · rcases hd with hd | ⟨-, hmem⟩
      · rw [Scene.state?, hother hi]
        exact h.delegated hd
      · exact absurd (List.mem_singleton.1 hmem) hi
  · intro i hsome ht hd
    have hi : i ≠ new := by
      rintro rfl
      cases ownership with
      | tracked => exact ht (Or.inr ⟨rfl, List.mem_cons_self⟩)
      | delegated => exact hd (Or.inr ⟨rfl, List.mem_cons_self⟩)
    rw [hother hi] at hsome
    rw [Scene.state?, hother hi]
    exact h.unclaimed hsome (fun ht' => ht (Or.inl ht')) fun hd' => hd (Or.inl hd')

/-- An instance that is destroyed from the start needs not be handed out. -/
theorem reject {new : InstanceId} (hnew : scene.instance? new = none)
    (hother : ∀ {i : InstanceId}, i ≠ new → scene'.instance? i = scene.instance? i)
    (hself : scene'.state? new = some .destroyed) : l.Agrees t scene' := by
  have hne : ∀ {i : InstanceId}, (scene.instance? i).isSome = true → i ≠ new := by
    rintro i hsome rfl
    rw [hnew] at hsome
    cases hsome
  refine ⟨h.mem_live, h.mem_pending, h.nodup_pending, h.tracked_of_unregistered,
    h.unregistered_of_due, h.apart, ?_, ?_, ?_, ?_⟩
  · intro i ht hd
    obtain ⟨inst, hinst, hrest⟩ := h.whole ht hd
    exact ⟨inst, (hother (hne (h.isSome_of_tracked ht))).trans hinst, hrest⟩
  · intro i hd
    have ht := h.tracked_of_unregistered (h.unregistered_of_due hd)
    rw [Scene.state?, hother (hne (h.isSome_of_tracked ht))]
    exact h.destroyed hd
  · intro i hd
    rw [Scene.state?, hother (hne (h.delegated hd).1)]
    exact h.delegated hd
  · intro i hsome ht hd
    by_cases hi : i = new
    · rw [hi]
      exact hself
    · rw [hother hi] at hsome
      rw [Scene.state?, hother hi]
      exact h.unclaimed hsome ht hd

end Agrees

end Ledger

end SceneFactory
