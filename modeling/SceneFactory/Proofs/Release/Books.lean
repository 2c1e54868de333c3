import SceneFactory.Proofs.World.Change

/-!
# The books of what is let go

A scene writes down every object and every context that it lets go. The books are in
order (`Scene.IsBooked`) when nothing was written down twice and nothing that an
instance still holds was written down at all.

A move of a world is an elementary change, or the host's own hand in the lists of
children (`World.Move`); every operation of a session is a sequence of moves
(`Session.moves_perform`). Every move keeps the books in order
(`Scene.IsBooked.move`), and what was written down once stays
(`World.Move.releases_grow`).
-/

set_option autoImplicit false

namespace SceneFactory

variable {H : Host}

/-- The context that was let go, or whose object was. -/
def Release.origin : Release → ContextId
  | .object k => k
  | .context k => k

/-! ## Moves -/

namespace World

/-- One move of a world: an elementary change, or the host at work on the children of a
container. -/
inductive Move : World H → World H → Prop where
  | change {w w' : World H} (change : Change w w') : Move w w'
  /-- The host puts a child into a list. -/
  | attachChild (w : World H) (c : ContainerId) (i : InstanceId) :
      Move w (w.withScene (w.scene.attachChild c i))
  /-- The host takes a child out of a list. -/
  | detachChild (w : World H) (c : ContainerId) (i : InstanceId) :
      Move w (w.withScene (w.scene.detachChild c i).2)
  /-- An instance is detached while the host is at work on its container. -/
  | detachBusy (w : World H) (i : InstanceId) :
      Move w (w.withScene (w.scene.detach i .busy).2)

/-- A sequence of moves. -/
abbrev Moves : World H → World H → Prop := Relation.ReflTransGen Move

theorem Changes.moves {w w' : World H} (h : Changes w w') : Moves w w' :=
  Relation.ReflTransGen.mono (fun _ _ => .change) w w' h

/-- An instance that leaves no list is detached first, and then released without being
detached. -/
theorem moves_dismiss (w : World H) (busy : List ContainerId) (i : InstanceId) :
    Moves w (w.withScene (w.scene.dismiss busy i).2) := by
  rw [Scene.dismiss]
  cases w.scene.accessTo busy i with
  | free => exact Relation.ReflTransGen.single (.change (.release i rfl rfl))
  | busy =>
    let detached := w.scene.detach i .busy
    have hstays : (detached.2.detach i .free).2 = detached.2 :=
      detached.2.detach_of_not_attached i .free (w.scene.state?_detach_self i .busy)
    have hfirst : Move w (w.withScene detached.2) := .detachBusy w i
    refine Relation.ReflTransGen.head hfirst (Relation.ReflTransGen.single (.change ?_))
    exact .release i rfl (congrArg (fun scene => (scene.release i).2) hstays.symm)

/-- Releasing one instance after the other is a sequence of moves, whatever containers others
are at work on. -/
theorem moves_releaseAll (w : World H) (busy : List ContainerId) (ids : List InstanceId) :
    Moves w (w.withScene (Tracker.releaseAll busy ids w.scene).2) := by
  induction ids generalizing w with
  | nil => exact Relation.ReflTransGen.refl
  | cons i rest ih => exact (w.moves_dismiss busy i).trans (ih _)

end World

/-- Every operation is a sequence of moves. -/
theorem Session.moves_perform (s : Session H) (op : Operation H) :
    World.Moves s.world (s.perform op).2.world := by
  by_cases h : op.isTidy = true
  · exact (s.changes_perform op h).moves
  · -- what is not tidy is one move, or a flush beside the host's work on containers
    have hmoves : World.Moves s.world (s.carryOut op).2.world := by
      cases op with
      | attachChild c i => exact Relation.ReflTransGen.single (.attachChild s.world c i)
      | detachChild c i => exact Relation.ReflTransGen.single (.detachChild s.world c i)
      | detach i access =>
        cases access with
        | free => exact absurd rfl h
        | busy => exact Relation.ReflTransGen.single (.detachBusy s.world i)
      | flush busy =>
        change World.Moves s.world
          (s.atWork fun shop => (shop.flush busy).map .count id).2.world
        rw [atWork]
        cases s.factory? with
        | none => exact Relation.ReflTransGen.refl
        | some factory => exact s.world.moves_releaseAll busy factory.tracker.pending
      | flushOwn busy => exact s.world.moves_releaseAll busy s.tracker.pending
      | _ => exact absurd rfl h
    exact hmoves.trans (s.carryOut op).2.changes_settle.moves

/-! ## Books in order -/

namespace Scene

variable {ε : Type}

/-- What was let go was let go once, and what is held was not let go. -/
structure IsBooked (scene : Scene ε) (newest : ContextId) : Prop where
  nodup : scene.releases.Nodup
  origin_le : ∀ r ∈ scene.releases, r.origin ≤ newest
  /-- The context of an instance exists, and neither it nor its object was let go. -/
  held : ∀ {i : InstanceId} {inst : Instance} {k : ContextId},
    scene.instance? i = some inst → inst.context? = some k →
      k ≤ newest ∧ Release.object k ∉ scene.releases ∧ Release.context k ∉ scene.releases
  /-- No two instances have a context in common. -/
  apart : ∀ {i j : InstanceId} {inst inst' : Instance} {k : ContextId},
    scene.instance? i = some inst → inst.context? = some k →
      scene.instance? j = some inst' → inst'.context? = some k → i = j

theorem isBooked_empty (newest : ContextId) : (empty : Scene ε).IsBooked newest where
  nodup := List.nodup_nil
  origin_le := by
    intro r hr
    cases hr
  held := by
    intro i inst k hi
    simp [instance?, empty] at hi
  apart := by
    intro i j inst inst' k hi
    simp [instance?, empty] at hi

namespace IsBooked

variable {scene scene' : Scene ε} {newest newest' : ContextId} (h : scene.IsBooked newest)

include h

/-- What is written down now may be anything that was not written down before and that
nobody holds. -/
theorem write {lost : List Release} (hk : newest ≤ newest')
    (hr : scene'.releases = scene.releases ++ lost) (hnodup : lost.Nodup)
    (horigin : ∀ r ∈ lost, r.origin ≤ newest')
    (hnew : ∀ r ∈ lost, r ∉ scene.releases)
    (hi : ∀ {i : InstanceId} {inst' : Instance} {k : ContextId},
      scene'.instance? i = some inst' → inst'.context? = some k →
        (∃ inst, scene.instance? i = some inst ∧ inst.context? = some k) ∧
          ∀ r ∈ lost, r.origin ≠ k) :
    scene'.IsBooked newest' := by
  refine ⟨?_, ?_, ?_, ?_⟩
  · rw [hr, List.nodup_append]
    refine ⟨h.nodup, hnodup, ?_⟩
    rintro r hr r' hr' rfl
    exact hnew r hr' hr
  · intro r hmem
    rw [hr] at hmem
    rcases List.mem_append.1 hmem with hmem | hmem
    · exact Nat.le_trans (h.origin_le r hmem) hk
    · exact horigin r hmem
  · intro i inst' k hi' hc'
    obtain ⟨⟨inst, hinst, hc⟩, hlost⟩ := hi hi' hc'
    obtain ⟨hle, ho, hx⟩ := h.held hinst hc
    rw [hr]
    refine ⟨Nat.le_trans hle hk, ?_, ?_⟩
    · intro hmem
      rcases List.mem_append.1 hmem with hmem | hmem
      · exact ho hmem
      · exact hlost _ hmem rfl
    · intro hmem
      rcases List.mem_append.1 hmem with hmem | hmem
      · exact hx hmem
      · exact hlost _ hmem rfl
  · intro i j inst inst' k hi' hc' hj' hd'
    obtain ⟨⟨_, hinst, hc⟩, -⟩ := hi hi' hc'
    obtain ⟨⟨_, hjnst, hd⟩, -⟩ := hi hj' hd'
    exact h.apart hinst hc hjnst hd

/-- The books stay in order while nothing is let go and no instance gets a context. -/
theorem of_views (hk : newest ≤ newest') (hr : scene'.releases = scene.releases)
    (hi : ∀ {i : InstanceId} {inst' : Instance} {k : ContextId},
      scene'.instance? i = some inst' → inst'.context? = some k →
        ∃ inst, scene.instance? i = some inst ∧ inst.context? = some k) :
    scene'.IsBooked newest' := by
  have hnone : scene'.releases = scene.releases ++ [] := by rw [hr, List.append_nil]
  apply h.write hk hnone List.nodup_nil
  · simp
  · simp
  · intro i inst' k hi' hc'
    exact ⟨hi hi' hc', by simp⟩

/-- A fresh instance has a context of its own. -/
theorem addInstance (uri : String) (o : SceneObject) :
    (scene.addInstance uri o (newest + 1)).2.IsBooked (newest + 1) := by
  have hcases : ∀ {i : InstanceId} {inst : Instance},
      (scene.addInstance uri o (newest + 1)).2.instance? i = some inst →
        (i ≠ scene.instances.next ∧ scene.instance? i = some inst) ∨
          (i = scene.instances.next ∧ inst.context? = some (newest + 1)) := by
    intro i inst hi
    by_cases hnew : i = (scene.addInstance uri o (newest + 1)).1
    · subst hnew
      rw [instance?_addInstance_self] at hi
      cases hi
      exact Or.inr ⟨rfl, rfl⟩
    · rw [scene.instance?_addInstance_of_ne uri o _ hnew] at hi
      exact Or.inl ⟨hnew, hi⟩
  have hfresh : ∀ {i : InstanceId} {inst : Instance},
      scene.instance? i = some inst → inst.context? ≠ some (newest + 1) := by
    intro i inst hi hc
    exact absurd (h.held hi hc).1 (Nat.not_succ_le_self newest)
  have hunwritten : ∀ r ∈ scene.releases, r.origin ≠ newest + 1 := by
    intro r hr heq
    have hle := h.origin_le r hr
    rw [heq] at hle
    exact Nat.not_succ_le_self newest hle
  refine ⟨h.nodup, ?_, ?_, ?_⟩
  · intro r hr
    exact Nat.le_succ_of_le (h.origin_le r hr)
  · intro i inst k hi hc
    rcases hcases hi with ⟨-, hi⟩ | ⟨-, hk⟩
    · obtain ⟨hle, ho, hx⟩ := h.held hi hc
      exact ⟨Nat.le_succ_of_le hle, ho, hx⟩
    · rw [hk] at hc
      cases hc
      refine ⟨Nat.le_refl _, ?_, ?_⟩
      · intro hmem
        exact hunwritten _ hmem rfl
      · intro hmem
        exact hunwritten _ hmem rfl
  · intro i j inst inst' k hi hc hj hd
    rcases hcases hi with ⟨-, hi⟩ | ⟨rfl, hk⟩
    · rcases hcases hj with ⟨-, hj⟩ | ⟨-, hk'⟩
      · exact h.apart hi hc hj hd
      · rw [hk'] at hd
        exact absurd (hc.trans hd.symm) (hfresh hi)
    · rcases hcases hj with ⟨-, hj⟩ | ⟨rfl, -⟩
      · rw [hk] at hc
        exact absurd (hd.trans hc.symm) (hfresh hj)
      · rfl

/-- An instance may be let go with all that it holds. -/
theorem letGo {i : InstanceId} {inst : Instance} (hi : scene.instance? i = some inst)
    (hr : scene'.releases = scene.releases ++ inst.belongings)
    (hself : ∀ {inst' : Instance}, scene'.instance? i = some inst' → inst'.context? = none)
    (hother : ∀ {j : InstanceId}, i ≠ j → scene'.instance? j = scene.instance? j) :
    scene'.IsBooked newest := by
  have hbelong : ∀ r ∈ inst.belongings, ∃ k, inst.context? = some k ∧ r.origin = k ∧
      (r = .object k ∨ r = .context k) := by
    intro r hr
    rw [Instance.belongings] at hr
    cases hc : inst.context? with
    | none =>
      rw [hc] at hr
      cases hr
    | some k =>
      rw [hc] at hr
      dsimp only at hr
      have hr : r = .object k ∨ r = .context k := by
        split at hr
        · simpa using hr
        · exact Or.inr (List.mem_singleton.1 hr)
      rcases hr with rfl | rfl
      · exact ⟨k, rfl, rfl, Or.inl rfl⟩
      · exact ⟨k, rfl, rfl, Or.inr rfl⟩
  refine h.write (Nat.le_refl _) hr ?_ ?_ ?_ ?_
  · rw [Instance.belongings]
    split
    · split <;> simp
    · exact List.nodup_nil
  · intro r hmem
    obtain ⟨k, hc, rfl, -⟩ := hbelong r hmem
    exact (h.held hi hc).1
  · intro r hmem
    obtain ⟨k, hc, -, rfl | rfl⟩ := hbelong r hmem
    · exact (h.held hi hc).2.1
    · exact (h.held hi hc).2.2
  · intro j inst' k hj hc
    have hij : i ≠ j := by
      rintro rfl
      rw [hself hj] at hc
      cases hc
    -- another instance has another context, so nothing of it is let go
    rw [hother hij] at hj
    refine ⟨⟨inst', hj, hc⟩, ?_⟩
    intro r hmem heq
    obtain ⟨k', hc', horigin, -⟩ := hbelong r hmem
    rw [heq] at horigin
    exact hij (h.apart hi (horigin ▸ hc') hj hc)

theorem detach (i : InstanceId) (access : Access) :
    (scene.detach i access).2.IsBooked newest := by
  apply h.of_views (Nat.le_refl _) (scene.releases_detach i access)
  intro j inst' k hj hc
  rw [instance?_detach] at hj
  by_cases hij : i = j
  · rw [if_pos hij] at hj
    obtain ⟨inst, hinst, rfl⟩ := Option.map_eq_some_iff.1 hj
    refine ⟨inst, hinst, ?_⟩
    by_cases hs : inst.state = .attached
    · rw [if_pos hs] at hc
      exact hc
    · rw [if_neg hs] at hc
      exact hc
  · rw [if_neg hij] at hj
    exact ⟨inst', hj, hc⟩

theorem attach (i : InstanceId) (c : ContainerId) : (scene.attach i c).IsBooked newest := by
  apply h.of_views (Nat.le_refl _) (scene.releases_attach i c)
  intro j inst' k hj hc
  cases hcont : scene.container? c with
  | none =>
    rw [scene.attach_of_dead i c hcont] at hj
    exact ⟨inst', hj, hc⟩
  | some container =>
    rw [scene.instance?_attach i c hcont] at hj
    by_cases hij : i = j
    · rw [if_pos hij] at hj
      obtain ⟨inst, hinst, rfl⟩ := Option.map_eq_some_iff.1 hj
      exact ⟨inst, hinst, hc⟩
    · rw [if_neg hij] at hj
      exact ⟨inst', hj, hc⟩

/-- Whether or not an instance was released before, it may be released. -/
theorem release (i : InstanceId) : (scene.release i).2.IsBooked newest := by
  cases hi : scene.instance? i with
  | none =>
    have hsame : (scene.release i).2 = scene := by simp [Scene.release, hi]
    rw [hsame]
    exact h
  | some inst =>
    by_cases hs : inst.state = .destroyed
    · have hsame : (scene.release i).2 = scene := by simp [Scene.release, hi, hs]
      rw [hsame]
      exact h
    · refine h.letGo hi ?_ ?_ ?_
      · rw [releases_release, hi]
        simp [hs]
      · intro inst' hi'
        rw [instance?_release, if_pos rfl, hi] at hi'
        simp only [Option.map_some, if_neg hs] at hi'
        cases hi'
        rfl
      · intro j hij
        rw [instance?_release, if_neg hij]

theorem forget (i : InstanceId) : (scene.forget i).IsBooked newest := by
  cases hi : scene.instance? i with
  | none =>
    have hsame : scene.forget i = scene := by simp [Scene.forget, hi]
    rw [hsame]
    exact h
  | some inst =>
    refine h.letGo hi ?_ ?_ ?_
    · rw [releases_forget, hi]
      rfl
    · intro inst' hi'
      rw [instance?_forget, if_pos rfl, hi] at hi'
      cases hi'
      rfl
    · intro j hij
      rw [instance?_forget, if_neg hij]

/-- What a failed construction leaves may be let go. -/
theorem recordReleases {lost : List Release} (hlost : World.IsRemains (newest + 1) lost) :
    (scene.recordReleases lost).IsBooked (newest + 1) := by
  have horigin : ∀ r ∈ lost, r.origin = newest + 1 := by
    intro r hr
    rcases hlost with rfl | rfl
    · rw [List.mem_singleton.1 hr]
      rfl
    · simp only [List.mem_cons, List.not_mem_nil, or_false] at hr
      rcases hr with rfl | rfl <;> rfl
  refine h.write (Nat.le_succ _) rfl ?_ ?_ ?_ ?_
  · rcases hlost with rfl | rfl <;> simp
  · intro r hr
    exact Nat.le_of_eq (horigin r hr)
  · intro r hr hmem
    have hle := h.origin_le r hmem
    rw [horigin r hr] at hle
    exact Nat.not_succ_le_self newest hle
  · intro i inst k hi hc
    refine ⟨⟨inst, hi, hc⟩, ?_⟩
    intro r hr heq
    have hle := (h.held hi hc).1
    rw [← heq, horigin r hr] at hle
    exact Nat.not_succ_le_self newest hle

end IsBooked

end Scene

/-! ## Every move keeps the books -/

namespace Scene.IsBooked

variable {w w' : World H}

theorem change (h : w.scene.IsBooked w.contexts.newest) (hc : World.Change w w') :
    w'.scene.IsBooked w'.contexts.newest := by
  cases hc with
  | aside hk hs =>
    rw [hs]
    exact h.of_views hk rfl fun hi hc => ⟨_, hi, hc⟩
  | abandon lost hlost hk hs =>
    rw [hk, hs]
    exact h.recordReleases hlost
  | reject uri o hk hs =>
    rw [hk, hs]
    exact (h.addInstance uri o).release _
  | place uri o c _ hk hs =>
    rw [hk, hs]
    exact (h.addInstance uri o).attach _ c
  | detach i hk hs =>
    rw [hk, hs]
    exact h.detach i .free
  | release i hk hs =>
    rw [hk, hs]
    exact (h.detach i .free).release i
  | forget i _ hk hs =>
    rw [hk, hs]
    exact h.forget i
  | addContainer name context? engine? hk hs =>
    rw [hk, hs]
    exact h.of_views (Nat.le_refl _) rfl fun hi hc => ⟨_, hi, hc⟩
  | dropContainer c hk hs =>
    rw [hk, hs]
    exact h.of_views (Nat.le_refl _) rfl fun hi hc => ⟨_, hi, hc⟩

/-- A move keeps the books in order. -/
theorem move (h : w.scene.IsBooked w.contexts.newest) (hm : World.Move w w') :
    w'.scene.IsBooked w'.contexts.newest := by
  cases hm with
  | change hc => exact h.change hc
  | attachChild c i => exact h.of_views (Nat.le_refl _) rfl fun hi hc => ⟨_, hi, hc⟩
  | detachChild c i => exact h.of_views (Nat.le_refl _) rfl fun hi hc => ⟨_, hi, hc⟩
  | detachBusy i => exact h.detach i .busy

theorem moves (h : w.scene.IsBooked w.contexts.newest) (hm : World.Moves w w') :
    w'.scene.IsBooked w'.contexts.newest := by
  induction hm with
  | refl => exact h
  | tail _ hlast ih => exact ih.move hlast

end Scene.IsBooked

namespace World

variable {w w' : World H}

/-- What was written down stays, and more comes after it. -/
theorem Move.releases_grow (hm : Move w w') : w.scene.releases <+: w'.scene.releases := by
  cases hm with
  | attachChild c i => exact List.prefix_refl _
  | detachChild c i => exact List.prefix_refl _
  | detachBusy i => exact ⟨[], (List.append_nil _).trans (w.scene.releases_detach i .busy).symm⟩
  | change hc =>
    cases hc with
    | aside _ hs => exact ⟨[], by rw [hs, List.append_nil]⟩
    | abandon lost _ _ hs =>
      rw [hs]
      exact List.prefix_append _ _
    | reject uri o _ hs =>
      rw [hs, Scene.releases_release]
      exact List.prefix_append _ _
    | place uri o c _ _ hs =>
      refine ⟨[], ?_⟩
      rw [hs, Scene.releases_attach, List.append_nil]
      rfl
    | detach i _ hs => exact ⟨[], by rw [hs, Scene.releases_detach, List.append_nil]⟩
    | release i _ hs =>
      rw [hs, Scene.releases_release, Scene.releases_detach]
      exact List.prefix_append _ _
    | forget i _ _ hs =>
      rw [hs, Scene.releases_forget]
      exact List.prefix_append _ _
    | addContainer name context? engine? _ hs =>
      refine ⟨[], ?_⟩
      rw [hs, List.append_nil]
      rfl
    | dropContainer c _ hs =>
      refine ⟨[], ?_⟩
      rw [hs, List.append_nil]
      rfl

theorem Moves.releases_grow (hm : Moves w w') : w.scene.releases <+: w'.scene.releases := by
  induction hm with
  | refl => exact List.prefix_refl _
  | tail _ hlast ih => exact ih.trans hlast.releases_grow

end World

end SceneFactory
