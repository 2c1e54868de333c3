import SceneFactory.Proofs.Session.Runs

/-!
# What a trace says of the fate of an instance

From the trace of a run it can be read off whether an instance was handed out
(`wasCreated`), whether it was unregistered after that (`wasUnregistered`), and whether
a safe point came when it was (`wasDue`). None of the three looks at a scene.

A ledger keeps the three for all instances. It is carried on one event at a time
(`Ledger.ofTrace_concat`), which is how a run is compared with its trace.
-/

set_option autoImplicit false

namespace SceneFactory

variable {H : Host}

/-! ## Events -/

/-- Whether an operation takes an instance from those that the factory tracks. -/
def Operation.unregisters (i : InstanceId) : Operation H → Bool
  | .destroy j => j = i
  | .destroyAll ids => i ∈ ids
  | .teardown | .dropFactory => true
  | _ => false

/-- Whether an operation releases what waits for it. -/
def Operation.isSafePoint : Operation H → Bool
  | .flush _ | .teardown | .dropFactory => true
  | .create (some _) _ _ _ _ => true
  | .createMany _ (_ :: _) (some _) _ _ _ => true
  | _ => false

namespace Event

/-- Whether an event hands out an instance. -/
def creates (ownership : Ownership) (i : InstanceId) : Event H → Bool
  | (.create _ _ _ _ wanted, .created (.ok j)) => wanted = ownership ∧ i = j
  | (.createMany _ _ _ _ _ wanted, .createdMany ids) => wanted = ownership ∧ i ∈ ids
  | _ => false

/-- Whether an event is a call of destroy that succeeded. -/
def destroys (i : InstanceId) : Event H → Bool
  | (.destroy j, .flag true) => j = i
  | _ => false

end Event

/-! ## Traces -/

section Traces

variable (trace : List (Event H))

/-- The instance was handed out. -/
def wasCreated (ownership : Ownership) (i : InstanceId) : Prop :=
  ∃ e ∈ trace, Event.creates ownership i e = true

/-- The instance was handed out as tracked and unregistered after that. -/
def wasUnregistered (i : InstanceId) : Prop :=
  ∃ before e later, trace = before ++ e :: later ∧ wasCreated before .tracked i ∧
    e.1.unregisters i = true

/-- The instance was handed out as tracked and unregistered after that, and then, or with
it, came a safe point. -/
def wasDue (i : InstanceId) : Prop :=
  ∃ before e later, trace = before ++ e :: later ∧ wasCreated before .tracked i ∧
    e.1.unregisters i = true ∧ ∃ point ∈ e :: later, point.1.isSafePoint = true

end Traces

/-- A place in a list with one more element is the last, or a place in the list. -/
theorem exists_split_concat {α : Type} {P : List α → α → List α → Prop} {xs : List α} {x : α} :
    (∃ before y later, xs ++ [x] = before ++ y :: later ∧ P before y later) ↔
      P xs x [] ∨ ∃ before y later, xs = before ++ y :: later ∧ P before y (later ++ [x]) := by
  constructor
  · rintro ⟨before, y, later, heq, hp⟩
    rcases List.eq_nil_or_concat later with rfl | ⟨init, z, rfl⟩
    · obtain ⟨rfl, hxy⟩ := List.append_inj' heq rfl
      cases hxy
      exact Or.inl hp
    · have heq : xs ++ [x] = (before ++ y :: init) ++ [z] := by
        rw [heq, List.append_assoc, List.concat_eq_append, List.cons_append]
      obtain ⟨rfl, hxz⟩ := List.append_inj' heq rfl
      cases hxz
      refine Or.inr ⟨before, y, init, rfl, ?_⟩
      rw [← List.concat_eq_append]
      exact hp
  · rintro (hp | ⟨before, y, later, rfl, hp⟩)
    · exact ⟨xs, x, [], rfl, hp⟩
    · exact ⟨before, y, later ++ [x], by simp, hp⟩

section Concat

variable (trace : List (Event H)) (e : Event H) (i : InstanceId)

theorem wasCreated_concat (ownership : Ownership) :
    wasCreated (trace ++ [e]) ownership i ↔
      wasCreated trace ownership i ∨ Event.creates ownership i e = true := by
  simp [wasCreated, or_and_right, exists_or]

/-- To be unregistered an instance must have been handed out before. -/
theorem wasUnregistered_concat :
    wasUnregistered (trace ++ [e]) i ↔
      wasUnregistered trace i ∨
        (wasCreated trace .tracked i ∧ e.1.unregisters i = true) := by
  rw [wasUnregistered]
  rw [exists_split_concat (P := fun before e _ =>
    wasCreated before .tracked i ∧ e.1.unregisters i = true)]
  exact or_comm

/-- An instance becomes due at the first safe point once it is unregistered. -/
theorem wasDue_concat :
    wasDue (trace ++ [e]) i ↔
      wasDue trace i ∨ (wasUnregistered (trace ++ [e]) i ∧ e.1.isSafePoint = true) := by
  rw [wasUnregistered_concat]
  rw [wasDue]
  rw [exists_split_concat (P := fun before e later => wasCreated before .tracked i ∧
    e.1.unregisters i = true ∧ ∃ point ∈ e :: later, point.1.isSafePoint = true)]
  constructor
  · rintro (⟨hc, hu, point, hmem, hs⟩ | ⟨before, y, later, rfl, hc, hu, point, hmem, hs⟩)
    · cases List.mem_singleton.1 hmem
      exact Or.inr ⟨Or.inr ⟨hc, hu⟩, hs⟩
    · rw [← List.cons_append] at hmem
      rcases List.mem_append.1 hmem with hmem | hmem
      · exact Or.inl ⟨before, y, later, rfl, hc, hu, point, hmem, hs⟩
      · cases List.mem_singleton.1 hmem
        exact Or.inr ⟨Or.inl ⟨before, y, later, rfl, hc, hu⟩, hs⟩
  · rintro (⟨before, y, later, rfl, hc, hu, point, hmem, hs⟩ |
      ⟨⟨before, y, later, rfl, hc, hu⟩ | ⟨hc, hu⟩, hs⟩)
    · refine Or.inr ⟨before, y, later, rfl, hc, hu, point, ?_, hs⟩
      exact List.mem_append_left [e] hmem
    · refine Or.inr ⟨before, y, later, rfl, hc, hu, e, ?_, hs⟩
      exact List.mem_append_right (y :: later) List.mem_cons_self
    · exact Or.inl ⟨hc, hu, e, List.mem_cons_self, hs⟩

end Concat

theorem wasUnregistered_of_wasDue {trace : List (Event H)} {i : InstanceId}
    (h : wasDue trace i) : wasUnregistered trace i := by
  obtain ⟨before, e, later, htrace, hc, hu, -⟩ := h
  exact ⟨before, e, later, htrace, hc, hu⟩

/-! ## Ledgers -/

/-- What is known of the fates of all instances. -/
@[ext]
structure Ledger where
  tracked : InstanceId → Prop
  delegated : InstanceId → Prop
  unregistered : InstanceId → Prop
  due : InstanceId → Prop

namespace Ledger

/-- The ledger of a trace. -/
def ofTrace (trace : List (Event H)) : Ledger :=
  ⟨wasCreated trace .tracked, wasCreated trace .delegated, wasUnregistered trace, wasDue trace⟩

variable (l : Ledger)

/-- The ledger once some instances are handed out. -/
def handOut (ownership : Ownership) (ids : List InstanceId) : Ledger :=
  ⟨fun i => l.tracked i ∨ (ownership = .tracked ∧ i ∈ ids),
    fun i => l.delegated i ∨ (ownership = .delegated ∧ i ∈ ids), l.unregistered, l.due⟩

/-- The ledger once those of some instances that are tracked are unregistered. -/
def unregister (which : InstanceId → Prop) : Ledger :=
  ⟨l.tracked, l.delegated, fun i => l.unregistered i ∨ (l.tracked i ∧ which i), l.due⟩

/-- The ledger after a safe point. -/
def settleUp : Ledger :=
  ⟨l.tracked, l.delegated, l.unregistered, fun i => l.due i ∨ l.unregistered i⟩

/-- The ledger after one more event. -/
def record (e : Event H) : Ledger :=
  ⟨fun i => l.tracked i ∨ Event.creates .tracked i e = true,
    fun i => l.delegated i ∨ Event.creates .delegated i e = true,
    (l.unregister fun i => e.1.unregisters i = true).unregistered,
    fun i => l.due i ∨ ((l.unregister fun i => e.1.unregisters i = true).unregistered i ∧
      e.1.isSafePoint = true)⟩

/-- The ledger of a trace is carried on by one event at a time. -/
theorem ofTrace_concat (trace : List (Event H)) (e : Event H) :
    ofTrace (trace ++ [e]) = (ofTrace trace).record e := by
  apply Ledger.ext
  · funext i
    exact propext (wasCreated_concat trace e i .tracked)
  · funext i
    exact propext (wasCreated_concat trace e i .delegated)
  · funext i
    exact propext (wasUnregistered_concat trace e i)
  · funext i
    change wasDue (trace ++ [e]) i = _
    rw [wasDue_concat, wasUnregistered_concat]
    rfl

/-- An event that hands out nothing, unregisters nothing and is no safe point leaves the
ledger as it is. -/
theorem record_of_quiet {e : Event H} (hc : ∀ ownership i, Event.creates ownership i e = false)
    (hu : ∀ i, e.1.unregisters i = false) (hs : e.1.isSafePoint = false) :
    l.record e = l := by
  apply Ledger.ext <;> funext i <;> simp [record, unregister, hc, hu, hs]

end Ledger

end SceneFactory
