import SceneFactory.Proofs.Template.Slices

/-!
# Waits that leave the range of durations

A wait adds up what it charges, call by call, and a sum beyond the longest duration has no value.
Every sum but the last is below the timeout, so a wait leaves the range with its last call or not at
all, and it does so exactly if all that it charges is more than the longest duration
(`Gate.overflowed_iff`).

What an event loop reports is bounded by nothing. With a timeout of two nanoseconds or more a loop
that reports one nanosecond and then the longest duration breaks the wait off
(`Gate.await_hasty`).

Main statement: `Gate.overflow_exact`.
-/

set_option autoImplicit false

namespace SceneFactory.Gate

variable {σ : Type}

section Wait

variable (gate : Gate) (status : σ → CompileStatus) (pump : Duration → σ → Duration × σ)

/-- From anywhere in a wait: if what was charged is what its calls so far were charged, the wait
leaves the range of durations iff all its calls together are charged more than there is room for. -/
theorem awaitFrom_overflowed_iff (waited : Duration) (s : σ × List (Call σ))
    (h : gate.charged s.2 = waited.nanos) :
    let result := gate.awaitFrom (fun s => status s.1) (recorded pump) waited s
    result.1 = .overflowed ↔ Duration.limit < gate.charged result.2.2 := by
  -- a wait that ends here has charged no more than has been counted
  have hcounted : ¬Duration.limit < gate.charged s.2 := by
    have hle := waited.nanos_le_limit
    omega
  fun_induction gate.awaitFrom (fun s => status s.1) (recorded pump) waited s with
  | case1 waited s hs => exact iff_of_false (by simp) hcounted
  | case2 waited s detail hs => exact iff_of_false (by simp) hcounted
  | case3 waited s hs hlt elapsed next hpump hadd =>
    have hnone : ¬(waited.add? (gate.charge elapsed)).isSome = true := by simp [hadd]
    rw [Duration.add?_isSome] at hnone
    cases hpump
    dsimp only
    rw [charged_concat, h]
    exact iff_of_true rfl (Nat.lt_of_not_le hnone)
  | case4 waited s hs hlt elapsed next hpump waited' hadd ih =>
    have hsum := Duration.nanos_of_add? hadd
    have hle := waited'.nanos_le_limit
    cases hpump
    have hcharged : gate.charged (s.2 ++ [⟨s.1, gate.nextSlice waited,
        (pump (gate.nextSlice waited) s.1).1, (pump (gate.nextSlice waited) s.1).2⟩]) =
        waited'.nanos := by
      rw [charged_concat, h, hsum]
    exact ih hcharged (by dsimp only; omega)
  | case5 waited s hs hlt => exact iff_of_false (by simp) hcounted

/-- A wait leaves the range of durations iff its calls are charged more than the longest. -/
theorem overflowed_iff (s : σ) :
    (gate.await status pump s).1 = .overflowed ↔
      Duration.limit < gate.charged (gate.calls status pump s) := by
  have hiff := gate.awaitFrom_overflowed_iff status pump .zero (s, []) rfl
  have hrecorded := (gate.await_recorded status pump s).1
  rw [await] at hrecorded
  dsimp only at hiff
  rw [hrecorded] at hiff
  exact hiff

end Wait

/-! ## Hasty event loops -/

/-- An event loop that reports one nanosecond at first and the longest duration from then on. -/
def hasty (_ : Duration) (called : Bool) : Duration × Bool :=
  (if called then .longest else .ofNanos 1, true)

/-- A hasty event loop breaks off every wait that has a second call. -/
theorem await_hasty (gate : Gate) (h : 2 ≤ gate.timeout.nanos) :
    (gate.await (fun _ => .loading) hasty false).1 = .overflowed := by
  have hone : gate.charge (.ofNanos 1) = .ofNanos 1 := rfl
  have hlongest : gate.charge .longest = .longest := rfl
  have hfirst : Duration.zero.add? (.ofNanos 1) = some (.ofNanos 1) := by decide
  have hsecond : (Duration.ofNanos 1).add? .longest = none := by decide
  rw [await, awaitFrom_of_loading _ _ _ rfl (show 0 < gate.timeout.nanos by omega)]
  simp only [hasty, Bool.false_eq_true, if_false, hone, hfirst]
  rw [awaitFrom_of_loading _ _ _ rfl (show 1 < gate.timeout.nanos by omega)]
  simp only [hasty, if_true, hlongest, hsecond]

/-- When a wait leaves the range of durations. For every timeout and slice:

* in any wait, what the calls before one were charged is less than the timeout, so what is left of
  the timeout is never less than nothing and only the last sum can be out of range;
* it is out of range iff all calls together are charged more than the longest duration, and any
  other wait ends as the template's status says;
* no event loop brings this about iff the timeout is at most one nanosecond. -/
theorem overflow_exact (timeout slice : Duration) :
    (∀ {σ : Type} (status : σ → CompileStatus) (pump : Duration → σ → Duration × σ) (s : σ),
      let gate := Gate.new timeout slice
      let calls := gate.calls status pump s
      let result := gate.await status pump s
      (∀ (k : Nat) (call : Call σ), calls[k]? = some call →
        gate.charged (calls.take k) < timeout.nanos) ∧
      (result.1 = .overflowed ↔ Duration.limit < gate.charged calls) ∧
      (result.1 = .overflowed ∨ (result.1 = .ready ∧ status result.2 = .ready) ∨
        (∃ detail, result.1 = .failed detail ∧ status result.2 = .failed detail) ∨
        (result.1 = .timedOut ∧ status result.2 = .loading ∧
          timeout.nanos ≤ gate.charged calls))) ∧
    ((∀ (σ : Type) (status : σ → CompileStatus) (pump : Duration → σ → Duration × σ) (s : σ),
        ((Gate.new timeout slice).await status pump s).1 ≠ .overflowed) ↔
      timeout.nanos ≤ 1) := by
  constructor
  · intro σ status pump s gate calls result
    obtain ⟨-, hruns⟩ := gate.await_recorded status pump s
    have hfits : result.1.Fits (status result.2) := gate.await_fits status pump s
    have hgivesUp : result.1 = .timedOut → timeout.nanos ≤ 0 + gate.charged calls :=
      hruns.givesUp
    refine ⟨fun k call hk => ?_, gate.overflowed_iff status pump s, ?_⟩
    · have hinTime := (hruns.made k call hk).2.inTime
      rwa [Nat.zero_add] at hinTime
    · rw [Nat.zero_add] at hgivesUp
      generalize result.1 = readiness at hfits hgivesUp ⊢
      cases readiness with
      | overflowed => exact .inl rfl
      | ready => exact .inr (.inl ⟨rfl, hfits⟩)
      | failed detail => exact .inr (.inr (.inl ⟨detail, rfl, hfits⟩))
      | timedOut => exact .inr (.inr (.inr ⟨rfl, hfits, hgivesUp rfl⟩))
  · constructor
    · intro hnever
      refine Nat.le_of_not_lt fun hmore => ?_
      exact hnever Bool (fun _ => .loading) hasty false (await_hasty _ hmore)
    · -- there is at most one call, and any one charge can be counted
      intro htimeout σ status pump s
      obtain ⟨-, hruns⟩ := (Gate.new timeout slice).await_recorded status pump s
      have hlength := Nat.le_trans hruns.length_le htimeout
      rw [Ne, overflowed_iff, Nat.not_lt]
      cases hcalls : (Gate.new timeout slice).calls status pump s with
      | nil => exact Nat.zero_le _
      | cons call rest =>
        rw [hcalls, List.length_cons] at hlength
        have hrest : rest = [] := List.length_eq_zero_iff.1 (by omega)
        rw [hrest]
        exact ((Gate.new timeout slice).charge call.reported).nanos_le_limit

/-- A template that never settles, and an event loop that reports some times and then full
slices. -/
def reporting (times : List Duration) : Scripted.Trial where
  status := .loading
  pump := .ofEntries (times.map fun time => ⟨some time, none, false⟩)

/-- With a timeout of two nanoseconds, a report of one nanosecond and one of the longest duration
break the wait off. So do a report of one nanosecond and one of no time with the longest timeout and
slice, though neither is more than was given. -/
theorem overflowed_of_reports :
    ((reporting [.ofNanos 1, .longest]).run (Gate.new (.ofNanos 2) .zero)).1 = .overflowed ∧
      ((reporting [.ofNanos 1, .zero]).run (Gate.new .longest .longest)).1 = .overflowed := by
  decide +kernel

end SceneFactory.Gate
