import SceneFactory.Gate

/-!
# How a wait for a template ends

A gate hands control to the event loop slice by slice and looks at the template's status in
between. It ends as that status says (`Gate.await_fits`), it keeps what each slice keeps
(`Gate.await_preserves`), and a template that settles in the first slice is waited for no longer
(`Gate.await_of_settling`).
-/

set_option autoImplicit false

namespace SceneFactory

/-- What the status of a template is when a wait for it ends. -/
def Readiness.Fits : Readiness → CompileStatus → Prop
  | .ready, status => status = .ready
  | .failed detail, status => status = .failed detail
  | .timedOut, status => status = .loading
  | .overflowed, _ => True

namespace Gate

variable {σ : Type} (gate : Gate) (status : σ → CompileStatus)
  (pump : Duration → σ → Duration × σ)

theorem awaitFrom_fits (waited : Duration) (s : σ) :
    (gate.awaitFrom status pump waited s).1.Fits
      (status (gate.awaitFrom status pump waited s).2) := by
  fun_induction gate.awaitFrom status pump waited s with
  | case1 waited s h => exact h
  | case2 waited s detail h => exact h
  | case3 => trivial
  | case4 waited s h hlt elapsed s' hpump waited' hadd ih => exact ih
  | case5 waited s h hlt => exact h

/-- A wait ends as the template's status says. -/
theorem await_fits (s : σ) :
    (gate.await status pump s).1.Fits (status (gate.await status pump s).2) :=
  gate.awaitFrom_fits status pump .zero s

theorem awaitFrom_preserves {P : σ → Prop} (hpump : ∀ slice s, P s → P (pump slice s).2)
    (waited : Duration) {s : σ} (h : P s) : P (gate.awaitFrom status pump waited s).2 := by
  fun_induction gate.awaitFrom status pump waited s with
  | case1 => exact h
  | case2 => exact h
  | case3 waited s _ _ elapsed s' heq _ =>
    have hnext := hpump (gate.nextSlice waited) s h
    rw [heq] at hnext
    exact hnext
  | case4 waited s _ _ elapsed s' heq waited' _ ih =>
    have hnext := hpump (gate.nextSlice waited) s h
    rw [heq] at hnext
    exact ih hnext
  | case5 => exact h

/-- What each slice of the event loop keeps, a wait keeps. -/
theorem await_preserves {P : σ → Prop} (hpump : ∀ slice s, P s → P (pump slice s).2)
    {s : σ} (h : P s) : P (gate.await status pump s).2 :=
  gate.awaitFrom_preserves status pump hpump .zero h

theorem awaitFrom_of_ready (waited : Duration) {s : σ} (h : status s = .ready) :
    gate.awaitFrom status pump waited s = (.ready, s) := by
  rw [awaitFrom, h]

theorem awaitFrom_of_failed (waited : Duration) {s : σ} {detail : String}
    (h : status s = .failed detail) :
    gate.awaitFrom status pump waited s = (.failed detail, s) := by
  rw [awaitFrom, h]

/-- A template that is ready is not waited for. -/
theorem await_of_ready {s : σ} (h : status s = .ready) :
    gate.await status pump s = (.ready, s) :=
  gate.awaitFrom_of_ready status pump .zero h

/-- A template that has failed is not waited for. -/
theorem await_of_failed {s : σ} {detail : String} (h : status s = .failed detail) :
    gate.await status pump s = (.failed detail, s) :=
  gate.awaitFrom_of_failed status pump .zero h

/-- The first slice takes some time, and no more than can be counted. -/
theorem exists_add?_charge (elapsed : Duration) :
    ∃ waited, Duration.zero.add? (gate.charge elapsed) = some waited := by
  refine Option.isSome_iff_exists.1 ((Duration.add?_isSome _ _).2 ?_)
  rw [show Duration.zero.nanos = 0 from rfl, Nat.zero_add]
  exact (gate.charge elapsed).nanos_le_limit

/-- A template that settles in the first slice is waited for no longer. -/
theorem await_of_settling {s : σ} (hloading : status s = .loading)
    (htimeout : 0 < gate.timeout.nanos)
    (hsettles : ∀ slice, 0 < slice.nanos → status (pump slice s).2 ≠ .loading) :
    ∃ slice, 0 < slice.nanos ∧
      ((status (pump slice s).2 = .ready ∧
          gate.await status pump s = (.ready, (pump slice s).2)) ∨
        ∃ detail, status (pump slice s).2 = .failed detail ∧
          gate.await status pump s = (.failed detail, (pump slice s).2)) := by
  have hslice : 0 < (gate.nextSlice .zero).nanos := by
    rw [nextSlice, Duration.nanos_shorter, Duration.nanos_minus]
    exact Nat.lt_min.2 ⟨gate.slice_pos, htimeout⟩
  refine ⟨gate.nextSlice .zero, hslice, ?_⟩
  have hsettled := hsettles (gate.nextSlice .zero) hslice
  rw [await, awaitFrom, hloading]
  dsimp only
  rw [dif_pos (show Duration.zero.nanos < gate.timeout.nanos from htimeout)]
  cases hpump : pump (gate.nextSlice .zero) s with
  | mk elapsed next =>
    rw [hpump] at hsettled
    obtain ⟨waited, hwaited⟩ := gate.exists_add?_charge elapsed
    dsimp only
    split
    · rename_i hnone
      rw [hwaited] at hnone
      cases hnone
    · rename_i waited' _
      cases hstatus : status next with
      | loading => exact absurd hstatus hsettled
      | ready => exact Or.inl ⟨rfl, gate.awaitFrom_of_ready status pump waited' hstatus⟩
      | failed detail =>
        exact Or.inr ⟨detail, rfl, gate.awaitFrom_of_failed status pump waited' hstatus⟩

end Gate

end SceneFactory
