import SceneFactory.Duration
import SceneFactory.Template.Status

/-!
# Waiting for a template

The gate hands control to the host one slice at a time until the template is
ready or has failed, or the timeout has passed. The host says how much time each
slice took; a slice that took none is charged in full, so waiting always comes
to an end.

Main statements: a template that is already settled is not waited for
(`await_of_terminal`), and nothing is asked of the host once the timeout has
passed (`awaitFrom_of_timeout`).
-/

namespace SceneFactory

/-- How a wait ended. -/
inductive Readiness where
  | ready
  | failed (detail : String)
  | timedOut
  /-- The time waited left the range of durations. -/
  | overflowed
deriving DecidableEq, Inhabited

/-- How long to wait in all, and for how long to hand over at a time. -/
structure Gate where
  timeout : Duration
  slice : Duration
  slice_pos : 0 < slice.nanos

namespace Gate

/-- The shortest slice. -/
def shortestSlice : Duration := Duration.ofMillis 1

theorem shortestSlice_pos : 0 < shortestSlice.nanos := by decide

/-- The gate with a given timeout and slice; a shorter slice is raised to the
shortest. -/
def new (timeout slice : Duration) : Gate where
  timeout := timeout
  slice := slice.longer shortestSlice
  slice_pos := by
    rw [Duration.nanos_longer]
    exact Nat.lt_of_lt_of_le shortestSlice_pos (Nat.le_max_right _ _)

/-- The gate if nothing else is said. -/
def default : Gate := new (Duration.ofMillis 5000) (Duration.ofMillis 10)

instance : Inhabited Gate := ⟨default⟩

variable {σ : Type}

/-- What the host is charged for a slice in which it reports the given time. -/
def charge (gate : Gate) (elapsed : Duration) : Duration :=
  if elapsed.nanos = 0 then gate.slice else elapsed

/-- The slice that the host is given after a given time. -/
def nextSlice (gate : Gate) (waited : Duration) : Duration :=
  gate.slice.shorter (gate.timeout.minus waited)

theorem charge_pos (gate : Gate) (elapsed : Duration) : 0 < (gate.charge elapsed).nanos := by
  unfold charge
  split
  · exact gate.slice_pos
  · omega

/-- Waits on after a given time. `status` reads the template's status, `pump`
gives the host a slice and says how much of it was used. -/
def awaitFrom (gate : Gate) (status : σ → CompileStatus) (pump : Duration → σ → Duration × σ)
    (waited : Duration) (s : σ) : Readiness × σ :=
  match status s with
  | .ready => (.ready, s)
  | .failed detail => (.failed detail, s)
  | .loading =>
    -- the timeout is looked at only while the template is loading
    if _hlt : waited.nanos < gate.timeout.nanos then
      let (elapsed, s) := pump (gate.nextSlice waited) s
      match _hadd : waited.add? (gate.charge elapsed) with
      | none => (.overflowed, s)
      | some waited' => gate.awaitFrom status pump waited' s
    else (.timedOut, s)
termination_by gate.timeout.nanos - waited.nanos
decreasing_by
  have := Duration.nanos_of_add? _hadd
  have := gate.charge_pos elapsed
  omega

/-- Waits until the template is ready or has failed, or the timeout has passed. -/
def await (gate : Gate) (status : σ → CompileStatus) (pump : Duration → σ → Duration × σ)
    (s : σ) : Readiness × σ :=
  gate.awaitFrom status pump .zero s

/-! ## Laws -/

/-- A template that is settled is not waited for. -/
theorem await_of_terminal (gate : Gate) (status : σ → CompileStatus)
    (pump : Duration → σ → Duration × σ) {s : σ} (h : (status s).isTerminal = true) :
    (gate.await status pump s).2 = s := by
  unfold await awaitFrom
  split <;> simp_all [CompileStatus.isTerminal]

/-- Once the timeout has passed the host is not asked any more. -/
theorem awaitFrom_of_timeout (gate : Gate) (status : σ → CompileStatus)
    (pump : Duration → σ → Duration × σ) {waited : Duration} {s : σ}
    (hs : status s = .loading) (h : gate.timeout.nanos ≤ waited.nanos) :
    gate.awaitFrom status pump waited s = (.timedOut, s) := by
  unfold awaitFrom
  have hlt : ¬waited.nanos < gate.timeout.nanos := by omega
  simp [hs, hlt]

end Gate

end SceneFactory
