import SceneFactory.Proofs.Template.Waiting
import SceneFactory.Scripted.Status

/-!
# What a wait asks of the event loop

A wait hands control over call by call. The calls of a wait are found by running it with an event
loop that writes them down (`Gate.recorded`), which changes nothing else about the wait
(`Gate.await_recorded`). `Gate.Runs` says of a whole wait how its calls follow each other and how
it ends: a call is made only while the template is loading and time is left, it is given what is
left of the timeout but no more than a slice, and what it reports is charged, a slice if it reports
nothing. Each call is charged something, so there are at most as many as the timeout has
nanoseconds (`Gate.Runs.length_le`).

Main statement: `Gate.await_exact`. The gate's own arithmetic leaves the range of durations iff
the time charged does, which it cannot where the timeout and any one charge are in the range
together.
-/

set_option autoImplicit false

namespace SceneFactory.Gate

variable {σ : Type}

/-! ## Calls -/

/-- One call of the event loop: the state in which it was made, the slice that was handed over, the
time that was reported, and the state that it left. -/
structure Call (σ : Type) where
  before : σ
  slice : Duration
  reported : Duration
  after : σ

/-- The state that some calls leave, the first of which is made in a given one. -/
def stateAfter (s : σ) (calls : List (Call σ)) : σ := calls.foldl (fun _ call => call.after) s

/-- An event loop that writes its calls down. -/
def recorded (pump : Duration → σ → Duration × σ) (slice : Duration) (s : σ × List (Call σ)) :
    Duration × σ × List (Call σ) :=
  let (elapsed, next) := pump slice s.1
  (elapsed, next, s.2 ++ [⟨s.1, slice, elapsed, next⟩])

section Wait

variable (gate : Gate) (status : σ → CompileStatus) (pump : Duration → σ → Duration × σ)

/-- The calls that a wait makes, in order. -/
def calls (s : σ) : List (Call σ) :=
  (gate.await (fun s => status s.1) (recorded pump) (s, [])).2.2

/-- What is charged for some calls. -/
def charged : List (Call σ) → Nat
  | [] => 0
  | call :: calls => (gate.charge call.reported).nanos + charged calls

theorem charged_cons (call : Call σ) (calls : List (Call σ)) :
    gate.charged (call :: calls) = (gate.charge call.reported).nanos + gate.charged calls := rfl

theorem charged_concat (calls : List (Call σ)) (call : Call σ) :
    gate.charged (calls ++ [call]) = gate.charged calls + (gate.charge call.reported).nanos := by
  induction calls with
  | nil => exact (Nat.zero_add _).symm
  | cons first calls ih => rw [List.cons_append, charged_cons, ih, charged_cons, Nat.add_assoc]

/-- Every call is charged something. -/
theorem length_le_charged (calls : List (Call σ)) : calls.length ≤ gate.charged calls := by
  induction calls with
  | nil => exact Nat.zero_le _
  | cons call calls ih =>
    rw [charged_cons, List.length_cons]
    have hpos := gate.charge_pos call.reported
    omega

/-- What is charged for one call is a slice or what it reports. -/
theorem charge_eq_or (elapsed : Duration) :
    gate.charge elapsed = gate.slice ∨ gate.charge elapsed = elapsed := by
  rw [charge]
  split
  · exact .inl rfl
  · exact .inr rfl

/-- A call as it is made when so much has been charged. -/
structure Call.IsMade (waited : Nat) (call : Call σ) : Prop where
  loading : status call.before = .loading
  inTime : waited < gate.timeout.nanos
  slice : call.slice.nanos = min gate.slice.nanos (gate.timeout.nanos - waited)
  answer : pump call.slice call.before = (call.reported, call.after)

/-- Control is never handed over for no time. -/
theorem Call.IsMade.slice_pos {gate : Gate} {status : σ → CompileStatus}
    {pump : Duration → σ → Duration × σ} {waited : Nat} {call : Call σ}
    (h : call.IsMade gate status pump waited) : 0 < call.slice.nanos := by
  rw [h.slice]
  exact Nat.lt_min.2 ⟨gate.slice_pos, Nat.sub_pos_of_lt h.inTime⟩

/-! ## Whole waits -/

/-- What a wait amounts to that goes on in a state in which so much has been charged: its calls
follow each other, it ends in the state that the last one leaves, it gives up only when the timeout
is used up, and it counts no further than durations go. -/
structure Runs (waited : Nat) (s : σ) (calls : List (Call σ)) (result : Readiness × σ) : Prop where
  made : ∀ (k : Nat) (call : Call σ), calls[k]? = some call →
    call.before = stateAfter s (calls.take k) ∧
      call.IsMade gate status pump (waited + gate.charged (calls.take k))
  final : result.2 = stateAfter s calls
  givesUp : result.1 = .timedOut → gate.timeout.nanos ≤ waited + gate.charged calls
  overflows : result.1 = .overflowed → Duration.limit < waited + gate.charged calls

variable {gate status pump} {waited : Nat} {s : σ}

/-- A wait that makes no call. -/
theorem Runs.nil {r : Readiness} (hgivesUp : r = .timedOut → gate.timeout.nanos ≤ waited)
    (hoverflows : r ≠ .overflowed) : gate.Runs status pump waited s [] (r, s) where
  made k call hk := by cases hk
  final := rfl
  givesUp := hgivesUp
  overflows h := absurd h hoverflows

/-- A call with a wait behind it. -/
theorem Runs.cons {call : Call σ} {calls : List (Call σ)} {result : Readiness × σ}
    (hbefore : call.before = s) (hcall : call.IsMade gate status pump waited)
    (h : gate.Runs status pump (waited + (gate.charge call.reported).nanos) call.after calls
      result) : gate.Runs status pump waited s (call :: calls) result where
  made k other hk := by
    cases k with
    | zero =>
      cases hk
      exact ⟨hbefore, hcall⟩
    | succ k =>
      obtain ⟨hstate, hmade⟩ := h.made k other hk
      rw [Nat.add_assoc] at hmade
      exact ⟨hstate, hmade⟩
  final := h.final
  givesUp hr := by
    rw [charged_cons, ← Nat.add_assoc]
    exact h.givesUp hr
  overflows hr := by
    rw [charged_cons, ← Nat.add_assoc]
    exact h.overflows hr

/-- A wait is over in as many calls as the timeout has nanoseconds, if not sooner. -/
theorem Runs.length_le {calls : List (Call σ)} {result : Readiness × σ}
    (h : gate.Runs status pump 0 s calls result) : calls.length ≤ gate.timeout.nanos := by
  rcases List.eq_nil_or_concat calls with rfl | ⟨done, last, rfl⟩
  · exact Nat.zero_le _
  · rw [List.concat_eq_append] at h ⊢
    obtain ⟨-, hlast⟩ := h.made done.length last List.getElem?_concat_length
    have hbefore := hlast.inTime
    rw [List.take_left, Nat.zero_add] at hbefore
    have hcharged := gate.length_le_charged done
    rw [List.length_append, List.length_singleton]
    omega

/-- Where the timeout and any one charge are in the range of durations together, so is all that
is charged. -/
theorem Runs.charged_le {calls : List (Call σ)} {result : Readiness × σ}
    (h : gate.Runs status pump 0 s calls result)
    (hslice : gate.timeout.nanos + gate.slice.nanos ≤ Duration.limit)
    (hreports : ∀ call ∈ calls, gate.timeout.nanos + call.reported.nanos ≤ Duration.limit) :
    gate.charged calls ≤ Duration.limit := by
  rcases List.eq_nil_or_concat calls with rfl | ⟨done, last, rfl⟩
  · exact Nat.zero_le _
  · rw [List.concat_eq_append] at h hreports ⊢
    obtain ⟨-, hlast⟩ := h.made done.length last List.getElem?_concat_length
    have hbefore := hlast.inTime
    rw [List.take_left, Nat.zero_add] at hbefore
    have hreport := hreports last (List.mem_append_right done List.mem_cons_self)
    rw [charged_concat]
    rcases gate.charge_eq_or last.reported with heq | heq
    · rw [heq]
      omega
    · rw [heq]
      omega

variable (gate status pump)

/-- A wait that goes on makes one call and counts what it is charged. -/
theorem awaitFrom_of_loading {waited : Duration} (hloading : status s = .loading)
    (hlt : waited.nanos < gate.timeout.nanos) :
    gate.awaitFrom status pump waited s =
      match waited.add? (gate.charge (pump (gate.nextSlice waited) s).1) with
      | none => (.overflowed, (pump (gate.nextSlice waited) s).2)
      | some waited' => gate.awaitFrom status pump waited' (pump (gate.nextSlice waited) s).2 := by
  rw [awaitFrom, hloading]
  dsimp only
  rw [dif_pos hlt]
  split <;> simp_all

/-- The call that a wait makes when so much has been charged. -/
theorem isMade_nextSlice {waited : Duration} (hloading : status s = .loading)
    (hlt : waited.nanos < gate.timeout.nanos) :
    Call.IsMade gate status pump waited.nanos
      ⟨s, gate.nextSlice waited, (pump (gate.nextSlice waited) s).1,
        (pump (gate.nextSlice waited) s).2⟩ where
  loading := hloading
  inTime := hlt
  slice := by rw [nextSlice, Duration.nanos_shorter, Duration.nanos_minus]
  answer := rfl

/-- A wait, from anywhere in it, with its calls written down behind others. -/
theorem awaitFrom_recorded (waited : Duration) (s : σ) (done : List (Call σ)) :
    ∃ calls, gate.awaitFrom (fun s => status s.1) (recorded pump) waited (s, done) =
        ((gate.awaitFrom status pump waited s).1, (gate.awaitFrom status pump waited s).2,
          done ++ calls) ∧
      gate.Runs status pump waited.nanos s calls (gate.awaitFrom status pump waited s) := by
  fun_induction gate.awaitFrom status pump waited s generalizing done with
  | case1 waited s h =>
    refine ⟨[], ?_, .nil (by rintro ⟨⟩) (by rintro ⟨⟩)⟩
    rw [List.append_nil]
    exact gate.awaitFrom_of_ready _ _ waited h
  | case2 waited s detail h =>
    refine ⟨[], ?_, .nil (by rintro ⟨⟩) (by rintro ⟨⟩)⟩
    rw [List.append_nil]
    exact gate.awaitFrom_of_failed _ _ waited h
  | case3 waited s h hlt elapsed next hpump hadd =>
    have hcall := gate.isMade_nextSlice status pump h hlt
    rw [hpump] at hcall
    refine ⟨[⟨s, gate.nextSlice waited, elapsed, next⟩], ?_, .cons rfl hcall ⟨?_, rfl, ?_, ?_⟩⟩
    · rw [gate.awaitFrom_of_loading _ _ (s := (s, done)) h hlt]
      simp only [recorded, hpump, hadd]
    · intro k call hk
      cases hk
    · rintro ⟨⟩
    · rintro -
      have hnone : ¬(waited.add? (gate.charge elapsed)).isSome = true := by simp [hadd]
      rw [Duration.add?_isSome] at hnone
      exact Nat.lt_of_not_le hnone
  | case4 waited s h hlt elapsed next hpump waited' hadd ih =>
    obtain ⟨calls, heq, hruns⟩ := ih (done ++ [⟨s, gate.nextSlice waited, elapsed, next⟩])
    have hcall := gate.isMade_nextSlice status pump h hlt
    rw [hpump] at hcall
    rw [Duration.nanos_of_add? hadd] at hruns
    refine ⟨⟨s, gate.nextSlice waited, elapsed, next⟩ :: calls, ?_, .cons rfl hcall hruns⟩
    rw [gate.awaitFrom_of_loading _ _ (s := (s, done)) h hlt]
    simp only [recorded, hpump, hadd]
    rw [heq, List.append_assoc]
    rfl
  | case5 waited s h hlt =>
    refine ⟨[], ?_, .nil (fun _ => Nat.le_of_not_lt hlt) (by rintro ⟨⟩)⟩
    rw [List.append_nil]
    exact gate.awaitFrom_of_timeout _ _ (s := (s, done)) h (Nat.le_of_not_lt hlt)

/-- Writing the calls down changes nothing else about a wait, and the wait is what it should
be. -/
theorem await_recorded (s : σ) :
    gate.await (fun s => status s.1) (recorded pump) (s, []) =
        ((gate.await status pump s).1, (gate.await status pump s).2, gate.calls status pump s) ∧
      gate.Runs status pump 0 s (gate.calls status pump s) (gate.await status pump s) := by
  obtain ⟨calls, heq, hruns⟩ := gate.awaitFrom_recorded status pump .zero s []
  rw [List.nil_append] at heq
  have hcalls : gate.calls status pump s = calls := congrArg (·.2.2) heq
  rw [hcalls]
  exact ⟨heq, hruns⟩

end Wait

/-- A wait, call by call, for every timeout, slice and event loop, as long as the timeout and
any one charge are in the range of durations together:

* it ends, and there are no more calls than the timeout has nanoseconds;
* each call is made in the state that the one before has left, while the template is loading and
  less than the timeout has been charged, and it is given the rest of the timeout but no more than
  a slice, which is some time;
* the wait ends in the state that the last call has left, so nothing but the event loop changes
  the template's status;
* it ends with the template ready or failed iff that is the status there, whatever has been
  charged by then, and it gives up iff the template is loading still and the timeout is used up. -/
theorem await_exact (timeout slice : Duration) (status : σ → CompileStatus)
    (pump : Duration → σ → Duration × σ) (s : σ)
    (hslice : timeout.nanos + max slice.nanos 1000000 ≤ Duration.limit)
    (hreports : ∀ call ∈ (Gate.new timeout slice).calls status pump s,
      timeout.nanos + call.reported.nanos ≤ Duration.limit) :
    let gate := Gate.new timeout slice
    let calls := gate.calls status pump s
    let result := gate.await status pump s
    gate.await (fun s => status s.1) (recorded pump) (s, []) = (result.1, result.2, calls) ∧
      gate.slice.nanos = max slice.nanos 1000000 ∧
      calls.length ≤ timeout.nanos ∧
      (∀ (k : Nat) (call : Call σ), calls[k]? = some call →
        let waited := gate.charged (calls.take k)
        call.before = stateAfter s (calls.take k) ∧
          status call.before = .loading ∧ waited < timeout.nanos ∧
          call.slice.nanos = min gate.slice.nanos (timeout.nanos - waited) ∧
          0 < call.slice.nanos ∧
          pump call.slice call.before = (call.reported, call.after)) ∧
      result.2 = stateAfter s calls ∧
      (result.1 = .ready ↔ status result.2 = .ready) ∧
      (∀ detail, result.1 = .failed detail ↔ status result.2 = .failed detail) ∧
      (result.1 = .timedOut ↔
        status result.2 = .loading ∧ timeout.nanos ≤ gate.charged calls) ∧
      result.1 ≠ .overflowed := by
  intro gate calls result
  have hraised : gate.slice.nanos = max slice.nanos 1000000 := Duration.nanos_longer _ _
  obtain ⟨hrecorded, hruns⟩ := gate.await_recorded status pump s
  have hfits : result.1.Fits (status result.2) := gate.await_fits status pump s
  -- an overflow is more charged than there is room for
  have hnot : result.1 ≠ .overflowed := by
    intro hover
    have hmore := hruns.overflows hover
    have hless := hruns.charged_le (hraised ▸ hslice) hreports
    omega
  have hused : result.1 = .timedOut → timeout.nanos ≤ gate.charged calls := by
    intro hlate
    have hgivesUp := hruns.givesUp hlate
    rwa [Nat.zero_add] at hgivesUp
  refine ⟨hrecorded, hraised, hruns.length_le, ?_, hruns.final, ?_⟩
  · intro k call hk waited
    obtain ⟨hbefore, hcall⟩ := hruns.made k call hk
    rw [Nat.zero_add] at hcall
    exact ⟨hbefore, hcall.loading, hcall.inTime, hcall.slice, hcall.slice_pos, hcall.answer⟩
  · -- each way to end has a status of its own
    generalize result.1 = readiness at hfits hnot hused ⊢
    cases readiness with
    | overflowed => exact absurd rfl hnot
    | _ =>
      have hstatus := hfits
      simp only [Readiness.Fits] at hstatus
      simp [hstatus, hused]

/-- A template that is ready in the slice that uses a timeout of 25 ms up: the first slice takes no
time and is charged in full, the second passes in full, and the third reports more than is left. -/
def lastSlice : Scripted.Trial where
  status := .loading
  pump := .ofEntries
    [⟨some .zero, none, false⟩, Scripted.Pump.idle, ⟨some (.ofMillis 9), some .ready, false⟩]

theorem await_exact_of_lastSlice :
    let gate := Gate.new (.ofMillis 25) (.ofMillis 10)
    let calls := gate.calls Scripted.Trial.status Scripted.Trial.step lastSlice
    calls.map Call.slice = [.ofMillis 10, .ofMillis 10, .ofMillis 5] ∧
      gate.charged calls = 29000000 ∧
      (∀ call ∈ calls, (25000000 : Nat) + call.reported.nanos ≤ Duration.limit) ∧
      (lastSlice.run gate).1 = .ready ∧ calls.length ≤ 25000000 := by
  intro gate calls
  have hreports : ∀ call ∈ calls, (25000000 : Nat) + call.reported.nanos ≤ Duration.limit := by
    decide +kernel
  obtain ⟨-, -, hlength, -, -, hready, -⟩ := await_exact (.ofMillis 25) (.ofMillis 10)
    Scripted.Trial.status Scripted.Trial.step lastSlice (by decide) hreports
  exact ⟨by decide +kernel, by decide +kernel, hreports, hready.2 (by decide +kernel), hlength⟩

end SceneFactory.Gate
