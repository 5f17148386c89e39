import NetanaDriver.DsrThread

/-! Stopping the DSR thread: `stop_dsr_thread` with the two steps of `kthread_stop`, against a
DSR thread anywhere in its loop. -/
namespace NetanaDriver
open ToggleHandshake

variable {β : Type*}

/-- The next statement of `stop_dsr_thread`. -/
inductive StopPc where
  | setSig
  -- kthread_stop
  | setShouldStop
  | wakeUp
  | waitExit
  | stopped
  deriving DecidableEq, Repr

structure StopState (β : Type*) where
  drv : DrvState β
  stop : StopPc

inductive StopAction where
  | isr (ulIRQState_0 : BitVec 32)
  | dsr (c : DsrChoice)
  | stop
  deriving DecidableEq

/-- The wake-up changes nothing: the thread looks at `dsr_sig` and sleeps on unless it is set. -/
def stopDsrThread (x : StopState β) : Option (StopState β) :=
  match x.stop with
  | .setSig => some { x with drv := { x.drv with dsrSig := true }, stop := .setShouldStop }
  | .setShouldStop => some { x with drv := { x.drv with shouldStop := true }, stop := .wakeUp }
  | .wakeUp => some { x with stop := .waitExit }
  | .waitExit => if x.drv.dsr = .exited then some { x with stop := .stopped } else none
  | .stopped => none

def stopStep (x : StopState β) : StopAction → Option (StopState β)
  | .isr ulIRQState_0 => some { x with drv := netanaIsr ulIRQState_0 x.drv }
  | .dsr c => (dsrStep c x.drv).map fun s => { x with drv := s }
  | .stop => stopDsrThread x

/-- `kthread_stop` waits for a thread that sleeps without a request. -/
def StopHangs (x : StopState β) : Prop :=
  x.stop = .waitExit ∧ x.drv.shouldStop = true ∧ x.drv.dsr = .waitSig ∧ x.drv.dsrSig = false

/-- The condition on a step: between the two writes of `stop_dsr_thread` the DSR does not test
for the stop with the request already cleared. -/
def stopNoticed (x : StopState β) : StopAction → Bool
  | .dsr _ => !(x.stop == .setShouldStop && x.drv.dsr == .testStop && !x.drv.dsrSig)
  | _ => true

theorem toggleStep_sig {s : DrvState β} {b : ℕ} {stage : ToggleStage}
    {r : DrvState β × Option ToggleStage} (h : toggleStep b stage s = some r) :
    r.1.dsrSig = s.dsrSig ∧ r.1.shouldStop = s.shouldStop := by
  cases stage with
  | enterLock =>
    obtain ⟨t, ht, rfl⟩ := Option.map_eq_some_iff.mp h
    unfold osEnterLock at ht
    split at ht
    · cases ht
    · cases ht
      exact ⟨rfl, rfl⟩
  | xorHost | storeHost | leaveLock =>
    cases h
    exact ⟨rfl, rfl⟩

theorem signalDriverError_sig {s t : DrvState β} {c : DsrChoice}
    (h : netanaSignalDriverError c s = some t) :
    t.dsrSig = s.dsrSig ∧ t.shouldStop = s.shouldStop := by
  unfold netanaSignalDriverError at h
  split at h
  · obtain ⟨u, hu, rfl⟩ := Option.map_eq_some_iff.mp h
    unfold osEnterLock at hu
    split at hu
    · cases hu
    · cases hu
      exact ⟨rfl, rfl⟩
  · cases h
    exact ⟨rfl, rfl⟩

/-- Where the DSR reads and writes the request and the stop flag. -/
theorem dsrStep_sig {s t : DrvState β} {c : DsrChoice} (h : dsrStep c s = some t) :
    t.shouldStop = s.shouldStop ∧
      (t.dsr = .testStop ∨
        t.dsrSig = s.dsrSig ∧ s.dsr ≠ .exited ∧
          (s.dsr = .testStop → s.shouldStop = true → t.dsr = .exited)) := by
  rw [dsrStep] at h
  cases hpc : s.dsr
  all_goals
    rw [hpc] at h
    dsimp only at h
  case clearSig =>
    cases h
    exact ⟨rfl, Or.inl rfl⟩
  case testStop =>
    cases h
    refine ⟨rfl, Or.inr ⟨rfl, by decide, ?_⟩⟩
    intro _ hstop
    exact if_pos hstop
  case exited => cases h
  case toggleData | toggleStatus =>
    obtain ⟨r, hr, rfl⟩ := Option.map_eq_some_iff.mp h
    obtain ⟨hsig, hstop⟩ := toggleStep_sig hr
    exact ⟨hstop, Or.inr ⟨hsig, by simp, fun hts => by cases hts⟩⟩
  case rejectBuffer =>
    obtain ⟨u, hu, rfl⟩ := Option.map_eq_some_iff.mp h
    obtain ⟨hsig, hstop⟩ := signalDriverError_sig hu
    exact ⟨hstop, Or.inr ⟨hsig, by simp, fun hts => by cases hts⟩⟩
  case writeFile =>
    split at h
    · obtain ⟨u, hu, rfl⟩ := Option.map_eq_some_iff.mp h
      obtain ⟨hsig, hstop⟩ := signalDriverError_sig hu
      exact ⟨hstop, Or.inr ⟨hsig, by simp, fun hts => by cases hts⟩⟩
    · cases h
      exact ⟨rfl, Or.inr ⟨rfl, by simp, fun hts => by cases hts⟩⟩
  case waitSig =>
    split at h
    · cases h
      exact ⟨rfl, Or.inr ⟨rfl, by simp, fun hts => by cases hts⟩⟩
    · cases h
  case testOff =>
    split at h
    all_goals
      cases h
      exact ⟨rfl, Or.inr ⟨rfl, by simp, fun hts => by cases hts⟩⟩
  case signalBits =>
    split at h
    · split at h
      · cases h
        exact ⟨rfl, Or.inr ⟨rfl, by simp, fun hts => by cases hts⟩⟩
      · cases h
        exact ⟨rfl, Or.inr ⟨rfl, by simp, fun hts => by cases hts⟩⟩
    · cases h
      exact ⟨rfl, Or.inr ⟨rfl, by simp, fun hts => by cases hts⟩⟩
  all_goals
    cases h
    exact ⟨rfl, Or.inr ⟨rfl, by simp, fun hts => by cases hts⟩⟩

/-- Once the stop has been requested, the request is there, or the DSR has taken it and looks for
the stop next, or it has ended. -/
structure StopInv (x : StopState β) : Prop where
  pending : x.stop ≠ .setSig →
    x.drv.dsrSig = true ∨ x.drv.dsr = .testStop ∨ x.drv.dsr = .exited
  flagged : x.stop ≠ .setSig → x.stop ≠ .setShouldStop → x.drv.shouldStop = true

theorem stopStep_inv (x : StopState β) (a : StopAction) (y : StopState β) (hi : StopInv x)
    (hok : stopNoticed x a = true) (h : stopStep x a = some y) : StopInv y := by
  cases a with
  | isr w =>
    cases h
    unfold netanaIsr
    split
    · exact ⟨fun _ => Or.inl rfl, hi.flagged⟩
    · exact hi
  | dsr c =>
    obtain ⟨t, ht, rfl⟩ := Option.map_eq_some_iff.mp h
    obtain ⟨hstop, hcase⟩ := dsrStep_sig ht
    refine ⟨?_, fun h1 h2 => hstop.trans (hi.flagged h1 h2)⟩
    intro hreq
    rcases hcase with htest | ⟨hsig, halive, hexit⟩
    · exact Or.inr (Or.inl htest)
    · -- the request is still there, unless the DSR has cleared it and finds the stop flag set
      rcases hi.pending hreq with hset | htest | hexited
      · exact Or.inl (hsig.trans hset)
      · by_cases hset : x.drv.dsrSig = true
        · exact Or.inl (hsig.trans hset)
        · have hlate : x.stop ≠ .setShouldStop := by
            intro heq
            simp [stopNoticed, heq, htest, hset] at hok
          exact Or.inr (Or.inr (hexit htest (hi.flagged hreq hlate)))
      · exact absurd hexited halive
  | stop =>
    have h' : stopDsrThread x = some y := h
    unfold stopDsrThread at h'
    cases hpc : x.stop
    all_goals
      rw [hpc] at h'
      dsimp only at h'
    case setSig =>
      cases h'
      exact ⟨fun _ => Or.inl rfl, fun _ h2 => absurd rfl h2⟩
    case setShouldStop =>
      cases h'
      exact ⟨fun _ => hi.pending (by rw [hpc]; decide), fun _ _ => rfl⟩
    case wakeUp =>
      cases h'
      exact ⟨fun _ => hi.pending (by rw [hpc]; decide),
        fun _ _ => hi.flagged (by rw [hpc]; decide) (by rw [hpc]; decide)⟩
    case waitExit =>
      split at h'
      · cases h'
        exact ⟨fun _ => hi.pending (by rw [hpc]; decide),
          fun _ _ => hi.flagged (by rw [hpc]; decide) (by rw [hpc]; decide)⟩
      · cases h'
    case stopped => cases h'

/-- In every run in which the DSR does not test for the stop between the two writes after it has
cleared the request, `kthread_stop` never waits for a sleeping thread. -/
theorem stop_dsr_thread_heard (x y : StopState β) (as : List StopAction) (hx : x.stop = .setSig)
    (hok : StepRuns.Along (fun x a => stopNoticed x a = true) stopStep x as)
    (hrun : StepRuns.run stopStep x as = some y) : ¬ StopHangs y := by
  have hstart : StopInv x := ⟨fun h => absurd hx h, fun h => absurd hx h⟩
  have hi := StepRuns.along_invariant stopStep_inv hstart hok hrun
  rintro ⟨hwait, -, hpc, hsig⟩
  rcases hi.pending (by rw [hwait]; decide) with hset | htest | hexited
  · rw [hsig] at hset
    cases hset
  · rw [hpc] at htest
    cases htest
  · rw [hpc] at hexited
    cases hexited

/-- An interrupt has woken the DSR when the thread that stops it begins. -/
def stoppedDevice : StopState Unit :=
  ⟨{ restingDevice 0#16 1 64#32 (fun _ => ()) with dsrSig := true }, .setSig⟩

/-- The DSR makes a whole pass before it takes the request of the stop, and ends. -/
def noticedStop : List StopAction := List.flatten
  [List.replicate 3 (.dsr ⟨true, false⟩), [.stop], List.replicate 6 (.dsr ⟨true, false⟩),
    [.stop, .stop, .dsr ⟨true, false⟩, .stop]]

theorem stop_dsr_thread_heard_pass :
    ∃ y, StepRuns.run stopStep stoppedDevice noticedStop = some y ∧ y.stop = .stopped ∧
      ¬ StopHangs y := by
  obtain ⟨y, hy, hstop⟩ : ∃ y, StepRuns.run stopStep stoppedDevice noticedStop = some y ∧
      y.stop = .stopped := ⟨_, rfl, by rfl⟩
  have hok : StepRuns.checkAlong stopNoticed stopStep stoppedDevice noticedStop = true := by rfl
  exact ⟨y, hy, hstop,
    stop_dsr_thread_heard _ y noticedStop rfl (StepRuns.along_of_check hok) hy⟩

/-- The DSR, woken by the interrupt, clears the request of the stop with its own and tests for
the stop before it is flagged; after its pass it sleeps. -/
def missedStop : List StopAction := List.flatten
  [[.dsr ⟨true, false⟩, .stop], List.replicate 6 (.dsr ⟨true, false⟩), [.stop, .stop]]

theorem stop_dsr_thread_missed :
    ¬ (∀ (x y : StopState Unit) (as : List StopAction), x.stop = .setSig →
      x.drv.shouldStop = false → x.drv.dsr ≠ .exited →
      StepRuns.run stopStep x as = some y → ¬ StopHangs y) := by
  intro hall
  obtain ⟨y, hy, hhangs⟩ : ∃ y, StepRuns.run stopStep stoppedDevice missedStop = some y ∧
      StopHangs y := ⟨_, rfl, ⟨by rfl, by rfl, by rfl, by rfl⟩⟩
  exact hall stoppedDevice y missedStop rfl rfl (by decide) hy hhangs

end NetanaDriver
