import NetanaDriver.DsrThread

/-! Device removal while the DSR thread is alive: `netana_tkit_deviceremove` with what
`netana_unregisterdevice` does after it, against a DSR pass in flight. -/
namespace NetanaDriver
open ToggleHandshake

variable {β : Type*}

/-- The next statement of the thread that removes the device: `netana_tkit_deviceremove` with
`fForceRemove` set, `OS_DisableDeviceInterrupts` and `DeleteIrqEvents` inside it, then
`stop_dsr_thread`. -/
inductive RemovePc where
  | toggleClkOff (stage : ToggleStage)
  | waitAck
  | disableIrq
  | osDisableIrq
  | freeIrq
  | deleteStopEvent
  | deleteBitEvents (ulIdx : ℕ)
  | deleteLock
  | unlist
  | returned
  | kthreadStop
  | joinThread
  deriving DecidableEq, Repr

/-- `registered`: the interrupt line is still requested. `listed`: the device is in the list of
cards. -/
structure RemovalState (β : Type*) where
  drv : DrvState β
  pc : RemovePc
  registered : Bool
  listed : Bool

inductive RemovalAction where
  | isr (ulIRQState_0 : BitVec 32)
  | dsr (c : DsrChoice)
  | firmware (usNetxFlags : BitVec 16)
  | remove (timeout : Bool)
  deriving DecidableEq

/-- The next statement of the removing thread. The wait for the acknowledge looks at the cached
flags; when it does so and when its time is over is left open. -/
def removeStep (timeout : Bool) (x : RemovalState β) : Option (RemovalState β) :=
  match x.pc with
  | .toggleClkOff stage => (toggleStep clkoffBit stage x.drv).map fun r =>
      { x with drv := r.1, pc := match r.2 with
        | some next => .toggleClkOff next
        | none => .waitAck }
  | .waitAck =>
    if timeout || getHskBitState x.drv.ulHostFlags x.drv.ulNetxFlags (1#32 <<< clkoffBit) .equal =
        .equal then some { x with pc := .disableIrq }
    else none
  | .disableIrq => some { x with drv := { x.drv with ulIRQEnable_0 := 0#32 }, pc := .osDisableIrq }
  -- OS_DisableDeviceInterrupts
  | .osDisableIrq => some { x with drv := { x.drv with ulIRQEnable_0 := 0#32 }, pc := .freeIrq }
  | .freeIrq => some { x with registered := false, pc := .deleteStopEvent }
  -- DeleteIrqEvents
  | .deleteStopEvent => some { x with
      drv := { x.drv with hStopComplete := none }
      pc := .deleteBitEvents 0 }
  | .deleteBitEvents ulIdx =>
    if ulIdx < 16 then some { x with
      drv := { x.drv with
        ahHandshakeBitEvents := Function.update x.drv.ahHandshakeBitEvents ulIdx none }
      pc := .deleteBitEvents (ulIdx + 1) }
    else some { x with pc := .deleteLock }
  | .deleteLock => some { x with drv := { x.drv with pvLock := none }, pc := .unlist }
  | .unlist => some { x with listed := false, pc := .returned }
  -- stop_dsr_thread
  | .returned => some { x with drv := { x.drv with dsrSig := true }, pc := .kthreadStop }
  | .kthreadStop => some { x with drv := { x.drv with shouldStop := true }, pc := .joinThread }
  | .joinThread => none

def removalStep (x : RemovalState β) : RemovalAction → Option (RemovalState β)
  | .isr ulIRQState_0 =>
    if x.registered then some { x with drv := netanaIsr ulIRQState_0 x.drv } else none
  | .dsr c => (dsrStep c x.drv).map fun s => { x with drv := s }
  | .firmware usNetxFlags => some { x with drv := { x.drv with usNetxFlags := usNetxFlags } }
  | .remove timeout => removeStep timeout x

/-- `netana_tkit_deviceremove` has returned. -/
def RemovePc.hasReturned : RemovePc → Bool
  | .returned | .kthreadStop | .joinThread => true
  | _ => false

/-- The last write to the interrupt enable register has been made. -/
def RemovePc.disabled : RemovePc → Bool
  | .freeIrq | .deleteStopEvent | .deleteBitEvents _ | .deleteLock | .unlist | .returned
  | .kthreadStop | .joinThread => true
  | _ => false

/-- Events and lock may have been deleted. -/
def RemovePc.deleting : RemovePc → Bool
  | .deleteBitEvents _ | .deleteLock | .unlist | .returned | .kthreadStop | .joinThread => true
  | _ => false

/-- The removal finds the device with its events and its lock, its interrupt line requested,
and the DSR thread anywhere in its loop. -/
structure RemovalStart (x : RemovalState β) : Prop where
  pc : x.pc = .toggleClkOff .enterLock
  registered : x.registered = true
  bitEvents : ∀ b, x.drv.ahHandshakeBitEvents b ≠ none
  stopEvent : x.drv.hStopComplete ≠ none
  lock : x.drv.pvLock ≠ none
  unused : x.drv.usedDeleted = false

/-- Removal is final: interrupts are disabled once it has returned, and nothing deleted is
used. -/
def RemovalFinal (x : RemovalState β) : Prop :=
  (x.pc.hasReturned = true → x.drv.ulIRQEnable_0 = 0#32) ∧ x.drv.usedDeleted = false

/-- The DSR thread is asleep for good: it waits without a request, or it has ended. -/
def DrvState.dsrAsleep (s : DrvState β) : Bool :=
  (s.dsr == .waitSig && !s.dsrSig) || s.dsr == .exited

/-- The condition on a step: interrupts are disabled only while the DSR sleeps, no interrupt of
the device is handled between that and the release of the interrupt line, and the DSR that is
woken for the last time finds that it has to stop. -/
def removalQuiet (x : RemovalState β) : RemovalAction → Bool
  | .remove _ => x.pc != .osDisableIrq || x.drv.dsrAsleep
  | .isr ulIRQState_0 => !(x.pc.disabled && maskTest ulIRQState_0 mskIntReq)
  | .dsr _ => !(x.pc.disabled && x.drv.dsr == .testStop) || x.drv.shouldStop
  | .firmware _ => true

/-- All events and the lock exist, and nothing deleted has been used. -/
structure Resources (s : DrvState β) : Prop where
  bitEvents : ∀ b, s.ahHandshakeBitEvents b ≠ none
  stopEvent : s.hStopComplete ≠ none
  lock : s.pvLock ≠ none
  unused : s.usedDeleted = false

theorem Resources.setBitEvent {s : DrvState β} (h : Resources s) (b : ℕ) :
    Resources (osSetBitEvent b s) := by
  refine ⟨fun i => ?_, h.stopEvent, h.lock, ?_⟩
  · simp only [osSetBitEvent]
    by_cases hi : i = b
    · subst hi
      rw [Function.update_self]
      simpa using h.bitEvents i
    · rw [Function.update_of_ne hi]
      exact h.bitEvents i
  · have hb := h.bitEvents b
    simp only [osSetBitEvent, h.unused, Bool.false_or]
    simpa [Option.isSome_iff_ne_none] using hb

theorem Resources.setStopEvent {s : DrvState β} (h : Resources s) :
    Resources (osSetStopEvent s) := by
  have hs := h.stopEvent
  refine ⟨h.bitEvents, ?_, h.lock, ?_⟩
  · simpa [osSetStopEvent] using hs
  · simp only [osSetStopEvent, h.unused, Bool.false_or]
    simpa [Option.isSome_iff_ne_none] using hs

theorem Resources.enterLock {s t : DrvState β} (h : Resources s) (ht : osEnterLock s = some t) :
    Resources t := by
  have hl := h.lock
  rw [osEnterLock] at ht
  split at ht
  · cases ht
  · cases ht
    refine ⟨h.bitEvents, h.stopEvent, ?_, ?_⟩
    · simpa using hl
    · simp only [h.unused, Bool.false_or]
      simpa [Option.isSome_iff_ne_none] using hl

theorem Resources.leaveLock {s : DrvState β} (h : Resources s) : Resources (osLeaveLock s) := by
  have hl := h.lock
  refine ⟨h.bitEvents, h.stopEvent, ?_, ?_⟩
  · simpa [osLeaveLock] using hl
  · simp only [osLeaveLock, h.unused, Bool.false_or]
    simpa [Option.isSome_iff_ne_none] using hl

theorem Resources.toggleStep {s : DrvState β} (h : Resources s) {b : ℕ} {st : ToggleStage}
    {r : DrvState β × Option ToggleStage} (hr : NetanaDriver.toggleStep b st s = some r) :
    Resources r.1 := by
  cases st with
  | enterLock =>
    obtain ⟨t, ht, rfl⟩ := Option.map_eq_some_iff.mp hr
    exact h.enterLock ht
  | xorHost =>
    cases hr
    exact ⟨h.bitEvents, h.stopEvent, h.lock, h.unused⟩
  | storeHost =>
    cases hr
    exact ⟨h.bitEvents, h.stopEvent, h.lock, h.unused⟩
  | leaveLock =>
    cases hr
    exact h.leaveLock

theorem Resources.signalError {s t : DrvState β} (h : Resources s) {c : DsrChoice}
    (ht : netanaSignalDriverError c s = some t) : Resources t := by
  rw [netanaSignalDriverError] at ht
  split at ht
  · rw [netanaTkitToggleBit] at ht
    obtain ⟨u, hu, rfl⟩ := Option.map_eq_some_iff.mp ht
    have hlocked := h.enterLock hu
    exact Resources.leaveLock ⟨hlocked.bitEvents, hlocked.stopEvent, hlocked.lock, hlocked.unused⟩
  · cases ht
    exact h

/-- While everything exists, the DSR uses nothing deleted, whatever it does. -/
theorem Resources.dsr {s t : DrvState β} (h : Resources s) {c : DsrChoice}
    (ht : dsrStep c s = some t) : Resources t := by
  rw [dsrStep] at ht
  cases hpc : s.dsr
  all_goals
    rw [hpc] at ht
    dsimp only at ht
  case waitSig =>
    split at ht
    · cases ht
      exact ⟨h.bitEvents, h.stopEvent, h.lock, h.unused⟩
    · cases ht
  case signalBits ulBitPos ulChangedBits lRet =>
    split at ht
    · split at ht
      · cases ht
        obtain ⟨h1, h2, h3, h4⟩ := h.setBitEvent ulBitPos
        exact ⟨h1, h2, h3, h4⟩
      · cases ht
        exact ⟨h.bitEvents, h.stopEvent, h.lock, h.unused⟩
    · cases ht
      exact ⟨h.bitEvents, h.stopEvent, h.lock, h.unused⟩
  case toggleData | toggleStatus =>
    obtain ⟨u, hu, rfl⟩ := Option.map_eq_some_iff.mp ht
    obtain ⟨h1, h2, h3, h4⟩ := h.toggleStep hu
    exact ⟨h1, h2, h3, h4⟩
  case rejectBuffer l =>
    obtain ⟨u, hu, rfl⟩ := Option.map_eq_some_iff.mp ht
    obtain ⟨h1, h2, h3, h4⟩ := h.signalError hu
    exact ⟨h1, h2, h3, h4⟩
  case writeFile l =>
    split at ht
    · obtain ⟨u, hu, rfl⟩ := Option.map_eq_some_iff.mp ht
      obtain ⟨h1, h2, h3, h4⟩ := h.signalError hu
      exact ⟨h1, h2, h3, h4⟩
    · cases ht
      exact ⟨h.bitEvents, h.stopEvent, h.lock, h.unused⟩
  case testOff state =>
    split at ht
    · cases ht
      obtain ⟨h1, h2, h3, h4⟩ := h.setStopEvent
      exact ⟨h1, h2, h3, h4⟩
    · cases ht
      exact ⟨h.bitEvents, h.stopEvent, h.lock, h.unused⟩
  case exited => cases ht
  all_goals
    cases ht
    exact ⟨h.bitEvents, h.stopEvent, h.lock, h.unused⟩

/-- Positions from which a DSR that has to stop ends without touching the device. -/
def DsrPc.ending : DsrPc → Bool
  | .waitSig | .clearSig | .testStop | .exited => true
  | _ => false

/-- Everything exists until the deletion starts. Once interrupts are disabled they stay so,
nothing deleted has been used, and the DSR sleeps until it is woken to stop. -/
structure RemovalInv (x : RemovalState β) : Prop where
  resources : x.pc.deleting = false → Resources x.drv
  irq : x.pc.disabled = true → x.drv.ulIRQEnable_0 = 0#32
  unused : x.drv.usedDeleted = false
  ending : x.pc.disabled = true → x.drv.dsr.ending = true
  asleep : x.pc.disabled = true → x.pc.hasReturned = false → x.drv.dsrAsleep = true

theorem RemovalInv.removeStep {x y : RemovalState β} {timeout : Bool} (hi : RemovalInv x)
    (hok : removalQuiet x (.remove timeout) = true)
    (h : NetanaDriver.removeStep timeout x = some y) : RemovalInv y := by
  rw [NetanaDriver.removeStep] at h
  cases hpc : x.pc
  all_goals
    rw [hpc] at h
    dsimp only at h
  case toggleClkOff stage =>
    obtain ⟨r, hr, rfl⟩ := Option.map_eq_some_iff.mp h
    have hres := (hi.resources (by rw [hpc]; rfl)).toggleStep hr
    -- the interrupts are still on after every statement of the toggle
    have hpc' : ∀ o : Option ToggleStage, (match o with
        | some next => RemovePc.toggleClkOff next
        | none => .waitAck).disabled = false := by
      intro o
      cases o <;> rfl
    refine ⟨fun _ => hres, fun hd => ?_, hres.unused, fun hd => ?_, fun hd => ?_⟩
    all_goals
      rw [hpc'] at hd
      cases hd
  case waitAck =>
    split at h
    · cases h
      have hres := hi.resources (by rw [hpc]; rfl)
      exact ⟨fun _ => hres, fun hd => (by cases hd), hi.unused, fun hd => (by cases hd),
        fun hd => (by cases hd)⟩
    · cases h
  case disableIrq =>
    cases h
    obtain ⟨h1, h2, h3, h4⟩ := hi.resources (by rw [hpc]; rfl)
    exact ⟨fun _ => ⟨h1, h2, h3, h4⟩, fun hd => (by cases hd), hi.unused,
      fun hd => (by cases hd), fun hd => (by cases hd)⟩
  case osDisableIrq =>
    cases h
    obtain ⟨h1, h2, h3, h4⟩ := hi.resources (by rw [hpc]; rfl)
    -- from here on it counts that the DSR slept when the interrupts were switched off
    have hasleep : x.drv.dsrAsleep = true := by
      simpa [removalQuiet, hpc] using hok
    refine ⟨fun _ => ⟨h1, h2, h3, h4⟩, fun _ => rfl, hi.unused, fun _ => ?_, fun _ _ => hasleep⟩
    rw [DrvState.dsrAsleep, Bool.or_eq_true, Bool.and_eq_true, beq_iff_eq, beq_iff_eq] at hasleep
    dsimp only
    rcases hasleep with ⟨hw, -⟩ | hw
    · rw [hw]
      rfl
    · rw [hw]
      rfl
  case freeIrq =>
    cases h
    exact ⟨fun _ => hi.resources (by rw [hpc]; rfl), fun _ => hi.irq (by rw [hpc]; rfl),
      hi.unused, fun _ => hi.ending (by rw [hpc]; rfl),
      fun _ _ => hi.asleep (by rw [hpc]; rfl) (by rw [hpc]; rfl)⟩
  case deleteBitEvents ulIdx =>
    have hirq := hi.irq (by rw [hpc]; rfl)
    have hend := hi.ending (by rw [hpc]; rfl)
    have hasleep := hi.asleep (by rw [hpc]; rfl) (by rw [hpc]; rfl)
    split at h
    all_goals
      cases h
      exact ⟨fun hd => (by cases hd), fun _ => hirq, hi.unused, fun _ => hend,
        fun _ _ => hasleep⟩
  -- the last position: the thread is waited for
  case joinThread => cases h
  case returned | kthreadStop =>
    cases h
    exact ⟨fun hd => (by cases hd), fun _ => hi.irq (by rw [hpc]; rfl), hi.unused,
      fun _ => hi.ending (by rw [hpc]; rfl), fun _ hr => (by cases hr)⟩
  all_goals
    cases h
    exact ⟨fun hd => (by cases hd), fun _ => hi.irq (by rw [hpc]; rfl), hi.unused,
      fun _ => hi.ending (by rw [hpc]; rfl),
      fun _ _ => hi.asleep (by rw [hpc]; rfl) (by rw [hpc]; rfl)⟩

/-- A DSR that is ending touches neither the interrupt enable nor the events and the lock. -/
theorem dsrStep_ending {s t : DrvState β} {c : DsrChoice} (h : dsrStep c s = some t)
    (he : s.dsr.ending = true) (hstop : s.dsr = .testStop → s.shouldStop = true) :
    t.ulIRQEnable_0 = s.ulIRQEnable_0 ∧ t.usedDeleted = s.usedDeleted ∧ t.dsr.ending = true ∧
      s.dsrAsleep = false := by
  rw [dsrStep] at h
  cases hpc : s.dsr
  all_goals rw [hpc] at he
  all_goals first | cases he; done | skip
  all_goals
    rw [hpc] at h
    dsimp only at h
  case waitSig =>
    split at h
    · rename_i hsig
      cases h
      exact ⟨rfl, rfl, rfl, by simp [DrvState.dsrAsleep, hpc, hsig]⟩
    · cases h
  case clearSig =>
    cases h
    exact ⟨rfl, rfl, rfl, by simp [DrvState.dsrAsleep, hpc]⟩
  case testStop =>
    rw [hstop hpc] at h
    cases h
    exact ⟨rfl, rfl, rfl, by simp [DrvState.dsrAsleep, hpc]⟩
  case exited => cases h

theorem removalStep_inv (x : RemovalState β) (a : RemovalAction) (y : RemovalState β)
    (hi : RemovalInv x) (hok : removalQuiet x a = true) (h : removalStep x a = some y) :
    RemovalInv y := by
  cases a with
  | remove timeout => exact hi.removeStep hok h
  | firmware w =>
    cases h
    refine ⟨fun hd => ?_, hi.irq, hi.unused, hi.ending, hi.asleep⟩
    obtain ⟨h1, h2, h3, h4⟩ := hi.resources hd
    exact ⟨h1, h2, h3, h4⟩
  | isr w =>
    rw [removalStep] at h
    split at h
    · cases h
      by_cases hw : maskTest w mskIntReq = true
      · -- the handler runs only before interrupts are disabled for the last time
        have hdis : x.pc.disabled = false := by
          simpa [removalQuiet, hw] using hok
        rw [netanaIsr, if_pos hw]
        refine ⟨fun hd => ?_, fun hd => ?_, hi.unused, fun hd => ?_, fun hd => ?_⟩
        · obtain ⟨h1, h2, h3, h4⟩ := hi.resources hd
          exact ⟨h1, h2, h3, h4⟩
        all_goals exact absurd (hdis.symm.trans hd) (by decide)
      · rw [netanaIsr, if_neg hw]
        exact hi
    · cases h
  | dsr c =>
    obtain ⟨t, ht, rfl⟩ := Option.map_eq_some_iff.mp h
    cases hdis : x.pc.disabled with
    | false =>
      have hdel : x.pc.deleting = false := by
        cases hpc : x.pc
        all_goals first | rfl | (rw [hpc] at hdis; cases hdis)
      have hres := (hi.resources hdel).dsr ht
      refine ⟨fun _ => hres, fun hd => ?_, hres.unused, fun hd => ?_, fun hd => ?_⟩
      all_goals exact absurd (hdis.symm.trans hd) (by decide)
    | true =>
      have hstop : x.drv.dsr = .testStop → x.drv.shouldStop = true := by
        intro hts
        simpa [removalQuiet, hdis, hts] using hok
      obtain ⟨hirq, hused, hend, hawake⟩ := dsrStep_ending ht (hi.ending hdis) hstop
      refine ⟨fun hd => ?_, fun _ => ?_, ?_, fun _ => hend, fun _ hr => ?_⟩
      · exact (hi.resources hd).dsr ht
      · exact hirq.trans (hi.irq hdis)
      · exact hused.trans hi.unused
      · rw [hi.asleep hdis hr] at hawake
        cases hawake

theorem RemovalStart.inv {x : RemovalState β} (h : RemovalStart x) : RemovalInv x := by
  refine ⟨fun _ => ⟨h.bitEvents, h.stopEvent, h.lock, h.unused⟩, fun hd => ?_, h.unused,
    fun hd => ?_, fun hd => ?_⟩
  all_goals
    rw [h.pc] at hd
    cases hd

/-- In every run in which interrupts are disabled only under a sleeping DSR, no interrupt of the
device is handled before its line is released, and the DSR is not let through its stop test,
removal is final. -/
theorem removal_final_of_quiet (x y : RemovalState β) (as : List RemovalAction)
    (h : RemovalStart x)
    (hok : StepRuns.Along (fun x a => removalQuiet x a = true) removalStep x as)
    (hrun : StepRuns.run removalStep x as = some y) : RemovalFinal y := by
  have hi := StepRuns.along_invariant removalStep_inv h.inv hok hrun
  refine ⟨fun hr => hi.irq ?_, hi.unused⟩
  cases hpc : y.pc
  all_goals first | rfl | (rw [hpc] at hr; cases hr)

/-- The device of the runs below: at rest, about to be removed. -/
def removedDevice : RemovalState Unit :=
  ⟨restingDevice 0#16 1 64#32 fun _ => (), .toggleClkOff .enterLock, true, true⟩

theorem removedDevice_start : RemovalStart removedDevice :=
  ⟨rfl, rfl, fun _ => (by simp [removedDevice, restingDevice]),
    (by simp [removedDevice, restingDevice]), (by simp [removedDevice, restingDevice]), rfl⟩

/-- The acknowledge arrives and is handled to the end before the removal goes on. -/
def quietRemoval : List RemovalAction := List.flatten
  [List.replicate 4 (.remove false), [.firmware 0x8000#16, .isr mskIntReq],
    List.replicate 28 (.dsr ⟨true, false⟩), List.replicate 26 (.remove false),
    List.replicate 3 (.dsr ⟨true, false⟩)]

theorem removal_final_of_quiet_acknowledged :
    ∃ y, StepRuns.run removalStep removedDevice quietRemoval = some y ∧
      y.pc.hasReturned = true ∧ RemovalFinal y := by
  obtain ⟨y, hy, hr⟩ : ∃ y, StepRuns.run removalStep removedDevice quietRemoval = some y ∧
      y.pc.hasReturned = true := ⟨_, rfl, by rfl⟩
  have hok : StepRuns.checkAlong removalQuiet removalStep removedDevice quietRemoval = true := by
    rfl
  exact ⟨y, hy, hr, removal_final_of_quiet removedDevice y quietRemoval removedDevice_start
    (StepRuns.along_of_check hok) hy⟩

/-- The netX flags change as given; the removal goes on as soon as the DSR has set the event it
waits for, and returns while the DSR has `rest` statements of its pass still to come. -/
def overlappedRemoval (usNetxFlags : BitVec 16) (rest : ℕ) : List RemovalAction := List.flatten
  [List.replicate 4 (.remove false), [.firmware usNetxFlags, .isr mskIntReq],
    List.replicate 25 (.dsr ⟨true, false⟩), List.replicate 24 (.remove false),
    List.replicate rest (.dsr ⟨true, false⟩)]

/-- The pass that delivers the acknowledge enables the interrupts again after the removal has
returned, and if it also delivers a new capture state, it enters the deleted lock. -/
theorem removal_not_final :
    ¬ (∀ (x y : RemovalState Unit) (as : List RemovalAction), RemovalStart x →
      StepRuns.run removalStep x as = some y →
        y.pc.hasReturned = true → y.drv.ulIRQEnable_0 = 0#32) ∧
    ¬ (∀ (x y : RemovalState Unit) (as : List RemovalAction), RemovalStart x →
      StepRuns.run removalStep x as = some y → y.drv.usedDeleted = false) := by
  refine ⟨fun hall => ?_, fun hall => ?_⟩
  · obtain ⟨y, hy, hr, hirq⟩ : ∃ y, StepRuns.run removalStep removedDevice
        (overlappedRemoval 0x8000#16 3) = some y ∧ y.pc.hasReturned = true ∧
        y.drv.ulIRQEnable_0 = (mskIntReq ||| 1#32) := ⟨_, rfl, by rfl, by rfl⟩
    have hzero := hall removedDevice y _ removedDevice_start hy hr
    rw [hirq] at hzero
    exact absurd hzero (by decide)
  · obtain ⟨y, hy, hused⟩ : ∃ y, StepRuns.run removalStep removedDevice
        (overlappedRemoval 0x8002#16 8) = some y ∧ y.drv.usedDeleted = true := ⟨_, rfl, by rfl⟩
    have hunused := hall removedDevice y _ removedDevice_start hy
    rw [hused] at hunused
    cases hunused

end NetanaDriver
