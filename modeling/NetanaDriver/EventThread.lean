import NetanaDriver.DriverState
import NetanaDriver.CaptureFiles
import NetanaDriver.DeviceSession
import NetanaDriver.StepRuns

/-! The event thread of libnetana: `netana_start_capture` creates it, `netana_stop_capture` ends it,
and `netana_close_device` frees the instance that it works on (libnetana/netana_functions.c). -/
namespace NetanaDriver

def netanaConfigurationError : BitVec 32 := 0x8022000E#32
def netanaThreadCreationFailed : BitVec 32 := 0x8022000F#32

inductive LibCall where
  | startCapture
  | stopCapture
  | closeDevice
  deriving DecidableEq, Repr

/-- How the last call has returned. `created` is the thread that a `netana_start_capture` has
created. -/
structure CallReturn where
  call : LibCall
  lRet : BitVec 32
  created : Option ℕ
  deriving DecidableEq, Repr

/-- Where the calling thread stands. A `netana_stop_capture` that `netana_start_capture` has called
carries the thread that the latter has created. -/
inductive CallerPc where
  | idle (ret : Option CallReturn)
  | startInfo (fFiles : Bool)
  | startClear (lRet : BitVec 32)
  | startRun (lRet : BitVec 32)
  | startCreate (lRet : BitVec 32)
  | startControl (lRet : BitVec 32) (created : ℕ)
  | startWait (created : ℕ)
  | startCheck (created : ℕ)
  | stopCheck (starting : Option ℕ)
  | stopControl (starting : Option ℕ)
  | stopWait (starting : Option ℕ)
  | stopFlag (starting : Option ℕ)
  | stopJoin (starting : Option ℕ)
  | closeState
  | closeFree
  deriving DecidableEq, Repr

/-- Where an event thread stands in `netana_event_thread`. -/
inductive EventPc where
  | alloc
  | test
  | poll
  | store
  | failRun (iError : ℤ)
  | failEvent (iError : ℤ)
  | leave
  deriving DecidableEq, Repr

/-- An event thread that is alive, with its own copy of the capture state. -/
structure EventThread where
  id : ℕ
  pc : EventPc
  ulCaptureState : BitVec 32
  deriving DecidableEq, Repr

/-- The device instance of the library, its event threads, and the thread that makes the calls. -/
structure LibInstance where
  hPollingThread : Option ℕ
  fRunEventThread : Bool
  iEventError : ℤ
  ulCaptureState : BitVec 32
  fFreed : Bool
  threads : List EventThread
  nextThread : ℕ
  caller : CallerPc
  deriving DecidableEq, Repr

def LibInstance.isCaptureRunning (s : LibInstance) : Bool :=
  s.ulCaptureState != captureStateOff

/-- What the caller finds out from the system and the driver: whether a thread can be created, a
lock taken or a file header written, whether an attribute can be opened and written, and the error
or the capture state that the driver tells. -/
structure SysOutcome where
  fDone : Bool
  fOpened : Bool
  fWritten : Bool
  lRet : BitVec 32
  ulCaptureState : BitVec 32
  deriving DecidableEq, Repr

/-- `poll` times out or finds only data, fails, or finds a new status; then
`netana_get_state_poll` reads a state and tells whether that went well. -/
inductive PollResult where
  | data
  | error
  | status (lRet ulCaptureState : BitVec 32)
  deriving DecidableEq, Repr

structure EventChoice where
  fAllocated : Bool
  poll : PollResult
  deriving DecidableEq, Repr

def LibInstance.returns (s : LibInstance) (call : LibCall) (lRet : BitVec 32)
    (created : Option ℕ) : LibInstance :=
  { s with caller := .idle (some { call := call, lRet := lRet, created := created }) }

/-- The end of `netana_stop_capture`, and with it of the `netana_start_capture` that has called
it. -/
def LibInstance.stopReturns (s : LibInstance) (lRet : BitVec 32) : Option ℕ → LibInstance
  | none => s.returns .stopCapture lRet none
  | some id => s.returns .startCapture netanaThreadCreationFailed (some id)

/-- The next step of the call that is being made. -/
def callerStep (c : SysOutcome) (s : LibInstance) : Option LibInstance :=
  match s.caller with
  | .idle _ => none
  | .startInfo fFiles =>
    if c.lRet ≠ netanaNoError then some (s.returns .startCapture c.lRet none)
    else
      -- a file header that cannot be written does not end the call
      some { s with
        caller := .startClear
          (if fFiles ∧ c.fDone = false then netanaFileWriteFailed else netanaNoError) }
  | .startClear lRet => some { s with iEventError := 0, caller := .startRun lRet }
  | .startRun lRet => some { s with fRunEventThread := true, caller := .startCreate lRet }
  | .startCreate lRet =>
    if c.fDone then
      some { s with
        hPollingThread := some s.nextThread
        threads := s.threads ++
          [{ id := s.nextThread, pc := .alloc, ulCaptureState := captureStateOff }]
        nextThread := s.nextThread + 1
        caller := .startControl lRet s.nextThread }
    else some (s.returns .startCapture lRet none)
  | .startControl lRet id =>
    if c.fOpened = false then some (s.returns .startCapture lRet (some id))
    else if c.fWritten = false then some (s.returns .startCapture c.lRet (some id))
    else some { s with caller := .startWait id }
  | .startWait id =>
    if s.isCaptureRunning then some (s.returns .startCapture netanaNoError (some id))
    else some { s with caller := .startCheck id }
  | .startCheck id =>
    some { s with caller := if s.iEventError ≠ 0 then .stopCheck (some id) else .startWait id }
  | .stopCheck starting =>
    if s.isCaptureRunning then some { s with caller := .stopControl starting }
    else some (s.stopReturns netanaCaptureNotActive starting)
  | .stopControl starting =>
    if c.fOpened = false then some (s.stopReturns netanaInvalidParameter starting)
    else if c.fWritten = false then some (s.stopReturns c.lRet starting)
    else some { s with caller := .stopWait starting }
  | .stopWait starting =>
    if s.isCaptureRunning then some s else some { s with caller := .stopFlag starting }
  | .stopFlag starting =>
    some { s with fRunEventThread := false, caller := .stopJoin starting }
  | .stopJoin starting =>
    -- `pthread_join` returns when the thread has ended
    if s.threads.any fun t => some t.id == s.hPollingThread then none
    else some (s.stopReturns netanaNoError starting)
  | .closeState =>
    if c.lRet ≠ netanaNoError ∨ c.ulCaptureState = captureStateOff then
      some { s with caller := .closeFree }
    else some (s.returns .closeDevice netanaCaptureActive none)
  | .closeFree =>
    if c.fDone then some ({ s with fFreed := true }.returns .closeDevice netanaNoError none)
    else some (s.returns .closeDevice netanaNoError none)

/-- `netana_event_thread`, from one access to the instance to the next. Without a thread the
function has returned. -/
def eventThreadStep (c : EventChoice) (t : EventThread) (s : LibInstance) :
    LibInstance × Option EventThread :=
  match t.pc with
  | .alloc => (s, some { t with pc := if c.fAllocated then .test else .failRun (-enomem) })
  | .test =>
    if s.fRunEventThread ∨ t.ulCaptureState ≠ captureStateOff then (s, some { t with pc := .poll })
    else (s, some { t with pc := .leave })
  | .poll =>
    match c.poll with
    | .data => (s, some { t with pc := .test })
    | .error => (s, some { t with pc := .failRun (-1) })
    | .status lRet ulCaptureState =>
      (s, some { t with
        ulCaptureState := ulCaptureState
        pc := if lRet = netanaNoError then .store else .test })
  | .store => ({ s with ulCaptureState := t.ulCaptureState }, some { t with pc := .test })
  | .failRun iError =>
    ({ s with fRunEventThread := false }, some { t with pc := .failEvent iError })
  | .failEvent iError => ({ s with iEventError := iError }, some { t with pc := .test })
  | .leave => (s, none)

/-- The threads that are alive after one of them has taken a step. -/
def replaceThread (threads : List EventThread) (k : ℕ) : Option EventThread → List EventThread
  | some t => threads.set k t
  | none => threads.eraseIdx k

inductive LibAction where
  | startCapture (fFiles fData : Bool)
  | stopCapture
  | closeDevice
  | caller (c : SysOutcome)
  -- the thread at this place of the list goes on
  | event (k : ℕ) (c : EventChoice)
  deriving DecidableEq, Repr

/-- A call is made when the last one has returned. A handle that is not on the list any more is
refused. -/
def LibInstance.call (s : LibInstance) (call : LibCall) (enter : LibInstance) :
    Option LibInstance :=
  match s.caller with
  | .idle _ => some (if s.fFreed then s.returns call netanaInvalidHandle none else enter)
  | _ => none

def libStep (s : LibInstance) : LibAction → Option LibInstance
  | .startCapture fFiles fData =>
    s.call .startCapture
      (if s.isCaptureRunning then s.returns .startCapture netanaCaptureActive none
      else if fFiles = false ∧ fData = false then
        s.returns .startCapture netanaConfigurationError none
      else { s with caller := .startInfo fFiles })
  | .stopCapture => s.call .stopCapture { s with caller := .stopCheck none }
  | .closeDevice => s.call .closeDevice { s with caller := .closeState }
  | .caller c => callerStep c s
  | .event k c =>
    match s.threads[k]? with
    | none => none
    | some t =>
      let r := eventThreadStep c t s
      some { r.1 with threads := replaceThread s.threads k r.2 }

/-- After `netana_open_device`. -/
def LibInstance.opened : LibInstance :=
  { hPollingThread := none
    fRunEventThread := false
    iEventError := 0
    ulCaptureState := captureStateOff
    fFreed := false
    threads := []
    nextThread := 0
    caller := .idle none }

/-- The last call was a `netana_start_capture` that has failed after creating a thread. -/
def LibInstance.FailedStart (s : LibInstance) (id : ℕ) : Prop :=
  ∃ lRet, lRet ≠ netanaNoError ∧ s.caller = .idle (some ⟨.startCapture, lRet, some id⟩)

/-- What should hold of the event threads. -/
structure EventLifecycle (s : LibInstance) : Prop where
  one : s.threads.length ≤ 1
  failed : ∀ id, s.FailedStart id → ∀ t ∈ s.threads, t.id ≠ id
  freed : s.fFreed = true → s.threads = []

/-- A call is being made that does not return before it looks at the event thread again. -/
def CallerPc.watches : CallerPc → Bool
  | .startControl .. | .startWait _ | .startCheck _ | .stopControl _ | .stopWait _
  | .stopFlag _ | .stopJoin _ => true
  | _ => false

/-- The condition on a step. While an event thread is alive, the capture is reported as ended only
during a call that waits for it; a start gets at its control attribute and meets no error of the
thread; a stop fails only while the capture still runs; and the driver tells that no capture is
active, or does not answer, only if the library knows of none. -/
def eventOk (s : LibInstance) : LibAction → Bool
  | .event k _ =>
    match s.threads[k]? with
    | none => true
    | some t => t.pc != .store || t.ulCaptureState != captureStateOff ||
        s.ulCaptureState == captureStateOff || s.caller.watches
  | .caller c =>
    s.threads.isEmpty || match s.caller with
    | .startControl .. => c.fOpened && c.fWritten
    | .stopCheck _ => s.isCaptureRunning
    | .stopControl starting => c.fOpened && c.fWritten || s.isCaptureRunning && starting.isNone
    | .closeState => (c.lRet == netanaNoError && c.ulCaptureState != captureStateOff) ||
        !s.isCaptureRunning
    | _ => true
  | _ => true

/-- No event thread is alive, or the library knows of a capture. -/
def LibInstance.Quiet (s : LibInstance) : Prop :=
  s.threads = [] ∨ s.isCaptureRunning = true

/-- What holds of the event threads while the caller stands at a given place. -/
def CallerInv (s : LibInstance) : Prop :=
  match s.caller with
  | .idle _ | .stopCheck none | .closeState => s.Quiet
  | .startInfo _ | .startClear _ | .startRun _ | .startCreate _ | .closeFree => s.threads = []
  | _ => True

structure EventInv (s : LibInstance) : Prop where
  one : s.threads.length ≤ 1
  handle : ∀ t ∈ s.threads, s.hPollingThread = some t.id
  caller : CallerInv s
  failed : ∀ id, s.FailedStart id → s.threads = []
  freed : s.fFreed = true → s.threads = [] ∧ ∃ ret, s.caller = .idle ret

theorem EventInv.lifecycle {s : LibInstance} (h : EventInv s) : EventLifecycle s := by
  refine ⟨h.one, fun id hid t ht => ?_, fun hf => (h.freed hf).1⟩
  rw [h.failed id hid] at ht
  exact absurd ht List.not_mem_nil

theorem opened_inv : EventInv LibInstance.opened := by
  refine ⟨Nat.zero_le 1, fun t ht => ?_, Or.inl rfl, fun id hid => ?_, fun hf => ?_⟩
  · exact absurd ht List.not_mem_nil
  · rfl
  · exact absurd hf Bool.false_ne_true

/-- A call that leaves the threads alone keeps what is known of them. -/
theorem EventInv.goesOn {s t : LibInstance} (h : EventInv s) (hthreads : t.threads = s.threads)
    (hhandle : t.hPollingThread = s.hPollingThread) (hcaller : CallerInv t)
    (hfailed : ∀ id, t.FailedStart id → t.threads = [])
    (hfreed : t.fFreed = true → t.threads = [] ∧ ∃ ret, t.caller = .idle ret) : EventInv t := by
  refine ⟨?_, fun u hu => ?_, hcaller, hfailed, hfreed⟩
  · rw [hthreads]
    exact h.one
  · rw [hthreads] at hu
    rw [hhandle]
    exact h.handle u hu

/-- While a call is being made, the instance has not been freed. -/
theorem EventInv.not_freed {s : LibInstance} (h : EventInv s)
    (hcall : ∀ ret, s.caller ≠ .idle ret) : s.fFreed = false := by
  by_contra hf
  obtain ⟨-, ret, hret⟩ := h.freed (Bool.eq_true_of_not_eq_false hf)
  exact hcall ret hret

/-- The caller gets on to the next place of its call. -/
theorem EventInv.at {s : LibInstance} (h : EventInv s) (hnot : s.fFreed = false) {t : LibInstance}
    (hthreads : t.threads = s.threads) (hhandle : t.hPollingThread = s.hPollingThread)
    (hfreed : t.fFreed = s.fFreed) (hcall : ∀ ret, t.caller ≠ .idle ret) (hcaller : CallerInv t) :
    EventInv t := by
  apply h.goesOn hthreads hhandle hcaller
  · rintro id ⟨lRet, -, hidle⟩
    exact absurd hidle (hcall _)
  · intro hf
    rw [hfreed, hnot] at hf
    exact absurd hf Bool.false_ne_true

/-- A call returns, and no thread is left behind by a start that has failed. -/
theorem EventInv.returns {s : LibInstance} (h : EventInv s) (hnot : s.fFreed = false)
    {call : LibCall} {lRet : BitVec 32} {created : Option ℕ} (hquiet : s.Quiet)
    (hstart : call = .startCapture → lRet ≠ netanaNoError → created ≠ none → s.threads = []) :
    EventInv (s.returns call lRet created) := by
  apply h.goesOn (t := s.returns call lRet created) rfl rfl
  · exact hquiet
  · rintro id ⟨l, hl, hidle⟩
    change CallerPc.idle (some ⟨call, lRet, created⟩) = _ at hidle
    simp only [CallerPc.idle.injEq, Option.some.injEq, CallReturn.mk.injEq] at hidle
    obtain ⟨hcall, hret, hcreated⟩ := hidle
    exact hstart hcall (hret ▸ hl) (by simp [hcreated])
  · intro hf
    exact absurd (hnot.symm.trans hf) Bool.false_ne_true

theorem EventInv.stopReturns {s : LibInstance} (h : EventInv s) (hnot : s.fFreed = false)
    {starting : Option ℕ} (lRet : BitVec 32) (hquiet : s.Quiet)
    (hstart : starting ≠ none → s.threads = []) : EventInv (s.stopReturns lRet starting) := by
  cases starting with
  | none => exact h.returns hnot hquiet fun hcall => absurd hcall (by decide)
  | some id => exact h.returns hnot hquiet fun _ _ _ => hstart (by simp)

theorem running_of_ne_off {s : LibInstance} (h : s.ulCaptureState ≠ captureStateOff) :
    s.isCaptureRunning = true :=
  bne_iff_ne.mpr h

/-- Only a call that is being made takes a step. -/
theorem callerStep_calling {s t : LibInstance} {c : SysOutcome} (h : callerStep c s = some t)
    (ret : Option CallReturn) : s.caller ≠ .idle ret := by
  intro hidle
  unfold callerStep at h
  rw [hidle] at h
  cases h

section CallerStep
variable {s t : LibInstance} {c : SysOutcome}

theorem EventInv.startCreate {lRet : BitVec 32} (hi : EventInv s)
    (hpc : s.caller = .startCreate lRet) (h : callerStep c s = some t) : EventInv t := by
  have hnot := hi.not_freed (callerStep_calling h)
  have hcaller := hi.caller
  rw [CallerInv, hpc] at hcaller
  rw [callerStep, hpc] at h
  by_cases hdone : c.fDone = true
  · cases (if_pos hdone).symm.trans h
    -- there has been no other thread since the check at the start
    refine ⟨?_, fun u hu => ?_, trivial, ?_, fun hf => ?_⟩
    · change (s.threads ++ _).length ≤ 1
      rw [hcaller]
      exact le_refl 1
    · change u ∈ s.threads ++ _ at hu
      rw [hcaller, List.nil_append, List.mem_singleton] at hu
      rw [hu]
    · rintro id ⟨l, -, hidle⟩
      cases hidle
    · exact absurd (hnot.symm.trans hf) Bool.false_ne_true
  · cases (if_neg hdone).symm.trans h
    exact hi.returns hnot (Or.inl hcaller) fun _ _ _ => hcaller

theorem EventInv.startControl {lRet : BitVec 32} {id : ℕ} (hi : EventInv s)
    (hok : eventOk s (.caller c) = true) (hpc : s.caller = .startControl lRet id)
    (h : callerStep c s = some t) : EventInv t := by
  have hok : s.threads = [] ∨ _ := (Bool.or_eq_true_iff.mp hok).imp_left List.isEmpty_iff.mp
  have hnot := hi.not_freed (callerStep_calling h)
  rw [hpc] at hok
  rw [callerStep, hpc] at h
  by_cases hopened : c.fOpened = false
  · cases (if_pos hopened).symm.trans h
    have hnone : s.threads = [] := hok.resolve_right (by simp [hopened])
    exact hi.returns hnot (Or.inl hnone) fun _ _ _ => hnone
  · replace h := (if_neg hopened).symm.trans h
    by_cases hwritten : c.fWritten = false
    · cases (if_pos hwritten).symm.trans h
      have hnone : s.threads = [] := hok.resolve_right (by simp [hwritten])
      exact hi.returns hnot (Or.inl hnone) fun _ _ _ => hnone
    · cases (if_neg hwritten).symm.trans h
      exact hi.at hnot rfl rfl rfl (by simp) trivial

/-- A stop that fails leaves the thread to the capture that still runs. -/
theorem EventInv.stopControl {starting : Option ℕ} (hi : EventInv s)
    (hok : eventOk s (.caller c) = true) (hpc : s.caller = .stopControl starting)
    (h : callerStep c s = some t) : EventInv t := by
  have hok : s.threads = [] ∨ _ := (Bool.or_eq_true_iff.mp hok).imp_left List.isEmpty_iff.mp
  have hnot := hi.not_freed (callerStep_calling h)
  rw [hpc] at hok
  rw [callerStep, hpc] at h
  have hfails : ¬ (c.fOpened && c.fWritten) = true →
      s.Quiet ∧ (starting ≠ none → s.threads = []) := by
    intro hio
    rcases hok with hnone | hok
    · exact ⟨Or.inl hnone, fun _ => hnone⟩
    · have hrest := (Bool.or_eq_true_iff.mp hok).resolve_left hio
      rw [Bool.and_eq_true] at hrest
      exact ⟨Or.inr hrest.1, fun hsome => absurd (Option.isNone_iff_eq_none.mp hrest.2) hsome⟩
  by_cases hopened : c.fOpened = false
  · cases (if_pos hopened).symm.trans h
    obtain ⟨hquiet, hstart⟩ := hfails (by simp [hopened])
    exact hi.stopReturns hnot _ hquiet hstart
  · replace h := (if_neg hopened).symm.trans h
    by_cases hwritten : c.fWritten = false
    · cases (if_pos hwritten).symm.trans h
      obtain ⟨hquiet, hstart⟩ := hfails (by simp [hwritten])
      exact hi.stopReturns hnot _ hquiet hstart
    · cases (if_neg hwritten).symm.trans h
      exact hi.at hnot rfl rfl rfl (by simp) trivial

/-- The thread that has been joined was the only one. -/
theorem EventInv.stopJoin {starting : Option ℕ} (hi : EventInv s)
    (hpc : s.caller = .stopJoin starting) (h : callerStep c s = some t) : EventInv t := by
  have hnot := hi.not_freed (callerStep_calling h)
  rw [callerStep, hpc] at h
  by_cases halive : (s.threads.any fun t => some t.id == s.hPollingThread) = true
  · cases (if_pos halive).symm.trans h
  · cases (if_neg halive).symm.trans h
    have hnone : s.threads = [] := by
      apply List.eq_nil_iff_forall_not_mem.mpr
      intro u hu
      apply halive
      rw [List.any_eq_true]
      exact ⟨u, hu, by rw [hi.handle u hu]; exact beq_self_eq_true _⟩
    exact hi.stopReturns hnot _ (Or.inl hnone) fun _ => hnone

theorem EventInv.closeState (hi : EventInv s) (hok : eventOk s (.caller c) = true)
    (hpc : s.caller = .closeState) (h : callerStep c s = some t) : EventInv t := by
  have hok : s.threads = [] ∨ _ := (Bool.or_eq_true_iff.mp hok).imp_left List.isEmpty_iff.mp
  have hnot := hi.not_freed (callerStep_calling h)
  have hcaller := hi.caller
  rw [CallerInv, hpc] at hcaller
  rw [hpc] at hok
  rw [callerStep, hpc] at h
  by_cases hclose : c.lRet ≠ netanaNoError ∨ c.ulCaptureState = captureStateOff
  · cases (if_pos hclose).symm.trans h
    have hnone : s.threads = [] := by
      rcases hok with hnone | hok
      · exact hnone
      · rcases hcaller with hnone | hrun
        · exact hnone
        · rcases hclose with herr | hoff
          · simp [hrun, herr] at hok
          · simp [hrun, hoff] at hok
    exact hi.at hnot rfl rfl rfl (by simp) hnone
  · cases (if_neg hclose).symm.trans h
    exact hi.returns hnot hcaller fun hcall => absurd hcall (by decide)

theorem EventInv.closeFree (hi : EventInv s) (hpc : s.caller = .closeFree)
    (h : callerStep c s = some t) : EventInv t := by
  have hnot := hi.not_freed (callerStep_calling h)
  have hcaller := hi.caller
  rw [CallerInv, hpc] at hcaller
  rw [callerStep, hpc] at h
  by_cases hdone : c.fDone = true
  · cases (if_pos hdone).symm.trans h
    have hnone : s.threads = [] := hcaller
    refine ⟨hi.one, hi.handle, Or.inl hnone, ?_, fun _ => ⟨hnone, _, rfl⟩⟩
    rintro id ⟨l, -, hidle⟩
    cases hidle
  · cases (if_neg hdone).symm.trans h
    exact hi.returns hnot (Or.inl hcaller) fun hcall => absurd hcall (by decide)

/-- Every step of a call keeps the invariant under the condition on it. -/
theorem callerStep_inv (hi : EventInv s) (hok : eventOk s (.caller c) = true)
    (h : callerStep c s = some t) : EventInv t := by
  have hstep := h
  have hready := hok
  have hok : s.threads = [] ∨ _ := (Bool.or_eq_true_iff.mp hok).imp_left List.isEmpty_iff.mp
  have hnot := hi.not_freed (callerStep_calling h)
  have hcaller := hi.caller
  unfold CallerInv at hcaller
  unfold callerStep at h
  cases hpc : s.caller with
  | idle ret =>
    rw [hpc] at h
    cases h
  | startInfo fFiles =>
    rw [hpc] at h hcaller
    by_cases hinfo : c.lRet ≠ netanaNoError
    · cases (if_pos hinfo).symm.trans h
      exact hi.returns hnot (Or.inl hcaller) fun _ _ _ => hcaller
    · cases (if_neg hinfo).symm.trans h
      exact hi.at hnot rfl rfl rfl (by simp) hcaller
  | startClear lRet =>
    rw [hpc] at h hcaller
    cases h
    exact hi.at hnot rfl rfl rfl (by simp) hcaller
  | startRun lRet =>
    rw [hpc] at h hcaller
    cases h
    exact hi.at hnot rfl rfl rfl (by simp) hcaller
  | startCreate lRet => exact hi.startCreate hpc hstep
  | startControl lRet id => exact hi.startControl hready hpc hstep
  | startWait id =>
    rw [hpc] at h
    by_cases hrun : s.isCaptureRunning = true
    · cases (if_pos hrun).symm.trans h
      exact hi.returns hnot (Or.inr hrun) fun _ herr => absurd rfl herr
    · cases (if_neg hrun).symm.trans h
      exact hi.at hnot rfl rfl rfl (by simp) trivial
  | startCheck id =>
    rw [hpc] at h
    cases h
    by_cases herr : s.iEventError ≠ 0
    · simp only [if_pos herr]
      exact hi.at hnot rfl rfl rfl (by simp) trivial
    · simp only [if_neg herr]
      exact hi.at hnot rfl rfl rfl (by simp) trivial
  | stopCheck starting =>
    rw [hpc] at h hok
    by_cases hrun : s.isCaptureRunning = true
    · cases (if_pos hrun).symm.trans h
      exact hi.at hnot rfl rfl rfl (by simp) trivial
    · cases (if_neg hrun).symm.trans h
      have hnone : s.threads = [] := hok.resolve_right hrun
      exact hi.stopReturns hnot _ (Or.inl hnone) fun _ => hnone
  | stopControl starting => exact hi.stopControl hready hpc hstep
  | stopWait starting =>
    rw [hpc] at h
    by_cases hrun : s.isCaptureRunning = true
    · cases (if_pos hrun).symm.trans h
      exact hi
    · cases (if_neg hrun).symm.trans h
      exact hi.at hnot rfl rfl rfl (by simp) trivial
  | stopFlag starting =>
    rw [hpc] at h
    cases h
    exact hi.at hnot rfl rfl rfl (by simp) trivial
  | stopJoin starting => exact hi.stopJoin hpc hstep
  | closeState => exact hi.closeState hready hpc hstep
  | closeFree => exact hi.closeFree hpc hstep

end CallerStep

/-- What one step of an event thread can do to the instance. -/
theorem eventThreadStep_spec (c : EventChoice) (t : EventThread) (s : LibInstance) :
    let r := eventThreadStep c t s
    (∃ fRun iError state, r.1 =
        { s with fRunEventThread := fRun, iEventError := iError, ulCaptureState := state } ∧
      (state = s.ulCaptureState ∨ (t.pc = .store ∧ state = t.ulCaptureState))) ∧
    ∀ u, r.2 = some u → u.id = t.id := by
  intro r
  cases hpc : t.pc with
  | alloc =>
    have hr : r =
        (s, some { t with pc := if c.fAllocated then .test else .failRun (-enomem) }) := by
      simp only [r, eventThreadStep, hpc]
    rw [hr]
    exact ⟨⟨_, _, _, rfl, Or.inl rfl⟩, fun u hu => by cases hu; rfl⟩
  | test =>
    by_cases hgo : s.fRunEventThread ∨ t.ulCaptureState ≠ captureStateOff
    · have hr : r = (s, some { t with pc := .poll }) := by
        simp only [r, eventThreadStep, hpc, if_pos hgo]
      rw [hr]
      exact ⟨⟨_, _, _, rfl, Or.inl rfl⟩, fun u hu => by cases hu; rfl⟩
    · have hr : r = (s, some { t with pc := .leave }) := by
        simp only [r, eventThreadStep, hpc, if_neg hgo]
      rw [hr]
      exact ⟨⟨_, _, _, rfl, Or.inl rfl⟩, fun u hu => by cases hu; rfl⟩
  | poll =>
    cases hpoll : c.poll with
    | data | error | status lRet state =>
      have hr : r.1 = s := by simp only [r, eventThreadStep, hpc, hpoll]
      refine ⟨⟨_, _, _, hr, Or.inl rfl⟩, fun u hu => ?_⟩
      simp only [r, eventThreadStep, hpc, hpoll, Option.some.injEq] at hu
      rw [← hu]
  | store =>
    have hr : r = ({ s with ulCaptureState := t.ulCaptureState }, some { t with pc := .test }) := by
      simp only [r, eventThreadStep, hpc]
    rw [hr]
    exact ⟨⟨_, _, _, rfl, Or.inr ⟨rfl, rfl⟩⟩, fun u hu => by cases hu; rfl⟩
  | failRun iError =>
    have hr : r =
        ({ s with fRunEventThread := false }, some { t with pc := .failEvent iError }) := by
      simp only [r, eventThreadStep, hpc]
    rw [hr]
    exact ⟨⟨_, _, _, rfl, Or.inl rfl⟩, fun u hu => by cases hu; rfl⟩
  | failEvent iError =>
    have hr : r = ({ s with iEventError := iError }, some { t with pc := .test }) := by
      simp only [r, eventThreadStep, hpc]
    rw [hr]
    exact ⟨⟨_, _, _, rfl, Or.inl rfl⟩, fun u hu => by cases hu; rfl⟩
  | leave =>
    have hr : r = (s, none) := by simp only [r, eventThreadStep, hpc]
    rw [hr]
    exact ⟨⟨_, _, _, rfl, Or.inl rfl⟩, fun u hu => by cases hu⟩

theorem replaceThread_mem {threads : List EventThread} {k : ℕ} {t : EventThread}
    {r : Option EventThread} (hk : threads[k]? = some t) (hr : ∀ u, r = some u → u.id = t.id) :
    (replaceThread threads k r).length ≤ threads.length ∧
      ∀ u ∈ replaceThread threads k r, ∃ v ∈ threads, u.id = v.id := by
  cases r with
  | some w =>
    refine ⟨(List.length_set ..).le, fun u hu => ?_⟩
    rcases List.mem_or_eq_of_mem_set hu with hmem | heq
    · exact ⟨u, hmem, rfl⟩
    · rw [heq]
      exact ⟨t, List.mem_of_getElem? hk, hr w rfl⟩
  | none =>
    exact ⟨List.length_eraseIdx_le threads k, fun u hu => ⟨u, List.mem_of_mem_eraseIdx hu, rfl⟩⟩

/-- A step of an event thread keeps the invariant under the condition on it. -/
theorem eventStep_inv {s t : LibInstance} {k : ℕ} {c : EventChoice} (hi : EventInv s)
    (hok : eventOk s (.event k c) = true) (h : libStep s (.event k c) = some t) : EventInv t := by
  change (match s.threads[k]? with
    | none => none
    | some u => _) = some t at h
  change (match s.threads[k]? with
    | none => true
    | some u => _) = true at hok
  cases hk : s.threads[k]? with
  | none =>
    rw [hk] at h
    cases h
  | some u =>
    rw [hk] at h hok
    obtain ⟨⟨fRun, iError, state, hr, hstate⟩, hid⟩ := eventThreadStep_spec c u s
    have ht : t = { (eventThreadStep c u s).1 with
        threads := replaceThread s.threads k (eventThreadStep c u s).2 } := (Option.some.inj h).symm
    obtain ⟨hlen, hmem⟩ := replaceThread_mem hk hid
    rw [hr] at ht
    have hthreads : t.threads = replaceThread s.threads k (eventThreadStep c u s).2 := by rw [ht]
    rw [← hthreads] at hlen hmem
    have hcaller : t.caller = s.caller := by rw [ht]
    have hhandle : t.hPollingThread = s.hPollingThread := by rw [ht]
    have hfreed : t.fFreed = s.fFreed := by rw [ht]
    have hrunning : t.ulCaptureState = state := by rw [ht]
    -- without a thread there is none to take a step
    have hsome : s.threads ≠ [] := fun hnil => by rw [hnil] at hk; cases hk
    have hkeep : s.Quiet → s.caller.watches = false → t.Quiet := by
      intro hquiet hidle
      right
      have hrun : s.ulCaptureState ≠ captureStateOff := bne_iff_ne.mp (hquiet.resolve_left hsome)
      apply running_of_ne_off
      rw [hrunning]
      rcases hstate with hsame | ⟨hstore, hloc⟩
      · rw [hsame]
        exact hrun
      · intro hoff
        rw [hloc] at hoff
        simp [hstore, hoff, hrun, hidle] at hok
    refine ⟨le_trans hlen hi.one, fun v hv => ?_, ?_, ?_, fun hf => ?_⟩
    · obtain ⟨w, hw, hvw⟩ := hmem v hv
      rw [hhandle, hvw]
      exact hi.handle w hw
    · have hold := hi.caller
      unfold CallerInv at hold ⊢
      rw [hcaller]
      cases hpc : s.caller with
      | idle ret | closeState =>
        rw [hpc] at hold
        exact hkeep hold (by rw [hpc]; rfl)
      | startInfo _ | startClear _ | startRun _ | startCreate _ | closeFree =>
        rw [hpc] at hold
        exact absurd hold hsome
      | stopCheck starting =>
        cases starting with
        | none =>
          rw [hpc] at hold
          exact hkeep hold (by rw [hpc]; rfl)
        | some id => trivial
      | startControl _ _ | startWait _ | startCheck _ | stopControl _ | stopWait _ | stopFlag _
      | stopJoin _ => trivial
    · rintro id ⟨lRet, hl, hidle⟩
      exact absurd (hi.failed id ⟨lRet, hl, hcaller ▸ hidle⟩) hsome
    · exact absurd (hi.freed (hfreed ▸ hf)).1 hsome

/-- A call that begins keeps the invariant. -/
theorem EventInv.call {s t enter : LibInstance} {call : LibCall} (hi : EventInv s)
    (h : s.call call enter = some t) (henter : s.fFreed = false → s.Quiet → EventInv enter) :
    EventInv t := by
  unfold LibInstance.call at h
  cases hpc : s.caller with
  | idle ret =>
    rw [hpc] at h
    have hquiet : s.Quiet := by
      have hcaller := hi.caller
      unfold CallerInv at hcaller
      rwa [hpc] at hcaller
    by_cases hfreed : s.fFreed = true
    · have ht : t = s.returns call netanaInvalidHandle none := by
        rw [← Option.some.inj h, if_pos hfreed]
      have hnone := (hi.freed hfreed).1
      rw [ht]
      refine ⟨hi.one, hi.handle, Or.inl hnone, ?_, fun _ => ⟨hnone, _, rfl⟩⟩
      rintro id ⟨l, -, hidle⟩
      cases hidle
    · have ht : t = enter := by rw [← Option.some.inj h, if_neg hfreed]
      rw [ht]
      exact henter (Bool.eq_false_iff.mpr hfreed) hquiet
  | _ =>
    rw [hpc] at h
    cases h

theorem libStep_inv (s : LibInstance) (a : LibAction) (t : LibInstance) (hi : EventInv s)
    (hok : eventOk s a = true) (h : libStep s a = some t) : EventInv t := by
  cases a with
  | startCapture fFiles fData =>
    refine hi.call h fun hnot hquiet => ?_
    by_cases hrun : s.isCaptureRunning = true
    · rw [if_pos hrun]
      exact hi.returns hnot hquiet fun _ _ hc => absurd rfl hc
    · rw [if_neg hrun]
      by_cases hconf : fFiles = false ∧ fData = false
      · rw [if_pos hconf]
        exact hi.returns hnot hquiet fun _ _ hc => absurd rfl hc
      · rw [if_neg hconf]
        exact hi.at hnot rfl rfl rfl (by simp) (hquiet.resolve_right hrun)
  | stopCapture => exact hi.call h fun hnot hquiet => hi.at hnot rfl rfl rfl (by simp) hquiet
  | closeDevice => exact hi.call h fun hnot hquiet => hi.at hnot rfl rfl rfl (by simp) hquiet
  | caller c => exact callerStep_inv hi hok h
  | event k c => exact eventStep_inv hi hok h

/-- In every run of calls and of event threads whose steps meet the condition, at most one event
thread is alive, a start that fails leaves none behind, and the instance is freed without one. -/
theorem event_thread_lifecycle {s : LibInstance} {as : List LibAction}
    (hok : StepRuns.Along (fun s a => eventOk s a = true) libStep .opened as)
    (hrun : StepRuns.run libStep .opened as = some s) : EventLifecycle s :=
  (StepRuns.along_invariant libStep_inv opened_inv hok hrun).lifecycle

/-- The driver and the system do what they are asked to. -/
def sysOk : SysOutcome :=
  { fDone := true
    fOpened := true
    fWritten := true
    lRet := netanaNoError
    ulCaptureState := captureStateOff }

/-- The thread at the first place of the list polls a new state. -/
def eventPolls (ulCaptureState : BitVec 32) : List LibAction :=
  let c : EventChoice := { fAllocated := true, poll := .status netanaNoError ulCaptureState }
  [.event 0 c, .event 0 c, .event 0 c]

/-- A capture is started, and its thread reports that it runs. -/
def captureStarted : List LibAction :=
  .startCapture false true :: List.replicate 5 (.caller sysOk) ++
    .event 0 { fAllocated := true, poll := .data } :: eventPolls captureStateRunning ++
    [.caller sysOk]

/-- The capture is stopped and the device closed. -/
def captureClosed : List LibAction :=
  captureStarted ++ [.stopCapture, .caller sysOk, .caller sysOk] ++ eventPolls captureStateOff ++
    [.caller sysOk, .caller sysOk, .event 0 { fAllocated := true, poll := .data },
      .event 0 { fAllocated := true, poll := .data }, .caller sysOk,
      .closeDevice, .caller sysOk, .caller sysOk]

theorem event_thread_lifecycle_closed :
    ∃ s, StepRuns.run libStep .opened captureClosed = some s ∧ s.fFreed = true ∧
      EventLifecycle s := by
  obtain ⟨s, hrun, hfreed⟩ :
      ∃ s, StepRuns.run libStep .opened captureClosed = some s ∧ s.fFreed = true :=
    ⟨_, rfl, by rfl⟩
  exact ⟨s, hrun, hfreed, event_thread_lifecycle (StepRuns.along_of_check (by rfl)) hrun⟩

/-- A capture that has ended by itself leaves its thread alive, and the next one gets another. -/
theorem event_threads_pile_up :
    ¬ ∀ (as : List LibAction) (s : LibInstance),
      StepRuns.run libStep .opened as = some s → EventLifecycle s := by
  intro h
  obtain ⟨s, hrun, htwo⟩ :
      ∃ s, StepRuns.run libStep .opened (captureStarted ++ eventPolls captureStateOff ++
          .startCapture false true :: List.replicate 4 (.caller sysOk)) = some s ∧
        s.threads.length = 2 := ⟨_, rfl, by rfl⟩
  have hone := (h _ s hrun).one
  rw [htwo] at hone
  exact absurd hone (by decide)

end NetanaDriver
