import NetanaDriver.NotifyUser

/-! The DSR thread in its callbacks against any number of sessions of the user: whether it can be
left waiting for a read that cannot come. -/
namespace NetanaDriver

/-- The callback the DSR thread is in. -/
inductive CallbackPc where
  | idle
  | data (pvdmabuffer : ℕ) (uldatalen : BitVec 32) (pc : NotifyDataPc)
  | status (pc : NotifyStatePc)
  deriving DecidableEq, Repr

structure SessionState where
  info : NotifyInfo
  isOpen : Bool
  dsr : CallbackPc
  deriving DecidableEq, Repr

inductive SessionAction where
  | callData (pvdmabuffer : ℕ) (uldatalen : BitVec 32)
  | callState
  | dsr
  | openDevice
  | release
  | read (tsize : ℕ)
  | showState
  | setCapture (captureactive : Bool)
  deriving DecidableEq, Repr

/-- The next statement of the callback the DSR is in. -/
def callbackStep (x : SessionState) : Option SessionState :=
  match x.dsr with
  | .idle => none
  | .data pvdmabuffer uldatalen pc =>
    (notifyDataStep pvdmabuffer uldatalen pc x.info).map fun r => { x with
      info := r.1
      dsr := match r.2 with
        | some next => .data pvdmabuffer uldatalen next
        | none => .idle }
  | .status pc => (notifyStateStep pc x.info).map fun r => { x with
      info := r.1
      dsr := match r.2 with
        | some next => .status next
        | none => .idle }

def sessionStep (x : SessionState) : SessionAction → Option SessionState
  | .callData pvdmabuffer uldatalen =>
    if x.dsr = .idle then some { x with dsr := .data pvdmabuffer uldatalen .testCapture }
    else none
  | .callState => if x.dsr = .idle then some { x with dsr := .status .testNotify } else none
  | .dsr => callbackStep x
  -- -EBUSY while the device is open
  | .openDevice =>
    if x.isOpen then some x else some { x with info := netanaOpen x.info, isOpen := true }
  | .release =>
    if x.isOpen then some { x with info := netanaRelease x.info, isOpen := false } else none
  | .read tsize => if x.isOpen then some { x with info := (netanaRead tsize x.info).1 } else none
  -- NETANA_INVALID_HANDLE while the device is closed
  | .showState => if x.isOpen then some { x with info := devstateShowPoll x.info } else some x
  | .setCapture captureactive =>
    if x.isOpen then some { x with info := { x.info with captureactive := captureactive } }
    else none

/-- A closed device with no callback running. -/
def SessionStart (x : SessionState) : Prop := x.isOpen = false ∧ x.dsr = .idle

def SessionState.waitsForRead (x : SessionState) : Prop :=
  (∃ pvdmabuffer uldatalen, x.dsr = .data pvdmabuffer uldatalen .waitRead) ∧
    x.info.dataReadSig = false

def SessionState.waitsForShow (x : SessionState) : Prop :=
  x.dsr = .status .waitRead ∧ x.info.statusReadSig = false

/-- While the device is open, what the DSR waits for can come: poll reports the data and the
next read releases the DSR, or the next look at the state does. -/
def DsrReleasable (x : SessionState) : Prop :=
  x.isOpen = true →
    (x.waitsForRead → x.info.dataEventCounter ≠ x.info.dataReadCounter ∧
      x.info.curDmaBuf.data ≠ none ∧ x.info.curDmaBuf.buffervalid = true ∧
      netanaPoll x.info &&& pollPri ≠ 0#32 ∧
      ∀ tsize, (netanaRead tsize x.info).1.dataReadSig = true) ∧
    (x.waitsForShow → x.info.statusEventCounter ≠ x.info.statusReadCounter ∧
      (devstateShowPoll x.info).statusReadSig = true)

/-- A callback has raised its event, and has not yet seen the answer. -/
def CallbackPc.published : CallbackPc → Bool
  | .data _ _ .wakeUser | .data _ _ .waitRead => true
  | .status .wakeUser | .status .waitRead => true
  | _ => false

/-- The condition on a step: the device is not opened again while a callback of an earlier
session has still to see the release. -/
def reopenQuiet (x : SessionState) : SessionAction → Bool
  | .openDevice => x.isOpen || !x.dsr.published
  | _ => true

/-- A data event is pending with its buffer, or has been answered. -/
def NotifyInfo.dataPublished (i : NotifyInfo) : Prop :=
  if i.dataReadSig then i.dataEventCounter = i.dataReadCounter
  else i.dataEventCounter ≠ i.dataReadCounter ∧ i.curDmaBuf.data ≠ none ∧
    i.curDmaBuf.buffervalid = true

def NotifyInfo.statusPublished (i : NotifyInfo) : Prop :=
  if i.statusReadSig then i.statusEventCounter = i.statusReadCounter
  else i.statusEventCounter ≠ i.statusReadCounter

/-- The data event by the position in `netana_notify_data`. -/
def SessionState.dataPosition (x : SessionState) : Prop :=
  match x.dsr with
  | .data _ _ .wakeUser | .data _ _ .waitRead => x.info.dataPublished
  | .data _ _ .clearSig => x.info.dataEventCounter = x.info.dataReadCounter
  | _ => x.info.dataQuiet

def SessionState.statusPosition (x : SessionState) : Prop :=
  match x.dsr with
  | .status .wakeUser | .status .waitRead => x.info.statusPublished
  | .status .clearSig => x.info.statusEventCounter = x.info.statusReadCounter
  | _ => x.info.statusQuiet

/-- What `netana_notify_data` has already written about its buffer. -/
def SessionState.bufferWritten (x : SessionState) : Prop :=
  match x.dsr with
  | .data _ _ .setLen | .data _ _ .setValid => x.info.curDmaBuf.data ≠ none
  | .data _ _ .incEvent => x.info.curDmaBuf.data ≠ none ∧ x.info.curDmaBuf.buffervalid = true
  | _ => True

structure SessionInv (x : SessionState) : Prop where
  written : x.bufferWritten
  data : x.isOpen = true → x.dataPosition
  status : x.isOpen = true → x.statusPosition

theorem SessionInv.start {x : SessionState} (h : SessionStart x) : SessionInv x := by
  obtain ⟨hclosed, hidle⟩ := h
  refine ⟨?_, fun hopen => ?_, fun hopen => ?_⟩
  · rw [SessionState.bufferWritten, hidle]
    trivial
  all_goals
    rw [hclosed] at hopen
    cases hopen

/-- One statement of `netana_notify_data`. -/
theorem SessionInv.notifyData {x : SessionState} {pvdmabuffer : ℕ} {uldatalen : BitVec 32}
    {pc : NotifyDataPc} {r : NotifyInfo × Option NotifyDataPc} (hi : SessionInv x)
    (hpc : x.dsr = .data pvdmabuffer uldatalen pc)
    (hr : notifyDataStep pvdmabuffer uldatalen pc x.info = some r) :
    SessionInv { x with
      info := r.1
      dsr := match r.2 with
        | some next => .data pvdmabuffer uldatalen next
        | none => .idle } := by
  obtain ⟨hwritten, hdata, hstatus⟩ := hi
  rw [SessionState.bufferWritten, hpc] at hwritten
  rw [SessionState.dataPosition, hpc] at hdata
  rw [SessionState.statusPosition, hpc] at hstatus
  cases pc with
  | testCapture =>
    cases hr
    cases hcap : x.info.captureactive
    all_goals exact ⟨trivial, hdata, hstatus⟩
  | testNotify =>
    cases hr
    cases hnotify : x.info.notifyInterrupts
    all_goals exact ⟨trivial, hdata, hstatus⟩
  | setData =>
    cases hr
    exact ⟨Option.some_ne_none _, hdata, hstatus⟩
  | setLen =>
    cases hr
    exact ⟨hwritten, hdata, hstatus⟩
  | setValid =>
    cases hr
    exact ⟨⟨hwritten, rfl⟩, hdata, hstatus⟩
  | incEvent =>
    cases hr
    refine ⟨trivial, fun hopen => ?_, hstatus⟩
    obtain ⟨heq, hsig⟩ := hdata hopen
    show NotifyInfo.dataPublished _
    rw [NotifyInfo.dataPublished]
    dsimp only
    rw [hsig, if_neg Bool.false_ne_true, heq]
    exact ⟨(counter_ne_succ _).symm, hwritten⟩
  | wakeUser =>
    cases hr
    exact ⟨trivial, hdata, hstatus⟩
  | waitRead =>
    rw [notifyDataStep] at hr
    split at hr
    · rename_i hsig
      cases hr
      refine ⟨trivial, fun hopen => ?_, hstatus⟩
      have hpub := hdata hopen
      dsimp only at hpub
      rw [NotifyInfo.dataPublished, if_pos hsig] at hpub
      exact hpub
    · cases hr
  | clearSig =>
    cases hr
    exact ⟨trivial, fun hopen => ⟨hdata hopen, rfl⟩, hstatus⟩

/-- One statement of `netana_notify_state`. -/
theorem SessionInv.notifyState {x : SessionState} {pc : NotifyStatePc}
    {r : NotifyInfo × Option NotifyStatePc} (hi : SessionInv x) (hpc : x.dsr = .status pc)
    (hr : notifyStateStep pc x.info = some r) :
    SessionInv { x with
      info := r.1
      dsr := match r.2 with
        | some next => .status next
        | none => .idle } := by
  obtain ⟨-, hdata, hstatus⟩ := hi
  rw [SessionState.dataPosition, hpc] at hdata
  rw [SessionState.statusPosition, hpc] at hstatus
  cases pc with
  | testNotify =>
    cases hr
    cases hnotify : x.info.notifyInterrupts
    all_goals exact ⟨trivial, hdata, hstatus⟩
  | incEvent =>
    cases hr
    refine ⟨trivial, hdata, fun hopen => ?_⟩
    obtain ⟨heq, hsig⟩ := hstatus hopen
    show NotifyInfo.statusPublished _
    rw [NotifyInfo.statusPublished]
    dsimp only
    rw [hsig, if_neg Bool.false_ne_true, heq]
    exact (counter_ne_succ _).symm
  | wakeUser =>
    cases hr
    exact ⟨trivial, hdata, hstatus⟩
  | waitRead =>
    rw [notifyStateStep] at hr
    split at hr
    · rename_i hsig
      cases hr
      refine ⟨trivial, hdata, fun hopen => ?_⟩
      have hpub := hstatus hopen
      dsimp only at hpub
      rw [NotifyInfo.statusPublished, if_pos hsig] at hpub
      exact hpub
    · cases hr
  | clearSig =>
    cases hr
    exact ⟨trivial, hdata, fun hopen => ⟨hstatus hopen, rfl⟩⟩

/-- What the user may find by reading leaves every position of the DSR as it has to be. -/
theorem SessionInv.read {x : SessionState} (hi : SessionInv x) (tsize : ℕ)
    (hopen : x.isOpen = true) :
    SessionInv { x with info := (netanaRead tsize x.info).1 } := by
  obtain ⟨hwritten, hdata, hstatus⟩ := hi
  replace hdata := hdata hopen
  by_cases heq : x.info.dataEventCounter = x.info.dataReadCounter
  · rw [netanaRead_noData tsize heq]
    exact ⟨hwritten, fun _ => hdata, hstatus⟩
  -- a pending event means that the callback is between its wake-up and the end of its wait
  · have hpub : (∃ b n, x.dsr = .data b n .wakeUser ∨ x.dsr = .data b n .waitRead) ∧
        x.info.dataPublished := by
      rw [SessionState.dataPosition] at hdata
      split at hdata
      · rename_i b n hpc
        exact ⟨⟨b, n, Or.inl hpc⟩, hdata⟩
      · rename_i b n hpc
        exact ⟨⟨b, n, Or.inr hpc⟩, hdata⟩
      · exact absurd hdata heq
      · exact absurd hdata.1 heq
    obtain ⟨⟨b, n, hpc⟩, hpub⟩ := hpub
    rw [NotifyInfo.dataPublished] at hpub
    split at hpub
    · exact absurd hpub heq
    obtain ⟨-, hbuf, hvalid⟩ := hpub
    have hne : ¬ x.info.dataReadCounter = x.info.dataEventCounter := fun h => heq h.symm
    have hok : ¬ (x.info.curDmaBuf.data = none ∨ x.info.curDmaBuf.buffervalid = false) := by
      rw [not_or]
      exact ⟨hbuf, by simp [hvalid]⟩
    have hread : (netanaRead tsize x.info).1 = { x.info with
        dataReadCounter := x.info.dataEventCounter
        curDmaBuf := { x.info.curDmaBuf with data := none }
        dataReadSig := true } := by
      simp only [netanaRead, if_neg hne, if_neg hok]
    rw [hread]
    refine ⟨?_, fun _ => ?_, ?_⟩
    · rcases hpc with hpc | hpc <;> simp only [SessionState.bufferWritten, hpc]
    · have hnew : NotifyInfo.dataPublished { x.info with
          dataReadCounter := x.info.dataEventCounter
          curDmaBuf := { x.info.curDmaBuf with data := none }
          dataReadSig := true } := by
        rw [NotifyInfo.dataPublished, if_pos rfl]
      rcases hpc with hpc | hpc <;> simpa only [SessionState.dataPosition, hpc] using hnew
    · exact hstatus

/-- The same for a look at the state. -/
theorem SessionInv.showState {x : SessionState} (hi : SessionInv x) (hopen : x.isOpen = true) :
    SessionInv { x with info := devstateShowPoll x.info } := by
  obtain ⟨hwritten, hdata, hstatus⟩ := hi
  replace hstatus := hstatus hopen
  by_cases heq : x.info.statusReadCounter = x.info.statusEventCounter
  · have hshow : devstateShowPoll x.info = x.info := by
      rw [devstateShowPoll, if_neg (not_not.mpr heq)]
    rw [hshow]
    exact ⟨hwritten, hdata, fun _ => hstatus⟩
  · have hshow : devstateShowPoll x.info = { x.info with
        statusReadCounter := x.info.statusEventCounter
        statusReadSig := true } := by
      rw [devstateShowPoll, if_pos heq]
    have hpc : x.dsr = .status .wakeUser ∨ x.dsr = .status .waitRead := by
      rw [SessionState.statusPosition] at hstatus
      split at hstatus
      · rename_i hpc
        exact Or.inl hpc
      · rename_i hpc
        exact Or.inr hpc
      · exact absurd hstatus.symm heq
      · exact absurd hstatus.1.symm heq
    rw [hshow]
    refine ⟨hwritten, hdata, fun _ => ?_⟩
    have hnew : NotifyInfo.statusPublished { x.info with
        statusReadCounter := x.info.statusEventCounter
        statusReadSig := true } := by
      rw [NotifyInfo.statusPublished, if_pos rfl]
    rcases hpc with hpc | hpc <;> simpa only [SessionState.statusPosition, hpc] using hnew

/-- Opening the device resets counters and signals. -/
theorem SessionInv.openDevice {x : SessionState} (hi : SessionInv x)
    (hquiet : x.dsr.published = false) :
    SessionInv { x with info := netanaOpen x.info, isOpen := true } := by
  refine ⟨hi.written, fun _ => ?_, fun _ => ?_⟩
  · have hreset : (netanaOpen x.info).dataQuiet := ⟨rfl, rfl⟩
    rw [SessionState.dataPosition]
    split
    · rename_i hpc
      rw [hpc] at hquiet
      cases hquiet
    · rename_i hpc
      rw [hpc] at hquiet
      cases hquiet
    · exact hreset.1
    · exact hreset
  · have hreset : (netanaOpen x.info).statusQuiet := ⟨rfl, rfl⟩
    rw [SessionState.statusPosition]
    split
    · rename_i hpc
      rw [hpc] at hquiet
      cases hquiet
    · rename_i hpc
      rw [hpc] at hquiet
      cases hquiet
    · exact hreset.1
    · exact hreset

theorem sessionStep_inv (x : SessionState) (a : SessionAction) (y : SessionState)
    (hi : SessionInv x) (hok : reopenQuiet x a = true) (h : sessionStep x a = some y) :
    SessionInv y := by
  cases a with
  | callData pvdmabuffer uldatalen =>
    rw [sessionStep] at h
    split at h
    · rename_i hidle
      cases h
      have hdata := hi.data
      have hstatus := hi.status
      rw [SessionState.dataPosition, hidle] at hdata
      rw [SessionState.statusPosition, hidle] at hstatus
      exact ⟨trivial, hdata, hstatus⟩
    · cases h
  | callState =>
    rw [sessionStep] at h
    split at h
    · rename_i hidle
      cases h
      have hdata := hi.data
      have hstatus := hi.status
      rw [SessionState.dataPosition, hidle] at hdata
      rw [SessionState.statusPosition, hidle] at hstatus
      exact ⟨trivial, hdata, hstatus⟩
    · cases h
  | dsr =>
    rw [sessionStep, callbackStep] at h
    split at h
    · cases h
    · rename_i hpc
      obtain ⟨r, hr, rfl⟩ := Option.map_eq_some_iff.mp h
      exact hi.notifyData hpc hr
    · rename_i hpc
      obtain ⟨r, hr, rfl⟩ := Option.map_eq_some_iff.mp h
      exact hi.notifyState hpc hr
  | openDevice =>
    rw [sessionStep] at h
    rw [reopenQuiet] at hok
    split at h
    · cases h
      exact hi
    · -- the guard: no callback of an earlier session has still to see its release
      rename_i hclosed
      cases h
      apply hi.openDevice
      simpa [hclosed] using hok
  | release =>
    rw [sessionStep] at h
    split at h
    · cases h
      exact ⟨hi.written, fun hopen => (by cases hopen), fun hopen => (by cases hopen)⟩
    · cases h
  | read tsize =>
    rw [sessionStep] at h
    split at h
    · rename_i hopen
      cases h
      exact hi.read tsize hopen
    · cases h
  | showState =>
    rw [sessionStep] at h
    split at h
    · rename_i hopen
      cases h
      exact hi.showState hopen
    · cases h
      exact hi
  | setCapture captureactive =>
    rw [sessionStep] at h
    split at h
    · cases h
      exact ⟨hi.written, hi.data, hi.status⟩
    · cases h

theorem SessionInv.releasable {x : SessionState} (hi : SessionInv x) : DsrReleasable x := by
  intro hopen
  have hdata := hi.data hopen
  have hstatus := hi.status hopen
  constructor
  · rintro ⟨⟨b, n, hpc⟩, hsig⟩
    rw [SessionState.dataPosition, hpc] at hdata
    dsimp only at hdata
    rw [NotifyInfo.dataPublished, hsig, if_neg Bool.false_ne_true] at hdata
    obtain ⟨hne, hbuf, hvalid⟩ := hdata
    exact ⟨hne, hbuf, hvalid, netanaPoll_data hne,
      fun tsize => (netanaRead_releases tsize hne hbuf hvalid).1⟩
  · rintro ⟨hpc, hsig⟩
    rw [SessionState.statusPosition, hpc] at hstatus
    dsimp only at hstatus
    rw [NotifyInfo.statusPublished, hsig, if_neg Bool.false_ne_true] at hstatus
    exact ⟨hstatus, devstateShowPoll_releases hstatus⟩

/-- Over any number of sessions: unless the device is opened again while a callback has still to
see the release of the session before, a waiting DSR can always be released. -/
theorem dsr_releasable_of_quiet (x y : SessionState) (as : List SessionAction)
    (h : SessionStart x)
    (hquiet : StepRuns.Along (fun x a => reopenQuiet x a = true) sessionStep x as)
    (hrun : StepRuns.run sessionStep x as = some y) : DsrReleasable y :=
  (StepRuns.along_invariant sessionStep_inv (SessionInv.start h) hquiet hrun).releasable

/-- Two sessions, with a read buffer in the first, and in the second a buffer and a change of
the state that wait to be read. -/
def twoSessions : List SessionAction := List.flatten
  [[.openDevice, .setCapture true, .callData 0 8#32], List.replicate 7 .dsr, [.read 8, .dsr],
    [.release, .dsr, .openDevice, .setCapture true, .callState], List.replicate 3 .dsr,
    [.showState, .dsr, .dsr, .callData 1 8#32], List.replicate 7 .dsr]

theorem dsr_releasable_of_quiet_two :
    ∃ y, StepRuns.run sessionStep ⟨.added, false, .idle⟩ twoSessions = some y ∧
      y.isOpen = true ∧ y.waitsForRead ∧ DsrReleasable y := by
  have hend : (StepRuns.run sessionStep ⟨.added, false, .idle⟩ twoSessions).map
      (fun y => (y.isOpen, y.dsr, y.info.dataReadSig)) =
      some (true, .data 1 8#32 .waitRead, false) := by
    decide +kernel
  obtain ⟨y, hy, hfields⟩ := Option.map_eq_some_iff.mp hend
  simp only [Prod.mk.injEq] at hfields
  obtain ⟨hopen, hpc, hsig⟩ := hfields
  exact ⟨y, hy, hopen, ⟨⟨_, _, hpc⟩, hsig⟩,
    dsr_releasable_of_quiet _ y twoSessions ⟨rfl, rfl⟩
      (StepRuns.along_of_check (by decide +kernel)) hy⟩

/-- A close with an open right after it, while the callback waits for its buffer to be read. -/
def reopenedSession : List SessionAction := List.flatten
  [[.openDevice, .setCapture true, .callData 0 8#32], List.replicate 7 .dsr,
    [.release, .openDevice]]

/-- The counters are equal again, and the callback waits for a signal that nobody will give. -/
theorem dsr_not_releasable : ¬ ∀ (as : List SessionAction) (y : SessionState),
    StepRuns.run sessionStep ⟨.added, false, .idle⟩ as = some y → DsrReleasable y := by
  intro hall
  have hend : (StepRuns.run sessionStep ⟨.added, false, .idle⟩ reopenedSession).map
      (fun y => (y.isOpen, y.dsr, y.info.dataReadSig,
        decide (y.info.dataEventCounter = y.info.dataReadCounter))) =
      some (true, .data 0 8#32 .waitRead, false, true) := by
    decide +kernel
  obtain ⟨y, hy, hfields⟩ := Option.map_eq_some_iff.mp hend
  simp only [Prod.mk.injEq, decide_eq_true_eq] at hfields
  obtain ⟨hopen, hpc, hsig, heq⟩ := hfields
  exact ((hall reopenedSession y hy hopen).1 ⟨⟨_, _, hpc⟩, hsig⟩).1 heq

end NetanaDriver
