import NetanaDriver.StepRuns

/-! The notification part of `struct netana_info` and what works on it: the callbacks
`netana_notify_data` and `netana_notify_state` of the DSR thread, and the file and sysfs
operations of the user (netana.c, netana_tk_interface.c). -/
namespace NetanaDriver

/-- `struct netana_dma_info`. `data` points to a DMA buffer, named by its number. -/
structure DmaInfo where
  data : Option ℕ
  datalen : BitVec 32
  buffervalid : Bool
  deriving DecidableEq, Repr

structure NotifyInfo where
  captureactive : Bool
  notifyInterrupts : Bool
  curDmaBuf : DmaInfo
  dataEventCounter : BitVec 32
  dataReadCounter : BitVec 32
  dataReadSig : Bool
  statusEventCounter : BitVec 32
  statusReadCounter : BitVec 32
  statusReadSig : Bool
  deriving DecidableEq, Repr

/-- The statements of `netana_notify_data`. -/
inductive NotifyDataPc where
  | testCapture
  | testNotify
  | setData
  | setLen
  | setValid
  | incEvent
  | wakeUser
  | waitRead
  | clearSig
  deriving DecidableEq, Repr

/-- One statement of `netana_notify_data`, with the one that follows; `none` for the latter when
the function returns. The whole is `none` while the thread waits. -/
def notifyDataStep (pvdmabuffer : ℕ) (uldatalen : BitVec 32) (pc : NotifyDataPc)
    (i : NotifyInfo) : Option (NotifyInfo × Option NotifyDataPc) :=
  match pc with
  | .testCapture => some (i, if i.captureactive then some .testNotify else none)
  | .testNotify => some (i, if i.notifyInterrupts then some .setData else none)
  | .setData => some ({ i with curDmaBuf := { i.curDmaBuf with data := some pvdmabuffer } },
      some .setLen)
  | .setLen => some ({ i with curDmaBuf := { i.curDmaBuf with datalen := uldatalen } },
      some .setValid)
  | .setValid => some ({ i with curDmaBuf := { i.curDmaBuf with buffervalid := true } },
      some .incEvent)
  | .incEvent => some ({ i with dataEventCounter := i.dataEventCounter + 1 }, some .wakeUser)
  -- a wake-up changes nothing that the woken thread does not test itself
  | .wakeUser => some (i, some .waitRead)
  | .waitRead => if i.dataReadSig then some (i, some .clearSig) else none
  | .clearSig => some ({ i with dataReadSig := false }, none)

/-- The statements of `netana_notify_state`. -/
inductive NotifyStatePc where
  | testNotify
  | incEvent
  | wakeUser
  | waitRead
  | clearSig
  deriving DecidableEq, Repr

def notifyStateStep (pc : NotifyStatePc) (i : NotifyInfo) :
    Option (NotifyInfo × Option NotifyStatePc) :=
  match pc with
  | .testNotify => some (i, if i.notifyInterrupts then some .incEvent else none)
  | .incEvent => some ({ i with statusEventCounter := i.statusEventCounter + 1 }, some .wakeUser)
  | .wakeUser => some (i, some .waitRead)
  | .waitRead => if i.statusReadSig then some (i, some .clearSig) else none
  | .clearSig => some ({ i with statusReadSig := false }, none)

/-- What `netana_read` returns: `-ENODATA`, `-EAGAIN` or a number of bytes. -/
inductive ReadResult where
  | noData
  | again
  | bytes (tsize : ℕ)
  deriving DecidableEq, Repr

/-- `netana_read` as one step, when all bytes can be copied to the user. -/
def netanaRead (tsize : ℕ) (i : NotifyInfo) : NotifyInfo × ReadResult :=
  if i.dataReadCounter = i.dataEventCounter then (i, .noData)
  else
    let i := { i with dataReadCounter := i.dataEventCounter }
    if i.curDmaBuf.data = none ∨ i.curDmaBuf.buffervalid = false then (i, .again)
    else
      ({ i with
          curDmaBuf := { i.curDmaBuf with data := none }
          dataReadSig := true },
        .bytes (if tsize > i.curDmaBuf.datalen.toNat then i.curDmaBuf.datalen.toNat else tsize))

/-- `POLLIN`, `POLLPRI` and `POLLRDNORM`. -/
def pollIn : BitVec 32 := 0x1#32
def pollPri : BitVec 32 := 0x2#32
def pollRdnorm : BitVec 32 := 0x40#32

/-- `netana_poll`. -/
def netanaPoll (i : NotifyInfo) : BitVec 32 :=
  (if i.dataReadCounter ≠ i.dataEventCounter then pollPri ||| pollIn else 0#32) |||
    (if i.statusReadCounter ≠ i.statusEventCounter then pollRdnorm ||| pollIn else 0#32)

/-- What `devstate_show_poll` does to the notification state of an open device. -/
def devstateShowPoll (i : NotifyInfo) : NotifyInfo :=
  if i.statusReadCounter ≠ i.statusEventCounter then
    { i with
      statusReadCounter := i.statusEventCounter
      statusReadSig := true }
  else i

/-- `netana_reset_event_counter`. -/
def netanaResetEventCounter (i : NotifyInfo) : NotifyInfo :=
  { i with
    dataReadSig := false
    dataReadCounter := 0#32
    statusReadSig := false
    statusReadCounter := 0#32
    dataEventCounter := 0#32
    statusEventCounter := 0#32 }

/-- What a successful `netana_open` does to it. -/
def netanaOpen (i : NotifyInfo) : NotifyInfo :=
  netanaResetEventCounter { i with notifyInterrupts := true }

/-- What `netana_release` does to it. -/
def netanaRelease (i : NotifyInfo) : NotifyInfo :=
  { i with
    notifyInterrupts := false
    captureactive := false
    dataReadSig := true
    statusReadSig := true }

/-- The notification state after the device has been added. -/
def NotifyInfo.added : NotifyInfo where
  captureactive := false
  notifyInterrupts := false
  curDmaBuf := ⟨none, 0#32, false⟩
  dataEventCounter := 0#32
  dataReadCounter := 0#32
  dataReadSig := false
  statusEventCounter := 0#32
  statusReadCounter := 0#32
  statusReadSig := false

/-- No data event is pending, and none has been answered ahead. -/
def NotifyInfo.dataQuiet (i : NotifyInfo) : Prop :=
  i.dataEventCounter = i.dataReadCounter ∧ i.dataReadSig = false

def NotifyInfo.statusQuiet (i : NotifyInfo) : Prop :=
  i.statusEventCounter = i.statusReadCounter ∧ i.statusReadSig = false

theorem counter_ne_succ (n : BitVec 32) : n ≠ n + 1#32 := by
  intro h
  have hnat := congrArg BitVec.toNat h
  rw [BitVec.toNat_add] at hnat
  have hlt := n.isLt
  simp only [BitVec.toNat_ofNat] at hnat
  omega

/-- A pending, valid buffer is read, and that releases the waiting callback. -/
theorem netanaRead_releases {i : NotifyInfo} (tsize : ℕ)
    (hpending : i.dataEventCounter ≠ i.dataReadCounter) (hdata : i.curDmaBuf.data ≠ none)
    (hvalid : i.curDmaBuf.buffervalid = true) :
    (netanaRead tsize i).1.dataReadSig = true ∧
      (netanaRead tsize i).2 = .bytes (min tsize i.curDmaBuf.datalen.toNat) := by
  have hne : ¬ i.dataReadCounter = i.dataEventCounter := fun h => hpending h.symm
  have hok : ¬ (i.curDmaBuf.data = none ∨ i.curDmaBuf.buffervalid = false) := by
    rw [not_or]
    exact ⟨hdata, by simp [hvalid]⟩
  simp only [netanaRead, if_neg hne, if_neg hok, true_and]
  congr 1
  split <;> omega

theorem netanaRead_noData {i : NotifyInfo} (tsize : ℕ)
    (h : i.dataEventCounter = i.dataReadCounter) : netanaRead tsize i = (i, .noData) := by
  rw [netanaRead, if_pos h.symm]

theorem netanaPoll_data {i : NotifyInfo} (h : i.dataEventCounter ≠ i.dataReadCounter) :
    netanaPoll i &&& pollPri ≠ 0#32 := by
  have hne : i.dataReadCounter ≠ i.dataEventCounter := fun h' => h h'.symm
  rw [netanaPoll, if_pos hne]
  split <;> decide

theorem devstateShowPoll_releases {i : NotifyInfo}
    (h : i.statusEventCounter ≠ i.statusReadCounter) :
    (devstateShowPoll i).statusReadSig = true := by
  have hne : i.statusReadCounter ≠ i.statusEventCounter := fun h' => h h'.symm
  rw [devstateShowPoll, if_pos hne]

end NetanaDriver
