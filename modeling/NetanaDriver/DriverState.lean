import NetanaDriver.StepRuns
import NetanaDriver.ToggleHandshake

/-! The part of the device instance, the dual-port memory and the module's device record that
the interrupt handler and the DSR thread work on (netana_toolkit.h, netana_dpmlayout.h,
netana.h). -/
namespace NetanaDriver

/-- Handshake bits, the same numbers in both directions. -/
def newdataBit : ℕ := 0
def newstatusBit : ℕ := 1
def startstopBit : ℕ := 2
def mdioBit : ℕ := 3
def drvErrorBit : ℕ := 5
def sendMbxBit : ℕ := 9
def recvMbxBit : ℕ := 10
def clkoffBit : ℕ := 15

/-- `NETANA_CAPTURE_STATE_XXX`. -/
def captureStateOff : BitVec 32 := 0#32
def captureStateRunning : BitVec 32 := 2#32

/-- `MSK_IRQ_STA0_INT_REQ` and `MSK_IRQ_EN0_INT_REQ`. -/
def mskIntReq : BitVec 32 := 0x80000000#32

/-- `NETANA_IRQ2DSR_BUFFER_T`, of which the DSR reads the netX flags of cell 0. The number of
the snapshot that filled it is a history variable. -/
structure Irq2DsrBuffer where
  usNetxFlags : BitVec 16
  fValid : Bool
  snapshotNr : ℕ
  deriving DecidableEq, Repr

/-- Return values of `netana_tkit_dsr_handler`. -/
inductive DsrRet where
  | handled
  | processingRequest
  deriving DecidableEq, Repr

/-- Locals of `netana_tkit_process`. -/
structure ProcessLocals where
  ulUnequalFlags : BitVec 32
  ulBufferMask : BitVec 32
  ulUsedBuffers : BitVec 32
  ulUsedBufferSize : BitVec 32
  deriving DecidableEq, Repr

/-- The statements of `netana_tkit_ToggleBit`. -/
inductive ToggleStage where
  | enterLock
  | xorHost
  | storeHost
  | leaveLock
  deriving DecidableEq, Repr

/-- The statement the DSR thread executes next: the loop of `netana_dsrhandler`, the body of
`netana_tkit_dsr_handler` it calls, and the body of `netana_tkit_process`. -/
inductive DsrPc where
  | waitSig
  | clearSig
  | testStop
  | readIndex
  | testValid (buf : Bool)
  | flipIndex (buf : Bool)
  | invalidate (buf : Bool)
  | diffFlags (buf : Bool)
  | storeFlags (buf : Bool) (ulChangedBits : BitVec 32)
  | signalBits (ulBitPos : ℕ) (ulChangedBits : BitVec 32) (lRet : DsrRet)
  | dispatch (lRet : DsrRet)
  | processStart
  | testNewData (l : ProcessLocals)
  | toggleData (stage : ToggleStage) (l : ProcessLocals)
  | readBufferFlags (l : ProcessLocals)
  | testUsed (l : ProcessLocals)
  | readSize (l : ProcessLocals)
  | testSize (l : ProcessLocals)
  | rejectBuffer (l : ProcessLocals)
  | writeFile (l : ProcessLocals)
  | callData (l : ProcessLocals)
  | freeBuffer (l : ProcessLocals)
  | clearUsed (l : ProcessLocals)
  | advance (l : ProcessLocals)
  | testNewStatus (l : ProcessLocals)
  | readState
  | callStatus (ulCaptureState ulCaptureError : BitVec 32)
  | toggleStatus (stage : ToggleStage) (ulCaptureState : BitVec 32)
  | testOff (ulCaptureState : BitVec 32)
  | enableIrq
  | exited
  deriving DecidableEq, Repr

/-- One snapshot taken over into the cached netX flags, for the history of the DSR. -/
structure Pass where
  snapshotNr : ℕ
  before : BitVec 32
  flags : BitVec 32
  signalled : List ℕ
  lRet : Option DsrRet
  deriving DecidableEq, Repr

/-- A DMA buffer as it is handed on: its index, the reported size and its content. -/
structure Handover (β : Type*) where
  buffer : ℕ
  size : BitVec 32
  content : β
  deriving DecidableEq, Repr

structure DrvState (β : Type*) where
  -- handshake cell 0, capture blocks and interrupt enable register in the dual-port memory
  usNetxFlags : BitVec 16
  usHostFlags : BitVec 16
  hostBufferFlags : BitVec 32
  netxBufferFlags : BitVec 32
  aulUsedBufferSize : ℕ → BitVec 32
  ulCaptureState : BitVec 32
  ulCaptureError : BitVec 32
  ulIRQEnable_0 : BitVec 32
  -- NETANA_DEVINSTANCE_T
  iIrq2DsrBuffer : Bool
  atIrq2DsrBuffer : Bool → Irq2DsrBuffer
  ulIrqCounter : BitVec 32
  ulNetxFlags : BitVec 32
  ulHostFlags : BitVec 32
  ahHandshakeBitEvents : ℕ → Option Bool
  hStopComplete : Option Bool
  pvLock : Option Bool
  ulDMABufferCount : ℕ
  ulBufferSize : ℕ → BitVec 32
  pvBufferAddress : ℕ → β
  ulCurrentBuffer : ℕ
  fWriteToFile : Bool
  pfnData : Bool
  pfnStatus : Bool
  -- struct netana_info and the DSR thread
  dsrSig : Bool
  shouldStop : Bool
  dsr : DsrPc
  -- history: snapshots taken by the ISR, snapshots consumed by the DSR (newest first), buffers
  -- passed to pfnData, and whether an event or a lock was used after its deletion
  snapshots : List (BitVec 16)
  passes : List Pass
  handed : List (Handover β)
  usedDeleted : Bool

variable {β : Type*}

/-- `OS_SetEvent(ahHandshakeBitEvents[ulBit])`; a deleted event is a null pointer. -/
def osSetBitEvent (ulBit : ℕ) (s : DrvState β) : DrvState β :=
  { s with
    ahHandshakeBitEvents := Function.update s.ahHandshakeBitEvents ulBit
      ((s.ahHandshakeBitEvents ulBit).map fun _ => true)
    usedDeleted := s.usedDeleted || (s.ahHandshakeBitEvents ulBit).isNone }

/-- `OS_SetEvent(hStopComplete)`. -/
def osSetStopEvent (s : DrvState β) : DrvState β :=
  { s with
    hStopComplete := s.hStopComplete.map fun _ => true
    usedDeleted := s.usedDeleted || s.hStopComplete.isNone }

/-- `OS_EnterLock(pvLock)`: blocks while the lock is held; a deleted lock is a null pointer. -/
def osEnterLock (s : DrvState β) : Option (DrvState β) :=
  if s.pvLock = some true then none
  else some { s with
    pvLock := s.pvLock.map fun _ => true
    usedDeleted := s.usedDeleted || s.pvLock.isNone }

/-- `OS_LeaveLock(pvLock)`. -/
def osLeaveLock (s : DrvState β) : DrvState β :=
  { s with
    pvLock := s.pvLock.map fun _ => false
    usedDeleted := s.usedDeleted || s.pvLock.isNone }

/-- `ulHostFlags ^= (1 << ulBit)`. -/
def xorHostFlags (ulBit : ℕ) (s : DrvState β) : DrvState β :=
  { s with ulHostFlags := ToggleHandshake.toggleBit s.ulHostFlags ulBit }

/-- `usHostFlags = (uint16_t)ulHostFlags`. -/
def storeHostFlags (s : DrvState β) : DrvState β :=
  { s with usHostFlags := s.ulHostFlags.setWidth 16 }

/-- `netana_tkit_ToggleBit`, when no other thread is between its lock and unlock. -/
def netanaTkitToggleBit (ulBit : ℕ) (s : DrvState β) : Option (DrvState β) :=
  (osEnterLock s).map fun s => osLeaveLock (storeHostFlags (xorHostFlags ulBit s))

/-- One statement of `netana_tkit_ToggleBit`, with the stage that follows it. -/
def toggleStep (ulBit : ℕ) (stage : ToggleStage) (s : DrvState β) :
    Option (DrvState β × Option ToggleStage) :=
  match stage with
  | .enterLock => (osEnterLock s).map fun s => (s, some .xorHost)
  | .xorHost => some (xorHostFlags ulBit s, some .storeHost)
  | .storeHost => some (storeHostFlags s, some .leaveLock)
  | .leaveLock => some (osLeaveLock s, none)

/-- `NETANA_BITSTATE_XXX`. -/
inductive BitState where
  | clear
  | set
  | unequal
  | equal
  deriving DecidableEq, Repr

/-- `GetHskBitState`. -/
def getHskBitState (ulHostFlags ulNetxFlags ulBitMask : BitVec 32) (bState : BitState) :
    BitState :=
  match bState with
  | .set | .clear => if ToggleHandshake.maskTest ulNetxFlags ulBitMask then .set else .clear
  | _ => if ToggleHandshake.maskTest (ulHostFlags ^^^ ulNetxFlags) ulBitMask then .unequal
      else .equal

theorem getHskBitState_equal {h n : BitVec 32} {b : ℕ} (hb : b < 32) :
    getHskBitState h n (1#32 <<< b) .equal = .equal ↔ n.getLsbD b = h.getLsbD b := by
  simp only [getHskBitState, ToggleHandshake.maskTest_one_shiftLeft _ b hb, BitVec.getLsbD_xor]
  cases h.getLsbD b <;> cases n.getLsbD b <;> simp

theorem getHskBitState_unequal {h n : BitVec 32} {b : ℕ} (hb : b < 32) :
    getHskBitState h n (1#32 <<< b) .unequal = .unequal ↔ n.getLsbD b ≠ h.getLsbD b := by
  simp only [getHskBitState, ToggleHandshake.maskTest_one_shiftLeft _ b hb, BitVec.getLsbD_xor]
  cases h.getLsbD b <;> cases n.getLsbD b <;> simp

/-- A device that has been added, with equal flag words on both sides, a ring of `n` DMA buffers
of one size, and the DSR thread asleep. -/
def restingDevice (usFlags : BitVec 16) (n : ℕ) (size : BitVec 32) (content : ℕ → β) :
    DrvState β where
  usNetxFlags := usFlags
  usHostFlags := usFlags
  hostBufferFlags := 0#32
  netxBufferFlags := 0#32
  aulUsedBufferSize := fun _ => 0#32
  ulCaptureState := captureStateOff
  ulCaptureError := 0#32
  ulIRQEnable_0 := mskIntReq ||| 1#32
  iIrq2DsrBuffer := false
  atIrq2DsrBuffer := fun _ => ⟨0#16, false, 0⟩
  ulIrqCounter := 0#32
  ulNetxFlags := usFlags.setWidth 32
  ulHostFlags := usFlags.setWidth 32
  ahHandshakeBitEvents := fun _ => some false
  hStopComplete := some false
  pvLock := some false
  ulDMABufferCount := n
  ulBufferSize := fun _ => size
  pvBufferAddress := content
  ulCurrentBuffer := 0
  fWriteToFile := false
  pfnData := true
  pfnStatus := true
  dsrSig := false
  shouldStop := false
  dsr := .waitSig
  snapshots := []
  passes := []
  handed := []
  usedDeleted := false

end NetanaDriver
