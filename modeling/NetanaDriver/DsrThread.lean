import NetanaDriver.DriverState

/-! `netana_isr` and the DSR thread: `netana_tkit_isr_handler`, the loop of `netana_dsrhandler`
with `netana_tkit_dsr_handler` and `netana_tkit_process`, one statement a step. -/
namespace NetanaDriver
open ToggleHandshake

variable {β : Type*}

/-- `netana_isr` with `netana_tkit_isr_handler(.., 1)`: it does nothing when the status register
says that another device on the line raised the interrupt. -/
def netanaIsr (ulIRQState_0 : BitVec 32) (s : DrvState β) : DrvState β :=
  if maskTest ulIRQState_0 mskIntReq then
    { s with
      atIrq2DsrBuffer := Function.update s.atIrq2DsrBuffer s.iIrq2DsrBuffer
        ⟨s.usNetxFlags, true, s.snapshots.length⟩
      ulIrqCounter := s.ulIrqCounter + 1
      snapshots := s.snapshots ++ [s.usNetxFlags]
      ulIRQEnable_0 := 0#32
      dsrSig := true }
  else s

/-- What a step of the DSR thread finds out from outside: whether the wait for the driver-error
bit succeeds, and whether the chunk exceeds the last capture file. -/
structure DsrChoice where
  fErrorBitEqual : Bool
  fFileFull : Bool
  deriving DecidableEq, Repr

/-- `netana_signal_driver_error`: toggles the driver-error bit unless the wait for it fails. -/
def netanaSignalDriverError (c : DsrChoice) (s : DrvState β) : Option (DrvState β) :=
  if c.fErrorBitEqual then netanaTkitToggleBit drvErrorBit s else some s

/-- Record the event a pass has signalled. -/
def noteSignalled (ulBit : ℕ) : List Pass → List Pass
  | [] => []
  | p :: ps => { p with signalled := p.signalled ++ [ulBit] } :: ps

/-- Record what `netana_tkit_dsr_handler` returns for a pass. -/
def noteReturn (lRet : DsrRet) : List Pass → List Pass
  | [] => []
  | p :: ps => { p with lRet := some lRet } :: ps

/-- The ring position after `p`: `if(++ulCurrentBuffer >= ulDMABufferCount) ulCurrentBuffer = 0`. -/
def nextBuffer (n p : ℕ) : ℕ := if p + 1 ≥ n then 0 else p + 1

/-- The next statement of the DSR thread; `none` while it sleeps, blocks or has ended. -/
def dsrStep (c : DsrChoice) (s : DrvState β) : Option (DrvState β) :=
  match s.dsr with
  -- netana_dsrhandler
  | .waitSig => if s.dsrSig then some { s with dsr := .clearSig } else none
  | .clearSig => some { s with dsrSig := false, dsr := .testStop }
  | .testStop => some { s with dsr := if s.shouldStop then .exited else .readIndex }
  -- netana_tkit_dsr_handler
  | .readIndex => some { s with dsr := .testValid s.iIrq2DsrBuffer }
  | .testValid buf => some { s with
      dsr := if (s.atIrq2DsrBuffer buf).fValid then .flipIndex buf else .dispatch .handled }
  | .flipIndex buf => some { s with iIrq2DsrBuffer := !s.iIrq2DsrBuffer, dsr := .invalidate buf }
  | .invalidate buf => some { s with
      atIrq2DsrBuffer := Function.update s.atIrq2DsrBuffer buf
        { s.atIrq2DsrBuffer buf with fValid := false }
      dsr := .diffFlags buf }
  | .diffFlags buf => some { s with
      dsr := .storeFlags buf
        (s.ulNetxFlags ^^^ (s.atIrq2DsrBuffer buf).usNetxFlags.setWidth 32) }
  | .storeFlags buf ulChangedBits => some { s with
      ulNetxFlags := (s.atIrq2DsrBuffer buf).usNetxFlags.setWidth 32
      passes := ⟨(s.atIrq2DsrBuffer buf).snapshotNr, s.ulNetxFlags,
        (s.atIrq2DsrBuffer buf).usNetxFlags.setWidth 32, [], none⟩ :: s.passes
      dsr := .signalBits 0 ulChangedBits .handled }
  | .signalBits ulBitPos ulChangedBits lRet =>
    if ulBitPos < 16 then
      if maskTest ulChangedBits (1#32 <<< ulBitPos) then
        some { osSetBitEvent ulBitPos s with
          passes := noteSignalled ulBitPos s.passes
          dsr := .signalBits (ulBitPos + 1) ulChangedBits
            (if ulBitPos = newdataBit ∨ ulBitPos = newstatusBit then .processingRequest
              else lRet) }
      else some { s with dsr := .signalBits (ulBitPos + 1) ulChangedBits lRet }
    else some { s with passes := noteReturn lRet s.passes, dsr := .dispatch lRet }
  | .dispatch lRet => some { s with
      dsr := if lRet = .processingRequest then .processStart else .enableIrq }
  -- netana_tkit_process
  | .processStart => some { s with
      dsr := .testNewData ⟨s.ulNetxFlags ^^^ s.ulHostFlags, 0#32, 0#32, 0#32⟩ }
  | .testNewData l => some { s with
      dsr := if maskTest l.ulUnequalFlags (1#32 <<< newdataBit)
        then .toggleData .enterLock { l with ulBufferMask := 1#32 <<< s.ulCurrentBuffer }
        else .testNewStatus l }
  | .toggleData stage l => (toggleStep newdataBit stage s).map fun r =>
      { r.1 with dsr := match r.2 with
        | some next => .toggleData next l
        | none => .readBufferFlags l }
  | .readBufferFlags l => some { s with
      dsr := .testUsed { l with ulUsedBuffers := s.hostBufferFlags ^^^ s.netxBufferFlags } }
  | .testUsed l => some { s with
      dsr := if maskTest l.ulUsedBuffers l.ulBufferMask then .readSize l else .testNewStatus l }
  | .readSize l => some { s with
      dsr := .testSize { l with ulUsedBufferSize := s.aulUsedBufferSize s.ulCurrentBuffer } }
  | .testSize l => some { s with
      dsr := if l.ulUsedBufferSize > s.ulBufferSize s.ulCurrentBuffer then .rejectBuffer l
        else .writeFile l }
  -- the buffer is dropped, an active file capture ends
  | .rejectBuffer l => (netanaSignalDriverError c s).map fun s =>
      { s with fWriteToFile := false, dsr := .freeBuffer l }
  | .writeFile l =>
    if s.fWriteToFile && c.fFileFull then
      (netanaSignalDriverError c s).map fun s =>
        { s with fWriteToFile := false, dsr := .callData l }
    else some { s with dsr := .callData l }
  | .callData l => some { s with
      handed := if s.pfnData then s.handed ++ [⟨s.ulCurrentBuffer, l.ulUsedBufferSize,
          s.pvBufferAddress s.ulCurrentBuffer⟩] else s.handed
      dsr := .freeBuffer l }
  | .freeBuffer l => some { s with
      hostBufferFlags := s.hostBufferFlags ^^^ l.ulBufferMask, dsr := .clearUsed l }
  | .clearUsed l => some { s with
      dsr := .advance { l with ulUsedBuffers := l.ulUsedBuffers &&& ~~~l.ulBufferMask } }
  | .advance l => some { s with
      ulCurrentBuffer := nextBuffer s.ulDMABufferCount s.ulCurrentBuffer
      dsr := .testUsed { l with
        ulBufferMask := 1#32 <<< nextBuffer s.ulDMABufferCount s.ulCurrentBuffer } }
  | .testNewStatus l => some { s with
      dsr := if maskTest l.ulUnequalFlags (1#32 <<< newstatusBit) then .readState
        else .enableIrq }
  | .readState => some { s with dsr := .callStatus s.ulCaptureState s.ulCaptureError }
  | .callStatus ulCaptureState _ => some { s with dsr := .toggleStatus .enterLock ulCaptureState }
  | .toggleStatus stage ulCaptureState => (toggleStep newstatusBit stage s).map fun r =>
      { r.1 with dsr := match r.2 with
        | some next => .toggleStatus next ulCaptureState
        | none => .testOff ulCaptureState }
  | .testOff ulCaptureState =>
    if ulCaptureState = captureStateOff then some { osSetStopEvent s with dsr := .enableIrq }
    else some { s with dsr := .enableIrq }
  -- netana_tkit_enable_hwinterrupts, and back to the wait
  | .enableIrq => some { s with ulIRQEnable_0 := mskIntReq ||| 1#32, dsr := .waitSig }
  | .exited => none

end NetanaDriver
