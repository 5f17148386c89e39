import NetanaDriver.CaptureRun
import NetanaDriver.NotifyUser

/-! A capture with the notification of a user: the DSR thread waits inside `netana_notify_data`
until a reader, in the statements of `netana_read`, has copied the buffer out, while
`netana_config_control` is still about to mark the capture as active. -/
namespace NetanaDriver

/-- The statements of `netana_read`, with its locals. -/
inductive ReadPc where
  | idle
  | compare (tsize : ℕ) (dataEvent : BitVec 32)
  | setCounter (tsize : ℕ) (dataEvent : BitVec 32)
  | testData (tsize : ℕ)
  | testValid (tsize : ℕ)
  | clampSize (tsize : ℕ)
  | copyOut (tsize : ℕ)
  | clearData (copied : List (BitVec 8))
  | setSig (copied : List (BitVec 8))
  | wakeDsr (copied : List (BitVec 8))
  deriving DecidableEq, Repr

/-- One statement of `netana_read`; `pvBufferAddress` is the content of the DMA buffers. -/
def readStep (pvBufferAddress : ℕ → List (BitVec 8)) :
    NotifyInfo × ReadPc → NotifyInfo × ReadPc
  | (i, .idle) => (i, .idle)
  -- -ENODATA
  | (i, .compare tsize dataEvent) =>
    (i, if i.dataReadCounter = dataEvent then .idle else .setCounter tsize dataEvent)
  | (i, .setCounter tsize dataEvent) => ({ i with dataReadCounter := dataEvent }, .testData tsize)
  -- -EAGAIN
  | (i, .testData tsize) => (i, if i.curDmaBuf.data = none then .idle else .testValid tsize)
  | (i, .testValid tsize) =>
    (i, if i.curDmaBuf.buffervalid = false then .idle else .clampSize tsize)
  | (i, .clampSize tsize) =>
    (i, .copyOut (if tsize > i.curDmaBuf.datalen.toNat then i.curDmaBuf.datalen.toNat else tsize))
  -- copy_to_user copies everything
  | (i, .copyOut tsize) =>
    (i, .clearData (match i.curDmaBuf.data with
      | some pvdmabuffer => (pvBufferAddress pvdmabuffer).take tsize
      | none => []))
  | (i, .clearData copied) =>
    ({ i with curDmaBuf := { i.curDmaBuf with data := none } }, .setSig copied)
  | (i, .setSig copied) => ({ i with dataReadSig := true }, .wakeDsr copied)
  | (i, .wakeDsr _) => (i, .idle)

/-- Undisturbed, the statements amount to `netana_read` as one step. -/
theorem readStep_netanaRead (pvBufferAddress : ℕ → List (BitVec 8)) (tsize : ℕ) (i : NotifyInfo) :
    (readStep pvBufferAddress)^[9] (i, .compare tsize i.dataEventCounter) =
      ((netanaRead tsize i).1, .idle) := by
  by_cases hevent : i.dataReadCounter = i.dataEventCounter
  · simp [readStep, netanaRead, hevent]
  · by_cases hdata : i.curDmaBuf.data = none
    · simp [readStep, netanaRead, hevent, hdata]
    · by_cases hvalid : i.curDmaBuf.buffervalid = false
      · simp [readStep, netanaRead, hevent, hdata, hvalid]
      · simp [readStep, netanaRead, hevent, hdata, hvalid]

/-- What a call that has not yet returned has copied to the user. -/
def ReadPc.copied : ReadPc → Option (List (BitVec 8))
  | .clearData copied | .setSig copied | .wakeDsr copied => some copied
  | _ => none

/-- What a call returns with its next statement. -/
def ReadPc.returns : ReadPc → List (List (BitVec 8))
  | .wakeDsr copied => [copied]
  | _ => []

/-- The size a call was given, as long as it matters. -/
def ReadPc.size : ReadPc → Option ℕ
  | .compare tsize _ | .setCounter tsize _ | .testData tsize | .testValid tsize
  | .clampSize tsize => some tsize
  | _ => none

/-- What `netana_config_control` does when the firmware has acknowledged the start: it finds the
acknowledge in the cached flags, `netana_start_capture` returns, `captureactive = 1`. -/
inductive ConfigPc where
  | waitAck
  | setActive
  | returned
  deriving DecidableEq, Repr

/-- `call`: the DSR is in `netana_notify_data`. `passed`: the buffers passed to it. `returned`:
what the calls of `netana_read` that returned a number of bytes have copied out. -/
structure NotifyCapture where
  cap : CaptureState (List (BitVec 8))
  info : NotifyInfo
  call : Option NotifyDataPc
  config : ConfigPc
  reader : ReadPc
  passed : List (Handover (List (BitVec 8)))
  returned : List (List (BitVec 8))

inductive NotifyCaptureAction where
  | capture (a : CaptureAction (List (BitVec 8)))
  | config
  | read (tsize : ℕ)
  | reader

/-- The next statement of the DSR thread, which is in `netana_notify_data` between the call and
the return of the data callback. -/
def notifyingDsrStep (c : DsrChoice) (x : NotifyCapture) : Option NotifyCapture :=
  match x.cap.drv.dsr, x.call with
  | .callData l, none =>
    if x.cap.drv.pfnData then some { x with
      call := some .testCapture
      passed := x.passed ++ [x.cap.drv.callEntry l] }
    else (captureStep x.cap (.dsr c)).map fun cap => { x with cap := cap }
  | .callData l, some pc =>
    (notifyDataStep x.cap.drv.ulCurrentBuffer l.ulUsedBufferSize pc x.info).bind fun r =>
      match r.2 with
      | some next => some { x with info := r.1, call := some next }
      | none => (captureStep x.cap (.dsr c)).map fun cap =>
          { x with cap := cap, info := r.1, call := none }
  | _, _ => (captureStep x.cap (.dsr c)).map fun cap => { x with cap := cap }

/-- The size is not smaller than any DMA buffer. -/
def DrvState.fits {β : Type*} (s : DrvState β) (tsize : ℕ) : Bool :=
  (List.range s.ulDMABufferCount).all fun p => (s.ulBufferSize p).toNat ≤ tsize

def notifyCaptureStep (x : NotifyCapture) : NotifyCaptureAction → Option NotifyCapture
  | .capture (.dsr c) => notifyingDsrStep c x
  | .capture a => (captureStep x.cap a).map fun cap => { x with cap := cap }
  | .config => match x.config with
    | .waitAck =>
      if getHskBitState x.cap.drv.ulHostFlags x.cap.drv.ulNetxFlags (1#32 <<< startstopBit)
          .equal = .equal then some { x with config := .setActive }
      else none
    | .setActive => some { x with
        info := { x.info with captureactive := true }, config := .returned }
    | .returned => none
  -- the reader asks for at least the length of a buffer
  | .read tsize =>
    if x.reader = .idle ∧ x.cap.drv.fits tsize = true then some { x with
      reader := .compare tsize x.info.dataEventCounter }
    else none
  | .reader =>
    if x.reader = .idle then none
    else some { x with
      info := (readStep x.cap.drv.pvBufferAddress (x.info, x.reader)).1
      reader := (readStep x.cap.drv.pvBufferAddress (x.info, x.reader)).2
      returned := x.returned ++ x.reader.returns }

/-- The data in a buffer. -/
def Handover.payload (b : Handover (List (BitVec 8))) : List (BitVec 8) :=
  b.content.take b.size.toNat

/-- All that has been copied to the user, in order. -/
def NotifyCapture.copiedOut (x : NotifyCapture) : List (List (BitVec 8)) :=
  x.returned ++ x.reader.copied.toList

/-- Every buffer passed on is copied out once and in order, the last one before the DSR frees
it. -/
def BuffersRead (x : NotifyCapture) : Prop :=
  x.copiedOut <+: x.passed.map Handover.payload ∧
    ∀ l, x.cap.drv.dsr = .freeBuffer l → x.copiedOut = x.passed.map Handover.payload

/-- The start of a capture on an open device: the firmware has acknowledged, no data event is
pending, and no call of `netana_read` is under way. -/
structure NotifyCaptureStart (x : NotifyCapture) : Prop where
  capture : CaptureStart x.cap
  notify : x.info.notifyInterrupts = true
  quiet : x.info.dataQuiet
  call : x.call = none
  config : x.config = .waitAck
  reader : x.reader = .idle
  history : x.passed = [] ∧ x.returned = []

/-- The condition on a step: the capture is marked active when `netana_notify_data` looks. -/
def activeWhenTested (x : NotifyCapture) : NotifyCaptureAction → Bool
  | .capture (.dsr _) => x.call != some .testCapture || x.info.captureactive
  | _ => true

end NetanaDriver
