import NetanaDriver.DriverState
import NetanaDriver.CardRegistry

/-! What a session can leave behind in a device: the filters of its ports, its GPIOs, and how
`netana_open_device` resets them (toolkit/netana_functions.c). -/
namespace NetanaDriver

def netanaInvalidPort : BitVec 32 := 0x80200002#32
def netanaInvalidBuffersize : BitVec 32 := 0x8020000A#32
def netanaCaptureNotActive : BitVec 32 := 0x8022000C#32

theorem netanaInvalidParameter_ne : netanaInvalidParameter ≠ netanaNoError := by decide

theorem netanaFunctionFailed_ne : netanaFunctionFailed ≠ netanaNoError := by decide

def gpioModeRisingEdge : BitVec 32 := 1#32
def gpioModeFallingEdge : BitVec 32 := 2#32
def gpioModeOutput : BitVec 32 := 3#32
def gpioModeOutputPwm : BitVec 32 := 4#32
def gpioModeSync : BitVec 32 := 5#32

def gpioVoltage24V : BitVec 32 := 0#32
def gpioVoltage3V : BitVec 32 := 1#32

/-- The bytes at an address, by their offset. -/
abbrev ByteArea := ℕ → BitVec 8

def osMemset (pb : ByteArea) (b : BitVec 8) (ulLen : BitVec 32) : ByteArea :=
  fun i => if i < ulLen.toNat then b else pb i

def osMemcpy (pbDst pbSrc : ByteArea) (ulLen : BitVec 32) : ByteArea :=
  fun i => if i < ulLen.toNat then pbSrc i else pbDst i

/-- One of the two filters of a port, as it lies in the DPM. -/
structure FilterData where
  pbMask : ByteArea
  pbValue : ByteArea

structure DpmFilter where
  ulRelationShip : BitVec 32
  atFilter : Fin 2 → FilterData

/-- The places of the filters A and B. -/
abbrev filterA : Fin 2 := 0

abbrev filterB : Fin 2 := 1

/-- `NETANA_FILTER_T`, where a pointer can be null. -/
structure NetanaFilter where
  ulFilterSize : BitVec 32
  pbMask : Option ByteArea
  pbValue : Option ByteArea

/-- The three words that the modes of a GPIO share in a union. -/
structure GpioData where
  ulData0 : BitVec 32
  ulData1 : BitVec 32
  ulData2 : BitVec 32
  deriving DecidableEq, Repr

structure GpioBlock where
  ulMode : BitVec 32
  ulVoltage : BitVec 32
  uData : GpioData
  deriving DecidableEq, Repr

/-- `NETANA_GPIO_MODE_T`: triggers and delay, or the two periods of a PWM, or a sync period. -/
structure GpioMode where
  ulMode : BitVec 32
  ulData0 : BitVec 32
  ulData1 : BitVec 32
  deriving DecidableEq, Repr

/-- A recorded default filter; a pointer is null where there was no memory for the record. -/
structure DefaultFilter where
  pbMask : Option ByteArea
  pbValue : Option ByteArea

/-- What a device shows in its DPM when it is added. -/
structure DpmImage where
  usDeviceClass : BitVec 16
  ulPortCount : BitVec 32
  ulGPIOCount : BitVec 32
  ulFilterSize : BitVec 32
  ulGpioVoltage3VSupport : BitVec 32
  ulGpioVoltage24VSupport : BitVec 32
  ulCaptureState : BitVec 32
  atFilters : ℕ → DpmFilter
  atGpios : ℕ → GpioBlock

/-- What `netana_start_capture` is told to capture. -/
structure CaptureSetup where
  ulCaptureMode : BitVec 32
  ulPortEnableMask : BitVec 32
  ulMacMode : BitVec 32
  deriving DecidableEq, Repr

/-- The device with its handle, its device instance and its DPM. -/
structure DeviceSession where
  hdevice : Bool
  -- the device instance
  ulOpenCnt : BitVec 32
  ulPortCnt : BitVec 32
  ulGpioCnt : BitVec 32
  ulFilterSize : BitVec 32
  atDefaultFilter : ℕ → Fin 2 → DefaultFilter
  atDefaultGPIOs : ℕ → GpioBlock
  fDataCallback : Bool
  -- the DPM
  usDeviceClass : BitVec 16
  ulGpioVoltage3VSupport : BitVec 32
  ulGpioVoltage24VSupport : BitVec 32
  atFilters : ℕ → DpmFilter
  aptGPIOs : ℕ → GpioBlock
  ulCaptureState : BitVec 32
  tCaptureSetup : CaptureSetup
  fHostStartStop : Bool

/-- `netana_tkit_deviceadd`, once the firmware of the device runs. `fAllocated` says of each
`OS_Memalloc` in turn whether there is memory. -/
def DeviceSession.netanaTkitDeviceadd (tDpm : DpmImage) (fAllocated : ℕ → Bool)
    (x : DeviceSession) : DeviceSession :=
  { x with
    usDeviceClass := tDpm.usDeviceClass
    ulGpioVoltage3VSupport := tDpm.ulGpioVoltage3VSupport
    ulGpioVoltage24VSupport := tDpm.ulGpioVoltage24VSupport
    ulCaptureState := tDpm.ulCaptureState
    ulGpioCnt := tDpm.ulGPIOCount
    aptGPIOs := tDpm.atGpios
    atDefaultGPIOs := tDpm.atGpios
    ulPortCnt := tDpm.ulPortCount
    ulFilterSize := tDpm.ulFilterSize
    atFilters := tDpm.atFilters
    atDefaultFilter := fun ulIdx ulFilter =>
      let d := (tDpm.atFilters ulIdx).atFilter ulFilter
      { pbMask := if fAllocated (4 * ulIdx + 2 * ulFilter) then some d.pbMask else none
        pbValue := if fAllocated (4 * ulIdx + 2 * ulFilter + 1) then some d.pbValue else none } }

/-- `IsCaptureRunning`. -/
def DeviceSession.isCaptureRunning (x : DeviceSession) : Bool :=
  x.ulCaptureState != captureStateOff

/-- What is wrong with a filter that is given to `netana_set_filter`. -/
def filterError (ulFilterSize : BitVec 32) : Option NetanaFilter → Option (BitVec 32)
  | none => none
  | some f =>
    if f.ulFilterSize > 0#32 then
      if f.pbMask.isNone ∨ f.pbValue.isNone then some netanaInvalidParameter
      else if f.ulFilterSize > ulFilterSize then some netanaInvalidBuffersize
      else none
    else none

/-- A filter is cleared, and a new one, if there is one, is copied to it. -/
def FilterData.load (ulFilterSize : BitVec 32) (ptFilter : Option NetanaFilter)
    (m : FilterData) : FilterData :=
  let clear : FilterData :=
    { pbMask := osMemset m.pbMask 0#8 ulFilterSize
      pbValue := osMemset m.pbValue 0#8 ulFilterSize }
  match ptFilter with
  | none => clear
  | some f =>
    { pbMask := f.pbMask.elim clear.pbMask fun pb => osMemcpy clear.pbMask pb f.ulFilterSize
      pbValue := f.pbValue.elim clear.pbValue fun pb => osMemcpy clear.pbValue pb f.ulFilterSize }

/-- `netana_set_filter`. -/
def DeviceSession.netanaSetFilter (ulPort : BitVec 32) (ptFilterA ptFilterB : Option NetanaFilter)
    (ulRelationShip : BitVec 32) (x : DeviceSession) : DeviceSession × BitVec 32 :=
  if x.isCaptureRunning then (x, netanaCaptureActive)
  else
    match filterError x.ulFilterSize ptFilterA with
    | some lRet => (x, lRet)
    | none =>
      match filterError x.ulFilterSize ptFilterB with
      | some lRet => (x, lRet)
      | none =>
        if ulPort < x.ulPortCnt then
          let ptFilter := x.atFilters ulPort.toNat
          ({ x with
              atFilters := Function.update x.atFilters ulPort.toNat
                { ulRelationShip := ulRelationShip
                  atFilter := ![(ptFilter.atFilter 0).load x.ulFilterSize ptFilterA,
                    (ptFilter.atFilter 1).load x.ulFilterSize ptFilterB] } },
            netanaNoError)
        else (x, netanaInvalidPort)

/-- What `netana_get_filter` returns and what it stores for its caller. -/
structure FilterReply where
  lRet : BitVec 32
  pulRelationShip : Option (BitVec 32)
  ptFilterA : Option NetanaFilter
  ptFilterB : Option NetanaFilter

/-- A filter is copied to the caller's buffers; `none` where a buffer is missing. -/
def FilterData.store (ulFilterSize : BitVec 32) (m : FilterData) :
    Option NetanaFilter → Option (Option NetanaFilter)
  | none => some none
  | some f =>
    if f.ulFilterSize > 0#32 then
      match f.pbMask, f.pbValue with
      | some pbMask, some pbValue =>
        let ulLen := if f.ulFilterSize > ulFilterSize then ulFilterSize else f.ulFilterSize
        some (some
          { ulFilterSize := ulLen
            pbMask := some (osMemcpy pbMask m.pbMask ulLen)
            pbValue := some (osMemcpy pbValue m.pbValue ulLen) })
      | _, _ => none
    else some (some f)

/-- `netana_get_filter`, which also tells the relation. -/
def DeviceSession.netanaGetFilter (ulPort : BitVec 32) (ptFilterA ptFilterB : Option NetanaFilter)
    (x : DeviceSession) : FilterReply :=
  if ulPort < x.ulPortCnt then
    let ptFilter := x.atFilters ulPort.toNat
    match (ptFilter.atFilter 0).store x.ulFilterSize ptFilterA with
    | none => ⟨netanaInvalidParameter, some ptFilter.ulRelationShip, ptFilterA, ptFilterB⟩
    | some ptFilterA =>
      match (ptFilter.atFilter 1).store x.ulFilterSize ptFilterB with
      | none => ⟨netanaInvalidParameter, some ptFilter.ulRelationShip, ptFilterA, ptFilterB⟩
      | some ptFilterB => ⟨netanaNoError, some ptFilter.ulRelationShip, ptFilterA, ptFilterB⟩
  else ⟨netanaInvalidPort, none, ptFilterA, ptFilterB⟩

/-- `netana_get_gpio_mode`. -/
def DeviceSession.netanaGetGpioMode (ulGpio : BitVec 32) (x : DeviceSession) :
    BitVec 32 × Option GpioMode :=
  if ulGpio < x.ulGpioCnt then
    let ptBlock := x.aptGPIOs ulGpio.toNat
    if ptBlock.ulMode = gpioModeOutput then (netanaNoError, some ⟨ptBlock.ulMode, 0#32, 0#32⟩)
    else
      -- the trigger's words and the PWM's lie in the same place
      (netanaNoError, some ⟨ptBlock.ulMode, ptBlock.uData.ulData0, ptBlock.uData.ulData1⟩)
  else (netanaInvalidParameter, none)

def DeviceSession.setGpio (x : DeviceSession) (ulGpio : BitVec 32) (b : GpioBlock) :
    DeviceSession :=
  { x with aptGPIOs := Function.update x.aptGPIOs ulGpio.toNat b }

/-- `netana_set_gpio_mode`. -/
def DeviceSession.netanaSetGpioMode (ulGpio : BitVec 32) (tMode : GpioMode) (x : DeviceSession) :
    DeviceSession × BitVec 32 :=
  if x.isCaptureRunning then (x, netanaCaptureActive)
  else if ulGpio < x.ulGpioCnt then
    let ptBlock := x.aptGPIOs ulGpio.toNat
    let u := ptBlock.uData
    if tMode.ulMode = gpioModeRisingEdge ∨ tMode.ulMode = gpioModeFallingEdge then
      (x.setGpio ulGpio { ptBlock with
        ulMode := tMode.ulMode
        uData := { u with ulData0 := tMode.ulData0, ulData1 := tMode.ulData1 } }, netanaNoError)
    else if tMode.ulMode = gpioModeOutput then
      (x.setGpio ulGpio { ptBlock with
        ulMode := tMode.ulMode
        uData := { u with ulData0 := 0#32 } }, netanaNoError)
    else if tMode.ulMode = gpioModeOutputPwm then
      if tMode.ulData0 ≤ 100000000#32 ∧ tMode.ulData0 ≥ 10#32 ∧
          tMode.ulData1 ≤ 100000000#32 ∧ tMode.ulData1 ≥ 10#32 then
        let fGPIOPWMActive := (List.range x.ulGpioCnt.toNat).any fun ulGPIOCnt =>
          (x.aptGPIOs ulGPIOCnt).ulMode == tMode.ulMode && ulGpio.toNat != ulGPIOCnt
        if fGPIOPWMActive then (x, netanaFunctionFailed)
        else
          (x.setGpio ulGpio { ptBlock with
            ulMode := tMode.ulMode
            uData := { u with ulData0 := tMode.ulData0, ulData1 := tMode.ulData1 } },
            netanaNoError)
      else (x, netanaInvalidParameter)
    else if tMode.ulMode = gpioModeSync then
      (x.setGpio ulGpio { ptBlock with
        ulMode := tMode.ulMode
        uData := { u with ulData0 := tMode.ulData0 } }, netanaNoError)
    else (x.setGpio ulGpio { ptBlock with ulMode := tMode.ulMode }, netanaNoError)
  else (x, netanaInvalidParameter)

/-- `netana_set_gpio_output`, which a running capture does not stop. -/
def DeviceSession.netanaSetGpioOutput (ulGpio ulLevel : BitVec 32) (x : DeviceSession) :
    DeviceSession × BitVec 32 :=
  if ulGpio ≥ x.ulGpioCnt ∨ (ulLevel ≠ 0#32 ∧ ulLevel ≠ 1#32) then (x, netanaInvalidParameter)
  else
    let ptBlock := x.aptGPIOs ulGpio.toNat
    if ptBlock.ulMode = gpioModeOutput then
      (x.setGpio ulGpio { ptBlock with uData := { ptBlock.uData with ulData0 := ulLevel } },
        netanaNoError)
    else (x, netanaFunctionFailed)

/-- `netana_set_gpio_voltage`. -/
def DeviceSession.netanaSetGpioVoltage (ulGpioSelMask ulGpioVoltageSel : BitVec 32)
    (x : DeviceSession) : DeviceSession × BitVec 32 :=
  let ulSupportedMask :=
    (List.range x.ulGpioCnt.toNat).foldl (fun m ulGpio => m ||| 1#32 <<< ulGpio) 0#32
  if ulGpioSelMask > ulSupportedMask then (x, netanaInvalidParameter)
  else if x.usDeviceClass = nanlDevClass ∧ ulGpioSelMask ≠ 0x0F#32 then
    (x, netanaInvalidParameter)
  else
    let fSupported :=
      if ulGpioVoltageSel = gpioVoltage3V then
        x.ulGpioVoltage3VSupport &&& ulGpioSelMask == ulGpioSelMask
      else if ulGpioVoltageSel = gpioVoltage24V then
        x.ulGpioVoltage24VSupport &&& ulGpioSelMask == ulGpioSelMask
      else false
    if fSupported then
      ({ x with
          aptGPIOs := (List.range x.ulGpioCnt.toNat).foldl (fun g ulGpio =>
            if ulGpioSelMask &&& 1#32 <<< ulGpio ≠ 0#32 then
              Function.update g ulGpio { g ulGpio with ulVoltage := ulGpioVoltageSel }
            else g) x.aptGPIOs }, netanaNoError)
    else (x, netanaInvalidParameter)

/-- `netana_get_gpio_voltage`. -/
def DeviceSession.netanaGetGpioVoltage (ulGpio : BitVec 32) (x : DeviceSession) :
    BitVec 32 × Option (BitVec 32) :=
  if ulGpio ≥ x.ulGpioCnt then (netanaInvalidParameter, none)
  else (netanaNoError, some (x.aptGPIOs ulGpio.toNat).ulVoltage)

/-- How the two waits for the start/stop bits of a command end: `false` for a timeout. The bits that
are looked at are those that the DSR has seen last, and it can be blocked. -/
structure CmdWaits where
  fReady : Bool
  fAcknowledged : Bool
  deriving DecidableEq, Repr

/-- `netana_start_capture`, with a data callback and no files. It is the firmware that then changes
the capture state. -/
def DeviceSession.netanaStartCapture (c : CaptureSetup) (w : CmdWaits) (x : DeviceSession) :
    DeviceSession × BitVec 32 :=
  if x.isCaptureRunning then (x, netanaCaptureActive)
  else
    let x := { x with fDataCallback := true, tCaptureSetup := c }
    if w.fReady = false then (x, netanaFunctionFailed)
    else
      let x := { x with fHostStartStop := !x.fHostStartStop }
      if w.fAcknowledged = false then (x, netanaFunctionFailed) else (x, netanaNoError)

/-- `netana_stop_capture`, with no files. The wait for the stop indication ends after five seconds
also when there is none. -/
def DeviceSession.netanaStopCapture (w : CmdWaits) (x : DeviceSession) :
    DeviceSession × BitVec 32 :=
  if x.isCaptureRunning = false then (x, netanaCaptureNotActive)
  else if w.fReady = false then (x, netanaFunctionFailed)
  else
    let x := { x with fHostStartStop := !x.fHostStartStop }
    if w.fAcknowledged = false then (x, netanaFunctionFailed)
    else ({ x with fDataCallback := false }, netanaNoError)

/-- `netana_open_device` gives the default filters of one port to `netana_set_filter`. -/
def DeviceSession.resetFilter (x : DeviceSession) (ulNo : ℕ) : DeviceSession :=
  let d := x.atDefaultFilter ulNo
  (x.netanaSetFilter (BitVec.ofNat 32 ulNo)
    (some { ulFilterSize := x.ulFilterSize, pbMask := (d 0).pbMask, pbValue := (d 0).pbValue })
    (some { ulFilterSize := x.ulFilterSize, pbMask := (d 1).pbMask, pbValue := (d 1).pbValue })
    0#32).1

def DeviceSession.resetGpio (x : DeviceSession) (ulNo : ℕ) : DeviceSession :=
  { x with aptGPIOs := Function.update x.aptGPIOs ulNo (x.atDefaultGPIOs ulNo) }

def DeviceSession.resetFilters (x : DeviceSession) (n : ℕ) : DeviceSession :=
  (List.range n).foldl DeviceSession.resetFilter x

def DeviceSession.resetGpios (x : DeviceSession) (n : ℕ) : DeviceSession :=
  (List.range n).foldl DeviceSession.resetGpio x

/-- `netana_open_device`, for the device that it finds on the list. -/
def DeviceSession.netanaOpenDevice (ulFilter : BitVec 32) (x : DeviceSession) :
    DeviceSession × BitVec 32 :=
  if classSelected x.usDeviceClass ulFilter then
    if x.ulOpenCnt > 0#32 then (x, netanaDeviceStillOpen)
    else
      let x := { x with ulOpenCnt := x.ulOpenCnt + 1#32 }
      let x := x.resetFilters x.ulPortCnt.toNat
      let x := x.resetGpios x.ulGpioCnt.toNat
      (x, netanaNoError)
  else (x, netanaAccessDenied)

/-- `netana_close_device`. -/
def DeviceSession.netanaCloseDevice (x : DeviceSession) : DeviceSession × BitVec 32 :=
  if x.ulOpenCnt > 0#32 then ({ x with ulOpenCnt := x.ulOpenCnt - 1#32 }, netanaNoError)
  else (x, netanaDeviceNotOpen)

/-- `netana_open` of the device file. -/
def DeviceSession.netanaOpen (ulFilter : BitVec 32) (x : DeviceSession) : DeviceSession × ℤ :=
  if x.hdevice then (x, -ebusy)
  else
    let r := x.netanaOpenDevice ulFilter
    if r.2 = netanaNoError then ({ r.1 with hdevice := true }, 0)
    else ({ r.1 with hdevice := false }, -enodev)

/-- `netana_release`, also when the process with the file has been killed: whether the capture has
stopped is not looked at. -/
def DeviceSession.netanaRelease (w : CmdWaits) (x : DeviceSession) : DeviceSession :=
  { (x.netanaStopCapture w).1.netanaCloseDevice.1 with hdevice := false }

inductive DeviceAction where
  | openFile (ulFilter : BitVec 32)
  | release (w : CmdWaits)
  | setFilter (ulPort : BitVec 32) (ptFilterA ptFilterB : Option NetanaFilter)
      (ulRelationShip : BitVec 32)
  | setGpioMode (ulGpio : BitVec 32) (tMode : GpioMode)
  | setGpioOutput (ulGpio ulLevel : BitVec 32)
  | setGpioVoltage (ulGpioSelMask ulGpioVoltageSel : BitVec 32)
  | startCapture (c : CaptureSetup) (w : CmdWaits)
  | stopCapture (w : CmdWaits)
  -- the firmware gets on with its capture
  | firmware (ulCaptureState : BitVec 32)

/-- The attributes of the device refuse every command while there is no handle. -/
def deviceStep (x : DeviceSession) : DeviceAction → Option DeviceSession
  | .openFile ulFilter => some (x.netanaOpen ulFilter).1
  | .release w => if x.hdevice then some (x.netanaRelease w) else none
  | .setFilter ulPort ptFilterA ptFilterB ulRelationShip =>
    if x.hdevice then some (x.netanaSetFilter ulPort ptFilterA ptFilterB ulRelationShip).1
    else none
  | .setGpioMode ulGpio tMode =>
    if x.hdevice then some (x.netanaSetGpioMode ulGpio tMode).1 else none
  | .setGpioOutput ulGpio ulLevel =>
    if x.hdevice then some (x.netanaSetGpioOutput ulGpio ulLevel).1 else none
  | .setGpioVoltage ulGpioSelMask ulGpioVoltageSel =>
    if x.hdevice then some (x.netanaSetGpioVoltage ulGpioSelMask ulGpioVoltageSel).1 else none
  | .startCapture c w => if x.hdevice then some (x.netanaStartCapture c w).1 else none
  | .stopCapture w => if x.hdevice then some (x.netanaStopCapture w).1 else none
  | .firmware ulCaptureState => some { x with ulCaptureState := ulCaptureState }

/-- What `netana_tkit_deviceadd` has recorded. -/
structure DeviceRecords where
  ulPortCnt : BitVec 32
  ulGpioCnt : BitVec 32
  ulFilterSize : BitVec 32
  atDefaultFilter : ℕ → Fin 2 → DefaultFilter
  atDefaultGPIOs : ℕ → GpioBlock

def DeviceSession.records (x : DeviceSession) : DeviceRecords :=
  { ulPortCnt := x.ulPortCnt
    ulGpioCnt := x.ulGpioCnt
    ulFilterSize := x.ulFilterSize
    atDefaultFilter := x.atDefaultFilter
    atDefaultGPIOs := x.atDefaultGPIOs }

/-- The first `n` bytes are those of the record; a record that is missing is shown by none. -/
def ShowsBytes (n : BitVec 32) (pbDefault : Option ByteArea) (pb : ByteArea) : Prop :=
  ∀ i < n.toNat, pbDefault.map (fun d => d i) = some (pb i)

def DeviceRecords.Shown (r : DeviceRecords) (ulPort : ℕ) (f : DpmFilter) : Prop :=
  f.ulRelationShip = 0#32 ∧ ∀ k : Fin 2,
    ShowsBytes r.ulFilterSize (r.atDefaultFilter ulPort k).pbMask (f.atFilter k).pbMask ∧
      ShowsBytes r.ulFilterSize (r.atDefaultFilter ulPort k).pbValue (f.atFilter k).pbValue

def DeviceRecords.FiltersShown (r : DeviceRecords) (x : DeviceSession) : Prop :=
  ∀ ulPort < r.ulPortCnt.toNat, r.Shown ulPort (x.atFilters ulPort)

def DeviceRecords.GpiosShown (r : DeviceRecords) (x : DeviceSession) : Prop :=
  ∀ ulGpio < r.ulGpioCnt.toNat, x.aptGPIOs ulGpio = r.atDefaultGPIOs ulGpio

/-- There is something to copy for every byte of the port's filters. -/
def DeviceRecords.Recorded (r : DeviceRecords) (ulPort : ℕ) : Prop :=
  r.ulFilterSize = 0#32 ∨ ∀ k : Fin 2,
    (r.atDefaultFilter ulPort k).pbMask.isSome ∧ (r.atDefaultFilter ulPort k).pbValue.isSome

/-- No capture runs, and the defaults of all ports have been recorded. -/
def DeviceSession.CanReset (x : DeviceSession) : Prop :=
  x.isCaptureRunning = false ∧ ∀ ulPort < x.ulPortCnt.toNat, x.records.Recorded ulPort

theorem osMemcpy_self (pbDst pbSrc : ByteArea) (n : BitVec 32) :
    ShowsBytes n (some pbSrc) (osMemcpy pbDst pbSrc n) := by
  intro i hi
  rw [osMemcpy, if_pos hi]
  rfl

theorem osMemcpy_congr {n : BitVec 32} {pb pb' : ByteArea} (pbDst : ByteArea)
    (h : ∀ i < n.toNat, pb i = pb' i) : osMemcpy pbDst pb n = osMemcpy pbDst pb' n := by
  funext i
  unfold osMemcpy
  by_cases hi : i < n.toNat
  · rw [if_pos hi, if_pos hi, h i hi]
  · rw [if_neg hi, if_neg hi]

/-- Two areas that show the same record agree on it. -/
theorem ShowsBytes.agree {n : BitVec 32} {d : Option ByteArea} {pb pb' : ByteArea}
    (h : ShowsBytes n d pb) (h' : ShowsBytes n d pb') : ∀ i < n.toNat, pb i = pb' i :=
  fun i hi => Option.some.inj ((h i hi).symm.trans (h' i hi))

/-- Copying a whole record to a filter makes the filter show it. -/
theorem FilterData.load_shows (m : FilterData) (n : BitVec 32) (d : DefaultFilter)
    (h : n = 0#32 ∨ (d.pbMask.isSome ∧ d.pbValue.isSome)) :
    ShowsBytes n d.pbMask
        (m.load n (some { ulFilterSize := n, pbMask := d.pbMask, pbValue := d.pbValue })).pbMask ∧
      ShowsBytes n d.pbValue (m.load n
        (some { ulFilterSize := n, pbMask := d.pbMask, pbValue := d.pbValue })).pbValue := by
  rcases h with hn | ⟨hmask, hvalue⟩
  · constructor
    · intro i hi
      rw [hn] at hi
      exact absurd hi (Nat.not_lt_zero i)
    · intro i hi
      rw [hn] at hi
      exact absurd hi (Nat.not_lt_zero i)
  · obtain ⟨pbMask, hm⟩ := Option.isSome_iff_exists.mp hmask
    obtain ⟨pbValue, hv⟩ := Option.isSome_iff_exists.mp hvalue
    rw [hm, hv]
    exact ⟨osMemcpy_self _ _ _, osMemcpy_self _ _ _⟩

/-- `netana_set_filter` writes to nothing but the filters. -/
theorem netanaSetFilter_frame (ulPort : BitVec 32) (fA fB : Option NetanaFilter)
    (ulRelationShip : BitVec 32) (x : DeviceSession) :
    ∃ g, (x.netanaSetFilter ulPort fA fB ulRelationShip).1 = { x with atFilters := g } := by
  unfold DeviceSession.netanaSetFilter
  by_cases hrun : x.isCaptureRunning = true
  · exact ⟨x.atFilters, by rw [if_pos hrun]⟩
  · rw [if_neg hrun]
    cases filterError x.ulFilterSize fA with
    | some lRet => exact ⟨x.atFilters, rfl⟩
    | none =>
      cases filterError x.ulFilterSize fB with
      | some lRet => exact ⟨x.atFilters, rfl⟩
      | none =>
        by_cases hport : ulPort < x.ulPortCnt
        · exact ⟨_, by simp only [if_pos hport]; rfl⟩
        · exact ⟨x.atFilters, by simp only [if_neg hport]⟩

/-- A default that is recorded passes the checks of `netana_set_filter`, and only such a one. -/
theorem filterError_default (n : BitVec 32) (d : DefaultFilter) :
    filterError n (some { ulFilterSize := n, pbMask := d.pbMask, pbValue := d.pbValue }) = none ↔
      n = 0#32 ∨ (d.pbMask.isSome ∧ d.pbValue.isSome) := by
  change (if n > 0#32 then
      if d.pbMask.isNone ∨ d.pbValue.isNone then some netanaInvalidParameter
      else if n > n then some netanaInvalidBuffersize else none
    else none) = none ↔ _
  by_cases hn : n = 0#32
  · simp [hn]
  · have hpos : n > 0#32 := by
      rw [gt_iff_lt, BitVec.lt_def]
      exact Nat.pos_of_ne_zero fun h => hn (BitVec.eq_of_toNat_eq h)
    rw [if_pos hpos]
    by_cases hnull : d.pbMask.isNone ∨ d.pbValue.isNone
    · rw [if_pos hnull]
      have hnot : ¬ (d.pbMask.isSome ∧ d.pbValue.isSome) := by
        rintro ⟨hm, hv⟩
        rcases hnull with h | h
        · rw [Option.isNone_iff_eq_none.mp h] at hm
          exact Bool.false_ne_true hm
        · rw [Option.isNone_iff_eq_none.mp h] at hv
          exact Bool.false_ne_true hv
      simp [hn, hnot]
    · rw [if_neg hnull, if_neg (BitVec.lt_irrefl n)]
      rw [not_or, Option.isNone_iff_eq_none, Option.isNone_iff_eq_none] at hnull
      have hboth : d.pbMask.isSome ∧ d.pbValue.isSome :=
        ⟨Option.isSome_iff_ne_none.mpr hnull.1, Option.isSome_iff_ne_none.mpr hnull.2⟩
      exact iff_of_true rfl (Or.inr hboth)

theorem recorded_iff (r : DeviceRecords) (ulPort : ℕ) :
    r.Recorded ulPort ↔ ∀ k : Fin 2, r.ulFilterSize = 0#32 ∨
      ((r.atDefaultFilter ulPort k).pbMask.isSome ∧ (r.atDefaultFilter ulPort k).pbValue.isSome) :=
  forall_or_left.symm

/-- The reset of a port that can be reset. -/
theorem resetFilter_shown (x : DeviceSession) {ulNo : ℕ} (hno : ulNo < x.ulPortCnt.toNat)
    (hidle : x.isCaptureRunning = false) (hrec : x.records.Recorded ulNo) :
    ∃ f, x.records.Shown ulNo f ∧
      x.resetFilter ulNo = { x with atFilters := Function.update x.atFilters ulNo f } := by
  have hk := (recorded_iff x.records ulNo).mp hrec
  have hnat : (BitVec.ofNat 32 ulNo).toNat = ulNo := by
    rw [BitVec.toNat_ofNat]
    exact Nat.mod_eq_of_lt (lt_trans hno x.ulPortCnt.isLt)
  have hport : BitVec.ofNat 32 ulNo < x.ulPortCnt := by
    rw [BitVec.lt_def, hnat]
    exact hno
  have hcase : x.resetFilter ulNo = { x with
      atFilters := Function.update x.atFilters ulNo
        { ulRelationShip := 0#32
          atFilter := ![((x.atFilters ulNo).atFilter 0).load x.ulFilterSize
              (some { ulFilterSize := x.ulFilterSize,
                      pbMask := (x.atDefaultFilter ulNo 0).pbMask,
                      pbValue := (x.atDefaultFilter ulNo 0).pbValue }),
            ((x.atFilters ulNo).atFilter 1).load x.ulFilterSize
              (some { ulFilterSize := x.ulFilterSize,
                      pbMask := (x.atDefaultFilter ulNo 1).pbMask,
                      pbValue := (x.atDefaultFilter ulNo 1).pbValue })] } } := by
    simp only [DeviceSession.resetFilter, DeviceSession.netanaSetFilter, hidle,
      (filterError_default x.ulFilterSize (x.atDefaultFilter ulNo 0)).mpr (hk 0),
      (filterError_default x.ulFilterSize (x.atDefaultFilter ulNo 1)).mpr (hk 1), hport, hnat,
      if_true, Bool.false_eq_true, if_false]
  refine ⟨_, ⟨rfl, ?_⟩, hcase⟩
  rw [Fin.forall_fin_two]
  exact ⟨FilterData.load_shows _ _ (x.atDefaultFilter ulNo 0) (hk 0),
    FilterData.load_shows _ _ (x.atDefaultFilter ulNo 1) (hk 1)⟩

/-- `netana_set_filter` refuses while a capture runs, and what does not pass its checks. -/
theorem netanaSetFilter_refused (ulPort : BitVec 32) (fA fB : Option NetanaFilter)
    (ulRelationShip : BitVec 32) (x : DeviceSession)
    (h : x.isCaptureRunning = false →
      ¬ (filterError x.ulFilterSize fA = none ∧ filterError x.ulFilterSize fB = none)) :
    (x.netanaSetFilter ulPort fA fB ulRelationShip).1 = x := by
  unfold DeviceSession.netanaSetFilter
  by_cases hrun : x.isCaptureRunning = true
  · rw [if_pos hrun]
  · rw [if_neg hrun]
    have hcheck := h (Bool.eq_false_iff.mpr hrun)
    cases hA : filterError x.ulFilterSize fA with
    | some lRet => rfl
    | none =>
      cases hB : filterError x.ulFilterSize fB with
      | some lRet => rfl
      | none => exact absurd ⟨hA, hB⟩ hcheck

/-- A port that cannot be reset keeps its filters. -/
theorem resetFilter_refused (x : DeviceSession) (ulNo : ℕ)
    (h : ¬ (x.isCaptureRunning = false ∧ x.records.Recorded ulNo)) : x.resetFilter ulNo = x := by
  apply netanaSetFilter_refused
  rintro hidle ⟨hA, hB⟩
  apply h
  refine ⟨hidle, (recorded_iff x.records ulNo).mpr ?_⟩
  rw [Fin.forall_fin_two]
  exact ⟨(filterError_default x.ulFilterSize (x.atDefaultFilter ulNo 0)).mp hA,
    (filterError_default x.ulFilterSize (x.atDefaultFilter ulNo 1)).mp hB⟩

/-- The loop over the ports resets those that can be reset, and no others. -/
theorem resetFilters_spec (x : DeviceSession) {n : ℕ} (hn : n ≤ x.ulPortCnt.toNat) :
    ∃ g, x.resetFilters n = { x with atFilters := g } ∧ ∀ ulPort,
      (ulPort < n ∧ x.isCaptureRunning = false ∧ x.records.Recorded ulPort →
        x.records.Shown ulPort (g ulPort)) ∧
      (¬ (ulPort < n ∧ x.isCaptureRunning = false ∧ x.records.Recorded ulPort) →
        g ulPort = x.atFilters ulPort) := by
  induction n with
  | zero =>
    exact ⟨x.atFilters, rfl, fun _ => ⟨fun h => absurd h.1 (Nat.not_lt_zero _), fun _ => rfl⟩⟩
  | succ n ih =>
    obtain ⟨g, hg, hports⟩ := ih (Nat.le_of_succ_le hn)
    have hsucc : x.resetFilters (n + 1) = (x.resetFilters n).resetFilter n := by
      unfold DeviceSession.resetFilters
      rw [List.range_succ, List.foldl_append]
      rfl
    rw [hsucc, hg]
    -- the loop has not changed what decides on the next port
    let y : DeviceSession := { x with atFilters := g }
    by_cases hready : x.isCaptureRunning = false ∧ x.records.Recorded n
    · obtain ⟨f, hf, hset⟩ := resetFilter_shown y (show n < y.ulPortCnt.toNat from hn)
        hready.1 hready.2
      refine ⟨Function.update g n f, hset, fun ulPort => ?_⟩
      by_cases hp : ulPort = n
      · rw [hp, Function.update_self]
        exact ⟨fun _ => hf, fun h => absurd ⟨Nat.lt_succ_self n, hready⟩ h⟩
      · rw [Function.update_of_ne hp]
        have hlt : ulPort < n + 1 ↔ ulPort < n := by omega
        rw [hlt]
        exact hports ulPort
    · refine ⟨g, resetFilter_refused y n hready, fun ulPort => ?_⟩
      by_cases hp : ulPort = n
      · rw [hp]
        refine ⟨fun h => absurd h.2 hready, fun _ => (hports n).2 fun h => ?_⟩
        exact hready h.2
      · have hlt : ulPort < n + 1 ↔ ulPort < n := by omega
        rw [hlt]
        exact hports ulPort

theorem resetGpios_spec (x : DeviceSession) (n : ℕ) :
    x.resetGpios n = { x with
      aptGPIOs := fun g => if g < n then x.atDefaultGPIOs g else x.aptGPIOs g } := by
  induction n with
  | zero => rfl
  | succ n ih =>
    have hsucc : x.resetGpios (n + 1) = (x.resetGpios n).resetGpio n := by
      unfold DeviceSession.resetGpios
      rw [List.range_succ, List.foldl_append]
      rfl
    rw [hsucc, ih]
    unfold DeviceSession.resetGpio
    congr 1
    funext g
    by_cases hg : g = n
    · rw [hg, Function.update_self, if_pos (Nat.lt_succ_self n)]
    · rw [Function.update_of_ne hg]
      have hlt : g < n + 1 ↔ g < n := by omega
      simp only [hlt]

/-- What a successful `netana_open_device` does: the GPIOs are reset, and the filters of the ports
that can be. -/
theorem netanaOpenDevice_spec {x : DeviceSession} {ulFilter : BitVec 32}
    (h : (x.netanaOpenDevice ulFilter).2 = netanaNoError) :
    ∃ g, (x.netanaOpenDevice ulFilter).1 = { x with
        ulOpenCnt := x.ulOpenCnt + 1#32
        atFilters := g
        aptGPIOs := fun i => if i < x.ulGpioCnt.toNat then x.atDefaultGPIOs i else x.aptGPIOs i } ∧
      ∀ ulPort < x.ulPortCnt.toNat,
        (x.isCaptureRunning = false ∧ x.records.Recorded ulPort →
          x.records.Shown ulPort (g ulPort)) ∧
        (¬ (x.isCaptureRunning = false ∧ x.records.Recorded ulPort) →
          g ulPort = x.atFilters ulPort) := by
  unfold DeviceSession.netanaOpenDevice at h ⊢
  by_cases hclass : classSelected x.usDeviceClass ulFilter = true
  · rw [if_pos hclass] at h ⊢
    by_cases hopen : x.ulOpenCnt > 0#32
    · rw [if_pos hopen] at h
      exact absurd h (by decide : netanaDeviceStillOpen ≠ netanaNoError)
    · rw [if_neg hopen]
      let y : DeviceSession := { x with ulOpenCnt := x.ulOpenCnt + 1#32 }
      obtain ⟨g, hg, hports⟩ := resetFilters_spec y (le_refl _)
      refine ⟨g, ?_, fun ulPort hp => ⟨fun hr => (hports ulPort).1 ⟨hp, hr⟩, fun hr => ?_⟩⟩
      · change (y.resetFilters y.ulPortCnt.toNat).resetGpios
          (y.resetFilters y.ulPortCnt.toNat).ulGpioCnt.toNat = _
        rw [hg, resetGpios_spec]
      · exact (hports ulPort).2 fun h => hr h.2
  · rw [if_neg hclass] at h
    exact absurd h (by decide : netanaAccessDenied ≠ netanaNoError)

/-- The filters show the defaults after opening if they can be reset, or have shown them before. -/
theorem open_filters_shown {x : DeviceSession} {ulFilter : BitVec 32}
    (h : (x.netanaOpenDevice ulFilter).2 = netanaNoError) :
    x.records.FiltersShown (x.netanaOpenDevice ulFilter).1 ↔
      x.CanReset ∨ x.records.FiltersShown x := by
  obtain ⟨g, hg, hports⟩ := netanaOpenDevice_spec h
  rw [hg]
  constructor
  · intro hshown
    by_cases hidle : x.isCaptureRunning = false
    · left
      refine ⟨hidle, fun ulPort hp => ?_⟩
      -- a port without records shows nothing that has been recorded
      have hport := (hshown ulPort hp).2
      rw [recorded_iff]
      intro k
      by_cases hn : x.ulFilterSize = 0#32
      · exact Or.inl hn
      · right
        have hpos : 0 < x.ulFilterSize.toNat :=
          Nat.pos_of_ne_zero fun h0 => hn (BitVec.eq_of_toNat_eq h0)
        have hmask := (hport k).1 0 hpos
        have hvalue := (hport k).2 0 hpos
        constructor
        · exact Option.isSome_map.symm.trans (congrArg Option.isSome hmask)
        · exact Option.isSome_map.symm.trans (congrArg Option.isSome hvalue)
    · right
      intro ulPort hp
      have hkept := (hports ulPort hp).2 fun hr => hidle hr.1
      rw [← hkept]
      exact hshown ulPort hp
  · rintro (⟨hidle, hrec⟩ | hshown) ulPort hp
    · exact (hports ulPort hp).1 ⟨hidle, hrec ulPort hp⟩
    · by_cases hready : x.isCaptureRunning = false ∧ x.records.Recorded ulPort
      · exact (hports ulPort hp).1 hready
      · change x.records.Shown ulPort (g ulPort)
        rw [(hports ulPort hp).2 hready]
        exact hshown ulPort hp

theorem open_gpios_shown {x : DeviceSession} {ulFilter : BitVec 32}
    (h : (x.netanaOpenDevice ulFilter).2 = netanaNoError) :
    x.records.GpiosShown (x.netanaOpenDevice ulFilter).1 := by
  obtain ⟨g, hg, -⟩ := netanaOpenDevice_spec h
  rw [hg]
  intro ulGpio hgpio
  exact if_pos hgpio

theorem netanaOpenDevice_records (x : DeviceSession) (ulFilter : BitVec 32) :
    (x.netanaOpenDevice ulFilter).1.records = x.records := by
  by_cases h : (x.netanaOpenDevice ulFilter).2 = netanaNoError
  · obtain ⟨g, hg, -⟩ := netanaOpenDevice_spec h
    rw [hg]
    rfl
  · unfold DeviceSession.netanaOpenDevice at h ⊢
    by_cases hclass : classSelected x.usDeviceClass ulFilter = true
    · rw [if_pos hclass] at h ⊢
      by_cases hopen : x.ulOpenCnt > 0#32
      · rw [if_pos hopen]
      · rw [if_neg hopen] at h
        exact absurd rfl h
    · rw [if_neg hclass]

theorem netanaStopCapture_records (x : DeviceSession) (w : CmdWaits) :
    (x.netanaStopCapture w).1.records = x.records := by
  unfold DeviceSession.netanaStopCapture
  split_ifs <;> rfl

theorem netanaCloseDevice_records (x : DeviceSession) :
    x.netanaCloseDevice.1.records = x.records := by
  unfold DeviceSession.netanaCloseDevice
  split_ifs <;> rfl

/-- No command of a session, and nothing that the firmware does, touches the records. -/
theorem deviceStep_records (x : DeviceSession) (a : DeviceAction) (y : DeviceSession)
    (h : deviceStep x a = some y) : y.records = x.records := by
  cases a with
  | openFile ulFilter =>
    cases h
    unfold DeviceSession.netanaOpen
    simp only
    split_ifs
    · rfl
    · exact netanaOpenDevice_records x ulFilter
    · exact netanaOpenDevice_records x ulFilter
  | release w =>
    obtain ⟨-, h⟩ := Option.ite_none_right_eq_some.mp h
    cases h
    exact (netanaCloseDevice_records _).trans (netanaStopCapture_records x w)
  | setFilter ulPort fA fB ulRelationShip =>
    obtain ⟨-, h⟩ := Option.ite_none_right_eq_some.mp h
    cases h
    obtain ⟨g, hg⟩ := netanaSetFilter_frame ulPort fA fB ulRelationShip x
    rw [hg]
    rfl
  | setGpioMode ulGpio tMode =>
    obtain ⟨-, h⟩ := Option.ite_none_right_eq_some.mp h
    cases h
    unfold DeviceSession.netanaSetGpioMode
    simp only
    split_ifs <;> rfl
  | setGpioOutput ulGpio ulLevel =>
    obtain ⟨-, h⟩ := Option.ite_none_right_eq_some.mp h
    cases h
    unfold DeviceSession.netanaSetGpioOutput
    simp only
    split_ifs <;> rfl
  | setGpioVoltage ulGpioSelMask ulGpioVoltageSel =>
    obtain ⟨-, h⟩ := Option.ite_none_right_eq_some.mp h
    cases h
    unfold DeviceSession.netanaSetGpioVoltage
    simp only
    split_ifs <;> rfl
  | startCapture c w =>
    obtain ⟨-, h⟩ := Option.ite_none_right_eq_some.mp h
    cases h
    unfold DeviceSession.netanaStartCapture
    simp only
    split_ifs <;> rfl
  | stopCapture w =>
    obtain ⟨-, h⟩ := Option.ite_none_right_eq_some.mp h
    cases h
    exact netanaStopCapture_records x w
  | firmware ulCaptureState =>
    cases h
    rfl

theorem session_run_records {x y : DeviceSession} {as : List DeviceAction}
    (h : StepRuns.run deviceStep x as = some y) : y.records = x.records := by
  have hstep : ∀ z a t, z.records = x.records → deviceStep z a = some t →
      t.records = x.records := fun z a t hz ht => (deviceStep_records z a t ht).trans hz
  exact StepRuns.run_invariant hstep rfl h

/-- What the configuration of a device looks like to the one who has opened it. -/
def SameConfiguration (x y : DeviceSession) : Prop :=
  (∀ ulPort fA fB, x.netanaGetFilter ulPort fA fB = y.netanaGetFilter ulPort fA fB) ∧
    (∀ ulGpio, x.netanaGetGpioMode ulGpio = y.netanaGetGpioMode ulGpio) ∧
    ∀ ulGpio, x.netanaGetGpioVoltage ulGpio = y.netanaGetGpioVoltage ulGpio

/-- Only the bytes up to the size of the filters are copied to a caller. -/
theorem FilterData.store_congr {n : BitVec 32} {m m' : FilterData}
    (hmask : ∀ i < n.toNat, m.pbMask i = m'.pbMask i)
    (hvalue : ∀ i < n.toNat, m.pbValue i = m'.pbValue i) (f : Option NetanaFilter) :
    m.store n f = m'.store n f := by
  cases f with
  | none => rfl
  | some f =>
    have hlen : ∀ i < (if f.ulFilterSize > n then n else f.ulFilterSize).toNat, i < n.toNat := by
      intro i hi
      by_cases hclip : f.ulFilterSize > n
      · rwa [if_pos hclip] at hi
      · rw [if_neg hclip] at hi
        rw [gt_iff_lt, BitVec.lt_def] at hclip
        omega
    unfold FilterData.store
    by_cases hsize : f.ulFilterSize > 0#32
    · cases hm : f.pbMask with
      | none => simp only [hm]
      | some pbMask =>
        cases hv : f.pbValue with
        | none => simp only [hm, hv]
        | some pbValue =>
          simp only [hm, hv,
            osMemcpy_congr pbMask fun i hi => hmask i (hlen i hi),
            osMemcpy_congr pbValue fun i hi => hvalue i (hlen i hi)]
    · simp only [if_neg hsize]

/-- Two devices with the same records that show them look the same. -/
theorem same_configuration {r : DeviceRecords} {x y : DeviceSession} (hx : x.records = r)
    (hy : y.records = r) (hfx : r.FiltersShown x) (hfy : r.FiltersShown y)
    (hgx : r.GpiosShown x) (hgy : r.GpiosShown y) : SameConfiguration x y := by
  have hport : x.ulPortCnt = r.ulPortCnt ∧ y.ulPortCnt = r.ulPortCnt :=
    ⟨congrArg (·.ulPortCnt) hx, congrArg (·.ulPortCnt) hy⟩
  have hgpio : x.ulGpioCnt = r.ulGpioCnt ∧ y.ulGpioCnt = r.ulGpioCnt :=
    ⟨congrArg (·.ulGpioCnt) hx, congrArg (·.ulGpioCnt) hy⟩
  have hsize : x.ulFilterSize = r.ulFilterSize ∧ y.ulFilterSize = r.ulFilterSize :=
    ⟨congrArg (·.ulFilterSize) hx, congrArg (·.ulFilterSize) hy⟩
  have hblock : ∀ ulGpio : BitVec 32, ulGpio < r.ulGpioCnt →
      x.aptGPIOs ulGpio.toNat = y.aptGPIOs ulGpio.toNat := fun ulGpio hlt =>
    (hgx _ (BitVec.lt_def.mp hlt)).trans (hgy _ (BitVec.lt_def.mp hlt)).symm
  refine ⟨fun ulPort fA fB => ?_, fun ulGpio => ?_, fun ulGpio => ?_⟩
  · unfold DeviceSession.netanaGetFilter
    rw [hport.1, hport.2, hsize.1, hsize.2]
    by_cases hlt : ulPort < r.ulPortCnt
    · rw [if_pos hlt, if_pos hlt]
      obtain ⟨hrx, hdx⟩ := hfx _ (BitVec.lt_def.mp hlt)
      obtain ⟨hry, hdy⟩ := hfy _ (BitVec.lt_def.mp hlt)
      have hstore : ∀ (k : Fin 2) (f : Option NetanaFilter),
          ((x.atFilters ulPort.toNat).atFilter k).store r.ulFilterSize f =
            ((y.atFilters ulPort.toNat).atFilter k).store r.ulFilterSize f := fun k =>
        FilterData.store_congr ((hdx k).1.agree (hdy k).1) ((hdx k).2.agree (hdy k).2)
      simp only [hstore, hrx, hry]
    · rw [if_neg hlt, if_neg hlt]
  · unfold DeviceSession.netanaGetGpioMode
    rw [hgpio.1, hgpio.2]
    by_cases hlt : ulGpio < r.ulGpioCnt
    · rw [if_pos hlt, if_pos hlt, hblock ulGpio hlt]
    · rw [if_neg hlt, if_neg hlt]
  · unfold DeviceSession.netanaGetGpioVoltage
    rw [hgpio.1, hgpio.2]
    by_cases hlt : ulGpio < r.ulGpioCnt
    · rw [if_neg (BitVec.not_le.mpr hlt), if_neg (BitVec.not_le.mpr hlt), hblock ulGpio hlt]
    · rw [if_pos (BitVec.not_lt.mp hlt), if_pos (BitVec.not_lt.mp hlt)]

/-- After any history of sessions since the device was added, opening it shows every recorded
default exactly if no capture runs and all defaults are there, or if the filters were at their
defaults anyway; and then nothing of the history can be told. -/
theorem open_isolates_sessions {x s : DeviceSession} {tDpm : DpmImage} {fAllocated : ℕ → Bool}
    {as : List DeviceAction} {ulFilter : BitVec 32}
    (hrun : StepRuns.run deviceStep (x.netanaTkitDeviceadd tDpm fAllocated) as = some s)
    (hopen : (s.netanaOpenDevice ulFilter).2 = netanaNoError) :
    let r := (x.netanaTkitDeviceadd tDpm fAllocated).records
    let t := (s.netanaOpenDevice ulFilter).1
    (r.FiltersShown t ∧ r.GpiosShown t ↔ s.CanReset ∨ r.FiltersShown s) ∧
      (s.CanReset ∨ r.FiltersShown s → ∀ (x' s' : DeviceSession) (as' : List DeviceAction)
        (ulFilter' : BitVec 32),
        StepRuns.run deviceStep (x'.netanaTkitDeviceadd tDpm fAllocated) as' = some s' →
        (s'.netanaOpenDevice ulFilter').2 = netanaNoError →
        s'.CanReset ∨ r.FiltersShown s' →
        SameConfiguration t (s'.netanaOpenDevice ulFilter').1) := by
  intro r t
  have hrec : s.records = r := session_run_records hrun
  have hfilters : r.FiltersShown t ↔ s.CanReset ∨ r.FiltersShown s := by
    rw [← hrec]
    exact open_filters_shown hopen
  have hgpios : r.GpiosShown t := by
    rw [← hrec]
    exact open_gpios_shown hopen
  refine ⟨?_, fun hcond x' s' as' ulFilter' hrun' hopen' hcond' => ?_⟩
  · rw [← hfilters]
    exact and_iff_left hgpios
  · have hrec' : s'.records = r := (session_run_records hrun').trans rfl
    have hfilters' := (open_filters_shown hopen').mpr (hrec'.symm ▸ hcond')
    have hgpios' := open_gpios_shown hopen'
    rw [hrec'] at hfilters' hgpios'
    apply same_configuration (r := r)
    · exact (netanaOpenDevice_records s ulFilter).trans hrec
    · exact (netanaOpenDevice_records s' ulFilter').trans hrec'
    · exact hfilters.mpr hcond
    · exact hfilters'
    · exact hgpios
    · exact hgpios'

/-- A card with four ports and four GPIOs whose filters let everything through. -/
def openCard : DpmImage :=
  { usDeviceClass := nanlDevClass
    ulPortCount := 4#32
    ulGPIOCount := 4#32
    ulFilterSize := 128#32
    ulGpioVoltage3VSupport := 0x0F#32
    ulGpioVoltage24VSupport := 0x0F#32
    ulCaptureState := captureStateOff
    atFilters := fun _ => ⟨0#32, fun _ => ⟨fun _ => 0#8, fun _ => 0#8⟩⟩
    atGpios := fun _ => ⟨0#32, gpioVoltage24V, ⟨0#32, 0#32, 0#32⟩⟩ }

def addedCard : DeviceSession :=
  DeviceSession.netanaTkitDeviceadd openCard (fun _ => true)
    { hdevice := false
      ulOpenCnt := 0#32
      ulPortCnt := 0#32
      ulGpioCnt := 0#32
      ulFilterSize := 0#32
      atDefaultFilter := fun _ _ => ⟨none, none⟩
      atDefaultGPIOs := fun _ => ⟨0#32, 0#32, ⟨0#32, 0#32, 0#32⟩⟩
      fDataCallback := false
      usDeviceClass := 0#16
      ulGpioVoltage3VSupport := 0#32
      ulGpioVoltage24VSupport := 0#32
      atFilters := fun _ => ⟨0#32, fun _ => ⟨fun _ => 0#8, fun _ => 0#8⟩⟩
      aptGPIOs := fun _ => ⟨0#32, 0#32, ⟨0#32, 0#32, 0#32⟩⟩
      ulCaptureState := captureStateOff
      tCaptureSetup := ⟨0#32, 0#32, 0#32⟩
      fHostStartStop := false }

/-- A session that sets a filter and a GPIO and starts a capture, up to its end. -/
def filteredSession (w : CmdWaits) (ulCaptureState : BitVec 32) : List DeviceAction :=
  [.openFile 0#32,
    .setFilter 0#32 (some ⟨128#32, some fun _ => 0xFF#8, some fun i => BitVec.ofNat 8 i⟩) none 1#32,
    .setGpioMode 1#32 ⟨gpioModeOutput, 0#32, 0#32⟩,
    .setGpioOutput 1#32 1#32,
    .startCapture ⟨0#32, 0x0F#32, 0#32⟩ ⟨true, true⟩,
    .firmware captureStateRunning,
    .release w,
    .firmware ulCaptureState]

/-- The next session after one that has been stopped in time, and the very first session. -/
theorem open_isolates_sessions_stopped :
    ∃ s, StepRuns.run deviceStep addedCard (filteredSession ⟨true, true⟩ captureStateOff) =
        some s ∧
      SameConfiguration (s.netanaOpenDevice 0#32).1 (addedCard.netanaOpenDevice 0#32).1 := by
  obtain ⟨s, hrun, hopen, hidle, hrec⟩ :
      ∃ s, StepRuns.run deviceStep addedCard (filteredSession ⟨true, true⟩ captureStateOff) =
          some s ∧ (s.netanaOpenDevice 0#32).2 = netanaNoError ∧ s.isCaptureRunning = false ∧
        s.records = addedCard.records := ⟨_, rfl, by rfl, by rfl, by rfl⟩
  have hall : ∀ ulPort, addedCard.records.Recorded ulPort := fun _ => Or.inr fun _ => ⟨rfl, rfl⟩
  have hreset : s.CanReset := ⟨hidle, fun ulPort _ => by rw [hrec]; exact hall ulPort⟩
  have hfirst : addedCard.CanReset := ⟨by rfl, fun ulPort _ => hall ulPort⟩
  exact ⟨s, hrun, (open_isolates_sessions hrun hopen).2 (Or.inl hreset) _ addedCard [] 0#32 rfl
    (by rfl) (Or.inl hfirst)⟩

/-- The process is killed while the DSR is blocked, so that the firmware's answer to the stop is
not seen in time, and the device is opened again before the capture has ended. -/
theorem open_keeps_filter :
    ¬ ∀ (x s : DeviceSession) (tDpm : DpmImage) (fAllocated : ℕ → Bool)
      (as : List DeviceAction) (ulFilter : BitVec 32),
      StepRuns.run deviceStep (x.netanaTkitDeviceadd tDpm fAllocated) as = some s →
      (s.netanaOpenDevice ulFilter).2 = netanaNoError →
      (x.netanaTkitDeviceadd tDpm fAllocated).records.FiltersShown (s.netanaOpenDevice ulFilter).1 ∧
        (x.netanaTkitDeviceadd tDpm fAllocated).records.GpiosShown
          (s.netanaOpenDevice ulFilter).1 := by
  intro h
  obtain ⟨s, hrun, hopen, hrel⟩ :
      ∃ s, StepRuns.run deviceStep addedCard
          (filteredSession ⟨true, false⟩ captureStateRunning) = some s ∧
        (s.netanaOpenDevice 0#32).2 = netanaNoError ∧
        ((s.netanaOpenDevice 0#32).1.atFilters 0).ulRelationShip = 1#32 :=
    ⟨_, rfl, by rfl, by rfl⟩
  have hshown := ((h _ s openCard (fun _ => true) _ 0#32 hrun hopen).1 0 (by decide)).1
  exact absurd (hrel.symm.trans hshown) (by decide)

end NetanaDriver
