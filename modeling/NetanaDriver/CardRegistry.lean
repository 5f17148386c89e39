import NetanaDriver.FormattedText
import NetanaDriver.SlotTable
import NetanaDriver.StepRuns

/-! The registry of devices: registration, un-registration, opening and releasing a device file
(netana.c), the ident update (netana_tk_interface.c), and the list of cards that the toolkit keeps
behind them (toolkit/netana_functions.c, toolkit/netana_toolkit.c). -/
namespace NetanaDriver

/-- The address of a `netana_tk_device`; memory that has been freed is never looked at again. -/
abbrev DevPtr := ℕ

def nanlDevClass : BitVec 16 := 0x10#16
def nscpDevClass : BitVec 16 := 0x31#16
def cifxDevClass : BitVec 16 := 0x03#16

def netanaDevClassNanl500 : BitVec 32 := 1#32
def netanaDevClassNscp100 : BitVec 32 := 2#32
def netanaDevClassCifx : BitVec 32 := 4#32

def pciSubdeviceIdC100 : BitVec 16 := 0x0012#16
def pciSubdeviceIdCifx : BitVec 16 := 0x0000#16

def netanaMaxDevicenamesize : ℕ := 64

def netanaMaxFilepath : ℕ := 256

def netanaNoError : BitVec 32 := 0#32
def netanaInvalidParameter : BitVec 32 := 0x80200001#32
def netanaOutOfMemory : BitVec 32 := 0x80200003#32
def netanaFunctionFailed : BitVec 32 := 0x80200004#32
def netanaInvalidHandle : BitVec 32 := 0x80200006#32
def netanaAccessDenied : BitVec 32 := 0x8020000B#32
def netanaHwresetError : BitVec 32 := 0x80210003#32
def netanaDeviceNotFound : BitVec 32 := 0x80220003#32
def netanaDeviceStillOpen : BitVec 32 := 0x80220004#32
def netanaDeviceNotOpen : BitVec 32 := 0x80220005#32
def netanaCaptureActive : BitVec 32 := 0x8022000B#32

def enomem : ℤ := 12
def ebusy : ℤ := 16
def enodev : ℤ := 19
def enospc : ℤ := 28

/-- What a device shows in the system information block of its DPM. -/
structure SystemInfoBlock where
  ulDPMUsedSize : BitVec 32
  ulDPMLayoutVersion : BitVec 32
  ulDeviceNr : BitVec 32
  ulSerialNr : BitVec 32
  ausHwOptions : List (BitVec 16)
  usManufacturer : BitVec 16
  usProductionDate : BitVec 16
  usDeviceClass : BitVec 16
  bHwRevision : BitVec 8
  bHwCompatibility : BitVec 8
  szFirmwareName : List (BitVec 8)
  ulVersionMajor : BitVec 32
  ulVersionMinor : BitVec 32
  ulVersionBuild : BitVec 32
  ulVersionRevision : BitVec 32
  ulPortCount : BitVec 32
  ulGPIOCount : BitVec 32
  ulFilterSize : BitVec 32
  ulCounterSize : BitVec 32
  deriving DecidableEq, Repr

/-- A device that is set up: the fields of `netana_tk_device` and of its device instance, and the
minor of the `netana_info` that it belongs to. -/
structure TkDevice where
  minor : ℕ
  hdevice : Option DevPtr
  addsucceded : Bool
  szDeviceName : List Char
  szAliasName : List Char
  usDeviceClass : BitVec 16
  ulDPMPhysicalAddress : BitVec 32
  ulDPMSize : BitVec 32
  ulInterruptNr : BitVec 32
  ulDevNo : ℕ
  ulOpenCnt : BitVec 32
  ulDeviceNr : BitVec 32
  ulSerialNr : BitVec 32
  ulPortCnt : BitVec 32
  ulGpioCnt : BitVec 32
  ulFilterSize : BitVec 32
  fIdentUpdateRequest : Bool
  lIdentError : BitVec 32
  -- in the DPM
  tSystemInfoBlock : SystemInfoBlock
  fCaptureRunning : Bool
  deriving DecidableEq, Repr

/-- What the `STAILQ` macros do to the list of cards. -/
inductive CardOp where
  | insertTail (p : DevPtr)
  | remove (p : DevPtr)
  deriving DecidableEq, Repr

/-- The global data of the driver and the toolkit. `openFiles` holds the device of every open
device file, and `nextPtr` is where the next device is allocated. -/
structure Registry where
  tCardList : List DevPtr
  ulCardCnt : BitVec 32
  netAnaIDR : SlotTable.Table DevPtr
  devices : DevPtr → TkDevice
  openFiles : List DevPtr
  moduleRefs : ℕ
  nextPtr : DevPtr
  -- history: the macros on the list of cards, the last one first
  cardOps : List CardOp

def Registry.set (s : Registry) (p : DevPtr) (d : TkDevice) : Registry :=
  { s with devices := Function.update s.devices p d }

/-- The device is registered. -/
def Registry.Registered (s : Registry) (p : DevPtr) : Prop :=
  SlotTable.find s.netAnaIDR (s.devices p).minor = some p

instance (s : Registry) (p : DevPtr) : Decidable (s.Registered p) :=
  inferInstanceAs (Decidable (_ = _))

/-- `strncmp(pszBuf1, pszBuf2, ulLen) == 0`, for strings without the terminating zero. -/
def osStrnicmpEqual (pszBuf1 pszBuf2 : List Char) (ulLen : ℕ) : Bool :=
  pszBuf1.take ulLen == pszBuf2.take ulLen

/-- `snprintf` of `"%s_%d"` into a buffer of `ulLen` characters. -/
def nameWithNumber (ulLen : ℕ) (szName : List Char) (n : ℕ) : List Char :=
  (szName ++ '_' :: FormattedText.printNat 10 n).take (ulLen - 1)

/-- The name that `netana_registerdevice` prepares for a device, by the PCI subsystem. -/
def deviceName (subsystemDevice : Option (BitVec 16)) (minor : ℕ) : List Char :=
  nameWithNumber netanaMaxDevicenamesize
    (if subsystemDevice = some pciSubdeviceIdC100 then "netSCOPE".toList
    else if subsystemDevice = some pciSubdeviceIdCifx then "cifXANALYZER".toList
    else "netANALYZER".toList) minor

/-- The alias that `netana_tkit_deviceadd` makes, by the class that the device has reported. -/
def aliasName (usDeviceClass : BitVec 16) (ulDevNo : ℕ) : List Char :=
  nameWithNumber netanaMaxDevicenamesize
    (if usDeviceClass = nscpDevClass then "netSCOPE".toList
    else if usDeviceClass = nanlDevClass then "netANALYZER".toList
    else "cifXANALYZER".toList) ulDevNo

/-- The device's class is one that the calling process has chosen, or the default. -/
def classSelected (usDeviceClass : BitVec 16) (ulFilter : BitVec 32) : Bool :=
  let ulFilter := if ulFilter = 0#32 then netanaDevClassNanl500 else ulFilter
  if usDeviceClass = nanlDevClass then
    netanaDevClassNanl500 == (netanaDevClassNanl500 &&& ulFilter)
  else if usDeviceClass = nscpDevClass then
    netanaDevClassNscp100 == (netanaDevClassNscp100 &&& ulFilter)
  else if usDeviceClass = cifxDevClass then
    netanaDevClassCifx == (netanaDevClassCifx &&& ulFilter)
  else false

/-- How `netana_tkit_deviceadd` gets on before it puts the device on the list: what it returns,
the class and the system information that the device reports, and whether it captures. -/
structure AddChoice where
  lRet : BitVec 32
  usDeviceClass : BitVec 16
  lErrorIdentUpdate : BitVec 32
  tSystemInfoBlock : SystemInfoBlock
  fCaptureRunning : Bool
  deriving DecidableEq, Repr

/-- The device after its part of `netana_tkit_deviceadd`. -/
def TkDevice.added (d : TkDevice) (ulDevNo : ℕ) (c : AddChoice) : TkDevice :=
  let d := { d with
    usDeviceClass := c.usDeviceClass
    lIdentError := c.lErrorIdentUpdate
    tSystemInfoBlock := c.tSystemInfoBlock
    fCaptureRunning := c.fCaptureRunning }
  if c.lRet = netanaNoError then
    { d with
      ulDeviceNr := c.tSystemInfoBlock.ulDeviceNr
      ulSerialNr := c.tSystemInfoBlock.ulSerialNr
      ulGpioCnt := c.tSystemInfoBlock.ulGPIOCount
      ulPortCnt := c.tSystemInfoBlock.ulPortCount
      ulFilterSize := c.tSystemInfoBlock.ulFilterSize
      szAliasName := aliasName c.usDeviceClass ulDevNo
      ulDevNo := ulDevNo }
  else d

/-- `netana_tkit_deviceadd`. -/
def netanaTkitDeviceadd (p : DevPtr) (ulDevNo : ℕ) (c : AddChoice) (s : Registry) :
    Registry × BitVec 32 :=
  let s := s.set p ((s.devices p).added ulDevNo c)
  if c.lRet = netanaNoError then
    ({ s with
        tCardList := s.tCardList ++ [p]
        ulCardCnt := s.ulCardCnt + 1#32
        cardOps := .insertTail p :: s.cardOps }, c.lRet)
  else (s, c.lRet)

/-- `netana_tkit_deviceremove`; `fAcknowledged` says whether the firmware answers in time. -/
def netanaTkitDeviceremove (p : DevPtr) (fForceRemove fAcknowledged : Bool) (s : Registry) :
    Registry × BitVec 32 :=
  if (s.devices p).ulOpenCnt > 0#32 ∧ fForceRemove = false then (s, netanaDeviceStillOpen)
  else
    ({ s with
        tCardList := s.tCardList.erase p
        ulCardCnt := s.ulCardCnt - 1#32
        cardOps := .remove p :: s.cardOps },
      if fAcknowledged then netanaNoError else netanaFunctionFailed)

/-- `netana_open_device`, with the handle. What it does to the filters and the GPIOs of the device
is in another part of the model. -/
def netanaOpenDevice (ulFilter : BitVec 32) (szDevice : List Char) (s : Registry) :
    Registry × Except (BitVec 32) DevPtr :=
  match s.tCardList.find? fun p =>
      osStrnicmpEqual szDevice (s.devices p).szAliasName netanaMaxDevicenamesize with
  | none => (s, .error netanaDeviceNotFound)
  | some p =>
    let d := s.devices p
    if classSelected d.tSystemInfoBlock.usDeviceClass ulFilter then
      if d.ulOpenCnt > 0#32 then (s, .error netanaDeviceStillOpen)
      else (s.set p { d with ulOpenCnt := d.ulOpenCnt + 1#32 }, .ok p)
    else (s, .error netanaAccessDenied)

/-- `netana_close_device`. -/
def netanaCloseDevice (hDev : Option DevPtr) (s : Registry) : Registry × BitVec 32 :=
  match hDev with
  | none => (s, netanaInvalidParameter)
  | some p =>
    let d := s.devices p
    if d.ulOpenCnt > 0#32 then
      (s.set p { d with ulOpenCnt := d.ulOpenCnt - 1#32 }, netanaNoError)
    else (s, netanaDeviceNotOpen)

/-- `netana_restart_device`. -/
def netanaRestartDevice (p : DevPtr) (fAcknowledged : Bool) (c : AddChoice) (s : Registry) :
    Registry × BitVec 32 :=
  if (s.devices p).fCaptureRunning then (s, netanaCaptureActive)
  else
    let r := netanaTkitDeviceremove p true fAcknowledged s
    let r :=
      if r.2 = netanaNoError then netanaTkitDeviceadd p (r.1.devices p).ulDevNo c r.1 else r
    if r.2 = netanaNoError then r else ((netanaCloseDevice (some p) r.1).1, r.2)

/-- `netana_set_device_ident`, with a file name. -/
def netanaSetDeviceIdent (p : DevPtr) (s : Registry) : Registry × BitVec 32 :=
  let d := s.devices p
  if d.fCaptureRunning then (s, netanaCaptureActive)
  else (s.set p { d with lIdentError := netanaNoError, fIdentUpdateRequest := true }, netanaNoError)

/-- Whether `netana_ident_update` gets its buffer and reads a file name, and how the restart
gets on. -/
structure IdentChoice where
  fAllocated : Bool
  fNameRead : Bool
  fAcknowledged : Bool
  add : AddChoice
  deriving DecidableEq, Repr

/-- `netana_ident_update`, with the error that it stores for the process, if there is one. -/
def netanaIdentUpdate (p : DevPtr) (c : IdentChoice) (s : Registry) :
    Registry × Option (BitVec 32) :=
  if (s.devices p).hdevice = none then (s, some netanaInvalidHandle)
  else if c.fAllocated = false then (s, some netanaOutOfMemory)
  else if c.fNameRead = false then (s, some netanaInvalidParameter)
  else
    let r := netanaSetDeviceIdent p s
    if r.2 = netanaNoError then
      let r := netanaRestartDevice p c.fAcknowledged c.add r.1
      if r.2 = netanaNoError then
        let lError := (r.1.devices p).lIdentError
        (r.1, if lError = netanaNoError then none else some lError)
      else
        (r.1.set p { r.1.devices p with addsucceded := false, hdevice := none },
          some netanaHwresetError)
    else (r.1, some r.2)

/-- `netana_open` of the device node with the given minor, by a process with the given class
filter. -/
def Registry.netanaOpen (ulFilter : BitVec 32) (minor : ℕ) (s : Registry) : Registry × ℤ :=
  let s := { s with moduleRefs := s.moduleRefs + 1 }
  let r :=
    match SlotTable.find s.netAnaIDR minor with
    | none => (s, -enodev)
    | some p =>
      if (s.devices p).addsucceded then
        if (s.devices p).hdevice.isSome then (s, -ebusy)
        else
          match netanaOpenDevice ulFilter (s.devices p).szDeviceName s with
          | (s, .ok hDev) =>
            ({ s.set p { s.devices p with hdevice := some hDev } with
                openFiles := p :: s.openFiles }, 0)
          | (s, .error _) => (s.set p { s.devices p with hdevice := none }, -enodev)
      else (s, -enodev)
  if r.2 ≠ 0 then ({ r.1 with moduleRefs := r.1.moduleRefs - 1 }, r.2) else r

/-- `netana_release` of a file of device `p`; stopping the capture does not touch the registry. -/
def Registry.netanaRelease (p : DevPtr) (s : Registry) : Registry :=
  let s := (netanaCloseDevice (s.devices p).hdevice s).1
  { s.set p { s.devices p with hdevice := none } with
    openFiles := s.openFiles.erase p
    moduleRefs := s.moduleRefs - 1 }

/-- What `netana_registerdevice` finds, and which of its steps succeed. -/
structure RegisterChoice where
  subsystemDevice : Option (BitVec 16)
  deviceclass : BitVec 16
  dpmAddr : BitVec 32
  dpmSize : BitVec 32
  irq : BitVec 32
  fClassReady : Bool
  fTkdeviceAllocated : Bool
  fIdrAllocated : Bool
  fDeviceCreated : Bool
  fDmaCreated : Bool
  fDsrThreadStarted : Bool
  add : AddChoice
  fSysfsCreated : Bool
  fAcknowledged : Bool
  deriving DecidableEq, Repr

/-- A `netana_tk_device` that is zero but for what registration fills in. -/
def RegisterChoice.device (c : RegisterChoice) (minor : ℕ) : TkDevice :=
  { minor := minor
    hdevice := none
    addsucceded := false
    szDeviceName := deviceName c.subsystemDevice minor
    szAliasName := []
    usDeviceClass := c.deviceclass
    ulDPMPhysicalAddress := c.dpmAddr
    ulDPMSize := c.dpmSize
    ulInterruptNr := c.irq
    ulDevNo := 0
    ulOpenCnt := 0#32
    ulDeviceNr := 0#32
    ulSerialNr := 0#32
    ulPortCnt := 0#32
    ulGpioCnt := 0#32
    ulFilterSize := 0#32
    fIdentUpdateRequest := false
    lIdentError := netanaNoError
    tSystemInfoBlock := c.add.tSystemInfoBlock
    fCaptureRunning := c.add.fCaptureRunning }

/-- `netana_getminor` takes the lowest free minor, up to the largest `int`. -/
def minorLimit : ℕ := 2 ^ 31

/-- `netana_registerdevice`. A registration that fails leaves the memory that it has used behind
as freed. -/
def netanaRegisterdevice (c : RegisterChoice) (s : Registry) : Registry × ℤ :=
  if c.fClassReady = false then (s, -enomem)
  else if c.fTkdeviceAllocated = false then (s, -enomem)
  else
    let p := s.nextPtr
    let s := { s with nextPtr := s.nextPtr + 1 }
    if c.fIdrAllocated = false then (s, -enomem)
    else
      match SlotTable.alloc minorLimit s.netAnaIDR p with
      | none => (s, -enospc)
      | some (idr, minor) =>
        let s := { s.set p (c.device minor) with netAnaIDR := idr }
        let freeminor (s : Registry) : Registry :=
          { s with netAnaIDR := SlotTable.remove s.netAnaIDR minor }
        if c.fDeviceCreated = false then (freeminor s, 1)
        else if c.fDmaCreated = false then (freeminor s, -enomem)
        else if c.fDsrThreadStarted = false then (freeminor s, -enomem)
        else
          let r := netanaTkitDeviceadd p minor c.add s
          if r.2 = netanaNoError then
            if c.fSysfsCreated then
              (r.1.set p { r.1.devices p with addsucceded := true }, 0)
            else (freeminor (netanaTkitDeviceremove p true c.fAcknowledged r.1).1, -enomem)
          else (freeminor r.1, r.2.toInt)

/-- `netana_unregisterdevice`. -/
def netanaUnregisterdevice (p : DevPtr) (fAcknowledged : Bool) (s : Registry) : Registry :=
  let s :=
    if (s.devices p).addsucceded then (netanaTkitDeviceremove p true fAcknowledged s).1 else s
  { s with netAnaIDR := SlotTable.remove s.netAnaIDR (s.devices p).minor }

inductive RegistryAction where
  | register (c : RegisterChoice)
  | unregister (p : DevPtr) (fAcknowledged : Bool)
  | openFile (ulFilter : BitVec 32) (minor : ℕ)
  | release (p : DevPtr)
  | identUpdate (p : DevPtr) (c : IdentChoice)
  -- the firmware starts or ends a capture
  | capture (p : DevPtr) (fCaptureRunning : Bool)
  deriving DecidableEq

/-- Only registered devices have a node, files and entries in sysfs. -/
def registryStep (s : Registry) : RegistryAction → Option Registry
  | .register c => some (netanaRegisterdevice c s).1
  | .unregister p fAcknowledged =>
    if s.Registered p then some (netanaUnregisterdevice p fAcknowledged s) else none
  | .openFile ulFilter minor => some (s.netanaOpen ulFilter minor).1
  | .release p => if s.Registered p ∧ p ∈ s.openFiles then some (s.netanaRelease p) else none
  | .identUpdate p c => if s.Registered p then some (netanaIdentUpdate p c s).1 else none
  | .capture p fCaptureRunning =>
    if s.Registered p then
      some (s.set p { s.devices p with fCaptureRunning := fCaptureRunning })
    else none

/-- After `netana_tkit_init`. -/
def Registry.init (d : TkDevice) : Registry :=
  { tCardList := []
    ulCardCnt := 0#32
    netAnaIDR := []
    devices := fun _ => d
    openFiles := []
    moduleRefs := 0
    nextPtr := 0
    cardOps := [] }

/-- What a card with four ports shows in its DPM. -/
def cardInfo : SystemInfoBlock :=
  { ulDPMUsedSize := 0x8000#32
    ulDPMLayoutVersion := 1#32
    ulDeviceNr := 7310100#32
    ulSerialNr := 20000#32
    ausHwOptions := [0x50#16, 0x50#16, 0x50#16, 0x50#16]
    usManufacturer := 1#16
    usProductionDate := 0x1234#16
    usDeviceClass := nanlDevClass
    bHwRevision := 3#8
    bHwCompatibility := 0#8
    szFirmwareName := []
    ulVersionMajor := 2#32
    ulVersionMinor := 1#32
    ulVersionBuild := 0#32
    ulVersionRevision := 0#32
    ulPortCount := 4#32
    ulGPIOCount := 4#32
    ulFilterSize := 128#32
    ulCounterSize := 64#32 }

def cardAdded : AddChoice :=
  { lRet := netanaNoError
    usDeviceClass := nanlDevClass
    lErrorIdentUpdate := netanaNoError
    tSystemInfoBlock := cardInfo
    fCaptureRunning := false }

/-- A registration in which every step succeeds. -/
def cardRegistered : RegisterChoice :=
  { subsystemDevice := some 0x0010#16
    deviceclass := 0#16
    dpmAddr := 0xf0000000#32
    dpmSize := 0x10000#32
    irq := 17#32
    fClassReady := true
    fTkdeviceAllocated := true
    fIdrAllocated := true
    fDeviceCreated := true
    fDmaCreated := true
    fDsrThreadStarted := true
    add := cardAdded
    fSysfsCreated := true
    fAcknowledged := true }

/-- An ident update with a restart that succeeds. -/
def cardRestarted : IdentChoice :=
  { fAllocated := true, fNameRead := true, fAcknowledged := true, add := cardAdded }

end NetanaDriver
