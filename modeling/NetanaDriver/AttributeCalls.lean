import NetanaDriver.DeviceSession
import NetanaDriver.TaskMaps
import NetanaDriver.TextProtocol

/-! The calls of the library (libnetana/netana_functions.c) that reach the toolkit through the
attribute files of a device (netana_tk_interface.c), for the filters, the GPIOs and the PI
controller. -/
namespace NetanaDriver
open FormattedText

def netanaIoctlFailed : BitVec 32 := 0x80220001#32

/-- What one write or read of an attribute file can carry. -/
def pageSize : ℕ := 4096

section BinaryFile

variable {σ : Type*}

/-- How much of the next `n` bytes a file of `fileSize` bytes takes or gives at `off`; a file of
size zero has no end. -/
def pieceSize (fileSize off n : ℕ) : ℕ :=
  min (min n pageSize) (if fileSize = 0 then n else fileSize - off)

/-- `fwrite` without a buffer: the pieces are stored one by one, up to the first that is not taken.
The number of bytes that have been written. -/
def fwritePieces (store : ByteArea → ℕ → σ → σ × Bool) (fileSize : ℕ) (buf : ByteArea) :
    ℕ → ℕ → ℕ → σ → σ × ℕ
  | 0, _, off, s => (s, off)
  | fuel + 1, n, off, s =>
    if pieceSize fileSize off n = 0 then (s, off)
    else
      let r := store (fun i => buf (off + i)) (pieceSize fileSize off n) s
      if r.2 then
        fwritePieces store fileSize buf fuel (n - pieceSize fileSize off n)
          (off + pieceSize fileSize off n) r.1
      else (r.1, off)

def fwriteBin (store : ByteArea → ℕ → σ → σ × Bool) (fileSize : ℕ) (buf : ByteArea) (n : ℕ)
    (s : σ) : σ × ℕ :=
  fwritePieces store fileSize buf n n 0 s

/-- `fread` without a buffer, with the bytes of the caller. -/
def freadPieces (load : ℕ → σ → σ × Option ByteArea) (fileSize : ℕ) :
    ℕ → ℕ → ℕ → ByteArea → σ → σ × ℕ × ByteArea
  | 0, _, off, buf, s => (s, off, buf)
  | fuel + 1, n, off, buf, s =>
    let count := pieceSize fileSize off n
    if count = 0 then (s, off, buf)
    else
      match load count s with
      | (s, none) => (s, off, buf)
      | (s, some b) =>
        freadPieces load fileSize fuel (n - count) (off + count)
          (fun i => if off ≤ i ∧ i < off + count then b (i - off) else buf i) s

def freadBin (load : ℕ → σ → σ × Option ByteArea) (fileSize : ℕ) (n : ℕ) (buf : ByteArea)
    (s : σ) : σ × ℕ × ByteArea :=
  freadPieces load fileSize n n 0 buf s

end BinaryFile

/-- The binary attributes of a filter node. -/
inductive FilterAttr where
  | vala
  | maska
  | valb
  | maskb
  deriving DecidableEq, Repr

def FilterAttr.isMask : FilterAttr → Bool
  | .maska | .maskb => true
  | .vala | .valb => false

def FilterAttr.isA : FilterAttr → Bool
  | .maska | .vala => true
  | .maskb | .valb => false

/-- The words of the PI controller in the host control block. -/
structure PiController where
  ulResyncP : BitVec 32
  ulResyncI : BitVec 32
  deriving DecidableEq, Repr

/-- What the toolkit works on: a device and its PI controller. -/
structure ToolkitDevice where
  session : DeviceSession
  tPi : PiController

/-- The nodes that there are, and the size that the binary attributes of a filter node have. -/
structure AttrNodes where
  filterNodes : ℕ
  gpioNodes : ℕ
  filterFileSize : ℕ
  deriving DecidableEq, Repr

/-- A device with its attributes: the four buffers that the filter nodes of all ports share, the
errors of the threads, and the nodes. -/
structure AttrDevice where
  device : ToolkitDevice
  tmpFilter : FilterAttr → ByteArea
  actTaskList : List TaskInfo
  nodes : AttrNodes

/-- The thread that makes a call, and whether the driver gets the memory that it asks for in it. -/
structure CallingThread where
  pid : ℕ
  fAllocated : Bool
  deriving DecidableEq, Repr

namespace AttrDevice

/-- `store_err`, where the access fails. -/
def fail (t : CallingThread) (lerror : BitVec 32) (s : AttrDevice) : AttrDevice :=
  { s with actTaskList := storeErr t.fAllocated t.pid lerror s.actTaskList }

/-- A toolkit function has been called for an attribute. -/
def finish (t : CallingThread) (r : ToolkitDevice × BitVec 32) (s : AttrDevice) :
    AttrDevice × Bool :=
  let s := { s with device := r.1 }
  if r.2 = netanaNoError then (s, true) else (s.fail t r.2, false)

def withSession (s : AttrDevice) (r : DeviceSession × BitVec 32) : ToolkitDevice × BitVec 32 :=
  ({ s.device with session := r.1 }, r.2)

/-- `store_filter`; where in the file the bytes go is not looked at. -/
def storeFilter (t : CallingThread) (attr : FilterAttr) (buf : ByteArea) (count : ℕ)
    (s : AttrDevice) : AttrDevice × Bool :=
  if s.device.session.hdevice = false then (s.fail t netanaInvalidHandle, false)
  else if count = 0 ∨ count > s.device.session.ulFilterSize.toNat then
    (s.fail t netanaInvalidBuffersize, false)
  else
    let cleared := osMemset (s.tmpFilter attr) 0#8 s.device.session.ulFilterSize
    ({ s with
        tmpFilter := Function.update s.tmpFilter attr
          (osMemcpy cleared buf (BitVec.ofNat 32 count)) }, true)

/-- `show_filter`; where in the file the bytes come from is not looked at either. -/
def showFilter (t : CallingThread) (objnum : ℕ) (attr : FilterAttr) (_count : ℕ) (s : AttrDevice) :
    AttrDevice × Option ByteArea :=
  let x := s.device.session
  if x.hdevice = false then (s.fail t netanaInvalidHandle, none)
  else
    let pb : Option ByteArea := if t.fAllocated then some fun _ => 0#8 else none
    let tfilter : NetanaFilter := ⟨x.ulFilterSize, pb, pb⟩
    let r := x.netanaGetFilter (BitVec.ofNat 32 objnum) (if attr.isA then some tfilter else none)
      (if attr.isA then none else some tfilter)
    if r.lRet = netanaNoError then
      let f := if attr.isA then r.ptFilterA else r.ptFilterB
      (s, f.bind fun f => if attr.isMask then f.pbMask else f.pbValue)
    else (s.fail t r.lRet, none)

/-- `set_filter`, the write of the relation. -/
def setFilter (t : CallingThread) (objnum : ℕ) (buf : List Char) (s : AttrDevice) :
    AttrDevice × Bool :=
  if s.device.session.hdevice = false then (s.fail t netanaInvalidHandle, false)
  else
    match NetanaDriver.setFilter buf with
    | some (ulrelationship, ulFilterSizeA, ulFilterSizeB) =>
      s.finish t (s.withSession (s.device.session.netanaSetFilter (BitVec.ofNat 32 objnum)
        (some ⟨ulFilterSizeA, some (s.tmpFilter .maska), some (s.tmpFilter .vala)⟩)
        (some ⟨ulFilterSizeB, some (s.tmpFilter .maskb), some (s.tmpFilter .valb)⟩)
        ulrelationship))
    | none => (s, true)

/-- `get_relation`. -/
def getRelation (t : CallingThread) (objnum : ℕ) (s : AttrDevice) :
    AttrDevice × Option (List Char) :=
  let x := s.device.session
  if x.hdevice = false then (s.fail t netanaInvalidHandle, none)
  else
    let r := x.netanaGetFilter (BitVec.ofNat 32 objnum)
      (some ⟨0#32, some (s.tmpFilter .maska), some (s.tmpFilter .vala)⟩)
      (some ⟨0#32, some (s.tmpFilter .maskb), some (s.tmpFilter .valb)⟩)
    if r.lRet = netanaNoError then
      (s, r.pulRelationShip.map fun ulrelationship =>
        NetanaDriver.getRelation ulrelationship x.ulFilterSize)
    else (s.fail t r.lRet, none)

/-- `netana_store_gpio_mode`. -/
def netanaStoreGpioMode (t : CallingThread) (objnum : ℕ) (buf : List Char) (s : AttrDevice) :
    AttrDevice × Bool :=
  if s.device.session.hdevice = false then (s.fail t netanaInvalidHandle, false)
  else
    match NetanaDriver.netanaStoreGpioMode buf with
    | some (ulMode, ulCaptureTriggers, ulEndDelay) =>
      s.finish t (s.withSession (s.device.session.netanaSetGpioMode (BitVec.ofNat 32 objnum)
        ⟨ulMode, ulCaptureTriggers, ulEndDelay⟩))
    | none => (s, true)

/-- `netana_gpio_get_reg_val`. -/
def netanaGpioGetRegVal (t : CallingThread) (objnum : ℕ) (s : AttrDevice) :
    AttrDevice × Option (List Char) :=
  if s.device.session.hdevice = false then (s.fail t netanaInvalidHandle, none)
  else
    match s.device.session.netanaGetGpioMode (BitVec.ofNat 32 objnum) with
    | (_, some tmode) =>
      (s, some (NetanaDriver.netanaGpioGetRegVal tmode.ulMode tmode.ulData0 tmode.ulData1))
    | (netana_error, none) => (s.fail t netana_error, none)

/-- `netana_store_gpio_level`. -/
def netanaStoreGpioLevel (t : CallingThread) (objnum : ℕ) (buf : List Char) (s : AttrDevice) :
    AttrDevice × Bool :=
  if s.device.session.hdevice = false then (s.fail t netanaInvalidHandle, false)
  else
    match scanf (format "%d") buf with
    | [.w32 ullevel] =>
      s.finish t (s.withSession
        (s.device.session.netanaSetGpioOutput (BitVec.ofNat 32 objnum) ullevel))
    | _ => (s, true)

/-- `netana_set_gpiovoltage`. -/
def netanaSetGpiovoltage (t : CallingThread) (buf : List Char) (s : AttrDevice) :
    AttrDevice × Bool :=
  if s.device.session.hdevice = false then (s.fail t netanaInvalidHandle, false)
  else
    match scanf (format "%d %d") buf with
    | [.w32 ulGpioSelMask, .w32 ulVoltage] =>
      if ulVoltage = 0#32 ∨ ulVoltage = 1#32 then
        s.finish t (s.withSession
          (s.device.session.netanaSetGpioVoltage ulGpioSelMask ulVoltage))
      else (s.fail t netanaInvalidParameter, false)
    | _ => (s.fail t netanaInvalidParameter, false)

/-- `netana_get_gpiovoltage`. -/
def netanaGetGpiovoltage (t : CallingThread) (objnum : ℕ) (s : AttrDevice) :
    AttrDevice × Option (List Char) :=
  if s.device.session.hdevice = false then (s.fail t netanaInvalidHandle, none)
  else
    match s.device.session.netanaGetGpioVoltage (BitVec.ofNat 32 objnum) with
    | (_, some ulGpioVoltageSel) => (s, some (printf (format "%d\n") [.w32 ulGpioVoltageSel]))
    | (netana_error, none) => (s.fail t netana_error, none)

end AttrDevice

/-- `netana_config_pi_controller` of the toolkit. -/
def ToolkitDevice.netanaConfigPiController (ulP ulI : BitVec 32) (x : ToolkitDevice) :
    ToolkitDevice × BitVec 32 :=
  ({ x with tPi := ⟨ulP, ulI⟩ }, netanaNoError)

namespace AttrDevice

/-- `netana_pi_config`. -/
def netanaPiConfig (t : CallingThread) (buf : List Char) (s : AttrDevice) : AttrDevice × Bool :=
  if s.device.session.hdevice = false then (s.fail t netanaInvalidHandle, false)
  else
    match scanf (format "%d %d") buf with
    | [.w32 ulp, .w32 uli] => s.finish t (s.device.netanaConfigPiController ulp uli)
    | _ => (s.fail t netanaInvalidParameter, false)

/-- `netana_get_last_error`. -/
def netanaGetLastError (t : CallingThread) (s : AttrDevice) : List Char :=
  printf (format "0x%X\n") [.w32 (getErr t.pid s.actTaskList)]

/-- `get_error` of the library. -/
def getError (t : CallingThread) (s : AttrDevice) : BitVec 32 :=
  match scanf (format "%X") (s.netanaGetLastError t) with
  | [.w32 lRet] => lRet
  | _ => netanaFunctionFailed

/-- How the library ends after a write to a text attribute. -/
def written (t : CallingThread) (r : AttrDevice × Bool) : AttrDevice × BitVec 32 :=
  (r.1, if r.2 then netanaNoError else r.1.getError t)

end AttrDevice

/-- There is a directory of this number, printed with `%d`, among the first `n`. -/
def hasNode (n : ℕ) (ulNo : BitVec 32) : Bool := decide (0 ≤ ulNo.toInt ∧ ulNo.toInt < (n : ℤ))

/-- There is something to copy and no pointer for it. -/
def lacksPointer (ptFilter : Option NetanaFilter) : Bool :=
  match ptFilter with
  | none => false
  | some f => decide (f.ulFilterSize > 0#32) && (f.pbMask.isNone || f.pbValue.isNone)

/-- `ulFilterSizeA` and `ulFilterSizeB` of `netana_set_filter`. -/
def filterSize (ptFilter : Option NetanaFilter) : BitVec 32 :=
  match ptFilter with
  | none => 0#32
  | some f => f.ulFilterSize

namespace AttrDevice

/-- Behind `check_size` in `netana_set_filter`: the file has been too short, or there is an error of
the driver. -/
def checkSize (t : CallingThread) (ulSize : BitVec 32) (s : AttrDevice) : BitVec 32 :=
  if ulSize.toNat > s.nodes.filterFileSize then netanaInvalidBuffersize else s.getError t

/-- `netana_set_filter` writes the mask and the value of a filter. With `some lRet` the call
ends. -/
def writeFilter (t : CallingThread) (ulPort : BitVec 32) (mask val : FilterAttr)
    (ptFilter : Option NetanaFilter) (s : AttrDevice) : AttrDevice × Option (BitVec 32) :=
  match ptFilter with
  | some ⟨ulFilterSize, some pbMask, some pbValue⟩ =>
    if ulFilterSize > 0#32 then
      -- `lRet` still says that there is no error
      if hasNode s.nodes.filterNodes ulPort = false then (s, some netanaNoError)
      else
        let r := fwriteBin (storeFilter t mask) s.nodes.filterFileSize pbMask ulFilterSize.toNat s
        if r.2 ≠ ulFilterSize.toNat then (r.1, some (r.1.checkSize t ulFilterSize))
        else
          let r :=
            fwriteBin (storeFilter t val) s.nodes.filterFileSize pbValue ulFilterSize.toNat r.1
          if r.2 ≠ ulFilterSize.toNat then (r.1, some (r.1.checkSize t ulFilterSize))
          else (r.1, none)
    else (s, none)
  | _ => (s, none)

/-- `netana_set_filter` of the library; `fCapture` is what it believes of the capture. -/
def netanaSetFilter (t : CallingThread) (fCapture : Bool) (ulPort : BitVec 32)
    (ptFilterA ptFilterB : Option NetanaFilter) (ulRelationShip : BitVec 32) (s : AttrDevice) :
    AttrDevice × BitVec 32 :=
  if fCapture then (s, netanaCaptureActive)
  else if lacksPointer ptFilterA then (s, netanaInvalidParameter)
  else if lacksPointer ptFilterB then (s, netanaInvalidParameter)
  else
    match s.writeFilter t ulPort .maska .vala ptFilterA with
    | (s, some lRet) => (s, lRet)
    | (s, none) =>
      match s.writeFilter t ulPort .maskb .valb ptFilterB with
      | (s, some lRet) => (s, lRet)
      | (s, none) =>
        if hasNode s.nodes.filterNodes ulPort = false then (s, netanaInvalidParameter)
        else
          written t (s.setFilter t ulPort.toNat
            (netanaSetFilterText ulRelationShip (filterSize ptFilterA) (filterSize ptFilterB)))

/-- `netana_get_filter` reads the mask and the value of a filter. -/
def readFilter (t : CallingThread) (ulPort : BitVec 32) (mask val : FilterAttr)
    (ulFilterSize : BitVec 32) (ptFilter : Option NetanaFilter) (s : AttrDevice) :
    AttrDevice × Option NetanaFilter × Option (BitVec 32) :=
  match ptFilter with
  | none => (s, none, none)
  | some f =>
    let ulLen := if f.ulFilterSize > ulFilterSize then ulFilterSize else f.ulFilterSize
    let f := { f with ulFilterSize := ulLen }
    match f.pbMask, f.pbValue with
    | some pbMask, some pbValue =>
      let r := freadBin (showFilter t ulPort.toNat mask) s.nodes.filterFileSize ulLen.toNat pbMask s
      let f := { f with pbMask := some r.2.2 }
      if r.2.1 ≠ ulLen.toNat then (r.1, some f, some (r.1.getError t))
      else
        let r :=
          freadBin (showFilter t ulPort.toNat val) s.nodes.filterFileSize ulLen.toNat pbValue r.1
        let f := { f with pbValue := some r.2.2 }
        if r.2.1 ≠ ulLen.toNat then (r.1, some f, some (r.1.getError t)) else (r.1, some f, none)
    -- without a pointer there is nothing to read
    | _, _ => (s, some f, none)

/-- `netana_get_filter` of the library. The relation is not told where it has not been read. -/
def netanaGetFilter (t : CallingThread) (ulPort : BitVec 32)
    (ptFilterA ptFilterB : Option NetanaFilter) (s : AttrDevice) : AttrDevice × FilterReply :=
  if lacksPointer ptFilterA then (s, ⟨netanaInvalidParameter, none, ptFilterA, ptFilterB⟩)
  else if lacksPointer ptFilterB then (s, ⟨netanaInvalidParameter, none, ptFilterA, ptFilterB⟩)
  else if hasNode s.nodes.filterNodes ulPort = false then
    (s, ⟨netanaInvalidParameter, none, ptFilterA, ptFilterB⟩)
  else
    match s.getRelation t ulPort.toNat with
    | (s, none) => (s, ⟨netanaIoctlFailed, none, ptFilterA, ptFilterB⟩)
    | (s, some buf) =>
      match netanaGetFilterRelation buf with
      | none => (s, ⟨netanaIoctlFailed, none, ptFilterA, ptFilterB⟩)
      | some (ulRelationShip, ulFilterSizeA, ulFilterSizeB) =>
        match s.readFilter t ulPort .maska .vala ulFilterSizeA ptFilterA with
        | (s, ptFilterA, some lRet) => (s, ⟨lRet, none, ptFilterA, ptFilterB⟩)
        | (s, ptFilterA, none) =>
          match s.readFilter t ulPort .maskb .valb ulFilterSizeB ptFilterB with
          | (s, ptFilterB, some lRet) => (s, ⟨lRet, none, ptFilterA, ptFilterB⟩)
          | (s, ptFilterB, none) =>
            (s, ⟨netanaNoError, some ulRelationShip, ptFilterA, ptFilterB⟩)

/-- `netana_set_gpio_mode` of the library. -/
def netanaSetGpioMode (t : CallingThread) (fCapture : Bool) (ulGpio : BitVec 32) (tMode : GpioMode)
    (s : AttrDevice) : AttrDevice × BitVec 32 :=
  if fCapture then (s, netanaCaptureActive)
  else if hasNode s.nodes.gpioNodes ulGpio = false then (s, netanaInvalidParameter)
  else
    written t (s.netanaStoreGpioMode t ulGpio.toNat
      (netanaSetGpioModeText tMode.ulMode tMode.ulData0 tMode.ulData1))

/-- `netana_get_gpio_mode` of the library. -/
def netanaGetGpioMode (t : CallingThread) (fCapture : Bool) (ulGpio : BitVec 32) (s : AttrDevice) :
    AttrDevice × BitVec 32 × Option GpioMode :=
  if fCapture then (s, netanaCaptureActive, none)
  else if hasNode s.nodes.gpioNodes ulGpio = false then (s, netanaInvalidParameter, none)
  else
    match s.netanaGpioGetRegVal t ulGpio.toNat with
    | (s, none) => (s, s.getError t, none)
    | (s, some buf) =>
      match NetanaDriver.netanaGetGpioMode buf with
      | some (ulMode, ulCaptureTriggers, ulEndDelay) =>
        (s, netanaNoError, some ⟨ulMode, ulCaptureTriggers, ulEndDelay⟩)
      | none => (s, s.getError t, none)

/-- `netana_set_gpio_output` of the library, which wants the write to be one character long. -/
def netanaSetGpioOutput (t : CallingThread) (ulGpio ulLevel : BitVec 32) (s : AttrDevice) :
    AttrDevice × BitVec 32 :=
  if hasNode s.nodes.gpioNodes ulGpio = false then (s, netanaInvalidParameter)
  else
    let buf := printf (format "%d") [.w32 ulLevel]
    let r := s.netanaStoreGpioLevel t ulGpio.toNat buf
    (r.1, if r.2 = true ∧ buf.length = 1 then netanaNoError else r.1.getError t)

/-- `netana_set_gpio_voltage` of the library; its file is there if there are GPIOs. -/
def netanaSetGpioVoltage (t : CallingThread) (ulGpioSelMask ulGpioVoltageSel : BitVec 32)
    (s : AttrDevice) : AttrDevice × BitVec 32 :=
  if s.nodes.gpioNodes = 0 then (s, netanaInvalidParameter)
  else
    written t (s.netanaSetGpiovoltage t
      (printf (format "%d %d\n") [.w32 ulGpioSelMask, .w32 ulGpioVoltageSel]))

/-- `netana_get_gpio_voltage` of the library, with a pointer for the result. -/
def netanaGetGpioVoltage (t : CallingThread) (ulGpio : BitVec 32) (s : AttrDevice) :
    AttrDevice × BitVec 32 × Option (BitVec 32) :=
  if hasNode s.nodes.gpioNodes ulGpio = false then (s, netanaInvalidParameter, none)
  else
    match s.netanaGetGpiovoltage t ulGpio.toNat with
    | (s, none) => (s, s.getError t, none)
    | (s, some buf) =>
      match scanf (format "%d") buf with
      | [.w32 ulGpioVoltageSel] => (s, netanaNoError, some ulGpioVoltageSel)
      | _ => (s, s.getError t, none)

/-- `netana_config_pi_controller` of the library. -/
def netanaConfigPiController (t : CallingThread) (fCapture : Bool) (ulP ulI : BitVec 32)
    (s : AttrDevice) : AttrDevice × BitVec 32 :=
  if fCapture then (s, netanaCaptureActive)
  else written t (s.netanaPiConfig t (printf (format "%d %d") [.w32 ulP, .w32 ulI]))

end AttrDevice

/-- A call of the library on an open device. -/
inductive AttrCall where
  | setFilter (ulPort : BitVec 32) (ptFilterA ptFilterB : Option NetanaFilter)
      (ulRelationShip : BitVec 32)
  | getFilter (ulPort : BitVec 32) (ptFilterA ptFilterB : Option NetanaFilter)
  | setGpioMode (ulGpio : BitVec 32) (tMode : GpioMode)
  | getGpioMode (ulGpio : BitVec 32)
  | setGpioOutput (ulGpio ulLevel : BitVec 32)
  | setGpioVoltage (ulGpioSelMask ulGpioVoltageSel : BitVec 32)
  | getGpioVoltage (ulGpio : BitVec 32)
  | configPiController (ulP ulI : BitVec 32)

/-- What a call hands over besides its result. -/
inductive AttrOutput where
  | nothing
  | filter (pulRelationShip : Option (BitVec 32)) (ptFilterA ptFilterB : Option NetanaFilter)
  | gpioMode (ptMode : Option GpioMode)
  | gpioVoltage (pulGpioVoltageSel : Option (BitVec 32))

structure AttrReply where
  lRet : BitVec 32
  output : AttrOutput

def AttrDevice.call (t : CallingThread) (fCapture : Bool) (s : AttrDevice) :
    AttrCall → AttrDevice × AttrReply
  | .setFilter ulPort ptFilterA ptFilterB ulRelationShip =>
    let r := s.netanaSetFilter t fCapture ulPort ptFilterA ptFilterB ulRelationShip
    (r.1, ⟨r.2, .nothing⟩)
  | .getFilter ulPort ptFilterA ptFilterB =>
    let r := s.netanaGetFilter t ulPort ptFilterA ptFilterB
    (r.1, ⟨r.2.lRet, .filter r.2.pulRelationShip r.2.ptFilterA r.2.ptFilterB⟩)
  | .setGpioMode ulGpio tMode =>
    let r := s.netanaSetGpioMode t fCapture ulGpio tMode
    (r.1, ⟨r.2, .nothing⟩)
  | .getGpioMode ulGpio =>
    let r := s.netanaGetGpioMode t fCapture ulGpio
    (r.1, ⟨r.2.1, .gpioMode r.2.2⟩)
  | .setGpioOutput ulGpio ulLevel =>
    let r := s.netanaSetGpioOutput t ulGpio ulLevel
    (r.1, ⟨r.2, .nothing⟩)
  | .setGpioVoltage ulGpioSelMask ulGpioVoltageSel =>
    let r := s.netanaSetGpioVoltage t ulGpioSelMask ulGpioVoltageSel
    (r.1, ⟨r.2, .nothing⟩)
  | .getGpioVoltage ulGpio =>
    let r := s.netanaGetGpioVoltage t ulGpio
    (r.1, ⟨r.2.1, .gpioVoltage r.2.2⟩)
  | .configPiController ulP ulI =>
    let r := s.netanaConfigPiController t fCapture ulP ulI
    (r.1, ⟨r.2, .nothing⟩)

/-- The same call on the toolkit itself; the driver makes it for an open device only. -/
def ToolkitDevice.call (x : ToolkitDevice) (c : AttrCall) : ToolkitDevice × AttrReply :=
  if x.session.hdevice = false then
    (x, ⟨netanaInvalidHandle, .nothing⟩)
  else
    match c with
    | .setFilter ulPort ptFilterA ptFilterB ulRelationShip =>
      let r := x.session.netanaSetFilter ulPort ptFilterA ptFilterB ulRelationShip
      ({ x with session := r.1 }, ⟨r.2, .nothing⟩)
    | .getFilter ulPort ptFilterA ptFilterB =>
      let r := x.session.netanaGetFilter ulPort ptFilterA ptFilterB
      (x, ⟨r.lRet, .filter r.pulRelationShip r.ptFilterA r.ptFilterB⟩)
    | .setGpioMode ulGpio tMode =>
      let r := x.session.netanaSetGpioMode ulGpio tMode
      ({ x with session := r.1 }, ⟨r.2, .nothing⟩)
    | .getGpioMode ulGpio =>
      let r := x.session.netanaGetGpioMode ulGpio
      (x, ⟨r.1, .gpioMode r.2⟩)
    | .setGpioOutput ulGpio ulLevel =>
      let r := x.session.netanaSetGpioOutput ulGpio ulLevel
      ({ x with session := r.1 }, ⟨r.2, .nothing⟩)
    | .setGpioVoltage ulGpioSelMask ulGpioVoltageSel =>
      let r := x.session.netanaSetGpioVoltage ulGpioSelMask ulGpioVoltageSel
      ({ x with session := r.1 }, ⟨r.2, .nothing⟩)
    | .getGpioVoltage ulGpio =>
      let r := x.session.netanaGetGpioVoltage ulGpio
      (x, ⟨r.1, .gpioVoltage r.2⟩)
    | .configPiController ulP ulI =>
      let r := x.netanaConfigPiController ulP ulI
      (r.1, ⟨r.2, .nothing⟩)

/-- What the library looks at before it opens an attribute: its own idea of the capture, and whether
the directory is there. -/
def AttrCall.reaches (nodes : AttrNodes) (fCapture : Bool) : AttrCall → Bool
  | .setFilter ulPort _ _ _ => !fCapture && hasNode nodes.filterNodes ulPort
  | .getFilter ulPort _ _ => hasNode nodes.filterNodes ulPort
  | .setGpioMode ulGpio _ => !fCapture && hasNode nodes.gpioNodes ulGpio
  | .getGpioMode ulGpio => !fCapture && hasNode nodes.gpioNodes ulGpio
  | .setGpioOutput ulGpio _ => hasNode nodes.gpioNodes ulGpio
  | .setGpioVoltage _ _ => nodes.gpioNodes != 0
  | .getGpioVoltage ulGpio => hasNode nodes.gpioNodes ulGpio
  | .configPiController _ _ => !fCapture

/-- The result of a call that opens no attribute. A filter that could not be set without the
directory of the port is no error. -/
def AttrCall.refused (fCapture : Bool) : AttrCall → BitVec 32
  | .setFilter _ ptFilterA ptFilterB _ =>
    if fCapture then netanaCaptureActive
    else if lacksPointer ptFilterA ∨ lacksPointer ptFilterB then netanaInvalidParameter
    else if filterSize ptFilterA > 0#32 ∨ filterSize ptFilterB > 0#32 then netanaNoError
    else netanaInvalidParameter
  | .setGpioMode _ _ => if fCapture then netanaCaptureActive else netanaInvalidParameter
  | .getGpioMode _ => if fCapture then netanaCaptureActive else netanaInvalidParameter
  | .configPiController _ _ => netanaCaptureActive
  | _ => netanaInvalidParameter

/-- A call of a thread, or anything else that happens to the device. -/
inductive AttrAction where
  | call (t : CallingThread) (fCapture : Bool) (c : AttrCall)
  | device (a : DeviceAction)

/-- An action that is not possible changes nothing. -/
def ToolkitDevice.act (x : ToolkitDevice) (a : DeviceAction) : ToolkitDevice :=
  match deviceStep x.session a with
  | none => x
  | some y => { x with session := y }

/-- One whole call through the attributes, or one other action. The buffers that the writes go
through are the same for all threads and have no lock: calls that overlap are left out. -/
def AttrDevice.step (s : AttrDevice) : AttrAction → AttrDevice × Option AttrReply
  | .call t fCapture c =>
    let r := s.call t fCapture c
    (r.1, some r.2)
  | .device a => ({ s with device := s.device.act a }, none)

/-- The same on the toolkit itself, for the calls that open an attribute. -/
def ToolkitDevice.step (nodes : AttrNodes) (x : ToolkitDevice) :
    AttrAction → ToolkitDevice × Option AttrReply
  | .call _ fCapture c =>
    if c.reaches nodes fCapture then
      let r := x.call c
      (r.1, some r.2)
    else (x, some ⟨c.refused fCapture, .nothing⟩)
  | .device a => (x.act a, none)

/-- The replies of a run, one for each action, and its last state. -/
def replies {σ α ρ : Type*} (step : σ → α → σ × ρ) (s : σ) : List α → σ × List ρ
  | [] => (s, [])
  | a :: as =>
    let r := replies step (step s a).1 as
    (r.1, (step s a).2 :: r.2)

/-- After `netana_create_sysfsentries`, where the filter directories are counted by the GPIOs. -/
def AttrDevice.registered (x : ToolkitDevice) : AttrDevice :=
  { device := x
    tmpFilter := fun _ _ => 0#8
    actTaskList := []
    nodes :=
      { filterNodes := x.session.ulGpioCnt.toNat
        gpioNodes := x.session.ulGpioCnt.toNat
        filterFileSize := x.session.ulFilterSize.toNat } }

end NetanaDriver
