import NetanaDriver.CardRegistryRun
import NetanaDriver.ResourceLedger

/-! The life of the driver module: how cards are probed and removed (netana_enum.c), and what is
taken for a device and for the class of all devices (netana.c). -/
namespace NetanaDriver
open ResourceLedger (Ledger)

/-- What is counted of that which the module can hold: of a card, of a device, and once for all
devices. The DMA buffers and the sysfs entries of a device are taken as one each, and a
`netana_create_dma` that succeeds has its buffers. Not counted is what no path gives back: the
mailbox mutexes and the default filters of a device, and the entries that its sysfs groups
leave. -/
inductive Resource where
  | ptdeviceinfo (card : ℕ)
  | ptdevicemem (card : ℕ)
  | pciEnabled (card : ℕ)
  | pciRegions (card : ℕ)
  | internalAddr (card : ℕ)
  | tkdevice (p : DevPtr)
  | deviceNode (minor : ℕ)
  | dma (p : DevPtr)
  | dsrthread (p : DevPtr)
  | sysfs (p : DevPtr)
  | chrdev
  | netanaClass
  | deviceClass
  | cardLock
  deriving DecidableEq, Repr

inductive ModuleFault where
  | notHeld (r : Resource)
  -- a card without `ptdeviceinfo` is removed
  | nullDeviceinfo
  -- `kthread_stop` of an error pointer
  | errorPointer
  -- `kfree` of memory that the platform device manages
  | managedMemory
  deriving DecidableEq, Repr

/-- What `kthread_run` returns: a thread or an error pointer, and never the null pointer that the
driver looks for. -/
inductive KthreadResult where
  | null
  | thread
  | error
  deriving DecidableEq, Repr

/-- The fields of a `netana_info` that registration fills in. -/
structure NetanaInfo where
  minor : ℕ
  tkdevice : DevPtr
  dsrthread : KthreadResult
  deriving DecidableEq, Repr

inductive Bus where
  | pci
  | platform
  deriving DecidableEq, Repr

/-- A card that a probe has been successful for, as the bus sees it, with its driver data. -/
structure BoundCard where
  bus : Bus
  card : ℕ
  drvdata : Option NetanaInfo
  deriving DecidableEq, Repr

/-- The module: the registry, the counter of `netana_class` if there is one, what is held, and the
bound cards in the order in which they have been bound. -/
structure DriverModule where
  registry : Registry
  netanaClass : Option ℕ
  held : Ledger Resource
  cards : List BoundCard
  fault : Option ModuleFault

/-- What `netana_registerdevice` finds. Whether there is a class, and whether there is a thread, is
not taken from `register`. -/
structure RegistrationChoice where
  register : RegisterChoice
  fChrdevRegistered : Bool
  fClassAllocated : Bool
  fClassCreated : Bool
  fToolkitReady : Bool
  dsrthread : KthreadResult
  deriving DecidableEq, Repr

/-- `netana_registerdevice` ends with a value and, if it succeeds, with a device. -/
abbrev Registration := DriverModule × ℤ × Option NetanaInfo

namespace DriverModule

def acquire (r : Resource) (s : DriverModule) : DriverModule := { s with held := {r} + s.held }

def release (r : Resource) (s : DriverModule) : Except ModuleFault DriverModule :=
  match ResourceLedger.release r s.held with
  | .ok held => .ok { s with held := held }
  | .error r => .error (.notHeld r)

/-- The ends of `init_netana_class`, from `err_kzalloc` on. -/
def errKzalloc (s : DriverModule) : Except ModuleFault (DriverModule × Bool) := do
  let s ← s.release .chrdev
  return (s, false)

def errCreateClass (s : DriverModule) : Except ModuleFault (DriverModule × Bool) := do
  let s ← s.release .netanaClass
  s.errKzalloc

/-- `init_netana_class`. `netana_tkit_init` makes the lock of the list of cards. -/
def initNetanaClass (c : RegistrationChoice) (s : DriverModule) :
    Except ModuleFault (DriverModule × Bool) :=
  match s.netanaClass with
  | some kref => .ok ({ s with netanaClass := some (kref + 1) }, true)
  | none =>
    if c.fChrdevRegistered = false then .ok (s, false)
    else
      let s := s.acquire .chrdev
      if c.fClassAllocated = false then s.errKzalloc
      else
        let s := s.acquire .netanaClass
        if c.fClassCreated = false then s.errCreateClass
        else
          let s := s.acquire .deviceClass
          if c.fToolkitReady then
            .ok ({ s.acquire .cardLock with netanaClass := some 1 }, true)
          else do
            let s ← s.release .deviceClass
            s.errCreateClass

/-- `netana_classdestroy` and `netana_release_class`. Nobody calls `netana_tkit_deinit`. -/
def netanaClassdestroy (s : DriverModule) : Except ModuleFault DriverModule :=
  match s.netanaClass with
  | none => .ok s
  | some kref =>
    if kref = 1 then do
      let s ← s.release .deviceClass
      let s ← s.release .netanaClass
      let s ← s.release .chrdev
      return { s with netanaClass := none }
    else .ok { s with netanaClass := some (kref - 1) }

/-- `netana_freeminor`. -/
def netanaFreeminor (minor : ℕ) (s : DriverModule) : DriverModule :=
  { s with registry :=
      { s.registry with netAnaIDR := SlotTable.remove s.registry.netAnaIDR minor } }

/-- `stop_dsr_thread`. -/
def stopDsrThread (p : DevPtr) (dsrthread : KthreadResult) (s : DriverModule) :
    Except ModuleFault DriverModule :=
  match dsrthread with
  | .null => .ok s
  | .thread => s.release (.dsrthread p)
  | .error => .error .errorPointer

-- the labels of `netana_registerdevice`, the last one first

def errDevmem (ret : ℤ) (s : DriverModule) : Except ModuleFault Registration := do
  let s ← s.netanaClassdestroy
  return (s, ret, none)

def errGetMinor (p : DevPtr) (ret : ℤ) (s : DriverModule) : Except ModuleFault Registration := do
  let s ← s.release (.tkdevice p)
  s.errDevmem ret

def errCreateDevice (p : DevPtr) (minor : ℕ) (ret : ℤ) (s : DriverModule) :
    Except ModuleFault Registration :=
  (s.netanaFreeminor minor).errGetMinor p ret

def errorDma (p : DevPtr) (minor : ℕ) (ret : ℤ) (s : DriverModule) :
    Except ModuleFault Registration := do
  let s ← s.release (.deviceNode minor)
  s.errCreateDevice p minor ret

def errRegDsrThread (p : DevPtr) (minor : ℕ) (ret : ℤ) (s : DriverModule) :
    Except ModuleFault Registration := do
  let s ← s.release (.dma p)
  s.errorDma p minor ret

def errAddToToolkit (p : DevPtr) (minor : ℕ) (dsrthread : KthreadResult) (ret : ℤ)
    (s : DriverModule) : Except ModuleFault Registration := do
  let s ← s.stopDsrThread p dsrthread
  s.errRegDsrThread p minor ret

def errSysfs (p : DevPtr) (minor : ℕ) (dsrthread : KthreadResult) (fAcknowledged : Bool) (ret : ℤ)
    (s : DriverModule) : Except ModuleFault Registration :=
  { s with registry := (netanaTkitDeviceremove p true fAcknowledged s.registry).1 }.errAddToToolkit
    p minor dsrthread ret

/-- `netana_registerdevice` from `netana_tkit_deviceadd` on. -/
def addToToolkit (c : RegistrationChoice) (p : DevPtr) (minor : ℕ) (s : DriverModule) :
    Except ModuleFault Registration :=
  let r := netanaTkitDeviceadd p minor c.register.add s.registry
  let s := { s with registry := r.1 }
  if r.2 ≠ netanaNoError then s.errAddToToolkit p minor c.dsrthread r.2.toInt
  else if c.register.fSysfsCreated = false then
    s.errSysfs p minor c.dsrthread c.register.fAcknowledged (-enomem)
  else
    .ok ({ s with registry :=
        s.registry.set p { s.registry.devices p with addsucceded := true } }.acquire (.sysfs p),
      0, some ⟨minor, p, c.dsrthread⟩)

/-- `netana_registerdevice` from `device_create` on. -/
def createDevice (c : RegistrationChoice) (p : DevPtr) (minor : ℕ) (s : DriverModule) :
    Except ModuleFault Registration :=
  -- `IS_ERR`, which is one
  if c.register.fDeviceCreated = false then s.errCreateDevice p minor 1
  else
    let s := s.acquire (.deviceNode minor)
    if c.register.fDmaCreated = false then s.errorDma p minor (-enomem)
    else
      let s := s.acquire (.dma p)
      match c.dsrthread with
      | .null => s.errRegDsrThread p minor (-enomem)
      | .thread => (s.acquire (.dsrthread p)).addToToolkit c p minor
      | .error => s.addToToolkit c p minor

/-- `netana_registerdevice` when there is a class. -/
def allocateDevice (c : RegistrationChoice) (s : DriverModule) :
    Except ModuleFault Registration :=
  if c.register.fTkdeviceAllocated = false then s.errDevmem (-enomem)
  else
    let p := s.registry.nextPtr
    let s := { s with registry := { s.registry with nextPtr := p + 1 } }.acquire (.tkdevice p)
    if c.register.fIdrAllocated = false then s.errGetMinor p (-enomem)
    else
      match SlotTable.alloc minorLimit s.registry.netAnaIDR p with
      | none => s.errGetMinor p (-enospc)
      | some (idr, minor) =>
        let s := { s with registry :=
          { s.registry.set p (c.register.device minor) with netAnaIDR := idr } }
        s.createDevice c p minor

/-- `netana_registerdevice`. -/
def netanaRegisterdevice (c : RegistrationChoice) (s : DriverModule) :
    Except ModuleFault Registration := do
  let (s, fReady) ← s.initNetanaClass c
  if fReady then s.allocateDevice c else return (s, -enomem, none)

/-- `netana_unregisterdevice`. -/
def netanaUnregisterdevice (info : NetanaInfo) (fAcknowledged : Bool) (s : DriverModule) :
    Except ModuleFault DriverModule := do
  let p := info.tkdevice
  let s :=
    if (s.registry.devices p).addsucceded then
      { s with registry := (netanaTkitDeviceremove p true fAcknowledged s.registry).1 }
    else s
  let s ← s.stopDsrThread p info.dsrthread
  let s ← s.release (.dma p)
  let s ← s.release (.sysfs p)
  let s ← s.release (.deviceNode info.minor)
  let s ← (s.netanaFreeminor info.minor).release (.tkdevice p)
  s.netanaClassdestroy

end DriverModule

/-- What a call of the kernel returns that gives zero or a negative error. -/
def kernelResult : Option ℕ → ℤ
  | none => 0
  | some n => -(n + 1)

/-- What the probe of a PCI card finds. -/
structure PciChoice where
  fInfoAllocated : Bool
  fMemAllocated : Bool
  pciEnableDevice : Option ℕ
  pciRequestRegions : Option ℕ
  addr : BitVec 64
  size : BitVec 64
  fMapped : Bool
  irq : BitVec 32
  subsystemDevice : BitVec 16
  registration : RegistrationChoice
  deriving DecidableEq, Repr

/-- The registration of the card; its class is not known yet. -/
def PciChoice.register (c : PciChoice) : RegistrationChoice :=
  { c.registration with
    register := { c.registration.register with
      subsystemDevice := some c.subsystemDevice
      deviceclass := 0#16
      dpmAddr := c.addr.setWidth 32
      dpmSize := c.size.setWidth 32
      irq := c.irq } }

/-- What the probe of a platform device finds in the device tree. -/
structure OfChoice where
  fInfoAllocated : Bool
  fMemAllocated : Bool
  res : Option (BitVec 64 × BitVec 64)
  irq : Option (BitVec 32)
  fStartuptype : Bool
  deviceclass : Option (BitVec 32)
  registration : RegistrationChoice
  deriving DecidableEq, Repr

/-- The registration, if the device tree has everything. -/
def OfChoice.register (c : OfChoice) : Option RegistrationChoice :=
  match c.res, c.irq, c.deviceclass with
  | some res, some irq, some deviceclass =>
    if c.fStartuptype then
      some { c.registration with
        register := { c.registration.register with
          subsystemDevice := none
          deviceclass := deviceclass.setWidth 16
          dpmAddr := res.1.setWidth 32
          dpmSize := (res.2 - res.1 + 1#64).setWidth 32
          irq := irq } }
    else none
  | _, _, _ => none

namespace DriverModule

-- the labels of `netana_pci_probe`

def errEnable (card : ℕ) (ret : ℤ) (s : DriverModule) : Except ModuleFault Registration := do
  let s ← s.release (.ptdevicemem card)
  let s ← s.release (.ptdeviceinfo card)
  return (s, ret, none)

def outPciRequest (card : ℕ) (ret : ℤ) (s : DriverModule) : Except ModuleFault Registration := do
  let s ← s.release (.pciEnabled card)
  s.errEnable card ret

def errPciResource (card : ℕ) (ret : ℤ) (s : DriverModule) : Except ModuleFault Registration := do
  let s ← s.release (.pciRegions card)
  s.outPciRequest card ret

/-- `netana_pci_probe`. -/
def netanaPciProbe (card : ℕ) (c : PciChoice) (s : DriverModule) :
    Except ModuleFault Registration :=
  if c.fInfoAllocated = false then .ok (s, -enomem, none)
  else
    let s := s.acquire (.ptdeviceinfo card)
    if c.fMemAllocated = false then do
      let s ← s.release (.ptdeviceinfo card)
      return (s, -enomem, none)
    else
      let s := s.acquire (.ptdevicemem card)
      let ret := kernelResult c.pciEnableDevice
      if ret ≠ 0 then s.errEnable card ret
      else
        let s := s.acquire (.pciEnabled card)
        let ret := kernelResult c.pciRequestRegions
        if 0 > ret then s.outPciRequest card ret
        else
          let s := s.acquire (.pciRegions card)
          -- `ret` still is what the request of the regions has returned
          if c.addr = 0#64 ∨ c.fMapped = false then s.errPciResource card ret
          else do
            let (s, ret, info) ← (s.acquire (.internalAddr card)).netanaRegisterdevice c.register
            if ret = 0 then return (s, 0, info)
            else
              let s ← s.release (.internalAddr card)
              s.errPciResource card ret

/-- `netana_pci_remove`. Without driver data the regions and the card are released once more before
the null pointer is read. -/
def netanaPciRemove (b : BoundCard) (fAcknowledged : Bool) (s : DriverModule) :
    Except ModuleFault DriverModule :=
  match b.drvdata with
  | none => .error .nullDeviceinfo
  | some info => do
    let s ← s.netanaUnregisterdevice info fAcknowledged
    let s ← s.release (.pciRegions b.card)
    let s ← s.release (.pciEnabled b.card)
    let s ← s.release (.internalAddr b.card)
    let s ← s.release (.ptdevicemem b.card)
    s.release (.ptdeviceinfo b.card)

/-- `nanl_of_probe`, which frees what the platform device manages if it fails. -/
def nanlOfProbe (card : ℕ) (c : OfChoice) (s : DriverModule) : Except ModuleFault Registration :=
  if c.fInfoAllocated = false then .ok (s, -enomem, none)
  else
    let s := s.acquire (.ptdeviceinfo card)
    if c.fMemAllocated = false then .error .managedMemory
    else
      let s := s.acquire (.ptdevicemem card)
      match c.register with
      | none => .error .managedMemory
      | some r => do
        let (s, rc, info) ← (s.acquire (.internalAddr card)).netanaRegisterdevice r
        if rc = 0 then return (s, 0, info) else throw .managedMemory

/-- `nanl_of_remove`. -/
def nanlOfRemove (b : BoundCard) (fAcknowledged : Bool) (s : DriverModule) :
    Except ModuleFault DriverModule :=
  match b.drvdata with
  | none => .error .nullDeviceinfo
  | some info => do
    let s ← s.netanaUnregisterdevice info fAcknowledged
    let _ ← s.release (.internalAddr b.card)
    throw .managedMemory

/-- What the bus does with the end of a probe: it binds the card unless the value is negative. -/
def bindCard (bus : Bus) (card : ℕ) (s : DriverModule) :
    Except ModuleFault Registration → DriverModule
  | .ok (t, ret, info) =>
    if 0 ≤ ret then { t with cards := t.cards ++ [⟨bus, card, info⟩] } else t
  | .error f => { s with fault := some f }

def removeCard (b : BoundCard) (fAcknowledged : Bool) (s : DriverModule) :
    Except ModuleFault DriverModule := do
  let s ← match b.bus with
    | .pci => s.netanaPciRemove b fAcknowledged
    | .platform => s.nanlOfRemove b fAcknowledged
  return { s with cards := s.cards.erase b }

end DriverModule

/-- What happens to the module. A device is used by the files and the attributes that it has. -/
inductive ModuleAction where
  | pciProbe (card : ℕ) (c : PciChoice)
  | ofProbe (card : ℕ) (c : OfChoice)
  | remove (b : BoundCard) (fAcknowledged : Bool)
  | use (a : RegistryAction)

def RegistryAction.isUse : RegistryAction → Bool
  | .register _ | .unregister _ _ => false
  | _ => true

/-- Cards that are not bound are probed, and bound ones are removed, as long as nothing has gone
wrong. -/
def moduleStep (s : DriverModule) (a : ModuleAction) : Option DriverModule :=
  if s.fault.isSome then none
  else
    match a with
    | .pciProbe card c =>
      if s.cards.any (fun b => b.bus = .pci ∧ b.card = card) then none
      else some (s.bindCard .pci card (s.netanaPciProbe card c))
    | .ofProbe card c =>
      if s.cards.any (fun b => b.bus = .platform ∧ b.card = card) then none
      else some (s.bindCard .platform card (s.nanlOfProbe card c))
    | .remove b fAcknowledged =>
      if b ∈ s.cards then
        some (match s.removeCard b fAcknowledged with
          | .ok t => t
          | .error f => { s with fault := some f })
      else none
    | .use a =>
      if a.isUse then (registryStep s.registry a).map fun r => { s with registry := r } else none

/-- `netana_pci_exit_module`: the drivers are un-registered and their cards removed, those of the
PCI bus first. -/
def netanaPciExitModule (fAcknowledged : BoundCard → Bool) (s : DriverModule) :
    Except ModuleFault DriverModule :=
  (s.cards.filter (·.bus = .pci) ++ s.cards.filter (·.bus = .platform)).foldlM
    (fun s b => s.removeCard b (fAcknowledged b)) s

/-- The module has just been loaded. -/
def DriverModule.loaded (d : TkDevice) : DriverModule :=
  { registry := Registry.init d
    netanaClass := none
    held := 0
    cards := []
    fault := none }

end NetanaDriver
