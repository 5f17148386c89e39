import NetanaDriver.CardRegistry
import NetanaDriver.DriverState
import NetanaDriver.HandleTable

/-! The locks, events, mutexes and buffers of the toolkit: `netana_tkit_init`, `netana_tkit_deinit`,
`netana_tkit_deviceadd` and `netana_tkit_deviceremove` (toolkit/netana_toolkit.c), and
`netana_restart_device` (toolkit/netana_functions.c), by what they do to them. -/
namespace NetanaDriver
open HandleTable

def netanaIrqlockCreationFailed : BitVec 32 := 0x8021000E#32
def netanaIrqeventCreationFailed : BitVec 32 := 0x8021000D#32
def netanaTkitInitializationFailed : BitVec 32 := 0x80210001#32

/-- Where the toolkit keeps its handles: one lock of its own, and the fields of every device
instance `d`. -/
inductive HandleSlot where
  | cardLock
  | pvLock (d : ℕ)
  | hStopComplete (d : ℕ)
  | ahHandshakeBitEvents (d : ℕ) (ulIdx : Fin 16)
  | pbMask (d : ℕ) (ulPort : Fin 4) (ulFilter : Fin 2)
  | pbValue (d : ℕ) (ulPort : Fin 4) (ulFilter : Fin 2)
  | pvSendMBXMutex (d : ℕ)
  | pvRecvMBXMutex (d : ℕ)
  deriving DecidableEq, Repr

def HandleSlot.owner : HandleSlot → Option ℕ
  | cardLock => none
  | pvLock d => some d
  | hStopComplete d => some d
  | ahHandshakeBitEvents d _ => some d
  | pbMask d _ _ => some d
  | pbValue d _ _ => some d
  | pvSendMBXMutex d => some d
  | pvRecvMBXMutex d => some d

structure Toolkit where
  handles : Table HandleSlot
  tCardList : List ℕ

/-- The events of a device, in the order of `CreateIrqEvents` and `DeleteIrqEvents`. -/
def irqEvents (d : ℕ) : List HandleSlot :=
  .hStopComplete d :: (List.finRange 16).map (.ahHandshakeBitEvents d)

/-- The buffers for the default filters of the ports that a device has. -/
def defaultFilters (d ulPortCnt : ℕ) : List HandleSlot :=
  ((List.finRange 4).filter fun ulPort => ulPort.val < ulPortCnt).flatMap fun ulPort =>
    (List.finRange 2).flatMap fun ulFilter =>
      [.pbMask d ulPort ulFilter, .pbValue d ulPort ulFilter]

/-- How `netana_tkit_deviceadd` gets on: which creations succeed, what the steps from the reset to
the start of the firmware return, whether a status indication is pending, and which changed bits
the DSR handler signals at the end. -/
structure AddSteps where
  fCreated : HandleSlot → Bool
  lRet : BitVec 32
  ulPortCnt : ℕ
  fNewstatus : Bool
  changedBits : List (Fin 16)

/-- What it creates once the firmware runs. -/
def addedHandles (d : ℕ) (c : AddSteps) : List HandleSlot :=
  defaultFilters d c.ulPortCnt ++ [.pvSendMBXMutex d, .pvRecvMBXMutex d]

/-- What it uses before it is done: the lock of the device for the toggle, the lock of the cards
for the insertion, and the events of the changed bits. -/
def addUses (d : ℕ) (c : AddSteps) : List HandleSlot :=
  (if c.fNewstatus then [.pvLock d, .pvLock d] else []) ++ [.cardLock, .cardLock] ++
    c.changedBits.map (.ahHandshakeBitEvents d)

def Toolkit.netanaTkitDeviceadd (d : ℕ) (c : AddSteps) (s : Toolkit) : Toolkit × BitVec 32 :=
  let handles := create (.pvLock d) (c.fCreated (.pvLock d)) s.handles
  let r : Table HandleSlot × BitVec 32 :=
    if c.fCreated (.pvLock d) = false then (handles, netanaIrqlockCreationFailed)
    else
      let r := createWhile c.fCreated (irqEvents d) handles
      (r.1, if r.2 then c.lRet else netanaIrqeventCreationFailed)
  if r.2 = netanaNoError then
    let handles := createAll c.fCreated (addedHandles d c) r.1
    ({ handles := useAll (addUses d c) handles, tCardList := s.tCardList ++ [d] }, r.2)
  else
    -- DeleteIrqEvents, then the lock
    ({ s with handles := delete (.pvLock d) (deleteAll (irqEvents d) r.1) }, r.2)

/-- What `netana_tkit_deviceremove` uses: the lock for the toggle, and the event that it waits for,
as often as it looks again. -/
def removeUses (d ulWaits : ℕ) : List HandleSlot :=
  [.pvLock d, .pvLock d] ++
    List.replicate ulWaits (.ahHandshakeBitEvents d (Fin.ofNat 16 clkoffBit))

/-- `fOpen` says that the device is still accessed. -/
def Toolkit.netanaTkitDeviceremove (d : ℕ) (fOpen fForceRemove : Bool) (ulWaits : ℕ)
    (fAcknowledged : Bool) (s : Toolkit) : Toolkit × BitVec 32 :=
  if fOpen ∧ fForceRemove = false then (s, netanaDeviceStillOpen)
  else
    let handles := useAll (removeUses d ulWaits) s.handles
    let handles := delete (.pvLock d) (deleteAll (irqEvents d) handles)
    ({ handles := useAll [.cardLock, .cardLock] handles, tCardList := s.tCardList.erase d },
      if fAcknowledged then netanaNoError else netanaFunctionFailed)

def Toolkit.netanaRestartDevice (d : ℕ) (fCaptureRunning : Bool) (ulWaits : ℕ)
    (fAcknowledged : Bool) (c : AddSteps) (s : Toolkit) : Toolkit × BitVec 32 :=
  if fCaptureRunning then (s, netanaCaptureActive)
  else
    let r := s.netanaTkitDeviceremove d true true ulWaits fAcknowledged
    if r.2 = netanaNoError then r.1.netanaTkitDeviceadd d c else r

def Toolkit.netanaTkitInit (fLock : Bool) (s : Toolkit) : Toolkit × BitVec 32 :=
  ({ handles := create .cardLock fLock s.handles, tCardList := [] },
    if fLock then netanaNoError else netanaTkitInitializationFailed)

/-- The loop of `netana_tkit_deinit` takes the first card off the list until there is none. -/
def Toolkit.removeAll (ulWaits : ℕ) (fAcknowledged : Bool) : ℕ → Toolkit → Toolkit
  | 0, s => s
  | n + 1, s =>
    match s.tCardList with
    | [] => s
    | d :: _ =>
      removeAll ulWaits fAcknowledged n
        (s.netanaTkitDeviceremove d true true ulWaits fAcknowledged).1

def Toolkit.netanaTkitDeinit (ulWaits : ℕ) (fAcknowledged : Bool) (s : Toolkit) : Toolkit :=
  -- the lock goes first
  let s := { s with handles := delete .cardLock s.handles }
  s.removeAll ulWaits fAcknowledged s.tCardList.length

inductive ToolkitAction where
  | init (fLock : Bool)
  | add (d : ℕ) (c : AddSteps)
  | remove (d : ℕ) (fOpen fForceRemove : Bool) (ulWaits : ℕ) (fAcknowledged : Bool)
  | restart (d : ℕ) (fCaptureRunning : Bool) (ulWaits : ℕ) (fAcknowledged : Bool) (c : AddSteps)
  | deinit (ulWaits : ℕ) (fAcknowledged : Bool)

/-- `netana_tkit_init` has succeeded, and `netana_tkit_deinit` has not been called since. -/
def Toolkit.initialised (s : Toolkit) : Bool := (s.handles.slot .cardLock).isSome

/-- A device is added when the toolkit is initialised and the device is not on the list, and removed
or restarted when it is. `init_netana_class` initialises the toolkit each time that it creates the
class, and nobody de-initialises it in between. -/
def toolkitStep (s : Toolkit) : ToolkitAction → Option Toolkit
  | .init fLock => some (s.netanaTkitInit fLock).1
  | .add d c =>
    if s.initialised ∧ d ∉ s.tCardList then some (s.netanaTkitDeviceadd d c).1 else none
  | .remove d fOpen fForceRemove ulWaits fAcknowledged =>
    if s.initialised ∧ d ∈ s.tCardList then
      some (s.netanaTkitDeviceremove d fOpen fForceRemove ulWaits fAcknowledged).1
    else none
  | .restart d fCaptureRunning ulWaits fAcknowledged c =>
    if s.initialised ∧ d ∈ s.tCardList then
      some (s.netanaRestartDevice d fCaptureRunning ulWaits fAcknowledged c).1
    else none
  | .deinit ulWaits fAcknowledged => some (s.netanaTkitDeinit ulWaits fAcknowledged)

def Toolkit.start : Toolkit := { handles := Table.empty, tCardList := [] }

/-- No lock, event, mutex or buffer has been used or deleted when it did not exist, and those that
exist belong to the toolkit as long as it is initialised, or to a device on the list. -/
def Toolkit.Released (s : Toolkit) : Prop :=
  s.handles.fault = false ∧
    ∀ n, s.handles.live n = true → ∃ i, s.handles.slot i = some n ∧
      ∀ d, i.owner = some d → d ∈ s.tCardList

/-- The device has neither a mailbox mutex nor a buffer for a default filter. -/
def Toolkit.plain (s : Toolkit) (d : ℕ) : Bool :=
  (.pvSendMBXMutex d :: .pvRecvMBXMutex d :: defaultFilters d 4).all fun i =>
    (s.handles.slot i).isNone

/-- The condition on a step: the toolkit is not initialised twice, only plain devices are taken off
the list, and the toolkit is de-initialised without a device. -/
def balancedStep (s : Toolkit) : ToolkitAction → Bool
  | .init _ => !s.initialised
  | .remove d fOpen fForceRemove _ _ => fOpen && !fForceRemove || s.plain d
  | .restart d fCaptureRunning _ _ _ => fCaptureRunning || s.plain d
  | .deinit _ _ => s.tCardList.isEmpty
  | _ => true

end NetanaDriver
