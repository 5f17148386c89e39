import NetanaDriver.OpenFiles
import NetanaDriver.StepRuns

/-! The handles of libnetana: `netana_open_device`, `CheckDeviceHandle` and `netana_close_device`
(libnetana/netana_functions.c) in the threads of several processes, statement by statement, over the
device files of the driver. -/
namespace NetanaDriver

open SlotTable

/-- What opening and closing use of the library's `NETANA_DEVINSTANCE_T`. `fClosed` says that
`fd_Device` has been closed; the library keeps no such flag. -/
structure LibDevice where
  fdDevice : ℕ
  iDeviceNum : ℕ
  fLogFile : Bool
  fClosed : Bool
  deriving DecidableEq, Repr

/-- `CheckDeviceHandle`; the handle `0` is a null pointer. -/
def checkDeviceHandle (gTCardList : List ℕ) (hDev : ℕ) : BitVec 32 :=
  if hDev = 0 then netanaInvalidParameter
  else if hDev ∈ gTCardList then netanaNoError
  else netanaInvalidHandle

/-- The next statement of a thread in the library, with the locals that it still needs. -/
inductive LibPc where
  -- netana_open_device, from `open` on
  | flock (fd iDeviceNum : ℕ)
  | closeUnlocked (fd iDeviceNum : ℕ)
  | malloc (fd iDeviceNum : ℕ)
  | insertTail (ptDevInstance : ℕ)
  | createLogFile (ptDevInstance : ℕ)
  -- any function that has passed CHECK_HANDLE
  | inside (hDev : ℕ)
  -- netana_close_device behind CHECK_HANDLE
  | getState (hDev : ℕ)
  | closeLogFile (hDev : ℕ)
  | closeFile (hDev : ℕ)
  | remove (hDev : ℕ)
  deriving DecidableEq, Repr

structure LibThread (π : Type*) where
  process : π
  pc : LibPc
  deriving DecidableEq, Repr

inductive LibFault where
  -- an instance that has been freed, or never allocated
  | deadInstance
  | badDescriptor
  | nullPointer
  | leakedLogFile
  deriving DecidableEq, Repr

/-- How a statement gets on: whether `flock` succeeds on a free node, what `malloc` returns, whether
there is a log file, and whether `netana_get_state` fails or finds no capture. -/
structure LibChoice where
  fLocked : Bool
  address : Option ℕ
  fLogFile : Bool
  fStopped : Bool
  deriving DecidableEq, Repr

/-- The driver with the device files, and the memory, lists and threads of the processes. A process
that has ended is `exiting` from then on. -/
structure LibWorld (π ι : Type*) where
  files : FileTable π
  memory : π × ℕ → Option LibDevice
  gTCardList : π → List ℕ
  exiting : π → Bool
  threads : ι → Option (LibThread π)
  -- a file has not been locked because of another one
  fWouldBlock : Bool
  fault : Option LibFault

inductive HandleAction (π ι : Type*) where
  | driver (a : RegistryAction)
  | openDevice (t : ι) (process : π) (ulFilter : BitVec 32) (iDeviceNum fd : ℕ)
  | call (t : ι) (process : π) (hDev : ℕ)
  | closeDevice (t : ι) (process : π) (hDev : ℕ)
  -- a function starts another thread, or returns
  | startThread (t u : ι)
  | returns (t : ι)
  | step (t : ι) (c : LibChoice)
  -- the end of a process, which closes its files one by one
  | exit (process : π)
  | exitFile (process : π) (fd : ℕ)
  deriving DecidableEq

section Steps

variable {π ι : Type*} [DecidableEq π] [DecidableEq ι]

namespace LibWorld

/-- The thread `t` goes on. -/
def goes (s : LibWorld π ι) (t : ι) (th : LibThread π) (pc : LibPc) : LibWorld π ι :=
  { s with threads := Function.update s.threads t (some { th with pc := pc }) }

/-- It returns to its caller. -/
def ends (s : LibWorld π ι) (t : ι) : LibWorld π ι :=
  { s with threads := Function.update s.threads t none }

def oops (s : LibWorld π ι) (t : ι) (fault : LibFault) : LibWorld π ι :=
  { s.ends t with fault := some fault }

/-- The thread has the instance `p` of its process in its hands. -/
def deref (s : LibWorld π ι) (t : ι) (th : LibThread π) (p : ℕ)
    (next : LibDevice → LibWorld π ι) : LibWorld π ι :=
  match s.memory (th.process, p) with
  | none => s.oops t .deadInstance
  | some d => next d

def setDevice (s : LibWorld π ι) (th : LibThread π) (p : ℕ) (d : Option LibDevice) :
    LibWorld π ι :=
  { s with memory := Function.update s.memory (th.process, p) d }

def setList (s : LibWorld π ι) (th : LibThread π) (l : List ℕ) : LibWorld π ι :=
  { s with gTCardList := Function.update s.gTCardList th.process l }

/-- `close` in a thread. -/
def closeFd (s : LibWorld π ι) (t : ι) (th : LibThread π) (fd : ℕ)
    (next : LibWorld π ι → LibWorld π ι) : LibWorld π ι :=
  match s.files.close (th.process, fd) with
  | none => s.oops t .badDescriptor
  | some files => next { s with files := files }

/-- The next statement of thread `t`. -/
def statement (s : LibWorld π ι) (t : ι) (th : LibThread π) (c : LibChoice) :
    Option (LibWorld π ι) :=
  match th.pc with
  | .flock fd iDeviceNum =>
    match s.files.fds (th.process, fd) with
    | none => some (s.oops t .badDescriptor)
    | some p =>
      if (s.files.flocks p).isSome then
        some ({ s with fWouldBlock := true }.goes t th (.closeUnlocked fd iDeviceNum))
      else if c.fLocked then
        some ({ s with files := s.files.lock (th.process, fd) p }.goes t th (.malloc fd iDeviceNum))
      else some (s.goes t th (.closeUnlocked fd iDeviceNum))
  | .closeUnlocked fd _ => some (s.closeFd t th fd fun s => s.ends t)
  | .malloc fd iDeviceNum =>
    match c.address with
    | none => some (s.oops t .nullPointer)
    | some p =>
      -- memory that is in use is not handed out again
      if p ≠ 0 ∧ s.memory (th.process, p) = none then
        some ((s.setDevice th p (some ⟨fd, iDeviceNum, false, false⟩)).goes t th (.insertTail p))
      else none
  | .insertTail p =>
    some (s.deref t th p fun _ =>
      (s.setList th (s.gTCardList th.process ++ [p])).goes t th (.createLogFile p))
  | .createLogFile p =>
    some (s.deref t th p fun d =>
      (s.setDevice th p (some { d with fLogFile := c.fLogFile })).ends t)
  | .inside p =>
    some (s.deref t th p fun d =>
      if (s.files.fds (th.process, d.fdDevice)).isSome then s else s.oops t .badDescriptor)
  | .getState p =>
    -- `netana_get_state` checks the handle again, and a device that does not answer is closed
    if checkDeviceHandle (s.gTCardList th.process) p = netanaNoError then
      some (s.deref t th p fun _ =>
        if c.fStopped then s.goes t th (.closeLogFile p) else s.ends t)
    else some (s.goes t th (.closeLogFile p))
  | .closeLogFile p =>
    some (s.deref t th p fun d =>
      (s.setDevice th p (some { d with fLogFile := false })).goes t th (.closeFile p))
  | .closeFile p =>
    -- the result of `close` is compared to what it never is
    some (s.deref t th p fun d =>
      s.closeFd t th d.fdDevice fun s =>
        (s.setDevice th p (some { d with fClosed := true })).goes t th (.remove p))
  | .remove p =>
    some (s.deref t th p fun d =>
      -- `STAILQ_REMOVE` runs off the end of a list without the element
      if p ∉ s.gTCardList th.process then s.oops t .nullPointer
      else if d.fLogFile then s.oops t .leakedLogFile
      else ((s.setList th ((s.gTCardList th.process).erase p)).setDevice th p none).ends t)

/-- A thread outside of the library calls a function with a handle. -/
def enter (s : LibWorld π ι) (t : ι) (process : π) (hDev : ℕ) (pc : LibPc) :
    Option (LibWorld π ι) :=
  if s.threads t = none ∧ s.exiting process = false then
    if checkDeviceHandle (s.gTCardList process) hDev = netanaNoError then
      some (s.goes t ⟨process, pc⟩ pc)
    else some s
  else none

/-- All that a process has is gone but its files. -/
def exitProcess (s : LibWorld π ι) (process : π) : LibWorld π ι :=
  { s with
    memory := fun x => if x.1 = process then none else s.memory x
    gTCardList := Function.update s.gTCardList process []
    exiting := Function.update s.exiting process true
    threads := fun t => (s.threads t).filter (·.process ≠ process) }

end LibWorld

/-- `netana_open_device` starts where it has found the driver running and the name valid, and the
mutex of the list never fails. -/
def handleStep (s : LibWorld π ι) : HandleAction π ι → Option (LibWorld π ι)
  | .driver a =>
    if a.ofDriver then
      (registryStep s.files.registry a).map fun r =>
        { s with files := { s.files with registry := r } }
    else none
  | .openDevice t process ulFilter iDeviceNum fd =>
    if s.threads t = none ∧ s.exiting process = false ∧ s.files.fds (process, fd) = none then
      let r := s.files.openFile ulFilter iDeviceNum (process, fd)
      let s := { s with files := r.1 }
      some (if r.2 then s.goes t ⟨process, .flock fd iDeviceNum⟩ (.flock fd iDeviceNum) else s)
    else none
  | .call t process hDev => s.enter t process hDev (.inside hDev)
  | .closeDevice t process hDev => s.enter t process hDev (.getState hDev)
  | .startThread t u =>
    match s.threads t, s.threads u with
    | some ⟨process, .inside hDev⟩, none => some (s.goes u ⟨process, .inside hDev⟩ (.inside hDev))
    | _, _ => none
  | .returns t =>
    match s.threads t with
    | some ⟨_, .inside _⟩ => some (s.ends t)
    | _ => none
  | .step t c => (s.threads t).bind fun th => s.statement t th c
  | .exit process => if s.exiting process then none else some (s.exitProcess process)
  | .exitFile process fd =>
    if s.exiting process then
      (s.files.close (process, fd)).map fun files => { s with files := files }
    else none

/-- No process has anything yet. -/
def LibWorld.init (r : Registry) : LibWorld π ι :=
  { files := ⟨r, fun _ => none, fun _ => none⟩
    memory := fun _ => none
    gTCardList := fun _ => []
    exiting := fun _ => false
    threads := fun _ => none
    fWouldBlock := false
    fault := none }

end Steps

section Owners

variable {π ι : Type*}

/-- Who holds a descriptor: a thread that opens a device, the instance, or the kernel for a process
that has ended. -/
inductive FileOwner (π ι : Type*) where
  | thread (t : ι)
  | device (x : π × ℕ)
  | ended (x : π × ℕ)
  deriving DecidableEq

/-- Who holds an instance: the thread that has allocated it, or the list. -/
inductive InstanceOwner (π ι : Type*) where
  | thread (t : ι)
  | listed (x : π × ℕ)
  deriving DecidableEq

def LibPc.descriptor (process : π) : LibPc → Option (Descriptor π)
  | .flock fd iDeviceNum | .closeUnlocked fd iDeviceNum =>
    some ⟨(process, fd), some (iDeviceNum, false)⟩
  | .malloc fd iDeviceNum => some ⟨(process, fd), some (iDeviceNum, true)⟩
  | _ => none

def LibDevice.descriptor (process : π) (d : LibDevice) : Option (Descriptor π) :=
  if d.fClosed then none else some ⟨(process, d.fdDevice), some (d.iDeviceNum, true)⟩

def LibWorld.descriptors (s : LibWorld π ι) : FileOwner π ι → Option (Descriptor π)
  | .thread t => (s.threads t).bind fun th => th.pc.descriptor th.process
  | .device x => (s.memory x).bind fun d => d.descriptor x.1
  | .ended x => if s.exiting x.1 ∧ (s.files.fds x).isSome then some ⟨x, none⟩ else none

/-- The instance that a thread is about to put on the list. -/
def LibPc.allocated : LibPc → Option ℕ
  | .insertTail p => some p
  | _ => none

def LibWorld.instances (s : LibWorld π ι) : InstanceOwner π ι → Option (π × ℕ)
  | .thread t => (s.threads t).bind fun th => th.pc.allocated.map (th.process, ·)
  | .listed x => if x.2 ∈ s.gTCardList x.1 then some x else none

/-- The handle that a thread has passed the check with, or has just put on the list. -/
def LibPc.uses : LibPc → Option ℕ
  | .createLogFile p | .inside p => some p
  | .getState p | .closeLogFile p | .closeFile p | .remove p => some p
  | _ => none

/-- The same in `netana_close_device`. -/
def LibPc.closes : LibPc → Option ℕ
  | .getState p | .closeLogFile p | .closeFile p | .remove p => some p
  | _ => none

/-- No thread of the process is at a handle. -/
def LibWorld.unused (s : LibWorld π ι) (process : π) (used : LibPc → Option ℕ) (hDev : ℕ) : Prop :=
  ∀ t th, s.threads t = some th → th.process = process → used th.pc ≠ some hDev

instance [DecidableEq π] [Fintype ι] (s : LibWorld π ι) (process : π) (used : LibPc → Option ℕ)
    (hDev : ℕ) : Decidable (s.unused process used hDev) :=
  decidable_of_iff (∀ t, (s.threads t).all
      (fun th => decide (th.process = process → used th.pc ≠ some hDev)) = true) (by
    apply forall_congr'
    intro t
    cases s.threads t with
    | none => simp
    | some th =>
      simp only [Option.all_some, decide_eq_true_eq, Option.some.injEq]
      exact ⟨fun h _ hth => hth ▸ h, fun h => h th rfl⟩)

/-- A handle is not closed while a function uses it, nor used while it is being closed, memory is
not exhausted, and the driver removes only devices that are closed. -/
def usedProperly (s : LibWorld π ι) : HandleAction π ι → Prop
  | .driver a => unregistersClosed s.files.registry a = true
  | .call _ process hDev => s.unused process LibPc.closes hDev
  | .closeDevice _ process hDev => s.unused process LibPc.uses hDev
  | .step _ c => c.address ≠ none
  | _ => True

instance [DecidableEq π] [Fintype ι] (s : LibWorld π ι) (a : HandleAction π ι) :
    Decidable (usedProperly s a) :=
  match a with
  | .driver a => inferInstanceAs (Decidable (unregistersClosed s.files.registry a = true))
  | .call _ process hDev => inferInstanceAs (Decidable (s.unused process LibPc.closes hDev))
  | .closeDevice _ process hDev => inferInstanceAs (Decidable (s.unused process LibPc.uses hDev))
  | .step _ c => inferInstanceAs (Decidable (c.address ≠ none))
  | .openDevice .. | .startThread _ _ | .returns _ | .exit _ | .exitFile _ _ => isTrue trivial

end Owners

end NetanaDriver
