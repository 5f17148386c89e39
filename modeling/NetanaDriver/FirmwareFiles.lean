import NetanaDriver.CardRegistry
import NetanaDriver.ExclusiveSection
import NetanaDriver.HandleTable
import NetanaDriver.StepRuns

/-! How the driver finds and opens the files of a card (USER_Linux.c, OS_Linux.c) while several
cards are brought up at the same time, statement by statement. -/
namespace NetanaDriver

/-- The three files that a bring-up can ask for. -/
inductive TkitFile where
  | bootloader
  | firmware
  | identInfo
  deriving DecidableEq, Repr

/-- `NETANA_TKIT_FILE_INFO_T`. -/
structure TkitFileInfo where
  szShortFileName : List Char
  szFullFileName : List Char
  deriving DecidableEq, Repr

/-- Callers clear it. -/
def TkitFileInfo.cleared : TkitFileInfo := ⟨[], []⟩

/-- What a device instance has for its files. -/
structure FileInstance where
  usDeviceClass : BitVec 16
  szIdentInfoFileName : List Char
  deriving DecidableEq, Repr

/-- The names of `USER_GetBootloaderFile`. -/
def bootloaderFile : TkitFileInfo :=
  ⟨"NETX100-BSL.bin".toList, "netanalyzer/NETX100-BSL.bin".toList⟩

/-- The names of `USER_GetFirmwareFile`; other classes have no firmware. -/
def firmwareFile (usDeviceClass : BitVec 16) : TkitFileInfo :=
  if usDeviceClass = nanlDevClass then
    ⟨"NANL-500.NXF".toList, "netanalyzer/NANL-500.nxf".toList⟩
  else if usDeviceClass = nscpDevClass then
    ⟨"NSCP-100.NXF".toList, "netanalyzer/NSCP-100.nxf".toList⟩
  else if usDeviceClass = cifxDevClass then
    ⟨"NANLCIFX.NXF".toList, "netanalyzer/NANLCIFX.nxf".toList⟩
  else .cleared

/-- The names of `USER_GetIdentInfoFile`. -/
def identInfoFile (d : FileInstance) : TkitFileInfo := ⟨"lic.nxl".toList, d.szIdentInfoFileName⟩

/-- The file that a device means. -/
def FileInstance.file (d : FileInstance) : TkitFile → TkitFileInfo
  | .bootloader => bootloaderFile
  | .firmware => firmwareFile d.usDeviceClass
  | .identInfo => identInfoFile d

/-- The global pointers to firmware. -/
inductive FirmwarePointer where
  | ptBootLoader
  | ptFirmware
  deriving DecidableEq, Repr

/-- Where a thread is in the bring-up of its device: the next statement, with the locals of
`OS_FileOpen`. -/
inductive FilePc (δ : Type*) where
  -- USER_Get...File
  | setInstance
  | switchClass
  -- OS_FileOpen
  | testInstance
  | readInfo
  | readBootloader (netAnaInfo : δ)
  | setBootloader (netAnaInfo : δ) (ptDevInst : Option δ)
  | readFirmware (netAnaInfo : δ)
  | setFirmware (netAnaInfo : δ) (ptDevInst : Option δ)
  | switchFirmware (netAnaInfo : δ)
  | readIdent (netAnaInfo : δ) (tFWFileInfo : TkitFileInfo)
  | setIdent (netAnaInfo : δ) (tFWFileInfo : TkitFileInfo) (ptDevInst : Option δ)
  | requestFirmware (netAnaInfo : δ) (tFWFileInfo tIdentFileInfo : TkitFileInfo)
  | takeFirmware (p : FirmwarePointer)
  | takeSize (p : FirmwarePointer) (ptFW : Option ℕ)
  -- behind OS_FileOpen
  | notOpened
  | opened (hFile : ℕ) (ullFileLen : ℕ)
  | copied (hFile : ℕ) (pvFileData : List (BitVec 8))
  -- OS_FileClose, after `release_firmware`
  | clearInstance
  deriving DecidableEq, Repr

structure FileThread (δ : Type*) where
  device : δ
  file : TkitFile
  szFullFileName : List Char
  pc : FilePc δ
  deriving DecidableEq, Repr

/-- What a thread has asked `request_firmware` for last, and what has been found. -/
structure FirmwareRequest (δ : Type*) where
  device : δ
  szFullFileName : List Char
  found : Option (List (BitVec 8))
  deriving DecidableEq, Repr

/-- The global variables of OS_Linux.c, the firmware that is loaded, and the threads. -/
structure FileLoader (ι δ : Type*) where
  sPdeviceinstance : Option δ
  pointer : FirmwarePointer → Option ℕ
  data : ℕ → List (BitVec 8)
  live : ℕ → Bool
  next : ℕ
  asked : ι → Option (FirmwareRequest δ)
  threads : ι → Option (FileThread δ)
  fault : Bool

inductive FileAction (ι δ : Type*) where
  | load (t : ι) (device : δ) (file : TkitFile)
  -- with what `request_firmware` would find
  | step (t : ι) (found : Option (List (BitVec 8)))
  | read (t : ι)
  | close (t : ι)
  deriving DecidableEq, Repr

section Steps

variable {ι δ : Type*} [DecidableEq ι]

namespace FileLoader

/-- The thread `t` goes on. -/
def goes (s : FileLoader ι δ) (t : ι) (th : FileThread δ) (pc : FilePc δ) : FileLoader ι δ :=
  { s with threads := Function.update s.threads t (some { th with pc := pc }) }

/-- The thread has read through a null pointer. -/
def oops (s : FileLoader ι δ) (t : ι) : FileLoader ι δ :=
  { s with threads := Function.update s.threads t none, fault := true }

/-- Which pointer `OS_FileOpen` loads a file of the given name into. -/
def pointerFor (szFilename : List Char) (tFWFileInfo tIdentFileInfo : TkitFileInfo) :
    Option FirmwarePointer :=
  if bootloaderFile.szFullFileName = szFilename then some .ptBootLoader
  else if tFWFileInfo.szFullFileName = szFilename then some .ptFirmware
  else if tIdentFileInfo.szFullFileName = szFilename then some .ptFirmware
  else none

/-- `request_firmware`, which leaves a null pointer if it finds nothing. -/
def request (s : FileLoader ι δ) (t : ι) (p : FirmwarePointer) (r : FirmwareRequest δ) :
    FileLoader ι δ :=
  let s := { s with asked := Function.update s.asked t (some r) }
  match r.found with
  | none => { s with pointer := Function.update s.pointer p none }
  | some data =>
    { s with
      pointer := Function.update s.pointer p (some s.next)
      data := Function.update s.data s.next data
      live := Function.update s.live s.next true
      next := s.next + 1 }

/-- The next statement of thread `t`; `instances` are the devices. -/
def statement (instances : δ → FileInstance) (s : FileLoader ι δ) (t : ι) (th : FileThread δ)
    (found : Option (List (BitVec 8))) : Option (FileLoader ι δ) :=
  match th.pc with
  | .setInstance =>
    let s := { s with sPdeviceinstance := some th.device }
    match th.file with
    | .bootloader =>
      some (s.goes t { th with szFullFileName := bootloaderFile.szFullFileName } .testInstance)
    | .firmware => some (s.goes t th .switchClass)
    | .identInfo =>
      some (s.goes t { th with
        szFullFileName := (identInfoFile (instances th.device)).szFullFileName } .testInstance)
  | .switchClass =>
    match s.sPdeviceinstance with
    | none => some (s.oops t)
    | some d =>
      some (s.goes t { th with
        szFullFileName := (firmwareFile (instances d).usDeviceClass).szFullFileName }
        .testInstance)
  | .testInstance =>
    if s.sPdeviceinstance = none then some (s.goes t th .notOpened)
    else some (s.goes t th .readInfo)
  | .readInfo =>
    match s.sPdeviceinstance with
    | none => some (s.oops t)
    | some d => some (s.goes t th (.readBootloader d))
  | .readBootloader netAnaInfo =>
    some (s.goes t th (.setBootloader netAnaInfo s.sPdeviceinstance))
  | .setBootloader netAnaInfo ptDevInst =>
    some ({ s with sPdeviceinstance := ptDevInst }.goes t th (.readFirmware netAnaInfo))
  | .readFirmware netAnaInfo =>
    some (s.goes t th (.setFirmware netAnaInfo s.sPdeviceinstance))
  | .setFirmware netAnaInfo ptDevInst =>
    some ({ s with sPdeviceinstance := ptDevInst }.goes t th (.switchFirmware netAnaInfo))
  | .switchFirmware netAnaInfo =>
    match s.sPdeviceinstance with
    | none => some (s.oops t)
    | some d =>
      some (s.goes t th (.readIdent netAnaInfo (firmwareFile (instances d).usDeviceClass)))
  | .readIdent netAnaInfo tFWFileInfo =>
    some (s.goes t th (.setIdent netAnaInfo tFWFileInfo s.sPdeviceinstance))
  | .setIdent netAnaInfo tFWFileInfo ptDevInst =>
    match ptDevInst with
    | none => some (s.oops t)
    | some d =>
      some ({ s with sPdeviceinstance := ptDevInst }.goes t th
        (.requestFirmware netAnaInfo tFWFileInfo (identInfoFile (instances d))))
  | .requestFirmware netAnaInfo tFWFileInfo tIdentFileInfo =>
    match pointerFor th.szFullFileName tFWFileInfo tIdentFileInfo with
    | none => some (s.goes t th .notOpened)
    | some p =>
      some ((s.request t p ⟨netAnaInfo, th.szFullFileName, found⟩).goes t th
        (if found.isSome then .takeFirmware p else .notOpened))
  | .takeFirmware p => some (s.goes t th (.takeSize p (s.pointer p)))
  | .takeSize p ptFW =>
    match s.pointer p, ptFW with
    | none, _ => some (s.oops t)
    | some _, none => some (s.goes t th .notOpened)
    | some n, some hFile =>
      some ({ s with fault := s.fault || !s.live n }.goes t th
        (.opened hFile (s.data n).length))
  | .clearInstance =>
    some { s with
      sPdeviceinstance := none
      threads := Function.update s.threads t none }
  | .notOpened | .opened _ _ | .copied _ _ => none

/-- `OS_FileRead` of the whole file. -/
def osFileRead (s : FileLoader ι δ) (t : ι) (th : FileThread δ) (hFile ullFileLen : ℕ) :
    FileLoader ι δ :=
  { s with fault := s.fault || !s.live hFile || (s.data hFile).length < ullFileLen }.goes t th
    (.copied hFile ((s.data hFile).take ullFileLen))

/-- `OS_FileClose` up to its last statement. -/
def osFileClose (s : FileLoader ι δ) (t : ι) (th : FileThread δ) (hFile : ℕ) : FileLoader ι δ :=
  { s with
    live := Function.update s.live hFile false
    fault := s.fault || !s.live hFile }.goes t th .clearInstance

end FileLoader

/-- A thread loads one file after the other. -/
def fileStep (instances : δ → FileInstance) (s : FileLoader ι δ) :
    FileAction ι δ → Option (FileLoader ι δ)
  | .load t device file =>
    let started := s.goes t
      { device := device, file := file, szFullFileName := [], pc := .setInstance } .setInstance
    match s.threads t with
    | none => some started
    | some th => if th.pc matches .notOpened then some started else none
  | .step t found => (s.threads t).bind fun th => s.statement instances t th found
  | .read t =>
    (s.threads t).bind fun th =>
      match th.pc with
      | .opened hFile ullFileLen => some (s.osFileRead t th hFile ullFileLen)
      | _ => none
  | .close t =>
    (s.threads t).bind fun th =>
      match th.pc with
      | .opened hFile _ | .copied hFile _ => some (s.osFileClose t th hFile)
      | _ => none

/-- Nothing has been loaded yet. -/
def FileLoader.start : FileLoader ι δ :=
  { sPdeviceinstance := none
    pointer := fun _ => none
    data := fun _ => []
    live := fun _ => false
    next := 0
    asked := fun _ => none
    threads := fun _ => none
    fault := false }

/-- The thread has set the instance for its own `OS_FileOpen`, which has not returned yet. -/
def FilePc.inside : FilePc δ → Bool
  | .setInstance | .notOpened | .opened _ _ | .copied _ _ | .clearInstance => false
  | _ => true

/-- Nobody else is opening a file. -/
def FileLoader.othersOutside (s : FileLoader ι δ) (t : ι) : Prop :=
  ∀ u, u ≠ t → ∀ th, s.threads u = some th → th.pc.inside = false

instance [Fintype ι] (s : FileLoader ι δ) (t : ι) : Decidable (s.othersOutside t) :=
  decidable_of_iff
    (∀ u, u ≠ t → (s.threads u).all (fun th => !th.pc.inside) = true) (by
      unfold FileLoader.othersOutside
      apply forall_congr'
      intro u
      cases s.threads u <;> simp)

/-- The statements in which a thread sets the instance on its own behalf. -/
def FilePc.setsInstance : FilePc δ → Bool
  | .setInstance | .clearInstance => true
  | _ => false

/-- A file is named, and the instance cleared, only while nobody else is opening one. -/
def opensAlone (s : FileLoader ι δ) : FileAction ι δ → Prop
  | .step t _ => (s.threads t).any (fun th => th.pc.setsInstance) = true → s.othersOutside t
  | .load _ _ _ | .read _ | .close _ => True

instance [Fintype ι] (s : FileLoader ι δ) (a : FileAction ι δ) : Decidable (opensAlone s a) :=
  match a with
  | .step t _ => inferInstanceAs (Decidable (_ = true → s.othersOutside t))
  | .load _ _ _ | .read _ | .close _ => isTrue trivial

end Steps

end NetanaDriver
