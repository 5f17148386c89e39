import Mathlib

/-! What registering a device creates in sysfs and for its DMA buffers (netana.c,
netana_sysfs.c), and what the error paths and the un-registration release of it. -/
namespace NetanaDriver

/-- The directories of a device that are plain kernel objects. -/
inductive BaseDir where
  | drvInfo
  | dma
  | devInfo
  | hw
  | conf
  | ctl
  deriving DecidableEq, Repr

/-- The attribute directories that a device has once. -/
inductive SingleDir where
  | sysdrvinfo
  | sysdevstate
  | devinfo
  | sysidentinfo
  | devfeature
  | fwerror
  | timeoutCtl
  | captureCtl
  | execCmd
  | piCtl
  | timeCtl
  | mbx
  deriving DecidableEq, Repr

inductive SysfsGroup where
  | filter
  | gpio
  | port
  | phy
  deriving DecidableEq, Repr

/-- What is created; a `groupEntry` is the attribute directory with this place in its group, and a
`dma` a DMA-info record. -/
inductive SysfsObj where
  | base (b : BaseDir)
  | single (d : SingleDir)
  | groupSet (g : SysfsGroup)
  | groupEntry (g : SysfsGroup) (i : ℕ)
  | dma (i : ℕ)
  deriving DecidableEq, Repr

/-- The steps that can fail. -/
inductive SysfsStep where
  | allocDmainfo
  | allocDma (i : ℕ)
  | allocDmaRecord (i : ℕ)
  | addDmaRecord (i : ℕ)
  | createBase (b : BaseDir)
  | allocType (d : SingleDir)
  | allocSingle (d : SingleDir)
  | addSingle (d : SingleDir)
  | createBin (d : SingleDir)
  | createSet (g : SysfsGroup)
  | allocGroup (g : SysfsGroup)
  | allocFilterBuffer (k : Fin 4)
  | allocEntry (g : SysfsGroup) (i : ℕ)
  | addEntry (g : SysfsGroup) (i : ℕ)
  | createFilterBin (i : ℕ) (k : Fin 4)
  deriving DecidableEq, Repr

/-- `netana_sysfs_groups`: which places of `attgroup` are set, if it is not null. -/
structure GroupState where
  kobj : Bool
  attgroup : Option (ℕ → Bool)
  attsize : ℕ
  attcnt : ℕ

/-- The pointers of a `netana_info`, as to whether they are null, and what has become of the memory
behind them. `released` counts how often it has been freed; `misused` says that a released object
has been used, and `fault` that another pointer has been misused. -/
structure RegState where
  baseDir : BaseDir → Bool
  singleDir : SingleDir → Bool
  groups : SysfsGroup → GroupState
  dmainfo : Option (ℕ → Bool)
  dmainfoFreed : Bool
  created : SysfsObj → Bool
  released : SysfsObj → ℕ
  misused : Bool
  fault : Bool

/-- The `netana_info` comes from `kzalloc`. -/
def RegState.init : RegState :=
  { baseDir := fun _ => false
    singleDir := fun _ => false
    groups := fun _ => { kobj := false, attgroup := none, attsize := 0, attcnt := 0 }
    dmainfo := none
    dmainfoFreed := false
    created := fun _ => false
    released := fun _ => 0
    misused := false
    fault := false }

/-- There is a pointer to the object. -/
def RegState.holds (s : RegState) : SysfsObj → Bool
  | .base b => s.baseDir b
  | .single d => s.singleDir d
  | .groupSet g => (s.groups g).kobj
  | .groupEntry g i => (s.groups g).attgroup.elim false fun a => a i
  | .dma i => s.dmainfo.elim false fun a => a i

/-- The type of the `device_info` directory has no `release`. -/
def SysfsObj.hasRelease (o : SysfsObj) : Bool := o != .single .devinfo

def RegState.create (o : SysfsObj) (s : RegState) : RegState :=
  { s with created := Function.update s.created o true }

def RegState.use (o : SysfsObj) (s : RegState) : RegState :=
  { s with misused := s.misused || decide (0 < s.released o) }

def RegState.kfree (o : SysfsObj) (s : RegState) : RegState :=
  { s with released := Function.update s.released o (s.released o + 1) }

/-- `kobject_put` drops the reference that the creation has left. A directory also waits for those
in it, which does not matter in the end if each of them is put. -/
def RegState.kobjectPut (o : SysfsObj) (s : RegState) : RegState :=
  if o.hasRelease then (s.use o).kfree o else s.use o

/-- `kobject_put` of every object that there is a pointer to. -/
def RegState.putHeld (os : List SysfsObj) (s : RegState) : RegState :=
  os.foldl (fun t o => if t.holds o then t.kobjectPut o else t) s

def RegState.setSingle (d : SingleDir) (s : RegState) : RegState :=
  { s with singleDir := Function.update s.singleDir d true }

def RegState.setGroup (g : SysfsGroup) (x : GroupState) (s : RegState) : RegState :=
  { s with groups := Function.update s.groups g x }

variable (ok : SysfsStep → Bool)

/-- `kobject_create_and_add` of a directory. -/
def createBase (b : BaseDir) (s : RegState) : RegState × Bool :=
  if ok (.createBase b) then
    ({ s.create (.base b) with baseDir := Function.update s.baseDir b true }, true)
  else (s, false)

/-- What most of the functions `nasysfs_create_...` do. -/
def createSingle (d : SingleDir) (s : RegState) : RegState × Bool :=
  if ok (.allocSingle d) = false then (s, false)
  else
    let s := s.create (.single d)
    if ok (.addSingle d) = false then (s.kobjectPut (.single d), false)
    else (s.setSingle d, true)

def nasysfsCreateDrvInfo := createSingle ok .sysdrvinfo
def nasysfsCreateDevStateInfo := createSingle ok .sysdevstate
def nasysfsCreateDevFeatures := createSingle ok .devfeature
def nasysfsCreateFwError := createSingle ok .fwerror
def nasysfsCreateCaptureCtl := createSingle ok .captureCtl
def nasysfsCreateExecCmd := createSingle ok .execCmd
def nasysfsCreatePiCfg := createSingle ok .piCtl
def nasysfsCreateTimeCfg := createSingle ok .timeCtl
def nasysfsCreateTimeoutCfg := createSingle ok .timeoutCtl

/-- `nasysfs_create_ident_info`. -/
def nasysfsCreateIdentInfo (s : RegState) : RegState × Bool :=
  let r := createSingle ok .sysidentinfo s
  if r.2 then (r.1, ok (.createBin .sysidentinfo)) else r

/-- `nasysfs_create_mbx_dir`, where the pointer is stored before the last check. -/
def nasysfsCreateMbxDir (s : RegState) : RegState × Bool :=
  let r := createSingle ok .mbx s
  if r.2 then
    if ok (.createBin .mbx) then r else (r.1.kobjectPut (.single .mbx), false)
  else r

/-- `nasysfs_create_dev_info`, where the pointer is stored before any check. -/
def nasysfsCreateDevInfo (s : RegState) : RegState × Bool :=
  if ok (.allocType .devinfo) = false then (s, false)
  else if ok (.allocSingle .devinfo) = false then (s, false)
  else
    let s := (s.create (.single .devinfo)).setSingle .devinfo
    if ok (.addSingle .devinfo) = false then (s.kfree (.single .devinfo), false)
    else if ok (.createBin .devinfo) = false then
      ((s.kobjectPut (.single .devinfo)).kfree (.single .devinfo), false)
    else (s, true)

/-- The loop of `cleanup_objset`: `while(--objcnt>0)`. -/
def cleanupEntries (g : SysfsGroup) : ℕ → RegState → RegState
  | 0, s => s
  | objcnt + 1, s =>
    if objcnt = 0 then s else cleanupEntries g objcnt (s.putHeld [.groupEntry g objcnt])

def cleanupObjset (g : SysfsGroup) (objcnt : ℕ) (s : RegState) : RegState :=
  let s := if (s.groups g).attgroup.isSome then cleanupEntries g objcnt s else s
  s.setGroup g { s.groups g with attgroup := none, attcnt := 0 }

/-- One round of the loop over the entries of a group; `attcnt` is what is stored as their
number. -/
def createEntry (g : SysfsGroup) (i attcnt : ℕ) (s : RegState) : RegState × Bool :=
  if ok (.allocEntry g i) = false then (s, false)
  else
    let s := s.create (.groupEntry g i)
    if ok (.addEntry g i) = false then (s.kfree (.groupEntry g i), false)
    else
      match (s.groups g).attgroup with
      -- the kernel stops here
      | none => ({ s with fault := true }, false)
      | some a =>
        (s.setGroup g { s.groups g with
          attgroup := some (Function.update a i true)
          attcnt := attcnt }, true)

def createEntries (g : SysfsGroup) (attcnt : ℕ → ℕ) : ℕ → RegState → RegState × Bool
  | 0, s => (s, true)
  | n + 1, s =>
    let r := createEntries g attcnt n s
    if r.2 then createEntry ok g n (attcnt n) r.1 else r

/-- The error path of a group. -/
def dropGroup (g : SysfsGroup) (s : RegState) : RegState :=
  let s := cleanupObjset g (s.groups g).attcnt s
  (s.setGroup g { s.groups g with kobj := false }).kobjectPut (.groupSet g)

/-- The directory of a group and the array for its entries. -/
def createSet (g : SysfsGroup) (attsize : ℕ) (s : RegState) : RegState :=
  (s.create (.groupSet g)).setGroup g
    { kobj := true
      attgroup := if ok (.allocGroup g) then some fun _ => false else none
      attsize := attsize
      attcnt := (s.groups g).attcnt }

/-- `nasysfs_create_filter_dir`. -/
def nasysfsCreateFilterDir (ulGpioCnt : ℕ) (s : RegState) : RegState × Bool :=
  if ulGpioCnt = 0 then (s, true)
  else if ok (.createSet .filter) = false then (s, false)
  else if ok (.allocGroup .filter) = false then
    ((s.create (.groupSet .filter)).kobjectPut (.groupSet .filter), false)
  else
    let s := createSet ok .filter ulGpioCnt s
    if ∃ k, ok (.allocFilterBuffer k) = false then
      -- the group is not known as such yet, but its array is
      ((s.setGroup .filter { s.groups .filter with kobj := false }).kobjectPut (.groupSet .filter),
        false)
    else
      let r := createEntries ok .filter (fun i => i + 1) ulGpioCnt s
      -- only the last binary file decides on what is returned
      if r.2 then (r.1, ok (.createFilterBin (ulGpioCnt - 1) 3)) else (dropGroup .filter r.1, false)

/-- `nasysfs_create_gpio_dir`, with one more entry for the voltage. -/
def nasysfsCreateGpioDir (ulGpioCnt : ℕ) (s : RegState) : RegState × Bool :=
  if ulGpioCnt = 0 then (s, true)
  else if ok (.createSet .gpio) = false then (s, false)
  else
    let r := createEntries ok .gpio (fun i => i) ulGpioCnt (createSet ok .gpio (ulGpioCnt + 1) s)
    let r := if r.2 then createEntry ok .gpio ulGpioCnt (ulGpioCnt + 1) r.1 else r
    if r.2 then r else (dropGroup .gpio r.1, false)

/-- What the functions for ports and PHYs do. Without ports they fail. -/
def createPorts (g : SysfsGroup) (ulPortCnt : ℕ) (s : RegState) : RegState × Bool :=
  if ulPortCnt = 0 then (s, false)
  else if ok (.createSet g) = false then (s, false)
  else
    let r := createEntries ok g (fun i => i + 1) ulPortCnt (createSet ok g ulPortCnt s)
    if r.2 then r else (dropGroup g r.1, false)

def nasysfsCreatePortDir := createPorts ok .port
def nasysfsCreatePhyDir := createPorts ok .phy

/-- Functions that are called in turn, up to the first that fails. -/
def runSteps : List (RegState → RegState × Bool) → RegState → RegState × Bool
  | [], s => (s, true)
  | f :: fs, s => if (f s).2 then runSteps fs (f s).1 else f s

/-- `remove_bin_files`. The loop takes the places of the group for those of its four files. -/
def removeBinFiles (s : RegState) : RegState :=
  let s :=
    match (s.groups .filter).attgroup with
    | none => s
    | some a =>
      (List.range 4).foldl (fun s i =>
        if i < (s.groups .filter).attsize then
          if a i then s.use (.groupEntry .filter i) else s
        else { s with fault := true }) s
  [SingleDir.devinfo, .sysidentinfo, .mbx].foldl
    (fun s d => if s.singleDir d then s.use (.single d) else s) s

def removeGroup (s : RegState) (g : SysfsGroup) : RegState :=
  if (s.groups g).kobj then
    (cleanupObjset g (s.groups g).attcnt s).kobjectPut (.groupSet g)
  else s

/-- The single directories in the order in which `clean_up_sysfs` puts them. -/
def cleanUpOrder : List SysfsObj :=
  [.single .captureCtl, .single .execCmd, .single .piCtl, .single .timeCtl, .single .timeoutCtl,
    .single .sysdrvinfo, .single .sysdevstate, .single .devfeature, .single .fwerror,
    .single .sysidentinfo, .single .devinfo, .single .mbx]

/-- `clean_up_sysfs`, without the buffers for the filters. -/
def cleanUpSysfs (s : RegState) : RegState :=
  [SysfsGroup.gpio, .port, .phy, .filter].foldl removeGroup
    ((removeBinFiles s).putHeld cleanUpOrder)

/-- `clean_up_sysfs`, and the basic kernel objects. -/
def cleanUpAll (s : RegState) : RegState :=
  (cleanUpSysfs s).putHeld [.base .ctl, .base .conf, .base .hw, .base .devInfo]

/-- The calls of `netana_create_sysfsentries`. -/
def sysfsSteps (ulGpioCnt ulPortCnt : ℕ) : List (RegState → RegState × Bool) :=
  [nasysfsCreateDrvInfo ok,
    createBase ok .devInfo, nasysfsCreateDevStateInfo ok, nasysfsCreateDevInfo ok,
    nasysfsCreateIdentInfo ok, nasysfsCreateDevFeatures ok, nasysfsCreateFwError ok,
    createBase ok .hw, nasysfsCreateFilterDir ok ulGpioCnt, nasysfsCreateGpioDir ok ulGpioCnt,
    nasysfsCreatePortDir ok ulPortCnt, nasysfsCreatePhyDir ok ulPortCnt,
    createBase ok .conf, nasysfsCreateTimeoutCfg ok,
    createBase ok .ctl, nasysfsCreateCaptureCtl ok, nasysfsCreateExecCmd ok,
    nasysfsCreatePiCfg ok, nasysfsCreateTimeCfg ok, nasysfsCreateMbxDir ok]

/-- `netana_create_sysfsentries`. -/
def netanaCreateSysfsentries (ulGpioCnt ulPortCnt : ℕ) (s : RegState) : RegState × Bool :=
  let r := if s.baseDir .drvInfo then runSteps (sysfsSteps ok ulGpioCnt ulPortCnt) s else (s, false)
  if r.2 then r else (cleanUpAll r.1, false)

/-- The DMA-info records, and how many of them there are in the end. The result of `kobject_add` is
compared as an unsigned number, so that it never counts as an error. -/
def createDmaRecords : ℕ → RegState → RegState × ℕ
  | 0, s => (s, 0)
  | n + 1, s =>
    let r := createDmaRecords n s
    if r.2 = n ∧ ok (.allocDmaRecord n) = true then
      ({ r.1.create (.dma n) with
          dmainfo := r.1.dmainfo.map fun a => Function.update a n true }, n + 1)
    else r

/-- `kfree(ptdeviceinfo->dmainfo)`; the pointer stays. -/
def RegState.freeDmainfo (s : RegState) : RegState :=
  { s with fault := s.fault || s.dmainfoFreed, dmainfoFreed := true }

/-- The loop at `err_dma_mem_info`: `while((lidx--)>0)`. -/
def dropDmaRecords : ℕ → RegState → RegState
  | 0, s => s
  | lidx + 1, s =>
    dropDmaRecords lidx
      (if s.holds (.dma lidx) then (s.kobjectPut (.dma lidx)).kfree (.dma lidx) else s)

/-- `netana_create_dma`, and whether it returns no error. -/
def netanaCreateDma (ulDMABufferCount : ℕ) (s : RegState) : RegState × Bool :=
  if ok .allocDmainfo = false then (s, false)
  else
    let r := createBase ok .drvInfo { s with dmainfo := some fun _ => false }
    if r.2 = false then (r.1.freeDmainfo, false)
    else
      let r := createBase ok .dma r.1
      if r.2 = false then (r.1.freeDmainfo, false)
      else if ∃ i < ulDMABufferCount, ok (.allocDma i) = false then
        ((r.1.kobjectPut (.base .dma)).freeDmainfo, false)
      else
        let q := createDmaRecords ok ulDMABufferCount r.1
        if q.2 = ulDMABufferCount then (q.1, true)
        else
          -- `ret` is what the last `kobject_add` has returned, if there has been one
          (((dropDmaRecords q.2 q.1).kobjectPut (.base .dma)).freeDmainfo,
            decide (0 < q.2) && ok (.addDmaRecord (q.2 - 1)))

/-- `netana_free_dma`. -/
def netanaFreeDma (ulDMABufferCount : ℕ) (s : RegState) : RegState :=
  let s := { s with fault := s.fault || s.dmainfoFreed }
  let s := (s.putHeld ((List.range ulDMABufferCount).map .dma)).freeDmainfo
  s.putHeld [.base .dma, .base .drvInfo]

/-- `netana_registerdevice`, where all else goes well; its error paths included. -/
def registerSysfs (ulDMABufferCount ulGpioCnt ulPortCnt : ℕ) (s : RegState) : RegState × Bool :=
  let r := netanaCreateDma ok ulDMABufferCount s
  if r.2 then
    let q := netanaCreateSysfsentries ok ulGpioCnt ulPortCnt r.1
    if q.2 then q else (netanaFreeDma ulDMABufferCount q.1, false)
  else r

/-- `netana_unregisterdevice`. -/
def unregisterSysfs (ulDMABufferCount : ℕ) (s : RegState) : RegState :=
  cleanUpAll (netanaFreeDma ulDMABufferCount s)

/-- A registration, and the un-registration if it has succeeded. -/
def registration (ulDMABufferCount ulGpioCnt ulPortCnt : ℕ) : RegState :=
  let r := registerSysfs ok ulDMABufferCount ulGpioCnt ulPortCnt .init
  if r.2 then unregisterSysfs ulDMABufferCount r.1 else r.1

/-- All that has been created has been released once, and nothing has been used after that. -/
structure RegState.Balanced (s : RegState) : Prop where
  released : ∀ o, s.released o = if s.created o then 1 else 0
  used : s.misused = false
  sound : s.fault = false

end NetanaDriver
