import NetanaDriver.CaptureRing
import NetanaDriver.SysfsRegistration

/-! The module parameters for the DMA buffers, from `netana_registerdevice` and
`netana_create_dma` (netana.c) to the indices in `netana_start_capture` (toolkit/netana_functions.c)
and `netana_tkit_process` (toolkit/netana_capture.c). -/
namespace NetanaDriver
open ToggleHandshake StepRuns

def netanaMaxDmaBuffers : ℕ := 32

/-- The parameters of the module, `unsigned long` with 64 bits; zero where none is given. -/
structure ModuleParams where
  ulDMABufferCount : BitVec 64
  ulDMABufferSize : BitVec 64
  ulDMABufferTimeout : BitVec 64
  deriving DecidableEq, Repr

/-- The settings of the toolkit, which all devices share. -/
structure DmaSettings where
  g_ulDMABufferCount : BitVec 32
  g_ulDMABufferSize : BitVec 32
  g_ulDMABufferTimeout : BitVec 32
  deriving DecidableEq, Repr

/-- `NETANA_DEFAULT_DMABUFFERS`, `NETANA_DEFAULT_DMABUFFER_SIZE` and
`NETANA_DEFAULT_DMABUFFER_TIMEOUT`. -/
def defaultSettings : DmaSettings where
  g_ulDMABufferCount := 8#32
  g_ulDMABufferSize := 0x80000#32
  g_ulDMABufferTimeout := 5#32

/-- What `netana_registerdevice` makes of the parameters. -/
def takeParams (p : ModuleParams) (g : DmaSettings) : DmaSettings :=
  if p.ulDMABufferSize ≠ 0#64 then
    { g with g_ulDMABufferSize := p.ulDMABufferSize.setWidth 32 }
  else if p.ulDMABufferCount ≠ 0#64 then
    { g with g_ulDMABufferCount := p.ulDMABufferCount.setWidth 32 }
  else if p.ulDMABufferTimeout ≠ 0#64 then
    { g with g_ulDMABufferTimeout := p.ulDMABufferTimeout.setWidth 32 }
  else g

/-- The arrays with `NETANA_MAX_DMA_BUFFERS` elements, and the mask of 32 bits. -/
inductive DmaArray where
  | atDMABuffers
  | atDmaBuffers
  | aulUsedBufferSize
  | ulBufferMask
  deriving DecidableEq, Repr

/-- An index into one of them, or the amount of a shift. -/
structure DmaAccess where
  array : DmaArray
  index : ℕ
  deriving DecidableEq, Repr

def DmaAccess.InRange (a : DmaAccess) : Prop := a.index < netanaMaxDmaBuffers

/-- A loop over `n` buffers from `lidx` on that ends early where `ok` fails: the indices that it
uses, and the index that it ends with. -/
def dmaLoop (ok : ℕ → Bool) : ℕ → ℕ → List ℕ × ℕ
  | lidx, 0 => ([], lidx)
  | lidx, n + 1 =>
    if ok lidx then
      let r := dmaLoop ok (lidx + 1) n
      (lidx :: r.1, r.2)
    else ([lidx], lidx)

/-- What can fail while a device is registered. -/
structure RegisterEnv (β : Type*) where
  -- the class, the device structure, the minor number and the device
  fPrepared : Bool
  -- the steps of netana_create_dma
  ok : SysfsStep → Bool
  -- the DSR thread, netana_tkit_deviceadd and the sysfs entries
  fAdded : Bool
  usFlags : BitVec 16
  content : ℕ → β

variable {β : Type*}

/-- How many DMA-info records `netana_create_dma` makes. -/
def RegisterEnv.records (env : RegisterEnv β) (n : ℕ) : ℕ := (createDmaRecords env.ok n dmaDirs).2

/-- The indices into `atDMABuffers` in `netana_create_dma`. -/
def RegisterEnv.createIndices (env : RegisterEnv β) (n : ℕ) : List ℕ :=
  if env.ok .allocDmainfo = false ∨ env.ok (.createBase .drvInfo) = false ∨
      env.ok (.createBase .dma) = false then []
  else
    let r := dmaLoop (fun lidx => env.ok (.allocDma lidx)) 0 n
    -- the buffers so far are freed from the last to the first
    if r.2 < n then r.1 ++ (List.range r.2).reverse
    -- a record is filled once it is allocated; where that fails all buffers are freed
    else if env.records n < n then r.1 ++ List.range (env.records n) ++ (List.range n).reverse
    else r.1 ++ List.range n

/-- `netana_create_dma`: whether it returns no error, and the indices into `atDMABuffers`. -/
def RegisterEnv.netanaCreateDma (env : RegisterEnv β) (g : DmaSettings) : Bool × List ℕ :=
  ((NetanaDriver.netanaCreateDma env.ok g.g_ulDMABufferCount.toNat .init).2,
    env.createIndices g.g_ulDMABufferCount.toNat)

/-- The driver: the settings, the devices that are registered, and the history of the indices. -/
structure DmaSystem (β : Type*) where
  settings : DmaSettings
  devices : ℕ → Option (DrvState β)
  accesses : List DmaAccess

def DmaSystem.note (x : DmaSystem β) (as : List DmaAccess) : DmaSystem β :=
  { x with accesses := x.accesses ++ as }

/-- A device changes. -/
def DmaSystem.set (x : DmaSystem β) (d : ℕ) (s : Option (DrvState β)) : DmaSystem β :=
  { x with devices := Function.update x.devices d s }

def bufferAccesses (is : List ℕ) : List DmaAccess := is.map fun i => ⟨.atDMABuffers, i⟩

/-- `netana_free_dma`. -/
def freeDma (g : DmaSettings) : List DmaAccess :=
  bufferAccesses (List.range g.g_ulDMABufferCount.toNat)

/-- The device structure is cleared before the DMA buffers are entered; their number comes last in
`netana_create_dma`, which may have left before. -/
def registeredDevice (env : RegisterEnv β) (g : DmaSettings) : DrvState β :=
  let ulDMABufferCount := if env.records g.g_ulDMABufferCount.toNat = g.g_ulDMABufferCount.toNat
    then g.g_ulDMABufferCount.toNat else 0
  { restingDevice env.usFlags ulDMABufferCount g.g_ulDMABufferSize env.content with
    pfnData := false
    pfnStatus := false }

/-- `netana_registerdevice`. -/
def DmaSystem.netanaRegisterdevice (p : ModuleParams) (d : ℕ) (env : RegisterEnv β)
    (x : DmaSystem β) : DmaSystem β :=
  let g := takeParams p x.settings
  let x := { x with settings := g }
  if env.fPrepared = false then x
  else
    let r := RegisterEnv.netanaCreateDma env g
    let x := x.note (bufferAccesses r.2)
    if r.1 = false then x
    else if env.fAdded = false then x.note (freeDma g)
    else x.set d (some (registeredDevice env g))

/-- The loop of `netana_start_capture` over the DMA buffers. -/
def startAccesses (s : DrvState β) : List DmaAccess :=
  (List.range s.ulDMABufferCount).flatMap fun ulIdx =>
    [⟨.atDmaBuffers, ulIdx⟩, ⟨.atDMABuffers, ulIdx⟩]

/-- The indices that the next statement of `netana_tkit_process` uses. -/
def processAccesses (s : DrvState β) : List DmaAccess :=
  match s.dsr with
  | .testNewData l =>
    if maskTest l.ulUnequalFlags (1#32 <<< newdataBit) then
      [⟨.ulBufferMask, s.ulCurrentBuffer⟩]
    else []
  | .readSize _ => [⟨.atDMABuffers, s.ulCurrentBuffer⟩, ⟨.aulUsedBufferSize, s.ulCurrentBuffer⟩]
  | .testSize _ => [⟨.atDMABuffers, s.ulCurrentBuffer⟩]
  | .writeFile _ => if s.fWriteToFile then [⟨.atDMABuffers, s.ulCurrentBuffer⟩] else []
  | .callData _ => if s.pfnData then [⟨.atDMABuffers, s.ulCurrentBuffer⟩] else []
  | .advance _ => [⟨.ulBufferMask, nextBuffer s.ulDMABufferCount s.ulCurrentBuffer⟩]
  | _ => []

/-- What the firmware may write at any time. -/
structure FirmwareWrite (β : Type*) where
  usNetxFlags : BitVec 16
  netxBufferFlags : BitVec 32
  aulUsedBufferSize : ℕ → BitVec 32
  ulCaptureState : BitVec 32
  ulCaptureError : BitVec 32
  content : ℕ → β

inductive DmaAction (β : Type*) where
  | register (d : ℕ) (env : RegisterEnv β)
  | unregister (d : ℕ)
  -- netana_start_capture up to the end of its loop, and the reset of the current buffer after it
  | startCapture (d : ℕ) (fWriteToFile pfnData pfnStatus : Bool)
  | rewind (d : ℕ)
  | isr (d : ℕ) (ulIRQState_0 : BitVec 32)
  | dsr (d : ℕ) (c : DsrChoice)
  | toggle (d ulBit : ℕ)
  | firmware (d : ℕ) (w : FirmwareWrite β)

/-- An action of a device that is registered. -/
def DmaSystem.onDevice (x : DmaSystem β) (d : ℕ) (accesses : DrvState β → List DmaAccess)
    (f : DrvState β → Option (DrvState β)) : Option (DmaSystem β) :=
  (x.devices d).bind fun s => (f s).map fun t => (x.note (accesses s)).set d (some t)

def dmaStep (p : ModuleParams) (x : DmaSystem β) : DmaAction β → Option (DmaSystem β)
  | .register d env =>
    if (x.devices d).isSome then none else some (DmaSystem.netanaRegisterdevice p d env x)
  | .unregister d =>
    if (x.devices d).isSome then some ((x.note (freeDma x.settings)).set d none) else none
  | .startCapture d fWriteToFile pfnData pfnStatus => x.onDevice d startAccesses fun s =>
      some { s with
        hostBufferFlags := 0#32
        fWriteToFile := fWriteToFile
        pfnData := pfnData
        pfnStatus := pfnStatus }
  | .rewind d => x.onDevice d (fun _ => []) fun s => some { s with ulCurrentBuffer := 0 }
  | .isr d ulIRQState_0 => x.onDevice d (fun _ => []) fun s => some (netanaIsr ulIRQState_0 s)
  | .dsr d c => x.onDevice d processAccesses (dsrStep c)
  | .toggle d ulBit => x.onDevice d (fun _ => []) (netanaTkitToggleBit ulBit)
  | .firmware d w => x.onDevice d (fun _ => []) fun s =>
      some { s with
        usNetxFlags := w.usNetxFlags
        netxBufferFlags := w.netxBufferFlags
        aulUsedBufferSize := w.aulUsedBufferSize
        ulCaptureState := w.ulCaptureState
        ulCaptureError := w.ulCaptureError
        pvBufferAddress := w.content }

/-- The module has been loaded. -/
def DmaSystem.start : DmaSystem β := ⟨defaultSettings, fun _ => none, []⟩

/-- A parameter that is not zero is in effect, and one that is zero leaves the default. -/
def InEffect (ulParam : BitVec 64) (ulDefault g : BitVec 32) : Prop :=
  g.toNat = if ulParam = 0#64 then ulDefault.toNat else ulParam.toNat

/-- Once a device is registered, all parameters are in effect, for the settings and for the device,
and the number of buffers is in range; and no index has ever been out of range. -/
structure DmaSystem.Honours (p : ModuleParams) (x : DmaSystem β) : Prop where
  settings : ∀ d s, x.devices d = some s →
    InEffect p.ulDMABufferCount defaultSettings.g_ulDMABufferCount
        x.settings.g_ulDMABufferCount ∧
      InEffect p.ulDMABufferSize defaultSettings.g_ulDMABufferSize
        x.settings.g_ulDMABufferSize ∧
      InEffect p.ulDMABufferTimeout defaultSettings.g_ulDMABufferTimeout
        x.settings.g_ulDMABufferTimeout
  device : ∀ d s, x.devices d = some s →
    s.ulDMABufferCount = x.settings.g_ulDMABufferCount.toNat ∧
      ∀ i < s.ulDMABufferCount, s.ulBufferSize i = x.settings.g_ulDMABufferSize
  count : ∀ d s, x.devices d = some s →
    1 ≤ s.ulDMABufferCount ∧ s.ulDMABufferCount ≤ netanaMaxDmaBuffers
  range : ∀ a ∈ x.accesses, a.InRange

/-- The parameters fit into the settings, the count in the range of the arrays, and of the three
only the first that is not zero (size, count, timeout) differs from its default. -/
structure ModuleParams.Honourable (p : ModuleParams) : Prop where
  size : p.ulDMABufferSize.toNat < 2 ^ 32
  count : p.ulDMABufferCount.toNat ≤ netanaMaxDmaBuffers
  timeout : p.ulDMABufferTimeout.toNat < 2 ^ 32
  countTaken : p.ulDMABufferSize ≠ 0#64 → p.ulDMABufferCount = 0#64 ∨ p.ulDMABufferCount = 8#64
  timeoutTaken : p.ulDMABufferSize ≠ 0#64 ∨ p.ulDMABufferCount ≠ 0#64 →
    p.ulDMABufferTimeout = 0#64 ∨ p.ulDMABufferTimeout = 5#64

/-- All of a registration succeeds but the allocation of a DMA-info record that is not the first: it
comes after a `kobject_add` without an error, whose 0 `netana_create_dma` returns once it has freed
the buffers. -/
structure RegisterEnv.LosesBuffers (env : RegisterEnv β) (n : ℕ) : Prop where
  prepared : env.fPrepared = true
  dmainfo : env.ok .allocDmainfo = true
  drvInfo : env.ok (.createBase .drvInfo) = true
  dma : env.ok (.createBase .dma) = true
  buffers : ∀ i < n, env.ok (.allocDma i) = true
  record : ∃ k, 0 < k ∧ k < n ∧ (∀ i < k, env.ok (.allocDmaRecord i) = true) ∧
    env.ok (.allocDmaRecord k) = false ∧ env.ok (.addDmaRecord (k - 1)) = true
  added : env.fAdded = true

/-- What the parameters come to, however many devices are registered. -/
def ModuleParams.effective (p : ModuleParams) : DmaSettings := takeParams p defaultSettings

/-- The action is such a registration. -/
def DmaAction.LosesBuffers (p : ModuleParams) : DmaAction β → Prop
  | .register _ env => env.LosesBuffers p.effective.g_ulDMABufferCount.toNat
  | _ => False

theorem takeParams_effective (p : ModuleParams) : takeParams p p.effective = p.effective := by
  unfold ModuleParams.effective takeParams
  by_cases hsize : p.ulDMABufferSize ≠ 0#64
  · simp only [if_pos hsize]
  · simp only [if_neg hsize]
    by_cases hcount : p.ulDMABufferCount ≠ 0#64
    · simp only [if_pos hcount]
    · simp only [if_neg hcount]
      by_cases htimeout : p.ulDMABufferTimeout ≠ 0#64
      · simp only [if_pos htimeout]
      · simp only [if_neg htimeout]

/-- The settings honour the parameters, and the count is in range. -/
structure ModuleParams.Taken (p : ModuleParams) : Prop where
  count : InEffect p.ulDMABufferCount defaultSettings.g_ulDMABufferCount
    p.effective.g_ulDMABufferCount
  size : InEffect p.ulDMABufferSize defaultSettings.g_ulDMABufferSize
    p.effective.g_ulDMABufferSize
  timeout : InEffect p.ulDMABufferTimeout defaultSettings.g_ulDMABufferTimeout
    p.effective.g_ulDMABufferTimeout
  range : 1 ≤ p.effective.g_ulDMABufferCount.toNat ∧
    p.effective.g_ulDMABufferCount.toNat ≤ netanaMaxDmaBuffers

/-- A parameter that is taken over is in effect exactly where it has 32 bits. -/
theorem inEffect_taken {ulParam : BitVec 64} (ulDefault : BitVec 32) (hne : ulParam ≠ 0#64) :
    InEffect ulParam ulDefault (ulParam.setWidth 32) ↔ ulParam.toNat < 2 ^ 32 := by
  rw [InEffect, if_neg hne, BitVec.toNat_setWidth]
  omega

/-- One that is left out is in effect exactly where it is zero or the default. -/
theorem inEffect_default (ulParam : BitVec 64) (ulDefault : BitVec 32) :
    InEffect ulParam ulDefault ulDefault ↔
      ulParam = 0#64 ∨ ulParam = ulDefault.setWidth 64 := by
  rw [InEffect]
  by_cases hzero : ulParam = 0#64
  · rw [if_pos hzero]
    exact ⟨fun _ => Or.inl hzero, fun _ => rfl⟩
  · have hwide : (ulDefault.setWidth 64).toNat = ulDefault.toNat := by
      rw [BitVec.toNat_setWidth]
      exact Nat.mod_eq_of_lt (by omega)
    rw [if_neg hzero]
    constructor
    · intro h
      apply Or.inr
      apply BitVec.eq_of_toNat_eq
      rw [hwide, h]
    · rintro (h | h)
      · exact absurd h hzero
      · rw [h, hwide]

/-- A parameter that is taken over unless it is zero. -/
theorem inEffect_given (ulParam : BitVec 64) (ulDefault : BitVec 32) :
    InEffect ulParam ulDefault (if ulParam ≠ 0#64 then ulParam.setWidth 32 else ulDefault) ↔
      ulParam.toNat < 2 ^ 32 := by
  by_cases hne : ulParam ≠ 0#64
  · rw [if_pos hne]
    exact inEffect_taken ulDefault hne
  · have hzero : ulParam = 0#64 := not_not.mp hne
    rw [if_neg hne, inEffect_default, hzero]
    exact iff_of_true (Or.inl rfl) (by decide)

section Effective

variable (p : ModuleParams)

/-- The settings that the parameters come to, one by one. -/
theorem effective_size : p.effective.g_ulDMABufferSize =
    if p.ulDMABufferSize ≠ 0#64 then p.ulDMABufferSize.setWidth 32
    else defaultSettings.g_ulDMABufferSize := by
  unfold ModuleParams.effective takeParams
  split_ifs
  all_goals rfl

theorem effective_count : p.effective.g_ulDMABufferCount =
    if p.ulDMABufferSize ≠ 0#64 then defaultSettings.g_ulDMABufferCount
    else if p.ulDMABufferCount ≠ 0#64 then p.ulDMABufferCount.setWidth 32
    else defaultSettings.g_ulDMABufferCount := by
  unfold ModuleParams.effective takeParams
  split_ifs
  all_goals rfl

theorem effective_timeout : p.effective.g_ulDMABufferTimeout =
    if p.ulDMABufferSize ≠ 0#64 then defaultSettings.g_ulDMABufferTimeout
    else if p.ulDMABufferCount ≠ 0#64 then defaultSettings.g_ulDMABufferTimeout
    else if p.ulDMABufferTimeout ≠ 0#64 then p.ulDMABufferTimeout.setWidth 32
    else defaultSettings.g_ulDMABufferTimeout := by
  unfold ModuleParams.effective takeParams
  split_ifs
  all_goals rfl

/-- When each of the three is in effect. -/
theorem size_inEffect_iff : InEffect p.ulDMABufferSize defaultSettings.g_ulDMABufferSize
    p.effective.g_ulDMABufferSize ↔ p.ulDMABufferSize.toNat < 2 ^ 32 := by
  rw [effective_size]
  exact inEffect_given _ _

theorem count_inEffect_iff : InEffect p.ulDMABufferCount defaultSettings.g_ulDMABufferCount
    p.effective.g_ulDMABufferCount ↔
      if p.ulDMABufferSize ≠ 0#64 then p.ulDMABufferCount = 0#64 ∨ p.ulDMABufferCount = 8#64
      else p.ulDMABufferCount.toNat < 2 ^ 32 := by
  rw [effective_count]
  by_cases hsize : p.ulDMABufferSize ≠ 0#64
  · rw [if_pos hsize, if_pos hsize]
    exact inEffect_default _ _
  · rw [if_neg hsize, if_neg hsize]
    exact inEffect_given _ _

theorem timeout_inEffect_iff : InEffect p.ulDMABufferTimeout defaultSettings.g_ulDMABufferTimeout
    p.effective.g_ulDMABufferTimeout ↔
      if p.ulDMABufferSize ≠ 0#64 ∨ p.ulDMABufferCount ≠ 0#64 then
        p.ulDMABufferTimeout = 0#64 ∨ p.ulDMABufferTimeout = 5#64
      else p.ulDMABufferTimeout.toNat < 2 ^ 32 := by
  rw [effective_timeout]
  by_cases hsize : p.ulDMABufferSize ≠ 0#64
  · rw [if_pos hsize, if_pos (Or.inl hsize)]
    exact inEffect_default _ _
  rw [if_neg hsize]
  by_cases hcount : p.ulDMABufferCount ≠ 0#64
  · rw [if_pos hcount, if_pos (Or.inr hcount)]
    exact inEffect_default _ _
  · rw [if_neg hcount, if_neg (not_or.mpr ⟨hsize, hcount⟩)]
    exact inEffect_given _ _

/-- A count that is in effect is in range exactly where the parameter is. -/
theorem count_range_iff {ulParam : BitVec 64} {g : BitVec 32}
    (h : InEffect ulParam defaultSettings.g_ulDMABufferCount g) :
    (1 ≤ g.toNat ∧ g.toNat ≤ netanaMaxDmaBuffers) ↔ ulParam.toNat ≤ netanaMaxDmaBuffers := by
  rw [InEffect] at h
  by_cases hzero : ulParam = 0#64
  · rw [h, if_pos hzero, hzero]
    exact iff_of_true (by decide) (by decide)
  · have hpos : 0 < ulParam.toNat := Nat.pos_of_ne_zero fun h0 => hzero (BitVec.eq_of_toNat_eq h0)
    rw [h, if_neg hzero]
    exact and_iff_right hpos

/-- The parameters are taken exactly where they can be honoured. -/
theorem taken_iff : p.Taken ↔ p.Honourable := by
  constructor
  · intro h
    have hcount := (count_inEffect_iff p).mp h.count
    have htimeout := (timeout_inEffect_iff p).mp h.timeout
    refine ⟨(size_inEffect_iff p).mp h.size, (count_range_iff h.count).mp h.range, ?_,
      fun hsize => ?_, fun hbefore => ?_⟩
    · -- a timeout that is left out is the default or zero
      split at htimeout
      · rcases htimeout with hzero | hdefault
        · rw [hzero]
          decide
        · rw [hdefault]
          decide
      · exact htimeout
    · rwa [if_pos hsize] at hcount
    · rwa [if_pos hbefore] at htimeout
  · intro h
    have hcount := (count_inEffect_iff p).mpr (by
      by_cases hsize : p.ulDMABufferSize ≠ 0#64
      · rw [if_pos hsize]
        exact h.countTaken hsize
      · rw [if_neg hsize]
        exact lt_of_le_of_lt h.count (by decide))
    have htimeout := (timeout_inEffect_iff p).mpr (by
      by_cases hbefore : p.ulDMABufferSize ≠ 0#64 ∨ p.ulDMABufferCount ≠ 0#64
      · rw [if_pos hbefore]
        exact h.timeoutTaken hbefore
      · rw [if_neg hbefore]
        exact h.timeout)
    exact ⟨hcount, (size_inEffect_iff p).mpr h.size, htimeout, (count_range_iff hcount).mpr h.count⟩

end Effective

theorem dmaLoop_bounds (ok : ℕ → Bool) (lidx n : ℕ) :
    (∀ i ∈ (dmaLoop ok lidx n).1, i < lidx + n) ∧ (dmaLoop ok lidx n).2 ≤ lidx + n := by
  induction n generalizing lidx with
  | zero =>
    refine ⟨fun i hi => ?_, le_refl _⟩
    cases hi
  | succ n ih =>
    obtain ⟨hlt, hle⟩ := ih (lidx + 1)
    rw [dmaLoop]
    split
    · refine ⟨?_, by dsimp only; omega⟩
      rw [List.forall_mem_cons]
      refine ⟨by omega, fun i hi => ?_⟩
      have h := hlt i hi
      omega
    · refine ⟨?_, by dsimp only; omega⟩
      rw [List.forall_mem_singleton]
      omega

section CreateDma
variable (env : RegisterEnv β)

/-- The records end with the first that cannot be allocated. -/
theorem records_spec (n : ℕ) : env.records n ≤ n ∧
    (∀ i < env.records n, env.ok (.allocDmaRecord i) = true) ∧
    (env.records n < n → env.ok (.allocDmaRecord (env.records n)) = false) := by
  obtain ⟨hle, hok, hstop, -⟩ := createDmaRecords_spec env.ok (s := dmaDirs) rfl n
  exact ⟨hle, hok, hstop⟩

theorem records_eq {n k : ℕ} (hk : k < n) (hbelow : ∀ i < k, env.ok (.allocDmaRecord i) = true)
    (hfail : env.ok (.allocDmaRecord k) = false) : env.records n = k := by
  obtain ⟨-, hok, hstop⟩ := records_spec env n
  rcases Nat.lt_trichotomy (env.records n) k with hlt | heq | hgt
  · have hno := hstop (hlt.trans hk)
    rw [hbelow _ hlt] at hno
    cases hno
  · exact heq
  · have hyes := hok k hgt
    rw [hfail] at hyes
    cases hyes

/-- The indices of `netana_create_dma` lie below the number of buffers. -/
theorem createIndices_bounds (n : ℕ) : ∀ i ∈ env.createIndices n, i < n := by
  obtain ⟨hbuffers, hend⟩ := dmaLoop_bounds (fun lidx => env.ok (.allocDma lidx)) 0 n
  rw [Nat.zero_add] at hbuffers hend
  have hrange (m : ℕ) (hm : m ≤ n) : ∀ i ∈ List.range m, i < n := by
    intro i hi
    exact lt_of_lt_of_le (List.mem_range.mp hi) hm
  have hreverse (m : ℕ) (hm : m ≤ n) : ∀ i ∈ (List.range m).reverse, i < n := by
    intro i hi
    exact hrange m hm i (List.mem_reverse.mp hi)
  unfold RegisterEnv.createIndices
  split
  · intro i hi
    cases hi
  dsimp only
  split
  · rw [List.forall_mem_append]
    exact ⟨hbuffers, hreverse _ hend⟩
  split
  · rw [List.forall_mem_append, List.forall_mem_append]
    exact ⟨⟨hbuffers, hrange _ (records_spec env n).1⟩, hreverse _ le_rfl⟩
  · rw [List.forall_mem_append]
    exact ⟨hbuffers, hrange _ le_rfl⟩

/-- When `netana_create_dma` returns no error. -/
theorem createDma_ret_iff (n : ℕ) : (NetanaDriver.netanaCreateDma env.ok n .init).2 = true ↔
    env.ok .allocDmainfo = true ∧ env.ok (.createBase .drvInfo) = true ∧
      env.ok (.createBase .dma) = true ∧ (∀ i < n, env.ok (.allocDma i) = true) ∧
      (env.records n = n ∨
        (0 < env.records n ∧ env.ok (.addDmaRecord (env.records n - 1)) = true)) := by
  by_cases hinfo : env.ok .allocDmainfo = true
  · by_cases hdrv : env.ok (.createBase .drvInfo) = true
    · by_cases hdma : env.ok (.createBase .dma) = true
      · have hbase : (createBase env.ok .drvInfo { RegState.init with
            dmainfo := some fun _ => false }).2 = true := (createBase_snd _ _).trans hdrv
        by_cases hbuffers : ∃ i < n, env.ok (.allocDma i) = false
        · have hnot : ¬ ∀ i < n, env.ok (.allocDma i) = true := by
            obtain ⟨i, hi, hfail⟩ := hbuffers
            intro hall
            rw [hall i hi] at hfail
            cases hfail
          simp [netanaCreateDma, hinfo, hbase, dmaDirs_eq hdrv hdma, hbuffers, hnot]
        · have hall : ∀ i < n, env.ok (.allocDma i) = true := by
            push Not at hbuffers
            exact fun i hi => Bool.eq_true_of_not_eq_false (hbuffers i hi)
          by_cases hrecords : (createDmaRecords env.ok n dmaDirs).2 = n
          · have hret : (NetanaDriver.netanaCreateDma env.ok n .init).2 = true := by
              simp only [netanaCreateDma, hinfo, hbase, dmaDirs_eq hdrv hdma, hbuffers, hrecords,
                Bool.true_eq_false, if_false, if_true]
            exact iff_of_true hret ⟨hinfo, hdrv, hdma, hall, Or.inl hrecords⟩
          · have hret : (NetanaDriver.netanaCreateDma env.ok n .init).2 =
                (decide (0 < env.records n) && env.ok (.addDmaRecord (env.records n - 1))) := by
              simp only [netanaCreateDma, hinfo, hbase, dmaDirs_eq hdrv hdma, hbuffers, hrecords,
                Bool.true_eq_false, if_false]
              rfl
            have hless : ¬ env.records n = n := hrecords
            rw [hret, Bool.and_eq_true, decide_eq_true_eq]
            simp only [hinfo, hdrv, hdma, hless, true_and, false_or]
            exact ⟨fun h => ⟨hall, h⟩, fun h => h.2⟩
      · have hfail : (NetanaDriver.netanaCreateDma env.ok n .init).2 = false := by
          simp [netanaCreateDma, createBase, hinfo, hdrv, hdma]
        simp [hfail, hdma]
    · have hfail : (NetanaDriver.netanaCreateDma env.ok n .init).2 = false := by
        simp [netanaCreateDma, createBase, hinfo, hdrv]
      simp [hfail, hdrv]
  · have hfail : (NetanaDriver.netanaCreateDma env.ok n .init).2 = false := by
      simp [netanaCreateDma, hinfo]
    simp [hfail, hinfo]

/-- A registration that succeeds has all of its records, or its buffers are lost. -/
theorem records_all {n : ℕ} (hprepared : env.fPrepared = true) (hadded : env.fAdded = true)
    (hret : (NetanaDriver.netanaCreateDma env.ok n .init).2 = true)
    (hkept : ¬ env.LosesBuffers n) : env.records n = n := by
  obtain ⟨hinfo, hdrv, hdma, hbuffers, hrecords⟩ := (createDma_ret_iff env n).mp hret
  rcases hrecords with hall | ⟨hpos, hadd⟩
  · exact hall
  · by_contra hne
    obtain ⟨hle, hok, hstop⟩ := records_spec env n
    have hlt := Nat.lt_of_le_of_ne hle hne
    exact hkept ⟨hprepared, hinfo, hdrv, hdma, hbuffers,
      ⟨_, hpos, hlt, hok, hstop hlt, hadd⟩, hadded⟩

end CreateDma

/-- A statement of the DSR leaves the current buffer or goes on to the next. -/
theorem dsrStep_current {s t : DrvState β} {c : DsrChoice} (h : dsrStep c s = some t) :
    t.ulCurrentBuffer = s.ulCurrentBuffer ∨
      t.ulCurrentBuffer = nextBuffer s.ulDMABufferCount s.ulCurrentBuffer := by
  cases hin : s.dsr.inProcess with
  | false =>
    obtain ⟨hsame, -, -⟩ := dsrStep_outside h hin
    exact Or.inl hsame.current
  | true =>
    rw [dsrStep] at h
    cases hpc : s.dsr
    all_goals rw [hpc] at hin
    all_goals first | cases hin; done | skip
    all_goals
      rw [hpc] at h
      dsimp only at h
    case toggleData | toggleStatus =>
      obtain ⟨u, hu, rfl⟩ := Option.map_eq_some_iff.mp h
      exact Or.inl (toggleStep_same hu).current
    case rejectBuffer l =>
      obtain ⟨u, hu, rfl⟩ := Option.map_eq_some_iff.mp h
      exact Or.inl (netanaSignalDriverError_same hu).current
    case writeFile l =>
      split at h
      · obtain ⟨u, hu, rfl⟩ := Option.map_eq_some_iff.mp h
        exact Or.inl (netanaSignalDriverError_same hu).current
      · cases h
        exact Or.inl rfl
    case advance l =>
      cases h
      exact Or.inr rfl
    case testOff state =>
      split at h
      all_goals
        cases h
        exact Or.inl rfl
    all_goals
      cases h
      exact Or.inl rfl

theorem nextBuffer_lt {n p : ℕ} (hn : 0 < n) : nextBuffer n p < n := by
  unfold nextBuffer
  split
  · exact hn
  · omega

/-- The current buffer is one of the ring. -/
structure CurrentInRing (g : DmaSettings) (s : DrvState β) : Prop where
  count : s.ulDMABufferCount = g.g_ulDMABufferCount.toNat
  sizes : s.ulBufferSize = fun _ => g.g_ulDMABufferSize
  current : s.ulCurrentBuffer < s.ulDMABufferCount

theorem CurrentInRing.dsr {g : DmaSettings} {s t : DrvState β} {c : DsrChoice}
    (hs : CurrentInRing g s) (h : dsrStep c s = some t) : CurrentInRing g t := by
  obtain ⟨-, hcount, hsizes⟩ := dsrStep_handed h
  have hpos := Nat.zero_lt_of_lt hs.current
  refine ⟨hcount.trans hs.count, hsizes.trans hs.sizes, ?_⟩
  rw [hcount]
  rcases dsrStep_current h with hcur | hcur
  · rw [hcur]
    exact hs.current
  · rw [hcur]
    exact nextBuffer_lt hpos

theorem CurrentInRing.same {g : DmaSettings} {s t : DrvState β} (hs : CurrentInRing g s)
    (h : SameRing s t) : CurrentInRing g t := by
  refine ⟨h.count.trans hs.count, h.limits.trans hs.sizes, ?_⟩
  rw [h.count, h.current]
  exact hs.current

/-- What `netana_tkit_process` uses lies in the ring. -/
theorem CurrentInRing.process_lt {g : DmaSettings} {s : DrvState β} (hs : CurrentInRing g s) :
    ∀ a ∈ processAccesses s, a.index < s.ulDMABufferCount := by
  have hcur := hs.current
  have hnext := nextBuffer_lt (p := s.ulCurrentBuffer) (Nat.zero_lt_of_lt hcur)
  have hnone : ∀ a ∈ ([] : List DmaAccess), a.index < s.ulDMABufferCount := by
    intro a ha
    cases ha
  have hone (array : DmaArray) :
      ∀ a ∈ [DmaAccess.mk array s.ulCurrentBuffer], a.index < s.ulDMABufferCount := by
    rw [List.forall_mem_singleton]
    exact hcur
  unfold processAccesses
  split
  · split
    · exact hone _
    · exact hnone
  · rw [List.forall_mem_cons]
    exact ⟨hcur, hone _⟩
  · exact hone _
  · split
    · exact hone _
    · exact hnone
  · split
    · exact hone _
    · exact hnone
  · rw [List.forall_mem_singleton]
    exact hnext
  · exact hnone

/-- What `netana_start_capture` uses lies in the ring. -/
theorem startAccesses_lt (s : DrvState β) :
    ∀ a ∈ startAccesses s, a.index < s.ulDMABufferCount := by
  intro a ha
  obtain ⟨ulIdx, hidx, hmem⟩ := List.mem_flatMap.mp ha
  have hlt := List.mem_range.mp hidx
  rcases List.mem_cons.mp hmem with rfl | hmem
  · exact hlt
  · rw [List.mem_singleton.mp hmem]
    exact hlt

/-- The state of the driver when the parameters have been taken. -/
structure DmaInv (p : ModuleParams) (x : DmaSystem β) : Prop where
  settings : x.settings = defaultSettings ∨ x.settings = p.effective
  device : ∀ d s, x.devices d = some s → x.settings = p.effective ∧ CurrentInRing p.effective s
  range : ∀ a ∈ x.accesses, a.InRange

theorem DmaInv.note {p : ModuleParams} {x : DmaSystem β} (hx : DmaInv p x) {as : List DmaAccess}
    (has : ∀ a ∈ as, a.InRange) : DmaInv p (x.note as) := by
  refine ⟨hx.settings, hx.device, ?_⟩
  exact List.forall_mem_append.mpr ⟨hx.range, has⟩

theorem DmaSystem.set_self (x : DmaSystem β) (d : ℕ) (s : Option (DrvState β)) :
    (x.set d s).devices d = s := by
  rw [DmaSystem.set]
  exact Function.update_self ..

theorem DmaSystem.set_other (x : DmaSystem β) {d e : ℕ} (he : e ≠ d) (s : Option (DrvState β)) :
    (x.set d s).devices e = x.devices e := by
  rw [DmaSystem.set]
  exact Function.update_of_ne he ..

/-- A registration changes the settings first, and the devices last. -/
theorem register_settings (p : ModuleParams) (d : ℕ) (env : RegisterEnv β) (x : DmaSystem β) :
    (DmaSystem.netanaRegisterdevice p d env x).settings = takeParams p x.settings := by
  unfold DmaSystem.netanaRegisterdevice
  dsimp only
  split
  · rfl
  split
  · rfl
  split
  · rfl
  · rfl

theorem register_succeeds {p : ModuleParams} {d : ℕ} {env : RegisterEnv β} {x : DmaSystem β}
    (hsettings : takeParams p x.settings = p.effective) (hprepared : env.fPrepared = true)
    (hret : (RegisterEnv.netanaCreateDma env p.effective).1 = true) (hadded : env.fAdded = true) :
    DmaSystem.netanaRegisterdevice p d env x =
      (DmaSystem.note { x with settings := p.effective }
        (bufferAccesses (RegisterEnv.netanaCreateDma env p.effective).2)).set d
          (some (registeredDevice env p.effective)) := by
  have hnot {b : Bool} (h : b = true) : ¬ b = false := by
    rw [h]
    exact Bool.true_eq_false.mp
  unfold DmaSystem.netanaRegisterdevice
  dsimp only
  rw [hsettings, if_neg (hnot hprepared), if_neg (hnot hret), if_neg (hnot hadded)]

theorem DmaInv.set {p : ModuleParams} {x : DmaSystem β} (hx : DmaInv p x) (d : ℕ)
    {s : Option (DrvState β)}
    (hs : ∀ t, s = some t → x.settings = p.effective ∧ CurrentInRing p.effective t) :
    DmaInv p (x.set d s) := by
  refine ⟨hx.settings, ?_, hx.range⟩
  intro e t ht
  by_cases he : e = d
  · subst he
    rw [DmaSystem.set_self] at ht
    exact hs t ht
  · rw [DmaSystem.set_other x he] at ht
    exact hx.device e t ht

/-- Every registration takes over the same settings. -/
theorem takeParams_settings {p : ModuleParams} {g : DmaSettings}
    (h : g = defaultSettings ∨ g = p.effective) : takeParams p g = p.effective := by
  rcases h with h | h
  · rw [h]
    rfl
  · rw [h]
    exact takeParams_effective p

/-- The registration of a device. -/
theorem DmaInv.register {p : ModuleParams} {x : DmaSystem β} (hp : p.Taken) (hx : DmaInv p x)
    (d : ℕ) {env : RegisterEnv β}
    (hkept : ¬ env.LosesBuffers p.effective.g_ulDMABufferCount.toNat) :
    DmaInv p (DmaSystem.netanaRegisterdevice p d env x) := by
  have hsettings := takeParams_settings hx.settings
  obtain ⟨hpos, hmax⟩ := hp.range
  have hbuffers {is : List ℕ} (his : ∀ i ∈ is, i < p.effective.g_ulDMABufferCount.toNat) :
      ∀ a ∈ bufferAccesses is, a.InRange := by
    rw [bufferAccesses, List.forall_mem_map]
    exact fun i hi => lt_of_lt_of_le (his i hi) hmax
  have htaken : DmaInv p { x with settings := p.effective } :=
    ⟨Or.inr rfl, fun e s hs => ⟨rfl, (hx.device e s hs).2⟩, hx.range⟩
  have hcreated := htaken.note
    (hbuffers (createIndices_bounds env p.effective.g_ulDMABufferCount.toNat))
  unfold DmaSystem.netanaRegisterdevice
  dsimp only
  rw [hsettings]
  split
  · exact htaken
  rename_i hprepared
  split
  · exact hcreated
  rename_i hret
  split
  · exact hcreated.note (hbuffers fun i hi => List.mem_range.mp hi)
  · rename_i hadded
    have hall := records_all env (Bool.eq_true_of_not_eq_false hprepared)
      (Bool.eq_true_of_not_eq_false hadded) (Bool.eq_true_of_not_eq_false hret) hkept
    have hcount : (registeredDevice env p.effective).ulDMABufferCount =
        p.effective.g_ulDMABufferCount.toNat := if_pos hall
    apply hcreated.set
    intro t ht
    cases ht
    refine ⟨rfl, ⟨hcount, rfl, ?_⟩⟩
    rw [hcount]
    exact hpos

/-- An action of a device. -/
theorem DmaInv.onDevice {p : ModuleParams} {x y : DmaSystem β} (hp : p.Taken) (hx : DmaInv p x)
    {d : ℕ} {accesses : DrvState β → List DmaAccess} {f : DrvState β → Option (DrvState β)}
    (haccesses : ∀ s, CurrentInRing p.effective s →
      ∀ a ∈ accesses s, a.index < s.ulDMABufferCount)
    (hf : ∀ s t, CurrentInRing p.effective s → f s = some t → CurrentInRing p.effective t)
    (h : x.onDevice d accesses f = some y) : DmaInv p y := by
  obtain ⟨s, hs, hmap⟩ := Option.bind_eq_some_iff.mp h
  obtain ⟨t, ht, rfl⟩ := Option.map_eq_some_iff.mp hmap
  obtain ⟨hsettings, hring⟩ := hx.device d s hs
  have hrange : ∀ a ∈ accesses s, a.InRange := by
    intro a ha
    have hlt := haccesses s hring a ha
    rw [hring.count] at hlt
    exact lt_of_lt_of_le hlt hp.range.2
  apply (hx.note hrange).set
  intro u hu
  cases hu
  exact ⟨hsettings, hf s t hring ht⟩

theorem dmaStep_inv {p : ModuleParams} (hp : p.Taken) {x y : DmaSystem β} {a : DmaAction β}
    (hx : DmaInv p x) (hkept : ¬ a.LosesBuffers p) (h : dmaStep p x a = some y) :
    DmaInv p y := by
  have hnone : ∀ s : DrvState β, CurrentInRing p.effective s →
      ∀ a ∈ ([] : List DmaAccess), a.index < s.ulDMABufferCount := by
    intro s _ a ha
    cases ha
  cases a with
  | register d env =>
    rw [dmaStep] at h
    split at h
    · cases h
    · cases h
      exact hx.register hp d hkept
  | unregister d =>
    rw [dmaStep] at h
    split at h
    · rename_i hsome
      cases h
      obtain ⟨s, hs⟩ := Option.isSome_iff_exists.mp hsome
      have hfree : ∀ a ∈ freeDma x.settings, a.InRange := by
        rw [freeDma, bufferAccesses, List.forall_mem_map, (hx.device d s hs).1]
        exact fun i hi => lt_of_lt_of_le (List.mem_range.mp hi) hp.range.2
      apply (hx.note hfree).set
      intro t ht
      cases ht
    · cases h
  | startCapture d fWriteToFile pfnData pfnStatus =>
    apply hx.onDevice hp (fun s _ => startAccesses_lt s) _ h
    intro s t hs ht
    cases ht
    exact ⟨hs.count, hs.sizes, hs.current⟩
  | rewind d =>
    apply hx.onDevice hp hnone _ h
    intro s t hs ht
    cases ht
    exact ⟨hs.count, hs.sizes, Nat.zero_lt_of_lt hs.current⟩
  | isr d ulIRQState_0 =>
    apply hx.onDevice hp hnone _ h
    intro s t hs ht
    cases ht
    exact hs.same (isr_same ulIRQState_0 s).1
  | dsr d c => exact hx.onDevice hp (fun s hs => hs.process_lt) (fun s t hs ht => hs.dsr ht) h
  | toggle d ulBit =>
    exact hx.onDevice hp hnone (fun s t hs ht => hs.same (netanaTkitToggleBit_same ht)) h
  | firmware d w =>
    apply hx.onDevice hp hnone _ h
    intro s t hs ht
    cases ht
    exact ⟨hs.count, hs.sizes, hs.current⟩

theorem dma_run_inv {p : ModuleParams} (hp : p.Taken) {as : List (DmaAction β)}
    {x : DmaSystem β} (hkept : ∀ a ∈ as, ¬ a.LosesBuffers p)
    (h : run (dmaStep p) DmaSystem.start as = some x) : DmaInv p x := by
  have hstart : DmaInv p (DmaSystem.start (β := β)) := by
    refine ⟨Or.inl rfl, fun d s hs => ?_, fun a ha => ?_⟩
    · cases hs
    · cases ha
  exact along_invariant (fun s a t hs hok ht => dmaStep_inv hp hs hok ht) hstart
    (along_of_forall _ hkept _) h

/-- The settings stay the default or what the parameters come to. -/
theorem dmaStep_settings {p : ModuleParams} {a : DmaAction β} {y z : DmaSystem β}
    (hy : y.settings = defaultSettings ∨ y.settings = p.effective)
    (hz : dmaStep p y a = some z) :
    z.settings = defaultSettings ∨ z.settings = p.effective := by
  have honDevice {d : ℕ} {accesses : DrvState β → List DmaAccess}
      {f : DrvState β → Option (DrvState β)} (hf : y.onDevice d accesses f = some z) :
      z.settings = y.settings := by
    obtain ⟨s, -, hmap⟩ := Option.bind_eq_some_iff.mp hf
    obtain ⟨t, -, rfl⟩ := Option.map_eq_some_iff.mp hmap
    rfl
  cases a with
  | register d env =>
    rw [dmaStep] at hz
    split at hz
    · cases hz
    · cases hz
      right
      rw [register_settings]
      exact takeParams_settings hy
  | unregister d =>
    rw [dmaStep] at hz
    split at hz
    · cases hz
      exact hy
    · cases hz
  | _ => exact (honDevice hz).symm ▸ hy

theorem dma_run_settings {p : ModuleParams} {as : List (DmaAction β)} {x : DmaSystem β}
    (h : run (dmaStep p) DmaSystem.start as = some x) :
    x.settings = defaultSettings ∨ x.settings = p.effective :=
  run_invariant (fun _ _ _ hy hz => dmaStep_settings hy hz) (Or.inl rfl) h

/-- A registration that loses its buffers leaves a device without any. -/
theorem register_loses {p : ModuleParams} {x : DmaSystem β}
    (hx : x.settings = defaultSettings ∨ x.settings = p.effective) (d : ℕ) {env : RegisterEnv β}
    (hlost : env.LosesBuffers p.effective.g_ulDMABufferCount.toNat) :
    ∃ s, (DmaSystem.netanaRegisterdevice p d env x).devices d = some s ∧
      s.ulDMABufferCount = 0 := by
  obtain ⟨k, hpos, hk, hbelow, hfail, hadd⟩ := hlost.record
  have hrecords := records_eq env hk hbelow hfail
  have hret : (RegisterEnv.netanaCreateDma env p.effective).1 = true := by
    refine (createDma_ret_iff env _).mpr ⟨hlost.dmainfo, hlost.drvInfo, hlost.dma, hlost.buffers,
      Or.inr ?_⟩
    rw [hrecords]
    exact ⟨hpos, hadd⟩
  have hcount : (registeredDevice env p.effective).ulDMABufferCount = 0 := by
    refine if_neg ?_
    rw [hrecords]
    omega
  refine ⟨registeredDevice env p.effective, ?_, hcount⟩
  rw [register_succeeds (takeParams_settings hx) hlost.prepared hret hlost.added]
  exact DmaSystem.set_self _ d _

/-- A registration in which nothing fails. -/
def allSucceed [Inhabited β] : RegisterEnv β where
  fPrepared := true
  ok := fun _ => true
  fAdded := true
  usFlags := 0#16
  content := fun _ => default

theorem allSucceed_kept [Inhabited β] (n : ℕ) : ¬ (allSucceed (β := β)).LosesBuffers n := by
  intro h
  obtain ⟨k, -, -, -, hfail, -⟩ := h.record
  cases hfail

/-- The settings after the first registration. -/
theorem register_first [Inhabited β] (p : ModuleParams) :
    ∃ x : DmaSystem β, run (dmaStep p) DmaSystem.start [.register 0 allSucceed] = some x ∧
      x.settings = p.effective ∧ ∃ s, x.devices 0 = some s ∧
        s.ulDMABufferCount = p.effective.g_ulDMABufferCount.toNat := by
  have hrecords : (allSucceed (β := β)).records p.effective.g_ulDMABufferCount.toNat =
      p.effective.g_ulDMABufferCount.toNat := by
    obtain ⟨hle, -, hstop⟩ := records_spec (allSucceed (β := β))
      p.effective.g_ulDMABufferCount.toNat
    by_contra hne
    cases hstop (Nat.lt_of_le_of_ne hle hne)
  have hret : (RegisterEnv.netanaCreateDma (allSucceed (β := β)) p.effective).1 = true :=
    (createDma_ret_iff _ _).mpr ⟨rfl, rfl, rfl, fun _ _ => rfl, Or.inl hrecords⟩
  refine ⟨DmaSystem.netanaRegisterdevice p 0 allSucceed DmaSystem.start, rfl,
    register_settings p 0 allSucceed DmaSystem.start, registeredDevice allSucceed p.effective, ?_,
    if_pos hrecords⟩
  rw [register_succeeds rfl rfl hret rfl]
  exact DmaSystem.set_self _ 0 _

/-- In every run whose registrations do not lose their buffers the parameters are honoured and all
indices in range, exactly where the count is and where no parameter that differs from its default
comes after one that is given. A registration that loses its buffers never honours them. -/
theorem dma_parameters_honoured_iff [Inhabited β] (p : ModuleParams) :
    ((∀ (as : List (DmaAction β)) (x : DmaSystem β), (∀ a ∈ as, ¬ a.LosesBuffers p) →
      run (dmaStep p) DmaSystem.start as = some x → x.Honours p) ↔ p.Honourable) ∧
    ∀ (as : List (DmaAction β)) (a : DmaAction β) (x y : DmaSystem β),
      run (dmaStep p) DmaSystem.start as = some x → a.LosesBuffers p →
      dmaStep p x a = some y → ¬ y.Honours p := by
  rw [← taken_iff]
  refine ⟨⟨?_, ?_⟩, ?_⟩
  · intro hall
    obtain ⟨x, hrun, hsettings, s, hdevice, hbuffers⟩ := register_first (β := β) p
    have hx := hall _ x (by
      rw [List.forall_mem_singleton]
      exact allSucceed_kept _) hrun
    obtain ⟨hcount, hsize, htimeout⟩ := hx.settings 0 _ hdevice
    have hrange := hx.count 0 _ hdevice
    rw [hsettings] at hcount hsize htimeout
    rw [hbuffers] at hrange
    exact ⟨hcount, hsize, htimeout, hrange⟩
  · intro hp as x hkept hrun
    have hx := dma_run_inv hp hkept hrun
    refine ⟨?_, ?_, ?_, hx.range⟩
    · intro d s hs
      rw [(hx.device d s hs).1]
      exact ⟨hp.count, hp.size, hp.timeout⟩
    · intro d s hs
      obtain ⟨hsettings, hring⟩ := hx.device d s hs
      rw [hsettings]
      refine ⟨hring.count, fun i _ => ?_⟩
      rw [hring.sizes]
    · intro d s hs
      rw [(hx.device d s hs).2.count]
      exact hp.range
  · intro as a x y hrun hlost hstep hy
    cases a with
    | register d env =>
      rw [dmaStep] at hstep
      split at hstep
      · cases hstep
      · cases hstep
        obtain ⟨s, hdevice, hnone⟩ := register_loses (dma_run_settings hrun) d hlost
        have hpos := (hy.count d s hdevice).1
        omega
    | _ => exact hlost

/-- A size and a count are given. -/
def sizeAndCount : ModuleParams := ⟨16#64, 0x10000#64, 0#64⟩

/-- Next to a size the count is ignored. -/
theorem dma_parameters_ignored : ¬ ∀ (p : ModuleParams) (as : List (DmaAction ℕ))
    (x : DmaSystem ℕ), run (dmaStep p) DmaSystem.start as = some x → x.Honours p := by
  intro hall
  obtain ⟨x, hrun, hsettings, s, hdevice, -⟩ := register_first (β := ℕ) sizeAndCount
  obtain ⟨hcount, -, -⟩ := (hall sizeAndCount _ x hrun).settings 0 _ hdevice
  rw [hsettings] at hcount
  unfold InEffect at hcount
  exact absurd hcount (by decide)

end NetanaDriver
