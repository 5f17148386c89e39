import NetanaDriver.CBuffers
import NetanaDriver.DownloadErrors
import NetanaDriver.DpmLayout
import NetanaDriver.SystemMailbox
import NetanaDriver.ToolkitHandles

/-! `netana_tkit_deviceadd` with the functions that it calls and that allocate memory
(toolkit/netana_toolkit.c): what it does where there is none. -/
namespace NetanaDriver

open ByteMemory HandleTable
open CBuffers (bind_ok_iff)

def netanaFileOpenError : BitVec 32 := 0x80220007#32
def netanaFwStartFailed : BitVec 32 := 0x80210006#32

def rcxFileXferModule : BitVec 64 := 2#64
def rcxFileXferLicenseCode : BitVec 64 := 5#64

/-- The calls of `OS_CreateLock`, `OS_CreateEvent`, `OS_CreateMutex` and `OS_Memalloc`, by what
they are for. -/
inductive AllocSite where
  | pvLock
  | hStopComplete
  | handshakeBitEvent (ulIdx : ℕ)
  | identifySend
  | identifyRecv
  | identData
  | identSend
  | identRecv
  | firmwareData
  | firmwareSend
  | firmwareRecv
  | startSend
  | startRecv
  -- the masks and values of the default filters, in the order of the loop
  | defaultFilter (n : ℕ)
  | sendMbxMutex
  | recvMbxMutex
  deriving DecidableEq, Repr

/-- A null pointer stops the kernel; `endless` would be a download without an end. -/
inductive AddFault where
  | nullPointer
  | endless
  deriving DecidableEq, Repr

/-- Why `TransferPacket` fails before a packet has arrived. -/
inductive TransferError where
  | notReady
  | tooShort
  | full
  | noPacket
  deriving DecidableEq, Repr

def TransferError.lRet : TransferError → BitVec 32
  | notReady => netanaDevNotReady
  | tooShort => netanaDevMailboxTooShort
  | full => netanaDevMailboxFull
  | noPacket => netanaDevGetNoPacket

theorem TransferError.lRet_ne (e : TransferError) : e.lRet ≠ 0#32 := by
  cases e <;> decide

/-- What comes of a `TransferPacket`: no packet has been copied to the receive buffer, or at least
one has, and then it returns `lRet` with `ptRecvPkt` in the buffer. -/
inductive Transferred (α : Type*) where
  | silent (e : TransferError)
  | arrived (lRet : BitVec 32) (ptRecvPkt : α)

/-- The status and the block size in the answer to a packet of a download. -/
structure DownloadAnswer where
  ulSta : BitVec 32
  ulMaxBlockSize : BitVec 32
  deriving DecidableEq, Repr

/-- The device during a download: its answer to a packet after those sent before. -/
def DownloadDevice := List DownloadPacket → DownloadPacket → Transferred DownloadAnswer

def DownloadDevice.transfer (device : DownloadDevice) : Transfer := fun sent packet =>
  match device sent packet with
  | .silent e => ⟨e.lRet, 0#32, 0#32⟩
  | .arrived lRet ptRecvPkt => ⟨lRet, ptRecvPkt.ulSta, ptRecvPkt.ulMaxBlockSize⟩

/-- A file from `request_firmware`, which loads at most `INT_MAX` bytes. -/
structure LoadedFile where
  data : List (BitVec 8)
  bound : data.length ≤ 0x7FFFFFFF

/-- The parameters of the two calls of `DownloadFile`. -/
def LoadedFile.params (f : LoadedFile) (ulTransferType : BitVec 64)
    (szShortFileName : List (BitVec 8)) : DownloadParams where
  ulChannel := 0#64
  ulMailboxSize := 124#64
  ulTransferType := ulTransferType
  szFileName := szShortFileName
  pvFile := f.data
  ulFileLength := BitVec.ofNat 64 f.data.length

/-- What happens around a call of `netana_tkit_deviceadd`. -/
structure AddEnv where
  fAllocated : AllocSite → Bool
  ulFlashBased : Bool
  -- what netx_reset and netx_download_bootloader return
  lReset : BitVec 32
  lBootloader : BitVec 32
  identify : Transferred (BitVec 32 × BitVec 16)
  fIdentUpdateRequest : Bool
  identFile : Option LoadedFile
  identDevice : DownloadDevice
  szFirmwareShortName : List (BitVec 8)
  firmwareFile : Option LoadedFile
  firmwareDevice : DownloadDevice
  start : Transferred (BitVec 32)
  -- the cookie of the firmware is there in time
  fStarted : Bool
  fStatusPending : Bool
  pvDPM : Memory

def szIdentShortName : List (BitVec 8) :=
  "lic.nxl".toList.map fun c => BitVec.ofNat 8 c.toNat

/-- The twelve bytes of `NETANA_COOKIE`. -/
def netanaCookie : List (BitVec 8) :=
  ("netANALYZER".toList.map fun c => BitVec.ofNat 8 c.toNat) ++ [0#8]

/-- The DPM starts with the cookie. -/
abbrev hasCookie (m : Memory) : Prop := load m 0 netanaCookie.length = netanaCookie

/-- A buffer from `OS_Memalloc` is cleared. -/
def clearedHeader : PacketHeader where
  ulDest := 0#32
  ulSrc := 0#32
  ulDestId := 0#32
  ulSrcId := 0#32
  ulLen := 0#32
  ulId := 0#32
  ulSta := 0#32
  ulCmd := 0#32
  ulExt := 0#32
  ulRout := 0#32

/-- The loop of `DownloadFile`, where a packet that arrives needs a receive buffer. -/
def downloadLoopChecked (fRecv : Bool) (p : DownloadParams) (device : DownloadDevice) :
    ℕ → DownloadState → Except AddFault DownloadState
  | 0, _ => .error .endless
  | fuel + 1, s =>
    let t := downloadPass p device.transfer s
    match fRecv, device s.sent (t.sent.getLastD (requestPacket p s)) with
    | false, .arrived _ _ => .error .nullPointer
    | _, _ => if t.fStopDownload then .ok t else downloadLoopChecked fRecv p device fuel t

/-- `DownloadFile`, which does not look whether it has got its buffers. Every pass but the first
two sends at least one byte. -/
def downloadFileChecked (fSend fRecv : Bool) (p : DownloadParams) (device : DownloadDevice) :
    Except AddFault (BitVec 32) :=
  if fSend = false then .error .nullPointer
  else
    (downloadLoopChecked fRecv p device (p.pvFile.length + 3) (downloadInit p clearedHeader)).map
      fun s => if s.lRet ≠ 0#32 then s.lRet else s.lRetAbort

/-- `RequestDeviceClass`. -/
def AddEnv.requestDeviceClass (env : AddEnv) : BitVec 16 :=
  if env.fAllocated .identifySend ∧ env.fAllocated .identifyRecv then
    match env.identify with
    | .silent _ => 0#16
    | .arrived lRet (ulSta, usDeviceClass) =>
      if lRet ≠ netanaNoError then 0#16 else if ulSta ≠ 0#32 then 0#16 else usDeviceClass
  else 0#16

/-- `netx_update_ident_info`: the error that it stores for its caller, to which it always returns
success. -/
def AddEnv.netxUpdateIdentInfo (env : AddEnv) : Except AddFault (BitVec 32) :=
  if env.fIdentUpdateRequest then
    match env.identFile with
    | none => .ok netanaFileOpenError
    | some f =>
      if env.fAllocated .identData then
        downloadFileChecked (env.fAllocated .identSend) (env.fAllocated .identRecv)
          (f.params rcxFileXferLicenseCode szIdentShortName) env.identDevice
      else .ok netanaDownloadFailed
  else .ok netanaNoError

/-- `StartFirmware`. -/
def AddEnv.startFirmware (env : AddEnv) : Except AddFault (BitVec 32) :=
  if env.fAllocated .startSend = false then .error .nullPointer
  else
    match env.start with
    | .silent e => .ok e.lRet
    | .arrived lRet ulState =>
      if env.fAllocated .startRecv = false then .error .nullPointer
      else if lRet ≠ netanaNoError then .ok lRet
      else if ulState ≠ 0#32 then .ok ulState
      else .ok (if env.fStarted then netanaNoError else netanaFwStartFailed)

/-- `DownloadAndStartFirmware`. The buffer for the file is cleared without a look at it. -/
def AddEnv.downloadAndStartFirmware (env : AddEnv) : Except AddFault (BitVec 32) :=
  match env.firmwareFile with
  | none => .ok netanaFileOpenError
  | some f =>
    if env.fAllocated .firmwareData = false ∧ f.data ≠ [] then .error .nullPointer
    else
      (downloadFileChecked (env.fAllocated .firmwareSend) (env.fAllocated .firmwareRecv)
        (f.params rcxFileXferModule env.szFirmwareShortName) env.firmwareDevice).bind fun lRet =>
          if lRet ≠ netanaNoError then .ok lRet else env.startFirmware

/-- From the reset to the running firmware. -/
def AddEnv.boot (env : AddEnv) : Except AddFault (BitVec 32) :=
  if env.ulFlashBased then
    .ok (if hasCookie env.pvDPM then netanaNoError else netanaFwStartFailed)
  else if env.lReset ≠ netanaNoError then .ok env.lReset
  else if env.lBootloader ≠ netanaNoError then .ok env.lBootloader
  else if env.requestDeviceClass = 0#16 then .ok netanaFunctionFailed
  else env.netxUpdateIdentInfo.bind fun _ => env.downloadAndStartFirmware

/-- The handles of the device instance; `false` is a null pointer. -/
structure InstanceHandles where
  pvLock : Bool
  hStopComplete : Bool
  ahHandshakeBitEvents : List Bool
  pvSendMBXMutex : Bool
  pvRecvMBXMutex : Bool
  deriving DecidableEq, Repr

/-- The loop of `CreateIrqEvents` over `n` events from `ulIdx` on: the events, and whether all of
them could be created. -/
def createBitEvents (fAllocated : AllocSite → Bool) : ℕ → ℕ → List Bool × Bool
  | _, 0 => ([], true)
  | ulIdx, n + 1 =>
    if fAllocated (.handshakeBitEvent ulIdx) then
      let r := createBitEvents fAllocated (ulIdx + 1) n
      (true :: r.1, r.2)
    else (List.replicate (n + 1) false, false)

/-- A device instance without handles. -/
def noHandles : InstanceHandles :=
  { pvLock := false
    hStopComplete := false
    ahHandshakeBitEvents := List.replicate 16 false
    pvSendMBXMutex := false
    pvRecvMBXMutex := false }

/-- `CreateIrqEvents`. -/
def createIrqEvents (fAllocated : AllocSite → Bool) (h : InstanceHandles) :
    InstanceHandles × BitVec 32 :=
  if fAllocated .hStopComplete then
    let r := createBitEvents fAllocated 0 16
    ({ h with hStopComplete := true, ahHandshakeBitEvents := r.1 },
      if r.2 then netanaNoError else netanaIrqeventCreationFailed)
  else (h, netanaIrqeventCreationFailed)

/-- `DeleteIrqEvents` and the deletion of the lock. -/
def InstanceHandles.delete (h : InstanceHandles) : InstanceHandles :=
  { h with
    pvLock := false
    hStopComplete := false
    ahHandshakeBitEvents := List.replicate 16 false }

/-- The list of the cards with its count. -/
structure Cards where
  tCardList : List DevPtr
  ulCardCnt : BitVec 32
  deriving DecidableEq, Repr

/-- What `netana_tkit_deviceadd` returns and leaves. -/
structure AddResult where
  lRet : BitVec 32
  cards : Cards
  handles : InstanceHandles
  layout : Option DpmInstance

/-- `netana_tkit_deviceadd`. -/
def AddEnv.netanaTkitDeviceadd (env : AddEnv) (ptDevInstance : DevPtr) (cards : Cards) :
    Except AddFault AddResult :=
  let failed (h : InstanceHandles) (lRet : BitVec 32) : AddResult := ⟨lRet, cards, h.delete, none⟩
  if env.fAllocated .pvLock = false then .ok (failed noHandles netanaIrqlockCreationFailed)
  else
    let r := createIrqEvents env.fAllocated { noHandles with pvLock := true }
    if r.2 ≠ netanaNoError then .ok (failed r.1 r.2)
    else
      env.boot.bind fun lRet =>
        if lRet ≠ netanaNoError then .ok (failed r.1 lRet)
        -- the toggle of a pending status enters the lock
        else if env.fStatusPending ∧ r.1.pvLock = false then .error .nullPointer
        else
          .ok
            { lRet := lRet
              cards := ⟨cards.tCardList ++ [ptDevInstance], cards.ulCardCnt + 1#32⟩
              handles := { r.1 with
                pvSendMBXMutex := env.fAllocated .sendMbxMutex
                pvRecvMBXMutex := env.fAllocated .recvMbxMutex }
              layout := some (readDpmLayout (fun n => env.fAllocated (.defaultFilter n))
                env.pvDPM) }

/-- The first packet of a download. -/
def firstPacket (p : DownloadParams) : DownloadPacket :=
  requestPacket p (downloadInit p clearedHeader)

/-- No packet arrives in answer to the request, and none in answer to the abort after it. -/
def DownloadDevice.Unheard (device : DownloadDevice) (p : DownloadParams) : Prop :=
  (∃ e, device [] (firstPacket p) = .silent e) ∧
    ∃ e, device [firstPacket p] (abortPacket 2#32) = .silent e

/-- The device acknowledges every packet of the download. -/
def DownloadDevice.Takes (device : DownloadDevice) (p : DownloadParams) : Prop :=
  AllSucceed device.transfer (downloadPackets p device.transfer (firstPacket p))

/-- There is a send buffer, and there is a receive buffer or nothing to receive. -/
def Buffered (fSend fRecv : Bool) (p : DownloadParams) (device : DownloadDevice) : Prop :=
  fSend = true ∧ (fRecv = true ∨ device.Unheard p)

theorem LoadedFile.fileParams (f : LoadedFile) (ulTransferType : BitVec 64)
    (szShortFileName : List (BitVec 8)) :
    FileParams (f.params ulTransferType szShortFileName) := by
  refine ⟨rfl, ?_, rfl⟩
  have h := f.bound
  show f.data.length + 76 < 2 ^ 32
  omega

/-- No pass but the first two and the last is without a byte of the file. -/
theorem passes_le (n b : ℕ) : (n + b - 1) / b + 3 ≤ n + 3 := by
  apply Nat.add_le_add_right
  cases b with
  | zero =>
    rw [Nat.div_zero]
    exact Nat.zero_le n
  | succ b =>
    cases n with
    | zero =>
      rw [Nat.div_eq_of_lt]
      omega
    | succ n =>
      apply Nat.div_le_of_le_mul
      have h : 0 ≤ b * n := Nat.zero_le _
      have hmul : (b + 1) * (n + 1) = b * n + b + n + 1 := by ring
      omega

/-- With both buffers, the loop is the one without checks. -/
theorem downloadLoopChecked_true (p : DownloadParams) (device : DownloadDevice) (fuel : ℕ)
    {s t : DownloadState} (h : downloadLoop p device.transfer fuel s = some t) :
    downloadLoopChecked true p device fuel s = .ok t := by
  induction fuel generalizing s with
  | zero => cases h
  | succ fuel ih =>
    rw [downloadLoop] at h
    simp only [downloadLoopChecked]
    by_cases hstop : (downloadPass p device.transfer s).fStopDownload = true
    · simp only [hstop, if_true, Option.some.injEq] at h ⊢
      rw [h]
    · simp only [hstop] at h ⊢
      exact ih h

/-- A packet that does not arrive makes the transfer fail. -/
theorem transfer_silent {device : DownloadDevice} {sent : List DownloadPacket}
    {packet : DownloadPacket} {e : TransferError} (h : device sent packet = .silent e) :
    transferCode packet (device.transfer sent packet) = e.lRet := by
  rw [DownloadDevice.transfer, h, transferCode]
  exact if_pos e.lRet_ne

/-- The pass that sends the abort request. -/
theorem abort_sent {p : DownloadParams} {pfnTransferPacket : Transfer} {s : DownloadState}
    (h : s.ulState = .abortReq) :
    (downloadPass p pfnTransferPacket s).sent = s.sent ++ [abortPacket (s.ulCurrentId + 1#32)] := by
  rw [downloadPass, h]
  rfl

/-- The request takes the identifier 1. -/
theorem request_id (p : DownloadParams) (pfnTransferPacket : Transfer) (tHead : PacketHeader) :
    (downloadPass p pfnTransferPacket (downloadInit p tHead)).ulCurrentId = 1#32 := by
  have hcase : downloadPass p pfnTransferPacket (downloadInit p tHead) =
      downloadReq p pfnTransferPacket (downloadInit p tHead) := rfl
  rw [hcase, downloadReq]
  dsimp only
  repeat' split
  all_goals rfl

theorem request_sent (p : DownloadParams) (pfnTransferPacket : Transfer) :
    (downloadPass p pfnTransferPacket (downloadInit p clearedHeader)).sent = [firstPacket p] := by
  have hcase : downloadPass p pfnTransferPacket (downloadInit p clearedHeader) =
      downloadReq p pfnTransferPacket (downloadInit p clearedHeader) := rfl
  rw [hcase, downloadReq]
  dsimp only
  repeat' split
  all_goals rfl

/-- A packet that arrives needs a receive buffer. -/
theorem loop_arrived {p : DownloadParams} {device : DownloadDevice} {s : DownloadState}
    {packet : DownloadPacket} {lRet : BitVec 32} {ptRecvPkt : DownloadAnswer} (fuel : ℕ)
    (hsent : (downloadPass p device.transfer s).sent = s.sent ++ [packet])
    (h : device s.sent packet = .arrived lRet ptRecvPkt) :
    downloadLoopChecked false p device (fuel + 1) s = .error .nullPointer := by
  simp only [downloadLoopChecked, hsent, List.getLastD_concat, h]

/-- Where none arrives, the loop goes on without one. -/
theorem loop_silent {p : DownloadParams} {device : DownloadDevice} {s : DownloadState}
    {packet : DownloadPacket} {e : TransferError} (fuel : ℕ)
    (hsent : (downloadPass p device.transfer s).sent = s.sent ++ [packet])
    (h : device s.sent packet = .silent e) :
    downloadLoopChecked false p device (fuel + 1) s =
      if (downloadPass p device.transfer s).fStopDownload then
        .ok (downloadPass p device.transfer s)
      else downloadLoopChecked false p device fuel (downloadPass p device.transfer s) := by
  simp only [downloadLoopChecked, hsent, List.getLastD_concat, h]

/-- The request that does not arrive, and what is left after it. -/
theorem request_silent {p : DownloadParams} {device : DownloadDevice} {e : TransferError}
    (h : device [] (firstPacket p) = .silent e) :
    AtAbort device.transfer [] (firstPacket p)
        (downloadPass p device.transfer (downloadInit p clearedHeader)) ∧
      (downloadPass p device.transfer
        (downloadPass p device.transfer (downloadInit p clearedHeader))).sent =
          [firstPacket p] ++ [abortPacket 2#32] := by
  have hcode := transfer_silent h
  have habort := request_fail clearedHeader rfl
    (fun hzero => e.lRet_ne (hcode.symm.trans hzero))
  refine ⟨habort, ?_⟩
  rw [abort_sent habort.state, habort.sent, request_id]
  rfl

/-- Without a receive buffer, a download that is not heard ends with the error of its request. -/
theorem downloadLoopChecked_unheard {p : DownloadParams} {device : DownloadDevice}
    (h : device.Unheard p) (fuel : ℕ) :
    ∃ t, downloadLoopChecked false p device (fuel + 2) (downloadInit p clearedHeader) = .ok t ∧
      t.lRet ≠ 0#32 := by
  obtain ⟨⟨e, hrequest⟩, ⟨e', hnoAbort⟩⟩ := h
  obtain ⟨habort, hsent⟩ := request_silent hrequest
  obtain ⟨-, -, hstop, hret, -⟩ := habort.pass p
  have hfirst := request_sent p device.transfer
  rw [← hfirst] at hsent
  have hnoAbort' : device (downloadPass p device.transfer (downloadInit p clearedHeader)).sent
      (abortPacket 2#32) = .silent e' := by
    rw [hfirst]
    exact hnoAbort
  refine ⟨_, ?_, fun hzero => habort.nonzero (hret.symm.trans hzero)⟩
  rw [loop_silent (fuel + 1) hfirst hrequest, habort.going, if_neg Bool.false_ne_true,
    loop_silent fuel hsent hnoAbort', hstop, if_pos rfl]

/-- One that is heard stops the kernel. -/
theorem downloadLoopChecked_heard {p : DownloadParams} {device : DownloadDevice}
    (h : ¬ device.Unheard p) (fuel : ℕ) :
    downloadLoopChecked false p device (fuel + 2) (downloadInit p clearedHeader) =
      .error .nullPointer := by
  have hfirst := request_sent p device.transfer
  cases hrequest : device [] (firstPacket p) with
  | arrived lRet ptRecvPkt => exact loop_arrived (fuel + 1) hfirst hrequest
  | silent e =>
    obtain ⟨habort, hsent⟩ := request_silent hrequest
    rw [← hfirst] at hsent
    rw [loop_silent (fuel + 1) hfirst hrequest, habort.going, if_neg Bool.false_ne_true]
    cases hanswer : device [firstPacket p] (abortPacket 2#32) with
    | arrived lRet ptRecvPkt =>
      apply loop_arrived fuel hsent
      rw [hfirst]
      exact hanswer
    | silent e' => exact absurd ⟨⟨e, hrequest⟩, ⟨e', hanswer⟩⟩ h

/-- A buffered download ends, and without an error exactly where there is a receive buffer and the
device takes the file. -/
theorem downloadFileChecked_ok {fSend fRecv : Bool} {p : DownloadParams} {device : DownloadDevice}
    (hp : FileParams p) (h : Buffered fSend fRecv p device) :
    ∃ lRet, downloadFileChecked fSend fRecv p device = .ok lRet ∧
      (lRet = 0#32 ↔ fRecv = true ∧ device.Takes p) := by
  obtain ⟨rfl, hrecv⟩ := h
  have hsend : ¬ true = false := by decide
  simp only [downloadFileChecked, if_neg hsend]
  cases fRecv with
  | true =>
    obtain ⟨t, ht, hends⟩ := downloadLoop_ends clearedHeader device.transfer hp rfl rfl
    have hall := hends.lRet_iff
    rw [downloadLoopChecked_true p device _
      (downloadLoop_mono p device.transfer ht (passes_le _ _))]
    refine ⟨t.lRet, congrArg Except.ok hends.ret, ?_⟩
    rw [hall]
    exact ⟨fun htakes => ⟨rfl, htakes⟩, fun htakes => htakes.2⟩
  | false =>
    have hunheard : device.Unheard p := hrecv.resolve_left Bool.false_ne_true
    obtain ⟨t, ht, hne⟩ := downloadLoopChecked_unheard hunheard (p.pvFile.length + 1)
    rw [ht]
    refine ⟨t.lRet, congrArg Except.ok (if_pos hne), ?_⟩
    exact ⟨fun hzero => absurd hzero hne, fun htakes => absurd htakes.1 Bool.false_ne_true⟩

/-- An unbuffered one stops the kernel. -/
theorem downloadFileChecked_fault {fSend fRecv : Bool} {p : DownloadParams}
    {device : DownloadDevice} (h : ¬ Buffered fSend fRecv p device) :
    downloadFileChecked fSend fRecv p device = .error .nullPointer := by
  cases fSend with
  | false => rfl
  | true =>
    have hrecv : ¬ (fRecv = true ∨ device.Unheard p) := fun hrecv => h ⟨rfl, hrecv⟩
    obtain ⟨hfalse, hheard⟩ := not_or.mp hrecv
    have hsend : ¬ true = false := by decide
    rw [downloadFileChecked, if_neg hsend, Bool.eq_false_iff.mpr hfalse,
      downloadLoopChecked_heard hheard (p.pvFile.length + 1)]
    rfl

/-- Where the buffers of the start request are there, or where none is needed. -/
def AddEnv.StartBuffered (env : AddEnv) : Prop :=
  env.fAllocated .startSend = true ∧
    (env.fAllocated .startRecv = true ∨ ∃ e, env.start = .silent e)

theorem startFirmware_ok_iff (env : AddEnv) :
    (∃ lRet, env.startFirmware = .ok lRet) ↔ env.StartBuffered := by
  unfold AddEnv.startFirmware AddEnv.StartBuffered
  by_cases hsend : env.fAllocated .startSend = true
  · have hne : ¬ env.fAllocated .startSend = false := by rw [hsend]; decide
    rw [if_neg hne]
    cases hstart : env.start with
    | silent e => exact ⟨fun _ => ⟨hsend, Or.inr ⟨e, rfl⟩⟩, fun _ => ⟨e.lRet, rfl⟩⟩
    | arrived lRet ulState =>
      by_cases hrecv : env.fAllocated .startRecv = true
      · have hne : ¬ env.fAllocated .startRecv = false := by rw [hrecv]; decide
        refine ⟨fun _ => ⟨hsend, Or.inl hrecv⟩, fun _ => ?_⟩
        dsimp only
        rw [if_neg hne]
        split
        · exact ⟨_, rfl⟩
        · split
          · exact ⟨_, rfl⟩
          · exact ⟨_, rfl⟩
      · dsimp only
        rw [if_pos (Bool.eq_false_iff.mpr hrecv)]
        constructor
        · rintro ⟨lRet', h⟩
          cases h
        · rintro ⟨-, h | ⟨e, h⟩⟩
          · exact absurd h hrecv
          · cases h
  · rw [if_pos (Bool.eq_false_iff.mpr hsend)]
    constructor
    · rintro ⟨lRet, h⟩
      cases h
    · exact fun h => absurd h.1 hsend

/-- Where the buffers for the file with the ident information are there, or none is needed. -/
def AddEnv.IdentBuffered (env : AddEnv) : Prop :=
  env.fIdentUpdateRequest = true → ∀ f, env.identFile = some f →
    env.fAllocated .identData = true →
    Buffered (env.fAllocated .identSend) (env.fAllocated .identRecv)
      (f.params rcxFileXferLicenseCode szIdentShortName) env.identDevice

theorem netxUpdateIdentInfo_ok_iff (env : AddEnv) :
    (∃ lRet, env.netxUpdateIdentInfo = .ok lRet) ↔ env.IdentBuffered := by
  unfold AddEnv.netxUpdateIdentInfo AddEnv.IdentBuffered
  by_cases hrequest : env.fIdentUpdateRequest = true
  · rw [if_pos hrequest]
    cases hfile : env.identFile with
    | none =>
      refine ⟨fun _ _ f hf => ?_, fun _ => ⟨_, rfl⟩⟩
      cases hf
    | some f =>
      dsimp only
      by_cases hdata : env.fAllocated .identData = true
      · rw [if_pos hdata]
        constructor
        · rintro ⟨lRet, h⟩ - g hg -
          cases hg
          by_contra hnot
          rw [downloadFileChecked_fault hnot] at h
          cases h
        · intro h
          obtain ⟨lRet, hret, -⟩ :=
            downloadFileChecked_ok (f.fileParams _ _) (h hrequest f rfl hdata)
          exact ⟨lRet, hret⟩
      · rw [if_neg hdata]
        exact ⟨fun _ _ _ _ h => absurd h hdata, fun _ => ⟨_, rfl⟩⟩
  · rw [if_neg hrequest]
    exact ⟨fun _ h => absurd h hrequest, fun _ => ⟨_, rfl⟩⟩

/-- Where the buffers for the firmware are there, or none is needed. -/
def AddEnv.FirmwareBuffered (env : AddEnv) : Prop :=
  ∀ f, env.firmwareFile = some f →
    (env.fAllocated .firmwareData = true ∨ f.data = []) ∧
    Buffered (env.fAllocated .firmwareSend) (env.fAllocated .firmwareRecv)
      (f.params rcxFileXferModule env.szFirmwareShortName) env.firmwareDevice ∧
    (env.fAllocated .firmwareRecv = true →
      env.firmwareDevice.Takes (f.params rcxFileXferModule env.szFirmwareShortName) →
      env.StartBuffered)

theorem downloadAndStartFirmware_ok_iff (env : AddEnv) :
    (∃ lRet, env.downloadAndStartFirmware = .ok lRet) ↔ env.FirmwareBuffered := by
  unfold AddEnv.downloadAndStartFirmware AddEnv.FirmwareBuffered
  cases hfile : env.firmwareFile with
  | none =>
    refine ⟨fun _ f hf => ?_, fun _ => ⟨_, rfl⟩⟩
    cases hf
  | some f =>
    have hone (P : LoadedFile → Prop) : (∀ g, some f = some g → P g) ↔ P f :=
      ⟨fun h => h f rfl, fun h g hg => Option.some.inj hg ▸ h⟩
    rw [hone]
    dsimp only
    by_cases hdata : env.fAllocated .firmwareData = false ∧ f.data ≠ []
    · rw [if_pos hdata]
      constructor
      · rintro ⟨lRet, h⟩
        cases h
      · rintro ⟨hd | hd, -⟩
        · rw [hdata.1] at hd
          cases hd
        · exact absurd hd hdata.2
    · rw [if_neg hdata]
      have hclear : env.fAllocated .firmwareData = true ∨ f.data = [] := by
        by_contra hnot
        obtain ⟨hd, hne⟩ := not_or.mp hnot
        exact hdata ⟨Bool.eq_false_iff.mpr hd, hne⟩
      constructor
      · rintro ⟨lRet, h⟩
        obtain ⟨l, hl, hrest⟩ := (bind_ok_iff _ _ _).mp h
        have hbuffered : Buffered (env.fAllocated .firmwareSend) (env.fAllocated .firmwareRecv)
            (f.params rcxFileXferModule env.szFirmwareShortName) env.firmwareDevice := by
          by_contra hnot
          rw [downloadFileChecked_fault hnot] at hl
          cases hl
        refine ⟨hclear, hbuffered, fun hrecv htakes => ?_⟩
        obtain ⟨l', hl', hzero⟩ := downloadFileChecked_ok (f.fileParams _ _) hbuffered
        rw [hl] at hl'
        cases hl'
        have hnone : ¬ l ≠ netanaNoError := not_not.mpr (hzero.mpr ⟨hrecv, htakes⟩)
        rw [if_neg hnone] at hrest
        exact (startFirmware_ok_iff env).mp ⟨lRet, hrest⟩
      · rintro ⟨-, hbuffered, hstart⟩
        obtain ⟨l, hl, hzero⟩ := downloadFileChecked_ok (f.fileParams _ _) hbuffered
        by_cases hret : l = netanaNoError
        · obtain ⟨hrecv, htakes⟩ := hzero.mp hret
          obtain ⟨lRet, hlRet⟩ := (startFirmware_ok_iff env).mpr (hstart hrecv htakes)
          refine ⟨lRet, (bind_ok_iff _ _ _).mpr ⟨l, hl, ?_⟩⟩
          rw [if_neg (not_not.mpr hret)]
          exact hlRet
        · refine ⟨l, (bind_ok_iff _ _ _).mpr ⟨l, hl, ?_⟩⟩
          exact if_pos hret

/-- The bootloader runs on the device, and the device has told its class. -/
structure AddEnv.Identified (env : AddEnv) : Prop where
  reset : env.ulFlashBased = false ∧ env.lReset = netanaNoError
  bootloader : env.lBootloader = netanaNoError
  buffers : env.fAllocated .identifySend = true ∧ env.fAllocated .identifyRecv = true
  answer : ∃ usDeviceClass, usDeviceClass ≠ 0#16 ∧
    env.identify = .arrived netanaNoError (0#32, usDeviceClass)

theorem requestDeviceClass_ne_iff (env : AddEnv) :
    env.requestDeviceClass ≠ 0#16 ↔
      (env.fAllocated .identifySend = true ∧ env.fAllocated .identifyRecv = true) ∧
        ∃ usDeviceClass, usDeviceClass ≠ 0#16 ∧
          env.identify = .arrived netanaNoError (0#32, usDeviceClass) := by
  unfold AddEnv.requestDeviceClass
  by_cases hbuffers : env.fAllocated .identifySend = true ∧ env.fAllocated .identifyRecv = true
  · rw [if_pos hbuffers]
    cases hidentify : env.identify with
    | silent e =>
      refine ⟨fun h => absurd rfl h, ?_⟩
      rintro ⟨-, usDeviceClass, -, h⟩
      cases h
    | arrived lRet answer =>
      obtain ⟨ulSta, usDeviceClass⟩ := answer
      dsimp only
      by_cases hret : lRet = netanaNoError
      · rw [if_neg (not_not.mpr hret)]
        by_cases hsta : ulSta = 0#32
        · rw [if_neg (not_not.mpr hsta), hret, hsta]
          constructor
          · exact fun h => ⟨hbuffers, usDeviceClass, h, rfl⟩
          · rintro ⟨-, c, hc, h⟩
            cases h
            exact hc
        · rw [if_pos hsta]
          refine ⟨fun h => absurd rfl h, ?_⟩
          rintro ⟨-, c, -, h⟩
          cases h
          exact absurd rfl hsta
      · rw [if_pos hret]
        refine ⟨fun h => absurd rfl h, ?_⟩
        rintro ⟨-, c, -, h⟩
        cases h
        exact absurd rfl hret
  · rw [if_neg hbuffers]
    exact ⟨fun h => absurd rfl h, fun h => absurd h.1 hbuffers⟩

/-- The boot is without a null pointer exactly where the buffers are there that it comes to. -/
theorem boot_ok_iff (env : AddEnv) :
    (∃ lRet, env.boot = .ok lRet) ↔
      (env.Identified → env.IdentBuffered ∧ env.FirmwareBuffered) := by
  unfold AddEnv.boot
  by_cases hflash : env.ulFlashBased = true
  · rw [if_pos hflash]
    refine ⟨fun _ h => ?_, fun _ => ⟨_, rfl⟩⟩
    rw [h.reset.1] at hflash
    cases hflash
  rw [if_neg hflash]
  by_cases hreset : env.lReset = netanaNoError
  swap
  · rw [if_pos hreset]
    exact ⟨fun _ h => absurd h.reset.2 hreset, fun _ => ⟨_, rfl⟩⟩
  rw [if_neg (not_not.mpr hreset)]
  by_cases hboot : env.lBootloader = netanaNoError
  swap
  · rw [if_pos hboot]
    exact ⟨fun _ h => absurd h.bootloader hboot, fun _ => ⟨_, rfl⟩⟩
  rw [if_neg (not_not.mpr hboot)]
  by_cases hclass : env.requestDeviceClass = 0#16
  · rw [if_pos hclass]
    refine ⟨fun _ h => ?_, fun _ => ⟨_, rfl⟩⟩
    exact absurd hclass ((requestDeviceClass_ne_iff env).mpr ⟨h.buffers, h.answer⟩)
  rw [if_neg hclass]
  obtain ⟨hbuffers, hanswer⟩ := (requestDeviceClass_ne_iff env).mp hclass
  have hidentified : env.Identified :=
    ⟨⟨Bool.eq_false_iff.mpr hflash, hreset⟩, hboot, hbuffers, hanswer⟩
  rw [← netxUpdateIdentInfo_ok_iff, ← downloadAndStartFirmware_ok_iff]
  constructor
  · rintro ⟨lRet, h⟩ -
    obtain ⟨l, hl, hrest⟩ := (bind_ok_iff _ _ _).mp h
    exact ⟨⟨l, hl⟩, ⟨lRet, hrest⟩⟩
  · intro h
    obtain ⟨⟨l, hl⟩, ⟨lRet, hrest⟩⟩ := h hidentified
    exact ⟨lRet, (bind_ok_iff _ _ _).mpr ⟨l, hl, hrest⟩⟩

/-- All events are created. -/
theorem createBitEvents_snd (fAllocated : AllocSite → Bool) (ulIdx n : ℕ) :
    (createBitEvents fAllocated ulIdx n).2 = true ↔
      ∀ i < n, fAllocated (.handshakeBitEvent (ulIdx + i)) = true := by
  induction n generalizing ulIdx with
  | zero => exact ⟨fun _ i hi => absurd hi (Nat.not_lt_zero i), fun _ => rfl⟩
  | succ n ih =>
    rw [createBitEvents]
    by_cases hfirst : fAllocated (.handshakeBitEvent ulIdx) = true
    · rw [if_pos hfirst]
      dsimp only
      rw [ih]
      constructor
      · intro h i hi
        cases i with
        | zero => exact hfirst
        | succ i =>
          have hshift : ulIdx + 1 + i = ulIdx + (i + 1) := by omega
          exact hshift ▸ h i (by omega)
      · intro h i hi
        have hshift : ulIdx + (i + 1) = ulIdx + 1 + i := by omega
        exact hshift ▸ h (i + 1) (by omega)
    · rw [if_neg hfirst]
      refine ⟨fun h => absurd h Bool.false_ne_true, fun h => ?_⟩
      exact absurd (h 0 (Nat.succ_pos n)) hfirst

/-- The events of the interrupt handler are there. -/
def EventsCreated (fAllocated : AllocSite → Bool) : Prop :=
  fAllocated .hStopComplete = true ∧
    ∀ ulIdx < 16, fAllocated (.handshakeBitEvent ulIdx) = true

theorem createIrqEvents_ret_iff (fAllocated : AllocSite → Bool) (h : InstanceHandles) :
    (createIrqEvents fAllocated h).2 = netanaNoError ↔ EventsCreated fAllocated := by
  have hfailed : netanaIrqeventCreationFailed ≠ netanaNoError := by decide
  unfold createIrqEvents EventsCreated
  by_cases hstop : fAllocated .hStopComplete = true
  · rw [if_pos hstop]
    dsimp only
    have hall := createBitEvents_snd fAllocated 0 16
    simp only [Nat.zero_add] at hall
    rw [← hall]
    by_cases hbits : (createBitEvents fAllocated 0 16).2 = true
    · rw [if_pos hbits]
      exact ⟨fun _ => ⟨hstop, hbits⟩, fun _ => rfl⟩
    · rw [if_neg hbits]
      exact ⟨fun h => absurd h hfailed, fun h => absurd h.2 hbits⟩
  · rw [if_neg hstop]
    exact ⟨fun h => absurd h hfailed, fun h => absurd h.1 hstop⟩

/-- There is only one error. -/
theorem createIrqEvents_ret_ne {fAllocated : AllocSite → Bool} {h : InstanceHandles}
    (hne : (createIrqEvents fAllocated h).2 ≠ netanaNoError) :
    (createIrqEvents fAllocated h).2 = netanaIrqeventCreationFailed := by
  unfold createIrqEvents at hne ⊢
  split at hne
  · rename_i hstop
    rw [if_pos hstop]
    apply if_neg
    intro hbits
    exact hne (if_pos hbits)
  · rename_i hstop
    rw [if_neg hstop]

/-- The events leave the lock alone. -/
theorem createIrqEvents_pvLock (fAllocated : AllocSite → Bool) (h : InstanceHandles) :
    (createIrqEvents fAllocated h).1.pvLock = h.pvLock := by
  unfold createIrqEvents
  split
  · rfl
  · rfl

/-- The device is added to the end of the list. -/
structure AddResult.Added (r : AddResult) (ptDevInstance : DevPtr) (cards : Cards) : Prop where
  lRet : r.lRet = netanaNoError
  list : r.cards.tCardList = cards.tCardList ++ [ptDevInstance]
  count : r.cards.ulCardCnt = cards.ulCardCnt + 1#32

/-- The device is refused, and the list and the count stay. -/
structure AddResult.Refused (r : AddResult) (cards : Cards) : Prop where
  lRet : r.lRet ≠ netanaNoError
  cards : r.cards = cards

/-- What a call comes to that gets as far as its return. -/
theorem deviceadd_outcome {env : AddEnv} {ptDevInstance : DevPtr} {cards : Cards} {r : AddResult}
    (h : env.netanaTkitDeviceadd ptDevInstance cards = .ok r) :
    (r.Added ptDevInstance cards ∧ env.boot = .ok netanaNoError ∧
      r.layout = some (readDpmLayout (fun n => env.fAllocated (.defaultFilter n)) env.pvDPM)) ∨
      r.Refused cards := by
  have hlock : netanaIrqlockCreationFailed ≠ netanaNoError := by decide
  unfold AddEnv.netanaTkitDeviceadd at h
  dsimp only at h
  split at h
  · cases h
    exact Or.inr ⟨hlock, rfl⟩
  split at h
  · rename_i hevents
    cases h
    exact Or.inr ⟨hevents, rfl⟩
  obtain ⟨lRet, hboot, hrest⟩ := (bind_ok_iff _ _ _).mp h
  split at hrest
  · rename_i hret
    cases hrest
    exact Or.inr ⟨hret, rfl⟩
  · rename_i hret
    split at hrest
    · cases hrest
    · cases hrest
      rw [not_not] at hret
      exact Or.inl ⟨⟨hret, rfl, rfl⟩, hret ▸ hboot, rfl⟩

/-- The handles that are created, as slots of the device `d`. -/
def AddEnv.created (env : AddEnv) : HandleSlot → Bool
  | .cardLock => false
  | .pvLock _ => env.fAllocated .pvLock
  | .hStopComplete _ => env.fAllocated .hStopComplete
  | .ahHandshakeBitEvents _ ulIdx => env.fAllocated (.handshakeBitEvent ulIdx.val)
  | .pbMask _ ulPort ulFilter => env.fAllocated (.defaultFilter (4 * ulPort.val + 2 * ulFilter.val))
  | .pbValue _ ulPort ulFilter =>
    env.fAllocated (.defaultFilter (4 * ulPort.val + 2 * ulFilter.val + 1))
  | .pvSendMBXMutex _ => env.fAllocated .sendMbxMutex
  | .pvRecvMBXMutex _ => env.fAllocated .recvMbxMutex

theorem created_irqEvents_iff (env : AddEnv) (d : ℕ) :
    (∀ i ∈ irqEvents d, env.created i = true) ↔ EventsCreated env.fAllocated := by
  unfold irqEvents EventsCreated
  rw [List.forall_mem_cons, List.forall_mem_map]
  constructor
  · rintro ⟨hstop, hbits⟩
    exact ⟨hstop, fun ulIdx hlt => hbits ⟨ulIdx, hlt⟩ (List.mem_finRange _)⟩
  · rintro ⟨hstop, hbits⟩
    exact ⟨hstop, fun ulIdx _ => hbits ulIdx.val ulIdx.isLt⟩

/-- A call that returns does to the list of the cards what the toolkit does to it that counts its
handles, and returns the same. -/
theorem deviceadd_refines {env : AddEnv} {d : DevPtr} {cards : Cards} {r : AddResult}
    (h : env.netanaTkitDeviceadd d cards = .ok r) {c : AddSteps}
    (hcreated : c.fCreated = env.created)
    (hboot : ∀ lRet, env.boot = .ok lRet → c.lRet = lRet) {s : Toolkit}
    (hlist : s.tCardList = cards.tCardList) :
    (s.netanaTkitDeviceadd d c).2 = r.lRet ∧
      (s.netanaTkitDeviceadd d c).1.tCardList = r.cards.tCardList := by
  have hlock : netanaIrqlockCreationFailed ≠ netanaNoError := by decide
  have hevent : netanaIrqeventCreationFailed ≠ netanaNoError := by decide
  have hpv : c.fCreated (.pvLock d) = env.fAllocated .pvLock := by rw [hcreated]; rfl
  unfold AddEnv.netanaTkitDeviceadd at h
  unfold Toolkit.netanaTkitDeviceadd
  dsimp only at h ⊢
  rw [hpv]
  split at h
  · rename_i hnone
    cases h
    rw [if_pos hnone, if_neg hlock]
    exact ⟨rfl, hlist⟩
  rename_i hsome
  rw [if_neg hsome]
  -- the events of the two models are created together
  have hall := (createWhile_ok_iff c.fCreated (irqEvents d)
    (create (.pvLock d) (env.fAllocated .pvLock) s.handles)).trans
      (hcreated ▸ created_irqEvents_iff env d)
  have hret := createIrqEvents_ret_iff env.fAllocated { noHandles with pvLock := true }
  split at h
  · rename_i hfail
    cases h
    have hnot : ¬ (createWhile c.fCreated (irqEvents d)
        (create (.pvLock d) (env.fAllocated .pvLock) s.handles)).2 = true :=
      fun htrue => hfail (hret.mpr (hall.mp htrue))
    simp only [if_neg hnot, if_neg hevent]
    exact ⟨(createIrqEvents_ret_ne hfail).symm, hlist⟩
  · rename_i hok
    rw [not_not] at hok
    obtain ⟨lRet, hrun, hrest⟩ := (bind_ok_iff _ _ _).mp h
    simp only [if_pos (hall.mpr (hret.mp hok)), hboot lRet hrun]
    split at hrest
    · rename_i hfail
      cases hrest
      rw [if_neg hfail]
      exact ⟨rfl, hlist⟩
    · rename_i hzero
      rw [if_pos (not_not.mp hzero)]
      split at hrest
      · cases hrest
      · cases hrest
        exact ⟨rfl, congrArg (· ++ [d]) hlist⟩

/-- A flash based device with the given DPM, where there is memory for everything. -/
def flashDevice (pvDPM : Memory) : AddEnv where
  fAllocated := fun _ => true
  ulFlashBased := true
  lReset := netanaNoError
  lBootloader := netanaNoError
  identify := .silent .notReady
  fIdentUpdateRequest := false
  identFile := none
  identDevice := fun _ _ => .silent .notReady
  szFirmwareShortName := []
  firmwareFile := none
  firmwareDevice := fun _ _ => .silent .notReady
  start := .silent .notReady
  fStarted := false
  fStatusPending := false
  pvDPM := pvDPM

theorem flashDevice_added {pvDPM : Memory} (hcookie : hasCookie pvDPM) (ptDevInstance : DevPtr)
    (cards : Cards) :
    ∃ r, (flashDevice pvDPM).netanaTkitDeviceadd ptDevInstance cards = .ok r ∧
      r.lRet = netanaNoError := by
  have hboot : (flashDevice pvDPM).boot = .ok netanaNoError := by
    have hflash : (flashDevice pvDPM).ulFlashBased = true := rfl
    have hdpm : hasCookie (flashDevice pvDPM).pvDPM := hcookie
    rw [AddEnv.boot, if_pos hflash, if_pos hdpm]
  unfold AddEnv.netanaTkitDeviceadd
  rw [hboot]
  exact ⟨_, rfl, rfl⟩

/-- The DPM of a device without GPIOs and ports, of which 0x4000 bytes are used. -/
def bareDpm : Memory :=
  store (write32 (fun _ => 0#8) dpmUsedSizeOffset 0x4000#32) 0 netanaCookie

/-- A DPM that reports five GPIOs. -/
def fiveGpiosDpm : Memory := write32 bareDpm gpioCountOffset 5#32

/-- A DPM that reports four GPIOs and four ports. -/
def fourPortsDpm : Memory :=
  write32 (write32 (write32 (write32 bareDpm portCountOffset 4#32) gpioCountOffset 4#32)
    filterSizeOffset 128#32) counterSizeOffset 64#32

theorem bareDpm_cookie : hasCookie bareDpm := load_store _ 0 netanaCookie

theorem fourPortsDpm_cookie : hasCookie fourPortsDpm := by
  decide +kernel

theorem fiveGpiosDpm_cookie : hasCookie fiveGpiosDpm := by
  have hsame : load fiveGpiosDpm 0 netanaCookie.length = load bareDpm 0 netanaCookie.length := by
    apply load_congr
    intro i hi
    have hlen : netanaCookie.length = 12 := rfl
    apply write32_outside
    unfold gpioCountOffset
    omega
  exact hsame.trans bareDpm_cookie

/-- After a device has been added, its layout is in bounds exactly where the sizes that the device
reports fit. -/
theorem deviceadd_layout_inBounds_iff (env : AddEnv) (ptDevInstance : DevPtr) (cards : Cards)
    (ulDPMSize : BitVec 32) (r : AddResult)
    (h : env.netanaTkitDeviceadd ptDevInstance cards = .ok r) (hret : r.lRet = netanaNoError) :
    (∃ x, r.layout = some x ∧ x.InBounds ulDPMSize) ↔ (readSizes env.pvDPM).Fit ulDPMSize := by
  rcases deviceadd_outcome h with ⟨-, -, hlayout⟩ | hrefused
  · rw [← inBounds_iff (fun n => env.fAllocated (.defaultFilter n)) env.pvDPM ulDPMSize]
    constructor
    · rintro ⟨x, hx, hbounds⟩
      rw [hlayout] at hx
      cases hx
      exact hbounds
    · exact fun hbounds => ⟨_, hlayout, hbounds⟩
  · exact absurd hret hrefused.lRet

theorem deviceadd_layout_inBounds_iff_ports : ∃ r,
    (flashDevice fourPortsDpm).netanaTkitDeviceadd 0 ⟨[], 0#32⟩ = .ok r ∧
      ∃ x, r.layout = some x ∧ x.InBounds 0x10000#32 := by
  obtain ⟨r, h, hret⟩ := flashDevice_added fourPortsDpm_cookie 0 ⟨[], 0#32⟩
  have hsizes : readSizes fourPortsDpm = ⟨0x4000#32, 4#32, 4#32, 128#32, 64#32⟩ := by
    decide +kernel
  have hfit : (readSizes fourPortsDpm).Fit 0x10000#32 := by
    rw [hsizes]
    constructor <;> decide
  exact ⟨r, h, (deviceadd_layout_inBounds_iff (flashDevice fourPortsDpm) 0 ⟨[], 0#32⟩ 0x10000#32 r h
    hret).mpr hfit⟩

/-- A device that reports five GPIOs is added, and the fifth has no place in the instance. -/
theorem deviceadd_layout_out_of_bounds : ¬ ∀ (env : AddEnv) (ptDevInstance : DevPtr)
    (cards : Cards) (ulDPMSize : BitVec 32) (r : AddResult),
    env.netanaTkitDeviceadd ptDevInstance cards = .ok r → r.lRet = netanaNoError →
      ∃ x, r.layout = some x ∧ x.InBounds ulDPMSize := by
  intro hall
  obtain ⟨r, h, hret⟩ := flashDevice_added fiveGpiosDpm_cookie 0 ⟨[], 0#32⟩
  obtain ⟨x, hx, hbounds⟩ := hall _ _ _ 0x10000#32 r h hret
  rcases deviceadd_outcome h with ⟨-, -, hlayout⟩ | hrefused
  · rw [hlayout] at hx
    cases hx
    have hfit := (inBounds_iff _ _ _).mp hbounds
    have hfive : (readSizes (flashDevice fiveGpiosDpm).pvDPM).ulGPIOCount = 5#32 :=
      read32_write32 bareDpm gpioCountOffset 5#32
    have hle := hfit.gpios
    rw [hfive] at hle
    exact absurd hle (by decide)
  · exact hrefused.lRet hret

/-- No null pointer is used, and the device is added or refused. -/
def AddEnv.Survives (env : AddEnv) (ptDevInstance : DevPtr) (cards : Cards) : Prop :=
  ∃ r, env.netanaTkitDeviceadd ptDevInstance cards = .ok r ∧
    (r.Added ptDevInstance cards ∨ r.Refused cards)

/-- Where the call comes to the downloads, they and the start have the buffers that they use. -/
def AddEnv.Survivable (env : AddEnv) : Prop :=
  env.fAllocated .pvLock = true → EventsCreated env.fAllocated → env.Identified →
    env.IdentBuffered ∧ env.FirmwareBuffered

/-- A call survives the failures of its allocations exactly where the buffers are there that it
does not check. -/
theorem deviceadd_survives_iff (env : AddEnv) (ptDevInstance : DevPtr) (cards : Cards) :
    env.Survives ptDevInstance cards ↔ env.Survivable := by
  have hreturn : env.Survives ptDevInstance cards ↔
      ∃ r, env.netanaTkitDeviceadd ptDevInstance cards = .ok r := by
    constructor
    · rintro ⟨r, h, -⟩
      exact ⟨r, h⟩
    · rintro ⟨r, h⟩
      exact ⟨r, h, (deviceadd_outcome h).imp And.left id⟩
  rw [hreturn]
  unfold AddEnv.netanaTkitDeviceadd AddEnv.Survivable
  dsimp only
  by_cases hlock : env.fAllocated .pvLock = true
  swap
  · rw [if_pos (Bool.eq_false_iff.mpr hlock)]
    exact ⟨fun _ h => absurd h hlock, fun _ => ⟨_, rfl⟩⟩
  have hlocked : ¬ env.fAllocated .pvLock = false := by
    rw [hlock]
    decide
  rw [if_neg hlocked]
  by_cases hevents : EventsCreated env.fAllocated
  swap
  · rw [if_pos fun h => hevents ((createIrqEvents_ret_iff _ _).mp h)]
    exact ⟨fun _ _ h => absurd h hevents, fun _ => ⟨_, rfl⟩⟩
  rw [if_neg (not_not.mpr ((createIrqEvents_ret_iff _ _).mpr hevents))]
  have hboot := boot_ok_iff env
  constructor
  · rintro ⟨r, h⟩ - - hidentified
    obtain ⟨lRet, hlRet, -⟩ := (bind_ok_iff _ _ _).mp h
    exact hboot.mp ⟨lRet, hlRet⟩ hidentified
  · intro h
    obtain ⟨lRet, hlRet⟩ := hboot.mpr (h hlock hevents)
    rw [hlRet]
    by_cases hret : lRet = netanaNoError
    · -- the lock of the toggle is there
      have htoggle : ¬ (env.fStatusPending = true ∧
          (createIrqEvents env.fAllocated { noHandles with pvLock := true }).1.pvLock = false) := by
        rw [createIrqEvents_pvLock]
        exact fun h => absurd h.2 (by decide)
      simp only [Except.bind, if_neg (not_not.mpr hret), if_neg htoggle]
      exact ⟨_, rfl⟩
    · simp only [Except.bind, if_pos hret]
      exact ⟨_, rfl⟩

/-- A netX that has told its class, and no memory for the packet that starts the download. -/
def noFirmwareSend : AddEnv :=
  { flashDevice bareDpm with
    fAllocated := fun site => decide (site ≠ .firmwareSend)
    ulFlashBased := false
    identify := .arrived netanaNoError (0#32, 1#16)
    firmwareFile := some ⟨[0#8], by decide⟩ }

/-- Without memory for the packet, `DownloadFile` writes to a null pointer. -/
theorem deviceadd_null_pointer :
    ¬ ∀ (env : AddEnv) (ptDevInstance : DevPtr) (cards : Cards),
      env.Survives ptDevInstance cards := by
  intro hall
  obtain ⟨r, h, -⟩ := hall noFirmwareSend 0 ⟨[], 0#32⟩
  have hfault : noFirmwareSend.netanaTkitDeviceadd 0 ⟨[], 0#32⟩ = .error .nullPointer := rfl
  rw [hfault] at h
  cases h

end NetanaDriver
