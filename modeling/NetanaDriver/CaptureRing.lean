import NetanaDriver.CachedFlags
import NetanaDriver.FlagRing

/-! A running capture: the firmware fills the DMA buffers in ring order and indicates them,
while interrupts and the statements of the DSR thread take place at any time. -/
namespace NetanaDriver
open ToggleHandshake LaggingCache FlagRing

variable {β : Type*}

/-- What the firmware has done in this capture: the buffers it has filled, how many of them its
last NEWDATA toggle covers, whether it has announced the end of the capture, and whether it
ever announced a state before the last announcement was acknowledged. -/
structure Firmware (β : Type*) where
  filled : List (Handover β)
  indicated : ℕ
  stopped : Bool
  statusOverrun : Bool

structure CaptureState (β : Type*) where
  drv : DrvState β
  fw : Firmware β

inductive CaptureAction (β : Type*) where
  | isr (ulIRQState_0 : BitVec 32)
  | dsr (c : DsrChoice)
  -- firmware
  | transfer (content : β)
  | setSize (ulUsedBufferSize : BitVec 32)
  | flipBuffer
  | newData
  | setState (ulCaptureState ulCaptureError : BitVec 32)
  | newStatus
  | otherNetxBit (ulBit : ℕ)
  -- other threads of the driver
  | otherHostBit (ulBit : ℕ)

/-- The buffer the firmware fills next. -/
def CaptureState.fillBuffer (x : CaptureState β) : ℕ :=
  x.fw.filled.length % x.drv.ulDMABufferCount

/-- Host and netX flag of a buffer are equal. -/
def DrvState.bufferFree (s : DrvState β) (p : ℕ) : Bool :=
  s.hostBufferFlags.getLsbD p == s.netxBufferFlags.getLsbD p

/-- Host and netX handshake bits in the dual-port memory are equal. -/
def DrvState.bitsEqual (s : DrvState β) (b : ℕ) : Bool :=
  s.usHostFlags.getLsbD b == s.usNetxFlags.getLsbD b

def captureStep (x : CaptureState β) : CaptureAction β → Option (CaptureState β)
  | .isr ulIRQState_0 => some { x with drv := netanaIsr ulIRQState_0 x.drv }
  | .dsr c => (dsrStep c x.drv).map fun s => { x with drv := s }
  | .transfer content =>
    if x.drv.bufferFree x.fillBuffer then some { x with
      drv := { x.drv with
        pvBufferAddress := Function.update x.drv.pvBufferAddress x.fillBuffer content } }
    else none
  | .setSize ulUsedBufferSize =>
    if x.drv.bufferFree x.fillBuffer then some { x with
      drv := { x.drv with
        aulUsedBufferSize :=
          Function.update x.drv.aulUsedBufferSize x.fillBuffer ulUsedBufferSize } }
    else none
  -- only legal sizes, and nothing after the end of the capture was announced
  | .flipBuffer =>
    if x.drv.bufferFree x.fillBuffer && !x.fw.stopped &&
        x.drv.aulUsedBufferSize x.fillBuffer ≤ x.drv.ulBufferSize x.fillBuffer then some
      { drv := { x.drv with
          netxBufferFlags := toggleBit x.drv.netxBufferFlags x.fillBuffer }
        fw := { x.fw with
          filled := x.fw.filled ++ [⟨x.fillBuffer, x.drv.aulUsedBufferSize x.fillBuffer,
            x.drv.pvBufferAddress x.fillBuffer⟩] } }
    else none
  | .newData =>
    if x.drv.bitsEqual newdataBit then some
      { drv := { x.drv with usNetxFlags := toggleBit x.drv.usNetxFlags newdataBit }
        fw := { x.fw with indicated := x.fw.filled.length } }
    else none
  | .setState ulCaptureState ulCaptureError =>
    if x.drv.bitsEqual newstatusBit then some { x with
      drv := { x.drv with
        ulCaptureState := ulCaptureState
        ulCaptureError := ulCaptureError } }
    else none
  | .newStatus =>
    if x.drv.ulCaptureState = captureStateOff ∧ x.fw.indicated ≠ x.fw.filled.length then none
    else some
      { drv := { x.drv with usNetxFlags := toggleBit x.drv.usNetxFlags newstatusBit }
        fw := { x.fw with
          stopped := x.fw.stopped || x.drv.ulCaptureState = captureStateOff
          statusOverrun := x.fw.statusOverrun || !x.drv.bitsEqual newstatusBit } }
  | .otherNetxBit ulBit =>
    if ulBit = newdataBit ∨ ulBit = newstatusBit then none
    else some { x with
      drv := { x.drv with usNetxFlags := toggleBit x.drv.usNetxFlags ulBit } }
  | .otherHostBit ulBit =>
    if ulBit = newdataBit ∨ ulBit = newstatusBit then none
    else (netanaTkitToggleBit ulBit x.drv).map fun s => { x with drv := s }

/-- Positions inside `netana_tkit_process`, after its first statement. -/
def DsrPc.inProcess : DsrPc → Bool
  | .testNewData _ | .toggleData _ _ | .readBufferFlags _ | .testUsed _ | .readSize _
  | .testSize _ | .rejectBuffer _ | .writeFile _ | .callData _ | .freeBuffer _ | .clearUsed _
  | .advance _ | .testNewStatus _ | .readState | .callStatus _ _ | .toggleStatus _ _
  | .testOff _ => true
  | _ => false

/-- Everything the hand-over of buffers reads is the same in both states. -/
structure SameRing (s t : DrvState β) : Prop where
  host : t.hostBufferFlags = s.hostBufferFlags
  netx : t.netxBufferFlags = s.netxBufferFlags
  sizes : t.aulUsedBufferSize = s.aulUsedBufferSize
  limits : t.ulBufferSize = s.ulBufferSize
  contents : t.pvBufferAddress = s.pvBufferAddress
  count : t.ulDMABufferCount = s.ulDMABufferCount
  current : t.ulCurrentBuffer = s.ulCurrentBuffer
  callback : t.pfnData = s.pfnData
  handed : t.handed = s.handed

/-- The host flags, the lock, the capture state and the stop event are the same. -/
structure SameHost (s t : DrvState β) : Prop where
  host : t.ulHostFlags = s.ulHostFlags
  stored : t.usHostFlags = s.usHostFlags
  lock : t.pvLock = s.pvLock
  state : t.ulCaptureState = s.ulCaptureState
  stopEvent : t.hStopComplete = s.hStopComplete

theorem SameRing.refl (s : DrvState β) : SameRing s s :=
  ⟨rfl, rfl, rfl, rfl, rfl, rfl, rfl, rfl, rfl⟩

/-- A statement that only moves the DSR on leaves the ring alone. -/
theorem SameRing.moved {s t : DrvState β} (h : SameRing s t) (pc : DsrPc) :
    SameRing s { t with dsr := pc } :=
  ⟨h.host, h.netx, h.sizes, h.limits, h.contents, h.count, h.current, h.callback, h.handed⟩

theorem SameHost.refl (s : DrvState β) : SameHost s s := ⟨rfl, rfl, rfl, rfl, rfl⟩

theorem isr_same (w : BitVec 32) (s : DrvState β) :
    SameRing s (netanaIsr w s) ∧ SameHost s (netanaIsr w s) ∧ (netanaIsr w s).dsr = s.dsr := by
  rw [netanaIsr]
  split
  · exact ⟨⟨rfl, rfl, rfl, rfl, rfl, rfl, rfl, rfl, rfl⟩, ⟨rfl, rfl, rfl, rfl, rfl⟩, rfl⟩
  · exact ⟨SameRing.refl s, SameHost.refl s, rfl⟩

/-- Outside `netana_tkit_process` the DSR touches neither the ring nor the host flags. It enters
with the flags of which netX and host bit differ. -/
theorem dsrStep_outside {c : DsrChoice} {s t : DrvState β} (h : dsrStep c s = some t)
    (hout : s.dsr.inProcess = false) : SameRing s t ∧ SameHost s t ∧
      (t.dsr.inProcess = false ∨ (s.dsr = .processStart ∧
        t.dsr = .testNewData ⟨s.ulNetxFlags ^^^ s.ulHostFlags, 0#32, 0#32, 0#32⟩)) := by
  rw [dsrStep] at h
  cases hpc : s.dsr
  all_goals rw [hpc] at hout
  all_goals first | cases hout; done | skip
  all_goals
    rw [hpc] at h
    dsimp only at h
  case waitSig =>
    split at h
    · cases h
      exact ⟨⟨rfl, rfl, rfl, rfl, rfl, rfl, rfl, rfl, rfl⟩, ⟨rfl, rfl, rfl, rfl, rfl⟩,
        Or.inl rfl⟩
    · cases h
  case signalBits ulBitPos ulChangedBits lRet =>
    split at h
    · split at h
      · cases h
        exact ⟨⟨rfl, rfl, rfl, rfl, rfl, rfl, rfl, rfl, rfl⟩, ⟨rfl, rfl, rfl, rfl, rfl⟩,
          Or.inl rfl⟩
      · cases h
        exact ⟨⟨rfl, rfl, rfl, rfl, rfl, rfl, rfl, rfl, rfl⟩, ⟨rfl, rfl, rfl, rfl, rfl⟩,
          Or.inl rfl⟩
    · cases h
      exact ⟨⟨rfl, rfl, rfl, rfl, rfl, rfl, rfl, rfl, rfl⟩, ⟨rfl, rfl, rfl, rfl, rfl⟩,
        Or.inl rfl⟩
  case processStart =>
    cases h
    exact ⟨⟨rfl, rfl, rfl, rfl, rfl, rfl, rfl, rfl, rfl⟩, ⟨rfl, rfl, rfl, rfl, rfl⟩,
      Or.inr ⟨rfl, rfl⟩⟩
  case exited => cases h
  all_goals
    cases h
    refine ⟨⟨rfl, rfl, rfl, rfl, rfl, rfl, rfl, rfl, rfl⟩, ⟨rfl, rfl, rfl, rfl, rfl⟩,
      Or.inl ?_⟩
    first | rfl | (dsimp only; split <;> rfl)

/-- The DSR looks at entry number `r` and holds a copy of the flags that shows the entries up
to `v`. -/
def DrvState.atBuffer (s : DrvState β) (l : ProcessLocals) (r v : ℕ) : Prop :=
  s.ulCurrentBuffer = r % s.ulDMABufferCount ∧
    l.ulBufferMask = 1#32 <<< (r % s.ulDMABufferCount) ∧
    Shows l.ulUsedBuffers s.ulDMABufferCount r v

/-- What the locals of `netana_tkit_process` mean when entries below `r` have been freed and
the copy of the flags shows those from `r` up to `v`. -/
def DrvState.ringPosition (s : DrvState β) (r v : ℕ) : Prop :=
  match s.dsr with
  | .toggleData _ l | .readBufferFlags l => v = r ∧
      s.ulCurrentBuffer = r % s.ulDMABufferCount ∧
      l.ulBufferMask = 1#32 <<< (r % s.ulDMABufferCount)
  | .testUsed l => s.atBuffer l r v
  | .readSize l | .freeBuffer l => s.atBuffer l r v ∧ r < v
  | .testSize l | .writeFile l | .callData l => s.atBuffer l r v ∧ r < v ∧
      l.ulUsedBufferSize = s.aulUsedBufferSize (r % s.ulDMABufferCount)
  | .rejectBuffer _ => False
  | .clearUsed l => ∃ q, r = q + 1 ∧ q < v ∧ v ≤ q + s.ulDMABufferCount ∧ s.atBuffer l q v
  | .advance l => ∃ q, r = q + 1 ∧ s.ulCurrentBuffer = q % s.ulDMABufferCount ∧
      Shows l.ulUsedBuffers s.ulDMABufferCount r v
  | _ => v = r ∧ s.ulCurrentBuffer = r % s.ulDMABufferCount

/-- Number of entries handed over when `r` are freed. -/
def DsrPc.handedAt (r : ℕ) : DsrPc → ℕ
  | .freeBuffer _ => r + 1
  | _ => r

/-- What the DMA buffer of entry number `q` holds. -/
def DrvState.slot (s : DrvState β) (q : ℕ) : Handover β :=
  ⟨q % s.ulDMABufferCount, s.aulUsedBufferSize (q % s.ulDMABufferCount),
    s.pvBufferAddress (q % s.ulDMABufferCount)⟩

structure RingInv (s : DrvState β) (filled : List (Handover β)) (r v : ℕ) : Prop where
  count : 0 < s.ulDMABufferCount ∧ s.ulDMABufferCount ≤ 32
  callback : s.pfnData = true
  bounds : r ≤ v ∧ v ≤ filled.length ∧ filled.length ≤ r + s.ulDMABufferCount
  flags : Shows (s.hostBufferFlags ^^^ s.netxBufferFlags) s.ulDMABufferCount r filled.length
  slots : ∀ q, r ≤ q → q < filled.length → filled[q]? = some (s.slot q) ∧
    (s.slot q).size ≤ s.ulBufferSize (q % s.ulDMABufferCount)
  handed : s.handed = filled.take (s.dsr.handedAt r)
  position : s.ringPosition r v

theorem SameRing.slot {s t : DrvState β} (h : SameRing s t) (q : ℕ) : t.slot q = s.slot q := by
  rw [DrvState.slot, DrvState.slot, h.sizes, h.contents, h.count]

/-- A step that leaves the ring alone. -/
theorem RingInv.of_same {s t : DrvState β} {filled : List (Handover β)} {r v : ℕ}
    (hi : RingInv s filled r v) (h : SameRing s t) (hh : t.dsr.handedAt r = s.dsr.handedAt r)
    (hp : t.ringPosition r v) : RingInv t filled r v := by
  refine ⟨?_, ?_, ?_, ?_, ?_, ?_, hp⟩
  · rw [h.count]
    exact hi.count
  · rw [h.callback]
    exact hi.callback
  · rw [h.count]
    exact hi.bounds
  · rw [h.host, h.netx, h.count]
    exact hi.flags
  · intro q hq hw
    rw [h.slot, h.limits, h.count]
    exact hi.slots q hq hw
  · rw [h.handed, hh]
    exact hi.handed

theorem ringPosition_outside {s : DrvState β} {r v : ℕ}
    (h : s.dsr.inProcess = false ∨ ∃ l, s.dsr = .testNewData l) :
    s.ringPosition r v ↔ v = r ∧ s.ulCurrentBuffer = r % s.ulDMABufferCount := by
  rw [DrvState.ringPosition]
  rcases h with h | ⟨l, h⟩
  · cases hpc : s.dsr
    all_goals first | exact Iff.rfl | (rw [hpc] at h; cases h)
  · rw [h]

theorem handedAt_outside {d : DsrPc} {r : ℕ}
    (h : d.inProcess = false ∨ ∃ l, d = .testNewData l) : d.handedAt r = r := by
  rcases h with h | ⟨l, rfl⟩
  · cases d
    all_goals first | rfl | cases h
  · rfl

/-- Toggling handshake bits does not touch the ring. -/
theorem toggleStep_same {b : ℕ} {st : ToggleStage} {s : DrvState β}
    {r : DrvState β × Option ToggleStage} (h : toggleStep b st s = some r) : SameRing s r.1 := by
  cases st
  all_goals simp only [toggleStep, osEnterLock, xorHostFlags, storeHostFlags, osLeaveLock] at h
  case enterLock =>
    split at h
    · cases h
    · cases h
      exact ⟨rfl, rfl, rfl, rfl, rfl, rfl, rfl, rfl, rfl⟩
  all_goals
    cases h
    exact ⟨rfl, rfl, rfl, rfl, rfl, rfl, rfl, rfl, rfl⟩

theorem netanaTkitToggleBit_same {b : ℕ} {s t : DrvState β}
    (h : netanaTkitToggleBit b s = some t) : SameRing s t := by
  simp only [netanaTkitToggleBit, osEnterLock] at h
  split at h
  · cases h
  · cases h
    exact ⟨rfl, rfl, rfl, rfl, rfl, rfl, rfl, rfl, rfl⟩

theorem netanaSignalDriverError_same {c : DsrChoice} {s t : DrvState β}
    (h : netanaSignalDriverError c s = some t) : SameRing s t := by
  rw [netanaSignalDriverError] at h
  split at h
  · exact netanaTkitToggleBit_same h
  · cases h
    exact SameRing.refl s

/-- What the data callback is called with. -/
def DrvState.callEntry (s : DrvState β) (l : ProcessLocals) : Handover β :=
  ⟨s.ulCurrentBuffer, l.ulUsedBufferSize, s.pvBufferAddress s.ulCurrentBuffer⟩

/-- Only the data callback hands over. -/
theorem dsrStep_handed {s t : DrvState β} {c : DsrChoice} (h : dsrStep c s = some t) :
    (t.handed = s.handed ∨
      ∃ l, s.dsr = .callData l ∧ t.handed = s.handed ++ [s.callEntry l]) ∧
      t.ulDMABufferCount = s.ulDMABufferCount ∧ t.ulBufferSize = s.ulBufferSize := by
  cases hin : s.dsr.inProcess with
  | false =>
    obtain ⟨hsame, -, -⟩ := dsrStep_outside h hin
    exact ⟨Or.inl hsame.handed, hsame.count, hsame.limits⟩
  | true =>
    rw [dsrStep] at h
    cases hpc : s.dsr
    all_goals rw [hpc] at hin
    all_goals first | cases hin; done | skip
    all_goals
      rw [hpc] at h
      dsimp only at h
    case toggleData | toggleStatus =>
      obtain ⟨u, hu, rfl⟩ := Option.map_eq_some_iff.mp h
      have hsame := toggleStep_same hu
      exact ⟨Or.inl hsame.handed, hsame.count, hsame.limits⟩
    case rejectBuffer l =>
      obtain ⟨u, hu, rfl⟩ := Option.map_eq_some_iff.mp h
      have hsame := netanaSignalDriverError_same hu
      exact ⟨Or.inl hsame.handed, hsame.count, hsame.limits⟩
    case writeFile l =>
      split at h
      · obtain ⟨u, hu, rfl⟩ := Option.map_eq_some_iff.mp h
        have hsame := netanaSignalDriverError_same hu
        exact ⟨Or.inl hsame.handed, hsame.count, hsame.limits⟩
      · cases h
        exact ⟨Or.inl rfl, rfl, rfl⟩
    case callData l =>
      cases h
      refine ⟨?_, rfl, rfl⟩
      cases s.pfnData
      · exact Or.inl rfl
      · exact Or.inr ⟨l, rfl, rfl⟩
    case testOff state =>
      split at h
      all_goals
        cases h
        exact ⟨Or.inl rfl, rfl, rfl⟩
    all_goals
      cases h
      exact ⟨Or.inl rfl, rfl, rfl⟩

/-- What has been handed over lies between what is freed and what is filled. -/
theorem RingInv.handed_bounds {s : DrvState β} {filled : List (Handover β)} {r v : ℕ}
    (hi : RingInv s filled r v) : r ≤ s.handed.length ∧ s.handed.length ≤ filled.length ∧
      s.handed = filled.take s.handed.length := by
  have hbounds := hi.bounds
  have hle : r ≤ s.dsr.handedAt r := by
    cases s.dsr
    all_goals first | exact le_rfl | exact Nat.le_succ r
  have hlen : s.handed.length = min (s.dsr.handedAt r) filled.length := by
    rw [hi.handed, List.length_take]
  refine ⟨by omega, by omega, ?_⟩
  rw [hlen, hi.handed, List.take_eq_take_min]

/-- A statement of the DSR keeps the ring in order. The copy of the flags only grows, and right
after it is read it shows everything that has been filled. -/
def RingStep (s t : DrvState β) (filled : List (Handover β)) (r v : ℕ) : Prop :=
  ∃ r' v', RingInv t filled r' v' ∧ r ≤ r' ∧ v ≤ v' ∧
    (∀ l, s.dsr = .readBufferFlags l → v' = filled.length)

section DsrStep
variable {s t : DrvState β} {filled : List (Handover β)} {r v : ℕ} {c : DsrChoice}
  {l : ProcessLocals}

/-- A statement that leaves the ring alone. -/
theorem RingInv.stays (hi : RingInv s filled r v) (hsame : SameRing s t)
    (hread : ∀ l, s.dsr ≠ .readBufferFlags l) (hh : t.dsr.handedAt r = s.dsr.handedAt r)
    (hp : t.ringPosition r v) : RingStep s t filled r v :=
  ⟨r, v, hi.of_same hsame hh hp, le_rfl, le_rfl, fun l hl => absurd hl (hread l)⟩

/-- The copy is taken here, so it shows everything filled so far. -/
theorem RingInv.readBufferFlags (hi : RingInv s filled r v) (hpc : s.dsr = .readBufferFlags l)
    (h : dsrStep c s = some t) : RingStep s t filled r v := by
  have hpos := hi.position
  have hhanded := hi.handed
  obtain ⟨hrv, hvw, hwn⟩ := hi.bounds
  rw [DrvState.ringPosition, hpc] at hpos
  rw [hpc] at hhanded
  rw [dsrStep, hpc] at h
  dsimp only at h hpos
  cases h
  obtain ⟨-, hcur, hmask⟩ := hpos
  exact ⟨r, filled.length, ⟨hi.count, hi.callback, ⟨by omega, le_rfl, hwn⟩, hi.flags,
    hi.slots, hhanded, ⟨hcur, hmask, hi.flags⟩⟩, le_rfl, hvw, fun _ _ => rfl⟩

/-- The bit of the current buffer in the copy is set exactly when a buffer is waiting. -/
theorem RingInv.testUsed (hi : RingInv s filled r v) (hpc : s.dsr = .testUsed l)
    (h : dsrStep c s = some t) : RingStep s t filled r v := by
  have hpos := hi.position
  obtain ⟨hn, hn32⟩ := hi.count
  obtain ⟨hrv, -, -⟩ := hi.bounds
  rw [DrvState.ringPosition, hpc] at hpos
  rw [dsrStep, hpc] at h
  dsimp only at h hpos
  cases h
  obtain ⟨hcur, hmask, hshow⟩ := hpos
  have hbit : maskTest l.ulUsedBuffers l.ulBufferMask = true ↔ r < v := by
    rw [hmask, maskTest_one_shiftLeft _ _ (lt_of_lt_of_le (Nat.mod_lt r hn) hn32),
      hshow.first hn]
  refine hi.stays ((SameRing.refl s).moved _) (by simp [hpc]) ?_ ?_
  · rw [hpc]
    dsimp only
    split <;> rfl
  · rw [DrvState.ringPosition]
    cases hm : maskTest l.ulUsedBuffers l.ulBufferMask with
    | true => exact ⟨⟨hcur, hmask, hshow⟩, hbit.mp hm⟩
    | false =>
      have hnot : ¬ r < v := fun hlt => by
        rw [hbit.mpr hlt] at hm
        cases hm
      exact ⟨by omega, hcur⟩

/-- The firmware stores no size above the limit, so no buffer is rejected. -/
theorem RingInv.testSize (hi : RingInv s filled r v) (hpc : s.dsr = .testSize l)
    (h : dsrStep c s = some t) : RingStep s t filled r v := by
  have hpos := hi.position
  obtain ⟨-, hvw, -⟩ := hi.bounds
  rw [DrvState.ringPosition, hpc] at hpos
  rw [dsrStep, hpc] at h
  dsimp only at h hpos
  cases h
  obtain ⟨⟨hcur, hmask, hshow⟩, hlt, hsize⟩ := hpos
  have hlegal := (hi.slots r le_rfl (by omega)).2
  have hle : ¬ l.ulUsedBufferSize > s.ulBufferSize s.ulCurrentBuffer := by
    rw [hsize, hcur]
    exact BitVec.not_lt.mpr hlegal
  refine hi.stays ((SameRing.refl s).moved _) (by simp [hpc]) ?_ ?_
  · rw [hpc]
    dsimp only
    rw [if_neg hle]
    rfl
  · rw [DrvState.ringPosition]
    dsimp only
    rw [if_neg hle]
    exact ⟨⟨hcur, hmask, hshow⟩, hlt, hsize⟩

/-- The buffer handed over is the one at `r`, with the size that was stored for it. -/
theorem RingInv.callData (hi : RingInv s filled r v) (hpc : s.dsr = .callData l)
    (h : dsrStep c s = some t) : RingStep s t filled r v := by
  have hpos := hi.position
  have hhanded := hi.handed
  obtain ⟨-, hvw, -⟩ := hi.bounds
  rw [DrvState.ringPosition, hpc] at hpos
  rw [hpc] at hhanded
  rw [dsrStep, hpc] at h
  dsimp only at h hpos
  cases h
  obtain ⟨⟨hcur, hmask, hshow⟩, hlt, hsize⟩ := hpos
  refine ⟨r, v, ⟨hi.count, hi.callback, hi.bounds, hi.flags, hi.slots, ?_,
    ⟨⟨hcur, hmask, hshow⟩, hlt⟩⟩, le_rfl, le_rfl, by simp [hpc]⟩
  have hslot := (hi.slots r le_rfl (by omega)).1
  dsimp only [DsrPc.handedAt] at hhanded ⊢
  rw [hi.callback, if_pos rfl, hhanded, List.take_add_one, hslot, hcur, hsize]
  rfl

/-- Toggling the host flag gives the buffer back: the ring starts one later from now on. -/
theorem RingInv.freeBuffer (hi : RingInv s filled r v) (hpc : s.dsr = .freeBuffer l)
    (h : dsrStep c s = some t) : RingStep s t filled r v := by
  have hpos := hi.position
  have hhanded := hi.handed
  obtain ⟨-, hn32⟩ := hi.count
  obtain ⟨hrv, hvw, hwn⟩ := hi.bounds
  rw [DrvState.ringPosition, hpc] at hpos
  rw [hpc] at hhanded
  rw [dsrStep, hpc] at h
  dsimp only at h hpos
  cases h
  obtain ⟨⟨hcur, hmask, hshow⟩, hlt⟩ := hpos
  refine ⟨r + 1, v, ⟨hi.count, hi.callback, ⟨by omega, hvw, by dsimp only; omega⟩, ?_, ?_,
    hhanded, ⟨r, rfl, hlt, by dsimp only; omega, hcur, hmask, hshow⟩⟩, by omega, le_rfl,
    by simp [hpc]⟩
  · dsimp only
    rw [hmask, ← toggleBit, toggleBit_xor_left]
    exact hi.flags.pop hn32 (by omega) hwn
  · intro q hq hw
    exact hi.slots q (by omega) hw

/-- The copy still shows the buffer just freed, and this statement takes its bit away. -/
theorem RingInv.clearUsed (hi : RingInv s filled r v) (hpc : s.dsr = .clearUsed l)
    (h : dsrStep c s = some t) : RingStep s t filled r v := by
  have hpos := hi.position
  obtain ⟨-, hn32⟩ := hi.count
  rw [DrvState.ringPosition, hpc] at hpos
  rw [dsrStep, hpc] at h
  dsimp only at h hpos
  cases h
  obtain ⟨q, rfl, hqv, hvq, hcur, hmask, hshow⟩ := hpos
  refine hi.stays ((SameRing.refl s).moved _) (by simp [hpc]) ?_ ?_
  · rw [hpc]
    rfl
  · refine ⟨q, rfl, hcur, ?_⟩
    dsimp only
    rw [hmask]
    exact hshow.clear hn32 hqv hvq

theorem RingInv.advance (hi : RingInv s filled r v) (hpc : s.dsr = .advance l)
    (h : dsrStep c s = some t) : RingStep s t filled r v := by
  have hpos := hi.position
  have hhanded := hi.handed
  rw [DrvState.ringPosition, hpc] at hpos
  rw [hpc] at hhanded
  rw [dsrStep, hpc] at h
  dsimp only at h hpos
  cases h
  obtain ⟨q, rfl, hcur, hshow⟩ := hpos
  have hnext : nextBuffer s.ulDMABufferCount s.ulCurrentBuffer =
      (q + 1) % s.ulDMABufferCount := by
    rw [nextBuffer, hcur, next_mod hi.count.1]
  refine ⟨q + 1, v, ⟨hi.count, hi.callback, hi.bounds, hi.flags, hi.slots, hhanded,
    ⟨hnext, ?_, hshow⟩⟩, le_rfl, le_rfl, by simp [hpc]⟩
  dsimp only
  rw [hnext]

/-- Outside the processing of the flags the ring is not touched. -/
theorem RingInv.outside (hi : RingInv s filled r v) (hin : s.dsr.inProcess = false)
    (h : dsrStep c s = some t) : RingStep s t filled r v := by
  obtain ⟨hsame, -, ht⟩ := dsrStep_outside h hin
  have ht' : t.dsr.inProcess = false ∨ ∃ l, t.dsr = .testNewData l :=
    ht.imp_right fun h => ⟨_, h.2⟩
  apply hi.stays hsame
  · intro l hl
    rw [hl] at hin
    cases hin
  · rw [handedAt_outside ht', handedAt_outside (Or.inl hin)]
  · rw [ringPosition_outside ht', hsame.current, hsame.count]
    exact (ringPosition_outside (Or.inl hin)).mp hi.position

theorem RingInv.dsr (hi : RingInv s filled r v) (h : dsrStep c s = some t) :
    RingStep s t filled r v := by
  cases hin : s.dsr.inProcess with
  | false => exact hi.outside hin h
  | true =>
    have hstep := h
    have hpos := hi.position
    rw [DrvState.ringPosition] at hpos
    rw [dsrStep] at h
    cases hpc : s.dsr
    all_goals rw [hpc] at hin
    all_goals first | cases hin; done | skip
    all_goals
      rw [hpc] at h hpos
      dsimp only at h hpos
    case readBufferFlags l => exact hi.readBufferFlags hpc hstep
    case testUsed l => exact hi.testUsed hpc hstep
    case testSize l => exact hi.testSize hpc hstep
    case callData l => exact hi.callData hpc hstep
    case freeBuffer l => exact hi.freeBuffer hpc hstep
    case clearUsed l => exact hi.clearUsed hpc hstep
    case advance l => exact hi.advance hpc hstep
    case testNewData l =>
      cases h
      refine hi.stays ((SameRing.refl s).moved _) (by simp [hpc]) ?_ ?_
      · rw [hpc]
        dsimp only
        split <;> rfl
      · obtain ⟨hv, hcur⟩ := hpos
        rw [DrvState.ringPosition]
        cases maskTest l.ulUnequalFlags (1#32 <<< newdataBit)
        · exact ⟨hv, hcur⟩
        · exact ⟨hv, hcur, by dsimp only; rw [hcur]⟩
    case toggleData stage l =>
      obtain ⟨u, hu, rfl⟩ := Option.map_eq_some_iff.mp h
      have hsame := toggleStep_same hu
      refine hi.stays (hsame.moved _) (by simp [hpc]) ?_ ?_
      · rw [hpc]
        dsimp only
        split <;> rfl
      · rw [DrvState.ringPosition]
        dsimp only
        rw [hsame.count, hsame.current]
        cases u.2 <;> exact hpos
    case readSize l =>
      cases h
      obtain ⟨⟨hcur, hmask, hshow⟩, hlt⟩ := hpos
      refine hi.stays ((SameRing.refl s).moved _) (by simp [hpc]) ?_ ?_
      · rw [hpc]
        rfl
      · exact ⟨⟨hcur, hmask, hshow⟩, hlt, by dsimp only; rw [hcur]⟩
    case writeFile l =>
      split at h
      · obtain ⟨u, hu, rfl⟩ := Option.map_eq_some_iff.mp h
        -- a failed write also switches the file off, which the ring does not read
        obtain ⟨h1, h2, h3, h4, h5, h6, h7, h8, h9⟩ := netanaSignalDriverError_same hu
        refine hi.stays ⟨h1, h2, h3, h4, h5, h6, h7, h8, h9⟩ (by simp [hpc]) ?_ ?_
        · rw [hpc]
          rfl
        · rw [DrvState.ringPosition]
          dsimp only [DrvState.atBuffer]
          rw [h3, h6, h7]
          exact hpos
      · cases h
        refine hi.stays ((SameRing.refl s).moved _) (by simp [hpc]) ?_ hpos
        rw [hpc]
        rfl
    case testNewStatus l =>
      cases h
      refine hi.stays ((SameRing.refl s).moved _) (by simp [hpc]) ?_ ?_
      · rw [hpc]
        dsimp only
        split <;> rfl
      · rw [DrvState.ringPosition]
        cases maskTest l.ulUnequalFlags (1#32 <<< newstatusBit) <;> exact hpos
    case toggleStatus stage state =>
      obtain ⟨u, hu, rfl⟩ := Option.map_eq_some_iff.mp h
      have hsame := toggleStep_same hu
      refine hi.stays (hsame.moved _) (by simp [hpc]) ?_ ?_
      · rw [hpc]
        dsimp only
        split <;> rfl
      · rw [DrvState.ringPosition]
        dsimp only
        rw [hsame.count, hsame.current]
        cases u.2 <;> exact hpos
    case testOff state =>
      split at h
      all_goals
        cases h
        refine hi.stays ⟨rfl, rfl, rfl, rfl, rfl, rfl, rfl, rfl, rfl⟩ (by simp [hpc]) ?_ hpos
        rw [hpc]
        rfl
    all_goals
      cases h
      refine hi.stays ((SameRing.refl s).moved _) (by simp [hpc]) ?_ hpos
      rw [hpc]
      rfl

end DsrStep

/-- The next buffer to fill is free only while the ring has room, and then no filled buffer
lies there. -/
theorem RingInv.room {s : DrvState β} {filled : List (Handover β)} {r v : ℕ}
    (hi : RingInv s filled r v)
    (hfree : s.bufferFree (filled.length % s.ulDMABufferCount) = true) :
    filled.length < r + s.ulDMABufferCount ∧ ∀ q, r ≤ q → q < filled.length →
      q % s.ulDMABufferCount ≠ filled.length % s.ulDMABufferCount := by
  obtain ⟨hn, -⟩ := hi.count
  obtain ⟨hrv, hvw, hwn⟩ := hi.bounds
  have hbit : (s.hostBufferFlags ^^^ s.netxBufferFlags).getLsbD
      (filled.length % s.ulDMABufferCount) = false := by
    rw [DrvState.bufferFree, beq_iff_eq] at hfree
    rw [BitVec.getLsbD_xor, hfree, Bool.xor_self]
  have hroom := hi.flags.room hn (by omega) hwn hbit
  refine ⟨hroom, fun q hq hw hcell => ?_⟩
  have heq := eq_of_same_cell (w := filled.length + 1) (by omega) hq (by omega) (by omega)
    (by omega) hcell
  omega

/-- The firmware writes into the next buffer to fill. -/
theorem RingInv.write {s t : DrvState β} {filled : List (Handover β)} {r v : ℕ}
    (hi : RingInv s filled r v)
    (hfree : s.bufferFree (filled.length % s.ulDMABufferCount) = true)
    (hother : ∀ p, p ≠ filled.length % s.ulDMABufferCount →
      t.aulUsedBufferSize p = s.aulUsedBufferSize p ∧ t.pvBufferAddress p = s.pvBufferAddress p)
    (hhost : t.hostBufferFlags = s.hostBufferFlags) (hnetx : t.netxBufferFlags = s.netxBufferFlags)
    (hlimits : t.ulBufferSize = s.ulBufferSize) (hcount : t.ulDMABufferCount = s.ulDMABufferCount)
    (hcurrent : t.ulCurrentBuffer = s.ulCurrentBuffer) (hcallback : t.pfnData = s.pfnData)
    (hhanded : t.handed = s.handed) (hdsr : t.dsr = s.dsr) : RingInv t filled r v := by
  obtain ⟨-, hcell⟩ := hi.room hfree
  obtain ⟨hrv, hvw, -⟩ := hi.bounds
  have hslot : ∀ q, r ≤ q → q < filled.length → t.slot q = s.slot q := by
    intro q hq hw
    obtain ⟨h1, h2⟩ := hother _ (hcell q hq hw)
    rw [DrvState.slot, DrvState.slot, hcount, h1, h2]
  refine ⟨?_, ?_, ?_, ?_, ?_, ?_, ?_⟩
  · rw [hcount]
    exact hi.count
  · rw [hcallback]
    exact hi.callback
  · rw [hcount]
    exact hi.bounds
  · rw [hhost, hnetx, hcount]
    exact hi.flags
  · intro q hq hw
    rw [hslot q hq hw, hlimits, hcount]
    exact hi.slots q hq hw
  · rw [hhanded, hdsr]
    exact hi.handed
  · have hpos := hi.position
    have hsize : r < v → t.aulUsedBufferSize (r % s.ulDMABufferCount) =
        s.aulUsedBufferSize (r % s.ulDMABufferCount) := fun hlt =>
      (hother _ (hcell r le_rfl (by omega))).1
    rw [DrvState.ringPosition] at hpos ⊢
    simp only [DrvState.atBuffer] at hpos ⊢
    rw [hdsr, hcount, hcurrent]
    cases hpc : s.dsr
    case testSize | writeFile | callData =>
      rw [hpc] at hpos
      obtain ⟨hat, hlt, hl⟩ := hpos
      exact ⟨hat, hlt, by rw [hl, hsize hlt]⟩
    all_goals
      rw [hpc] at hpos
      exact hpos

/-- The firmware passes the next buffer on. -/
theorem RingInv.flip {s : DrvState β} {filled : List (Handover β)} {r v : ℕ}
    (hi : RingInv s filled r v)
    (hfree : s.bufferFree (filled.length % s.ulDMABufferCount) = true)
    (hlegal : s.aulUsedBufferSize (filled.length % s.ulDMABufferCount) ≤
      s.ulBufferSize (filled.length % s.ulDMABufferCount)) :
    RingInv
      { s with netxBufferFlags := toggleBit s.netxBufferFlags (filled.length % s.ulDMABufferCount) }
      (filled ++ [s.slot filled.length]) r v := by
  obtain ⟨hroom, -⟩ := hi.room hfree
  obtain ⟨hn, hn32⟩ := hi.count
  obtain ⟨hrv, hvw, hwn⟩ := hi.bounds
  refine ⟨hi.count, hi.callback, ⟨hrv, ?_, ?_⟩, ?_, ?_, ?_, hi.position⟩
  · rw [List.length_append]
    omega
  · rw [List.length_append]
    dsimp only [List.length_singleton]
    omega
  · rw [List.length_append, toggleBit_xor_right]
    exact hi.flags.push hn32 (by omega) hroom
  · intro q hq hw
    rw [List.length_append, List.length_singleton] at hw
    by_cases hlast : q = filled.length
    · subst hlast
      exact ⟨List.getElem?_concat_length, hlegal⟩
    · have hlt : q < filled.length := by omega
      rw [List.getElem?_append_left hlt]
      exact hi.slots q hq hlt
  · have hle : s.dsr.handedAt r ≤ filled.length := by
      have hpos := hi.position
      rw [DrvState.ringPosition] at hpos
      cases hpc : s.dsr
      case freeBuffer l =>
        rw [hpc] at hpos
        obtain ⟨-, hlt⟩ := hpos
        dsimp only [DsrPc.handedAt]
        omega
      all_goals
        dsimp only [DsrPc.handedAt]
        omega
    rw [List.take_append_of_le_length hle]
    exact hi.handed

end NetanaDriver
