import NetanaDriver.CallNumbers
import NetanaDriver.ExclusiveSection
import NetanaDriver.Mailbox

/-! The receive mailbox over whole runs: every packet the device indicates is taken out by one
call, in the order of the indications. -/
namespace NetanaDriver
open ToggleHandshake LaggingCache CallNumbers ExclusiveSection

variable {β ι : Type*}

def GetPc.call : GetPc → GetCall
  | .waitMutex c | .waitFull c _ | .countPacket c | .readSize c | .copyPacket c _ _ => c
  | .toggle r _ | .releaseMutex r | .ret r => r.call

/-- Between `OS_WaitMutex` and `OS_ReleaseMutex`. -/
def GetPc.inside : GetPc → Bool
  | .waitMutex _ | .ret _ => false
  | _ => true

def GetPc.toggling : GetPc → Option (ℕ × ToggleStage)
  | .toggle _ stage => some (recvMbxBit, stage)
  | _ => none

/-- The length of the packet at an address fits into 32 bits. -/
def wellFormedAt (pb : ByteArea) : Prop :=
  (ulLenAt pb).toNat + netanaPacketHeaderSize.toNat < 2 ^ 32

/-- The call hands over the packet, or as much of it as its buffer takes. -/
structure GetReturn.Delivers (r : GetReturn) (packet : List (BitVec 8)) : Prop where
  lRet : r.lRet =
    if packet.length > r.call.ulSize.toNat then netanaBufferTooShort else netanaNoError
  bytes : (List.range (min r.call.ulSize.toNat packet.length)).map r.ptRecvPkt =
    packet.take r.call.ulSize.toNat

/-- The results of a call that has taken a packet out. -/
def GetReturn.took (r : GetReturn) : Prop :=
  r.lRet = netanaNoError ∨ r.lRet = netanaBufferTooShort

def RecvMbx.receivedNrs (m : RecvMbx) : List ℕ := m.received.map fun r => r.call.nr

def RecvMbx.returnedNrs (m : RecvMbx) : List ℕ := m.returned.map fun r => r.call.nr

/-- A packet is in the mailbox, and the driver has seen its indication. -/
def recvReady (s : DrvState β) (c : Cache (BitVec 16)) : Prop :=
  s.usNetxFlags.getLsbD recvMbxBit = (!s.hostBit recvMbxBit) ∧
    c.LatchedOn (·.getLsbD recvMbxBit) (s.hostBit recvMbxBit)

/-- A call has taken a packet out exactly if its result says so. -/
def receivedExactly (m : RecvMbx) (r : GetReturn) : Prop :=
  (r.took → r ∈ m.received) ∧ (¬ r.took → r.call.nr ∉ m.receivedNrs)

/-- What the position of a thread says about the mailbox. -/
def recvPosition (s : DrvState β) (m : RecvMbx) (c : Cache (BitVec 16)) : GetPc → Prop
  | .waitMutex call | .waitFull call _ => call.nr ∉ m.receivedNrs
  | .countPacket call | .readSize call => recvReady s c ∧ call.nr ∉ m.receivedNrs
  | .copyPacket call ulCopySize lRet => recvReady s c ∧ call.nr ∉ m.receivedNrs ∧
      copySize m.abRecvMailbox call.ulSize = (ulCopySize, lRet)
  | .toggle r .enterLock | .toggle r .xorHost =>
      recvReady s c ∧ r.call.nr ∉ m.receivedNrs ∧ r.Delivers (packetAt m.abRecvMailbox)
  | .toggle r .storeHost => s.usNetxFlags.getLsbD recvMbxBit = s.hostBit recvMbxBit ∧
      r ∈ m.received ∧ r.took
  | .toggle r .leaveLock => r ∈ m.received ∧ r.took
  | .releaseMutex r | .ret r => receivedExactly m r

structure RecvInv (s : DrvState β) (m : RecvMbx) (pc : ι → Option GetPc) (n : ℕ)
    (c : Cache (BitVec 16)) : Prop where
  latched : c.LatchedOn (·.getLsbD recvMbxBit) (!s.hostBit recvMbxBit)
  exclusive : Exclusive pc GetPc.inside m.pvRecvMBXMutex
  counts : m.written.length = m.received.length +
    if s.usNetxFlags.getLsbD recvMbxBit = s.hostBit recvMbxBit then 0 else 1
  delivered : ∀ (k : ℕ) r, m.received[k]? = some r → ∃ packet, m.written[k]? = some packet ∧
    r.Delivers packet
  full : s.usNetxFlags.getLsbD recvMbxBit = (!s.hostBit recvMbxBit) →
    m.written.getLast? = some (packetAt m.abRecvMailbox) ∧ wellFormedAt m.abRecvMailbox
  device : m.device = true → s.usNetxFlags.getLsbD recvMbxBit = s.hostBit recvMbxBit ∧
    wellFormedAt m.abRecvMailbox ∧ ∀ i r, pc i ≠ some (.toggle r .storeHost)
  position : ∀ i p, pc i = some p → recvPosition s m c p
  numbers : Numbered n (fun i => (pc i).map fun p => p.call.nr) m.receivedNrs m.returnedNrs
  returned : ∀ r ∈ m.returned, receivedExactly m r

theorem GetReturn.Delivers.took {r : GetReturn} {packet : List (BitVec 8)}
    (h : r.Delivers packet) : r.took := by
  rw [GetReturn.took, h.lRet]
  by_cases hsize : packet.length > r.call.ulSize.toNat
  · rw [if_pos hsize]
    exact Or.inr rfl
  · rw [if_neg hsize]
    exact Or.inl rfl

/-- A copy with the size `get_packet` computes hands the packet over. -/
theorem delivers_memcpy {pb : ByteArea} (hwell : wellFormedAt pb) {call : GetCall}
    {ulCopySize lRet : BitVec 32} (hsize : copySize pb call.ulSize = (ulCopySize, lRet)) :
    GetReturn.Delivers ⟨call, lRet, osMemcpy call.ptRecvPkt pb ulCopySize⟩ (packetAt pb) := by
  have hlen : (packetAt pb).length = (ulLenAt pb + netanaPacketHeaderSize).toNat := by
    rw [packetAt, List.length_map, List.length_range, BitVec.toNat_add, Nat.mod_eq_of_lt hwell]
  have hgt : ulLenAt pb + netanaPacketHeaderSize > call.ulSize ↔
      (packetAt pb).length > call.ulSize.toNat := by
    rw [hlen]
    exact BitVec.lt_def
  -- the buffer or the packet, whichever is shorter
  have hboth : ulCopySize.toNat = min call.ulSize.toNat (packetAt pb).length ∧
      lRet = if (packetAt pb).length > call.ulSize.toNat then netanaBufferTooShort
        else netanaNoError := by
    rw [copySize] at hsize
    by_cases hshort : (packetAt pb).length > call.ulSize.toNat
    · rw [if_pos (hgt.mpr hshort)] at hsize
      cases hsize
      rw [if_pos hshort]
      exact ⟨by omega, rfl⟩
    · rw [if_neg fun h => hshort (hgt.mp h)] at hsize
      cases hsize
      rw [if_neg hshort, hlen]
      exact ⟨by omega, rfl⟩
  refine ⟨hboth.2, ?_⟩
  rw [← hboth.1]
  have htake : (packetAt pb).take call.ulSize.toNat = (List.range ulCopySize.toNat).map pb := by
    rw [hboth.1, packetAt, ← List.map_take, List.take_range, List.length_map, List.length_range]
  rw [htake]
  apply List.map_congr_left
  intro k hk
  exact if_pos (List.mem_range.mp hk)

theorem recvReady.mono {s t : DrvState β} {c d : Cache (BitVec 16)}
    (h : Spared recvMbxBit s t c d) (hr : recvReady s c) : recvReady t d := by
  rw [recvReady, h.host, h.netx]
  exact ⟨hr.1, h.latched _ hr.2⟩

theorem receivedExactly.congr {m m' : RecvMbx} (h : m'.received = m.received) {r : GetReturn}
    (hr : receivedExactly m r) : receivedExactly m' r := by
  rw [receivedExactly, RecvMbx.receivedNrs, h]
  exact hr

/-- The bits, the mailbox and the packets received are what a position depends on. -/
theorem recvPosition_congr {s t : DrvState β} {m m' : RecvMbx} {c d : Cache (BitVec 16)}
    (h : Spared recvMbxBit s t c d) (hreceived : m'.received = m.received)
    (hmbx : m'.abRecvMailbox = m.abRecvMailbox) {p : GetPc} (hp : recvPosition s m c p) :
    recvPosition t m' d p := by
  have hnrs : m'.receivedNrs = m.receivedNrs := by
    rw [RecvMbx.receivedNrs, hreceived, RecvMbx.receivedNrs]
  cases p with
  | waitMutex call | waitFull call stage =>
    rw [recvPosition, hnrs]
    exact hp
  | countPacket call | readSize call =>
    rw [recvPosition, hnrs]
    exact ⟨recvReady.mono h hp.1, hp.2⟩
  | copyPacket call ulCopySize lRet =>
    rw [recvPosition, hnrs, hmbx]
    exact ⟨recvReady.mono h hp.1, hp.2⟩
  | toggle r stage =>
    cases stage with
    | enterLock | xorHost =>
      rw [recvPosition, hnrs, hmbx]
      exact ⟨recvReady.mono h hp.1, hp.2⟩
    | storeHost =>
      rw [recvPosition, h.netx, h.host, hreceived]
      exact hp
    | leaveLock =>
      rw [recvPosition, hreceived]
      exact hp
  | releaseMutex r | ret r => exact receivedExactly.congr hreceived hp

/-- Threads without the mutex depend on the packets received alone. -/
theorem recvPosition_of_outside {s t : DrvState β} {m m' : RecvMbx} {c d : Cache (BitVec 16)}
    {p : GetPc} (hout : p.inside = false) (hsub : ∀ r ∈ m.received, r ∈ m'.received)
    (hnot : p.call.nr ∉ m.receivedNrs → p.call.nr ∉ m'.receivedNrs)
    (hp : recvPosition s m c p) : recvPosition t m' d p := by
  cases p with
  | waitMutex call => exact hnot hp
  | ret r => exact ⟨fun htook => hsub r (hp.1 htook), fun hno => hnot (hp.2 hno)⟩
  | waitFull | countPacket | readSize | copyPacket | toggle | releaseMutex => cases hout

/-- What other parties do to other bits. -/
theorem RecvInv.other {s t : DrvState β} {m : RecvMbx} {pc : ι → Option GetPc} {n : ℕ}
    {c d : Cache (BitVec 16)} (hi : RecvInv s m pc n c) (h : Spared recvMbxBit s t c d) :
    RecvInv t m pc n d := by
  refine ⟨?_, hi.exclusive, ?_, hi.delivered, ?_, ?_, ?_, hi.numbers, hi.returned⟩
  · rw [h.host]
    exact h.latched _ hi.latched
  · rw [h.host, h.netx]
    exact hi.counts
  · rw [h.host, h.netx]
    exact hi.full
  · rw [h.host, h.netx]
    exact hi.device
  · exact fun i p hp => recvPosition_congr h rfl rfl (hi.position i p hp)

/-- A statement that leaves the bits, the mailbox and the packets received alone. -/
theorem RecvInv.keep {s t : DrvState β} {m m' : RecvMbx} {pc pc' : ι → Option GetPc} {n : ℕ}
    {c : Cache (BitVec 16)} (hi : RecvInv s m pc n c) {i : ι} {p q : GetPc}
    (hpc : pc i = some p) (hself : pc' i = some q) (hothers : ∀ j, j ≠ i → pc' j = pc j)
    (hspared : Spared recvMbxBit s t c c) (hreceived : m'.received = m.received)
    (hwritten : m'.written = m.written) (hmbx : m'.abRecvMailbox = m.abRecvMailbox)
    (hdevice : m'.device = m.device) (hreturned : m'.returned = m.returned)
    (hcall : q.call = p.call) (hstore : ∀ r, q ≠ .toggle r .storeHost)
    (hexclusive : Exclusive pc' GetPc.inside m'.pvRecvMBXMutex)
    (hposition : recvPosition s m c q) : RecvInv t m' pc' n c := by
  have hnrs : m'.receivedNrs = m.receivedNrs := by
    rw [RecvMbx.receivedNrs, hreceived, RecvMbx.receivedNrs]
  have hret : m'.returnedNrs = m.returnedNrs := by
    rw [RecvMbx.returnedNrs, hreturned, RecvMbx.returnedNrs]
  refine ⟨?_, hexclusive, ?_, ?_, ?_, ?_, ?_, ?_, ?_⟩
  · rw [hspared.host]
    exact hi.latched
  · rw [hreceived, hwritten, hspared.netx, hspared.host]
    exact hi.counts
  · rw [hreceived, hwritten]
    exact hi.delivered
  · rw [hspared.netx, hspared.host, hwritten, hmbx]
    exact hi.full
  · rw [hspared.netx, hspared.host, hmbx, hdevice]
    intro hdev
    obtain ⟨hbits, hwell, hno⟩ := hi.device hdev
    refine ⟨hbits, hwell, fun j r hj => ?_⟩
    rcases others_of_update hself hothers hj with ⟨-, hq⟩ | ⟨-, hj⟩
    · exact hstore r (Option.some.inj hq)
    · exact hno j r hj
  · intro j p' hj
    rcases others_of_update hself hothers hj with ⟨-, hq⟩ | ⟨-, hj⟩
    · rw [← Option.some.inj hq]
      exact recvPosition_congr hspared hreceived hmbx hposition
    · exact recvPosition_congr hspared hreceived hmbx (hi.position j p' hj)
  · rw [hnrs, hret]
    exact hi.numbers.kept hpc hself (congrArg GetCall.nr hcall) hothers
  · rw [hreturned]
    exact fun r hr => (hi.returned r hr).congr hreceived

/-- The toggle takes the packet out. -/
theorem RecvInv.take {s t : DrvState β} {m : RecvMbx} {pc pc' : ι → Option GetPc} {n : ℕ}
    {c : Cache (BitVec 16)} (hi : RecvInv s m pc n c) {i : ι} {r : GetReturn}
    (hpc : pc i = some (.toggle r .xorHost)) (hself : pc' i = some (.toggle r .storeHost))
    (hothers : ∀ j, j ≠ i → pc' j = pc j)
    (hhost : t.hostBit recvMbxBit = !s.hostBit recvMbxBit)
    (hnetx : t.usNetxFlags.getLsbD recvMbxBit = s.usNetxFlags.getLsbD recvMbxBit) :
    RecvInv t { m with received := m.received ++ [r] } pc' n c := by
  obtain ⟨⟨hbits, hlatch⟩, hnot, hdelivers⟩ := hi.position i _ hpc
  have hout := hi.exclusive.others hpc rfl
  have hneq : ¬ s.usNetxFlags.getLsbD recvMbxBit = s.hostBit recvMbxBit := by
    rw [hbits]
    simp
  have hnow : t.usNetxFlags.getLsbD recvMbxBit = t.hostBit recvMbxBit := by
    rw [hnetx, hbits, hhost]
  have hcounts := hi.counts
  rw [if_neg hneq] at hcounts
  have hself' : (pc i).map (fun p => p.call.nr) = some r.call.nr := by rw [hpc]; rfl
  refine ⟨?_, hi.exclusive.stay hpc rfl hself hothers, ?_, ?_, ?_, ?_, ?_, ?_, ?_⟩
  · rw [hhost, Bool.not_not]
    exact hlatch
  · rw [if_pos hnow, List.length_append]
    exact hcounts
  · -- the packet in the mailbox is the last one indicated
    intro k r' hr'
    rcases Nat.lt_or_ge k m.received.length with hk | hk
    · rw [List.getElem?_append_left hk] at hr'
      exact hi.delivered k r' hr'
    · rw [List.getElem?_append_right hk] at hr'
      have hzero : k - m.received.length = 0 := by
        have hlt := (List.getElem?_eq_some_iff.mp hr').1
        rw [List.length_singleton] at hlt
        omega
      rw [hzero] at hr'
      cases hr'
      have hlast := (hi.full hbits).1
      rw [List.getLast?_eq_getElem?] at hlast
      have hk : m.written.length - 1 = k := by omega
      rw [hk] at hlast
      exact ⟨_, hlast, hdelivers⟩
  · intro hfull
    rw [hnow] at hfull
    simp at hfull
  · exact fun hdev => absurd (hi.device hdev).1 hneq
  · intro j p hj
    rcases others_of_update hself hothers hj with ⟨-, hq⟩ | ⟨hji, hj⟩
    · rw [← Option.some.inj hq]
      exact ⟨hnow, List.mem_append_right _ (List.mem_singleton_self r), hdelivers.took⟩
    · apply recvPosition_of_outside (hout j p hji hj) _ _ (hi.position j p hj)
      · exact fun d hd => List.mem_append_left _ hd
      · intro hnr
        rw [RecvMbx.receivedNrs, List.map_append]
        exact hi.numbers.not_logged_append hself' (by rw [hj]; rfl) hji hnr
  · have happ := (hi.numbers.append hself' hnot).kept hpc hself rfl hothers
    have hlist : RecvMbx.receivedNrs { m with received := m.received ++ [r] } =
        m.receivedNrs ++ [r.call.nr] := by
      rw [RecvMbx.receivedNrs, List.map_append]
      rfl
    rw [hlist]
    exact happ
  · intro r' hr'
    obtain ⟨htook, hno⟩ := hi.returned r' hr'
    refine ⟨fun h => List.mem_append_left _ (htook h), fun h => ?_⟩
    rw [RecvMbx.receivedNrs, List.map_append]
    exact hi.numbers.done_not_logged_append hself' (List.mem_map_of_mem hr') (hno h)

/-- A call returns. -/
theorem RecvInv.finish {s : DrvState β} {m : RecvMbx} {pc pc' : ι → Option GetPc} {n : ℕ}
    {c : Cache (BitVec 16)} (hi : RecvInv s m pc n c) {i : ι} {r : GetReturn}
    (hpc : pc i = some (.ret r)) (hself : pc' i = none)
    (hothers : ∀ j, j ≠ i → pc' j = pc j) :
    RecvInv s { m with returned := m.returned ++ [r] } pc' n c := by
  have hsub {j : ι} {q : GetPc} (hj : pc' j = some q) : pc j = some q := by
    rcases others_of_update hself hothers hj with ⟨-, hq⟩ | ⟨-, hj⟩
    · cases hq
    · exact hj
  refine ⟨hi.latched, hi.exclusive.outside hself hothers (fun q hq => by cases hq), hi.counts,
    hi.delivered, hi.full, ?_, fun j p hj => hi.position j p (hsub hj), ?_, ?_⟩
  · intro hdev
    obtain ⟨hbits, hwell, hno⟩ := hi.device hdev
    exact ⟨hbits, hwell, fun j r hj => hno j r (hsub hj)⟩
  · have hself' : (pc i).map (fun p => p.call.nr) = some r.call.nr := by rw [hpc]; rfl
    have hdone : Numbered n (fun i => (pc' i).map fun p => p.call.nr) m.receivedNrs
        (m.returnedNrs ++ [r.call.nr]) :=
      hi.numbers.finish hself' (by rw [hself]; rfl) (fun j hj => by rw [hothers j hj])
    have hlist : RecvMbx.returnedNrs { m with returned := m.returned ++ [r] } =
        m.returnedNrs ++ [r.call.nr] := by
      rw [RecvMbx.returnedNrs, List.map_append]
      rfl
    rw [hlist]
    exact hdone
  · intro r' hr'
    rcases List.mem_append.mp hr' with hr' | hr'
    · exact hi.returned r' hr'
    · rw [List.mem_singleton.mp hr']
      exact hi.position i _ hpc

/-- The statements of a toggle of the receive bit. -/
theorem RecvInv.toggleStage {s t : DrvState β} {m m' : RecvMbx} {pc pc' : ι → Option GetPc}
    {n : ℕ} {c : Cache (BitVec 16)} (hi : RecvInv s m pc n c) {i : ι} {ch : MbxChoice}
    {r : GetReturn} {stage : ToggleStage} {next : Option GetPc}
    (hpc : pc i = some (.toggle r stage))
    (h : netanaGetPacket ch (.toggle r stage) s m = some (t, m', next)) (hself : pc' i = next)
    (hothers : ∀ j, j ≠ i → pc' j = pc j) : RecvInv t m' pc' n c := by
  obtain ⟨u, hu, heq⟩ := Option.map_eq_some_iff.mp h
  have hposition := hi.position i _ hpc
  have hstay := hi.exclusive.stay hpc rfl hself hothers
  cases stage with
  | enterLock =>
    have hnext : u.2 = some .xorHost := by
      obtain ⟨v, -, rfl⟩ := Option.map_eq_some_iff.mp hu
      rfl
    have hspared : Spared recvMbxBit s u.1 c c :=
      toggleStep_spared (by decide) hu (Or.inr (by simp)) c
    rw [hnext] at heq
    cases heq
    exact hi.keep hpc hself hothers hspared rfl rfl rfl rfl rfl rfl (by simp) hstay hposition
  | xorHost =>
    cases hu
    cases heq
    have hflip : (xorHostFlags recvMbxBit s).hostBit recvMbxBit = !s.hostBit recvMbxBit :=
      getLsbD_toggleBit_self _ _ (by decide)
    exact hi.take hpc hself hothers hflip rfl
  | storeHost =>
    cases hu
    cases heq
    exact hi.keep hpc hself hothers ⟨rfl, rfl, fun _ hl => hl⟩ rfl rfl rfl rfl rfl rfl (by simp)
      hstay hposition.2
  | leaveLock =>
    cases hu
    cases heq
    exact hi.keep hpc hself hothers ⟨rfl, rfl, fun _ hl => hl⟩ rfl rfl rfl rfl rfl rfl (by simp)
      hstay ⟨fun _ => hposition.1, fun hno => absurd hposition.2 hno⟩

/-- Neither the mutex nor the wait gives a result that stands for a packet. -/
theorem not_took_of_busy {c : GetCall} {lRet : BitVec 32} {pb : ByteArea}
    (h : lRet = netanaDrvCmdActive ∨ lRet = netanaDevGetNoPacket) :
    ¬ GetReturn.took ⟨c, lRet, pb⟩ := by
  rintro (htook | htook)
  all_goals
    dsimp only at htook
    rw [htook] at h
    revert h
    decide

/-- Every statement of a call. -/
theorem RecvInv.step {s t : DrvState β} {m m' : RecvMbx} {pc pc' : ι → Option GetPc} {n : ℕ}
    {c : Cache (BitVec 16)} {tog : ι → Option (ℕ × ToggleStage)} (hi : RecvInv s m pc n c)
    (hh : HandshakeInv s tog c) {i : ι} {ch : MbxChoice} {p : GetPc} {next : Option GetPc}
    (hpc : pc i = some p) (h : netanaGetPacket ch p s m = some (t, m', next))
    (hself : pc' i = next) (hothers : ∀ j, j ≠ i → pc' j = pc j) : RecvInv t m' pc' n c := by
  have hposition := hi.position i p hpc
  cases p with
  | waitMutex call =>
    obtain ⟨fLocked, hlock, heq⟩ := Option.map_eq_some_iff.mp h
    cases fLocked with
    | true =>
      have hfree := hi.exclusive
      rw [osWaitMutex_free hlock] at hfree
      cases heq
      exact hi.keep hpc hself hothers (Spared.refl _ _ _) rfl rfl rfl rfl rfl rfl (by simp)
        (hfree.enter hself hothers) hposition
    | false =>
      cases heq
      exact hi.keep hpc hself hothers (Spared.refl _ _ _) rfl rfl rfl rfl rfl rfl (by simp)
        (hi.exclusive.outside hself hothers (fun q hq => by cases hq; rfl))
        ⟨fun htook => absurd htook (not_took_of_busy (Or.inl rfl)), fun _ => hposition⟩
  | waitFull call stage =>
    obtain ⟨r, hr, heq⟩ := Option.map_eq_some_iff.mp h
    obtain ⟨hsame, hyes⟩ := waitStep_spec hr
    have hspared := hsame.spared recvMbxBit c
    have hstay := hi.exclusive.stay hpc rfl hself hothers
    cases heq
    cases hnext : r.2 with
    | goto stage =>
      rw [hnext] at hself
      exact hi.keep hpc hself hothers hspared rfl rfl rfl rfl rfl rfl (by simp) hstay hposition
    | ret iRet =>
      rw [hnext] at hself
      cases iRet with
      | true =>
        have hcached := (hh.unequal_iff (by decide)).mp (hyes hnext).2
        have hseen := hh.seen hi.latched hcached
        rw [Bool.not_not] at hseen
        exact hi.keep hpc hself hothers hspared rfl rfl rfl rfl rfl rfl (by simp) hstay
          ⟨hseen, hposition⟩
      | false =>
        exact hi.keep hpc hself hothers hspared rfl rfl rfl rfl rfl rfl (by simp) hstay
          ⟨fun htook => absurd htook (not_took_of_busy (Or.inr rfl)), fun _ => hposition⟩
  | countPacket call =>
    cases h
    exact hi.keep hpc hself hothers (Spared.refl _ _ _) rfl rfl rfl rfl rfl rfl (by simp)
      (hi.exclusive.stay hpc rfl hself hothers) hposition
  | readSize call =>
    cases h
    exact hi.keep hpc hself hothers (Spared.refl _ _ _) rfl rfl rfl rfl rfl rfl (by simp)
      (hi.exclusive.stay hpc rfl hself hothers) ⟨hposition.1, hposition.2, rfl⟩
  | copyPacket call ulCopySize lRet =>
    cases h
    obtain ⟨hready, hnot, hsize⟩ := hposition
    have hdelivers := delivers_memcpy (hi.full hready.1).2 hsize
    exact hi.keep hpc hself hothers (Spared.refl _ _ _) rfl rfl rfl rfl rfl rfl (by simp)
      (hi.exclusive.stay hpc rfl hself hothers) ⟨hready, hnot, hdelivers⟩
  | toggle r stage => exact hi.toggleStage hpc h hself hothers
  | releaseMutex r =>
    cases h
    exact hi.keep hpc hself hothers (Spared.refl _ _ _) rfl rfl rfl rfl rfl rfl (by simp)
      (hi.exclusive.leave hpc rfl hself hothers (fun q hq => by cases hq; rfl)) hposition
  | ret r =>
    cases h
    exact hi.finish hpc hself hothers

/-- A call is started. -/
theorem RecvInv.start {s : DrvState β} {m : RecvMbx} {pc pc' : ι → Option GetPc} {n : ℕ}
    {c : Cache (BitVec 16)} (hi : RecvInv s m pc n c) {i : ι} {call : GetCall}
    (hnr : call.nr = n) (hself : pc' i = some (.waitMutex call))
    (hothers : ∀ j, j ≠ i → pc' j = pc j) : RecvInv s m pc' (n + 1) c := by
  have hexclusive : Exclusive pc' GetPc.inside m.pvRecvMBXMutex := by
    apply hi.exclusive.outside hself hothers
    intro q hq
    cases hq
    rfl
  refine ⟨hi.latched, hexclusive, hi.counts, hi.delivered, hi.full, ?_, ?_, ?_, hi.returned⟩
  · intro hdev
    obtain ⟨hbits, hwell, hno⟩ := hi.device hdev
    refine ⟨hbits, hwell, fun j r hj => ?_⟩
    rcases others_of_update hself hothers hj with ⟨-, hq⟩ | ⟨-, hj⟩
    · cases hq
    · exact hno j r hj
  · intro j p hj
    rcases others_of_update hself hothers hj with ⟨-, hq⟩ | ⟨-, hj⟩
    · cases hq
      have hnot := hi.numbers.next_not_logged
      rw [← hnr] at hnot
      exact hnot
    · exact hi.position j p hj
  · apply hi.numbers.start (i := i)
    · rw [hself, ← hnr]
      rfl
    · intro j hj
      rw [hothers j hj]

theorem RecvInv.skip {s : DrvState β} {m : RecvMbx} {pc : ι → Option GetPc} {n : ℕ}
    {c : Cache (BitVec 16)} (hi : RecvInv s m pc n c) : RecvInv s m pc (n + 1) c :=
  ⟨hi.latched, hi.exclusive, hi.counts, hi.delivered, hi.full, hi.device, hi.position,
    hi.numbers.skip, hi.returned⟩

theorem isCommandBit_recv : isCommandBit recvMbxBit := by
  refine ⟨?_, ?_, ?_, ?_⟩ <;> decide

/-- Threads that have not yet seen a packet, or no longer need it, depend on the packets
received alone. -/
theorem recvPosition_of_empty {s t : DrvState β} {m m' : RecvMbx} {c d : Cache (BitVec 16)}
    (hempty : s.usNetxFlags.getLsbD recvMbxBit = s.hostBit recvMbxBit)
    (hreceived : m'.received = m.received) {p : GetPc}
    (hstore : ∀ r, p ≠ .toggle r .storeHost) (hp : recvPosition s m c p) :
    recvPosition t m' d p := by
  have hnotReady : ¬ recvReady s c := by
    intro hready
    have hfull := hready.1
    rw [hempty] at hfull
    simp at hfull
  have hnrs : m'.receivedNrs = m.receivedNrs := by
    rw [RecvMbx.receivedNrs, hreceived, RecvMbx.receivedNrs]
  cases p with
  | waitMutex call | waitFull call stage =>
    rw [recvPosition, hnrs]
    exact hp
  | countPacket call | readSize call | copyPacket call ulCopySize lRet =>
    exact absurd hp.1 hnotReady
  | toggle r stage =>
    cases stage with
    | enterLock | xorHost => exact absurd hp.1 hnotReady
    | storeHost => exact absurd rfl (hstore r)
    | leaveLock =>
      rw [recvPosition, hreceived]
      exact hp
  | releaseMutex r | ret r => exact receivedExactly.congr hreceived hp

/-- The device writes the mailbox where it sees the bits equal. -/
theorem RecvInv.write {s : DrvState β} {m : RecvMbx} {pc : ι → Option GetPc} {n : ℕ}
    {c : Cache (BitVec 16)} {tog : ι → Option (ℕ × ToggleStage)} (hi : RecvInv s m pc n c)
    (hh : HandshakeInv s tog c) (heq : ¬ s.unequal recvMbxBit)
    (htog : ∀ i, tog i = some (recvMbxBit, .storeHost) ↔
      ∃ r, pc i = some (.toggle r .storeHost)) (packet : NetanaPacket) :
    RecvInv s { m with abRecvMailbox := packet.bytes, device := true } pc n c := by
  have hshown : s.usHostFlags.getLsbD recvMbxBit = s.usNetxFlags.getLsbD recvMbxBit := by
    rw [DrvState.unequal, ne_eq, not_not] at heq
    exact heq
  have hempty : s.usNetxFlags.getLsbD recvMbxBit = s.hostBit recvMbxBit ∧
      ∀ i r, pc i ≠ some (.toggle r .storeHost) := by
    rcases hh.shown_cases isCommandBit_recv with ⟨⟨i, hi'⟩, hold⟩ | ⟨hno, hnow⟩
    · -- the toggle in progress has taken the packet out, and is not yet shown
      obtain ⟨r, hpc⟩ := (htog i).mp hi'
      have hbits := (hi.position i _ hpc).1
      rw [hold, hbits] at hshown
      simp at hshown
    · rw [← hshown]
      exact ⟨hnow, fun i r hpc => hno i ((htog i).mpr ⟨r, hpc⟩)⟩
  refine ⟨hi.latched, hi.exclusive, hi.counts, hi.delivered, ?_, ?_, ?_, hi.numbers,
    hi.returned⟩
  · intro hfull
    rw [hempty.1] at hfull
    simp at hfull
  · exact fun _ => ⟨hempty.1, packet.length_lt, hempty.2⟩
  · intro i p hp
    have hposition := hi.position i p hp
    have hstore (r : GetReturn) : p ≠ .toggle r .storeHost := by
      intro heq
      rw [heq] at hp
      exact hempty.2 i r hp
    have hkept : RecvMbx.received { m with abRecvMailbox := packet.bytes, device := true } =
        m.received := rfl
    exact recvPosition_of_empty hempty.1 hkept hstore hposition

/-- The device indicates the packet it has written. -/
theorem RecvInv.indicate {s : DrvState β} {m : RecvMbx} {pc : ι → Option GetPc} {n : ℕ}
    {c : Cache (BitVec 16)} (hi : RecvInv s m pc n c) (hdevice : m.device = true) :
    RecvInv (s.toggleNetx recvMbxBit)
      { m with device := false, written := m.written ++ [packetAt m.abRecvMailbox] } pc n
      (c.write (toggleBit s.usNetxFlags recvMbxBit)) := by
  obtain ⟨hempty, hwell, hno⟩ := hi.device hdevice
  obtain ⟨hnow, hlatched⟩ := toggleNetx_latched (by decide) hi.latched
    (by rw [hempty, Bool.not_not])
  have hcounts := hi.counts
  rw [if_pos hempty] at hcounts
  have hneq : ¬ (s.toggleNetx recvMbxBit).usNetxFlags.getLsbD recvMbxBit =
      (s.toggleNetx recvMbxBit).hostBit recvMbxBit := by
    rw [hnow]
    show ¬ (!s.hostBit recvMbxBit) = s.hostBit recvMbxBit
    simp
  refine ⟨hlatched, hi.exclusive, ?_, ?_, fun _ => ⟨List.getLast?_concat, hwell⟩,
    (fun hdev => by cases hdev), ?_, hi.numbers, hi.returned⟩
  · rw [if_neg hneq, List.length_append, hcounts]
    rfl
  · intro k r hr
    obtain ⟨packet, hpacket, hdelivers⟩ := hi.delivered k r hr
    have hlt := (List.getElem?_eq_some_iff.mp hpacket).1
    refine ⟨packet, ?_, hdelivers⟩
    rw [List.getElem?_append_left hlt]
    exact hpacket
  · intro i p hp
    have hposition := hi.position i p hp
    refine recvPosition_of_empty (m := m) hempty rfl (fun r heq => ?_) hposition
    rw [heq] at hp
    exact hno i r hp

end NetanaDriver
