import NetanaDriver.CallNumbers
import NetanaDriver.ExclusiveSection
import NetanaDriver.Mailbox

/-! The send mailbox over whole runs: a packet is put in only when the one before it has been
taken out, and stays as it is until the device acknowledges it. -/
namespace NetanaDriver
open ToggleHandshake LaggingCache CallNumbers ExclusiveSection

variable {β ι : Type*}

def PutPc.call : PutPc → PutCall
  | .waitMutex c | .checkSize c | .waitEmpty c _ | .countPacket c | .copyPacket c | .toggle c _
  | .releaseMutex c _ | .ret c _ => c

/-- Between `OS_WaitMutex` and `OS_ReleaseMutex`. -/
def PutPc.inside : PutPc → Bool
  | .waitMutex _ | .ret _ _ => false
  | _ => true

def PutPc.toggling : PutPc → Option (ℕ × ToggleStage)
  | .toggle _ stage => some (sendMbxBit, stage)
  | _ => none

def PutCall.packet (c : PutCall) : List (BitVec 8) := packetAt c.ptSendPkt.bytes

def SendMbx.sentNrs (m : SendMbx) : List ℕ := m.sent.map PutCall.nr

def SendMbx.returnedNrs (m : SendMbx) : List ℕ := m.returned.map fun r => r.1.nr

/-- Every packet is acknowledged, and all that the driver has still to see is the
acknowledge. -/
def sendReady (s : DrvState β) (c : Cache (BitVec 16)) : Prop :=
  s.usNetxFlags.getLsbD sendMbxBit = s.hostBit sendMbxBit ∧
    c.LatchedOn (·.getLsbD sendMbxBit) (!s.hostBit sendMbxBit)

/-- A call has sent its packet exactly if it returns without an error. -/
def sentExactly (m : SendMbx) (call : PutCall) (lRet : BitVec 32) : Prop :=
  (lRet = netanaNoError → call ∈ m.sent) ∧ (lRet ≠ netanaNoError → call.nr ∉ m.sentNrs)

/-- What the position of a thread says about the mailbox. -/
def sendPosition (s : DrvState β) (m : SendMbx) (c : Cache (BitVec 16)) : PutPc → Prop
  | .waitMutex call | .checkSize call | .waitEmpty call _ => call.nr ∉ m.sentNrs
  | .countPacket call | .copyPacket call => sendReady s c ∧ call.nr ∉ m.sentNrs
  | .toggle call .enterLock | .toggle call .xorHost =>
      sendReady s c ∧ call.nr ∉ m.sentNrs ∧ packetAt m.abSendMailbox = call.packet
  | .toggle call .storeHost => s.usNetxFlags.getLsbD sendMbxBit = (!s.hostBit sendMbxBit) ∧
      m.sent.getLast? = some call
  | .toggle call .leaveLock => call ∈ m.sent
  | .releaseMutex call lRet | .ret call lRet => sentExactly m call lRet

structure SendInv (s : DrvState β) (m : SendMbx) (pc : ι → Option PutPc) (n : ℕ)
    (c : Cache (BitVec 16)) : Prop where
  latched : c.LatchedOn (·.getLsbD sendMbxBit) (s.hostBit sendMbxBit)
  exclusive : Exclusive pc PutPc.inside m.pvSendMBXMutex
  counts : m.sent.length = m.consumed.length +
    if s.usNetxFlags.getLsbD sendMbxBit = s.hostBit sendMbxBit then 0 else 1
  consumed : m.consumed <+: m.sent.map PutCall.packet
  full : s.usNetxFlags.getLsbD sendMbxBit = (!s.hostBit sendMbxBit) →
    ∃ call, m.sent.getLast? = some call ∧ packetAt m.abSendMailbox = call.packet
  device : ∀ p, m.device = some p →
    s.usNetxFlags.getLsbD sendMbxBit = (!s.hostBit sendMbxBit) ∧
      p = packetAt m.abSendMailbox ∧ ∀ i call, pc i ≠ some (.toggle call .storeHost)
  position : ∀ i p, pc i = some p → sendPosition s m c p
  numbers : Numbered n (fun i => (pc i).map fun p => p.call.nr) m.sentNrs m.returnedNrs
  returned : ∀ r ∈ m.returned, sentExactly m r.1 r.2

theorem sendReady.mono {s t : DrvState β} {c d : Cache (BitVec 16)}
    (h : Spared sendMbxBit s t c d) (hr : sendReady s c) : sendReady t d := by
  rw [sendReady, h.host, h.netx]
  exact ⟨hr.1, h.latched _ hr.2⟩

theorem sentExactly.congr {m m' : SendMbx} (h : m'.sent = m.sent) {call : PutCall}
    {lRet : BitVec 32} (hs : sentExactly m call lRet) : sentExactly m' call lRet := by
  rw [sentExactly, SendMbx.sentNrs, h]
  exact hs

/-- The bits, the mailbox and the packets sent are what a position depends on. -/
theorem sendPosition_congr {s t : DrvState β} {m m' : SendMbx} {c d : Cache (BitVec 16)}
    (h : Spared sendMbxBit s t c d) (hsent : m'.sent = m.sent)
    (hmbx : m'.abSendMailbox = m.abSendMailbox) {p : PutPc} (hp : sendPosition s m c p) :
    sendPosition t m' d p := by
  have hnrs : m'.sentNrs = m.sentNrs := by rw [SendMbx.sentNrs, hsent, SendMbx.sentNrs]
  cases p with
  | waitMutex call | checkSize call | waitEmpty call stage =>
    rw [sendPosition, hnrs]
    exact hp
  | countPacket call | copyPacket call =>
    rw [sendPosition, hnrs]
    exact ⟨sendReady.mono h hp.1, hp.2⟩
  | toggle call stage =>
    cases stage with
    | enterLock | xorHost =>
      rw [sendPosition, hnrs, hmbx]
      exact ⟨sendReady.mono h hp.1, hp.2⟩
    | storeHost =>
      rw [sendPosition, h.netx, h.host, hsent]
      exact hp
    | leaveLock =>
      rw [sendPosition, hsent]
      exact hp
  | releaseMutex call lRet | ret call lRet => exact sentExactly.congr hsent hp

/-- Threads without the mutex depend on the packets sent alone. -/
theorem sendPosition_of_outside {s t : DrvState β} {m m' : SendMbx} {c d : Cache (BitVec 16)}
    {p : PutPc} (hout : p.inside = false) (hsub : ∀ call ∈ m.sent, call ∈ m'.sent)
    (hnot : p.call.nr ∉ m.sentNrs → p.call.nr ∉ m'.sentNrs) (hp : sendPosition s m c p) :
    sendPosition t m' d p := by
  cases p with
  | waitMutex call => exact hnot hp
  | ret call lRet => exact ⟨fun hok => hsub call (hp.1 hok), fun hno => hnot (hp.2 hno)⟩
  | checkSize | waitEmpty | countPacket | copyPacket | toggle | releaseMutex => cases hout

/-- What other parties do to other bits. -/
theorem SendInv.other {s t : DrvState β} {m : SendMbx} {pc : ι → Option PutPc} {n : ℕ}
    {c d : Cache (BitVec 16)} (hi : SendInv s m pc n c) (h : Spared sendMbxBit s t c d) :
    SendInv t m pc n d := by
  refine ⟨?_, hi.exclusive, ?_, hi.consumed, ?_, ?_, ?_, hi.numbers, hi.returned⟩
  · rw [h.host]
    exact h.latched _ hi.latched
  · rw [h.host, h.netx]
    exact hi.counts
  · rw [h.host, h.netx]
    exact hi.full
  · rw [h.host, h.netx]
    exact hi.device
  · exact fun i p hp => sendPosition_congr h rfl rfl (hi.position i p hp)

/-- A statement that leaves the bits, the mailbox and the packets sent alone. -/
theorem SendInv.keep {s t : DrvState β} {m m' : SendMbx} {pc pc' : ι → Option PutPc} {n : ℕ}
    {c : Cache (BitVec 16)} (hi : SendInv s m pc n c) {i : ι} {p q : PutPc}
    (hpc : pc i = some p) (hself : pc' i = some q) (hothers : ∀ j, j ≠ i → pc' j = pc j)
    (hspared : Spared sendMbxBit s t c c) (hsent : m'.sent = m.sent)
    (hconsumed : m'.consumed = m.consumed) (hmbx : m'.abSendMailbox = m.abSendMailbox)
    (hdevice : m'.device = m.device) (hreturned : m'.returned = m.returned)
    (hcall : q.call = p.call) (hstore : ∀ call, q ≠ .toggle call .storeHost)
    (hexclusive : Exclusive pc' PutPc.inside m'.pvSendMBXMutex)
    (hposition : sendPosition s m c q) : SendInv t m' pc' n c := by
  have hnrs : m'.sentNrs = m.sentNrs := by rw [SendMbx.sentNrs, hsent, SendMbx.sentNrs]
  have hret : m'.returnedNrs = m.returnedNrs := by
    rw [SendMbx.returnedNrs, hreturned, SendMbx.returnedNrs]
  refine ⟨?_, hexclusive, ?_, ?_, ?_, ?_, ?_, ?_, ?_⟩
  · rw [hspared.host]
    exact hi.latched
  · rw [hsent, hconsumed, hspared.netx, hspared.host]
    exact hi.counts
  · rw [hsent, hconsumed]
    exact hi.consumed
  · rw [hspared.netx, hspared.host, hsent, hmbx]
    exact hi.full
  · rw [hspared.netx, hspared.host, hmbx, hdevice]
    intro pkt hpkt
    obtain ⟨hbits, heq, hno⟩ := hi.device pkt hpkt
    refine ⟨hbits, heq, fun j call hj => ?_⟩
    rcases others_of_update hself hothers hj with ⟨-, hq⟩ | ⟨-, hj⟩
    · exact hstore call (Option.some.inj hq)
    · exact hno j call hj
  · intro j r hj
    rcases others_of_update hself hothers hj with ⟨-, hq⟩ | ⟨-, hj⟩
    · rw [← Option.some.inj hq]
      exact sendPosition_congr hspared hsent hmbx hposition
    · exact sendPosition_congr hspared hsent hmbx (hi.position j r hj)
  · rw [hnrs, hret]
    exact hi.numbers.kept hpc hself (congrArg PutCall.nr hcall) hothers
  · rw [hreturned]
    exact fun r hr => (hi.returned r hr).congr hsent

/-- The packet is copied while the mailbox is empty. -/
theorem SendInv.copy {s : DrvState β} {m : SendMbx} {pc pc' : ι → Option PutPc} {n : ℕ}
    {c : Cache (BitVec 16)} (hi : SendInv s m pc n c) {i : ι} {call : PutCall} {pb : ByteArea}
    (hpc : pc i = some (.copyPacket call)) (hself : pc' i = some (.toggle call .enterLock))
    (hothers : ∀ j, j ≠ i → pc' j = pc j) (hpb : packetAt pb = call.packet) :
    SendInv s { m with abSendMailbox := pb } pc' n c := by
  obtain ⟨hready, hnot⟩ := hi.position i _ hpc
  have hout := hi.exclusive.others hpc rfl
  have hne : ¬ s.usNetxFlags.getLsbD sendMbxBit = !s.hostBit sendMbxBit := by
    rw [hready.1]
    simp
  refine ⟨hi.latched, hi.exclusive.stay hpc rfl hself hothers, hi.counts, hi.consumed,
    fun hfull => absurd hfull hne, ?_, ?_, ?_, hi.returned⟩
  · exact fun pkt hpkt => absurd (hi.device pkt hpkt).1 hne
  · intro j r hj
    rcases others_of_update hself hothers hj with ⟨-, hq⟩ | ⟨hji, hj⟩
    · rw [← Option.some.inj hq]
      exact ⟨hready, hnot, hpb⟩
    · exact sendPosition_of_outside (m := m) (hout j r hji hj) (fun _ h => h) id
        (hi.position j r hj)
  · exact hi.numbers.kept hpc hself rfl hothers

/-- The toggle puts the packet in. -/
theorem SendInv.send {s t : DrvState β} {m : SendMbx} {pc pc' : ι → Option PutPc} {n : ℕ}
    {c : Cache (BitVec 16)} (hi : SendInv s m pc n c) {i : ι} {call : PutCall}
    (hpc : pc i = some (.toggle call .xorHost)) (hself : pc' i = some (.toggle call .storeHost))
    (hothers : ∀ j, j ≠ i → pc' j = pc j)
    (hhost : t.hostBit sendMbxBit = !s.hostBit sendMbxBit)
    (hnetx : t.usNetxFlags.getLsbD sendMbxBit = s.usNetxFlags.getLsbD sendMbxBit) :
    SendInv t { m with sent := m.sent ++ [call] } pc' n c := by
  obtain ⟨⟨hbits, hlatch⟩, hnot, hmbx⟩ := hi.position i _ hpc
  have hout := hi.exclusive.others hpc rfl
  have hnow : t.usNetxFlags.getLsbD sendMbxBit = !t.hostBit sendMbxBit := by
    rw [hnetx, hbits, hhost, Bool.not_not]
  have hself' : (pc i).map (fun p => p.call.nr) = some call.nr := by rw [hpc]; rfl
  refine ⟨?_, hi.exclusive.stay hpc rfl hself hothers, ?_, ?_,
    fun _ => ⟨call, List.getLast?_concat, hmbx⟩, ?_, ?_, ?_, ?_⟩
  · rw [hhost]
    exact hlatch
  · have hcounts := hi.counts
    rw [if_pos hbits] at hcounts
    rw [if_neg (by rw [hnow]; simp), List.length_append, hcounts]
    rfl
  · rw [List.map_append]
    exact hi.consumed.trans (List.prefix_append _ _)
  · intro pkt hpkt
    -- the mailbox was empty, so the device had read nothing
    have hold := (hi.device pkt hpkt).1
    rw [hbits] at hold
    simp at hold
  · intro j r hj
    rcases others_of_update hself hothers hj with ⟨-, hq⟩ | ⟨hji, hj⟩
    · rw [← Option.some.inj hq]
      exact ⟨hnow, List.getLast?_concat⟩
    · apply sendPosition_of_outside (hout j r hji hj) _ _ (hi.position j r hj)
      · exact fun d hd => List.mem_append_left _ hd
      · intro hnr
        rw [SendMbx.sentNrs, List.map_append]
        exact hi.numbers.not_logged_append hself' (by rw [hj]; rfl) hji hnr
  · have happ := (hi.numbers.append hself' hnot).kept hpc hself rfl hothers
    have hlist : SendMbx.sentNrs { m with sent := m.sent ++ [call] } = m.sentNrs ++ [call.nr] := by
      rw [SendMbx.sentNrs, List.map_append]
      rfl
    rw [hlist]
    exact happ
  · intro r hr
    obtain ⟨hok, hno⟩ := hi.returned r hr
    refine ⟨fun h => List.mem_append_left _ (hok h), fun h => ?_⟩
    rw [SendMbx.sentNrs, List.map_append]
    exact hi.numbers.done_not_logged_append hself' (List.mem_map_of_mem hr) (hno h)

/-- A call returns. -/
theorem SendInv.finish {s : DrvState β} {m : SendMbx} {pc pc' : ι → Option PutPc} {n : ℕ}
    {c : Cache (BitVec 16)} (hi : SendInv s m pc n c) {i : ι} {call : PutCall} {lRet : BitVec 32}
    (hpc : pc i = some (.ret call lRet)) (hself : pc' i = none)
    (hothers : ∀ j, j ≠ i → pc' j = pc j) :
    SendInv s { m with returned := m.returned ++ [(call, lRet)] } pc' n c := by
  have hsub {j : ι} {q : PutPc} (hj : pc' j = some q) : pc j = some q := by
    rcases others_of_update hself hothers hj with ⟨-, hq⟩ | ⟨-, hj⟩
    · cases hq
    · exact hj
  refine ⟨hi.latched, hi.exclusive.outside hself hothers (fun q hq => by cases hq), hi.counts,
    hi.consumed, hi.full, ?_,
    fun j p hj => hi.position j p (hsub hj), ?_, ?_⟩
  · intro pkt hpkt
    obtain ⟨hbits, heq, hno⟩ := hi.device pkt hpkt
    exact ⟨hbits, heq, fun j call hj => hno j call (hsub hj)⟩
  · have hself' : (pc i).map (fun p => p.call.nr) = some call.nr := by rw [hpc]; rfl
    have hdone : Numbered n (fun i => (pc' i).map fun p => p.call.nr) m.sentNrs
        (m.returnedNrs ++ [call.nr]) :=
      hi.numbers.finish hself' (by rw [hself]; rfl) (fun j hj => by rw [hothers j hj])
    have hlist : SendMbx.returnedNrs { m with returned := m.returned ++ [(call, lRet)] } =
        m.returnedNrs ++ [call.nr] := by
      rw [SendMbx.returnedNrs, List.map_append]
      rfl
    rw [hlist]
    exact hdone
  · intro r hr
    rcases List.mem_append.mp hr with hr | hr
    · exact hi.returned r hr
    · rw [List.mem_singleton.mp hr]
      exact hi.position i _ hpc

/-- A copy with the length of the packet brings the whole packet over. -/
theorem packetAt_memcpy (pbDst : ByteArea) (p : NetanaPacket) :
    packetAt (osMemcpy pbDst p.bytes (ulLenAt p.bytes + netanaPacketHeaderSize)) =
      packetAt p.bytes := by
  have hlen : (ulLenAt p.bytes + netanaPacketHeaderSize).toNat =
      (ulLenAt p.bytes).toNat + netanaPacketHeaderSize.toNat := by
    rw [BitVec.toNat_add, Nat.mod_eq_of_lt p.length_lt]
  have hheader : netanaPacketHeaderSize.toNat = 40 := rfl
  have hsame (k : ℕ) (hk : k < (ulLenAt p.bytes).toNat + netanaPacketHeaderSize.toNat) :
      osMemcpy pbDst p.bytes (ulLenAt p.bytes + netanaPacketHeaderSize) k = p.bytes k := by
    rw [osMemcpy, hlen, if_pos hk]
  have hul : ulLenAt (osMemcpy pbDst p.bytes (ulLenAt p.bytes + netanaPacketHeaderSize)) =
      ulLenAt p.bytes := by
    unfold ulLenAt at hsame ⊢
    rw [hsame 19 (by omega), hsame 18 (by omega), hsame 17 (by omega), hsame 16 (by omega)]
  rw [packetAt, packetAt, hul]
  apply List.map_congr_left
  intro k hk
  exact hsame k (List.mem_range.mp hk)

/-- The statements of a toggle of the send bit. -/
theorem SendInv.toggleStage {s t : DrvState β} {m m' : SendMbx} {pc pc' : ι → Option PutPc}
    {n : ℕ} {c : Cache (BitVec 16)} (hi : SendInv s m pc n c) {i : ι} {ch : MbxChoice}
    {call : PutCall} {stage : ToggleStage} {next : Option PutPc}
    (hpc : pc i = some (.toggle call stage))
    (h : netanaPutPacket ch (.toggle call stage) s m = some (t, m', next)) (hself : pc' i = next)
    (hothers : ∀ j, j ≠ i → pc' j = pc j) : SendInv t m' pc' n c := by
  obtain ⟨u, hu, heq⟩ := Option.map_eq_some_iff.mp h
  have hposition := hi.position i _ hpc
  have hout := hi.exclusive.others hpc rfl
  have hstay := hi.exclusive.stay hpc rfl hself hothers
  cases stage with
  | enterLock =>
    have hnext : u.2 = some .xorHost := by
      obtain ⟨v, -, rfl⟩ := Option.map_eq_some_iff.mp hu
      rfl
    have hspared : Spared sendMbxBit s u.1 c c :=
      toggleStep_spared (by decide) hu (Or.inr (by simp)) c
    rw [hnext] at heq
    cases heq
    exact hi.keep hpc hself hothers hspared rfl rfl rfl rfl rfl rfl (by simp) hstay hposition
  | xorHost =>
    cases hu
    cases heq
    have hflip : (xorHostFlags sendMbxBit s).hostBit sendMbxBit = !s.hostBit sendMbxBit :=
      getLsbD_toggleBit_self _ _ (by decide)
    exact hi.send hpc hself hothers hflip rfl
  | storeHost =>
    cases hu
    cases heq
    exact hi.keep hpc hself hothers ⟨rfl, rfl, fun _ hl => hl⟩ rfl rfl rfl rfl rfl rfl (by simp)
      hstay
      (List.mem_of_getLast? hposition.2)
  | leaveLock =>
    cases hu
    cases heq
    exact hi.keep hpc hself hothers ⟨rfl, rfl, fun _ hl => hl⟩ rfl rfl rfl rfl rfl rfl (by simp)
      hstay
      ⟨fun _ => hposition, fun hno => absurd rfl hno⟩

/-- Every statement of a call. -/
theorem SendInv.step {s t : DrvState β} {m m' : SendMbx} {pc pc' : ι → Option PutPc} {n : ℕ}
    {c : Cache (BitVec 16)} {tog : ι → Option (ℕ × ToggleStage)} (hi : SendInv s m pc n c)
    (hh : HandshakeInv s tog c) {i : ι} {ch : MbxChoice} {p : PutPc} {next : Option PutPc}
    (hpc : pc i = some p) (h : netanaPutPacket ch p s m = some (t, m', next))
    (hself : pc' i = next) (hothers : ∀ j, j ≠ i → pc' j = pc j) : SendInv t m' pc' n c := by
  have hposition := hi.position i p hpc
  cases p with
  | waitMutex call =>
    obtain ⟨fLocked, hlock, heq⟩ := Option.map_eq_some_iff.mp h
    cases fLocked with
    | true =>
      have hfree := hi.exclusive
      rw [osWaitMutex_free hlock] at hfree
      cases heq
      exact hi.keep hpc hself hothers (Spared.refl _ _ _) rfl rfl rfl rfl rfl rfl (by simp)
        (hfree.enter hself hothers) hposition
    | false =>
      cases heq
      exact hi.keep hpc hself hothers (Spared.refl _ _ _) rfl rfl rfl rfl rfl rfl (by simp)
        (hi.exclusive.outside hself hothers (fun q hq => by cases hq; rfl))
        ⟨fun hok => absurd hok (by decide), fun _ => hposition⟩
  | checkSize call =>
    cases h
    have hstay := hi.exclusive.stay hpc rfl hself hothers
    by_cases hsize :
        ulLenAt call.ptSendPkt.bytes + netanaPacketHeaderSize > m.ulSendMailboxLength
    · rw [if_pos hsize] at hself
      exact hi.keep hpc hself hothers (Spared.refl _ _ _) rfl rfl rfl rfl rfl rfl (by simp)
        hstay
        ⟨fun hok => absurd hok (by decide), fun _ => hposition⟩
    · rw [if_neg hsize] at hself
      exact hi.keep hpc hself hothers (Spared.refl _ _ _) rfl rfl rfl rfl rfl rfl (by simp)
        hstay hposition
  | waitEmpty call stage =>
    obtain ⟨r, hr, heq⟩ := Option.map_eq_some_iff.mp h
    obtain ⟨hsame, hyes⟩ := waitStep_spec hr
    have hspared := hsame.spared sendMbxBit c
    have hstay := hi.exclusive.stay hpc rfl hself hothers
    cases heq
    cases hnext : r.2 with
    | goto stage =>
      rw [hnext] at hself
      exact hi.keep hpc hself hothers hspared rfl rfl rfl rfl rfl rfl (by simp) hstay hposition
    | ret iRet =>
      rw [hnext] at hself
      cases iRet with
      | true =>
        have hcached := (hh.equal_iff (by decide)).mp (hyes hnext).2
        have hempty := hh.seen hi.latched hcached
        exact hi.keep hpc hself hothers hspared rfl rfl rfl rfl rfl rfl (by simp) hstay
          ⟨hempty, hposition⟩
      | false =>
        exact hi.keep hpc hself hothers hspared rfl rfl rfl rfl rfl rfl (by simp) hstay
          ⟨fun hok => absurd hok (by decide), fun _ => hposition⟩
  | countPacket call =>
    cases h
    exact hi.keep hpc hself hothers (Spared.refl _ _ _) rfl rfl rfl rfl rfl rfl (by simp)
      (hi.exclusive.stay hpc rfl hself hothers) hposition
  | copyPacket call =>
    cases h
    exact hi.copy hpc hself hothers (packetAt_memcpy _ _)
  | toggle call stage => exact hi.toggleStage hpc h hself hothers
  | releaseMutex call lRet =>
    cases h
    exact hi.keep hpc hself hothers (Spared.refl _ _ _) rfl rfl rfl rfl rfl rfl (by simp)
      (hi.exclusive.leave hpc rfl hself hothers (fun q hq => by cases hq; rfl)) hposition
  | ret call lRet =>
    cases h
    exact hi.finish hpc hself hothers

/-- A call is started, of this kind or another. -/
theorem SendInv.start {s : DrvState β} {m : SendMbx} {pc pc' : ι → Option PutPc} {n : ℕ}
    {c : Cache (BitVec 16)} (hi : SendInv s m pc n c) {i : ι} {call : PutCall}
    (hnr : call.nr = n) (hself : pc' i = some (.waitMutex call))
    (hothers : ∀ j, j ≠ i → pc' j = pc j) : SendInv s m pc' (n + 1) c := by
  have hexclusive : Exclusive pc' PutPc.inside m.pvSendMBXMutex := by
    apply hi.exclusive.outside hself hothers
    intro q hq
    cases hq
    rfl
  refine ⟨hi.latched, hexclusive, hi.counts, hi.consumed, hi.full, ?_, ?_, ?_, hi.returned⟩
  · intro pkt hpkt
    obtain ⟨hbits, heq, hno⟩ := hi.device pkt hpkt
    refine ⟨hbits, heq, fun j call hj => ?_⟩
    rcases others_of_update hself hothers hj with ⟨-, hq⟩ | ⟨-, hj⟩
    · cases hq
    · exact hno j call hj
  · intro j p hj
    rcases others_of_update hself hothers hj with ⟨-, hq⟩ | ⟨-, hj⟩
    · cases hq
      have hnot := hi.numbers.next_not_logged
      rw [← hnr] at hnot
      exact hnot
    · exact hi.position j p hj
  · apply hi.numbers.start (i := i)
    · rw [hself, ← hnr]
      rfl
    · intro j hj
      rw [hothers j hj]

theorem SendInv.skip {s : DrvState β} {m : SendMbx} {pc : ι → Option PutPc} {n : ℕ}
    {c : Cache (BitVec 16)} (hi : SendInv s m pc n c) : SendInv s m pc (n + 1) c :=
  ⟨hi.latched, hi.exclusive, hi.counts, hi.consumed, hi.full, hi.device, hi.position,
    hi.numbers.skip, hi.returned⟩

theorem isCommandBit_send : isCommandBit sendMbxBit := by
  refine ⟨?_, ?_, ?_, ?_⟩ <;> decide

/-- The device reads the mailbox where it sees the bits differ. -/
theorem SendInv.read {s : DrvState β} {m : SendMbx} {pc : ι → Option PutPc} {n : ℕ}
    {c : Cache (BitVec 16)} {tog : ι → Option (ℕ × ToggleStage)} (hi : SendInv s m pc n c)
    (hh : HandshakeInv s tog c) (hne : s.unequal sendMbxBit)
    (htog : ∀ i, tog i = some (sendMbxBit, .storeHost) ↔
      ∃ call, pc i = some (.toggle call .storeHost)) :
    SendInv s { m with device := some (packetAt m.abSendMailbox) } pc n c := by
  refine ⟨hi.latched, hi.exclusive, hi.counts, hi.consumed, hi.full, ?_, ?_, hi.numbers,
    hi.returned⟩
  · intro pkt hpkt
    rcases hh.shown_cases isCommandBit_send with ⟨⟨i, hi'⟩, hold⟩ | ⟨hno, hshown⟩
    · obtain ⟨call, hpc⟩ := (htog i).mp hi'
      exact absurd (hold.trans (hi.position i _ hpc).1.symm) hne
    · rw [DrvState.unequal, hshown] at hne
      exact ⟨Bool.eq_not.mpr (Ne.symm hne), (Option.some.inj hpkt).symm,
        fun i call hpc => hno i ((htog i).mpr ⟨call, hpc⟩)⟩
  · exact fun i p hp => sendPosition_congr (Spared.refl _ _ _) rfl rfl (hi.position i p hp)

/-- What is not a prefix any more is the whole list. -/
theorem prefix_concat_last {α : Type*} {xs ys : List α} {a : α} (h : xs <+: ys)
    (hlen : ys.length = xs.length + 1) (hlast : ys.getLast? = some a) : xs ++ [a] = ys := by
  obtain ⟨zs, rfl⟩ := h
  have hone : zs.length = 1 := by
    rw [List.length_append] at hlen
    omega
  obtain ⟨z, rfl⟩ := List.length_eq_one_iff.mp hone
  rw [List.getLast?_concat] at hlast
  rw [Option.some.inj hlast]

/-- The device acknowledges the packet it has read. -/
theorem SendInv.acknowledge {s : DrvState β} {m : SendMbx} {pc : ι → Option PutPc} {n : ℕ}
    {c : Cache (BitVec 16)} (hi : SendInv s m pc n c) {pkt : List (BitVec 8)}
    (hdevice : m.device = some pkt) :
    SendInv (s.toggleNetx sendMbxBit)
      { m with device := none, consumed := m.consumed ++ [pkt] } pc n
      (c.write (toggleBit s.usNetxFlags sendMbxBit)) := by
  obtain ⟨hbits, hpkt, hno⟩ := hi.device pkt hdevice
  obtain ⟨call, hlast, hmbx⟩ := hi.full hbits
  obtain ⟨hnow, hlatched⟩ := toggleNetx_latched (by decide) hi.latched hbits
  have hneq : ¬ s.usNetxFlags.getLsbD sendMbxBit = s.hostBit sendMbxBit := by
    rw [hbits]
    simp
  have hcounts := hi.counts
  rw [if_neg hneq] at hcounts
  have hall : m.consumed ++ [pkt] = m.sent.map PutCall.packet := by
    apply prefix_concat_last hi.consumed
    · rw [List.length_map, hcounts]
    · rw [List.getLast?_map, hlast, hpkt, hmbx]
      rfl
  refine ⟨hlatched, hi.exclusive, ?_, ?_, ?_, (fun q hq => by cases hq), ?_, hi.numbers,
    hi.returned⟩
  · have hequal : (s.toggleNetx sendMbxBit).usNetxFlags.getLsbD sendMbxBit =
        (s.toggleNetx sendMbxBit).hostBit sendMbxBit := hnow
    rw [if_pos hequal, hcounts, List.length_append]
    rfl
  · show m.consumed ++ [pkt] <+: _
    rw [hall]
  · intro hfull
    have hequal : (s.toggleNetx sendMbxBit).usNetxFlags.getLsbD sendMbxBit =
        (s.toggleNetx sendMbxBit).hostBit sendMbxBit := hnow
    rw [hequal] at hfull
    simp at hfull
  · intro i p hp
    have hposition := hi.position i p hp
    cases p with
    | waitMutex | checkSize | waitEmpty | releaseMutex | ret => exact hposition
    | countPacket d | copyPacket d => exact absurd hposition.1.1 hneq
    | toggle d stage =>
      cases stage with
      | enterLock | xorHost => exact absurd hposition.1.1 hneq
      | storeHost => exact absurd hp (hno i d)
      | leaveLock => exact hposition

end NetanaDriver
