import NetanaDriver.RecvMailboxRun
import NetanaDriver.SendMailboxRun

/-! Both mailboxes together: threads that put and get packets, the device, and everything else
that goes on over the same flags. -/
namespace NetanaDriver
open ToggleHandshake LaggingCache CallNumbers ExclusiveSection

variable {β ι : Type*}

def MbxPc.putPc : MbxPc → Option PutPc
  | .put p => some p
  | _ => none

def MbxPc.getPc : MbxPc → Option GetPc
  | .get p => some p
  | _ => none

def MbxPc.toggling : MbxPc → Option (ℕ × ToggleStage)
  | .idle => none
  | .put p => p.toggling
  | .get p => p.toggling

def MbxState.putPc (x : MbxState ι β) (i : ι) : Option PutPc := (x.pc i).putPc

def MbxState.getPc (x : MbxState ι β) (i : ι) : Option GetPc := (x.pc i).getPc

def MbxState.tog (x : MbxState ι β) (i : ι) : Option (ℕ × ToggleStage) := (x.pc i).toggling

structure MbxInv (x : MbxState ι β) (c : Cache (BitVec 16)) : Prop where
  handshake : HandshakeInv x.drv x.tog c
  send : SendInv x.drv x.tSendMbx x.putPc x.started c
  recv : RecvInv x.drv x.tRecvMbx x.getPc x.started c

/-- What a statement does to the handshake: nothing, or a statement of a toggle of its own bit. -/
def HandshakeStep (b : ℕ) (now next : Option (ℕ × ToggleStage)) (s t : DrvState β) : Prop :=
  (SameHandshake s t ∧ inLock now = false ∧ inLock next = false) ∨
    ∃ stage u, now = some (b, stage) ∧ toggleStep b stage s = some u ∧ t = u.1 ∧
      next = u.2.map fun stage => (b, stage)

theorem netanaPutPacket_handshake {ch : MbxChoice} {p : PutPc} {s t : DrvState β}
    {m m' : SendMbx} {next : Option PutPc}
    (h : netanaPutPacket ch p s m = some (t, m', next)) :
    HandshakeStep sendMbxBit p.toggling (next.bind PutPc.toggling) s t := by
  cases p with
  | waitMutex c =>
    obtain ⟨fLocked, -, heq⟩ := Option.map_eq_some_iff.mp h
    cases fLocked <;>
      · cases heq
        exact Or.inl ⟨SameHandshake.refl s, rfl, rfl⟩
  | checkSize c =>
    cases h
    refine Or.inl ⟨SameHandshake.refl s, rfl, ?_⟩
    split <;> rfl
  | waitEmpty c stage =>
    obtain ⟨r, hr, heq⟩ := Option.map_eq_some_iff.mp h
    cases heq
    refine Or.inl ⟨(waitStep_spec hr).1, rfl, ?_⟩
    cases r.2 with
    | goto stage => rfl
    | ret iRet => cases iRet <;> rfl
  | toggle c stage =>
    obtain ⟨u, hu, heq⟩ := Option.map_eq_some_iff.mp h
    cases heq
    refine Or.inr ⟨stage, u, rfl, hu, rfl, ?_⟩
    cases u.2 <;> rfl
  | countPacket c | copyPacket c | releaseMutex c lRet | ret c lRet =>
    cases h
    exact Or.inl ⟨SameHandshake.refl s, rfl, rfl⟩

theorem netanaGetPacket_handshake {ch : MbxChoice} {p : GetPc} {s t : DrvState β}
    {m m' : RecvMbx} {next : Option GetPc}
    (h : netanaGetPacket ch p s m = some (t, m', next)) :
    HandshakeStep recvMbxBit p.toggling (next.bind GetPc.toggling) s t := by
  cases p with
  | waitMutex c =>
    obtain ⟨fLocked, -, heq⟩ := Option.map_eq_some_iff.mp h
    cases fLocked <;>
      · cases heq
        exact Or.inl ⟨SameHandshake.refl s, rfl, rfl⟩
  | waitFull c stage =>
    obtain ⟨r, hr, heq⟩ := Option.map_eq_some_iff.mp h
    cases heq
    refine Or.inl ⟨(waitStep_spec hr).1, rfl, ?_⟩
    cases r.2 with
    | goto stage => rfl
    | ret iRet => cases iRet <;> rfl
  | toggle r stage =>
    obtain ⟨u, hu, heq⟩ := Option.map_eq_some_iff.mp h
    cases heq
    refine Or.inr ⟨stage, u, rfl, hu, rfl, ?_⟩
    cases u.2 <;> rfl
  | countPacket c | readSize c | copyPacket c ulCopySize lRet | releaseMutex r | ret r =>
    cases h
    exact Or.inl ⟨SameHandshake.refl s, rfl, rfl⟩

/-- A statement of a mailbox call keeps the handshake in order, and every other command bit. -/
theorem HandshakeInv.statement {s t : DrvState β} {tog tog' : ι → Option (ℕ × ToggleStage)}
    {c : Cache (BitVec 16)} (hi : HandshakeInv s tog c) {i : ι} {b : ℕ}
    (h : HandshakeStep b (tog i) (tog' i) s t) (hothers : ∀ j, j ≠ i → tog' j = tog j) :
    HandshakeInv t tog' c ∧ ∀ b', isCommandBit b' → b' ≠ b → Spared b' s t c c := by
  rcases h with ⟨hsame, hnow, hnext⟩ | ⟨stage, u, hnow, hu, rfl, hnext⟩
  · refine ⟨hi.of_same hsame fun j => ?_, fun b' _ _ => hsame.spared b' c⟩
    by_cases hj : j = i
    · rw [hj]
      exact Or.inr ⟨hnow, hnext⟩
    · exact Or.inl (hothers j hj)
  · refine ⟨hi.toggle hnow hu hnext hothers, fun b' hb' hne => ?_⟩
    apply toggleStep_spared _ hu (Or.inl hne)
    have hlt := hb'.1
    omega

/-- The threads at the second write of a toggle of the send bit. -/
theorem tog_send_iff (x : MbxState ι β) (i : ι) :
    x.tog i = some (sendMbxBit, .storeHost) ↔
      ∃ call, x.putPc i = some (.toggle call .storeHost) := by
  rw [MbxState.tog, MbxState.putPc]
  cases x.pc i with
  | idle => simp [MbxPc.toggling, MbxPc.putPc]
  | put p => cases p <;> simp [MbxPc.toggling, MbxPc.putPc, PutPc.toggling]
  | get p => cases p <;> simp [MbxPc.toggling, MbxPc.putPc, GetPc.toggling, sendMbxBit, recvMbxBit]

theorem tog_recv_iff (x : MbxState ι β) (i : ι) :
    x.tog i = some (recvMbxBit, .storeHost) ↔
      ∃ r, x.getPc i = some (.toggle r .storeHost) := by
  rw [MbxState.tog, MbxState.getPc]
  cases x.pc i with
  | idle => simp [MbxPc.toggling, MbxPc.getPc]
  | put p => cases p <;> simp [MbxPc.toggling, MbxPc.getPc, PutPc.toggling, sendMbxBit, recvMbxBit]
  | get p => cases p <;> simp [MbxPc.toggling, MbxPc.getPc, GetPc.toggling]

section Steps
variable [DecidableEq ι]

/-- The positions after an update of one thread. -/
theorem update_positions (pc : ι → MbxPc) (i : ι) (q : MbxPc) {α : Type*} (f : MbxPc → α) :
    (fun j => f (Function.update pc i q j)) = Function.update (fun j => f (pc j)) i (f q) := by
  funext j
  by_cases hj : j = i
  · rw [hj, Function.update_self, Function.update_self]
  · rw [Function.update_of_ne hj, Function.update_of_ne hj]

theorem update_positions_same {pc : ι → MbxPc} {i : ι} {q : MbxPc} {α : Type*} {f : MbxPc → α}
    (h : f q = f (pc i)) : (fun j => f (Function.update pc i q j)) = fun j => f (pc j) := by
  rw [update_positions, h]
  exact Function.update_eq_self i _

theorem MbxInv.put {x : MbxState ι β} {c : Cache (BitVec 16)} (hi : MbxInv x c) {i : ι}
    {ch : MbxChoice} {p : PutPc} {t : DrvState β} {m : SendMbx} {next : Option PutPc}
    (hpc : x.pc i = .put p) (h : netanaPutPacket ch p x.drv x.tSendMbx = some (t, m, next)) :
    MbxInv { x with
      drv := t
      tSendMbx := m
      pc := Function.update x.pc i (next.elim .idle .put) } c := by
  let y : MbxState ι β := { x with
    drv := t
    tSendMbx := m
    pc := Function.update x.pc i (next.elim .idle .put) }
  have hself : y.pc i = next.elim .idle .put := Function.update_self i _ x.pc
  have hothers (j : ι) (hj : j ≠ i) : y.pc j = x.pc j := Function.update_of_ne hj _ x.pc
  have htog : x.tog i = p.toggling := by rw [MbxState.tog, hpc]; rfl
  have htog' : y.tog i = next.bind PutPc.toggling := by
    rw [MbxState.tog, hself]
    cases next <;> rfl
  have hstatement := netanaPutPacket_handshake h
  rw [← htog, ← htog'] at hstatement
  obtain ⟨hhandshake, hspared⟩ := hi.handshake.statement hstatement
    fun j hj => congrArg MbxPc.toggling (hothers j hj)
  have hgets : y.getPc = x.getPc := by
    apply update_positions_same
    rw [hpc]
    cases next <;> rfl
  refine ⟨hhandshake, ?_, ?_⟩
  · apply hi.send.step hi.handshake (i := i) (p := p) _ h
    · show (y.pc i).putPc = next
      rw [hself]
      cases next <;> rfl
    · exact fun j hj => congrArg MbxPc.putPc (hothers j hj)
    · rw [MbxState.putPc, hpc]
      rfl
  · show RecvInv y.drv y.tRecvMbx y.getPc y.started c
    rw [hgets]
    exact hi.recv.other (hspared recvMbxBit isCommandBit_recv (by decide))

theorem MbxInv.get {x : MbxState ι β} {c : Cache (BitVec 16)} (hi : MbxInv x c) {i : ι}
    {ch : MbxChoice} {p : GetPc} {t : DrvState β} {m : RecvMbx} {next : Option GetPc}
    (hpc : x.pc i = .get p) (h : netanaGetPacket ch p x.drv x.tRecvMbx = some (t, m, next)) :
    MbxInv { x with
      drv := t
      tRecvMbx := m
      pc := Function.update x.pc i (next.elim .idle .get) } c := by
  let y : MbxState ι β := { x with
    drv := t
    tRecvMbx := m
    pc := Function.update x.pc i (next.elim .idle .get) }
  have hself : y.pc i = next.elim .idle .get := Function.update_self i _ x.pc
  have hothers (j : ι) (hj : j ≠ i) : y.pc j = x.pc j := Function.update_of_ne hj _ x.pc
  have htog : x.tog i = p.toggling := by rw [MbxState.tog, hpc]; rfl
  have htog' : y.tog i = next.bind GetPc.toggling := by
    rw [MbxState.tog, hself]
    cases next <;> rfl
  have hstatement := netanaGetPacket_handshake h
  rw [← htog, ← htog'] at hstatement
  obtain ⟨hhandshake, hspared⟩ := hi.handshake.statement hstatement
    fun j hj => congrArg MbxPc.toggling (hothers j hj)
  have hputs : y.putPc = x.putPc := by
    apply update_positions_same
    rw [hpc]
    cases next <;> rfl
  refine ⟨hhandshake, ?_, ?_⟩
  · show SendInv y.drv y.tSendMbx y.putPc y.started c
    rw [hputs]
    exact hi.send.other (hspared sendMbxBit isCommandBit_send (by decide))
  · apply hi.recv.step hi.handshake (i := i) (p := p) _ h
    · show (y.pc i).getPc = next
      rw [hself]
      cases next <;> rfl
    · exact fun j hj => congrArg MbxPc.getPc (hothers j hj)
    · rw [MbxState.getPc, hpc]
      rfl

/-- A call of either kind is started by a thread that is in no call. -/
theorem MbxInv.start {x : MbxState ι β} {c : Cache (BitVec 16)} (hi : MbxInv x c) {i : ι}
    (hpc : x.pc i = .idle) {q : MbxPc}
    (hq : (∃ call, q = .put (.waitMutex call) ∧ call.nr = x.started) ∨
      ∃ call, q = .get (.waitMutex call) ∧ call.nr = x.started) :
    MbxInv { x with started := x.started + 1, pc := Function.update x.pc i q } c := by
  let y : MbxState ι β := { x with
    started := x.started + 1
    pc := Function.update x.pc i q }
  have hself : y.pc i = q := Function.update_self i q x.pc
  have hothers (j : ι) (hj : j ≠ i) : y.pc j = x.pc j := Function.update_of_ne hj q x.pc
  have htog : y.tog = x.tog := by
    apply update_positions_same
    rw [hpc]
    rcases hq with ⟨call, hq, -⟩ | ⟨call, hq, -⟩ <;> rw [hq] <;> rfl
  have hhandshake : HandshakeInv y.drv y.tog c := htog ▸ hi.handshake
  rcases hq with ⟨call, hq, hnr⟩ | ⟨call, hq, hnr⟩
  · have hgets : y.getPc = x.getPc := by
      apply update_positions_same
      rw [hpc, hq]
      rfl
    refine ⟨hhandshake, hi.send.start hnr (i := i) ?_ ?_, ?_⟩
    · show (y.pc i).putPc = _
      rw [hself, hq]
      rfl
    · exact fun j hj => congrArg MbxPc.putPc (hothers j hj)
    · show RecvInv y.drv y.tRecvMbx y.getPc (x.started + 1) c
      rw [hgets]
      exact hi.recv.skip
  · have hputs : y.putPc = x.putPc := by
      apply update_positions_same
      rw [hpc, hq]
      rfl
    refine ⟨hhandshake, ?_, hi.recv.start hnr (i := i) ?_ ?_⟩
    · show SendInv y.drv y.tSendMbx y.putPc (x.started + 1) c
      rw [hputs]
      exact hi.send.skip
    · show (y.pc i).getPc = _
      rw [hself, hq]
      rfl
    · exact fun j hj => congrArg MbxPc.getPc (hothers j hj)

theorem MbxInv.mbxStep {x y : MbxState ι β} {c : Cache (BitVec 16)} {a : MbxAction ι β}
    (hi : MbxInv x c) (h : NetanaDriver.mbxStep x a = some y) : ∃ d, MbxInv y d := by
  cases a with
  | put i ptSendPkt ulTimeout =>
    rw [NetanaDriver.mbxStep] at h
    split at h
    · rename_i hpc
      cases h
      exact ⟨c, hi.start hpc (Or.inl ⟨_, rfl, rfl⟩)⟩
    · cases h
  | get i ulSize ptRecvPkt ulTimeout =>
    rw [NetanaDriver.mbxStep] at h
    split at h
    · rename_i hpc
      cases h
      exact ⟨c, hi.start hpc (Or.inr ⟨_, rfl, rfl⟩)⟩
    · cases h
  | step i ch =>
    rw [NetanaDriver.mbxStep] at h
    cases hpc : x.pc i with
    | idle =>
      rw [hpc] at h
      cases h
    | put p =>
      rw [hpc] at h
      obtain ⟨r, hr, rfl⟩ := Option.map_eq_some_iff.mp h
      exact ⟨c, hi.put hpc hr⟩
    | get p =>
      rw [hpc] at h
      obtain ⟨r, hr, rfl⟩ := Option.map_eq_some_iff.mp h
      exact ⟨c, hi.get hpc hr⟩
  | readPacket =>
    obtain ⟨hguard, heq⟩ := Option.ite_none_right_eq_some.mp h
    cases heq
    exact ⟨c, hi.handshake, hi.send.read hi.handshake hguard.1 (tog_send_iff x), hi.recv⟩
  -- each of the two bits of the firmware is spared by the other mailbox's toggle
  | acknowledge =>
    obtain ⟨pkt, hdevice, rfl⟩ := Option.map_eq_some_iff.mp h
    have hspared : Spared recvMbxBit x.drv (x.drv.toggleNetx sendMbxBit) c _ :=
      hi.handshake.toggleNetx_spared (by decide) (by decide)
    exact ⟨_, hi.handshake.toggleNetx sendMbxBit, hi.send.acknowledge hdevice,
      hi.recv.other hspared⟩
  | writePacket packet =>
    obtain ⟨hguard, heq⟩ := Option.ite_none_right_eq_some.mp h
    cases heq
    exact ⟨c, hi.handshake, hi.send,
      hi.recv.write hi.handshake hguard.1 (tog_recv_iff x) packet⟩
  | indicate =>
    obtain ⟨hdevice, heq⟩ := Option.ite_none_right_eq_some.mp h
    cases heq
    have hspared : Spared sendMbxBit x.drv (x.drv.toggleNetx recvMbxBit) c _ :=
      hi.handshake.toggleNetx_spared (by decide) (by decide)
    exact ⟨_, hi.handshake.toggleNetx recvMbxBit, hi.send.other hspared,
      hi.recv.indicate hdevice⟩
  | other a =>
    obtain ⟨hspares, heq⟩ := Option.ite_none_right_eq_some.mp h
    obtain ⟨t, ht, rfl⟩ := Option.map_eq_some_iff.mp heq
    obtain ⟨d, hhandshake, hspared⟩ := hi.handshake.other ht
    exact ⟨d, hhandshake, hi.send.other (hspared _ isCommandBit_send hspares.1),
      hi.recv.other (hspared _ isCommandBit_recv hspares.2)⟩

end Steps

/-- Nobody is in a call, both mailboxes are empty, and so they are in all that the driver has
still to see. -/
structure MbxStart (x : MbxState ι β) : Prop where
  buffers : DoubleBufferInv x.drv
  host : HostInv x.drv
  nothingPending : ∃ c : Cache (BitVec 16), Lags id x.drv c ∧
    ∀ b, b = sendMbxBit ∨ b = recvMbxBit → ∀ w ∈ c.view, w.getLsbD b = x.drv.hostBit b
  idle : ∀ i, x.pc i = .idle
  sendMutex : x.tSendMbx.pvSendMBXMutex = false
  sendDevice : x.tSendMbx.device = none
  sent : x.tSendMbx.sent = []
  consumed : x.tSendMbx.consumed = []
  putsReturned : x.tSendMbx.returned = []
  recvMutex : x.tRecvMbx.pvRecvMBXMutex = false
  recvDevice : x.tRecvMbx.device = false
  written : x.tRecvMbx.written = []
  received : x.tRecvMbx.received = []
  getsReturned : x.tRecvMbx.returned = []

/-- An empty mailbox to send with, and nobody in `netana_put_packet`. -/
theorem MbxStart.send {x : MbxState ι β} (h : MbxStart x) {c : Cache (BitVec 16)}
    (hall : ∀ w ∈ c.view, w.getLsbD sendMbxBit = x.drv.hostBit sendMbxBit)
    (hbit : x.drv.usNetxFlags.getLsbD sendMbxBit = x.drv.hostBit sendMbxBit) :
    SendInv x.drv x.tSendMbx x.putPc x.started c := by
  have hputs : x.putPc = fun _ => none := by
    funext i
    rw [MbxState.putPc, h.idle i]
    rfl
  rw [hputs]
  refine ⟨latchedOn_of_latched hall, exclusive_none, ?_, ?_, ?_, ?_, ?_, ?_, ?_⟩
  · rw [h.sent, h.consumed, if_pos hbit]
    rfl
  · rw [h.consumed]
    exact List.nil_prefix
  · intro hfull
    rw [hbit] at hfull
    simp at hfull
  · intro p hp
    rw [h.sendDevice] at hp
    cases hp
  · intro i p hp
    cases hp
  · rw [SendMbx.sentNrs, SendMbx.returnedNrs, h.sent, h.putsReturned]
    exact numbered_nil _
  · intro r hr
    rw [h.putsReturned] at hr
    cases hr

/-- An empty mailbox to receive with, and nobody in `netana_get_packet`. -/
theorem MbxStart.recv {x : MbxState ι β} (h : MbxStart x) {c : Cache (BitVec 16)}
    (hall : ∀ w ∈ c.view, w.getLsbD recvMbxBit = x.drv.hostBit recvMbxBit)
    (hbit : x.drv.usNetxFlags.getLsbD recvMbxBit = x.drv.hostBit recvMbxBit) :
    RecvInv x.drv x.tRecvMbx x.getPc x.started c := by
  have hgets : x.getPc = fun _ => none := by
    funext i
    rw [MbxState.getPc, h.idle i]
    rfl
  rw [hgets]
  refine ⟨latchedOn_of_all hall, exclusive_none, ?_, ?_, ?_, ?_, ?_, ?_, ?_⟩
  · rw [h.written, h.received, if_pos hbit]
    rfl
  · intro k r hr
    rw [h.received] at hr
    cases hr
  · intro hfull
    rw [hbit] at hfull
    simp at hfull
  · intro hdev
    rw [h.recvDevice] at hdev
    cases hdev
  · intro i p hp
    cases hp
  · rw [RecvMbx.receivedNrs, RecvMbx.returnedNrs, h.received, h.getsReturned]
    exact numbered_nil _
  · intro r hr
    rw [h.getsReturned] at hr
    cases hr

theorem MbxStart.inv {x : MbxState ι β} (h : MbxStart x) : ∃ c, MbxInv x c := by
  obtain ⟨c, hlag, hall⟩ := h.nothingPending
  have hbits (b : ℕ) (hb : b = sendMbxBit ∨ b = recvMbxBit) :
      x.drv.usNetxFlags.getLsbD b = x.drv.hostBit b := by
    have hreal := hall b hb c.real (real_mem_view c)
    rw [show c.real = x.drv.usNetxFlags from hlag.real] at hreal
    exact hreal
  have hlock : LockInv x.drv (toggles x.drv x.tog) := by
    refine lockInv_of_actor none ?_ h.host
    intro i hne
    cases i with
    | none => exact absurd rfl hne
    | some i =>
      rw [toggles, MbxState.tog, h.idle i]
      rfl
  exact ⟨c, ⟨h.buffers, hlag, hlock⟩, h.send (hall _ (Or.inl rfl)) (hbits _ (Or.inl rfl)),
    h.recv (hall _ (Or.inr rfl)) (hbits _ (Or.inr rfl))⟩

end NetanaDriver
