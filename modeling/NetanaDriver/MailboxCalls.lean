import NetanaDriver.MailboxRun

/-! What the callers of the mailbox functions can rely on: each packet goes over once, whole, in
the order of the handshakes. -/
namespace NetanaDriver
open ToggleHandshake LaggingCache CallNumbers ExclusiveSection

variable {β ι : Type*}

/-- The packet of the call has been consumed, or is in the full mailbox. -/
def PutCall.Transferred (call : PutCall) (x : MbxState ι β) : Prop :=
  ∃ k, x.tSendMbx.sent[k]? = some call ∧ (x.tSendMbx.consumed[k]? = some call.packet ∨
    (k = x.tSendMbx.consumed.length ∧ packetAt x.tSendMbx.abSendMailbox = call.packet ∧
      x.drv.unequal sendMbxBit))

structure SentOnce (x : MbxState ι β) : Prop where
  order : x.tSendMbx.consumed <+: x.tSendMbx.sent.map PutCall.packet
  once : x.tSendMbx.sentNrs.Nodup
  complete : ∀ call, (call, netanaNoError) ∈ x.tSendMbx.returned → call.Transferred x
  refused : ∀ call lRet, (call, lRet) ∈ x.tSendMbx.returned → lRet ≠ netanaNoError →
    call.nr ∉ x.tSendMbx.sentNrs

/-- What a call that has toggled the receive bit returns. -/
def GetPc.result : GetPc → Option GetReturn
  | .toggle r .storeHost | .toggle r .leaveLock | .releaseMutex r | .ret r => some r
  | _ => none

structure ReceivedOnce (x : MbxState ι β) : Prop where
  delivered : ∀ (k : ℕ) r, x.tRecvMbx.received[k]? = some r →
    ∃ packet, x.tRecvMbx.written[k]? = some packet ∧ r.Delivers packet
  complete : ∀ (k : ℕ) packet, x.tRecvMbx.written[k]? = some packet →
    (∃ r, x.tRecvMbx.received[k]? = some r) ∨
      (k = x.tRecvMbx.received.length ∧ packetAt x.tRecvMbx.abRecvMailbox = packet ∧
        x.drv.unequal recvMbxBit)
  once : x.tRecvMbx.receivedNrs.Nodup
  returned : ∀ r ∈ x.tRecvMbx.received,
    r ∈ x.tRecvMbx.returned ∨ ∃ i p, x.getPc i = some p ∧ p.result = some r
  results : ∀ r ∈ x.tRecvMbx.returned,
    (r.took → r ∈ x.tRecvMbx.received) ∧ (¬ r.took → r.call.nr ∉ x.tRecvMbx.receivedNrs)

/-- The packet of a call that has returned is no longer on its way. -/
theorem MbxInv.transferred {x : MbxState ι β} {c : Cache (BitVec 16)} (hi : MbxInv x c)
    {call : PutCall} (hret : (call, netanaNoError) ∈ x.tSendMbx.returned) :
    call.Transferred x := by
  have hsent := (hi.send.returned _ hret).1 rfl
  obtain ⟨k, hk⟩ := List.getElem?_of_mem hsent
  refine ⟨k, hk, ?_⟩
  have hpacket : (x.tSendMbx.sent.map PutCall.packet)[k]? = some call.packet := by
    rw [List.getElem?_map, hk]
    rfl
  have hklt := (List.getElem?_eq_some_iff.mp hk).1
  rcases Nat.lt_or_ge k x.tSendMbx.consumed.length with hlt | hge
  · left
    rw [← hpacket, List.getElem?_eq_getElem hlt]
    exact (List.prefix_iff_getElem?.mp hi.send.consumed k hlt).symm
  · -- it is the last one sent, and its call has made both writes of the toggle
    have hcounts := hi.send.counts
    have hneq : ¬ x.drv.usNetxFlags.getLsbD sendMbxBit = x.drv.hostBit sendMbxBit := by
      intro heq
      rw [if_pos heq] at hcounts
      omega
    rw [if_neg hneq] at hcounts
    have hlast : k = x.tSendMbx.consumed.length := by omega
    obtain ⟨d, hd, hmbx⟩ := hi.send.full (Bool.eq_not.mpr hneq)
    have hdk : d = call := by
      rw [List.getLast?_eq_getElem?] at hd
      have hpos : x.tSendMbx.sent.length - 1 = k := by omega
      rw [hpos, hk] at hd
      exact (Option.some.inj hd).symm
    rw [hdk] at hmbx
    refine Or.inr ⟨hlast, hmbx, ?_⟩
    rcases hi.handshake.shown_cases isCommandBit_send with ⟨⟨i, htog⟩, -⟩ | ⟨-, hshown⟩
    · obtain ⟨e, hpc⟩ := (tog_send_iff x i).mp htog
      have he := (hi.send.position i _ hpc).2
      rw [hd] at he
      have hcall : e = call := (Option.some.inj he).symm.trans hdk
      have hcur : (x.putPc i).map (fun p => p.call.nr) = some call.nr := by
        rw [hpc, ← hcall]
        rfl
      exact absurd (List.mem_map_of_mem hret) (hi.send.numbers.left i _ hcur)
    · rw [DrvState.unequal, hshown]
      exact Ne.symm hneq

/-- The packets that are still to be received are in the mailbox, for the driver to see. -/
theorem MbxInv.received {x : MbxState ι β} {c : Cache (BitVec 16)} (hi : MbxInv x c) (k : ℕ)
    (packet : List (BitVec 8)) (hk : x.tRecvMbx.written[k]? = some packet) :
    (∃ r, x.tRecvMbx.received[k]? = some r) ∨
      (k = x.tRecvMbx.received.length ∧ packetAt x.tRecvMbx.abRecvMailbox = packet ∧
        x.drv.unequal recvMbxBit) := by
  have hklt := (List.getElem?_eq_some_iff.mp hk).1
  rcases Nat.lt_or_ge k x.tRecvMbx.received.length with hlt | hge
  · exact Or.inl ⟨_, List.getElem?_eq_getElem hlt⟩
  · have hcounts := hi.recv.counts
    have hneq : ¬ x.drv.usNetxFlags.getLsbD recvMbxBit = x.drv.hostBit recvMbxBit := by
      intro heq
      rw [if_pos heq] at hcounts
      omega
    rw [if_neg hneq] at hcounts
    have hlast := (hi.recv.full (Bool.eq_not.mpr hneq)).1
    rw [List.getLast?_eq_getElem?] at hlast
    have hpos : x.tRecvMbx.written.length - 1 = k := by omega
    rw [hpos, hk] at hlast
    refine Or.inr ⟨by omega, (Option.some.inj hlast).symm, ?_⟩
    rcases hi.handshake.shown_cases isCommandBit_recv with ⟨⟨i, htog⟩, -⟩ | ⟨-, hshown⟩
    · obtain ⟨r, hpc⟩ := (tog_recv_iff x i).mp htog
      exact absurd (hi.recv.position i _ hpc).1 hneq
    · rw [DrvState.unequal, hshown]
      exact Ne.symm hneq

/-- Every packet taken out is returned, or about to be. -/
def MbxState.Carried (x : MbxState ι β) : Prop :=
  ∀ r ∈ x.tRecvMbx.received,
    r ∈ x.tRecvMbx.returned ∨ ∃ i p, x.getPc i = some p ∧ p.result = some r

/-- What a statement of `netana_get_packet` does with the results. -/
theorem netanaGetPacket_result {ch : MbxChoice} {p : GetPc} {s t : DrvState β} {m m' : RecvMbx}
    {next : Option GetPc} (h : netanaGetPacket ch p s m = some (t, m', next)) :
    (∀ r ∈ m'.received, r ∈ m.received ∨ next.bind GetPc.result = some r) ∧
      (∀ r, p.result = some r → next.bind GetPc.result = some r ∨ r ∈ m'.returned) ∧
      ∀ r ∈ m.returned, r ∈ m'.returned := by
  cases p with
  | waitMutex c =>
    obtain ⟨fLocked, -, heq⟩ := Option.map_eq_some_iff.mp h
    cases fLocked <;>
      · cases heq
        exact ⟨fun r hr => Or.inl hr, (fun r hr => by cases hr), fun r hr => hr⟩
  | waitFull c stage =>
    obtain ⟨r, -, heq⟩ := Option.map_eq_some_iff.mp h
    cases heq
    exact ⟨fun r hr => Or.inl hr, (fun r hr => by cases hr), fun r hr => hr⟩
  | countPacket c | readSize c | copyPacket c ulCopySize lRet =>
    cases h
    exact ⟨fun r hr => Or.inl hr, (fun r hr => by cases hr), fun r hr => hr⟩
  | toggle r stage =>
    obtain ⟨u, hu, heq⟩ := Option.map_eq_some_iff.mp h
    cases heq
    cases stage with
    | enterLock => exact ⟨fun r hr => Or.inl hr, (fun r hr => by cases hr), fun r hr => hr⟩
    | xorHost =>
      cases hu
      refine ⟨fun d hd => ?_, (fun r hr => by cases hr), fun r hr => hr⟩
      rcases List.mem_append.mp hd with hd | hd
      · exact Or.inl hd
      · rw [List.mem_singleton.mp hd]
        exact Or.inr rfl
    | storeHost | leaveLock =>
      cases hu
      exact ⟨fun r hr => Or.inl hr, fun r hr => Or.inl hr, fun r hr => hr⟩
  | releaseMutex r =>
    cases h
    exact ⟨fun r hr => Or.inl hr, fun r hr => Or.inl hr, fun r hr => hr⟩
  | ret r =>
    cases h
    refine ⟨fun r hr => Or.inl hr, fun d hd => Or.inr ?_, fun d hd => List.mem_append_left _ hd⟩
    cases hd
    exact List.mem_append_right _ (List.mem_singleton_self r)

/-- A step that leaves the receive calls alone. -/
theorem carried_of_same {x y : MbxState ι β} (hi : x.Carried)
    (hreceived : y.tRecvMbx.received = x.tRecvMbx.received)
    (hreturned : y.tRecvMbx.returned = x.tRecvMbx.returned)
    (hgets : ∀ i p, x.getPc i = some p → p.result ≠ none → y.getPc i = some p) : y.Carried := by
  intro r hr
  rw [hreceived] at hr
  rw [hreturned]
  rcases hi r hr with hret | ⟨i, p, hp, hres⟩
  · exact Or.inl hret
  · refine Or.inr ⟨i, p, hgets i p hp ?_, hres⟩
    rw [hres]
    simp

section Steps
variable [DecidableEq ι]

theorem mbxStep_carried (x : MbxState ι β) (a : MbxAction ι β) (y : MbxState ι β)
    (hi : x.Carried) (h : mbxStep x a = some y) : y.Carried := by
  -- a thread that has no result to return may go anywhere
  have hgets {i : ι} {q : MbxPc} (hq : ∀ p, x.getPc i = some p → p.result = none) (j : ι)
      (p : GetPc) (hp : x.getPc j = some p) (hres : p.result ≠ none) :
      (Function.update x.pc i q j).getPc = some p := by
    have hj : j ≠ i := by
      intro heq
      rw [heq] at hp
      exact hres (hq p hp)
    rw [Function.update_of_ne hj]
    exact hp
  cases a with
  | put i ptSendPkt ulTimeout | get i ulSize ptRecvPkt ulTimeout =>
    rw [mbxStep] at h
    split at h
    · rename_i hpc
      cases h
      refine carried_of_same hi rfl rfl (hgets ?_)
      intro p hp
      rw [MbxState.getPc, hpc] at hp
      cases hp
    · cases h
  | step i ch =>
    rw [mbxStep] at h
    cases hpc : x.pc i with
    | idle =>
      rw [hpc] at h
      cases h
    | put p =>
      rw [hpc] at h
      obtain ⟨u, -, rfl⟩ := Option.map_eq_some_iff.mp h
      refine carried_of_same hi rfl rfl (hgets ?_)
      intro q hq
      rw [MbxState.getPc, hpc] at hq
      cases hq
    | get p =>
      rw [hpc] at h
      obtain ⟨u, hu, rfl⟩ := Option.map_eq_some_iff.mp h
      obtain ⟨hreceived, hresult, hreturned⟩ := netanaGetPacket_result hu
      have hself {r : GetReturn} (hr : u.2.2.bind GetPc.result = some r) :
          ∃ q, (Function.update x.pc i (u.2.2.elim .idle .get) i).getPc = some q ∧
            q.result = some r := by
        obtain ⟨q, hq, hqr⟩ := Option.bind_eq_some_iff.mp hr
        refine ⟨q, ?_, hqr⟩
        rw [Function.update_self, hq]
        rfl
      intro r hr
      rcases hreceived r hr with hr | hnext
      · rcases hi r hr with hret | ⟨j, q, hq, hres⟩
        · exact Or.inl (hreturned r hret)
        · by_cases hj : j = i
          · rw [hj, MbxState.getPc, hpc] at hq
            cases hq
            rcases hresult r hres with hnext | hret
            · exact Or.inr ⟨i, hself hnext⟩
            · exact Or.inl hret
          · refine Or.inr ⟨j, q, ?_, hres⟩
            show (Function.update x.pc i _ j).getPc = some q
            rw [Function.update_of_ne hj]
            exact hq
      · exact Or.inr ⟨i, hself hnext⟩
  | readPacket | writePacket packet | indicate =>
    obtain ⟨-, heq⟩ := Option.ite_none_right_eq_some.mp h
    cases heq
    exact carried_of_same hi rfl rfl fun i p hp _ => hp
  | acknowledge =>
    obtain ⟨pkt, -, rfl⟩ := Option.map_eq_some_iff.mp h
    exact carried_of_same hi rfl rfl fun i p hp _ => hp
  | other a =>
    obtain ⟨-, heq⟩ := Option.ite_none_right_eq_some.mp h
    obtain ⟨t, -, rfl⟩ := Option.map_eq_some_iff.mp heq
    exact carried_of_same hi rfl rfl fun i p hp _ => hp

/-- Nothing but `OS_Memcpy` writes the send mailbox. -/
theorem netanaPutPacket_mailbox {ch : MbxChoice} {p : PutPc} {s t : DrvState β}
    {m m' : SendMbx} {next : Option PutPc} (h : netanaPutPacket ch p s m = some (t, m', next)) :
    (∃ c, p = .copyPacket c) ∨ m'.abSendMailbox = m.abSendMailbox := by
  cases p with
  | copyPacket c => exact Or.inl ⟨c, rfl⟩
  | waitMutex c =>
    obtain ⟨fLocked, -, heq⟩ := Option.map_eq_some_iff.mp h
    cases fLocked <;>
      · cases heq
        exact Or.inr rfl
  | waitEmpty c stage | toggle c stage =>
    obtain ⟨u, -, heq⟩ := Option.map_eq_some_iff.mp h
    cases heq
    exact Or.inr rfl
  | checkSize c | countPacket c | releaseMutex c lRet | ret c lRet =>
    cases h
    exact Or.inr rfl

/-- The full mailbox is not overwritten. -/
theorem MbxInv.mailbox_kept {x y : MbxState ι β} {c : Cache (BitVec 16)} (hi : MbxInv x c)
    {a : MbxAction ι β} (h : NetanaDriver.mbxStep x a = some y) (hfull : x.drv.unequal sendMbxBit) :
    y.tSendMbx.abSendMailbox = x.tSendMbx.abSendMailbox := by
  cases a with
  | put i ptSendPkt ulTimeout | get i ulSize ptRecvPkt ulTimeout =>
    rw [NetanaDriver.mbxStep] at h
    split at h
    · cases h
      rfl
    · cases h
  | step i ch =>
    rw [NetanaDriver.mbxStep] at h
    cases hpc : x.pc i with
    | idle =>
      rw [hpc] at h
      cases h
    | put p =>
      rw [hpc] at h
      obtain ⟨u, hu, rfl⟩ := Option.map_eq_some_iff.mp h
      rcases netanaPutPacket_mailbox hu with ⟨call, rfl⟩ | hsame
      · -- at the copy the mailbox is empty, and the other threads are outside
        have hput : x.putPc i = some (.copyPacket call) := by
          rw [MbxState.putPc, hpc]
          rfl
        have hempty := (hi.send.position i _ hput).1.1
        rcases hi.handshake.shown_cases isCommandBit_send with ⟨⟨j, htog⟩, -⟩ | ⟨-, hshown⟩
        · obtain ⟨d, hd⟩ := (tog_send_iff x j).mp htog
          have hij := hi.send.exclusive.alone i j _ _ hput hd rfl rfl
          rw [← hij, hput] at hd
          cases hd
        · rw [DrvState.unequal, hshown] at hfull
          exact absurd hempty (Ne.symm hfull)
      · exact hsame
    | get p =>
      rw [hpc] at h
      obtain ⟨u, -, rfl⟩ := Option.map_eq_some_iff.mp h
      rfl
  | readPacket | writePacket packet | indicate =>
    obtain ⟨-, heq⟩ := Option.ite_none_right_eq_some.mp h
    cases heq
    rfl
  | acknowledge =>
    obtain ⟨pkt, -, rfl⟩ := Option.map_eq_some_iff.mp h
    rfl
  | other a =>
    obtain ⟨-, heq⟩ := Option.ite_none_right_eq_some.mp h
    obtain ⟨t, -, rfl⟩ := Option.map_eq_some_iff.mp heq
    rfl

theorem packets_transferred_once (x y : MbxState ι β) (as : List (MbxAction ι β))
    (hstart : MbxStart x) (hrun : StepRuns.run mbxStep x as = some y) :
    SentOnce y ∧ ReceivedOnce y ∧ ∀ a z, mbxStep y a = some z → y.drv.unequal sendMbxBit →
      z.tSendMbx.abSendMailbox = y.tSendMbx.abSendMailbox := by
  have hstep (s : MbxState ι β) (a : MbxAction ι β) (t : MbxState ι β)
      (hi : (∃ c, MbxInv s c) ∧ s.Carried) (h : mbxStep s a = some t) :
      (∃ d, MbxInv t d) ∧ t.Carried := by
    obtain ⟨⟨c, hc⟩, hcarried⟩ := hi
    exact ⟨hc.mbxStep h, mbxStep_carried s a t hcarried h⟩
  have hinit : (∃ c, MbxInv x c) ∧ x.Carried := by
    refine ⟨hstart.inv, fun r hr => ?_⟩
    rw [hstart.received] at hr
    cases hr
  obtain ⟨⟨c, hi⟩, hcarried⟩ := StepRuns.run_invariant hstep hinit hrun
  refine ⟨⟨hi.send.consumed, hi.send.numbers.once, ?_, ?_⟩, ⟨hi.recv.delivered, hi.received,
    hi.recv.numbers.once, hcarried, hi.recv.returned⟩, ?_⟩
  · exact fun call hret => hi.transferred hret
  · exact fun call lRet hret hno => (hi.send.returned _ hret).2 hno
  · exact fun a z h hfull => hi.mailbox_kept h hfull

end Steps

/-- A device that has been added, with empty mailboxes and no call yet. -/
def restingMbx (ι : Type*) : MbxState ι Unit where
  drv := restingDevice 0#16 1 64#32 fun _ => ()
  tSendMbx := ⟨netanaChannelMailboxSize, fun _ => 0#8, 0#32, false, none, [], [], []⟩
  tRecvMbx := ⟨fun _ => 0#8, 0#32, false, false, [], [], []⟩
  pc := fun _ => .idle
  started := 0

theorem restingMbx_start (ι : Type*) : MbxStart (restingMbx ι) where
  buffers := (restingDevice_atRest _ _ _ _).doubleBuffer
  host := ⟨rfl, rfl⟩
  nothingPending := by
    refine ⟨Cache.start 0#16, restingDevice_lags _ _ _ _, ?_⟩
    intro b hb w hw
    rw [view_start, List.mem_singleton] at hw
    rw [hw]
    rcases hb with rfl | rfl <;> rfl
  idle := fun _ => rfl
  sendMutex := rfl
  sendDevice := rfl
  sent := rfl
  consumed := rfl
  putsReturned := rfl
  recvMutex := rfl
  recvDevice := rfl
  written := rfl
  received := rfl
  getsReturned := rfl

/-- A packet without data, told apart by its first byte. -/
def emptyPacket (b : BitVec 8) : NetanaPacket where
  bytes := fun k => if k = 0 then b else 0#8
  length_lt := by
    have hlen : ulLenAt (fun k => if k = 0 then b else 0#8) = 0#32 := by simp [ulLenAt]
    rw [hlen]
    decide

/-- The ISR, and the DSR up to where the flags are stored. -/
def seeFlags : List (MbxAction Bool Unit) :=
  .other (.isr mskIntReq) :: List.replicate 9 (.other (.dsr ⟨true, false⟩))

/-- The second packet goes over, and is returned, before the first call returns. -/
def overtakenReturn : List (MbxAction Bool Unit) := List.flatten
  [[.put false (emptyPacket 1#8) 100#32, .put true (emptyPacket 2#8) 100#32],
    List.replicate 10 (.step false ⟨⟨false, false⟩, false⟩), [.readPacket, .acknowledge],
    seeFlags, List.replicate 11 (.step true ⟨⟨false, false⟩, false⟩),
    [.readPacket, .acknowledge, .step false ⟨⟨false, false⟩, false⟩]]

/-- The packets of the calls that have returned without an error, in the order of the returns. -/
def SendMbx.returnedPackets (m : SendMbx) : List (List (BitVec 8)) :=
  (m.returned.filter fun r => r.2 == netanaNoError).map fun r => r.1.packet

theorem packets_overtake_returns :
    ¬ ∀ (x y : MbxState Bool Unit) (as : List (MbxAction Bool Unit)), MbxStart x →
      StepRuns.run mbxStep x as = some y → ¬ y.drv.unequal sendMbxBit →
        y.tSendMbx.returnedPackets.Sublist y.tSendMbx.consumed := by
  intro hall
  obtain ⟨y, hrun, hequal, hreturned, hconsumed⟩ : ∃ y : MbxState Bool Unit,
      StepRuns.run mbxStep (restingMbx Bool) overtakenReturn = some y ∧
      ¬ y.drv.unequal sendMbxBit ∧
      y.tSendMbx.returnedPackets = [(emptyPacket 2#8).bytes, (emptyPacket 1#8).bytes].map packetAt ∧
      y.tSendMbx.consumed = [(emptyPacket 1#8).bytes, (emptyPacket 2#8).bytes].map packetAt :=
    ⟨_, rfl, by decide, by rfl, by rfl⟩
  have hsub := hall _ y _ (restingMbx_start Bool) hrun hequal
  rw [hreturned, hconsumed] at hsub
  revert hsub
  decide

/-- A packet of 40 bytes in each direction; the buffer for the one received has 10. -/
def bothWays : List (MbxAction Bool Unit) := List.flatten
  [[.put false (emptyPacket 1#8) 100#32, .get true 10#32 (fun _ => 0#8) 100#32],
    List.replicate 11 (.step false ⟨⟨false, false⟩, false⟩),
    [.readPacket, .acknowledge, .writePacket (emptyPacket 2#8), .indicate], seeFlags,
    List.replicate 11 (.step true ⟨⟨false, false⟩, false⟩)]

theorem packets_transferred_once_both :
    ∃ y, StepRuns.run mbxStep (restingMbx Bool) bothWays = some y ∧
      y.tSendMbx.returnedPackets = [packetAt (emptyPacket 1#8).bytes] ∧
      y.tRecvMbx.returned.map GetReturn.lRet = [netanaBufferTooShort] ∧
      SentOnce y ∧ ReceivedOnce y := by
  obtain ⟨y, hrun, hsent, hreceived⟩ : ∃ y : MbxState Bool Unit,
      StepRuns.run mbxStep (restingMbx Bool) bothWays = some y ∧
      y.tSendMbx.returnedPackets = [packetAt (emptyPacket 1#8).bytes] ∧
      y.tRecvMbx.returned.map GetReturn.lRet = [netanaBufferTooShort] :=
    ⟨_, rfl, by rfl, by rfl⟩
  obtain ⟨hsend, hrecv, -⟩ := packets_transferred_once _ y _ (restingMbx_start Bool) hrun
  exact ⟨y, hrun, hsent, hreceived, hsend, hrecv⟩

end NetanaDriver
