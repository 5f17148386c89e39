import NetanaDriver.FirmwareDownload
import NetanaDriver.SystemMailbox

/-! `netana_transfer_packet` of the library (libnetana/netana_functions.c): the search for the
answer among the packets received. -/
namespace NetanaDriver

/-- `NETANA_PACKET`. -/
structure LibPacket where
  tHeader : PacketHeader
  abData : List (BitVec 8)
  deriving DecidableEq, Repr

/-- What a call of `netana_get_packet` returns and leaves in its buffer. -/
structure GotPacket where
  lRet : BitVec 32
  ptRecvPkt : LibPacket
  deriving DecidableEq, Repr

/-- The locals of `netana_transfer_packet`; `fDone` once its loop has ended. -/
structure PacketTransfer where
  lRet : BitVec 32
  lCount : ℕ
  ptRecvPkt : LibPacket
  fDone : Bool
  -- history: calls of netana_get_packet, packets passed to the callback
  received : ℕ
  passed : List LibPacket
  deriving DecidableEq, Repr

/-- The command is the one of the request, with the bit for an answer cleared. -/
def sameCommand (recv send : PacketHeader) : Bool :=
  recv.ulCmd &&& ~~~rcxMskPacketAnswer == send.ulCmd

/-- The rest of the header that an answer has in common with its request. -/
def sameSender (recv send : PacketHeader) : Bool :=
  recv.ulSrc == send.ulSrc && recv.ulId == send.ulId && recv.ulSrcId == send.ulSrcId

/-- One pass of the loop; `pvPktCallback` is whether there is a callback. -/
def transferPacketPass (pvPktCallback : Bool) (ptSendPkt : PacketHeader) (got : GotPacket)
    (s : PacketTransfer) : PacketTransfer :=
  let s := { s with ptRecvPkt := got.ptRecvPkt, received := s.received + 1 }
  if got.lRet = netanaNoError then
    if sameCommand got.ptRecvPkt.tHeader ptSendPkt then
      if sameSender got.ptRecvPkt.tHeader ptSendPkt then
        { s with lRet := netanaNoError, fDone := true }
      -- only a packet with the command of the request reaches the callback
      else
        { s with
          lRet := netanaTransferTimeout
          lCount := s.lCount + 1
          fDone := !decide (s.lCount + 1 < 10)
          passed := if pvPktCallback then s.passed ++ [got.ptRecvPkt] else s.passed }
    else
      { s with
        lRet := netanaTransferTimeout
        lCount := s.lCount + 1
        fDone := !decide (s.lCount + 1 < 10) }
  -- a call that fails ends the search, whatever it left in the buffer
  else { s with lRet := got.lRet, fDone := true }

/-- `netana_transfer_packet` after at most `n` passes; `putRet` is what `netana_put_packet`
returns, and `get k` what comes of the call of `netana_get_packet` number `k`. -/
def netanaTransferPacket (pvPktCallback : Bool) (ptSendPkt : PacketHeader) (putRet : BitVec 32)
    (get : ℕ → GotPacket) (ptRecvPkt : LibPacket) : ℕ → PacketTransfer
  | 0 => ⟨putRet, 0, ptRecvPkt, putRet != netanaNoError, 0, []⟩
  | n + 1 =>
    let s := netanaTransferPacket pvPktCallback ptSendPkt putRet get ptRecvPkt n
    if s.fDone then s else transferPacketPass pvPktCallback ptSendPkt (get s.received) s

/-- The packet answers the request. -/
def Answers (ptSendPkt : PacketHeader) (got : GotPacket) : Prop :=
  sameCommand got.ptRecvPkt.tHeader ptSendPkt = true ∧
    sameSender got.ptRecvPkt.tHeader ptSendPkt = true

/-- None of the first `n` calls fails or brings the answer. -/
def Unanswered (ptSendPkt : PacketHeader) (get : ℕ → GotPacket) (n : ℕ) : Prop :=
  ∀ j < n, (get j).lRet = netanaNoError ∧ ¬ Answers ptSendPkt (get j)

/-- The packets of the first `n` calls. -/
def packetsBefore (get : ℕ → GotPacket) (n : ℕ) : List LibPacket :=
  (List.range n).map fun j => (get j).ptRecvPkt

/-- What a transfer does with the packets that it receives. -/
structure TransferLaw (pvPktCallback : Bool) (ptSendPkt : PacketHeader) (get : ℕ → GotPacket)
    (r : PacketTransfer) : Prop where
  found : r.lRet = netanaNoError ↔ ∃ k < 10,
    (∀ j ≤ k, (get j).lRet = netanaNoError) ∧ Answers ptSendPkt (get k)
  answered : ∀ k < 10, Unanswered ptSendPkt get k → (get k).lRet = netanaNoError →
    Answers ptSendPkt (get k) → r.ptRecvPkt = (get k).ptRecvPkt ∧ r.received = k + 1 ∧
      (pvPktCallback = true → r.passed = packetsBefore get k)
  timeout : Unanswered ptSendPkt get 10 → r.lRet = netanaTransferTimeout ∧ r.received = 10 ∧
    (pvPktCallback = true → r.passed = packetsBefore get 10)
  failed : ∀ k < 10, Unanswered ptSendPkt get k → (get k).lRet ≠ netanaNoError →
    r.lRet = (get k).lRet ∧ r.received = k + 1

/-- The first `n` packets have the command of the request, up to the bit for an answer. -/
def CommandsMatch (ptSendPkt : PacketHeader) (get : ℕ → GotPacket) (n : ℕ) : Prop :=
  ∀ j < n, sameCommand (get j).ptRecvPkt.tHeader ptSendPkt = true

/-- There is no callback, or all the packets before the answer, or all ten, have the command of
the request. -/
def NoneDropped (pvPktCallback : Bool) (ptSendPkt : PacketHeader) (get : ℕ → GotPacket) : Prop :=
  pvPktCallback = false ∨
    (∀ k < 10, Unanswered ptSendPkt get k → (get k).lRet = netanaNoError →
      Answers ptSendPkt (get k) → CommandsMatch ptSendPkt get k) ∧
    (Unanswered ptSendPkt get 10 → CommandsMatch ptSendPkt get 10)

/-- The search goes on after `k` passes. -/
structure Searching (pvPktCallback : Bool) (ptSendPkt : PacketHeader) (get : ℕ → GotPacket)
    (k : ℕ) (s : PacketTransfer) : Prop where
  count : s.lCount = k
  received : s.received = k
  going : s.fDone = !decide (k < 10)
  lRet : 0 < k → s.lRet = netanaTransferTimeout
  passed : s.passed = if pvPktCallback then
    ((List.range k).filter fun j => sameCommand (get j).ptRecvPkt.tHeader ptSendPkt).map
      fun j => (get j).ptRecvPkt else []

variable {pvPktCallback : Bool} {ptSendPkt : PacketHeader} {get : ℕ → GotPacket}

/-- A packet that is not the answer. -/
theorem Searching.pass {k : ℕ} {s : PacketTransfer}
    (h : Searching pvPktCallback ptSendPkt get k s) (hret : (get k).lRet = netanaNoError)
    (hnot : ¬ Answers ptSendPkt (get k)) :
    Searching pvPktCallback ptSendPkt get (k + 1)
      (transferPacketPass pvPktCallback ptSendPkt (get k) s) := by
  have hfilter : ((List.range (k + 1)).filter fun j =>
      sameCommand (get j).ptRecvPkt.tHeader ptSendPkt) =
      ((List.range k).filter fun j => sameCommand (get j).ptRecvPkt.tHeader ptSendPkt) ++
        [k].filter fun j => sameCommand (get j).ptRecvPkt.tHeader ptSendPkt := by
    rw [List.range_succ, List.filter_append]
  rw [transferPacketPass, if_pos hret]
  by_cases hcmd : sameCommand (get k).ptRecvPkt.tHeader ptSendPkt = true
  · have hsender : ¬ sameSender (get k).ptRecvPkt.tHeader ptSendPkt = true :=
      fun hyes => hnot ⟨hcmd, hyes⟩
    rw [if_pos hcmd, if_neg hsender]
    have hlast : ([k].filter fun j => sameCommand (get j).ptRecvPkt.tHeader ptSendPkt) = [k] :=
      List.filter_cons_of_pos hcmd
    refine ⟨congrArg (· + 1) h.count, congrArg (· + 1) h.received, ?_, fun _ => rfl, ?_⟩
    · rw [← h.count]
    · rw [hfilter, hlast, List.map_append]
      show (if pvPktCallback then s.passed ++ [(get k).ptRecvPkt] else s.passed) = _
      rw [h.passed]
      cases pvPktCallback with
      | true => rfl
      | false => rfl
  · rw [if_neg hcmd]
    have hlast : ([k].filter fun j => sameCommand (get j).ptRecvPkt.tHeader ptSendPkt) = [] :=
      List.filter_cons_of_neg hcmd
    refine ⟨congrArg (· + 1) h.count, congrArg (· + 1) h.received, ?_, fun _ => rfl, ?_⟩
    · rw [← h.count]
    · rw [hfilter, hlast, List.append_nil]
      exact h.passed

/-- Once the loop has ended, nothing changes any more. -/
theorem netanaTransferPacket_done {putRet : BitVec 32} {ptRecvPkt : LibPacket} {k : ℕ}
    (h : (netanaTransferPacket pvPktCallback ptSendPkt putRet get ptRecvPkt k).fDone = true)
    {n : ℕ} (hn : k ≤ n) :
    netanaTransferPacket pvPktCallback ptSendPkt putRet get ptRecvPkt n =
      netanaTransferPacket pvPktCallback ptSendPkt putRet get ptRecvPkt k := by
  induction n with
  | zero =>
    have hk : k = 0 := by omega
    rw [hk]
  | succ n ih =>
    rcases Nat.lt_or_ge n k with hlt | hge
    · have hk : k = n + 1 := by omega
      rw [hk]
    · have hsame := ih hge
      rw [netanaTransferPacket, hsame]
      simp only [h, if_true]

/-- As long as no packet is the answer and no call fails, the search goes on. -/
theorem searching (pvPktCallback : Bool) (ptRecvPkt : LibPacket) {k : ℕ} (hk : k ≤ 10)
    (h : Unanswered ptSendPkt get k) :
    Searching pvPktCallback ptSendPkt get k
      (netanaTransferPacket pvPktCallback ptSendPkt netanaNoError get ptRecvPkt k) := by
  induction k with
  | zero =>
    refine ⟨rfl, rfl, rfl, fun hpos => absurd hpos (lt_irrefl 0), ?_⟩
    cases pvPktCallback with
    | true => rfl
    | false => rfl
  | succ k ih =>
    have hbefore := ih (by omega) fun j hj => h j (Nat.lt_succ_of_lt hj)
    obtain ⟨hret, hnot⟩ := h k (Nat.lt_succ_self k)
    have hgoing : (netanaTransferPacket pvPktCallback ptSendPkt netanaNoError get ptRecvPkt
        k).fDone = false := by
      rw [hbefore.going]
      simp only [Bool.not_eq_false', decide_eq_true_eq]
      omega
    rw [netanaTransferPacket]
    simp only [hgoing, Bool.false_eq_true, if_false, hbefore.received]
    exact hbefore.pass hret hnot

/-- The pass that ends the search before the ten packets are used up. -/
theorem netanaTransferPacket_last (pvPktCallback : Bool) (ptRecvPkt : LibPacket) {k : ℕ}
    (hk : k < 10)
    (h : Unanswered ptSendPkt get k) :
    ∃ s, Searching pvPktCallback ptSendPkt get k s ∧
      netanaTransferPacket pvPktCallback ptSendPkt netanaNoError get ptRecvPkt (k + 1) =
        transferPacketPass pvPktCallback ptSendPkt (get k) s := by
  have hsearch := searching pvPktCallback ptRecvPkt hk.le h
  refine ⟨_, hsearch, ?_⟩
  have hgoing : (netanaTransferPacket pvPktCallback ptSendPkt netanaNoError get ptRecvPkt
      k).fDone = false := by
    rw [hsearch.going]
    simp only [Bool.not_eq_false', decide_eq_true_eq]
    exact hk
  rw [netanaTransferPacket]
  simp only [hgoing, Bool.false_eq_true, if_false, hsearch.received]

/-- How the search ends. -/
inductive TransferEnds (pvPktCallback : Bool) (ptSendPkt : PacketHeader) (get : ℕ → GotPacket)
    (r : PacketTransfer) : Prop where
  | answered (k : ℕ) (hk : k < 10) (hbefore : Unanswered ptSendPkt get k)
      (hget : (get k).lRet = netanaNoError) (hanswer : Answers ptSendPkt (get k))
      (hret : r.lRet = netanaNoError) (hrecv : r.ptRecvPkt = (get k).ptRecvPkt)
      (hcalls : r.received = k + 1)
      (hpassed : r.passed = if pvPktCallback then
        ((List.range k).filter fun j => sameCommand (get j).ptRecvPkt.tHeader ptSendPkt).map
          fun j => (get j).ptRecvPkt else [])
  | failed (k : ℕ) (hk : k < 10) (hbefore : Unanswered ptSendPkt get k)
      (hget : (get k).lRet ≠ netanaNoError) (hret : r.lRet = (get k).lRet)
      (hcalls : r.received = k + 1)
  | timeout (hall : Unanswered ptSendPkt get 10) (hret : r.lRet = netanaTransferTimeout)
      (hcalls : r.received = 10)
      (hpassed : r.passed = if pvPktCallback then
        ((List.range 10).filter fun j => sameCommand (get j).ptRecvPkt.tHeader ptSendPkt).map
          fun j => (get j).ptRecvPkt else [])

/-- Within the first `n` calls something ends the search, or nothing does. -/
theorem ended_or_unanswered (ptSendPkt : PacketHeader) (get : ℕ → GotPacket) (n : ℕ) :
    (∃ k < n, Unanswered ptSendPkt get k ∧
      ((get k).lRet ≠ netanaNoError ∨
        (get k).lRet = netanaNoError ∧ Answers ptSendPkt (get k))) ∨
    Unanswered ptSendPkt get n := by
  -- the first call that fails or brings the answer
  induction n with
  | zero =>
    right
    intro j hj
    omega
  | succ n ih =>
    rcases ih with ⟨k, hk, hends⟩ | hnone
    · exact Or.inl ⟨k, Nat.lt_succ_of_lt hk, hends⟩
    · by_cases hret : (get n).lRet = netanaNoError
      · by_cases hanswer : Answers ptSendPkt (get n)
        · exact Or.inl ⟨n, Nat.lt_succ_self n, hnone, Or.inr ⟨hret, hanswer⟩⟩
        · right
          intro j hj
          rcases Nat.lt_succ_iff_lt_or_eq.mp hj with hj | rfl
          · exact hnone j hj
          · exact ⟨hret, hanswer⟩
      · exact Or.inl ⟨n, Nat.lt_succ_self n, hnone, Or.inl hret⟩

theorem netanaTransferPacket_ends (pvPktCallback : Bool) (ptSendPkt : PacketHeader)
    (get : ℕ → GotPacket) (ptRecvPkt : LibPacket) (n : ℕ) :
    (netanaTransferPacket pvPktCallback ptSendPkt netanaNoError get ptRecvPkt
      (10 + n)).fDone = true ∧
    TransferEnds pvPktCallback ptSendPkt get
      (netanaTransferPacket pvPktCallback ptSendPkt netanaNoError get ptRecvPkt (10 + n)) := by
  rcases ended_or_unanswered ptSendPkt get 10 with ⟨k, hk, hbefore, hwhy⟩ | hnone
  · obtain ⟨s, hsearch, hlast⟩ :=
      netanaTransferPacket_last pvPktCallback ptRecvPkt hk hbefore
    have hcalls : s.received + 1 = k + 1 := congrArg (· + 1) hsearch.received
    rcases hwhy with hfail | ⟨hget, hanswer⟩
    · rw [transferPacketPass, if_neg hfail] at hlast
      have hdone : (netanaTransferPacket pvPktCallback ptSendPkt netanaNoError get ptRecvPkt
          (k + 1)).fDone = true := by
        rw [hlast]
      rw [netanaTransferPacket_done hdone (by omega), hlast]
      exact ⟨rfl, .failed k hk hbefore hfail rfl hcalls⟩
    · rw [transferPacketPass, if_pos hget, if_pos hanswer.1, if_pos hanswer.2] at hlast
      have hdone : (netanaTransferPacket pvPktCallback ptSendPkt netanaNoError get ptRecvPkt
          (k + 1)).fDone = true := by
        rw [hlast]
      rw [netanaTransferPacket_done hdone (by omega), hlast]
      exact ⟨rfl, .answered k hk hbefore hget hanswer rfl rfl hcalls hsearch.passed⟩
  · have hsearch := searching pvPktCallback ptRecvPkt (le_refl 10) hnone
    have hdone := hsearch.going
    rw [netanaTransferPacket_done hdone (by omega)]
    exact ⟨hdone, .timeout hnone (hsearch.lRet (by decide)) hsearch.received hsearch.passed⟩

/-- All packets have been passed on exactly where none has been left out. -/
theorem passed_all_iff (ptSendPkt : PacketHeader) (get : ℕ → GotPacket) (n : ℕ) :
    ((List.range n).filter fun j => sameCommand (get j).ptRecvPkt.tHeader ptSendPkt).map
        (fun j => (get j).ptRecvPkt) = packetsBefore get n ↔ CommandsMatch ptSendPkt get n := by
  constructor
  · intro hsame j hj
    have hlen := congrArg List.length hsame
    rw [packetsBefore, List.length_map, List.length_map, List.length_filter_eq_length_iff] at hlen
    exact hlen j (List.mem_range.mpr hj)
  · intro hmatch
    have hfilter : ((List.range n).filter fun j =>
        sameCommand (get j).ptRecvPkt.tHeader ptSendPkt) = List.range n :=
      List.filter_eq_self.mpr fun j hj => hmatch j (List.mem_range.mp hj)
    rw [hfilter, packetsBefore]

/-- An answer behind packets that are not ends the search at its place. -/
theorem unanswered_of_first {k n : ℕ} (hn : Unanswered ptSendPkt get n)
    (hk : Answers ptSendPkt (get k)) : n ≤ k := by
  by_contra hlt
  exact (hn k (by omega)).2 hk

theorem TransferEnds.law_iff {r : PacketTransfer}
    (h : TransferEnds pvPktCallback ptSendPkt get r) :
    TransferLaw pvPktCallback ptSendPkt get r ↔ NoneDropped pvPktCallback ptSendPkt get := by
  have htimeout : netanaTransferTimeout ≠ netanaNoError := by decide
  cases h with
  | answered k hk hbefore hget hanswer hret hrecv hcalls hpassed =>
    -- no other place ends the search
    have hplace : ∀ k', Unanswered ptSendPkt get k' →
        ((get k').lRet = netanaNoError → Answers ptSendPkt (get k')) → k' = k := by
      intro k' hbefore' hends
      have hle := unanswered_of_first hbefore' hanswer
      rcases Nat.lt_or_ge k' k with hlt | hge
      · obtain ⟨hret', hnot⟩ := hbefore k' hlt
        exact absurd (hends hret') hnot
      · omega
    have hten : ¬ Unanswered ptSendPkt get 10 := fun hnone => (hnone k hk).2 hanswer
    constructor
    · intro hlaw
      cases hcb : pvPktCallback with
      | false => exact Or.inl rfl
      | true =>
        right
        refine ⟨fun k' hk' hbefore' hget' hanswer' => ?_, fun hnone => absurd hnone hten⟩
        have hsame := hplace k' hbefore' fun _ => hanswer'
        rw [hsame]
        have hall := (hlaw.answered k hk hbefore hget hanswer).2.2 hcb
        rw [hpassed, hcb, if_pos rfl] at hall
        exact (passed_all_iff ptSendPkt get k).mp hall
    · intro hnone
      refine ⟨⟨fun _ => ⟨k, hk, ?_, hanswer⟩, fun _ => hret⟩, ?_, fun hall => absurd hall hten, ?_⟩
      · intro j hj
        rcases Nat.lt_or_eq_of_le hj with hlt | heq
        · exact (hbefore j hlt).1
        · rw [heq]
          exact hget
      · intro k' hk' hbefore' hget' hanswer'
        rw [hplace k' hbefore' fun _ => hanswer']
        refine ⟨hrecv, hcalls, fun hcb => ?_⟩
        rcases hnone with hno | ⟨hall, -⟩
        · rw [hcb] at hno
          cases hno
        · rw [hpassed, hcb, if_pos rfl]
          exact (passed_all_iff ptSendPkt get k).mpr (hall k hk hbefore hget hanswer)
      · intro k' hk' hbefore' hfail
        have hsame := hplace k' hbefore' fun hok => absurd hok hfail
        rw [hsame] at hfail
        exact absurd hget hfail
  | failed k hk hbefore hget hret hcalls =>
    have hten : ¬ Unanswered ptSendPkt get 10 := fun hnone => hget (hnone k hk).1
    have hno : ¬ ∃ k' < 10, (∀ j ≤ k', (get j).lRet = netanaNoError) ∧
        Answers ptSendPkt (get k') := by
      rintro ⟨k', -, hok, hanswer⟩
      exact hget (hok k (unanswered_of_first hbefore hanswer))
    -- the failure is at place k, and nothing behind it is looked at
    have hunanswered : ∀ k', Unanswered ptSendPkt get k' → ¬ Answers ptSendPkt (get k') ∨
        (get k').lRet ≠ netanaNoError := by
      intro k' hbefore'
      by_cases hanswer : Answers ptSendPkt (get k')
      · right
        intro hok
        have hle := unanswered_of_first hbefore hanswer
        rcases Nat.lt_or_ge k k' with hlt | hge
        · exact hget (hbefore' k hlt).1
        · have hsame : k' = k := by omega
          rw [hsame] at hok
          exact hget hok
      · exact Or.inl hanswer
    constructor
    · intro _
      right
      refine ⟨fun k' _ hbefore' hget' hanswer' => ?_, fun hnone => absurd hnone hten⟩
      rcases hunanswered k' hbefore' with hnot | hfail
      · exact absurd hanswer' hnot
      · exact absurd hget' hfail
    · intro _
      refine ⟨⟨fun hok => absurd (hret.symm.trans hok) hget, fun hex => absurd hex hno⟩, ?_,
        fun hnone => absurd hnone hten, ?_⟩
      · intro k' _ hbefore' hget' hanswer'
        rcases hunanswered k' hbefore' with hnot | hfail
        · exact absurd hanswer' hnot
        · exact absurd hget' hfail
      · intro k' _ hbefore' hfail'
        have hsame : k' = k := by
          rcases Nat.lt_trichotomy k' k with hlt | heq | hgt
          · exact absurd (hbefore k' hlt).1 hfail'
          · exact heq
          · exact absurd (hbefore' k hgt).1 hget
        rw [hsame]
        exact ⟨hret, hcalls⟩
  | timeout hall hret hcalls hpassed =>
    constructor
    · intro hlaw
      cases hcb : pvPktCallback with
      | false => exact Or.inl rfl
      | true =>
        right
        refine ⟨fun k hk _ _ hanswer => absurd hanswer (hall k hk).2, fun _ => ?_⟩
        have hpass := (hlaw.timeout hall).2.2 hcb
        rw [hpassed, hcb, if_pos rfl] at hpass
        exact (passed_all_iff ptSendPkt get 10).mp hpass
    · intro hnone
      refine ⟨⟨fun hok => absurd (hret.symm.trans hok) htimeout, ?_⟩, ?_, ?_, ?_⟩
      · rintro ⟨k, hk, -, hanswer⟩
        exact absurd hanswer (hall k hk).2
      · intro k hk _ _ hanswer
        exact absurd hanswer (hall k hk).2
      · intro _
        refine ⟨hret, hcalls, fun hcb => ?_⟩
        rcases hnone with hno | ⟨-, hmatch⟩
        · rw [hcb] at hno
          cases hno
        · rw [hpassed, hcb, if_pos rfl]
          exact (passed_all_iff ptSendPkt get 10).mpr (hmatch hall)
      · intro k hk _ hfail
        exact absurd (hall k hk).1 hfail

/-- Ten calls of `netana_get_packet` are enough, and the packets that are not the answer reach the
callback exactly where they have the command of the request. -/
theorem transfer_packet_keeps_others (pvPktCallback : Bool) (ptSendPkt : PacketHeader)
    (get : ℕ → GotPacket) (ptRecvPkt : LibPacket) (n : ℕ) :
    (netanaTransferPacket pvPktCallback ptSendPkt netanaNoError get ptRecvPkt
      (10 + n)).fDone = true ∧
    (TransferLaw pvPktCallback ptSendPkt get
      (netanaTransferPacket pvPktCallback ptSendPkt netanaNoError get ptRecvPkt (10 + n)) ↔
      NoneDropped pvPktCallback ptSendPkt get) := by
  obtain ⟨hdone, hends⟩ := netanaTransferPacket_ends pvPktCallback ptSendPkt get ptRecvPkt n
  exact ⟨hdone, hends.law_iff⟩

/-- A packet with a command of its own, followed by the answer to a request with command 2. -/
def packetWithCommand (ulCmd : BitVec 32) : LibPacket :=
  ⟨{ ulDest := 0#32, ulSrc := 0#32, ulDestId := 0#32, ulSrcId := 0#32, ulLen := 0#32,
     ulId := 0#32, ulSta := 0#32, ulCmd := ulCmd, ulExt := 0#32, ulRout := 0#32 }, []⟩

def indicationThenAnswer (k : ℕ) : GotPacket :=
  if k = 0 then ⟨netanaNoError, packetWithCommand 8#32⟩
  else ⟨netanaNoError, packetWithCommand 3#32⟩

theorem transfer_packet_drops_indication :
    netanaTransferPacket true (packetWithCommand 2#32).tHeader netanaNoError indicationThenAnswer
        (packetWithCommand 0#32) 10 =
      ⟨netanaNoError, 1, packetWithCommand 3#32, true, 2, []⟩ ∧
    ¬ ∀ (pvPktCallback : Bool) (ptSendPkt : PacketHeader) (get : ℕ → GotPacket)
      (ptRecvPkt : LibPacket), TransferLaw pvPktCallback ptSendPkt get
        (netanaTransferPacket pvPktCallback ptSendPkt netanaNoError get ptRecvPkt 10) := by
  have hrun : netanaTransferPacket true (packetWithCommand 2#32).tHeader netanaNoError
      indicationThenAnswer (packetWithCommand 0#32) 10 =
      ⟨netanaNoError, 1, packetWithCommand 3#32, true, 2, []⟩ := by decide
  refine ⟨hrun, fun hall => ?_⟩
  have hlaw := hall true (packetWithCommand 2#32).tHeader indicationThenAnswer
    (packetWithCommand 0#32)
  have hfirst : Unanswered (packetWithCommand 2#32).tHeader indicationThenAnswer 1 := by
    intro j hj
    have hzero : j = 0 := by omega
    subst hzero
    refine ⟨rfl, fun hanswer => ?_⟩
    exact absurd hanswer.1 (by decide)
  have hpassed := (hlaw.answered 1 (by decide) hfirst rfl ⟨by decide, by decide⟩).2.2 rfl
  rw [hrun] at hpassed
  exact absurd hpassed (by decide)

end NetanaDriver
