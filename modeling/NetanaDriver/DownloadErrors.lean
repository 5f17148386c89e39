import NetanaDriver.DownloadRun

/-! A download whose transfers may fail: how many packets `DownloadFile` sends, what it returns,
and that it ends with one abort request after the first failure. -/
namespace NetanaDriver
open FileBlocks

/-- What a transfer ends the download with: the error of the driver, the status of the device, or
the error for a block size of zero in the answer to the request. -/
def transferCode (packet : DownloadPacket) (r : TransferResult) : BitVec 32 :=
  if r.lRet ≠ 0#32 then r.lRet
  else if r.ulSta ≠ 0#32 then r.ulSta
  else if packet.tHead.ulCmd = DownloadCmd.downloadReq.ulCmd ∧ r.ulMaxBlockSize = 0#32 then
    netanaDownloadFailed
  else 0#32

/-- No transfer ends the download, each one after those before it. -/
def AllSucceed (pfnTransferPacket : Transfer) (sent : List DownloadPacket) : Prop :=
  ∀ i packet, sent[i]? = some packet →
    transferCode packet (pfnTransferPacket (sent.take i) packet) = 0#32

/-- The packets of a whole download. -/
def downloadPackets (p : DownloadParams) (pfnTransferPacket : Transfer) (req : DownloadPacket) :
    List DownloadPacket :=
  req :: (List.range (blockCount (blockSize pfnTransferPacket req) p.pvFile.length)).map
    (blockPacket p.pvFile (blockSize pfnTransferPacket req))

/-- The packets end with the one that failed first and the abort request. -/
structure AbortsOnce (pfnTransferPacket : Transfer) (r : DownloadResult)
    (before : List DownloadPacket) (failed abort : DownloadPacket) : Prop where
  sent : r.sent = before ++ [failed, abort]
  earlier : AllSucceed pfnTransferPacket before
  code : r.lRet = transferCode failed (pfnTransferPacket before failed)
  nonzero : r.lRet ≠ 0#32
  abortReq : abort.tHead.ulCmd = DownloadCmd.abortReq.ulCmd
  onlyAbort : ∀ packet ∈ before ++ [failed], packet.tHead.ulCmd ≠ DownloadCmd.abortReq.ulCmd

theorem transferCode_eq_zero_iff (packet : DownloadPacket) (r : TransferResult) :
    transferCode packet r = 0#32 ↔ r.Succeeded ∧
      (packet.tHead.ulCmd = DownloadCmd.downloadReq.ulCmd → r.ulMaxBlockSize ≠ 0#32) := by
  unfold transferCode TransferResult.Succeeded
  by_cases hret : r.lRet = 0#32
  · by_cases hsta : r.ulSta = 0#32
    · rw [if_neg (not_not.mpr hret), if_neg (not_not.mpr hsta)]
      by_cases hsize :
          packet.tHead.ulCmd = DownloadCmd.downloadReq.ulCmd ∧ r.ulMaxBlockSize = 0#32
      · rw [if_pos hsize]
        constructor
        · intro hcode
          exact absurd hcode (by decide)
        · intro hall
          exact absurd hsize.2 (hall.2 hsize.1)
      · rw [if_neg hsize]
        exact ⟨fun _ => ⟨⟨hret, hsta⟩, fun hcmd hzero => hsize ⟨hcmd, hzero⟩⟩, fun _ => rfl⟩
    · rw [if_neg (not_not.mpr hret), if_pos hsta]
      exact ⟨fun hzero => absurd hzero hsta, fun hall => hall.1.2⟩
  · rw [if_pos hret]
    exact ⟨fun hzero => absurd hzero hret, fun hall => hall.1.1⟩

theorem AllSucceed.append {pfnTransferPacket : Transfer} {sent : List DownloadPacket}
    (h : AllSucceed pfnTransferPacket sent) {packet : DownloadPacket}
    (hok : transferCode packet (pfnTransferPacket sent packet) = 0#32) :
    AllSucceed pfnTransferPacket (sent ++ [packet]) := by
  intro i q hq
  -- a packet is judged by those before it, which are the same in the longer list
  rcases Nat.lt_trichotomy i sent.length with hi | hi | hi
  · rw [List.getElem?_append_left hi] at hq
    rw [List.take_append_of_le_length hi.le]
    exact h i q hq
  · rw [hi, List.getElem?_concat_length] at hq
    cases hq
    rw [hi, List.take_left]
    exact hok
  · have hlen : (sent ++ [packet]).length ≤ i := by
      rw [List.length_append, List.length_singleton]
      omega
    rw [List.getElem?_eq_none hlen] at hq
    cases hq

theorem AllSucceed.of_prefix {pfnTransferPacket : Transfer} {all sent : List DownloadPacket}
    (h : AllSucceed pfnTransferPacket all) (hbegins : sent <+: all) :
    AllSucceed pfnTransferPacket sent := by
  obtain ⟨rest, rfl⟩ := hbegins
  intro i packet hpacket
  obtain ⟨hi, -⟩ := List.getElem?_eq_some_iff.mp hpacket
  have hsame := h i packet (by rw [List.getElem?_append_left hi, hpacket])
  rwa [List.take_append_of_le_length hi.le] at hsame

/-- The last of several packets that succeed. -/
theorem AllSucceed.last {pfnTransferPacket : Transfer} {before : List DownloadPacket}
    {packet : DownloadPacket} (h : AllSucceed pfnTransferPacket (before ++ [packet])) :
    transferCode packet (pfnTransferPacket before packet) = 0#32 := by
  have hcode := h before.length packet List.getElem?_concat_length
  rwa [List.take_left] at hcode

theorem allSucceed_nil (pfnTransferPacket : Transfer) : AllSucceed pfnTransferPacket [] := by
  intro i packet h
  cases h

/-- The abort request. -/
def abortPacket (ulId : BitVec 32) : DownloadPacket :=
  ⟨{ ulDest := rcxPacketDestSystem
     ulSrc := 0#32
     ulDestId := 0#32
     ulSrcId := 0#32
     ulLen := 0#32
     ulId := ulId
     ulSta := 0#32
     ulCmd := DownloadCmd.abortReq.ulCmd
     ulExt := seqNone
     ulRout := 0#32 }, .abort⟩

/-- The loop is about to send the abort request. -/
structure AtAbort (pfnTransferPacket : Transfer) (before : List DownloadPacket)
    (failed : DownloadPacket) (s : DownloadState) : Prop where
  state : s.ulState = .abortReq
  going : s.fStopDownload = false
  sent : s.sent = before ++ [failed]
  earlier : AllSucceed pfnTransferPacket before
  code : s.lRet = transferCode failed (pfnTransferPacket before failed)
  nonzero : s.lRet ≠ 0#32
  noAbort : ∀ packet ∈ before ++ [failed],
    packet.tHead.ulCmd ≠ DownloadCmd.abortReq.ulCmd

/-- The pass that sends the abort request is the last one, whatever comes of it. -/
theorem AtAbort.pass {pfnTransferPacket : Transfer} {before : List DownloadPacket}
    {failed : DownloadPacket} {s : DownloadState} (p : DownloadParams)
    (h : AtAbort pfnTransferPacket before failed s) :
    ∃ abort, abort.tHead.ulCmd = DownloadCmd.abortReq.ulCmd ∧
      (downloadPass p pfnTransferPacket s).fStopDownload = true ∧
      (downloadPass p pfnTransferPacket s).lRet = s.lRet ∧
      (downloadPass p pfnTransferPacket s).sent = before ++ [failed, abort] := by
  have hcase : downloadPass p pfnTransferPacket s = downloadAbortReq pfnTransferPacket s := by
    rw [downloadPass, h.state]
  rw [hcase]
  -- the result of the abort goes to lRetAbort, and lRet stays
  refine ⟨abortPacket (s.ulCurrentId + 1#32), rfl, rfl, rfl, ?_⟩
  have hsent : (downloadAbortReq pfnTransferPacket s).sent =
      s.sent ++ [abortPacket (s.ulCurrentId + 1#32)] := rfl
  rw [hsent, h.sent, List.append_assoc]
  rfl

/-- How the loop ends: all packets of the download have been sent and every transfer has succeeded,
or the transfer of one of them has failed and the abort request has been sent after it. At most `n`
packets have been sent. -/
inductive LoopEnds (pfnTransferPacket : Transfer) (n : ℕ) (all : List DownloadPacket)
    (t : DownloadState) : Prop where
  | done (hsent : t.sent.length ≤ n) (hret : t.lRet = 0#32) (hnoAbort : t.lRetAbort = 0#32)
      (hwhole : t.sent = all) (hall : AllSucceed pfnTransferPacket all)
  | aborted (before : List DownloadPacket) (failed abort : DownloadPacket)
      (hsent : t.sent.length ≤ n) (hbegins : before ++ [failed] <+: all)
      (h : AbortsOnce pfnTransferPacket ⟨t.lRet, t.sent⟩ before failed abort)

section Ends
variable {pfnTransferPacket : Transfer} {n : ℕ} {all : List DownloadPacket} {t : DownloadState}

theorem LoopEnds.of_le {m : ℕ} (h : LoopEnds pfnTransferPacket n all t) (hm : n ≤ m) :
    LoopEnds pfnTransferPacket m all t := by
  cases h with
  | done hsent hret hnoAbort hwhole hall => exact .done (hsent.trans hm) hret hnoAbort hwhole hall
  | aborted before failed abort hsent hbegins hone =>
    exact .aborted before failed abort (hsent.trans hm) hbegins hone

/-- What the loop has ended with is what `DownloadFile` returns. -/
theorem LoopEnds.ret (h : LoopEnds pfnTransferPacket n all t) :
    (if t.lRet ≠ 0#32 then t.lRet else t.lRetAbort) = t.lRet := by
  cases h with
  | done hsent hret hnoAbort hwhole hall => rw [if_neg (not_not.mpr hret), hret, hnoAbort]
  | aborted before failed abort hsent hbegins hone => exact if_pos hone.nonzero

/-- It has ended without an error exactly when no packet of the download fails. -/
theorem LoopEnds.lRet_iff (h : LoopEnds pfnTransferPacket n all t) :
    t.lRet = 0#32 ↔ AllSucceed pfnTransferPacket all := by
  cases h with
  | done hsent hret hnoAbort hwhole hall => exact ⟨fun _ => hall, fun _ => hret⟩
  | aborted before failed abort hsent hbegins hone =>
    refine ⟨fun hzero => absurd hzero hone.nonzero, fun hall => ?_⟩
    have hcode := (hall.of_prefix hbegins).last
    exact hone.code.trans hcode

/-- The same of the packets that have been sent. -/
theorem LoopEnds.lRet_iff_sent (h : LoopEnds pfnTransferPacket n all t) :
    t.lRet = 0#32 ↔ AllSucceed pfnTransferPacket t.sent := by
  cases h with
  | done hsent hret hnoAbort hwhole hall =>
    rw [hwhole]
    exact ⟨fun _ => hall, fun _ => hret⟩
  | aborted before failed abort hsent hbegins hone =>
    refine ⟨fun hzero => absurd hzero hone.nonzero, fun hall => ?_⟩
    -- the failed packet is among those sent
    have hbegins' : before ++ [failed] <+: t.sent := by
      have hsent' : t.sent = before ++ [failed, abort] := hone.sent
      exact ⟨[abort], by rw [hsent', List.append_assoc]; rfl⟩
    exact hone.code.trans (hall.of_prefix hbegins').last

end Ends

/-- From an abort request on, one pass is enough. -/
theorem AtAbort.loop {pfnTransferPacket : Transfer} {before all : List DownloadPacket}
    {failed : DownloadPacket} {s : DownloadState} (p : DownloadParams)
    (h : AtAbort pfnTransferPacket before failed s) (hbegins : before ++ [failed] <+: all)
    (fuel : ℕ) : ∃ t, downloadLoop p pfnTransferPacket (fuel + 1) s = some t ∧
      LoopEnds pfnTransferPacket (s.sent.length + 1) all t := by
  obtain ⟨abort, hcmd, hstop, hret, hsent⟩ := h.pass p
  refine ⟨downloadPass p pfnTransferPacket s, ?_, .aborted before failed abort ?_ hbegins ?_⟩
  · exact downloadLoop_stops hstop fuel
  · rw [hsent, h.sent, List.length_append, List.length_append]
    exact le_refl _
  · exact ⟨hsent, h.earlier, hret.trans h.code, fun hzero => h.nonzero (hret.symm.trans hzero),
      hcmd, h.noAbort⟩

/-- No block is an abort request. -/
theorem AtBlock.noAbort_sent {p : DownloadParams} {b k : ℕ} {req : DownloadPacket}
    {s : DownloadState} (h : AtBlock p b req k s)
    (hreq : req.tHead.ulCmd = DownloadCmd.downloadReq.ulCmd) :
    ∀ packet ∈ s.sent ++ [blockPacket p.pvFile b k],
      packet.tHead.ulCmd ≠ DownloadCmd.abortReq.ulCmd := by
  have hrequest : DownloadCmd.downloadReq.ulCmd ≠ DownloadCmd.abortReq.ulCmd := by decide
  have hdata : DownloadCmd.dataReq.ulCmd ≠ DownloadCmd.abortReq.ulCmd := by decide
  intro packet hmem
  rw [h.sent_succ] at hmem
  rcases List.mem_cons.mp hmem with hfirst | hblock
  · rw [hfirst, hreq]
    exact hrequest
  · obtain ⟨i, -, rfl⟩ := List.mem_map.mp hblock
    exact hdata

/-- A block whose transfer fails is followed by the abort request. -/
theorem AtBlock.fail {p : DownloadParams} {b k : ℕ} {req : DownloadPacket} {s : DownloadState}
    {pfnTransferPacket : Transfer} (h : AtBlock p b req k s) (hp : FileParams p) (hb76 : b ≤ 76)
    (hreq : req.tHead.ulCmd = DownloadCmd.downloadReq.ulCmd)
    (hall : AllSucceed pfnTransferPacket s.sent)
    (hfail : ¬ (pfnTransferPacket s.sent (blockPacket p.pvFile b k)).Succeeded) :
    AtAbort pfnTransferPacket s.sent (blockPacket p.pvFile b k)
      (downloadPass p pfnTransferPacket s) := by
  obtain ⟨t, rfl, hpass⟩ := h.transfer_eq hp hb76 pfnTransferPacket
  have hclean := h.noAbort_sent hreq
  rw [hpass]
  by_cases hret : (pfnTransferPacket s.sent (blockPacket p.pvFile b k)).lRet = 0#32
  · have hsta : (pfnTransferPacket s.sent (blockPacket p.pvFile b k)).ulSta ≠ 0#32 :=
      fun hzero => hfail ⟨hret, hzero⟩
    rw [if_neg (not_not.mpr hret), if_pos hsta]
    refine ⟨rfl, h.going, rfl, hall, ?_, hsta, hclean⟩
    rw [transferCode, if_neg (not_not.mpr hret), if_pos hsta]
  · rw [if_pos hret]
    refine ⟨rfl, h.going, rfl, hall, ?_, hret, hclean⟩
    rw [transferCode, if_pos hret]

/-- A block whose transfer succeeds has not failed the download. -/
theorem transferCode_blockPacket (file : List (BitVec 8)) (b k : ℕ) {r : TransferResult}
    (hok : r.Succeeded) : transferCode (blockPacket file b k) r = 0#32 := by
  rw [transferCode_eq_zero_iff]
  refine ⟨hok, fun hcmd => ?_⟩
  have hdata : (blockPacket file b k).tHead.ulCmd = DownloadCmd.dataReq.ulCmd := rfl
  rw [hdata] at hcmd
  exact absurd hcmd (by decide)

theorem length_blockPackets (req : DownloadPacket) (file : List (BitVec 8)) (b k : ℕ) :
    (req :: (List.range k).map (blockPacket file b)).length = k + 1 := by
  rw [List.length_cons, List.length_map, List.length_range]

/-- From block `k` on, with any outcome of the transfers. -/
theorem AtBlock.loopEnds {p : DownloadParams} {b : ℕ} {req : DownloadPacket}
    {pfnTransferPacket : Transfer} (hp : FileParams p) (hb : 0 < b) (hb76 : b ≤ 76)
    (hreq : req.tHead.ulCmd = DownloadCmd.downloadReq.ulCmd) (fuel : ℕ) {k : ℕ}
    {s : DownloadState} (h : AtBlock p b req k s) (hall : AllSucceed pfnTransferPacket s.sent)
    (hfuel : blockCount b p.pvFile.length + 1 ≤ k + fuel) :
    ∃ t, downloadLoop p pfnTransferPacket fuel s = some t ∧
      LoopEnds pfnTransferPacket (blockCount b p.pvFile.length + 2)
        (req :: (List.range (blockCount b p.pvFile.length)).map (blockPacket p.pvFile b)) t := by
  have hin := h.inRange
  have hlen : s.sent.length = k + 1 := by
    rw [h.sent, length_blockPackets]
  induction fuel generalizing k s with
  | zero => omega
  | succ fuel ih =>
    by_cases hok : (pfnTransferPacket s.sent (blockPacket p.pvFile b k)).Succeeded
    · have hall' := hall.append (transferCode_blockPacket p.pvFile b k hok)
      rw [h.sent_succ] at hall'
      by_cases hk : k + 1 = blockCount b p.pvFile.length
      · -- the last block
        have hdone := h.last hp hok hb hb76 hk
        have hsent := hdone.sent
        rw [hk] at hall'
        refine ⟨downloadPass p pfnTransferPacket s, ?_,
          .done ?_ hdone.lRet hdone.noAbort hsent hall'⟩
        · exact downloadLoop_stops hdone.stop fuel
        · rw [hsent, length_blockPackets]
          omega
      · have hnext := h.next hp hok hb hb76 hk
        have hsent := hnext.sent
        have hlen' : (downloadPass p pfnTransferPacket s).sent.length = k + 1 + 1 := by
          rw [hsent, length_blockPackets]
        obtain ⟨t, ht, hends⟩ := ih hnext (hsent ▸ hall') (by omega) hnext.inRange hlen'
        exact ⟨t, (downloadLoop_goes hnext.going fuel).trans ht, hends⟩
    · -- the failure, and the abort after it
      have habort := h.fail hp hb76 hreq hall hok
      obtain ⟨n, rfl⟩ : ∃ n, fuel = n + 1 := ⟨fuel - 1, by omega⟩
      have hbegins : s.sent ++ [blockPacket p.pvFile b k] <+:
          req :: (List.range (blockCount b p.pvFile.length)).map (blockPacket p.pvFile b) := by
        have hrange := List.take_prefix (k + 1) (List.range (blockCount b p.pvFile.length))
        rw [List.take_range, Nat.min_eq_left (Nat.succ_le_of_lt hin)] at hrange
        rw [h.sent_succ, List.cons_prefix_cons]
        exact ⟨rfl, List.IsPrefix.map _ hrange⟩
      obtain ⟨t, ht, hends⟩ := habort.loop p hbegins n
      refine ⟨t, (downloadLoop_goes habort.going _).trans ht, hends.of_le ?_⟩
      rw [habort.sent, List.length_append, hlen, List.length_singleton]
      omega

/-- What a request that fails leaves. -/
theorem downloadReq_fail (p : DownloadParams) (pfnTransferPacket : Transfer) (s : DownloadState)
    (hfail : transferCode (requestPacket p s)
      (pfnTransferPacket s.sent (requestPacket p s)) ≠ 0#32) :
    (downloadReq p pfnTransferPacket s).ulState = .abortReq ∧
      (downloadReq p pfnTransferPacket s).fStopDownload = s.fStopDownload ∧
      (downloadReq p pfnTransferPacket s).sent = s.sent ++ [requestPacket p s] ∧
      (downloadReq p pfnTransferPacket s).lRet = transferCode (requestPacket p s)
        (pfnTransferPacket s.sent (requestPacket p s)) := by
  have hcmd : (requestPacket p s).tHead.ulCmd = DownloadCmd.downloadReq.ulCmd := rfl
  rw [transferCode] at hfail ⊢
  rw [downloadReq]
  dsimp only
  generalize pfnTransferPacket s.sent (requestPacket p s) = r at hfail ⊢
  by_cases hret : r.lRet ≠ 0#32
  · rw [if_pos hret, if_pos hret]
    exact ⟨rfl, rfl, rfl, rfl⟩
  · rw [if_neg hret] at hfail ⊢
    rw [if_neg hret]
    by_cases hsta : r.ulSta ≠ 0#32
    · rw [if_pos hsta, if_pos hsta]
      exact ⟨rfl, rfl, rfl, rfl⟩
    · rw [if_neg hsta] at hfail ⊢
      rw [if_neg hsta]
      by_cases hsize : r.ulMaxBlockSize = 0#32
      · rw [if_pos hsize, if_pos ⟨hcmd, hsize⟩]
        exact ⟨rfl, rfl, rfl, rfl⟩
      · rw [if_neg fun hboth => hsize hboth.2] at hfail
        exact absurd rfl hfail

/-- A request that fails is followed by the abort request. -/
theorem request_fail {p : DownloadParams} {pfnTransferPacket : Transfer} (tHead : PacketHeader)
    {req : DownloadPacket} (hreq : requestPacket p (downloadInit p tHead) = req)
    (hfail : transferCode req (pfnTransferPacket [] req) ≠ 0#32) :
    AtAbort pfnTransferPacket [] req
      (downloadPass p pfnTransferPacket (downloadInit p tHead)) := by
  subst hreq
  obtain ⟨hstate, hgoing, hsent, hret⟩ :=
    downloadReq_fail p pfnTransferPacket (downloadInit p tHead) hfail
  refine ⟨hstate, hgoing, hsent, allSucceed_nil pfnTransferPacket, hret, ?_, ?_⟩
  · intro hzero
    exact hfail (hret.symm.trans hzero)
  · have hrequest : DownloadCmd.downloadReq.ulCmd ≠ DownloadCmd.abortReq.ulCmd := by decide
    intro packet hmem
    rw [List.mem_singleton.mp hmem]
    exact hrequest

/-- More passes than enough make no difference. -/
theorem downloadLoop_mono (p : DownloadParams) (pfnTransferPacket : Transfer) {n : ℕ}
    {s t : DownloadState} (h : downloadLoop p pfnTransferPacket n s = some t) {fuel : ℕ}
    (hfuel : n ≤ fuel) : downloadLoop p pfnTransferPacket fuel s = some t := by
  induction n generalizing s fuel with
  | zero => cases h
  | succ n ih =>
    obtain ⟨m, rfl⟩ : ∃ m, fuel = m + 1 := ⟨fuel - 1, by omega⟩
    by_cases hstop : (downloadPass p pfnTransferPacket s).fStopDownload = true
    · rw [downloadLoop_stops hstop] at h ⊢
      exact h
    · have hgoes := eq_false_of_ne_true hstop
      rw [downloadLoop_goes hgoes] at h ⊢
      exact ih h (by omega)

/-- The whole loop, with as many passes as there are blocks and two more. -/
theorem downloadLoop_ends {p : DownloadParams} (tHead : PacketHeader)
    (pfnTransferPacket : Transfer) (hp : FileParams p) {req : DownloadPacket}
    (hreq : requestPacket p (downloadInit p tHead) = req) {n : ℕ}
    (hn : (p.pvFile.length + blockSize pfnTransferPacket req - 1) /
      blockSize pfnTransferPacket req + 3 = n) :
    ∃ t, downloadLoop p pfnTransferPacket n (downloadInit p tHead) = some t ∧
      LoopEnds pfnTransferPacket n (downloadPackets p pfnTransferPacket req) t := by
  have hcmd : req.tHead.ulCmd = DownloadCmd.downloadReq.ulCmd := by
    rw [← hreq]
    rfl
  have hthree : 3 ≤ n := hn ▸ Nat.le_add_left 3 _
  obtain ⟨m, rfl⟩ : ∃ m, n = m + 2 := ⟨n - 2, by omega⟩
  -- the first pass sends the request, and its answer tells the block size
  by_cases hcode : transferCode req (pfnTransferPacket [] req) = 0#32
  · obtain ⟨hok, hsize⟩ := (transferCode_eq_zero_iff _ _).mp hcode
    have hne := hsize hcmd
    have hpos := blockSize_pos hne
    have hcount := blockCount_le_ceil hpos p.pvFile.length
    have hstart := atBlock_zero tHead hp hreq hok hne
    have hall : AllSucceed pfnTransferPacket
        (downloadPass p pfnTransferPacket (downloadInit p tHead)).sent := by
      rw [hstart.sent]
      exact (allSucceed_nil pfnTransferPacket).append hcode
    obtain ⟨t, ht, hends⟩ := hstart.loopEnds hp hpos (min_le_left _ _) hcmd (m + 1) hall
      (by omega)
    exact ⟨t, (downloadLoop_goes hstart.going _).trans ht, hends.of_le (by omega)⟩
  · have habort := request_fail tHead hreq hcode
    have hbegins : [] ++ [req] <+: downloadPackets p pfnTransferPacket req := ⟨_, rfl⟩
    obtain ⟨t, ht, hends⟩ := habort.loop p hbegins m
    have hlen : (downloadPass p pfnTransferPacket (downloadInit p tHead)).sent.length = 1 := by
      rw [habort.sent]
      rfl
    exact ⟨t, (downloadLoop_goes habort.going _).trans ht, hends.of_le (by omega)⟩

/-- A download ends after at most as many packets as there are blocks and three more. It ends
without an error exactly when no transfer fails, and has then sent the request and every block of
the file; otherwise it ends with the code of the first failure among them and one abort request
after it. -/
theorem download_error_path (p : DownloadParams) (tHead : PacketHeader)
    (pfnTransferPacket : Transfer) (hp : FileParams p) :
    ∃ req r, req = requestPacket p (downloadInit p tHead) ∧
      (∀ fuel, (p.pvFile.length + blockSize pfnTransferPacket req - 1) /
          blockSize pfnTransferPacket req + 3 ≤ fuel →
        downloadFile fuel p tHead pfnTransferPacket = some r) ∧
      r.sent.length ≤ (p.pvFile.length + blockSize pfnTransferPacket req - 1) /
        blockSize pfnTransferPacket req + 3 ∧
      (r.lRet = 0#32 ↔ AllSucceed pfnTransferPacket r.sent) ∧
      (r.lRet = 0#32 ↔ AllSucceed pfnTransferPacket (downloadPackets p pfnTransferPacket req)) ∧
      (r.lRet = 0#32 → r.sent = downloadPackets p pfnTransferPacket req) ∧
      (r.lRet ≠ 0#32 → ∃ before failed abort,
        AbortsOnce pfnTransferPacket r before failed abort ∧
          before ++ [failed] <+: downloadPackets p pfnTransferPacket req) := by
  obtain ⟨t, ht, hends⟩ := downloadLoop_ends tHead pfnTransferPacket hp rfl rfl
  refine ⟨_, ⟨t.lRet, t.sent⟩, rfl, ?_, ?_, hends.lRet_iff_sent, hends.lRet_iff, ?_, ?_⟩
  · intro fuel hfuel
    rw [downloadFile, downloadLoop_mono p pfnTransferPacket ht hfuel, Option.map_some, hends.ret]
  · cases hends with
    | done hsent _ _ _ _ => exact hsent
    | aborted _ _ _ hsent _ _ => exact hsent
  · intro hzero
    cases hends with
    | done _ _ _ hwhole _ => exact hwhole
    | aborted _ _ _ _ _ hone => exact absurd hzero hone.nonzero
  · intro hne
    cases hends with
    | done _ hret _ _ _ => exact absurd hret hne
    | aborted before failed abort _ hbegins hone => exact ⟨before, failed, abort, hone, hbegins⟩

/-- A device that takes four bytes at a time and reports an error for the second block. -/
def refuseSecondBlock : Transfer := fun sent _ =>
  if sent.length = 2 then ⟨0#32, 5#32, 4#32⟩ else ⟨0#32, 0#32, 4#32⟩

theorem download_error_path_nine : ∃ r,
    downloadFile 6 nineBytes uncleared refuseSecondBlock = some r ∧ r.sent.length ≤ 6 ∧
      (r.lRet = 0#32 ↔ AllSucceed refuseSecondBlock r.sent) ∧
      (r.lRet ≠ 0#32 → ∃ before failed abort,
        AbortsOnce refuseSecondBlock r before failed abort ∧
          before ++ [failed] <+: downloadPackets nineBytes refuseSecondBlock
            (requestPacket nineBytes (downloadInit nineBytes uncleared))) := by
  obtain ⟨req, r, rfl, hrun, hlen, hok, -, -, habort⟩ := download_error_path nineBytes uncleared
    refuseSecondBlock ⟨rfl, by decide, rfl⟩
  exact ⟨r, hrun 6 (by decide), hlen, hok, habort⟩

end NetanaDriver
