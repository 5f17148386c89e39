import NetanaDriver.FirmwareDownload
import NetanaDriver.FileBlocks

/-! A download that the device acknowledges: what `DownloadFile` sends is the file, block by
block. -/
namespace NetanaDriver
open FileBlocks

/-- The sequence flag of a block. -/
def seqFlag : Place → BitVec 32
  | .only => seqNone
  | .first => seqFirst
  | .middle => seqMiddle
  | .last => seqLast

/-- The packet with block `k` of the file. -/
def blockPacket (file : List (BitVec 8)) (b k : ℕ) : DownloadPacket :=
  ⟨{ ulDest := rcxPacketDestSystem
     ulSrc := 0#32
     ulDestId := 0#32
     ulSrcId := 0#32
     ulLen := BitVec.ofNat 32 (dataReqDataSize + (block b file k).length)
     ulId := BitVec.ofNat 32 (k + 2)
     ulSta := 0#32
     ulCmd := DownloadCmd.dataReq.ulCmd
     ulExt := seqFlag (place b file.length k)
     ulRout := 0#32 },
    .block (BitVec.ofNat 32 k) (crc32 (file.take ((k + 1) * b))) (block b file k)⟩

/-- The device acknowledges every packet, and names a block size in the first answer. -/
structure Acknowledges (pfnTransferPacket : Transfer) : Prop where
  lRet : ∀ sent packet, (pfnTransferPacket sent packet).lRet = 0#32
  ulSta : ∀ sent packet, (pfnTransferPacket sent packet).ulSta = 0#32
  blockSize : ∀ sent packet, packet.tHead.ulCmd = DownloadCmd.downloadReq.ulCmd →
    (pfnTransferPacket sent packet).ulMaxBlockSize ≠ 0#32

/-- The driver has transferred the packet, and the device reports no error. -/
def TransferResult.Succeeded (r : TransferResult) : Prop := r.lRet = 0#32 ∧ r.ulSta = 0#32

theorem Acknowledges.succeeded {pfnTransferPacket : Transfer} (ha : Acknowledges pfnTransferPacket)
    (sent : List DownloadPacket) (packet : DownloadPacket) :
    (pfnTransferPacket sent packet).Succeeded :=
  ⟨ha.lRet sent packet, ha.ulSta sent packet⟩

/-- The caller passes the whole of a buffer that it has allocated in one piece, and the size of
the system mailbox. -/
structure FileParams (p : DownloadParams) : Prop where
  length : p.ulFileLength = BitVec.ofNat 64 p.pvFile.length
  bound : p.pvFile.length + 76 < 2 ^ 32
  mailbox : p.ulMailboxSize = 124#64

/-- The loop is about to send block `k`. -/
structure AtBlock (p : DownloadParams) (b : ℕ) (req : DownloadPacket) (k : ℕ)
    (s : DownloadState) : Prop where
  inRange : k < blockCount b p.pvFile.length
  state : s.ulState = .dataReq
  going : s.fStopDownload = false
  head : s.tHead.ulDestId = 0#32 ∧ s.tHead.ulSrcId = 0#32 ∧ s.tHead.ulSta = 0#32 ∧
    s.tHead.ulRout = 0#32
  sendLen : s.ulSendLen = BitVec.ofNat 32 (block b p.pvFile k).length
  transfered : s.ulTransferedLength = BitVec.ofNat 32 (k * b)
  offset : s.ulCurrentOffset = BitVec.ofNat 32 (k * b)
  crc : s.ulCRC = crc32 (p.pvFile.take (k * b))
  number : s.ulBlockNumber = BitVec.ofNat 32 k
  id : s.ulCurrentId = BitVec.ofNat 32 (k + 1)
  flag : s.ulCmdDataState = seqFlag (place b p.pvFile.length k)
  noAbort : s.lRetAbort = 0#32
  sent : s.sent = req :: (List.range k).map (blockPacket p.pvFile b)

/-- All blocks have been sent. -/
structure DownloadDone (p : DownloadParams) (b : ℕ) (req : DownloadPacket)
    (s : DownloadState) : Prop where
  stop : s.fStopDownload = true
  lRet : s.lRet = 0#32
  noAbort : s.lRetAbort = 0#32
  sent : s.sent = req :: (List.range (blockCount b p.pvFile.length)).map
    (blockPacket p.pvFile b)

/-- Blocks that have been sent completely lie inside the file. -/
theorem mul_le_of_lt_blockCount {b n k : ℕ} (h : k < blockCount b n) : k * b ≤ n := by
  cases k with
  | zero => omega
  | succ k => exact (lt_of_succ_lt_blockCount h).le

/-- The flag tells whether this is the last packet. -/
theorem seqFlag_final {b n k : ℕ} (hb : 0 < b) (hk : k < blockCount b n) :
    (seqFlag (place b n k) = seqLast ∨ seqFlag (place b n k) = seqNone) ↔
      k + 1 = blockCount b n := by
  rw [← le_succ_mul_iff hb hk]
  unfold place
  by_cases hn : n ≤ b
  · have hle : n ≤ (k + 1) * b := by
      rw [Nat.succ_mul]
      omega
    rw [if_pos hn]
    simp [seqFlag, hle]
  · rw [if_neg hn]
    by_cases hk0 : k = 0
    · rw [if_pos hk0, hk0]
      simp [seqFlag, seqFirst, seqLast, seqNone, hn]
    · rw [if_neg hk0]
      by_cases hle : n ≤ (k + 1) * b
      · rw [if_pos hle]
        simp [seqFlag, hle]
      · rw [if_neg hle]
        simp [seqFlag, seqMiddle, seqLast, seqNone, hle]

/-- The packet that a pass sends, and what becomes of the running values. -/
theorem AtBlock.packet {p : DownloadParams} {b k : ℕ} {req : DownloadPacket}
    {s : DownloadState} (h : AtBlock p b req k s) (hp : FileParams p) (hb76 : b ≤ 76) :
    (p.pvFile.drop s.ulCurrentOffset.toNat).take s.ulSendLen.toNat = block b p.pvFile k ∧
    createCRC32 s.ulCRC (block b p.pvFile k) = crc32 (p.pvFile.take ((k + 1) * b)) ∧
    BitVec.ofNat 32 dataReqDataSize + s.ulSendLen =
      BitVec.ofNat 32 (dataReqDataSize + (block b p.pvFile k).length) ∧
    s.ulCurrentId + 1#32 = BitVec.ofNat 32 (k + 2) := by
  have hbound := hp.bound
  have hoff := mul_le_of_lt_blockCount h.inRange
  have hlen := length_block b p.pvFile k
  refine ⟨?_, ?_, ?_, ?_⟩
  · rw [h.offset, h.sendLen, BitVec.toNat_ofNat, BitVec.toNat_ofNat,
      Nat.mod_eq_of_lt (by omega), Nat.mod_eq_of_lt (by omega), hlen, block]
    rw [← List.length_drop, ← List.take_eq_take_min]
  · rw [h.crc, createCRC32_crc32, ← take_succ_mul]
  · rw [h.sendLen, BitVec.ofNat_add]
  · rw [h.id, ← BitVec.ofNat_add]

/-- The pass that sends block `k`, with any outcome of the transfer. -/
theorem AtBlock.transfer_eq {p : DownloadParams} {b k : ℕ} {req : DownloadPacket}
    {s : DownloadState} (h : AtBlock p b req k s) (hp : FileParams p) (hb76 : b ≤ 76)
    (pfnTransferPacket : Transfer) :
    ∃ t : DownloadState, t = { s with
        tHead := (blockPacket p.pvFile b k).tHead
        ulCurrentId := BitVec.ofNat 32 (k + 2)
        ulCRC := crc32 (p.pvFile.take ((k + 1) * b))
        ulBlockNumber := BitVec.ofNat 32 (k + 1)
        sent := s.sent ++ [blockPacket p.pvFile b k] } ∧
      downloadPass p pfnTransferPacket s =
        if (pfnTransferPacket s.sent (blockPacket p.pvFile b k)).lRet ≠ 0#32 then
          { t with
            lRet := (pfnTransferPacket s.sent (blockPacket p.pvFile b k)).lRet
            ulState := .abortReq }
        else if (pfnTransferPacket s.sent (blockPacket p.pvFile b k)).ulSta ≠ 0#32 then
          { t with
            lRet := (pfnTransferPacket s.sent (blockPacket p.pvFile b k)).ulSta
            ulState := .abortReq }
        else if s.ulCmdDataState = seqLast ∨ s.ulCmdDataState = seqNone then
          { t with
            lRet := 0#32
            ulTransferedLength := s.ulTransferedLength + s.ulSendLen
            fStopDownload := true }
        else if p.ulFileLength ≤
            (s.ulSendLen + (s.ulTransferedLength + s.ulSendLen)).setWidth 64 then
          { t with
            lRet := 0#32
            ulTransferedLength := s.ulTransferedLength + s.ulSendLen
            ulCurrentOffset := s.ulCurrentOffset + s.ulSendLen
            ulSendLen := (p.ulFileLength -
              (s.ulTransferedLength + s.ulSendLen).setWidth 64).setWidth 32
            ulCmdDataState := seqLast }
        else
          { t with
            lRet := 0#32
            ulTransferedLength := s.ulTransferedLength + s.ulSendLen
            ulCurrentOffset := s.ulCurrentOffset + s.ulSendLen
            ulCmdDataState := seqMiddle } := by
  obtain ⟨hpayload, hcrc, hlen, hid⟩ := h.packet hp hb76
  obtain ⟨hd, hs, hsta, hr⟩ := h.head
  have hhead : ({
      ulDest := rcxPacketDestSystem
      ulSrc := 0#32
      ulDestId := s.tHead.ulDestId
      ulSrcId := s.tHead.ulSrcId
      ulLen := BitVec.ofNat 32 (dataReqDataSize + (block b p.pvFile k).length)
      ulId := BitVec.ofNat 32 (k + 2)
      ulSta := s.tHead.ulSta
      ulCmd := DownloadCmd.dataReq.ulCmd
      ulExt := s.ulCmdDataState
      ulRout := s.tHead.ulRout } : PacketHeader) = (blockPacket p.pvFile b k).tHead := by
    rw [blockPacket, h.flag, hd, hs, hsta, hr]
  have hpacket : (⟨(blockPacket p.pvFile b k).tHead, .block s.ulBlockNumber
      (crc32 (p.pvFile.take ((k + 1) * b))) (block b p.pvFile k)⟩ : DownloadPacket) =
      blockPacket p.pvFile b k := by
    rw [h.number, blockPacket]
  have hcase : downloadPass p pfnTransferPacket s = downloadDataReq p pfnTransferPacket s := by
    rw [downloadPass, h.state]
  have hnumber : s.ulBlockNumber + 1#32 = BitVec.ofNat 32 (k + 1) := by
    rw [h.number, ← BitVec.ofNat_add]
  refine ⟨_, rfl, ?_⟩
  rw [hcase]
  simp only [downloadDataReq, hpayload, hcrc, hlen, hid, hhead, hpacket, hnumber]

/-- The packets sent once block `k` is among them. -/
theorem AtBlock.sent_succ {p : DownloadParams} {b k : ℕ} {req : DownloadPacket}
    {s : DownloadState} (h : AtBlock p b req k s) :
    s.sent ++ [blockPacket p.pvFile b k] =
      req :: (List.range (k + 1)).map (blockPacket p.pvFile b) := by
  rw [h.sent, List.range_succ, List.map_append, List.map_singleton, List.cons_append]

/-- The pass that sends block `k` when the transfer succeeds. -/
theorem AtBlock.pass_eq {p : DownloadParams} {b k : ℕ} {req : DownloadPacket}
    {s : DownloadState} {pfnTransferPacket : Transfer} (h : AtBlock p b req k s)
    (hp : FileParams p) (hok : (pfnTransferPacket s.sent (blockPacket p.pvFile b k)).Succeeded)
    (hb76 : b ≤ 76) :
    ∃ t : DownloadState, t = { s with
        tHead := (blockPacket p.pvFile b k).tHead
        ulCurrentId := BitVec.ofNat 32 (k + 2)
        ulCRC := crc32 (p.pvFile.take ((k + 1) * b))
        ulBlockNumber := BitVec.ofNat 32 (k + 1)
        sent := req :: (List.range (k + 1)).map (blockPacket p.pvFile b)
        lRet := 0#32
        ulTransferedLength := s.ulTransferedLength + s.ulSendLen } ∧
      downloadPass p pfnTransferPacket s =
        if s.ulCmdDataState = seqLast ∨ s.ulCmdDataState = seqNone then
          { t with fStopDownload := true }
        else if p.ulFileLength ≤ (s.ulSendLen + t.ulTransferedLength).setWidth 64 then
          { t with
            ulCurrentOffset := s.ulCurrentOffset + s.ulSendLen
            ulSendLen := (p.ulFileLength - t.ulTransferedLength.setWidth 64).setWidth 32
            ulCmdDataState := seqLast }
        else
          { t with
            ulCurrentOffset := s.ulCurrentOffset + s.ulSendLen
            ulCmdDataState := seqMiddle } := by
  obtain ⟨t, rfl, hpass⟩ := h.transfer_eq hp hb76 pfnTransferPacket
  refine ⟨_, rfl, ?_⟩
  rw [hpass, if_neg (not_not.mpr hok.1), if_neg (not_not.mpr hok.2), h.sent_succ]

/-- The last block ends the download. -/
theorem AtBlock.last {p : DownloadParams} {b k : ℕ} {req : DownloadPacket}
    {s : DownloadState} {pfnTransferPacket : Transfer} (h : AtBlock p b req k s)
    (hp : FileParams p) (hok : (pfnTransferPacket s.sent (blockPacket p.pvFile b k)).Succeeded)
    (hb : 0 < b) (hb76 : b ≤ 76)
    (hk : k + 1 = blockCount b p.pvFile.length) :
    DownloadDone p b req (downloadPass p pfnTransferPacket s) := by
  obtain ⟨t, ht, hpass⟩ := h.pass_eq hp hok hb76
  have hfinal : s.ulCmdDataState = seqLast ∨ s.ulCmdDataState = seqNone := by
    rw [h.flag]
    exact (seqFlag_final hb h.inRange).mpr hk
  rw [hpass, if_pos hfinal, ht]
  refine ⟨rfl, rfl, h.noAbort, ?_⟩
  rw [← hk]

/-- Any other block is followed by the next one. -/
theorem AtBlock.next {p : DownloadParams} {b k : ℕ} {req : DownloadPacket}
    {s : DownloadState} {pfnTransferPacket : Transfer} (h : AtBlock p b req k s)
    (hp : FileParams p) (hok : (pfnTransferPacket s.sent (blockPacket p.pvFile b k)).Succeeded)
    (hb : 0 < b) (hb76 : b ≤ 76)
    (hk : k + 1 ≠ blockCount b p.pvFile.length) :
    AtBlock p b req (k + 1) (downloadPass p pfnTransferPacket s) := by
  have hbound := hp.bound
  have hnext : k + 1 < blockCount b p.pvFile.length := by
    have hin := h.inRange
    omega
  have hlt : (k + 1) * b < p.pvFile.length := lt_of_succ_lt_blockCount hnext
  have hmul : (k + 1) * b = k * b + b := Nat.succ_mul k b
  have hmul2 : (k + 1 + 1) * b = (k + 1) * b + b := Nat.succ_mul (k + 1) b
  have hlen : (block b p.pvFile k).length = b := by
    rw [length_block]
    omega
  have hlong : ¬ p.pvFile.length ≤ b := by omega
  obtain ⟨t, ht, hpass⟩ := h.pass_eq hp hok hb76
  have hnot : ¬ (s.ulCmdDataState = seqLast ∨ s.ulCmdDataState = seqNone) := by
    rw [h.flag, seqFlag_final hb h.inRange]
    exact hk
  have hdone : t.ulTransferedLength = BitVec.ofNat 32 ((k + 1) * b) := by
    rw [ht]
    dsimp only
    rw [h.transfered, h.sendLen, hlen, ← BitVec.ofNat_add, hmul]
  have hoffset : s.ulCurrentOffset + s.ulSendLen = BitVec.ofNat 32 ((k + 1) * b) := by
    rw [h.offset, h.sendLen, hlen, ← BitVec.ofNat_add, hmul]
  -- the 32 bit sum does not wrap because the file is short enough
  have htest : p.ulFileLength ≤ (s.ulSendLen + t.ulTransferedLength).setWidth 64 ↔
      p.pvFile.length ≤ (k + 1 + 1) * b := by
    rw [hdone, h.sendLen, hlen, ← BitVec.ofNat_add, hp.length, BitVec.le_def, BitVec.toNat_ofNat,
      BitVec.toNat_setWidth, BitVec.toNat_ofNat, Nat.mod_eq_of_lt (by omega),
      Nat.mod_eq_of_lt (by omega : b + (k + 1) * b < 2 ^ 32), Nat.mod_eq_of_lt (by omega)]
    omega
  rw [hpass, if_neg hnot]
  by_cases hle : p.pvFile.length ≤ (k + 1 + 1) * b
  · rw [if_pos (htest.mpr hle)]
    have hrest : (p.ulFileLength - t.ulTransferedLength.setWidth 64).setWidth 32 =
        BitVec.ofNat 32 (block b p.pvFile (k + 1)).length := by
      apply BitVec.eq_of_toNat_eq
      rw [hdone, hp.length, length_block, BitVec.toNat_setWidth, BitVec.toNat_sub,
        BitVec.toNat_ofNat, BitVec.toNat_setWidth, BitVec.toNat_ofNat, BitVec.toNat_ofNat]
      omega
    have hflag : seqFlag (place b p.pvFile.length (k + 1)) = seqLast := by
      rw [place, if_neg hlong, if_neg (by omega), if_pos hle]
      rfl
    refine ⟨hnext, ?_, ?_, ?_, hrest, hdone, hoffset, ?_, ?_, ?_, hflag.symm, ?_, ?_⟩
    all_goals rw [ht]
    · exact h.state
    · exact h.going
    · exact ⟨rfl, rfl, rfl, rfl⟩
    · exact h.noAbort
  · rw [if_neg (fun hc => hle (htest.mp hc))]
    have hflag : seqFlag (place b p.pvFile.length (k + 1)) = seqMiddle := by
      rw [place, if_neg hlong, if_neg (by omega), if_neg hle]
      rfl
    have hrest : s.ulSendLen = BitVec.ofNat 32 (block b p.pvFile (k + 1)).length := by
      rw [h.sendLen, hlen, length_block]
      congr 1
      omega
    refine ⟨hnext, ?_, ?_, ?_, ?_, hdone, hoffset, ?_, ?_, ?_, hflag.symm, ?_, ?_⟩
    all_goals rw [ht]
    · exact h.state
    · exact h.going
    · exact ⟨rfl, rfl, rfl, rfl⟩
    · exact hrest
    · exact h.noAbort

/-- The size of the blocks: at most what the mailbox can take, at most what the device takes. -/
def blockSize (pfnTransferPacket : Transfer) (req : DownloadPacket) : ℕ :=
  min 76 (pfnTransferPacket [] req).ulMaxBlockSize.toNat

/-- The request fits the mailbox, whatever the length of the file name. -/
theorem requestPacket_fits {p : DownloadParams} (s : DownloadState)
    (hmailbox : p.ulMailboxSize = 124#64) :
    packetHeaderSize + (requestPacket p s).tHead.ulLen.toNat ≤ 124 := by
  simp only [requestPacket, hmailbox]
  split
  · rename_i hlt
    have hname : (p.szFileName.length + 1) % 2 ^ 64 < 66 := hlt
    simp only [packetHeaderSize, downloadReqDataSize, BitVec.toNat_setWidth, BitVec.toNat_add,
      BitVec.toNat_ofNat]
    omega
  · decide

/-- A device that names a block size leaves at least one byte for a block. -/
theorem blockSize_pos {pfnTransferPacket : Transfer} {req : DownloadPacket}
    (hne : (pfnTransferPacket [] req).ulMaxBlockSize ≠ 0#32) :
    0 < blockSize pfnTransferPacket req := by
  have hpos : (pfnTransferPacket [] req).ulMaxBlockSize.toNat ≠ 0 := by
    intro hzero
    exact hne (BitVec.eq_of_toNat_eq hzero)
  rw [blockSize]
  omega

/-- The smaller one of the two sizes, as the code takes it. -/
theorem ofNat_blockSize (pfnTransferPacket : Transfer) (req : DownloadPacket) :
    (if 76#32 > (pfnTransferPacket [] req).ulMaxBlockSize then
      (pfnTransferPacket [] req).ulMaxBlockSize else 76#32) =
      BitVec.ofNat 32 (blockSize pfnTransferPacket req) := by
  apply BitVec.eq_of_toNat_eq
  rw [blockSize, BitVec.toNat_ofNat]
  split
  · rename_i hgt
    have hlt : (pfnTransferPacket [] req).ulMaxBlockSize.toNat < 76 := hgt
    omega
  · rename_i hle
    have hge : 76 ≤ (pfnTransferPacket [] req).ulMaxBlockSize.toNat := not_lt.mp hle
    show 76 = _
    omega

/-- The download request and its answer. -/
theorem atBlock_zero {p : DownloadParams} {pfnTransferPacket : Transfer} (tHead : PacketHeader)
    (hp : FileParams p) {req : DownloadPacket}
    (hreq : requestPacket p (downloadInit p tHead) = req)
    (hok : (pfnTransferPacket [] req).Succeeded)
    (hne : (pfnTransferPacket [] req).ulMaxBlockSize ≠ 0#32) :
    AtBlock p (blockSize pfnTransferPacket req) req 0
      (downloadPass p pfnTransferPacket (downloadInit p tHead)) := by
  have hbound := hp.bound
  have hmax : (p.ulMailboxSize - BitVec.ofNat 64 (packetHeaderSize + dataReqDataSize)).setWidth
      32 = 76#32 := by
    rw [hp.mailbox]
    decide
  have hsize := ofNat_blockSize pfnTransferPacket req
  have hpos := blockSize_pos hne
  obtain ⟨b, hb⟩ : ∃ b, b = blockSize pfnTransferPacket req := ⟨_, rfl⟩
  have hb76 : b ≤ 76 := by
    rw [hb, blockSize]
    omega
  have hhead : req.tHead.ulDestId = 0#32 ∧ req.tHead.ulSrcId = 0#32 ∧ req.tHead.ulSta = 0#32 ∧
      req.tHead.ulRout = 0#32 := by
    rw [← hreq]
    exact ⟨rfl, rfl, rfl, rfl⟩
  -- whether the file fits into one block decides between the only and the first block
  have htest : p.ulFileLength ≤ (BitVec.ofNat 32 b).setWidth 64 ↔ p.pvFile.length ≤ b := by
    rw [hp.length, BitVec.le_def, BitVec.toNat_ofNat, BitVec.toNat_setWidth,
      BitVec.toNat_ofNat]
    omega
  have hlen := length_block b p.pvFile 0
  have hcrc : crc32 (p.pvFile.take (0 * b)) = 0#32 := by
    rw [Nat.zero_mul, List.take_zero]
    exact ReflectedCrc.continued_nil _ _ _
  have hzero : BitVec.ofNat 32 (0 * b) = 0#32 := by
    rw [Nat.zero_mul]
  rw [← hb] at hsize ⊢
  rw [downloadPass]
  show AtBlock p b req 0 (downloadReq p pfnTransferPacket (downloadInit p tHead))
  simp only [downloadReq, hreq]
  simp only [downloadInit, List.nil_append, hmax, hsize]
  rw [if_neg (not_not.mpr hok.1), if_neg (not_not.mpr hok.2), if_neg hne]
  by_cases hle : p.pvFile.length ≤ b
  · rw [if_pos (htest.mpr hle)]
    have hplace : place b p.pvFile.length 0 = .only := if_pos hle
    refine ⟨blockCount_pos _ _, rfl, rfl, hhead, ?_, hzero.symm, hzero.symm, hcrc.symm, rfl, rfl,
      ?_, rfl, rfl⟩
    · apply BitVec.eq_of_toNat_eq
      show BitVec.toNat (p.ulFileLength.setWidth 32) = _
      rw [hp.length, BitVec.toNat_setWidth, BitVec.toNat_ofNat, BitVec.toNat_ofNat]
      omega
    · rw [hplace]
      rfl
  · rw [if_neg (fun hc => hle (htest.mp hc))]
    have hplace : place b p.pvFile.length 0 = .first := by
      rw [place, if_neg hle, if_pos rfl]
    refine ⟨blockCount_pos _ _, rfl, rfl, hhead, ?_, hzero.symm, hzero.symm, hcrc.symm, rfl, rfl,
      ?_, rfl, rfl⟩
    · show BitVec.ofNat 32 b = _
      congr 1
      omega
    · rw [hplace]
      rfl

/-- A pass that stops the download is the last one. -/
theorem downloadLoop_stops {p : DownloadParams} {pfnTransferPacket : Transfer} {s : DownloadState}
    (h : (downloadPass p pfnTransferPacket s).fStopDownload = true) (fuel : ℕ) :
    downloadLoop p pfnTransferPacket (fuel + 1) s = some (downloadPass p pfnTransferPacket s) :=
  if_pos h

theorem downloadLoop_goes {p : DownloadParams} {pfnTransferPacket : Transfer} {s : DownloadState}
    (h : (downloadPass p pfnTransferPacket s).fStopDownload = false) (fuel : ℕ) :
    downloadLoop p pfnTransferPacket (fuel + 1) s =
      downloadLoop p pfnTransferPacket fuel (downloadPass p pfnTransferPacket s) :=
  if_neg (ne_true_of_eq_false h)

/-- From block `k` on, as many passes as there are blocks left end the download. -/
theorem AtBlock.loop {p : DownloadParams} {b : ℕ} {req : DownloadPacket}
    {pfnTransferPacket : Transfer} (hp : FileParams p) (ha : Acknowledges pfnTransferPacket)
    (hb : 0 < b) (hb76 : b ≤ 76) (fuel : ℕ) {k : ℕ} {s : DownloadState}
    (h : AtBlock p b req k s) (hfuel : blockCount b p.pvFile.length ≤ k + fuel) :
    ∃ t, downloadLoop p pfnTransferPacket fuel s = some t ∧ DownloadDone p b req t := by
  induction fuel generalizing k s with
  | zero =>
    have hin := h.inRange
    omega
  | succ fuel ih =>
    by_cases hk : k + 1 = blockCount b p.pvFile.length
    · have hdone := h.last hp (ha.succeeded _ _) hb hb76 hk
      exact ⟨_, downloadLoop_stops hdone.stop fuel, hdone⟩
    · have hnext := h.next hp (ha.succeeded _ _) hb hb76 hk
      obtain ⟨t, ht, hdone⟩ := ih hnext (by omega)
      exact ⟨t, (downloadLoop_goes hnext.going fuel).trans ht, hdone⟩

/-- Every pass but the last one starts from a state that goes on. -/
theorem downloadFile_sent {p : DownloadParams} {pfnTransferPacket : Transfer}
    (tHead : PacketHeader) (hp : FileParams p) (ha : Acknowledges pfnTransferPacket)
    {req : DownloadPacket} (hreq : requestPacket p (downloadInit p tHead) = req) {fuel : ℕ}
    (hfuel : p.pvFile.length + 2 ≤ fuel) :
    downloadFile fuel p tHead pfnTransferPacket = some ⟨0#32, req ::
      (List.range (blockCount (blockSize pfnTransferPacket req) p.pvFile.length)).map
        (blockPacket p.pvFile (blockSize pfnTransferPacket req))⟩ := by
  have hcmd : req.tHead.ulCmd = DownloadCmd.downloadReq.ulCmd := by
    rw [← hreq]
    rfl
  have hne := ha.blockSize [] req hcmd
  have hpos := blockSize_pos hne
  have hstart := atBlock_zero tHead hp hreq (ha.succeeded _ _) hne
  obtain ⟨n, rfl⟩ : ∃ n, fuel = n + 1 := ⟨fuel - 1, by omega⟩
  have hcount := blockCount_le (blockSize pfnTransferPacket req) p.pvFile.length
  obtain ⟨t, ht, hdone⟩ := hstart.loop hp ha hpos (min_le_left _ _) n (by omega)
  rw [downloadFile, downloadLoop_goes hstart.going, ht, Option.map_some]
  simp only [hdone.lRet, hdone.noAbort, hdone.sent, ne_eq, not_true_eq_false, if_false]

/-- The file data in a packet. -/
def DownloadPacket.payload (q : DownloadPacket) : List (BitVec 8) :=
  match q.tData with
  | .block _ _ payload => payload
  | _ => []

/-- Block number and checksum of a data packet. -/
def DownloadPacket.blockInfo (q : DownloadPacket) : Option (BitVec 32 × BitVec 32) :=
  match q.tData with
  | .block ulBlockNo ulChksum _ => some (ulBlockNo, ulChksum)
  | _ => none

/-- The data packets `data` carry the file in blocks of at most `maxLen` bytes. -/
structure TransmitsFile (file : List (BitVec 8)) (maxLen : ℕ) (data : List DownloadPacket) :
    Prop where
  content : (data.map DownloadPacket.payload).flatten = file
  command : ∀ q ∈ data, q.tHead.ulCmd = DownloadCmd.dataReq.ulCmd
  size : ∀ q ∈ data, q.payload.length ≤ maxLen ∧
    q.tHead.ulLen.toNat = dataReqDataSize + q.payload.length ∧
    packetHeaderSize + q.tHead.ulLen.toNat ≤ 124
  info : ∀ k q, data[k]? = some q → ∃ ulBlockNo ulChksum,
    q.blockInfo = some (ulBlockNo, ulChksum) ∧ ulBlockNo.toNat = k ∧
      ulChksum = crc32 ((data.take (k + 1)).map DownloadPacket.payload).flatten
  flags : data.map (fun q => q.tHead.ulExt) =
    if file.length ≤ maxLen then [seqNone]
    else seqFirst :: (List.replicate (data.length - 2) seqMiddle ++ [seqLast])

theorem transmitsFile_blocks {file : List (BitVec 8)} {b : ℕ} (hb : 0 < b) (hb76 : b ≤ 76)
    (hbound : file.length + 76 < 2 ^ 32) :
    TransmitsFile file b
      ((List.range (blockCount b file.length)).map (blockPacket file b)) := by
  have hpayloads (n : ℕ) : ((List.range n).map (blockPacket file b)).map DownloadPacket.payload =
      (List.range n).map (block b file) := by
    rw [List.map_map]
    rfl
  refine ⟨?_, ?_, ?_, ?_, ?_⟩
  · rw [hpayloads, flatten_blocks, List.take_of_length_le (le_blockCount_mul hb _)]
  · intro q hq
    obtain ⟨k, -, rfl⟩ := List.mem_map.mp hq
    rfl
  · intro q hq
    obtain ⟨k, -, rfl⟩ := List.mem_map.mp hq
    have hlen := length_block b file k
    have hle : (block b file k).length ≤ 76 := by omega
    have hulLen : (blockPacket file b k).tHead.ulLen.toNat =
        dataReqDataSize + (block b file k).length := by
      show BitVec.toNat (BitVec.ofNat 32 _) = _
      rw [BitVec.toNat_ofNat, Nat.mod_eq_of_lt]
      rw [dataReqDataSize]
      omega
    refine ⟨?_, hulLen, ?_⟩
    · show (block b file k).length ≤ b
      omega
    · rw [hulLen, packetHeaderSize, dataReqDataSize]
      omega
  · intro k q hq
    obtain ⟨i, hi, rfl⟩ : ∃ i, (List.range (blockCount b file.length))[k]? = some i ∧
        blockPacket file b i = q := by
      rw [List.getElem?_map, Option.map_eq_some_iff] at hq
      exact hq
    obtain ⟨hk, hik⟩ := List.getElem?_eq_some_iff.mp hi
    rw [List.length_range] at hk
    rw [List.getElem_range] at hik
    subst hik
    refine ⟨_, _, rfl, ?_, ?_⟩
    · have hle := blockCount_le b file.length
      rw [BitVec.toNat_ofNat, Nat.mod_eq_of_lt (by omega)]
    · rw [← List.map_take, List.take_range, Nat.min_eq_left (by omega), hpayloads,
        flatten_blocks]
  · have hflags : ((List.range (blockCount b file.length)).map (blockPacket file b)).map
        (fun q => q.tHead.ulExt) =
        ((List.range (blockCount b file.length)).map (place b file.length)).map seqFlag := by
      rw [List.map_map, List.map_map]
      rfl
    rw [hflags, places_eq hb]
    split
    · rfl
    · rw [List.map_cons, List.map_append, List.map_replicate, List.map_singleton,
        List.length_map, List.length_range]
      rfl

/-- The packet ids count up from 1. -/
theorem ids_increase {file : List (BitVec 8)} {b n : ℕ} {req : DownloadPacket}
    (hreq : req.tHead.ulId = 1#32) (hn : n + 2 < 2 ^ 32) :
    ((req :: (List.range n).map (blockPacket file b)).map fun q =>
      q.tHead.ulId.toNat).Pairwise (· < ·) := by
  have hid (k : ℕ) (hk : k < n) : (blockPacket file b k).tHead.ulId.toNat = k + 2 := by
    show BitVec.toNat (BitVec.ofNat 32 (k + 2)) = k + 2
    rw [BitVec.toNat_ofNat, Nat.mod_eq_of_lt (by omega)]
  rw [List.map_cons, List.map_map, List.pairwise_cons]
  constructor
  · intro m hm
    obtain ⟨k, hk, rfl⟩ := List.mem_map.mp hm
    show req.tHead.ulId.toNat < (blockPacket file b k).tHead.ulId.toNat
    rw [hid k (List.mem_range.mp hk), hreq]
    show 1 < k + 2
    omega
  · rw [List.pairwise_map]
    refine List.Pairwise.imp_of_mem ?_ List.pairwise_lt_range
    intro i j hi hj hij
    show (blockPacket file b i).tHead.ulId.toNat < (blockPacket file b j).tHead.ulId.toNat
    rw [hid i (List.mem_range.mp hi), hid j (List.mem_range.mp hj)]
    omega

/-- Against a device that acknowledges, the download succeeds and transmits exactly the file. -/
theorem download_transmits_file (p : DownloadParams) (tHead : PacketHeader)
    (pfnTransferPacket : Transfer) (hp : FileParams p) (ha : Acknowledges pfnTransferPacket) :
    ∃ req data, (∀ fuel, p.pvFile.length + 2 ≤ fuel →
        downloadFile fuel p tHead pfnTransferPacket = some ⟨0#32, req :: data⟩) ∧
      req.tHead.ulCmd = DownloadCmd.downloadReq.ulCmd ∧
      packetHeaderSize + req.tHead.ulLen.toNat ≤ 124 ∧
      TransmitsFile p.pvFile (min 76 (pfnTransferPacket [] req).ulMaxBlockSize.toNat) data ∧
      ((req :: data).map fun q => q.tHead.ulId.toNat).Pairwise (· < ·) := by
  have hbound := hp.bound
  have hcount := blockCount_le
    (blockSize pfnTransferPacket (requestPacket p (downloadInit p tHead))) p.pvFile.length
  refine ⟨requestPacket p (downloadInit p tHead), _,
    fun fuel hfuel => downloadFile_sent tHead hp ha rfl hfuel, rfl,
    requestPacket_fits _ hp.mailbox,
    transmitsFile_blocks (blockSize_pos (ha.blockSize [] _ rfl)) (min_le_left _ _) hp.bound,
    ids_increase rfl (by omega)⟩

/-- Nine bytes for a device that takes four at a time; the send buffer holds what was there. -/
def nineBytes : DownloadParams where
  ulChannel := 0#64
  ulMailboxSize := 124#64
  ulTransferType := 1#64
  szFileName := [0x61#8]
  pvFile := (List.range 9).map (BitVec.ofNat 8)
  ulFileLength := 9#64

def uncleared : PacketHeader where
  ulDest := 1#32
  ulSrc := 2#32
  ulDestId := 3#32
  ulSrcId := 4#32
  ulLen := 5#32
  ulId := 6#32
  ulSta := 7#32
  ulCmd := 8#32
  ulExt := 9#32
  ulRout := 10#32

theorem download_transmits_file_nine : ∃ req data,
    downloadFile 11 nineBytes uncleared (fun _ _ => ⟨0#32, 0#32, 4#32⟩) =
      some ⟨0#32, req :: data⟩ ∧ TransmitsFile nineBytes.pvFile 4 data := by
  obtain ⟨req, data, hrun, -, -, hdata, -⟩ := download_transmits_file nineBytes uncleared
    (fun _ _ => ⟨0#32, 0#32, 4#32⟩) ⟨rfl, by decide, rfl⟩
    ⟨fun _ _ => rfl, fun _ _ => rfl, fun _ _ _ => by decide⟩
  exact ⟨req, data, hrun 11 (by decide), hdata⟩

end NetanaDriver
