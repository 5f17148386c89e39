import NetanaDriver.MailboxAccess

/-! What the mailbox functions do with every length a header can hold: what a send mailbox
takes, what is copied out of a receive mailbox, and what a write to the mailbox file reads. -/
namespace NetanaDriver
open ToggleHandshake

variable {β : Type*}

/-- The length of the packet at an address, with its header. -/
def packetLength (pb : ByteArea) : ℕ := (ulLenAt pb).toNat + 40

/-- The sum that the driver forms for it. -/
theorem packetLength_mod (pb : ByteArea) (a : BitVec 32) (ha : a = 40#32) :
    (ulLenAt pb + a).toNat = packetLength pb % 2 ^ 32 := by
  rw [BitVec.toNat_add, ha, packetLength]
  rfl

theorem packetLength_lt (pb : ByteArea) : packetLength pb < 2 ^ 32 + 40 := by
  have hlen := (ulLenAt pb).isLt
  rw [packetLength]
  omega

/-- What a mailbox of a given size does with a packet it is to send. -/
structure SendLaw (size : ℕ) (ptSendPkt mbx mbx' : ByteArea) (lRet : BitVec 32)
    (toggled unchanged : Prop) : Prop where
  tooShort : lRet = netanaDevMailboxTooShort ↔ size < packetLength ptSendPkt
  sent : lRet = netanaNoError → toggled ∧
    (∀ i < packetLength ptSendPkt, mbx' i = ptSendPkt i) ∧
    ∀ i, packetLength ptSendPkt ≤ i → mbx' i = mbx i
  refused : lRet ≠ netanaNoError → mbx' = mbx ∧ unchanged

/-- The three ways in which the send functions end. -/
inductive SendEnds (ulSize : BitVec 32) (ptSendPkt mbx mbx' : ByteArea) (lRet : BitVec 32)
    (toggled unchanged : Prop) : Prop where
  | tooShort (hsize : ulSize < ulLenAt ptSendPkt + 40#32) (hret : lRet = netanaDevMailboxTooShort)
      (hmbx : mbx' = mbx) (hrest : unchanged)
  | sent (hsize : ulLenAt ptSendPkt + 40#32 ≤ ulSize) (hret : lRet = netanaNoError)
      (hmbx : mbx' = osMemcpy mbx ptSendPkt (ulLenAt ptSendPkt + 40#32)) (hrest : toggled)
  | full (hsize : ulLenAt ptSendPkt + 40#32 ≤ ulSize) (hret : lRet = netanaDevMailboxFull)
      (hmbx : mbx' = mbx) (hrest : unchanged)

/-- The size is right exactly where the sum does not wrap around. -/
theorem SendEnds.law_iff {ulSize : BitVec 32} {ptSendPkt mbx mbx' : ByteArea} {lRet : BitVec 32}
    {toggled unchanged : Prop} (hroom : 40 ≤ ulSize.toNat)
    (h : SendEnds ulSize ptSendPkt mbx mbx' lRet toggled unchanged) :
    SendLaw ulSize.toNat ptSendPkt mbx mbx' lRet toggled unchanged ↔
      packetLength ptSendPkt < 2 ^ 32 := by
  have hsum := packetLength_mod ptSendPkt 40#32 rfl
  have hlen := packetLength_lt ptSendPkt
  have hsmall := ulSize.isLt
  constructor
  · intro hlaw
    by_contra hwrap
    -- a sum that has wrapped around is below 40, and passes the check
    have hpassed : ¬ ulSize < ulLenAt ptSendPkt + 40#32 := by
      rw [BitVec.lt_def, hsum]
      omega
    have hret : lRet = netanaDevMailboxTooShort := hlaw.tooShort.mpr (by omega)
    cases h with
    | tooShort hsize _ _ _ => exact hpassed hsize
    | sent _ hret' _ _ =>
      rw [hret'] at hret
      exact absurd hret (by decide)
    | full _ hret' _ _ =>
      rw [hret'] at hret
      exact absurd hret (by decide)
  · intro hfits
    have hexact : (ulLenAt ptSendPkt + 40#32).toNat = packetLength ptSendPkt := by
      rw [hsum, Nat.mod_eq_of_lt hfits]
    cases h with
    | tooShort hsize hret hmbx hrest =>
      rw [BitVec.lt_def, hexact] at hsize
      refine ⟨⟨fun _ => hsize, fun _ => hret⟩, ?_, fun _ => ⟨hmbx, hrest⟩⟩
      intro hok
      rw [hret] at hok
      exact absurd hok (by decide)
    | sent hsize hret hmbx hrest =>
      rw [BitVec.le_def, hexact] at hsize
      refine ⟨⟨fun hshort => ?_, fun hlong => by omega⟩, fun _ => ⟨hrest, ?_, ?_⟩,
        fun hno => absurd hret hno⟩
      · rw [hret] at hshort
        exact absurd hshort (by decide)
      · intro i hi
        rw [hmbx, osMemcpy, hexact, if_pos hi]
      · intro i hi
        rw [hmbx, osMemcpy, hexact, if_neg (by omega)]
    | full hsize hret hmbx hrest =>
      rw [BitVec.le_def, hexact] at hsize
      refine ⟨⟨fun hshort => ?_, fun hlong => by omega⟩, fun hok => ?_, fun _ => ⟨hmbx, hrest⟩⟩
      · rw [hret] at hshort
        exact absurd hshort (by decide)
      · rw [hret] at hok
        exact absurd hok (by decide)

/-- Bytes that are all the same, as a packet or as the content of a mailbox. -/
def uniformArea (b : BitVec 8) : ByteArea := fun _ => b

/-- An empty send mailbox of a device at rest. -/
def emptySendMailbox : SendChannel where
  ulSendMailboxLength := netanaChannelMailboxSize
  abSendMailbox := uniformArea 0#8
  ulSendPacketCnt := 0#32
  pvSendMBXMutex := false
  length_eq := rfl

def restingDrv : DrvState Unit := restingDevice 0#16 1 0#32 fun _ => ()

/-- A wait in which no time goes by and nothing changes. -/
def stillWait : MbxWait := ⟨0, fun _ => 0, fun _ => 0#32⟩

/-- A packet of 48 bytes, each of which but for those of its length is its own place plus one. -/
def numberedPacket : ByteArea := fun i =>
  if i = 16 then 8#8 else if 16 < i ∧ i < 20 then 0#8 else BitVec.ofNat 8 (i + 1)

/-- What the receive functions do with a pending packet, for a mailbox and a buffer of given
sizes. -/
structure RecvLaw (size ulRecvBufferSize : ℕ) (abRecvMailbox : ByteArea) (r : Receipt)
    (toggled : Prop) : Prop where
  copied : ∃ ulCopySize, r.copied = some ulCopySize ∧
    ulCopySize.toNat = min (packetLength abRecvMailbox) ulRecvBufferSize ∧ ulCopySize.toNat ≤ size
  tooShort : r.lRet = netanaBufferTooShort ↔ ulRecvBufferSize < packetLength abRecvMailbox
  toggled : toggled

/-- The length and the result that they come to. -/
structure RecvEnds (ulRecvBufferSize : ℕ) (abRecvMailbox : ByteArea) (r : Receipt)
    (toggled : Prop) : Prop where
  copied : ∃ ulCopySize, r.copied = some ulCopySize ∧
    ulCopySize.toNat = min (packetLength abRecvMailbox % 2 ^ 32) ulRecvBufferSize
  tooShort : r.lRet = netanaBufferTooShort ↔
    ulRecvBufferSize < packetLength abRecvMailbox % 2 ^ 32
  toggled : toggled

/-- The sum that the driver forms does not wrap around, or it is still too long for the buffer. -/
def CutRight (ulRecvBufferSize : ℕ) (abRecvMailbox : ByteArea) : Prop :=
  packetLength abRecvMailbox < 2 ^ 32 ∨
    ulRecvBufferSize < packetLength abRecvMailbox % 2 ^ 32

theorem RecvEnds.law_iff {ulRecvBufferSize : ℕ} {abRecvMailbox : ByteArea} {r : Receipt}
    {toggled : Prop} (h : RecvEnds ulRecvBufferSize abRecvMailbox r toggled) (size : ℕ) :
    RecvLaw size ulRecvBufferSize abRecvMailbox r toggled ↔
      CutRight ulRecvBufferSize abRecvMailbox ∧
        min (packetLength abRecvMailbox) ulRecvBufferSize ≤ size := by
  obtain ⟨ulCopySize, hcopied, hcut⟩ := h.copied
  constructor
  · intro hlaw
    obtain ⟨ulCopySize', hcopied', hmin, hinside⟩ := hlaw.copied
    refine ⟨?_, by omega⟩
    by_contra hwrong
    obtain ⟨hwrap, hpassed⟩ := not_or.mp hwrong
    -- the packet passes for one that the buffer holds
    have hsame : ulCopySize' = ulCopySize := Option.some.inj (hcopied'.symm.trans hcopied)
    have hshort := h.tooShort.trans (iff_false_intro hpassed)
    have hfits : ¬ ulRecvBufferSize < packetLength abRecvMailbox :=
      fun hlong => hshort.mp (hlaw.tooShort.mpr hlong)
    rw [hsame] at hmin
    have hlen := Nat.mod_lt (packetLength abRecvMailbox) (Nat.two_pow_pos 32)
    omega
  · rintro ⟨hcutRight, hroom⟩
    have hlen := Nat.mod_le (packetLength abRecvMailbox) (2 ^ 32)
    rcases hcutRight with hfits | hlong
    · have hexact := Nat.mod_eq_of_lt hfits
      have hshort := h.tooShort
      rw [hexact] at hcut hshort
      exact ⟨⟨ulCopySize, hcopied, hcut, hcut ▸ hroom⟩, hshort, h.toggled⟩
    · have hmin : ulCopySize.toNat = min (packetLength abRecvMailbox) ulRecvBufferSize := by
        omega
      refine ⟨⟨ulCopySize, hcopied, hmin, hmin ▸ hroom⟩, ?_, h.toggled⟩
      exact ⟨fun _ => by omega, fun _ => h.tooShort.mpr hlong⟩

/-- A write leaves mailbox and handshake flags alone, with an error. -/
def Refused (s : DrvState β) (m : SendChannel) (r : MbxWritten β) : Prop :=
  r.ret < 0 ∧ r.tSendMbx.abSendMailbox = m.abSendMailbox ∧
    r.drv.ulHostFlags = s.ulHostFlags ∧ r.drv.usHostFlags = s.usHostFlags

/-- A write that gets no device, no mutex, no room in the mailbox, or no empty mailbox. -/
def Hindered (counter : ℕ → BitVec 32) (n : ℕ) (e : MbxWrite) (hdevice : Bool)
    (tasks : List TaskInfo) (buf : ByteArea) (s : DrvState β) (m : SendChannel) : Prop :=
  hdevice = false ∨ osWaitMutex m.pvSendMBXMutex e.fMutexTimeout = some false ∨
    1596 < packetLength buf % 2 ^ 32 ∨
    (netanaTkitWaitForBitState counter
      (e.wait.bitWait sendMbxBit .equal (getTimeout e.tgid tasks) s) n).iRet = some false

/-- The written bytes hold the length of the packet, and as many bytes as it makes the driver
copy. -/
def HoldsPacket (buf : ByteArea) (count : ℕ) : Prop :=
  20 ≤ count ∧ packetLength buf % 2 ^ 32 ≤ count

/-- How `netana_put_packet` ends, with what it has read. -/
theorem netanaPutPacket_ends {counter : ℕ → BitVec 32} {n : ℕ} {fMutexTimeout : Bool}
    {e : MbxWait} {ptSendPkt : ByteArea} {ulTimeout : BitVec 32} {s : DrvState β}
    {m : SendChannel} {r : DrvState β × SendChannel × Sending}
    (h : Sequential.netanaPutPacket counter n fMutexTimeout e ptSendPkt ulTimeout s m = some r) :
    (r.2.2.lRet ≠ netanaNoError ∧ r.1 = s ∧ r.2.1.abSendMailbox = m.abSendMailbox ∧
      (osWaitMutex m.pvSendMBXMutex fMutexTimeout = some false ∨
        1596 < packetLength ptSendPkt % 2 ^ 32 ∨
        (netanaTkitWaitForBitState counter
          (e.bitWait sendMbxBit .equal ulTimeout s) n).iRet = some false)) ∨
    (r.2.2.lRet = netanaNoError ∧
      r.2.2.bytesRead = ulLenBytes ++ List.range (packetLength ptSendPkt % 2 ^ 32) ∧
      osWaitMutex m.pvSendMBXMutex fMutexTimeout = some true ∧
      packetLength ptSendPkt % 2 ^ 32 ≤ 1596 ∧
      (netanaTkitWaitForBitState counter
        (e.bitWait sendMbxBit .equal ulTimeout s) n).iRet = some true) := by
  have hlen : m.ulSendMailboxLength.toNat = 1596 := by
    rw [m.length_eq]
    rfl
  have hsum := packetLength_mod ptSendPkt netanaPacketHeaderSize rfl
  have hactive : netanaDrvCmdActive ≠ netanaNoError := by decide
  have hshort : netanaDevMailboxTooShort ≠ netanaNoError := by decide
  have hfull : netanaDevMailboxFull ≠ netanaNoError := by decide
  obtain ⟨fLocked, hlocked, hr⟩ := Option.bind_eq_some_iff.mp h
  cases fLocked with
  | false =>
    cases hr
    exact .inl ⟨hactive, rfl, rfl, .inl hlocked⟩
  | true =>
    obtain ⟨u, hu, rfl⟩ := Option.map_eq_some_iff.mp hr
    rw [Sequential.putPacket] at hu
    split at hu
    · -- the check of the length comes before the wait for the mailbox
      rename_i hlong
      cases hu
      rw [gt_iff_lt, BitVec.lt_def, hsum, hlen] at hlong
      exact .inl ⟨hshort, rfl, rfl, .inr (.inl hlong)⟩
    · rename_i hfits
      rw [gt_iff_lt, BitVec.lt_def, hsum, hlen] at hfits
      obtain ⟨iRet, hwait, hret⟩ := Option.bind_eq_some_iff.mp hu
      cases iRet with
      | false =>
        cases hret
        exact .inl ⟨hfull, rfl, rfl, .inr (.inr hwait)⟩
      | true =>
        obtain ⟨t, -, rfl⟩ := Option.map_eq_some_iff.mp hret
        refine .inr ⟨rfl, ?_, hlocked, not_lt.mp hfits, hwait⟩
        rw [← hsum]

/-- What a write has read lies in its bytes exactly where they hold the packet. -/
theorem bytesRead_lt_iff (buf : ByteArea) (count : ℕ) :
    (∀ i ∈ ulLenBytes ++ List.range (packetLength buf % 2 ^ 32), i < count) ↔
      HoldsPacket buf count := by
  constructor
  · intro hall
    constructor
    · exact hall 19 (List.mem_append_left _ (by decide))
    · -- the copy reads the byte behind the last one written
      by_contra hshort
      exact absurd (hall count (List.mem_append_right _ (List.mem_range.mpr (by omega))))
        (lt_irrefl count)
  · rintro ⟨hheader, hlength⟩ i hi
    rcases List.mem_append.mp hi with hi | hi
    · have hle : ∀ j ∈ ulLenBytes, j ≤ 19 := by decide
      calc i ≤ 19 := hle i hi
        _ < count := hheader
    · calc i < _ := List.mem_range.mp hi
        _ ≤ count := hlength

/-- A write to the mailbox file is refused or sends its own bytes exactly where something hinders
it or its bytes hold the packet that their header describes. -/
theorem write_sends_own_bytes (counter : ℕ → BitVec 32) (n : ℕ) (e : MbxWrite) (hdevice : Bool)
    (tasks : List TaskInfo) (buf : ByteArea) (count : ℕ) (s : DrvState β) (m : SendChannel)
    (r : MbxWritten β)
    (h : Sequential.netanaWriteMbxPacketBin counter n e hdevice tasks buf count s m = some r) :
    (Refused s m r ∨ ∀ i ∈ r.bytesRead, i < count) ↔
      Hindered counter n e hdevice tasks buf s m ∨ HoldsPacket buf count := by
  have hneg : (-1 : ℤ) < 0 := by decide
  rw [Sequential.netanaWriteMbxPacketBin] at h
  by_cases hhandle : hdevice = false
  · rw [if_pos hhandle] at h
    cases h
    exact ⟨fun _ => .inl (.inl hhandle), fun _ => .inl ⟨hneg, rfl, rfl, rfl⟩⟩
  · rw [if_neg hhandle] at h
    obtain ⟨u, hu, rfl⟩ := Option.map_eq_some_iff.mp h
    rcases netanaPutPacket_ends hu with
      ⟨hret, hdrv, hmbx, hwhy⟩ | ⟨hret, hread, hmutex, hsize, hwait⟩
    · rw [if_pos hret]
      refine ⟨fun _ => .inl (.inr hwhy), fun _ => .inl ⟨hneg, hmbx, ?_, ?_⟩⟩
      · exact congrArg DrvState.ulHostFlags hdrv
      · exact congrArg DrvState.usHostFlags hdrv
    · rw [if_neg (not_not.mpr hret)]
      constructor
      · rintro (hrefused | hown)
        · have hcount : (count : ℤ) < 0 := hrefused.1
          omega
        · exact .inr ((bytesRead_lt_iff buf count).mp (hread ▸ hown))
      · rintro (hhindered | hholds)
        · rcases hhindered with hno | hno | hno | hno
          · exact absurd hno hhandle
          · rw [hmutex] at hno
            exact absurd hno (by decide)
          · omega
          · rw [hwait] at hno
            exact absurd hno (by decide)
        · exact .inr (hread ▸ (bytesRead_lt_iff buf count).mpr hholds)

/-- A process that has set no timeout writes to the mailbox file. -/
def plainWrite : MbxWrite := ⟨1, 1, true, false, stillWait⟩

theorem write_sends_own_bytes_header :
    ∃ r, Sequential.netanaWriteMbxPacketBin (fun _ => 0#32) 0 plainWrite true [] numberedPacket
        48 restingDrv emptySendMailbox = some r ∧
      (Refused restingDrv emptySendMailbox r ∨ ∀ i ∈ r.bytesRead, i < 48) ∧
      r.ret = 48 ∧ r.tSendMbx.abSendMailbox 47 = 48#8 ∧ r.tSendMbx.abSendMailbox 48 = 0#8 :=
  ⟨_, rfl, (write_sends_own_bytes (fun _ => 0#32) 0 plainWrite true [] numberedPacket 48
    restingDrv emptySendMailbox _ rfl).mpr (.inr ⟨by decide, by decide⟩), rfl, rfl, rfl⟩

/-- One byte is written, and forty are read. -/
theorem write_sends_other_bytes :
    ((Sequential.netanaWriteMbxPacketBin (fun _ => 0#32) 0 plainWrite true [] (uniformArea 0#8) 1
        restingDrv emptySendMailbox).map fun r => (r.ret, r.bytesRead)) =
        some (1, ulLenBytes ++ List.range 40) ∧
      ¬ ∀ (buf : ByteArea) (count : ℕ) (r : MbxWritten Unit),
        Sequential.netanaWriteMbxPacketBin (fun _ => 0#32) 0 plainWrite true [] buf count
          restingDrv emptySendMailbox = some r →
        Refused restingDrv emptySendMailbox r ∨ ∀ i ∈ r.bytesRead, i < count := by
  refine ⟨rfl, fun hall => ?_⟩
  rcases hall (uniformArea 0#8) 1 _ rfl with hrefused | hown
  · exact absurd hrefused.1 (by decide)
  · have hlast := hown 39 (by decide)
    omega

end NetanaDriver
