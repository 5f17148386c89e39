import NetanaDriver.BitStateWait
import NetanaDriver.CallTimeout
import NetanaDriver.SystemMailbox

/-! The mailbox functions as one call runs through them alone, for packets with any length in
their header: `put_packet`, `netana_put_packet`, `get_packet` (toolkit/netana_functions.c) and
`netana_write_mbx_packet_bin` (netana_tk_interface.c). -/
namespace NetanaDriver
open ToggleHandshake

variable {β : Type*}

/-- What a wait for a mailbox bit finds: the time at which it starts, and its wake-ups. -/
structure MbxWait where
  start : ℕ
  elapsed : ℕ → ℕ
  ulNetxFlags : ℕ → BitVec 32

/-- The wait of a thread for a bit; the host flags stay as they are. -/
def MbxWait.bitWait (e : MbxWait) (ulBit : ℕ) (bState : BitState) (ulTimeout : BitVec 32)
    (s : DrvState β) : BitWait where
  ulBit := ulBit
  bState := bState
  ulTimeout := ulTimeout
  ulHostFlags := s.ulHostFlags
  ulNetxFlags := s.ulNetxFlags
  start := e.start
  wake := fun k => ⟨e.elapsed k, s.ulHostFlags, e.ulNetxFlags k⟩

/-- The send mailbox of a device instance that has been set up. -/
structure SendChannel where
  ulSendMailboxLength : BitVec 32
  abSendMailbox : ByteArea
  ulSendPacketCnt : BitVec 32
  pvSendMBXMutex : Bool
  length_eq : ulSendMailboxLength = netanaChannelMailboxSize

/-- What a call that sends a packet returns; `bytesRead` are the offsets it has read from. -/
structure Sending where
  lRet : BitVec 32
  bytesRead : List ℕ

/-- The offsets of `tHeader.ulLen`. -/
def ulLenBytes : List ℕ := [16, 17, 18, 19]

/-- A write to the mailbox file: the process and the thread it comes from, whether a new entry
of the task list can be allocated, and what its call of `netana_put_packet` finds. -/
structure MbxWrite where
  tgid : ℕ
  pid : ℕ
  fAlloc : Bool
  fMutexTimeout : Bool
  wait : MbxWait

/-- What a write to the mailbox file leaves; `tasks` is the list that `store_err` keeps. -/
structure MbxWritten (β : Type*) where
  drv : DrvState β
  tSendMbx : SendChannel
  tasks : List TaskInfo
  ret : ℤ
  bytesRead : List ℕ

namespace Sequential

/-- `put_packet`, with at most `n` passes of its wait. -/
def putPacket (counter : ℕ → BitVec 32) (n : ℕ) (e : MbxWait) (ptSendPkt : ByteArea)
    (ulTimeout : BitVec 32) (s : DrvState β) (m : SendChannel) :
    Option (DrvState β × SendChannel × Sending) :=
  -- the sum is formed in 32 bits
  if ulLenAt ptSendPkt + netanaPacketHeaderSize > m.ulSendMailboxLength then
    some (s, m, ⟨netanaDevMailboxTooShort, ulLenBytes⟩)
  else
    (netanaTkitWaitForBitState counter (e.bitWait sendMbxBit .equal ulTimeout s) n).iRet.bind
      fun iRet =>
        if iRet then
          (netanaTkitToggleBit sendMbxBit s).map fun t =>
            -- the length is read again for the copy, and gives the same in this run
            (t, { m with
                ulSendPacketCnt := m.ulSendPacketCnt + 1#32
                abSendMailbox := osMemcpy m.abSendMailbox ptSendPkt
                  (ulLenAt ptSendPkt + netanaPacketHeaderSize) },
              ⟨netanaNoError, ulLenBytes ++
                List.range (ulLenAt ptSendPkt + netanaPacketHeaderSize).toNat⟩)
        else some (s, m, ⟨netanaDevMailboxFull, ulLenBytes⟩)

/-- `netana_put_packet`; `fMutexTimeout` is whether its wait for the mutex gives up. -/
def netanaPutPacket (counter : ℕ → BitVec 32) (n : ℕ) (fMutexTimeout : Bool) (e : MbxWait)
    (ptSendPkt : ByteArea) (ulTimeout : BitVec 32) (s : DrvState β) (m : SendChannel) :
    Option (DrvState β × SendChannel × Sending) :=
  (osWaitMutex m.pvSendMBXMutex fMutexTimeout).bind fun fLocked =>
    if fLocked then
      (putPacket counter n e ptSendPkt ulTimeout s { m with pvSendMBXMutex := true }).map
        fun r => (r.1, { r.2.1 with pvSendMBXMutex := false }, r.2.2)
    else some (s, m, ⟨netanaDrvCmdActive, []⟩)

/-- `get_packet`, with at most `n` passes of its wait; `abRecvMailbox` is the mailbox once the
wait is over, and the last component the packet counter. -/
def getPacket (counter : ℕ → BitVec 32) (n : ℕ) (e : MbxWait) (abRecvMailbox : ByteArea)
    (ptRecvPkt : ByteArea) (ulRecvBufferSize ulTimeout : BitVec 32) (s : DrvState β)
    (ulRecvPacketCnt : BitVec 32) : Option (DrvState β × Receipt × BitVec 32) :=
  (netanaTkitWaitForBitState counter (e.bitWait recvMbxBit .unequal ulTimeout s) n).iRet.bind
    fun iRet =>
      if iRet then
        (netanaTkitToggleBit recvMbxBit s).map fun t =>
          (t, ⟨(copySize abRecvMailbox ulRecvBufferSize).2,
              osMemcpy ptRecvPkt abRecvMailbox (copySize abRecvMailbox ulRecvBufferSize).1,
              some (copySize abRecvMailbox ulRecvBufferSize).1⟩, ulRecvPacketCnt + 1#32)
      else some (s, ⟨netanaDevGetNoPacket, ptRecvPkt, none⟩, ulRecvPacketCnt)

/-- `netana_write_mbx_packet_bin`: the return value is `count`, or that of `store_err`. -/
def netanaWriteMbxPacketBin (counter : ℕ → BitVec 32) (n : ℕ) (e : MbxWrite) (hdevice : Bool)
    (tasks : List TaskInfo) (buf : ByteArea) (count : ℕ) (s : DrvState β) (m : SendChannel) :
    Option (MbxWritten β) :=
  -- the handle is checked before the packet is looked at
  if hdevice = false then
    some ⟨s, m, storeErr e.fAlloc e.pid netanaInvalidHandle tasks, -1, []⟩
  else
    (netanaPutPacket counter n e.fMutexTimeout e.wait buf (getTimeout e.tgid tasks) s m).map
      fun r =>
        if r.2.2.lRet ≠ netanaNoError then
          ⟨r.1, r.2.1, storeErr e.fAlloc e.pid r.2.2.lRet tasks, -1, r.2.2.bytesRead⟩
        else ⟨r.1, r.2.1, tasks, count, r.2.2.bytesRead⟩

end Sequential

end NetanaDriver
