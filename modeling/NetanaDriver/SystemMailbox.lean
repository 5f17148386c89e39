import NetanaDriver.Mailbox
import NetanaDriver.WrappingClock

/-! The system mailbox that the boot loader serves: `WaitForBitStatePollBL`, `PutPacketBL`,
`GetPacketBL` and `TransferPacket` (toolkit/netana_toolkit.c). -/
namespace NetanaDriver
open ToggleHandshake

def nsfReady : BitVec 8 := 0x01#8
def hsfSendMbxCmd : BitVec 8 := 0x10#8
def hsfRecvMbxAck : BitVec 8 := 0x20#8

/-- `NETX_SYSTEM_MAILBOX_MIN_SIZE`. -/
def netxSystemMailboxMinSize : BitVec 32 := 124#32
def rcxPacketHeaderSize : BitVec 32 := 40#32
def rcxMskPacketAnswer : BitVec 32 := 1#32

def netanaDevNotReady : BitVec 32 := 0x80210008#32
def netanaTransferTimeout : BitVec 32 := 0x8021000C#32

/-- `RCX_FLAGS_EQUAL` and `RCX_FLAGS_NOT_EQUAL`. -/
inductive RcxFlags where
  | equal
  | notEqual
  deriving DecidableEq, Repr

/-- A field of 32 bits in the packet at an address. -/
def wordAt (pb : ByteArea) (offset : ℕ) : BitVec 32 :=
  pb (offset + 3) ++ pb (offset + 2) ++ pb (offset + 1) ++ pb offset

/-- What the driver writes of the system channel. -/
structure SysChannel where
  bHostFlags : BitVec 8
  abSendMbx : ByteArea

/-- The netX flags in one look at the handshake cell, and the time at which the counter is read
after it, counted from the start of the wait. -/
structure PollRead where
  bNetxFlags : BitVec 8
  elapsed : ℕ

/-- What a call of `WaitForBitStatePollBL` finds: the netX flags at its entry, and in each pass. -/
structure PollWait where
  bNetxFlags : BitVec 8
  start : ℕ
  poll : ℕ → PollRead

/-- The state of the bits, as `WaitForBitStatePollBL` computes it. -/
def pollState (bHostFlags bNetxFlags : BitVec 8) (ulBitMask : BitVec 8) : RcxFlags :=
  if maskTest (bHostFlags ^^^ bNetxFlags) ulBitMask then .notEqual else .equal

/-- One pass of the polling loop; nothing happens after the return. -/
def pollPass (ulBitMask : BitVec 8) (bState : RcxFlags) (ulTimeout : BitVec 64)
    (bHostFlags bNetxFlags : BitVec 8) (ulDiffTime : BitVec 64) : Option Bool → Option Bool
  | some iRet => some iRet
  | none =>
    -- the time is compared after the state, and a wait may take exactly ulTimeout
    if pollState bHostFlags bNetxFlags ulBitMask = bState then some true
    else if ulDiffTime ≤ ulTimeout then none
    else some false

/-- `WaitForBitStatePollBL` after at most `n` passes. -/
def waitForBitStatePollBL (counter : ℕ → BitVec 32) (ulBitMask : BitVec 8) (bState : RcxFlags)
    (ulTimeout : BitVec 64) (bHostFlags : BitVec 8) (e : PollWait) : ℕ → Option Bool
  | 0 =>
    if pollState bHostFlags e.bNetxFlags ulBitMask = bState then some true
    else if 0#64 = ulTimeout then some false
    else none
  | n + 1 => pollPass ulBitMask bState ulTimeout bHostFlags (e.poll n).bNetxFlags
      ((counter (e.start + (e.poll n).elapsed) - counter e.start).setWidth 64)
      (waitForBitStatePollBL counter ulBitMask bState ulTimeout bHostFlags e n)

/-- What `PutPacketBL` finds: the netX flags at its entry, and its wait. -/
structure PutEnv where
  bNetxFlags : BitVec 8
  wait : PollWait

/-- `PutPacketBL`, with at most `n` passes of its wait. -/
def putPacketBL (counter : ℕ → BitVec 32) (n : ℕ) (e : PutEnv) (ptSendPkt : ByteArea)
    (ulTimeout : BitVec 64) (ch : SysChannel) : Option (SysChannel × BitVec 32) :=
  if maskTest e.bNetxFlags nsfReady = false then some (ch, netanaDevNotReady)
  else if ulLenAt ptSendPkt + rcxPacketHeaderSize > netxSystemMailboxMinSize then
    some (ch, netanaDevMailboxTooShort)
  else
    (waitForBitStatePollBL counter hsfSendMbxCmd .equal ulTimeout ch.bHostFlags e.wait n).map
      fun iRet =>
        if iRet then
          ({ abSendMbx := osMemcpy ch.abSendMbx ptSendPkt
              (ulLenAt ptSendPkt + rcxPacketHeaderSize)
             bHostFlags := ch.bHostFlags ^^^ hsfSendMbxCmd }, netanaNoError)
        else (ch, netanaDevMailboxFull)

/-- What `GetPacketBL` finds; `abRecvMbx` is the mailbox once the wait is over. -/
structure GetEnv where
  bNetxFlags : BitVec 8
  wait : PollWait
  abRecvMbx : ByteArea

/-- What a call of `GetPacketBL` or `get_packet` returns and leaves in its buffer; `copied` is the
number of bytes copied, where it gets that far. -/
structure Receipt where
  lRet : BitVec 32
  ptRecvPkt : ByteArea
  copied : Option (BitVec 32)

/-- `GetPacketBL`, with at most `n` passes of its wait. -/
def getPacketBL (counter : ℕ → BitVec 32) (n : ℕ) (e : GetEnv) (ptRecvPkt : ByteArea)
    (ulRecvBufferSize ulTimeout : BitVec 64) (ch : SysChannel) : Option (SysChannel × Receipt) :=
  if maskTest e.bNetxFlags nsfReady = false then some (ch, ⟨netanaDevNotReady, ptRecvPkt, none⟩)
  else
    (waitForBitStatePollBL counter hsfRecvMbxAck .notEqual ulTimeout ch.bHostFlags e.wait n).map
      fun iRet =>
        if iRet then
          let ulLength := ulLenAt e.abRecvMbx + rcxPacketHeaderSize
          let lRet := if ulLength.setWidth 64 > ulRecvBufferSize then netanaBufferTooShort
            else netanaNoError
          let ulCopySize := if ulLength.setWidth 64 > ulRecvBufferSize then
            ulRecvBufferSize.setWidth 32 else ulLength
          ({ ch with bHostFlags := ch.bHostFlags ^^^ hsfRecvMbxAck },
            ⟨lRet, osMemcpy ptRecvPkt e.abRecvMbx ulCopySize, some ulCopySize⟩)
        else (ch, ⟨netanaDevGetNoPacket, ptRecvPkt, none⟩)

/-- The packet is the answer to the one sent. -/
def answers (ptRecvPkt ptSendPkt : ByteArea) : Bool :=
  -- ulCmd, ulSrc, ulId and ulSrcId of the headers
  wordAt ptRecvPkt 28 &&& ~~~rcxMskPacketAnswer == wordAt ptSendPkt 28 &&
    wordAt ptRecvPkt 4 == wordAt ptSendPkt 4 && wordAt ptRecvPkt 20 == wordAt ptSendPkt 20 &&
    wordAt ptRecvPkt 12 == wordAt ptSendPkt 12

/-- What `TransferPacket` finds in its calls, and the time at each check of its loop. -/
structure TransferEnv where
  start : ℕ
  put : PutEnv
  get : ℕ → GetEnv
  elapsed : ℕ → ℕ

/-- The locals of `TransferPacket`; `fDone` once the loop has ended. -/
structure TransferLocals where
  ch : SysChannel
  ptRecvPkt : ByteArea
  lRet : BitVec 32
  fDone : Bool

/-- One pass of the loop of `TransferPacket`. -/
def transferPass (counter : ℕ → BitVec 32) (fuel : ℕ) (e : TransferEnv) (ptSendPkt : ByteArea)
    (ulRecvBufferSize ulTimeout : BitVec 64) (k : ℕ) (s : TransferLocals) :
    Option TransferLocals :=
  (getPacketBL counter fuel (e.get k) s.ptRecvPkt ulRecvBufferSize ulTimeout s.ch).map fun r =>
    if r.2.lRet = netanaNoError then
      if answers r.2.ptRecvPkt ptSendPkt then ⟨r.1, r.2.ptRecvPkt, netanaNoError, true⟩
      -- any other packet is dropped, and the loop goes on until the time is up
      else ⟨r.1, r.2.ptRecvPkt, netanaTransferTimeout, !decide
        ((counter (e.start + e.elapsed k) - counter e.start).setWidth 64 < ulTimeout)⟩
    else ⟨r.1, r.2.ptRecvPkt, r.2.lRet, true⟩

/-- `TransferPacket` after at most `n` passes, its waits having at most `fuel` passes each. -/
def transferPacket (counter : ℕ → BitVec 32) (fuel : ℕ) (e : TransferEnv)
    (ptSendPkt ptRecvPkt : ByteArea) (ulRecvBufferSize ulTimeout : BitVec 64) (ch : SysChannel) :
    ℕ → Option TransferLocals
  -- the loop is entered only if the packet has been sent
  | 0 => (putPacketBL counter fuel e.put ptSendPkt ulTimeout ch).map fun r =>
      ⟨r.1, ptRecvPkt, r.2, r.2 != netanaNoError⟩
  | n + 1 =>
    (transferPacket counter fuel e ptSendPkt ptRecvPkt ulRecvBufferSize ulTimeout ch n).bind
      fun s => if s.fDone then some s
        else transferPass counter fuel e ptSendPkt ulRecvBufferSize ulTimeout n s

end NetanaDriver
