import NetanaDriver.DeviceSession
import NetanaDriver.HandshakeThreads

/-! The packet mailboxes: `netana_put_packet` and `netana_get_packet` with `put_packet` and
`get_packet` (toolkit/netana_functions.c), one statement a step, for any number of threads, and
the device that empties the send mailbox and fills the receive mailbox. -/
namespace NetanaDriver
open ToggleHandshake LaggingCache

variable {β ι : Type*}

def netanaDevMailboxFull : BitVec 32 := 0x80210007#32
def netanaDevMailboxTooShort : BitVec 32 := 0x80210009#32
def netanaDevGetNoPacket : BitVec 32 := 0x8021000A#32
def netanaBufferTooShort : BitVec 32 := 0x8021000B#32
def netanaDrvCmdActive : BitVec 32 := 0x80220013#32

def netanaPacketHeaderSize : BitVec 32 := 40#32
def netanaChannelMailboxSize : BitVec 32 := 1596#32

/-- `tHeader.ulLen` of the packet at an address. -/
def ulLenAt (pb : ByteArea) : BitVec 32 := pb 19 ++ pb 18 ++ pb 17 ++ pb 16

/-- The bytes of the packet at an address: its header and as much data as `ulLen` says. -/
def packetAt (pb : ByteArea) : List (BitVec 8) :=
  (List.range ((ulLenAt pb).toNat + netanaPacketHeaderSize.toNat)).map pb

/-- A well-formed packet: its length fits into 32 bits. -/
structure NetanaPacket where
  bytes : ByteArea
  length_lt : (ulLenAt bytes).toNat + netanaPacketHeaderSize.toNat < 2 ^ 32

/-- A call of `netana_put_packet`: its number among all calls and its parameters. -/
structure PutCall where
  nr : ℕ
  ptSendPkt : NetanaPacket
  ulTimeout : BitVec 32

/-- A call of `netana_get_packet`, with the receive buffer as it is on entry. -/
structure GetCall where
  nr : ℕ
  ulSize : BitVec 32
  ptRecvPkt : ByteArea
  ulTimeout : BitVec 32

/-- What `netana_get_packet` returns: its result, and the receive buffer. -/
structure GetReturn where
  call : GetCall
  lRet : BitVec 32
  ptRecvPkt : ByteArea

/-- The statement a thread executes next in `netana_put_packet` and `put_packet`. -/
inductive PutPc where
  | waitMutex (c : PutCall)
  | checkSize (c : PutCall)
  | waitEmpty (c : PutCall) (stage : WaitStage)
  | countPacket (c : PutCall)
  | copyPacket (c : PutCall)
  | toggle (c : PutCall) (stage : ToggleStage)
  | releaseMutex (c : PutCall) (lRet : BitVec 32)
  | ret (c : PutCall) (lRet : BitVec 32)

/-- The statement a thread executes next in `netana_get_packet` and `get_packet`. -/
inductive GetPc where
  | waitMutex (c : GetCall)
  | waitFull (c : GetCall) (stage : WaitStage)
  | countPacket (c : GetCall)
  | readSize (c : GetCall)
  | copyPacket (c : GetCall) (ulCopySize lRet : BitVec 32)
  | toggle (r : GetReturn) (stage : ToggleStage)
  | releaseMutex (r : GetReturn)
  | ret (r : GetReturn)

/-- The send mailbox with its part of the device instance; `device` is a packet the device has
read and not yet acknowledged. -/
structure SendMbx where
  ulSendMailboxLength : BitVec 32
  abSendMailbox : ByteArea
  ulSendPacketCnt : BitVec 32
  pvSendMBXMutex : Bool
  device : Option (List (BitVec 8))
  -- history: calls that have toggled the bit, packets the device has consumed, calls that have
  -- returned
  sent : List PutCall
  consumed : List (List (BitVec 8))
  returned : List (PutCall × BitVec 32)

/-- The receive mailbox; `device` is whether the device has written a packet and not yet
indicated it. -/
structure RecvMbx where
  abRecvMailbox : ByteArea
  ulRecvPacketCnt : BitVec 32
  pvRecvMBXMutex : Bool
  device : Bool
  -- history: packets the device has indicated, what calls have taken out, calls that have
  -- returned
  written : List (List (BitVec 8))
  received : List GetReturn
  returned : List GetReturn

/-- What a step finds out from outside: about a wait, and whether `OS_WaitMutex` gives up. -/
structure MbxChoice where
  wait : WaitChoice
  fMutexTimeout : Bool
  deriving DecidableEq, Repr

/-- `OS_WaitMutex` on the flag of the mutex: blocks while it is set, unless it gives up. -/
def osWaitMutex (flag fTimeout : Bool) : Option Bool :=
  if fTimeout then some false else if flag then none else some true

/-- `OS_WaitMutex` succeeds only on a free mutex. -/
theorem osWaitMutex_free {flag fTimeout : Bool} (h : osWaitMutex flag fTimeout = some true) :
    flag = false := by
  rw [osWaitMutex] at h
  split at h
  · cases h
  · split at h
    · cases h
    · rename_i hflag
      simpa using hflag

/-- Record that the call has toggled the bit. -/
def SendMbx.noteSent (m : SendMbx) (stage : ToggleStage) (c : PutCall) : SendMbx :=
  { m with sent := if stage = .xorHost then m.sent ++ [c] else m.sent }

def RecvMbx.noteReceived (m : RecvMbx) (stage : ToggleStage) (r : GetReturn) : RecvMbx :=
  { m with received := if stage = .xorHost then m.received ++ [r] else m.received }

/-- The next statement of `netana_put_packet`; no next one after its return. -/
def netanaPutPacket (ch : MbxChoice) (pc : PutPc) (s : DrvState β) (m : SendMbx) :
    Option (DrvState β × SendMbx × Option PutPc) :=
  match pc with
  | .waitMutex c => (osWaitMutex m.pvSendMBXMutex ch.fMutexTimeout).map fun fLocked =>
      if fLocked then (s, { m with pvSendMBXMutex := true }, some (.checkSize c))
      else (s, m, some (.ret c netanaDrvCmdActive))
  | .checkSize c => some (s, m, some
      (if ulLenAt c.ptSendPkt.bytes + netanaPacketHeaderSize > m.ulSendMailboxLength
        then .releaseMutex c netanaDevMailboxTooShort else .waitEmpty c .checkFirst))
  | .waitEmpty c stage => (waitStep sendMbxBit .equal c.ulTimeout ch.wait stage s).map fun r =>
      (r.1, m, some (match r.2 with
        | .goto stage => .waitEmpty c stage
        | .ret true => .countPacket c
        | .ret false => .releaseMutex c netanaDevMailboxFull))
  | .countPacket c => some (s, { m with ulSendPacketCnt := m.ulSendPacketCnt + 1#32 },
      some (.copyPacket c))
  | .copyPacket c => some (s, { m with
      abSendMailbox := osMemcpy m.abSendMailbox c.ptSendPkt.bytes
        (ulLenAt c.ptSendPkt.bytes + netanaPacketHeaderSize) }, some (.toggle c .enterLock))
  | .toggle c stage => (toggleStep sendMbxBit stage s).map fun r =>
      (r.1, m.noteSent stage c, some (match r.2 with
        | some next => .toggle c next
        | none => .releaseMutex c netanaNoError))
  | .releaseMutex c lRet => some (s, { m with pvSendMBXMutex := false }, some (.ret c lRet))
  | .ret c lRet => some (s, { m with returned := m.returned ++ [(c, lRet)] }, none)

/-- `ulCopySize` and `lRet` of `get_packet`, for a packet in the mailbox and a buffer size. -/
def copySize (pb : ByteArea) (ulRecvBufferSize : BitVec 32) : BitVec 32 × BitVec 32 :=
  if ulLenAt pb + netanaPacketHeaderSize > ulRecvBufferSize then
    (ulRecvBufferSize, netanaBufferTooShort)
  else (ulLenAt pb + netanaPacketHeaderSize, netanaNoError)

/-- The next statement of `netana_get_packet`. -/
def netanaGetPacket (ch : MbxChoice) (pc : GetPc) (s : DrvState β) (m : RecvMbx) :
    Option (DrvState β × RecvMbx × Option GetPc) :=
  match pc with
  | .waitMutex c => (osWaitMutex m.pvRecvMBXMutex ch.fMutexTimeout).map fun fLocked =>
      if fLocked then (s, { m with pvRecvMBXMutex := true }, some (.waitFull c .checkFirst))
      else (s, m, some (.ret ⟨c, netanaDrvCmdActive, c.ptRecvPkt⟩))
  | .waitFull c stage => (waitStep recvMbxBit .unequal c.ulTimeout ch.wait stage s).map fun r =>
      (r.1, m, some (match r.2 with
        | .goto stage => .waitFull c stage
        | .ret true => .countPacket c
        | .ret false => .releaseMutex ⟨c, netanaDevGetNoPacket, c.ptRecvPkt⟩))
  | .countPacket c => some (s, { m with ulRecvPacketCnt := m.ulRecvPacketCnt + 1#32 },
      some (.readSize c))
  | .readSize c => some (s, m, some (.copyPacket c (copySize m.abRecvMailbox c.ulSize).1
      (copySize m.abRecvMailbox c.ulSize).2))
  | .copyPacket c ulCopySize lRet => some (s, m, some (.toggle
      ⟨c, lRet, osMemcpy c.ptRecvPkt m.abRecvMailbox ulCopySize⟩ .enterLock))
  | .toggle r stage => (toggleStep recvMbxBit stage s).map fun u =>
      (u.1, m.noteReceived stage r, some (match u.2 with
        | some next => .toggle r next
        | none => .releaseMutex r))
  | .releaseMutex r => some (s, { m with pvRecvMBXMutex := false }, some (.ret r))
  | .ret r => some (s, { m with returned := m.returned ++ [r] }, none)

/-- What a thread is doing. -/
inductive MbxPc where
  | idle
  | put (pc : PutPc)
  | get (pc : GetPc)

structure MbxState (ι β : Type*) where
  drv : DrvState β
  tSendMbx : SendMbx
  tRecvMbx : RecvMbx
  pc : ι → MbxPc
  -- history: calls started
  started : ℕ

inductive MbxAction (ι β : Type*) where
  | put (i : ι) (ptSendPkt : NetanaPacket) (ulTimeout : BitVec 32)
  | get (i : ι) (ulSize : BitVec 32) (ptRecvPkt : ByteArea) (ulTimeout : BitVec 32)
  | step (i : ι) (ch : MbxChoice)
  | readPacket
  | acknowledge
  | writePacket (p : NetanaPacket)
  | indicate
  | other (a : InterruptAction β)

/-- The host bit and the netX bit in the dual-port memory differ. -/
def DrvState.unequal (s : DrvState β) (b : ℕ) : Prop :=
  s.usHostFlags.getLsbD b ≠ s.usNetxFlags.getLsbD b

instance (s : DrvState β) (b : ℕ) : Decidable (s.unequal b) :=
  inferInstanceAs (Decidable (_ ≠ _))

/-- A thread calls or goes on with its call; the device reads the send mailbox while it is full
and acknowledges, or writes the receive mailbox while it is empty and indicates; or something
else happens that leaves the four mailbox bits alone. -/
def mbxStep [DecidableEq ι] (x : MbxState ι β) : MbxAction ι β → Option (MbxState ι β)
  | .put i ptSendPkt ulTimeout => match x.pc i with
    | .idle => some { x with
        started := x.started + 1
        pc := Function.update x.pc i (.put (.waitMutex ⟨x.started, ptSendPkt, ulTimeout⟩)) }
    | _ => none
  | .get i ulSize ptRecvPkt ulTimeout => match x.pc i with
    | .idle => some { x with
        started := x.started + 1
        pc := Function.update x.pc i
          (.get (.waitMutex ⟨x.started, ulSize, ptRecvPkt, ulTimeout⟩)) }
    | _ => none
  | .step i ch => match x.pc i with
    | .idle => none
    | .put pc => (netanaPutPacket ch pc x.drv x.tSendMbx).map fun r => { x with
        drv := r.1
        tSendMbx := r.2.1
        pc := Function.update x.pc i (r.2.2.elim .idle .put) }
    | .get pc => (netanaGetPacket ch pc x.drv x.tRecvMbx).map fun r => { x with
        drv := r.1
        tRecvMbx := r.2.1
        pc := Function.update x.pc i (r.2.2.elim .idle .get) }
  | .readPacket =>
    if x.drv.unequal sendMbxBit ∧ x.tSendMbx.device.isNone then some { x with
      tSendMbx := { x.tSendMbx with device := some (packetAt x.tSendMbx.abSendMailbox) } }
    else none
  | .acknowledge => x.tSendMbx.device.map fun p => { x with
      drv := x.drv.toggleNetx sendMbxBit
      tSendMbx := { x.tSendMbx with device := none, consumed := x.tSendMbx.consumed ++ [p] } }
  | .writePacket p =>
    if ¬ x.drv.unequal recvMbxBit ∧ x.tRecvMbx.device = false then some { x with
      tRecvMbx := { x.tRecvMbx with abRecvMailbox := p.bytes, device := true } }
    else none
  | .indicate =>
    if x.tRecvMbx.device then some { x with
      drv := x.drv.toggleNetx recvMbxBit
      tRecvMbx := { x.tRecvMbx with
        device := false, written := x.tRecvMbx.written ++ [packetAt x.tRecvMbx.abRecvMailbox] } }
    else none
  | .other a =>
    if a.spares sendMbxBit x.drv ∧ a.spares recvMbxBit x.drv then
      (interruptStep x.drv a).map fun t => { x with drv := t }
    else none

end NetanaDriver
