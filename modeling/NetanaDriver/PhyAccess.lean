import NetanaDriver.CardRegistry
import NetanaDriver.HandshakeThreads

/-! PHY register accesses: `netana_access_phy_reg` (toolkit/netana_functions.c), one statement a
step, for any number of threads, and the firmware that executes the request it finds in the
MDIO block of the dual-port memory while the MDIO bits differ. -/
namespace NetanaDriver
open ToggleHandshake LaggingCache

variable {β ι : Type*} [DecidableEq ι]

def netanaPhyDirectionRead : BitVec 32 := 0#32
def netanaPhyDirectionWrite : BitVec 32 := 1#32

/-- `NETANA_MDIO_BLOCK_T`. -/
structure MdioBlock where
  ulDirection : BitVec 32
  ulPhyNum : BitVec 32
  ulPhyReg : BitVec 32
  ulValue : BitVec 32
  deriving DecidableEq, Repr

/-- A call of `netana_access_phy_reg`: its number among all calls and its parameters, with the
value that `pusValue` points to on entry. -/
structure PhyCall where
  nr : ℕ
  ulDirection : BitVec 32
  ulPhyNum : BitVec 8
  ulPhyReg : BitVec 8
  usValue : BitVec 16
  ulTimeout : BitVec 32
  deriving DecidableEq, Repr

/-- The ways a call can end: no such port, bits unequal on entry, bits unequal after the
request, or finished with a value behind `pusValue`. -/
inductive PhyExit where
  | noPort
  | stillUnequal
  | notFinished
  | finished (usValue : BitVec 16)
  deriving DecidableEq, Repr

def PhyExit.lRet : PhyExit → BitVec 32
  | .noPort => netanaInvalidParameter
  | .stillUnequal | .notFinished => netanaFunctionFailed
  | .finished _ => netanaNoError

/-- The statement a thread executes next in `netana_access_phy_reg`. -/
inductive PhyPc where
  | idle
  | checkPort (c : PhyCall)
  | waitEntry (c : PhyCall) (stage : WaitStage)
  | setDirection (c : PhyCall)
  | setPhyNum (c : PhyCall)
  | setPhyReg (c : PhyCall)
  | setValue (c : PhyCall)
  | toggle (c : PhyCall) (stage : ToggleStage)
  | waitDone (c : PhyCall) (stage : WaitStage)
  | getValue (c : PhyCall)
  | ret (c : PhyCall) (exit : PhyExit)
  deriving DecidableEq, Repr

/-- The step the MDIO handler of the firmware takes next. -/
inductive MdioPc where
  | waitRequest
  | execute (request : MdioBlock)
  | store (request : MdioBlock) (ulResult : BitVec 32)
  | acknowledge (request : MdioBlock) (ulResult : BitVec 32)
  deriving DecidableEq, Repr

/-- A request that the firmware has executed, and the value it has produced. -/
structure MdioServed where
  request : MdioBlock
  ulResult : BitVec 32
  deriving DecidableEq, Repr

structure PhyResult where
  call : PhyCall
  exit : PhyExit
  deriving DecidableEq, Repr

structure PhyState (ι β : Type*) where
  drv : DrvState β
  ulPortCnt : BitVec 32
  tMdioBlock : MdioBlock
  pc : ι → PhyPc
  fw : MdioPc
  -- history: calls started, calls that have toggled the bit, requests acknowledged, calls that
  -- have changed the block or the host flags, and calls that have returned
  started : ℕ
  requested : List PhyCall
  served : List MdioServed
  touched : List PhyCall
  results : List PhyResult

def PhyState.goto (x : PhyState ι β) (i : ι) (pc : PhyPc) : PhyState ι β :=
  { x with pc := Function.update x.pc i pc }

def PhyState.setDrv (x : PhyState ι β) (s : DrvState β) : PhyState ι β := { x with drv := s }

def PhyState.setBlock (x : PhyState ι β) (q : MdioBlock) : PhyState ι β :=
  { x with tMdioBlock := q }

/-- Record that the call has toggled the bit. -/
def PhyState.noteRequest (x : PhyState ι β) (stage : ToggleStage) (c : PhyCall) :
    PhyState ι β :=
  { x with requested := if stage = .xorHost then x.requested ++ [c] else x.requested }

def PhyState.noteResult (x : PhyState ι β) (r : PhyResult) : PhyState ι β :=
  { x with results := x.results ++ [r] }

def PhyPc.call : PhyPc → Option PhyCall
  | .idle => none
  | .checkPort c | .waitEntry c _ | .setDirection c | .setPhyNum c | .setPhyReg c | .setValue c
  | .toggle c _ | .waitDone c _ | .getValue c | .ret c _ => some c

/-- The next statement of a call; `none` while it sleeps or blocks. -/
def netanaAccessPhyReg (ch : WaitChoice) (i : ι) (x : PhyState ι β) : Option (PhyState ι β) :=
  match x.pc i with
  | .idle => none
  | .checkPort c => some (x.goto i (if c.ulPhyNum.toNat < x.ulPortCnt.toNat
      then .waitEntry c .checkFirst else .ret c .noPort))
  | .waitEntry c stage => (waitStep mdioBit .equal c.ulTimeout ch stage x.drv).map fun r =>
      (x.setDrv r.1).goto i (match r.2 with
        | .goto stage => .waitEntry c stage
        | .ret true => .setDirection c
        | .ret false => .ret c .stillUnequal)
  | .setDirection c => some ((x.setBlock { x.tMdioBlock with
      ulDirection := c.ulDirection }).goto i (.setPhyNum c))
  | .setPhyNum c => some ((x.setBlock { x.tMdioBlock with
      ulPhyNum := c.ulPhyNum.setWidth 32 }).goto i (.setPhyReg c))
  | .setPhyReg c => some ((x.setBlock { x.tMdioBlock with
      ulPhyReg := c.ulPhyReg.setWidth 32 }).goto i (.setValue c))
  | .setValue c => some ((if c.ulDirection = netanaPhyDirectionWrite
      then x.setBlock { x.tMdioBlock with ulValue := c.usValue.setWidth 32 }
      else x).goto i (.toggle c .enterLock))
  | .toggle c stage => (toggleStep mdioBit stage x.drv).map fun r =>
      ((x.setDrv r.1).noteRequest stage c).goto i (match r.2 with
        | some next => .toggle c next
        | none => .waitDone c .checkFirst)
  | .waitDone c stage => (waitStep mdioBit .equal c.ulTimeout ch stage x.drv).map fun r =>
      (x.setDrv r.1).goto i (match r.2 with
        | .goto stage => .waitDone c stage
        | .ret true => .getValue c
        | .ret false => .ret c .notFinished)
  | .getValue c => some (x.goto i (.ret c (.finished
      (if c.ulDirection = netanaPhyDirectionRead then x.tMdioBlock.ulValue.setWidth 16
        else c.usValue))))
  | .ret c exit => some ((x.noteResult ⟨c, exit⟩).goto i .idle)

/-- The firmware executes the request it finds while the bits differ, stores the result and
toggles its bit; other steps take place in between. -/
def mdioFirmware (ulResult : BitVec 32) (x : PhyState ι β) : Option (PhyState ι β) :=
  match x.fw with
  | .waitRequest =>
    if x.drv.usHostFlags.getLsbD mdioBit ≠ x.drv.usNetxFlags.getLsbD mdioBit then
      some { x with fw := .execute x.tMdioBlock }
    else none
  | .execute q => some { x with fw := .store q ulResult }
  | .store q v => some { x with
      tMdioBlock := { x.tMdioBlock with ulValue := v }, fw := .acknowledge q v }
  | .acknowledge q v => some { x with
      drv := { x.drv with usNetxFlags := toggleBit x.drv.usNetxFlags mdioBit }
      served := x.served ++ [⟨q, v⟩]
      fw := .waitRequest }

/-- Record the call of a thread that has changed the block or the host flags. -/
def PhyState.noteTouched (x y : PhyState ι β) (i : ι) : PhyState ι β :=
  if y.tMdioBlock = x.tMdioBlock ∧ y.drv.ulHostFlags = x.drv.ulHostFlags ∧
    y.drv.usHostFlags = x.drv.usHostFlags then y
  else { y with touched := y.touched ++ (x.pc i).call.toList }

inductive PhyAction (ι β : Type*) where
  | call (i : ι) (ulDirection : BitVec 32) (ulPhyNum ulPhyReg : BitVec 8) (usValue : BitVec 16)
      (ulTimeout : BitVec 32)
  | step (i : ι) (ch : WaitChoice)
  | firmware (ulResult : BitVec 32)
  | other (a : InterruptAction β)

/-- A thread calls, a call or the MDIO handler goes on, or something else happens that leaves
the two MDIO bits alone. -/
def phyStep (x : PhyState ι β) : PhyAction ι β → Option (PhyState ι β)
  | .call i ulDirection ulPhyNum ulPhyReg usValue ulTimeout =>
    if x.pc i = .idle then some { x with
      started := x.started + 1
      pc := Function.update x.pc i
        (.checkPort ⟨x.started, ulDirection, ulPhyNum, ulPhyReg, usValue, ulTimeout⟩) }
    else none
  | .step i ch => (netanaAccessPhyReg ch i x).map fun y => x.noteTouched y i
  | .firmware ulResult => mdioFirmware ulResult x
  | .other a =>
    if a.spares mdioBit x.drv then (interruptStep x.drv a).map x.setDrv else none

/-- The request in a block is that of the call. -/
def MdioBlock.requests (q : MdioBlock) (c : PhyCall) : Prop :=
  q.ulDirection = c.ulDirection ∧ q.ulPhyNum = c.ulPhyNum.setWidth 32 ∧
    q.ulPhyReg = c.ulPhyReg.setWidth 32 ∧
    (c.ulDirection = netanaPhyDirectionWrite → q.ulValue = c.usValue.setWidth 32)

/-- A call that has finished was answered: the request that belongs to its own toggle was its
own, with its own value for a write, and a read returns what the firmware produced there. -/
def PhyResult.Answered (r : PhyResult) (x : PhyState ι β) : Prop :=
  ∀ v, r.exit = .finished v → ∃ (k : ℕ) (e : MdioServed),
    x.requested[k]? = some r.call ∧ x.served[k]? = some e ∧ e.request.requests r.call ∧
    (r.call.ulDirection = netanaPhyDirectionRead → v = e.ulResult.setWidth 16)

/-- The firmware owes an acknowledge. -/
def PhyState.owes (x : PhyState ι β) : Prop :=
  x.drv.usHostFlags.getLsbD mdioBit ≠ x.drv.usNetxFlags.getLsbD mdioBit

end NetanaDriver
