import NetanaDriver.PhyAccess

/-! Runs of PHY register accesses: while at most one call is between its entry wait and its
return, the MDIO block and the MDIO bits belong to that call or to the firmware, whatever has
timed out before and however late the driver sees an acknowledge. -/
namespace NetanaDriver
open ToggleHandshake LaggingCache

variable {β ι : Type*}

/-- Between the entry wait of a call and the end of its access. -/
def PhyPc.active : PhyPc → Bool
  | .setDirection _ | .setPhyNum _ | .setPhyReg _ | .setValue _ | .toggle _ _ | .waitDone _ _
  | .getValue _ => true
  | _ => false

def PhyPc.toggling : PhyPc → Option (ℕ × ToggleStage)
  | .toggle _ stage => some (mdioBit, stage)
  | _ => none

def PhyState.tog (x : PhyState ι β) (i : ι) : Option (ℕ × ToggleStage) := (x.pc i).toggling

def PhyState.hostMdio (x : PhyState ι β) : Bool := x.drv.hostBit mdioBit

def PhyState.netxMdio (x : PhyState ι β) : Bool := x.drv.usNetxFlags.getLsbD mdioBit

/-- Every request is acknowledged, and all that the driver has still to see is the
acknowledge. -/
def PhyState.settled (x : PhyState ι β) (c : Cache (BitVec 16)) : Prop :=
  x.netxMdio = x.hostMdio ∧ c.LatchedOn (·.getLsbD mdioBit) (!x.hostMdio)

/-- The request that the firmware works on, or is going to, is that of the call. -/
def PhyState.requestOf (x : PhyState ι β) (call : PhyCall) : Prop :=
  match x.fw with
  | .waitRequest => x.tMdioBlock.requests call
  | .execute q | .store q _ => q.requests call
  | .acknowledge q v => q.requests call ∧ x.tMdioBlock.ulValue = v

/-- The last request served was that of the call, and the block shows its result. -/
def PhyState.answered (x : PhyState ι β) (call : PhyCall) : Prop :=
  ∃ e, x.served.getLast? = some e ∧ e.request.requests call ∧ x.tMdioBlock.ulValue = e.ulResult

/-- The call has requested, and is being served or has been. -/
def PhyState.pending (x : PhyState ι β) (call : PhyCall) : Prop :=
  x.requested.getLast? = some call ∧
    ((x.netxMdio = (!x.hostMdio) ∧ x.requestOf call) ∨
      (x.netxMdio = x.hostMdio ∧ x.answered call))

/-- What the position of a thread says about the block and the bits. -/
def PhyState.position (x : PhyState ι β) (c : Cache (BitVec 16)) : PhyPc → Prop
  | .setDirection _ => x.settled c
  | .setPhyNum call => x.settled c ∧ x.tMdioBlock.ulDirection = call.ulDirection
  | .setPhyReg call => x.settled c ∧ x.tMdioBlock.ulDirection = call.ulDirection ∧
      x.tMdioBlock.ulPhyNum = call.ulPhyNum.setWidth 32
  | .setValue call => x.settled c ∧ x.tMdioBlock.ulDirection = call.ulDirection ∧
      x.tMdioBlock.ulPhyNum = call.ulPhyNum.setWidth 32 ∧
      x.tMdioBlock.ulPhyReg = call.ulPhyReg.setWidth 32
  | .toggle call .enterLock | .toggle call .xorHost =>
      x.settled c ∧ x.tMdioBlock.requests call
  | .toggle call .storeHost => x.requested.getLast? = some call ∧
      x.netxMdio = (!x.hostMdio) ∧ x.tMdioBlock.requests call
  | .toggle call .leaveLock | .waitDone call _ => x.pending call
  | .getValue call => x.requested.getLast? = some call ∧ x.netxMdio = x.hostMdio ∧
      x.answered call
  | .ret call exit => PhyResult.Answered ⟨call, exit⟩ x
  | _ => True

structure PhyInv (x : PhyState ι β) (c : Cache (BitVec 16)) : Prop where
  handshake : HandshakeInv x.drv x.tog c
  latched : c.LatchedOn (·.getLsbD mdioBit) x.hostMdio
  alone : ∀ i j, (x.pc i).active = true → (x.pc j).active = true → i = j
  counts : x.requested.length = x.served.length + if x.netxMdio = x.hostMdio then 0 else 1
  firmware : x.fw ≠ .waitRequest →
    x.netxMdio = (!x.hostMdio) ∧ ∀ i call, x.pc i ≠ .toggle call .storeHost
  position : ∀ i, x.position c (x.pc i)
  results : ∀ r ∈ x.results, r.Answered x

theorem isCommandBit_mdio : isCommandBit mdioBit := by
  refine ⟨?_, ?_, ?_, ?_⟩ <;> decide

theorem getElem?_of_prefix {α : Type*} {xs ys : List α} (h : xs <+: ys) {k : ℕ} {a : α}
    (hk : xs[k]? = some a) : ys[k]? = some a := by
  obtain ⟨hlt, rfl⟩ := List.getElem?_eq_some_iff.mp hk
  exact List.prefix_iff_getElem?.mp h k hlt

/-- What has been answered stays answered. -/
theorem PhyResult.Answered.mono {x y : PhyState ι β} {r : PhyResult} (h : r.Answered x)
    (hreq : x.requested <+: y.requested) (hserved : x.served <+: y.served) : r.Answered y := by
  intro v hv
  obtain ⟨k, e, hk, he, hmatch⟩ := h v hv
  exact ⟨k, e, getElem?_of_prefix hreq hk, getElem?_of_prefix hserved he, hmatch⟩

/-- Threads outside their access do not depend on the block or the bits. -/
theorem position_of_inactive {x y : PhyState ι β} {c d : Cache (BitVec 16)} {p : PhyPc}
    (hp : p.active = false) (hreq : x.requested <+: y.requested)
    (hserved : x.served <+: y.served) (h : x.position c p) : y.position d p := by
  cases p with
  | idle | checkPort | waitEntry => trivial
  | ret call exit => exact PhyResult.Answered.mono h hreq hserved
  | setDirection | setPhyNum | setPhyReg | setValue | toggle | waitDone | getValue => cases hp

/-- The MDIO bits, the block, and the requests are the same to all threads. -/
structure SameMdio (x y : PhyState ι β) (c d : Cache (BitVec 16)) : Prop where
  spared : Spared mdioBit x.drv y.drv c d
  block : y.tMdioBlock = x.tMdioBlock
  requestOf : ∀ call, x.requestOf call → y.requestOf call
  requested : y.requested = x.requested
  served : y.served = x.served

theorem SameMdio.host {x y : PhyState ι β} {c d : Cache (BitVec 16)} (h : SameMdio x y c d) :
    y.hostMdio = x.hostMdio := h.spared.host

theorem SameMdio.netx {x y : PhyState ι β} {c d : Cache (BitVec 16)} (h : SameMdio x y c d) :
    y.netxMdio = x.netxMdio := h.spared.netx

theorem SameMdio.settled {x y : PhyState ι β} {c d : Cache (BitVec 16)} (h : SameMdio x y c d)
    (hs : x.settled c) : y.settled d := by
  rw [PhyState.settled, h.host, h.netx]
  exact ⟨hs.1, h.spared.latched _ hs.2⟩

theorem SameMdio.answered {x y : PhyState ι β} {c d : Cache (BitVec 16)} (h : SameMdio x y c d)
    {call : PhyCall} (ha : x.answered call) : y.answered call := by
  rw [PhyState.answered, h.served, h.block]
  exact ha

theorem SameMdio.pending {x y : PhyState ι β} {c d : Cache (BitVec 16)} (h : SameMdio x y c d)
    {call : PhyCall} (hp : x.pending call) : y.pending call := by
  rw [PhyState.pending, h.requested, h.host, h.netx]
  exact ⟨hp.1, hp.2.imp (And.imp_right (h.requestOf call)) (And.imp_right h.answered)⟩

theorem SameMdio.position {x y : PhyState ι β} {c d : Cache (BitVec 16)} (h : SameMdio x y c d)
    {p : PhyPc} (hp : x.position c p) : y.position d p := by
  cases p with
  | idle | checkPort | waitEntry => trivial
  | setDirection call => exact h.settled hp
  | setPhyNum call | setPhyReg call | setValue call =>
    unfold PhyState.position at hp ⊢
    rw [h.block]
    exact ⟨h.settled hp.1, hp.2⟩
  | toggle call stage =>
    cases stage with
    | enterLock | xorHost =>
      unfold PhyState.position at hp ⊢
      rw [h.block]
      exact ⟨h.settled hp.1, hp.2⟩
    | storeHost =>
      unfold PhyState.position at hp ⊢
      rw [h.requested, h.netx, h.host, h.block]
      exact hp
    | leaveLock => exact h.pending hp
  | waitDone call stage => exact h.pending hp
  | getValue call =>
    unfold PhyState.position at hp ⊢
    rw [h.requested, h.netx, h.host]
    exact ⟨hp.1, hp.2.1, h.answered hp.2.2⟩
  | ret call exit =>
    apply PhyResult.Answered.mono hp
    · rw [h.requested]
    · rw [h.served]

theorem SameMdio.answeredResult {x y : PhyState ι β} {c d : Cache (BitVec 16)}
    (h : SameMdio x y c d) {r : PhyResult} (hr : r.Answered x) : r.Answered y := by
  apply hr.mono
  · rw [h.requested]
  · rw [h.served]

/-- A thread at work is the only one. -/
theorem PhyInv.others {x : PhyState ι β} {c : Cache (BitVec 16)} (hi : PhyInv x c) {i : ι}
    (h : (x.pc i).active = true) (j : ι) (hj : j ≠ i) : (x.pc j).active = false := by
  by_contra hne
  exact hj (hi.alone j i (by simpa using hne) h)

/-- With every request acknowledged the firmware waits for the next one. -/
theorem PhyInv.firmware_waits {x : PhyState ι β} {c : Cache (BitVec 16)} (hi : PhyInv x c)
    (h : x.netxMdio = x.hostMdio) : x.fw = .waitRequest := by
  by_contra hne
  have hbits := (hi.firmware hne).1
  rw [h] at hbits
  simp at hbits

/-- An entry wait that succeeds has seen the last acknowledge. -/
theorem PhyInv.settled_of_equal {x : PhyState ι β} {c : Cache (BitVec 16)} (hi : PhyInv x c)
    (h : x.drv.bitStateIs mdioBit .equal = true) : x.settled c := by
  have hcached := (hi.handshake.equal_iff isCommandBit_mdio.1).mp h
  exact hi.handshake.seen hi.latched hcached

/-- A call that reads the value behind its own acknowledge has been answered. -/
theorem PhyInv.answered_result {x : PhyState ι β} {c : Cache (BitVec 16)} (hi : PhyInv x c)
    {call : PhyCall} (hlast : x.requested.getLast? = some call)
    (hbits : x.netxMdio = x.hostMdio) (hanswered : x.answered call) :
    PhyResult.Answered ⟨call, .finished (if call.ulDirection = netanaPhyDirectionRead
      then x.tMdioBlock.ulValue.setWidth 16 else call.usValue)⟩ x := by
  obtain ⟨e, he, hmatch, hvalue⟩ := hanswered
  have hlen := hi.counts
  rw [if_pos hbits, Nat.add_zero] at hlen
  intro v hv
  rw [List.getLast?_eq_getElem?] at hlast he
  refine ⟨x.requested.length - 1, e, hlast, ?_, hmatch, ?_⟩
  · rw [hlen]
    exact he
  · intro hread
    cases hv
    rw [if_pos hread, hvalue]

/-- The firmware sees a request only where there is one, and nobody between the two writes. -/
theorem PhyInv.request_seen {x : PhyState ι β} {c : Cache (BitVec 16)} (hi : PhyInv x c)
    (h : x.owes) : x.netxMdio = (!x.hostMdio) ∧ ∀ i call, x.pc i ≠ .toggle call .storeHost := by
  rcases hi.handshake.shown_cases isCommandBit_mdio with ⟨⟨i, htog⟩, hold⟩ | ⟨hno, hshown⟩
  · -- the first write of a toggle is not to be seen yet
    exfalso
    have hposition := hi.position i
    cases hpc : x.pc i
    all_goals
      rw [PhyState.tog, hpc] at htog
      cases htog
    rw [hpc] at hposition
    exact h (hold.trans hposition.2.1.symm)
  · refine ⟨?_, fun i call hpc => hno i ?_⟩
    · rw [PhyState.owes, hshown] at h
      exact Bool.eq_not.mpr (Ne.symm h)
    · rw [PhyState.tog, hpc]
      rfl

/-- While the firmware is at work, the only thread at work waits for it. -/
theorem PhyInv.waiting {x : PhyState ι β} {c : Cache (BitVec 16)} (hi : PhyInv x c)
    (hfw : x.fw ≠ .waitRequest) (i : ι) : (x.pc i).active = false ∨
      ∃ call, (x.pc i = .toggle call .leaveLock ∨ ∃ stage, x.pc i = .waitDone call stage) ∧
        x.requested.getLast? = some call ∧ x.requestOf call := by
  obtain ⟨hbits, hstore⟩ := hi.firmware hfw
  have hne : x.netxMdio ≠ x.hostMdio := by
    rw [hbits]
    simp
  have hposition := hi.position i
  cases hpc : x.pc i with
  | idle | checkPort | waitEntry | ret => exact Or.inl rfl
  | setDirection call =>
    rw [hpc] at hposition
    exact absurd hposition.1 hne
  | setPhyNum call | setPhyReg call | setValue call =>
    rw [hpc] at hposition
    exact absurd hposition.1.1 hne
  | toggle call stage =>
    rw [hpc] at hposition
    cases stage with
    | enterLock | xorHost => exact absurd hposition.1.1 hne
    | storeHost => exact absurd hpc (hstore i call)
    | leaveLock =>
      refine Or.inr ⟨call, Or.inl rfl, hposition.1, ?_⟩
      exact (hposition.2.resolve_right fun hr => hne hr.1).2
  | waitDone call stage =>
    rw [hpc] at hposition
    refine Or.inr ⟨call, Or.inr ⟨stage, rfl⟩, hposition.1, ?_⟩
    exact (hposition.2.resolve_right fun hr => hne hr.1).2
  | getValue call =>
    rw [hpc] at hposition
    exact absurd hposition.2.1 hne

/-- A step that moves no thread. -/
theorem PhyInv.of_pc {x y : PhyState ι β} {c d : Cache (BitVec 16)} (hi : PhyInv x c)
    (hpc : y.pc = x.pc) (hhandshake : HandshakeInv y.drv x.tog d)
    (hlatched : d.LatchedOn (·.getLsbD mdioBit) y.hostMdio)
    (hcounts : y.requested.length = y.served.length + if y.netxMdio = y.hostMdio then 0 else 1)
    (hfw : y.fw ≠ .waitRequest →
      y.netxMdio = (!y.hostMdio) ∧ ∀ i call, x.pc i ≠ .toggle call .storeHost)
    (hposition : ∀ i, y.position d (x.pc i)) (hresults : ∀ r ∈ y.results, r.Answered y) :
    PhyInv y d := by
  have htog : y.tog = x.tog := by
    funext i
    rw [PhyState.tog, PhyState.tog, hpc]
  refine ⟨?_, hlatched, ?_, hcounts, ?_, ?_, hresults⟩
  · rw [htog]
    exact hhandshake
  · rw [hpc]
    exact hi.alone
  · rw [hpc]
    exact hfw
  · rw [hpc]
    exact hposition

/-- A step of the firmware at work concerns the thread that waits for it. -/
theorem PhyInv.position_served {x y : PhyState ι β} {c d : Cache (BitVec 16)} (hi : PhyInv x c)
    (hfw : x.fw ≠ .waitRequest) (hreq : y.requested = x.requested)
    (hserved : x.served <+: y.served)
    (hpending : ∀ call, x.requested.getLast? = some call → x.requestOf call → y.pending call)
    (i : ι) : y.position d (x.pc i) := by
  rcases hi.waiting hfw i with hout | ⟨call, hpc, hlast, hrequest⟩
  · apply position_of_inactive hout _ hserved (hi.position i)
    rw [hreq]
  · rcases hpc with hpc | ⟨stage, hpc⟩
    · rw [hpc]
      exact hpending call hlast hrequest
    · rw [hpc]
      exact hpending call hlast hrequest

/-- The MDIO handler takes the request over or works on it. -/
theorem PhyInv.firmwareWorks {x y : PhyState ι β} {c : Cache (BitVec 16)} (hi : PhyInv x c)
    {next : MdioPc} (hy : y = { x with fw := next })
    (hseen : x.netxMdio = (!x.hostMdio) ∧ ∀ i call, x.pc i ≠ .toggle call .storeHost)
    (hrequest : ∀ call, x.requestOf call → y.requestOf call) : PhyInv y c := by
  subst hy
  have hsame : SameMdio x { x with fw := next } c c :=
    ⟨⟨rfl, rfl, fun _ hl => hl⟩, rfl, hrequest, rfl, rfl⟩
  exact hi.of_pc rfl hi.handshake hi.latched hi.counts (fun _ => hseen)
    (fun i => hsame.position (hi.position i)) hi.results

/-- The firmware stores the result, and the request stays pending. -/
theorem PhyInv.firmwareStore {x y : PhyState ι β} {c : Cache (BitVec 16)}
    {ulResult v : BitVec 32} {q : MdioBlock}
    (hi : PhyInv x c) (hfw : x.fw = .store q v) (h : mdioFirmware ulResult x = some y) :
    ∃ d, PhyInv y d := by
  rw [mdioFirmware, hfw] at h
  have hne : x.fw ≠ .waitRequest := by rw [hfw]; simp
  have hdef := Option.some.inj h
  have hpc : y.pc = x.pc := by rw [← hdef]
  have hdrv : y.drv = x.drv := by rw [← hdef]
  have hreq : y.requested = x.requested := by rw [← hdef]
  have hserved : y.served = x.served := by rw [← hdef]
  have hresults : y.results = x.results := by rw [← hdef]
  have hhost : y.hostMdio = x.hostMdio := by rw [PhyState.hostMdio, hdrv, PhyState.hostMdio]
  have hnetx : y.netxMdio = x.netxMdio := by rw [PhyState.netxMdio, hdrv, PhyState.netxMdio]
  refine ⟨c, hi.of_pc hpc ?_ ?_ ?_ ?_ ?_ ?_⟩
  · rw [hdrv]
    exact hi.handshake
  · rw [hhost]
    exact hi.latched
  · rw [hreq, hserved, hhost, hnetx]
    exact hi.counts
  · intro _
    rw [hhost, hnetx]
    exact hi.firmware hne
  · apply hi.position_served hne hreq (by rw [hserved])
    intro call hlast hrequest
    rw [PhyState.requestOf, hfw] at hrequest
    rw [PhyState.pending, hreq, hhost, hnetx]
    refine ⟨hlast, Or.inl ⟨(hi.firmware hne).1, ?_⟩⟩
    rw [← hdef]
    exact ⟨hrequest, rfl⟩
  · rw [hresults]
    intro r hr
    apply (hi.results r hr).mono
    · rw [hreq]
    · rw [hserved]

/-- The firmware acknowledges with the netX bit, and the request has been served. -/
theorem PhyInv.firmwareAcknowledge {x y : PhyState ι β} {c : Cache (BitVec 16)}
    {ulResult v : BitVec 32} {q : MdioBlock}
    (hi : PhyInv x c) (hfw : x.fw = .acknowledge q v) (h : mdioFirmware ulResult x = some y) :
    ∃ d, PhyInv y d := by
  rw [mdioFirmware, hfw] at h
  have hne : x.fw ≠ .waitRequest := by rw [hfw]; simp
  have hdef := Option.some.inj h
  have hpc : y.pc = x.pc := by rw [← hdef]
  have hreq : y.requested = x.requested := by rw [← hdef]
  have hserved : y.served = x.served ++ [⟨q, v⟩] := by rw [← hdef]
  have hresults : y.results = x.results := by rw [← hdef]
  have hprefix : x.served <+: y.served := by
    rw [hserved]
    exact List.prefix_append _ _
  have hhost : y.hostMdio = x.hostMdio := by
    rw [← hdef]
    rfl
  -- the toggle brings the netX bit to the value of the host bit
  have hold : x.drv.usNetxFlags.getLsbD mdioBit = !x.hostMdio := (hi.firmware hne).1
  have hflip : (toggleBit x.drv.usNetxFlags mdioBit).getLsbD mdioBit = x.hostMdio := by
    rw [getLsbD_toggleBit_self _ _ (by decide), hold, Bool.not_not]
  have hnetx : y.netxMdio = x.hostMdio := by
    rw [← hdef]
    exact hflip
  refine ⟨c.write (toggleBit x.drv.usNetxFlags mdioBit), hi.of_pc hpc ?_ ?_ ?_ ?_ ?_ ?_⟩
  · rw [← hdef]
    exact hi.handshake.netx _
  · rw [hhost]
    exact hi.latched.write_latch hflip
  · have hcounts := hi.counts
    have hnot : ¬ x.netxMdio = x.hostMdio := by
      rw [(hi.firmware hne).1]
      simp
    rw [if_neg hnot] at hcounts
    rw [hreq, hserved, hnetx, hhost, if_pos rfl, List.length_append]
    exact hcounts
  · intro hwait
    rw [← hdef] at hwait
    exact absurd rfl hwait
  · apply hi.position_served hne hreq hprefix
    intro call hlast hrequest
    rw [PhyState.requestOf, hfw] at hrequest
    rw [PhyState.pending, hreq, hnetx, hhost]
    refine ⟨hlast, Or.inr ⟨rfl, ⟨q, v⟩, ?_, hrequest.1, ?_⟩⟩
    · rw [hserved]
      exact List.getLast?_concat
    · rw [← hdef]
      exact hrequest.2
  · rw [hresults]
    intro r hr
    apply (hi.results r hr).mono _ hprefix
    rw [hreq]

/-- The steps of the MDIO handler. -/
theorem PhyInv.firmwareStep {x y : PhyState ι β} {c : Cache (BitVec 16)} {ulResult : BitVec 32}
    (hi : PhyInv x c) (h : mdioFirmware ulResult x = some y) : ∃ d, PhyInv y d := by
  have hstep := h
  rw [mdioFirmware] at h
  cases hfw : x.fw with
  | waitRequest =>
    rw [hfw] at h
    obtain ⟨howes, heq⟩ := Option.ite_none_right_eq_some.mp h
    refine ⟨c, hi.firmwareWorks (Option.some.inj heq).symm (hi.request_seen howes) ?_⟩
    intro call hreq
    rw [PhyState.requestOf, hfw] at hreq
    rw [← Option.some.inj heq]
    exact hreq
  | execute q =>
    rw [hfw] at h
    have hne : x.fw ≠ .waitRequest := by rw [hfw]; simp
    refine ⟨c, hi.firmwareWorks (Option.some.inj h).symm (hi.firmware hne) ?_⟩
    intro call hreq
    rw [PhyState.requestOf, hfw] at hreq
    rw [← Option.some.inj h]
    exact hreq
  | store q v => exact hi.firmwareStore hfw hstep
  | acknowledge q v => exact hi.firmwareAcknowledge hfw hstep

variable [DecidableEq ι]

/-- A statement that is no part of a toggle concerns the lock of no thread. -/
theorem tog_update {x y : PhyState ι β} {i : ι} {p : PhyPc}
    (hpc : y.pc = Function.update x.pc i p) (hout : inLock (x.pc i).toggling = false)
    (hout' : inLock p.toggling = false) (j : ι) :
    y.tog j = x.tog j ∨ (inLock (x.tog j) = false ∧ inLock (y.tog j) = false) := by
  by_cases hj : j = i
  · right
    rw [hj, PhyState.tog, PhyState.tog, hpc, Function.update_self]
    exact ⟨hout, hout'⟩
  · left
    rw [PhyState.tog, PhyState.tog, hpc, Function.update_of_ne hj]

/-- A statement of one thread: what is left to show is its own part. -/
theorem PhyInv.actor {x y : PhyState ι β} {c : Cache (BitVec 16)} (hi : PhyInv x c) {i : ι}
    {p : PhyPc} (hpc : y.pc = Function.update x.pc i p)
    (hhandshake : HandshakeInv y.drv y.tog c)
    (hlatched : c.LatchedOn (·.getLsbD mdioBit) y.hostMdio)
    (hactive : p.active = true → ∀ j, j ≠ i → (x.pc j).active = false)
    (hcounts : y.requested.length = y.served.length + if y.netxMdio = y.hostMdio then 0 else 1)
    (hfw : y.fw ≠ .waitRequest → x.fw ≠ .waitRequest ∧ y.netxMdio = (!y.hostMdio) ∧
      ∀ call, p ≠ .toggle call .storeHost)
    (hp : y.position c p) (hothers : ∀ j, j ≠ i → y.position c (x.pc j))
    (hresults : ∀ r ∈ y.results, r.Answered y) : PhyInv y c := by
  have hself : y.pc i = p := by rw [hpc, Function.update_self]
  have hother (j : ι) (hj : j ≠ i) : y.pc j = x.pc j := by rw [hpc, Function.update_of_ne hj]
  refine ⟨hhandshake, hlatched, ?_, hcounts, ?_, ?_, hresults⟩
  · intro j k hj hk
    by_cases hji : j = i <;> by_cases hki : k = i
    · rw [hji, hki]
    · rw [hji, hself] at hj
      rw [hother k hki, hactive hj k hki] at hk
      cases hk
    · rw [hki, hself] at hk
      rw [hother j hji, hactive hk j hji] at hj
      cases hj
    · rw [hother j hji] at hj
      rw [hother k hki] at hk
      exact hi.alone j k hj hk
  · intro hy
    obtain ⟨hx, hbits, hstore⟩ := hfw hy
    refine ⟨hbits, fun j call => ?_⟩
    by_cases hj : j = i
    · rw [hj, hself]
      exact hstore call
    · rw [hother j hj]
      exact (hi.firmware hx).2 j call
  · intro j
    by_cases hj : j = i
    · rw [hj, hself]
      exact hp
    · rw [hother j hj]
      exact hothers j hj

/-- A statement that changes neither the flags nor the block. -/
theorem PhyInv.move {x y : PhyState ι β} {c : Cache (BitVec 16)} (hi : PhyInv x c) {i : ι}
    {p : PhyPc} (hpc : y.pc = Function.update x.pc i p) (hdrv : SameHandshake x.drv y.drv)
    (hblock : y.tMdioBlock = x.tMdioBlock) (hfw : y.fw = x.fw)
    (hrequested : y.requested = x.requested) (hserved : y.served = x.served)
    (hout : inLock (x.pc i).toggling = false) (hout' : inLock p.toggling = false)
    (hactive : p.active = true → ∀ j, j ≠ i → (x.pc j).active = false)
    (hp : x.position c p) (hresults : ∀ r ∈ y.results, r.Answered x) : PhyInv y c := by
  have hhost : y.hostMdio = x.hostMdio := congrArg (·.getLsbD mdioBit) hdrv.host.host
  have hnetx : y.netxMdio = x.netxMdio := congrArg (·.getLsbD mdioBit) hdrv.flags.netx
  have hsame : SameMdio x y c c := by
    refine ⟨⟨hhost, hnetx, fun _ hl => hl⟩, hblock, fun call hreq => ?_, hrequested, hserved⟩
    rw [PhyState.requestOf, hfw, hblock]
    exact hreq
  apply hi.actor hpc (hi.handshake.of_same hdrv (tog_update hpc hout hout'))
  · rw [hhost]
    exact hi.latched
  · exact hactive
  · rw [hrequested, hserved, hnetx, hhost]
    exact hi.counts
  · rw [hfw, hnetx, hhost]
    intro hne
    refine ⟨hne, (hi.firmware hne).1, fun call hcall => ?_⟩
    rw [hcall] at hout'
    cases hout'
  · exact hsame.position hp
  · intro j _
    exact hsame.position (hi.position j)
  · intro r hr
    exact hsame.answeredResult (hresults r hr)

/-- A statement that writes the block, for which no request is outstanding. -/
theorem PhyInv.writeBlock {x : PhyState ι β} {c : Cache (BitVec 16)} (hi : PhyInv x c) {i : ι}
    {p : PhyPc} (q : MdioBlock) (hact : (x.pc i).active = true) (hsettled : x.settled c)
    (hout : inLock (x.pc i).toggling = false) (hout' : inLock p.toggling = false)
    (hp : ((x.setBlock q).goto i p).position c p) : PhyInv ((x.setBlock q).goto i p) c := by
  have hothers := hi.others hact
  let y : PhyState ι β := (x.setBlock q).goto i p
  have hpc : y.pc = Function.update x.pc i p := rfl
  have hhandshake : HandshakeInv y.drv y.tog c :=
    hi.handshake.of_same (SameHandshake.refl x.drv) (tog_update hpc hout hout')
  apply hi.actor hpc hhandshake
  · exact hi.latched
  · exact fun _ => hothers
  · exact hi.counts
  · exact fun hne => absurd (hi.firmware_waits hsettled.1) hne
  · exact hp
  · intro j hj
    exact position_of_inactive (x := x) (hothers j hj) (List.prefix_refl _) (List.prefix_refl _)
      (hi.position j)
  · exact hi.results

/-- What a toggle of the MDIO bit by the only thread at work has to show. -/
theorem PhyInv.toggle {x : PhyState ι β} {c : Cache (BitVec 16)} (hi : PhyInv x c) {i : ι}
    {call : PhyCall} {stage : ToggleStage} {u : DrvState β × Option ToggleStage} {p : PhyPc}
    (hpc : x.pc i = .toggle call stage) (hu : toggleStep mdioBit stage x.drv = some u)
    (htog : p.toggling = u.2.map fun st => (mdioBit, st))
    (hlatched : c.LatchedOn (·.getLsbD mdioBit) (u.1.hostBit mdioBit))
    (hcounts : (((x.setDrv u.1).noteRequest stage call).goto i p).requested.length =
      x.served.length + if x.netxMdio = u.1.hostBit mdioBit then 0 else 1)
    (hfw : x.fw ≠ .waitRequest → x.netxMdio = (!u.1.hostBit mdioBit) ∧
      ∀ call, p ≠ .toggle call .storeHost)
    (hp : (((x.setDrv u.1).noteRequest stage call).goto i p).position c p) :
    PhyInv (((x.setDrv u.1).noteRequest stage call).goto i p) c := by
  let y : PhyState ι β := ((x.setDrv u.1).noteRequest stage call).goto i p
  have hpcy : y.pc = Function.update x.pc i p := rfl
  have hothers := hi.others (i := i) (by rw [hpc]; rfl)
  have hnetx : y.netxMdio = x.netxMdio :=
    congrArg (·.getLsbD mdioBit) (toggleStep_sameFlags hu).netx
  have hreq : x.requested <+: y.requested := by
    have hdef : y.requested = if stage = .xorHost then x.requested ++ [call] else x.requested := rfl
    rw [hdef]
    split
    · exact List.prefix_append _ _
    · exact List.prefix_refl _
  have hhandshake : HandshakeInv y.drv y.tog c := by
    apply hi.handshake.toggle (i := i) (b := mdioBit) _ hu
    · rw [PhyState.tog, hpcy, Function.update_self]
      exact htog
    · intro j hj
      rw [PhyState.tog, PhyState.tog, hpcy, Function.update_of_ne hj]
    · rw [PhyState.tog, hpc]
      rfl
  apply hi.actor hpcy hhandshake hlatched
  · exact fun _ => hothers
  · rw [hnetx]
    exact hcounts
  · intro hne
    rw [hnetx]
    exact ⟨hne, hfw hne⟩
  · exact hp
  · intro j hj
    exact position_of_inactive (x := x) (hothers j hj) hreq (List.prefix_refl _) (hi.position j)
  · intro r hr
    exact (hi.results r hr).mono hreq (List.prefix_refl _)

/-- What one statement of a toggle does to the bit. -/
theorem toggleStep_hostBit {b : ℕ} {st : ToggleStage} {s : DrvState β}
    {u : DrvState β × Option ToggleStage} (hb : b < 32) (h : toggleStep b st s = some u) :
    u.1.hostBit b = (s.hostBit b ^^ decide (st = .xorHost)) := by
  cases st with
  | xorHost =>
    cases h
    rw [DrvState.hostBit, xorHostFlags, getLsbD_toggleBit_self _ _ hb]
    simp [DrvState.hostBit]
  | enterLock | storeHost | leaveLock =>
    rw [(toggleStep_stage h).2.1 b hb (Or.inr (by simp))]
    simp

theorem PhyInv.toggleStage {x y : PhyState ι β} {c : Cache (BitVec 16)} (hi : PhyInv x c)
    {i : ι} {ch : WaitChoice} {call : PhyCall} {stage : ToggleStage}
    (hpc : x.pc i = .toggle call stage) (h : netanaAccessPhyReg ch i x = some y) :
    PhyInv y c := by
  rw [netanaAccessPhyReg, hpc] at h
  obtain ⟨u, hu, rfl⟩ := Option.map_eq_some_iff.mp h
  have hhost := toggleStep_hostBit (by decide) hu
  have hposition := hi.position i
  rw [hpc] at hposition
  -- while the flag is not stored yet the firmware has not seen the request
  have hstored : stage = .storeHost → x.fw = .waitRequest := by
    intro hst
    by_contra hne
    exact (hi.firmware hne).2 i call (by rw [hpc, hst])
  cases stage with
  -- taking the lock changes no flag
  | enterLock =>
    have hnext : u.2 = some .xorHost := by
      obtain ⟨t, -, rfl⟩ := Option.map_eq_some_iff.mp hu
      rfl
    have hsame : u.1.hostBit mdioBit = x.hostMdio := by
      rw [hhost]
      simp [PhyState.hostMdio]
    have hwaits := hi.firmware_waits hposition.1.1
    rw [hnext]
    apply hi.toggle hpc hu
    · rw [hnext]
      rfl
    · rw [hsame]
      exact hi.latched
    · rw [hsame]
      exact hi.counts
    · exact fun hne => absurd hwaits hne
    · have hflags := toggleStep_sameFlags hu
      refine ⟨⟨?_, ?_⟩, hposition.2⟩
      · have hnetx : u.1.usNetxFlags.getLsbD mdioBit = x.netxMdio :=
          congrArg (·.getLsbD mdioBit) hflags.netx
        calc u.1.usNetxFlags.getLsbD mdioBit
            = x.netxMdio := hnetx
          _ = x.hostMdio := hposition.1.1
          _ = u.1.hostBit mdioBit := hsame.symm
      · have hlatch := hposition.1.2
        rw [← hsame] at hlatch
        exact hlatch
  -- this is where the request is made: the bits become unequal and the count goes up
  | xorHost =>
    cases hu
    have hflip : (xorHostFlags mdioBit x.drv).hostBit mdioBit = !x.hostMdio := by
      rw [hhost]
      simp [PhyState.hostMdio]
    have hwaits := hi.firmware_waits hposition.1.1
    have hcounts := hi.counts
    rw [if_pos hposition.1.1] at hcounts
    apply hi.toggle hpc rfl rfl
    · rw [hflip]
      exact hposition.1.2
    · rw [hflip, if_neg (by rw [hposition.1.1]; simp)]
      have hlen : (x.requested ++ [call]).length = x.requested.length + 1 := by simp
      rw [Nat.add_zero] at hcounts
      rw [← hcounts, ← hlen]
      rfl
    · exact fun hne => absurd hwaits hne
    · refine ⟨List.getLast?_concat, ?_, hposition.2⟩
      have hnetx : x.netxMdio = !(xorHostFlags mdioBit x.drv).hostBit mdioBit := by
        rw [hflip, Bool.not_not, hposition.1.1]
      exact hnetx
  | storeHost =>
    cases hu
    have hwaits := hstored rfl
    apply hi.toggle hpc rfl rfl
    · exact hi.latched
    · exact hi.counts
    · exact fun hne => absurd hwaits hne
    · refine ⟨hposition.1, Or.inl ⟨hposition.2.1, ?_⟩⟩
      rw [PhyState.requestOf]
      have hfw : (((x.setDrv (storeHostFlags x.drv)).noteRequest .storeHost call).goto i
          (.toggle call .leaveLock)).fw = .waitRequest := hwaits
      rw [hfw]
      exact hposition.2.2
  | leaveLock =>
    cases hu
    apply hi.toggle hpc rfl rfl
    · exact hi.latched
    · exact hi.counts
    · intro hne
      exact ⟨(hi.firmware hne).1, fun call hcall => by cases hcall⟩
    · exact hposition

/-- The statements that fill the block. -/
theorem PhyInv.fillStage {x y : PhyState ι β} {c : Cache (BitVec 16)} (hi : PhyInv x c) {i : ι}
    {ch : WaitChoice} {call : PhyCall} (hpc : x.pc i = .setDirection call ∨
      x.pc i = .setPhyNum call ∨ x.pc i = .setPhyReg call ∨ x.pc i = .setValue call)
    (h : netanaAccessPhyReg ch i x = some y) : PhyInv y c := by
  have hposition := hi.position i
  rcases hpc with hpc | hpc | hpc | hpc
  all_goals
    rw [hpc] at hposition
    rw [netanaAccessPhyReg, hpc] at h
    cases h
  · exact hi.writeBlock _ (by rw [hpc]; rfl) hposition (by rw [hpc]; rfl) rfl ⟨hposition, rfl⟩
  · exact hi.writeBlock _ (by rw [hpc]; rfl) hposition.1 (by rw [hpc]; rfl) rfl
      ⟨hposition.1, hposition.2, rfl⟩
  · exact hi.writeBlock _ (by rw [hpc]; rfl) hposition.1 (by rw [hpc]; rfl) rfl
      ⟨hposition.1, hposition.2.1, hposition.2.2, rfl⟩
  · obtain ⟨hsettled, hdir, hnum, hreg⟩ := hposition
    by_cases hwrite : call.ulDirection = netanaPhyDirectionWrite
    · rw [if_pos hwrite]
      exact hi.writeBlock _ (by rw [hpc]; rfl) hsettled (by rw [hpc]; rfl) rfl
        ⟨hsettled, hdir, hnum, hreg, fun _ => rfl⟩
    · rw [if_neg hwrite]
      exact hi.move rfl (SameHandshake.refl _) rfl rfl rfl rfl (by rw [hpc]; rfl) rfl
        (fun _ => hi.others (by rw [hpc]; rfl))
        ⟨hsettled, hdir, hnum, hreg, fun hw => absurd hw hwrite⟩ hi.results

/-- The entry wait, which may succeed only where no other thread is at work. -/
theorem PhyInv.entryStage {x y : PhyState ι β} {c : Cache (BitVec 16)} (hi : PhyInv x c) {i : ι}
    {ch : WaitChoice} {call : PhyCall} {stage : WaitStage} (hpc : x.pc i = .waitEntry call stage)
    (hok : stage ≠ .waitEvent → x.drv.bitStateIs mdioBit .equal = true →
      ∀ j, (x.pc j).active = false) (h : netanaAccessPhyReg ch i x = some y) : PhyInv y c := by
  rw [netanaAccessPhyReg, hpc] at h
  obtain ⟨r, hr, rfl⟩ := Option.map_eq_some_iff.mp h
  obtain ⟨hsame, hyes⟩ := waitStep_spec hr
  have hout : inLock (x.pc i).toggling = false := by rw [hpc]; rfl
  cases hnext : r.2 with
  | goto stage =>
    exact hi.move rfl hsame rfl rfl rfl rfl hout rfl (fun hact => by cases hact) trivial
      hi.results
  | ret iRet =>
    cases iRet with
    | true =>
      obtain ⟨hstage, hequal⟩ := hyes hnext
      exact hi.move rfl hsame rfl rfl rfl rfl hout rfl (fun _ j _ => hok hstage hequal j)
        (hi.settled_of_equal hequal) hi.results
    | false =>
      exact hi.move rfl hsame rfl rfl rfl rfl hout rfl (fun hact => by cases hact)
        (fun v hv => by cases hv) hi.results

/-- The wait for the acknowledge. -/
theorem PhyInv.doneStage {x y : PhyState ι β} {c : Cache (BitVec 16)} (hi : PhyInv x c) {i : ι}
    {ch : WaitChoice} {call : PhyCall} {stage : WaitStage} (hpc : x.pc i = .waitDone call stage)
    (h : netanaAccessPhyReg ch i x = some y) : PhyInv y c := by
  have hpending : x.pending call := by
    have hposition := hi.position i
    rw [hpc] at hposition
    exact hposition
  have hothers := hi.others (i := i) (by rw [hpc]; rfl)
  rw [netanaAccessPhyReg, hpc] at h
  obtain ⟨r, hr, rfl⟩ := Option.map_eq_some_iff.mp h
  obtain ⟨hsame, hyes⟩ := waitStep_spec hr
  have hout : inLock (x.pc i).toggling = false := by rw [hpc]; rfl
  cases hnext : r.2 with
  | goto stage =>
    exact hi.move rfl hsame rfl rfl rfl rfl hout rfl (fun _ => hothers) hpending hi.results
  | ret iRet =>
    cases iRet with
    | true =>
      -- the acknowledge is the firmware's, so the request has been served
      have hbits := (hi.settled_of_equal (hyes hnext).2).1
      have hanswered : x.answered call := by
        rcases hpending.2 with ⟨hbits', -⟩ | ⟨-, hanswered⟩
        · rw [hbits] at hbits'
          simp at hbits'
        · exact hanswered
      exact hi.move rfl hsame rfl rfl rfl rfl hout rfl (fun _ => hothers)
        ⟨hpending.1, hbits, hanswered⟩ hi.results
    | false =>
      exact hi.move rfl hsame rfl rfl rfl rfl hout rfl (fun hact => by cases hact)
        (fun v hv => by cases hv) hi.results

/-- Every statement of a call. -/
theorem PhyInv.step {x y : PhyState ι β} {c : Cache (BitVec 16)} (hi : PhyInv x c) {i : ι}
    {ch : WaitChoice} (hok : ∀ call stage, x.pc i = .waitEntry call stage → stage ≠ .waitEvent →
      x.drv.bitStateIs mdioBit .equal = true → ∀ j, (x.pc j).active = false)
    (h : netanaAccessPhyReg ch i x = some y) : PhyInv y c := by
  have hposition := hi.position i
  cases hpc : x.pc i with
  | idle =>
    rw [netanaAccessPhyReg, hpc] at h
    cases h
  | checkPort call =>
    rw [netanaAccessPhyReg, hpc] at h
    cases h
    have hout : inLock (x.pc i).toggling = false := by rw [hpc]; rfl
    split
    · exact hi.move rfl (SameHandshake.refl _) rfl rfl rfl rfl hout rfl
        (fun hact => by cases hact) trivial hi.results
    · exact hi.move rfl (SameHandshake.refl _) rfl rfl rfl rfl hout rfl
        (fun hact => by cases hact) (fun v hv => by cases hv) hi.results
  | waitEntry call stage => exact hi.entryStage hpc (hok call stage hpc) h
  | setDirection call => exact hi.fillStage (Or.inl hpc) h
  | setPhyNum call => exact hi.fillStage (Or.inr (Or.inl hpc)) h
  | setPhyReg call => exact hi.fillStage (Or.inr (Or.inr (Or.inl hpc))) h
  | setValue call => exact hi.fillStage (Or.inr (Or.inr (Or.inr hpc))) h
  | toggle call stage => exact hi.toggleStage hpc h
  | waitDone call stage => exact hi.doneStage hpc h
  | getValue call =>
    rw [hpc] at hposition
    rw [netanaAccessPhyReg, hpc] at h
    cases h
    exact hi.move rfl (SameHandshake.refl _) rfl rfl rfl rfl (by rw [hpc]; rfl) rfl
      (fun hact => by cases hact) (hi.answered_result hposition.1 hposition.2.1 hposition.2.2)
      hi.results
  | ret call exit =>
    rw [hpc] at hposition
    rw [netanaAccessPhyReg, hpc] at h
    cases h
    refine hi.move rfl (SameHandshake.refl _) rfl rfl rfl rfl (by rw [hpc]; rfl) rfl
      (fun hact => by cases hact) trivial ?_
    intro r hr
    rcases List.mem_append.mp hr with hr | hr
    · exact hi.results r hr
    · rw [List.mem_singleton.mp hr]
      exact hposition

omit [DecidableEq ι] in
/-- The record of what calls have touched concerns nothing else. -/
theorem PhyInv.noteTouched {x y : PhyState ι β} {c : Cache (BitVec 16)} (hi : PhyInv y c) (i : ι) :
    PhyInv (x.noteTouched y i) c := by
  rw [PhyState.noteTouched]
  split
  · exact hi
  · exact ⟨hi.handshake, hi.latched, hi.alone, hi.counts, hi.firmware, hi.position, hi.results⟩

/-- The condition on a step: a call passes its entry wait only while no other call is between
its own entry wait and its return. -/
def phyAlone [Fintype ι] (x : PhyState ι β) : PhyAction ι β → Bool
  | .step i _ => match x.pc i with
    | .waitEntry _ .waitEvent => true
    | .waitEntry _ _ => !x.drv.bitStateIs mdioBit .equal ||
        decide (∀ j, (x.pc j).active = false)
    | _ => true
  | _ => true

omit [DecidableEq ι] in
theorem phyAlone_entry [Fintype ι] {x : PhyState ι β} {i : ι} {ch : WaitChoice}
    (h : phyAlone x (.step i ch) = true) {call : PhyCall} {stage : WaitStage}
    (hpc : x.pc i = .waitEntry call stage) (hstage : stage ≠ .waitEvent)
    (hequal : x.drv.bitStateIs mdioBit .equal = true) (j : ι) : (x.pc j).active = false := by
  rw [phyAlone, hpc] at h
  cases stage with
  | waitEvent => exact absurd rfl hstage
  | checkFirst | checkAgain =>
    simp only [hequal, Bool.not_true, Bool.false_or, decide_eq_true_eq] at h
    exact h j

/-- A step that lets at most one thread through to the block keeps the invariant. -/
theorem PhyInv.phyStep {x y : PhyState ι β} {c : Cache (BitVec 16)} {a : PhyAction ι β}
    (hi : PhyInv x c) (hok : ∀ i ch, a = .step i ch → ∀ call stage,
      x.pc i = .waitEntry call stage → stage ≠ .waitEvent →
      x.drv.bitStateIs mdioBit .equal = true → ∀ j, (x.pc j).active = false)
    (h : NetanaDriver.phyStep x a = some y) : ∃ d, PhyInv y d := by
  cases a with
  | call i ulDirection ulPhyNum ulPhyReg usValue ulTimeout =>
    obtain ⟨hpc, heq⟩ := Option.ite_none_right_eq_some.mp h
    cases heq
    exact ⟨c, hi.move rfl (SameHandshake.refl _) rfl rfl rfl rfl (by rw [hpc]; rfl) rfl
      (fun hact => by cases hact) trivial hi.results⟩
  | step i ch =>
    obtain ⟨u, hu, rfl⟩ := Option.map_eq_some_iff.mp h
    exact ⟨c, (hi.step (hok i ch rfl) hu).noteTouched i⟩
  | firmware ulResult => exact hi.firmwareStep h
  | other a =>
    obtain ⟨hspares, heq⟩ := Option.ite_none_right_eq_some.mp h
    obtain ⟨t, ht, rfl⟩ := Option.map_eq_some_iff.mp heq
    obtain ⟨d, hhandshake, hspared⟩ := hi.handshake.other ht
    have hkept := hspared mdioBit isCommandBit_mdio hspares
    have hsame : SameMdio x (x.setDrv t) c d :=
      ⟨hkept, rfl, fun _ hreq => hreq, rfl, rfl⟩
    refine ⟨d, hi.of_pc rfl hhandshake ?_ ?_ ?_ ?_ hi.results⟩
    · rw [hsame.host]
      exact hkept.latched _ hi.latched
    · rw [hsame.host, hsame.netx]
      exact hi.counts
    · rw [hsame.host, hsame.netx]
      exact hi.firmware
    · exact fun i => hsame.position (hi.position i)

/-- No thread is in a call, nothing is requested, and the MDIO bits are equal and were so in all
that the driver has still to see. -/
structure PhyStart (x : PhyState ι β) : Prop where
  buffers : DoubleBufferInv x.drv
  host : HostInv x.drv
  nothingPending : ∃ c : Cache (BitVec 16), Lags id x.drv c ∧
    ∀ w ∈ c.view, w.getLsbD mdioBit = x.hostMdio
  idle : ∀ i, x.pc i = .idle
  firmware : x.fw = .waitRequest
  requested : x.requested = []
  served : x.served = []
  touched : x.touched = []
  results : x.results = []

omit [DecidableEq ι] in
theorem PhyStart.inv {x : PhyState ι β} (h : PhyStart x) : ∃ c, PhyInv x c := by
  obtain ⟨c, hlag, hall⟩ := h.nothingPending
  have hbits : x.netxMdio = x.hostMdio := by
    have hreal := hall c.real (real_mem_view c)
    rw [show c.real = x.drv.usNetxFlags from hlag.real] at hreal
    exact hreal
  refine ⟨c, ⟨h.buffers, hlag, ?_⟩, ?_, ?_, ?_, ?_, ?_, ?_⟩
  · refine lockInv_of_actor none ?_ ?_
    · intro i hne
      cases i with
      | none => exact absurd rfl hne
      | some i =>
        rw [toggles, PhyState.tog, h.idle i]
        rfl
    · exact h.host
  · exact latchedOn_of_latched hall
  · intro i j hact
    rw [h.idle i] at hact
    cases hact
  · rw [h.requested, h.served, if_pos hbits]
    rfl
  · exact fun hne => absurd h.firmware hne
  · intro i
    rw [h.idle i]
    trivial
  · rw [h.results]
    intro r hr
    cases hr

end NetanaDriver
