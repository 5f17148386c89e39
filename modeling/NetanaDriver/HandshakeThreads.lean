import NetanaDriver.CaptureIndications

/-! Threads that command the firmware through a handshake bit: the statements of
`netana_tkit_WaitForBitState`, and those of `netana_tkit_ToggleBit` under its lock, for any
number of threads beside the ISR, the DSR thread and the toggles of other bits. -/
namespace NetanaDriver
open ToggleHandshake LaggingCache

variable {β ι κ : Type*}

/-- The statements of `netana_tkit_WaitForBitState`: the check before any wait, `OS_WaitEvent`,
and the check after it. -/
inductive WaitStage where
  | checkFirst
  | waitEvent
  | checkAgain
  deriving DecidableEq, Repr

/-- What a wait finds out from outside: whether `OS_WaitEvent` gives up, because its time is over
or a signal arrives, and whether more than `ulTimeout` milliseconds have gone by. -/
structure WaitChoice where
  fGiveUp : Bool
  fExpired : Bool
  deriving DecidableEq, Repr

/-- The next statement of a wait, or its return value. -/
inductive WaitNext where
  | goto (stage : WaitStage)
  | ret (iRet : Bool)
  deriving DecidableEq, Repr

/-- `OS_WaitEvent(ahHandshakeBitEvents[ulBit])`: sleeps until the event is set, and resets it. -/
def osWaitBitEvent (ulBit : ℕ) (fGiveUp : Bool) (s : DrvState β) : Option (DrvState β) :=
  if s.ahHandshakeBitEvents ulBit = some true ∨ fGiveUp = true then
    some { s with
      ahHandshakeBitEvents := Function.update s.ahHandshakeBitEvents ulBit
        ((s.ahHandshakeBitEvents ulBit).map fun _ => false)
      usedDeleted := s.usedDeleted || (s.ahHandshakeBitEvents ulBit).isNone }
  else none

/-- `GetHskBitState(..) == bState`. -/
def DrvState.bitStateIs (s : DrvState β) (ulBit : ℕ) (bState : BitState) : Bool :=
  decide (getHskBitState s.ulHostFlags s.ulNetxFlags (1#32 <<< ulBit) bState = bState)

/-- One statement of `netana_tkit_WaitForBitState`. -/
def waitStep (ulBit : ℕ) (bState : BitState) (ulTimeout : BitVec 32) (ch : WaitChoice)
    (stage : WaitStage) (s : DrvState β) : Option (DrvState β × WaitNext) :=
  match stage with
  | .checkFirst => some (s, if s.bitStateIs ulBit bState then .ret true
      else if ulTimeout = 0#32 then .ret false else .goto .waitEvent)
  | .waitEvent => (osWaitBitEvent ulBit ch.fGiveUp s).map fun s => (s, .goto .checkAgain)
  | .checkAgain => some (s, if s.bitStateIs ulBit bState then .ret true
      else if ch.fExpired then .ret false else .goto .waitEvent)

/-- The host flags and the lock are the same. -/
structure SameLock (s t : DrvState β) : Prop where
  host : t.ulHostFlags = s.ulHostFlags
  stored : t.usHostFlags = s.usHostFlags
  lock : t.pvLock = s.pvLock

theorem SameLock.refl (s : DrvState β) : SameLock s s := ⟨rfl, rfl, rfl⟩

/-- Everything the handshakes depend on is the same in both states. -/
structure SameHandshake (s t : DrvState β) : Prop where
  flags : SameFlags s t
  host : SameLock s t
  dsr : t.dsr = s.dsr

theorem SameHandshake.refl (s : DrvState β) : SameHandshake s s :=
  ⟨⟨rfl, rfl, rfl, rfl, rfl, rfl, rfl⟩, SameLock.refl s, rfl⟩

/-- A wait changes nothing but the event, and says yes only where the flags do. -/
theorem waitStep_spec {b : ℕ} {bState : BitState} {ulTimeout : BitVec 32} {ch : WaitChoice}
    {stage : WaitStage} {s : DrvState β} {r : DrvState β × WaitNext}
    (h : waitStep b bState ulTimeout ch stage s = some r) :
    SameHandshake s r.1 ∧
      (r.2 = .ret true → stage ≠ .waitEvent ∧ s.bitStateIs b bState = true) := by
  cases stage with
  | waitEvent =>
    rw [waitStep] at h
    obtain ⟨t, ht, rfl⟩ := Option.map_eq_some_iff.mp h
    rw [osWaitBitEvent] at ht
    split at ht
    · cases ht
      exact ⟨⟨⟨rfl, rfl, rfl, rfl, rfl, rfl, rfl⟩, ⟨rfl, rfl, rfl⟩, rfl⟩,
        fun hret => by cases hret⟩
    · cases ht
  | checkFirst | checkAgain =>
    cases h
    refine ⟨SameHandshake.refl s, fun hret => ⟨by simp, ?_⟩⟩
    by_contra hne
    dsimp only at hret
    rw [if_neg hne] at hret
    split at hret <;> cases hret

/-- Between `OS_EnterLock` and `OS_LeaveLock` of a toggle. -/
def inLock : Option (ℕ × ToggleStage) → Bool
  | some (_, .xorHost) | some (_, .storeHost) | some (_, .leaveLock) => true
  | _ => false

/-- At most one of the threads is inside the lock, and the dual-port memory shows the host flags
as they are, except between the two writes of a toggle. -/
structure LockInv (s : DrvState β) (tog : κ → Option (ℕ × ToggleStage)) : Prop where
  alone : ∀ i j, inLock (tog i) = true → inLock (tog j) = true → i = j
  held : ∀ i, inLock (tog i) = true → s.stageInv (tog i)
  free : (∀ i, inLock (tog i) = false) → s.stageInv none

/-- The DSR thread and the callers. -/
def toggles (s : DrvState β) (tog : ι → Option (ℕ × ToggleStage)) :
    Option ι → Option (ℕ × ToggleStage)
  | none => s.dsr.toggling
  | some i => tog i

theorem stageInv_of_not_inLock {s : DrvState β} {p : Option (ℕ × ToggleStage)}
    (h : inLock p = false) : s.stageInv p ↔ s.stageInv none := by
  rcases p with _ | ⟨b, st⟩
  · exact Iff.rfl
  · cases st
    case enterLock => exact Iff.rfl
    all_goals cases h

/-- Whoever is inside the lock holds it. -/
theorem stageInv_lock {s : DrvState β} {p : Option (ℕ × ToggleStage)} (h : s.stageInv p) :
    s.pvLock = some (inLock p) := by
  rcases p with _ | ⟨b, st⟩
  · exact h.2
  · cases st <;> exact h.2

theorem stageInv_congr {s t : DrvState β} (h : SameLock s t) (p : Option (ℕ × ToggleStage)) :
    t.stageInv p ↔ s.stageInv p := by
  rw [DrvState.stageInv.eq_def, DrvState.stageInv.eq_def, h.stored, h.host, h.lock]

/-- All but one of the threads are outside the lock. -/
theorem lockInv_of_actor {t : DrvState β} {tog : κ → Option (ℕ × ToggleStage)} (k : κ)
    (hothers : ∀ i, i ≠ k → inLock (tog i) = false) (hk : t.stageInv (tog k)) :
    LockInv t tog := by
  have honly : ∀ i, inLock (tog i) = true → i = k := by
    intro i hi
    by_contra hne
    rw [hothers i hne] at hi
    cases hi
  refine ⟨fun i j hi hj => (honly i hi).trans (honly j hj).symm, ?_, ?_⟩
  · intro i hi
    rw [honly i hi]
    exact hk
  · intro hnone
    exact (stageInv_of_not_inLock (hnone k)).mp hk

theorem LockInv.outside_of_unlocked {s : DrvState β} {tog : κ → Option (ℕ × ToggleStage)}
    (h : LockInv s tog) (hlock : s.pvLock ≠ some true) (i : κ) : inLock (tog i) = false := by
  by_contra hne
  have hin : inLock (tog i) = true := by simpa using hne
  have hheld := stageInv_lock (h.held i hin)
  rw [hin] at hheld
  exact hlock hheld

/-- The state the lock is in, as the thread that takes the next step of a toggle sees it. -/
theorem LockInv.at_toggle {s : DrvState β} {tog : κ → Option (ℕ × ToggleStage)}
    (h : LockInv s tog) {k : κ} {b : ℕ} {st : ToggleStage} {u : DrvState β × Option ToggleStage}
    (hk : tog k = some (b, st)) (hu : NetanaDriver.toggleStep b st s = some u) :
    (∀ i, i ≠ k → inLock (tog i) = false) ∧ s.stageInv (some (b, st)) := by
  cases st with
  | enterLock =>
    have hlock : s.pvLock ≠ some true := by
      intro hheld
      rw [NetanaDriver.toggleStep, osEnterLock, if_pos hheld] at hu
      cases hu
    exact ⟨fun i _ => h.outside_of_unlocked hlock i, h.free (h.outside_of_unlocked hlock)⟩
  | xorHost | storeHost | leaveLock =>
    have hin : inLock (tog k) = true := by rw [hk]; rfl
    refine ⟨fun i hne => ?_, hk ▸ h.held k hin⟩
    by_contra hi
    exact hne (h.alone i k (by simpa using hi) hin)

/-- One statement of a toggle keeps the lock in order. -/
theorem LockInv.toggleStep {s t : DrvState β} {tog tog' : κ → Option (ℕ × ToggleStage)}
    (h : LockInv s tog) {k : κ} {b : ℕ} {st : ToggleStage} {u : DrvState β × Option ToggleStage}
    (hk : tog k = some (b, st)) (hu : NetanaDriver.toggleStep b st s = some u)
    (ht : SameLock u.1 t) (hk' : tog' k = u.2.map fun st => (b, st))
    (hothers : ∀ i, i ≠ k → tog' i = tog i) : LockInv t tog' := by
  obtain ⟨hout, hstage⟩ := h.at_toggle hk hu
  apply lockInv_of_actor k
  · intro i hne
    rw [hothers i hne]
    exact hout i hne
  · rw [hk', stageInv_congr ht]
    exact (toggleStep_stage hu).1 hstage

/-- A whole toggle by another thread, which is possible only while nobody holds the lock. -/
theorem LockInv.toggleBit {s t : DrvState β} {tog tog' : κ → Option (ℕ × ToggleStage)}
    (h : LockInv s tog) {b : ℕ} {u : DrvState β} (hu : netanaTkitToggleBit b s = some u)
    (ht : SameLock u t) (hsame : ∀ i, tog' i = tog i ∨ inLock (tog' i) = false) :
    LockInv t tog' := by
  obtain ⟨hstage, hlock, -⟩ := netanaTkitToggleBit_stage hu
  have hout := h.outside_of_unlocked hlock
  have hout' : ∀ i, inLock (tog' i) = false := by
    intro i
    rcases hsame i with hi | hi
    · rw [hi]
      exact hout i
    · exact hi
  have hfree : t.stageInv none := (stageInv_congr ht none).mpr (hstage (h.free hout))
  refine ⟨fun i j hi => ?_, fun i hi => ?_, fun _ => hfree⟩
  · rw [hout' i] at hi
    cases hi
  · rw [hout' i] at hi
    cases hi

/-- A step that leaves the flags and the lock alone, and with them who is inside. -/
theorem LockInv.of_same {s t : DrvState β} {tog tog' : κ → Option (ℕ × ToggleStage)}
    (h : LockInv s tog) (ht : SameLock s t)
    (hsame : ∀ i, tog' i = tog i ∨ (inLock (tog i) = false ∧ inLock (tog' i) = false)) :
    LockInv t tog' := by
  have hin (i : κ) (hi : inLock (tog' i) = true) : tog' i = tog i := by
    rcases hsame i with heq | ⟨-, hout⟩
    · exact heq
    · rw [hi] at hout
      cases hout
  refine ⟨fun i j hi hj => ?_, fun i hi => ?_, fun hnone => ?_⟩
  · have hi' := hin i hi
    have hj' := hin j hj
    rw [hi'] at hi
    rw [hj'] at hj
    exact h.alone i j hi hj
  · have hi' := hin i hi
    rw [hi'] at hi
    rw [hi', stageInv_congr ht]
    exact h.held i hi
  · rw [stageInv_congr ht]
    apply h.free
    intro i
    rcases hsame i with heq | ⟨hout, -⟩
    · rw [← heq]
      exact hnone i
    · exact hout

theorem getLsbD_setWidth_flags (w : BitVec 32) {b : ℕ} (hb : b < 16) :
    (w.setWidth 16).getLsbD b = w.getLsbD b := by
  rw [BitVec.getLsbD_setWidth]
  simp [hb]

/-- Outside the two writes of its own toggles the firmware sees the bit of the driver. -/
theorem LockInv.shown {s : DrvState β} {tog : κ → Option (ℕ × ToggleStage)} (h : LockInv s tog)
    {b : ℕ} (hb : b < 16) (hno : ∀ i, tog i ≠ some (b, .storeHost)) :
    s.usHostFlags.getLsbD b = s.hostBit b := by
  have heq (hflags : s.usHostFlags = s.ulHostFlags.setWidth 16) :
      s.usHostFlags.getLsbD b = s.hostBit b := by
    rw [hflags, getLsbD_setWidth_flags _ hb, DrvState.hostBit]
  by_cases hin : ∃ i, inLock (tog i) = true
  · obtain ⟨i, hi⟩ := hin
    have hstage := h.held i hi
    have hnot := hno i
    cases htog : tog i with
    | none =>
      rw [htog] at hi
      cases hi
    | some p =>
      obtain ⟨b', st⟩ := p
      rw [htog] at hstage hnot
      cases st
      case storeHost =>
        have hne : b ≠ b' := by
          intro heq
          rw [heq] at hnot
          exact hnot rfl
        rw [hstage.1, getLsbD_setWidth_flags _ hb, getLsbD_toggleBit_ne _ (by omega) hne,
          DrvState.hostBit]
      all_goals exact heq hstage.1
  · apply heq
    exact (h.free fun i => by simpa using not_exists.mp hin i).1

/-- Between the two writes the firmware sees the old value. -/
theorem LockInv.shown_old {s : DrvState β} {tog : κ → Option (ℕ × ToggleStage)}
    (h : LockInv s tog) {b : ℕ} (hb : b < 16) {i : κ} (hi : tog i = some (b, .storeHost)) :
    s.usHostFlags.getLsbD b = !s.hostBit b := by
  have hstage := h.held i (by rw [hi]; rfl)
  rw [hi] at hstage
  rw [hstage.1, getLsbD_setWidth_flags _ hb, getLsbD_toggleBit_self _ _ (by omega),
    DrvState.hostBit]

/-- What a statement of the DSR does to the host flags and the lock: nothing, a statement of a
toggle of NEWDATA or NEWSTATUS, or a whole toggle of the driver-error bit. -/
theorem dsrStep_host {c : DsrChoice} {s t : DrvState β} (h : dsrStep c s = some t) :
    (SameLock s t ∧ inLock s.dsr.toggling = false ∧ inLock t.dsr.toggling = false) ∨
    (∃ b st u, s.dsr.toggling = some (b, st) ∧ (b = newdataBit ∨ b = newstatusBit) ∧
      toggleStep b st s = some u ∧ SameLock u.1 t ∧
      t.dsr.toggling = u.2.map fun st => (b, st)) ∨
    (∃ u, netanaTkitToggleBit drvErrorBit s = some u ∧ SameLock u t ∧
      inLock t.dsr.toggling = false) := by
  rw [dsrStep] at h
  cases hpc : s.dsr
  all_goals
    rw [hpc] at h
    dsimp only at h
  case toggleData stage l =>
    obtain ⟨u, hu, rfl⟩ := Option.map_eq_some_iff.mp h
    refine Or.inr (Or.inl ⟨newdataBit, stage, u, rfl, Or.inl rfl, hu, ⟨rfl, rfl, rfl⟩, ?_⟩)
    dsimp only
    cases u.2 <;> rfl
  case toggleStatus stage state =>
    obtain ⟨u, hu, rfl⟩ := Option.map_eq_some_iff.mp h
    refine Or.inr (Or.inl ⟨newstatusBit, stage, u, rfl, Or.inr rfl, hu, ⟨rfl, rfl, rfl⟩, ?_⟩)
    dsimp only
    cases u.2 <;> rfl
  case rejectBuffer l =>
    obtain ⟨u, hu, rfl⟩ := Option.map_eq_some_iff.mp h
    rw [netanaSignalDriverError] at hu
    split at hu
    · exact Or.inr (Or.inr ⟨u, hu, ⟨rfl, rfl, rfl⟩, rfl⟩)
    · cases hu
      exact Or.inl ⟨⟨rfl, rfl, rfl⟩, rfl, rfl⟩
  case writeFile l =>
    split at h
    · obtain ⟨u, hu, rfl⟩ := Option.map_eq_some_iff.mp h
      rw [netanaSignalDriverError] at hu
      split at hu
      · exact Or.inr (Or.inr ⟨u, hu, ⟨rfl, rfl, rfl⟩, rfl⟩)
      · cases hu
        exact Or.inl ⟨⟨rfl, rfl, rfl⟩, rfl, rfl⟩
    · cases h
      exact Or.inl ⟨⟨rfl, rfl, rfl⟩, rfl, rfl⟩
  case exited => cases h
  case waitSig =>
    split at h
    · cases h
      exact Or.inl ⟨⟨rfl, rfl, rfl⟩, rfl, rfl⟩
    · cases h
  all_goals
    left
    repeat' split at h
    all_goals
      cases h
      exact ⟨⟨rfl, rfl, rfl⟩, rfl, rfl⟩

/-- The handshake bits of commands: those that the DSR does not toggle. -/
def isCommandBit (b : ℕ) : Prop :=
  b < 16 ∧ b ≠ newdataBit ∧ b ≠ newstatusBit ∧ b ≠ drvErrorBit

/-- A step of the other parties leaves both bits of a command alone. -/
def InterruptAction.spares (b : ℕ) (s : DrvState β) : InterruptAction β → Bool
  | .firmware netx _ _ _ _ _ => netx.getLsbD b == s.usNetxFlags.getLsbD b
  | .toggle ulBit => ulBit != b
  | _ => true

/-- The double buffer, the cached netX flags and the lock, for the present toggles. -/
structure HandshakeInv (s : DrvState β) (tog : ι → Option (ℕ × ToggleStage))
    (c : Cache (BitVec 16)) : Prop where
  buffers : DoubleBufferInv s
  lags : Lags id s c
  lock : LockInv s (toggles s tog)

/-- What the other parties do to the two bits of a command. -/
structure Spared (b : ℕ) (s t : DrvState β) (c d : Cache (BitVec 16)) : Prop where
  host : t.hostBit b = s.hostBit b
  netx : t.usNetxFlags.getLsbD b = s.usNetxFlags.getLsbD b
  latched : ∀ v, c.LatchedOn (·.getLsbD b) v → d.LatchedOn (·.getLsbD b) v

theorem Spared.refl (b : ℕ) (s : DrvState β) (c : Cache (BitVec 16)) : Spared b s s c c :=
  ⟨rfl, rfl, fun _ h => h⟩

theorem SameHandshake.spared {s t : DrvState β} (h : SameHandshake s t) (b : ℕ)
    (c : Cache (BitVec 16)) : Spared b s t c c :=
  ⟨congrArg (·.getLsbD b) h.host.host, congrArg (·.getLsbD b) h.flags.netx, fun _ hl => hl⟩

/-- A statement of a toggle other than the first write keeps all bits. -/
theorem toggleStep_spared {b b' : ℕ} {st : ToggleStage} {s : DrvState β}
    {u : DrvState β × Option ToggleStage} (hb : b < 32) (h : toggleStep b' st s = some u)
    (hne : b ≠ b' ∨ st ≠ .xorHost) (c : Cache (BitVec 16)) : Spared b s u.1 c c :=
  ⟨(toggleStep_stage h).2.1 b hb hne, congrArg (·.getLsbD b) (toggleStep_sameFlags h).netx,
    fun _ hl => hl⟩

theorem HandshakeInv.real {s : DrvState β} {tog : ι → Option (ℕ × ToggleStage)}
    {c : Cache (BitVec 16)} (h : HandshakeInv s tog c) (b : ℕ) :
    c.real.getLsbD b = s.usNetxFlags.getLsbD b :=
  congrArg (·.getLsbD b) h.lags.real

theorem HandshakeInv.cached {s : DrvState β} {tog : ι → Option (ℕ × ToggleStage)}
    {c : Cache (BitVec 16)} (h : HandshakeInv s tog c) {b : ℕ} (hb : b < 16) :
    s.ulNetxFlags.getLsbD b = c.cached.getLsbD b := by
  rw [h.lags.cached, BitVec.getLsbD_setWidth]
  simp only [id_eq, Bool.and_eq_right_iff_imp, decide_eq_true_eq]
  omega

/-- A wait that ends with the bits equal has seen the bit of the driver in the cache. -/
theorem HandshakeInv.equal_iff {s : DrvState β} {tog : ι → Option (ℕ × ToggleStage)}
    {c : Cache (BitVec 16)} (h : HandshakeInv s tog c) {b : ℕ} (hb : b < 16) :
    s.bitStateIs b .equal = true ↔ c.cached.getLsbD b = s.hostBit b := by
  rw [DrvState.bitStateIs, decide_eq_true_iff, getHskBitState_equal (by omega), h.cached hb,
    DrvState.hostBit]

theorem HandshakeInv.unequal_iff {s : DrvState β} {tog : ι → Option (ℕ × ToggleStage)}
    {c : Cache (BitVec 16)} (h : HandshakeInv s tog c) {b : ℕ} (hb : b < 16) :
    s.bitStateIs b .unequal = true ↔ c.cached.getLsbD b = !s.hostBit b := by
  rw [DrvState.bitStateIs, decide_eq_true_iff, getHskBitState_unequal (by omega), h.cached hb,
    DrvState.hostBit, ne_eq, Bool.eq_not]

/-- What the driver sees of a latched bit is so, and the next change will latch in its turn. -/
theorem HandshakeInv.seen {s : DrvState β} {tog : ι → Option (ℕ × ToggleStage)}
    {c : Cache (BitVec 16)} (h : HandshakeInv s tog c) {b : ℕ} {v : Bool}
    (hl : c.LatchedOn (·.getLsbD b) v) (hc : c.cached.getLsbD b = v) :
    s.usNetxFlags.getLsbD b = v ∧ c.LatchedOn (·.getLsbD b) (!v) := by
  refine ⟨?_, latchedOn_of_all (hl.all_of_cached hc)⟩
  rw [← h.real b]
  exact hl.real_of_cached hc

/-- The DSR may only catch up with the netX flags, and toggles no command bit. -/
theorem HandshakeInv.dsr {s t : DrvState β} {tog : ι → Option (ℕ × ToggleStage)}
    {c : Cache (BitVec 16)} {ch : DsrChoice} (h : HandshakeInv s tog c)
    (hstep : interruptStep s (.dsr ch) = some t) :
    ∃ d, HandshakeInv t tog d ∧ ∀ b, isCommandBit b → Spared b s t c d := by
  -- the DSR may only catch up with the netX flags, and no entry of the cache appears
  obtain ⟨k, d, hd, hlag, -⟩ := Lags.dsr h.buffers h.lags hstep
  have hnetx (b : ℕ) : t.usNetxFlags.getLsbD b = s.usNetxFlags.getLsbD b := by
    have hr : d.real = c.real := real_refresh hd
    rw [← hlag.real, ← h.lags.real, hr]
  have hothers (i : Option ι) (hi : i ≠ none) : toggles t tog i = toggles s tog i := by
    cases i with
    | none => exact absurd rfl hi
    | some i => rfl
  -- of the bits it toggles none is a command bit, so what is left is that host bits stay
  have hspared (hhost : ∀ b, isCommandBit b → t.hostBit b = s.hostBit b) (b : ℕ)
      (hb : isCommandBit b) : Spared b s t c d :=
    ⟨hhost b hb, hnetx b, fun _ hl => hl.refresh hd⟩
  refine ⟨d, ⟨h.buffers.dsr hstep, hlag, ?_⟩, hspared ?_⟩
  · rcases dsrStep_host hstep with ⟨hsame, hs, ht⟩ | ⟨b, st, u, hs, -, hu, hsame, ht⟩ |
      ⟨u, hu, hsame, ht⟩
    · apply h.lock.of_same hsame
      intro i
      cases i with
      | none => exact Or.inr ⟨hs, ht⟩
      | some i => exact Or.inl rfl
    · exact h.lock.toggleStep (k := none) hs hu hsame ht hothers
    · apply h.lock.toggleBit hu hsame
      intro i
      cases i with
      | none => exact Or.inr ht
      | some i => exact Or.inl rfl
  · intro b hb
    rcases dsrStep_host hstep with ⟨hsame, -⟩ | ⟨b', st, u, -, hb', hu, hsame, -⟩ |
      ⟨u, hu, hsame, -⟩
    · exact congrArg (·.getLsbD b) hsame.host
    · have hne : b ≠ b' := by
        rcases hb' with rfl | rfl
        · exact hb.2.1
        · exact hb.2.2.1
      have hkept := (toggleStep_stage hu).2.1 b (by have := hb.1; omega) (Or.inl hne)
      exact (congrArg (·.getLsbD b) hsame.host).trans hkept
    · have hkept := (netanaTkitToggleBit_stage hu).2.2.1 b (by have := hb.1; omega) hb.2.2.2
      exact (congrArg (·.getLsbD b) hsame.host).trans hkept

/-- The steps of the ISR, of the DSR thread, of other threads and of the firmware. -/
theorem HandshakeInv.other {s t : DrvState β} {tog : ι → Option (ℕ × ToggleStage)}
    {c : Cache (BitVec 16)} {a : InterruptAction β} (h : HandshakeInv s tog c)
    (hstep : interruptStep s a = some t) :
    ∃ d, HandshakeInv t tog d ∧
      ∀ b, isCommandBit b → a.spares b s = true → Spared b s t c d := by
  have hcallers (u : DrvState β) (i : Option ι) (hu : u.dsr = s.dsr) :
      toggles u tog i = toggles s tog i := by
    cases i with
    | none => exact congrArg DsrPc.toggling hu
    | some i => rfl
  cases a with
  -- the ISR writes neither the host flags nor the netX flags, so every bit is spared
  | isr w =>
    cases hstep
    obtain ⟨-, hhost, hdsr⟩ := isr_same w s
    have hreal : (netanaIsr w s).usNetxFlags = s.usNetxFlags := by
      have hl := (h.lags.isr w).real
      rw [h.lags.real] at hl
      exact hl.symm
    have hlock : SameLock s (netanaIsr w s) := ⟨hhost.host, hhost.stored, hhost.lock⟩
    refine ⟨c, ⟨h.buffers.isr w, h.lags.isr w, h.lock.of_same hlock fun i => Or.inl ?_⟩,
      fun b _ _ => ⟨congrArg (·.getLsbD b) hhost.host, congrArg (·.getLsbD b) hreal,
        fun _ hl => hl⟩⟩
    exact hcallers _ i hdsr
  | dsr ch =>
    obtain ⟨d, hd, hspared⟩ := h.dsr hstep
    exact ⟨d, hd, fun b hb _ => hspared b hb⟩
  | firmware netx bufs state error sizes content =>
    cases hstep
    refine ⟨c.write netx, ⟨h.buffers.congr rfl rfl rfl rfl rfl rfl id,
      h.lags.firmware netx rfl rfl rfl rfl rfl,
      h.lock.of_same ⟨rfl, rfl, rfl⟩ fun i => Or.inl (hcallers _ i rfl)⟩, ?_⟩
    intro b _ hkeep
    -- sparing the bit means here that the firmware writes the value it already has
    have hbit : netx.getLsbD b = s.usNetxFlags.getLsbD b := by
      simpa [InterruptAction.spares] using hkeep
    refine ⟨rfl, hbit, fun v hl => hl.write_same ?_⟩
    rw [h.real b]
    exact hbit
  | toggle b =>
    have hsame := netanaTkitToggleBit_sameFlags hstep
    have hdsr := netanaTkitToggleBit_dsr hstep
    refine ⟨c, ⟨h.buffers.toggle hstep, h.lags.of_same hsame (by rw [hdsr]; exact id),
      h.lock.toggleBit hstep (SameLock.refl t) fun i => Or.inl (hcallers _ i hdsr)⟩, ?_⟩
    intro b' hb hkeep
    have hne : b' ≠ b := by
      intro heq
      rw [heq] at hkeep
      simp [InterruptAction.spares] at hkeep
    refine ⟨(netanaTkitToggleBit_stage hstep).2.2.1 b' (by have := hb.1; omega) hne, ?_,
      fun _ hl => hl⟩
    rw [hsame.netx]
  | signalStop =>
    cases hstep
    exact ⟨c, ⟨h.buffers.congr rfl rfl rfl rfl rfl rfl fun _ => rfl,
      ⟨h.lags.real, h.lags.cached, h.lags.buffers⟩,
      h.lock.of_same ⟨rfl, rfl, rfl⟩ fun i => Or.inl (hcallers _ i rfl)⟩,
      fun _ _ _ => ⟨rfl, rfl, fun _ hl => hl⟩⟩
  | stopThread =>
    cases hstep
    exact ⟨c, ⟨h.buffers.congr rfl rfl rfl rfl rfl rfl id,
      ⟨h.lags.real, h.lags.cached, h.lags.buffers⟩,
      h.lock.of_same ⟨rfl, rfl, rfl⟩ fun i => Or.inl (hcallers _ i rfl)⟩,
      fun _ _ _ => ⟨rfl, rfl, fun _ hl => hl⟩⟩

/-- A statement of a caller that leaves the handshake alone. -/
theorem HandshakeInv.of_same {s t : DrvState β} {tog tog' : ι → Option (ℕ × ToggleStage)}
    {c : Cache (BitVec 16)} (h : HandshakeInv s tog c) (hs : SameHandshake s t)
    (htog : ∀ i, tog' i = tog i ∨ (inLock (tog i) = false ∧ inLock (tog' i) = false)) :
    HandshakeInv t tog' c := by
  refine ⟨h.buffers.of_flags hs.flags hs.dsr,
    h.lags.of_same hs.flags (by rw [hs.dsr]; exact id), h.lock.of_same hs.host ?_⟩
  intro i
  cases i with
  | none => exact Or.inl (congrArg DsrPc.toggling hs.dsr)
  | some i => exact htog i

/-- The netX flags are written by the firmware. -/
theorem HandshakeInv.netx {s : DrvState β} {tog : ι → Option (ℕ × ToggleStage)}
    {c : Cache (BitVec 16)} (h : HandshakeInv s tog c) (w : BitVec 16) :
    HandshakeInv { s with usNetxFlags := w } tog (c.write w) := by
  refine ⟨h.buffers.congr rfl rfl rfl rfl rfl rfl id, h.lags.firmware w rfl rfl rfl rfl rfl,
    h.lock.of_same ⟨rfl, rfl, rfl⟩ ?_⟩
  intro i
  cases i <;> exact Or.inl rfl

theorem toggleStep_dsr {b : ℕ} {st : ToggleStage} {s : DrvState β}
    {u : DrvState β × Option ToggleStage} (h : toggleStep b st s = some u) :
    u.1.dsr = s.dsr := by
  cases st <;> simp only [toggleStep, osEnterLock, xorHostFlags, storeHostFlags, osLeaveLock] at h
  case enterLock =>
    split at h
    · cases h
    · cases h
      rfl
  all_goals
    cases h
    rfl

/-- A statement of a toggle by a caller. -/
theorem HandshakeInv.toggle {s : DrvState β} {tog tog' : ι → Option (ℕ × ToggleStage)}
    {c : Cache (BitVec 16)} (h : HandshakeInv s tog c) {i : ι} {b : ℕ} {st : ToggleStage}
    {u : DrvState β × Option ToggleStage} (hi : tog i = some (b, st))
    (hu : toggleStep b st s = some u) (hi' : tog' i = u.2.map fun st => (b, st))
    (hothers : ∀ j, j ≠ i → tog' j = tog j) : HandshakeInv u.1 tog' c := by
  have hflags := toggleStep_sameFlags hu
  have hdsr := toggleStep_dsr hu
  refine ⟨h.buffers.of_flags hflags hdsr, h.lags.of_same hflags (by rw [hdsr]; exact id),
    h.lock.toggleStep (k := some i) hi hu (SameLock.refl u.1) hi' ?_⟩
  intro j hj
  cases j with
  | none => exact congrArg DsrPc.toggling hdsr
  | some j => exact hothers j fun heq => hj (congrArg some heq)

theorem toggling_bit {d : DsrPc} {b : ℕ} {st : ToggleStage} (h : d.toggling = some (b, st)) :
    b = newdataBit ∨ b = newstatusBit := by
  cases d
  all_goals first | (cases h; done) | skip
  case toggleData => cases h; exact Or.inl rfl
  case toggleStatus => cases h; exact Or.inr rfl

/-- What the firmware sees of a command bit depends on the callers only. -/
theorem HandshakeInv.shown_cases {s : DrvState β} {tog : ι → Option (ℕ × ToggleStage)}
    {c : Cache (BitVec 16)} (h : HandshakeInv s tog c) {b : ℕ} (hb : isCommandBit b) :
    ((∃ i, tog i = some (b, .storeHost)) ∧ s.usHostFlags.getLsbD b = !s.hostBit b) ∨
      ((∀ i, tog i ≠ some (b, .storeHost)) ∧ s.usHostFlags.getLsbD b = s.hostBit b) := by
  by_cases hex : ∃ i, tog i = some (b, .storeHost)
  · obtain ⟨i, hi⟩ := hex
    have htog : toggles s tog (some i) = some (b, .storeHost) := hi
    exact Or.inl ⟨⟨i, hi⟩, h.lock.shown_old hb.1 htog⟩
  · rw [not_exists] at hex
    refine Or.inr ⟨hex, h.lock.shown hb.1 fun i htog => ?_⟩
    cases i with
    | none =>
      rcases toggling_bit htog with heq | heq
      · exact hb.2.1 heq
      · exact hb.2.2.1 heq
    | some i => exact hex i htog

/-- The firmware toggles one of its bits. -/
def DrvState.toggleNetx (s : DrvState β) (b : ℕ) : DrvState β :=
  { s with usNetxFlags := toggleBit s.usNetxFlags b }

theorem HandshakeInv.toggleNetx {s : DrvState β} {tog : ι → Option (ℕ × ToggleStage)}
    {c : Cache (BitVec 16)} (h : HandshakeInv s tog c) (b : ℕ) :
    HandshakeInv (s.toggleNetx b) tog (c.write (toggleBit s.usNetxFlags b)) :=
  h.netx _

/-- The other bits stay as they are. -/
theorem HandshakeInv.toggleNetx_spared {s : DrvState β} {tog : ι → Option (ℕ × ToggleStage)}
    {c : Cache (BitVec 16)} (h : HandshakeInv s tog c) {b b' : ℕ} (hb : b < 16) (hne : b ≠ b') :
    Spared b s (s.toggleNetx b') c (c.write (toggleBit s.usNetxFlags b')) := by
  have hbit : (toggleBit s.usNetxFlags b').getLsbD b = s.usNetxFlags.getLsbD b :=
    getLsbD_toggleBit_ne _ hb hne
  refine ⟨rfl, hbit, fun v hl => hl.write_same ?_⟩
  rw [h.real b]
  exact hbit

/-- An answer brings the bit to the value at which it latches. -/
theorem toggleNetx_latched {s : DrvState β} {c : Cache (BitVec 16)} {b : ℕ} {v : Bool}
    (hb : b < 16) (hl : c.LatchedOn (·.getLsbD b) v) (hold : s.usNetxFlags.getLsbD b = !v) :
    (s.toggleNetx b).usNetxFlags.getLsbD b = v ∧
      (c.write (toggleBit s.usNetxFlags b)).LatchedOn (·.getLsbD b) v := by
  have hnew : (toggleBit s.usNetxFlags b).getLsbD b = v := by
    rw [getLsbD_toggleBit_self _ _ hb, hold, Bool.not_not]
  exact ⟨hnew, hl.write_latch hnew⟩

end NetanaDriver
