import NetanaDriver.CaptureRing

/-! The NEWDATA and NEWSTATUS indications of a running capture: what the DSR can conclude from
its lagging copy of the netX flags about what the firmware has done. -/
namespace NetanaDriver
open ToggleHandshake LaggingCache FlagRing

variable {β : Type*}

/-- The handshake bit the DSR is toggling, and how far it has come. -/
def DsrPc.toggling : DsrPc → Option (ℕ × ToggleStage)
  | .toggleData stage _ => some (newdataBit, stage)
  | .toggleStatus stage _ => some (newstatusBit, stage)
  | _ => none

/-- The dual-port memory shows the host flags, except between the two writes of a toggle, and
the lock is held from the first write until after the second. -/
def DrvState.stageInv (s : DrvState β) : Option (ℕ × ToggleStage) → Prop
  | none | some (_, .enterLock) =>
    s.usHostFlags = s.ulHostFlags.setWidth 16 ∧ s.pvLock = some false
  | some (_, .xorHost) | some (_, .leaveLock) =>
    s.usHostFlags = s.ulHostFlags.setWidth 16 ∧ s.pvLock = some true
  | some (b, .storeHost) =>
    s.usHostFlags = (toggleBit s.ulHostFlags b).setWidth 16 ∧ s.pvLock = some true

def HostInv (s : DrvState β) : Prop := s.stageInv s.dsr.toggling

/-- The driver's own bit. -/
def DrvState.hostBit (s : DrvState β) (b : ℕ) : Bool := s.ulHostFlags.getLsbD b

/-- What one statement of a toggle does to the bits of the driver. -/
theorem toggleStep_stage {b : ℕ} {st : ToggleStage} {s : DrvState β}
    {r : DrvState β × Option ToggleStage} (h : toggleStep b st s = some r) :
    (s.stageInv (some (b, st)) → r.1.stageInv (r.2.map fun st => (b, st))) ∧
      (∀ i, i < 32 → i ≠ b ∨ st ≠ .xorHost → r.1.hostBit i = s.hostBit i) ∧
      r.1.ulCaptureState = s.ulCaptureState ∧ r.1.hStopComplete = s.hStopComplete := by
  cases st
  all_goals simp only [toggleStep, osEnterLock, xorHostFlags, storeHostFlags, osLeaveLock] at h
  case enterLock =>
    split at h
    · cases h
    · cases h
      refine ⟨fun hs => ⟨hs.1, ?_⟩, fun _ _ _ => rfl, rfl, rfl⟩
      dsimp only
      rw [hs.2]
      rfl
  case xorHost =>
    cases h
    refine ⟨fun hs => ⟨?_, hs.2⟩, fun i hi hne => ?_, rfl, rfl⟩
    · dsimp only
      rw [toggleBit_toggleBit]
      exact hs.1
    · exact getLsbD_toggleBit_ne _ hi (hne.resolve_right (by simp))
  case storeHost =>
    cases h
    exact ⟨fun hs => ⟨rfl, hs.2⟩, fun _ _ _ => rfl, rfl, rfl⟩
  case leaveLock =>
    cases h
    refine ⟨fun hs => ⟨hs.1, ?_⟩, fun _ _ _ => rfl, rfl, rfl⟩
    dsimp only
    rw [hs.2]
    rfl

theorem netanaTkitToggleBit_stage {b : ℕ} {s t : DrvState β}
    (h : netanaTkitToggleBit b s = some t) :
    (s.stageInv none → t.stageInv none) ∧ s.pvLock ≠ some true ∧
      (∀ i, i < 32 → i ≠ b → t.hostBit i = s.hostBit i) ∧
      t.ulCaptureState = s.ulCaptureState ∧ t.hStopComplete = s.hStopComplete := by
  simp only [netanaTkitToggleBit, osEnterLock] at h
  split at h
  · cases h
  · rename_i hlock
    cases h
    refine ⟨fun hs => ⟨rfl, ?_⟩, hlock, fun i hi hne => getLsbD_toggleBit_ne _ hi hne, rfl, rfl⟩
    simp only [osLeaveLock, storeHostFlags, xorHostFlags]
    rw [hs.2]
    rfl

theorem netanaSignalDriverError_stage {c : DsrChoice} {s t : DrvState β}
    (h : netanaSignalDriverError c s = some t) :
    (s.stageInv none → t.stageInv none) ∧
      (∀ i, i < 32 → i ≠ drvErrorBit → t.hostBit i = s.hostBit i) ∧
      t.ulCaptureState = s.ulCaptureState ∧ t.hStopComplete = s.hStopComplete := by
  rw [netanaSignalDriverError] at h
  split at h
  · obtain ⟨h1, -, h2, h3, h4⟩ := netanaTkitToggleBit_stage h
    exact ⟨h1, h2, h3, h4⟩
  · cases h
    exact ⟨id, fun _ _ _ => rfl, rfl, rfl⟩

theorem toggling_outside {d : DsrPc} (h : d.inProcess = false ∨ ∃ l, d = .testNewData l) :
    d.toggling = none := by
  rcases h with h | ⟨l, rfl⟩
  · cases d
    all_goals first | rfl | cases h
  · rfl

/-- Every statement of the DSR keeps the shown host flags and the lock in step. -/
theorem HostInv.dsr {s t : DrvState β} {c : DsrChoice} (hi : HostInv s)
    (h : dsrStep c s = some t) : HostInv t := by
  rw [HostInv] at hi ⊢
  cases hin : s.dsr.inProcess with
  | false =>
    obtain ⟨-, hsame, ht⟩ := dsrStep_outside h hin
    rw [toggling_outside (Or.inl hin)] at hi
    rw [toggling_outside (ht.imp_right fun h => ⟨_, h.2⟩), DrvState.stageInv, hsame.stored,
      hsame.host, hsame.lock]
    exact hi
  | true =>
    rw [dsrStep] at h
    cases hpc : s.dsr
    all_goals rw [hpc] at hin hi
    all_goals first | cases hin; done | skip
    all_goals
      rw [hpc] at h
      dsimp only at h
    case testNewData l =>
      cases h
      cases maskTest l.ulUnequalFlags (1#32 <<< newdataBit) <;> exact hi
    case toggleData stage l =>
      obtain ⟨u, hu, rfl⟩ := Option.map_eq_some_iff.mp h
      have hstage := (toggleStep_stage hu).1 hi
      dsimp only
      cases hnext : u.2 with
      | none =>
        rw [hnext] at hstage
        exact hstage
      | some st =>
        rw [hnext] at hstage
        cases st <;> exact hstage
    case toggleStatus stage state =>
      obtain ⟨u, hu, rfl⟩ := Option.map_eq_some_iff.mp h
      have hstage := (toggleStep_stage hu).1 hi
      dsimp only
      cases hnext : u.2 with
      | none =>
        rw [hnext] at hstage
        exact hstage
      | some st =>
        rw [hnext] at hstage
        cases st <;> exact hstage
    case rejectBuffer l =>
      obtain ⟨u, hu, rfl⟩ := Option.map_eq_some_iff.mp h
      exact (netanaSignalDriverError_stage hu).1 hi
    case writeFile l =>
      split at h
      · obtain ⟨u, hu, rfl⟩ := Option.map_eq_some_iff.mp h
        exact (netanaSignalDriverError_stage hu).1 hi
      · cases h
        exact hi
    case testUsed l =>
      cases h
      cases maskTest l.ulUsedBuffers l.ulBufferMask <;> exact hi
    case testSize l =>
      cases h
      dsimp only
      split <;> exact hi
    case testNewStatus l =>
      cases h
      cases maskTest l.ulUnequalFlags (1#32 <<< newstatusBit) <;> exact hi
    case testOff state =>
      split at h
      all_goals
        cases h
        exact hi
    all_goals
      cases h
      exact hi

/-- An entry of the handshake history: the netX flags, and how many buffers the last NEWDATA
toggle before it covers. -/
def entryBit (b : ℕ) (e : BitVec 16 × ℕ) : Bool := e.1.getLsbD b

/-- Positions between the acknowledge of NEWDATA and the read of the buffer flags. -/
def DsrPc.ackedUnread : DsrPc → Bool
  | .toggleData .storeHost _ | .toggleData .leaveLock _ | .readBufferFlags _ => true
  | _ => false

/-- The local copy of the unequal flags is still right about a bit. -/
def DrvState.unequalRight (s : DrvState β) (c : Cache (BitVec 16 × ℕ)) (l : ProcessLocals)
    (b : ℕ) : Prop :=
  l.ulUnequalFlags.getLsbD b = (entryBit b c.cached ^^ s.hostBit b)

/-- A state OFF that the DSR has read was announced after the last buffer. -/
def OffSeen (f : Firmware β) (v : ℕ) (ulCaptureState : BitVec 32) : Prop :=
  ulCaptureState = captureStateOff → f.statusOverrun = false →
    f.stopped = true ∧ v = f.filled.length

/-- What the position of the DSR says about the indications. -/
def DrvState.indPosition (s : DrvState β) (f : Firmware β) (c : Cache (BitVec 16 × ℕ))
    (v : ℕ) : Prop :=
  match s.dsr with
  | .testNewData l => s.unequalRight c l newdataBit ∧ s.unequalRight c l newstatusBit
  | .toggleData .enterLock l | .toggleData .xorHost l =>
    s.unequalRight c l newstatusBit ∧ entryBit newdataBit c.cached = !s.hostBit newdataBit
  | .toggleData .storeHost l =>
    s.unequalRight c l newstatusBit ∧ entryBit newdataBit c.cached = s.hostBit newdataBit ∧
      entryBit newdataBit c.real = s.hostBit newdataBit
  | .toggleData .leaveLock l | .readBufferFlags l | .testUsed l | .readSize l | .testSize l
  | .rejectBuffer l | .writeFile l | .callData l | .freeBuffer l | .clearUsed l | .advance l
  | .testNewStatus l =>
    s.unequalRight c l newstatusBit ∧ entryBit newdataBit c.cached = s.hostBit newdataBit
  | .readState => entryBit newdataBit c.cached = s.hostBit newdataBit ∧
      entryBit newstatusBit c.cached = !s.hostBit newstatusBit
  | .callStatus state _ | .toggleStatus .enterLock state | .toggleStatus .xorHost state =>
    entryBit newstatusBit c.cached = (!s.hostBit newstatusBit) ∧ OffSeen f v state
  | .toggleStatus .storeHost state =>
    (f.statusOverrun = false → entryBit newstatusBit c.real = s.hostBit newstatusBit) ∧
      OffSeen f v state
  | .toggleStatus .leaveLock state | .testOff state => OffSeen f v state
  | _ => True

/-- How the indications stand. Everything that an acknowledged NEWDATA toggle covers lies below
`v`, and while a state OFF is announced nothing is left to be filled. `early` allows for a stop
event that was set before the capture. -/
structure IndInv (early : Prop) (s : DrvState β) (f : Firmware β) (c : Cache (BitVec 16 × ℕ))
    (r v : ℕ) : Prop where
  lags : Lags Prod.fst s c
  indicated : c.real.2 = f.indicated
  counted : ∀ e ∈ c.view, e.2 ≤ f.filled.length
  dataLatched : c.LatchedOn (entryBit newdataBit) (!s.hostBit newdataBit)
  covered : s.dsr.ackedUnread = false → ∀ e ∈ c.view,
    entryBit newdataBit e = s.hostBit newdataBit → e.2 ≤ v
  statusLatched : f.statusOverrun = false →
    c.LatchedOn (entryBit newstatusBit) (!s.hostBit newstatusBit)
  announced : f.statusOverrun = false → s.ulCaptureState = captureStateOff → ∀ e ∈ c.view,
    entryBit newstatusBit e = (!s.hostBit newstatusBit) →
      f.stopped = true ∧ e.2 = f.filled.length
  stopEvent : s.hStopComplete = some true → f.statusOverrun = false →
    early ∨ (f.stopped = true ∧ r = f.filled.length)
  position : s.indPosition f c v

/-- A statement of the DSR that changes neither the cached flags nor the two host bits. -/
theorem IndInv.of_same {early : Prop} {s t : DrvState β} {f : Firmware β}
    {c : Cache (BitVec 16 × ℕ)} {r v r' v' : ℕ} (hi : IndInv early s f c r v)
    (hlag : Lags Prod.fst t c) (hdata : t.hostBit newdataBit = s.hostBit newdataBit)
    (hstatus : t.hostBit newstatusBit = s.hostBit newstatusBit)
    (hstate : t.ulCaptureState = s.ulCaptureState) (hstop : t.hStopComplete = s.hStopComplete)
    (hr : r ≤ r') (hrw : r' ≤ f.filled.length) (hv : v ≤ v')
    (hack : t.dsr.ackedUnread = false → s.dsr.ackedUnread = false ∨ v' = f.filled.length)
    (hpos : t.indPosition f c v') : IndInv early t f c r' v' := by
  refine ⟨hlag, hi.indicated, hi.counted, ?_, ?_, ?_, ?_, ?_, hpos⟩
  · rw [hdata]
    exact hi.dataLatched
  · rw [hdata]
    intro ht e he hbit
    rcases hack ht with hs | hall
    · exact (hi.covered hs e he hbit).trans hv
    · rw [hall]
      exact hi.counted e he
  · rw [hstatus]
    exact hi.statusLatched
  · rw [hstatus, hstate]
    exact hi.announced
  · rw [hstop]
    intro hset hover
    refine (hi.stopEvent hset hover).imp_right fun ⟨h1, h2⟩ => ⟨h1, by omega⟩

/-- Between the passes the position says nothing. -/
theorem indPosition_outside {s : DrvState β} {f : Firmware β} {c : Cache (BitVec 16 × ℕ)}
    {v : ℕ} (h : s.dsr.inProcess = false) : s.indPosition f c v := by
  rw [DrvState.indPosition]
  cases hpc : s.dsr
  all_goals first | trivial | (rw [hpc] at h; cases h)

theorem isTail_of_inProcess {d : DsrPc} (h : d.inProcess = true) : d.isTail = true := by
  cases d
  all_goals first | rfl | cases h

theorem OffSeen.mono {f : Firmware β} {v v' : ℕ} {state : BitVec 32} (h : OffSeen f v state)
    (hv : v ≤ v') (hw : v' ≤ f.filled.length) : OffSeen f v' state := by
  intro hoff hover
  obtain ⟨h1, h2⟩ := h hoff hover
  exact ⟨h1, by omega⟩

/-- The bit that the DSR reads from the cached flags. -/
theorem cached_bit {s : DrvState β} {c : Cache (BitVec 16 × ℕ)} (h : Lags Prod.fst s c) {b : ℕ}
    (hb : b < 16) : s.ulNetxFlags.getLsbD b = entryBit b c.cached := by
  rw [h.cached, BitVec.getLsbD_setWidth, entryBit]
  simp
  omega

/-- A pass that takes a newer snapshot over, or nothing at all. -/
theorem IndInv.dsr_outside {early : Prop} {s t : DrvState β} {f : Firmware β}
    {c : Cache (BitVec 16 × ℕ)} {r v r' v' : ℕ} {ch : DsrChoice} (hb : DoubleBufferInv s)
    (hi : IndInv early s f c r v) (hr : r ≤ r') (hrw : r' ≤ f.filled.length) (hv : v ≤ v')
    (h : dsrStep ch s = some t) (hout : s.dsr.inProcess = false) :
    ∃ d, IndInv early t f d r' v' := by
  obtain ⟨-, hhost, ht⟩ := dsrStep_outside h hout
  obtain ⟨k, d, hd, hlag, htail⟩ := Lags.dsr hb hi.lags h
  have hsub := (view_refresh hd).subset
  have hbit (b : ℕ) : t.hostBit b = s.hostBit b := by
    rw [DrvState.hostBit, DrvState.hostBit, hhost.host]
  have hack : s.dsr.ackedUnread = false := by
    cases hpc : s.dsr
    all_goals first | rfl | (rw [hpc] at hout; cases hout)
  refine ⟨d, hlag, ?_, fun e he => hi.counted e (hsub he), ?_, ?_, ?_, ?_, ?_, ?_⟩
  · rw [real_refresh hd]
    exact hi.indicated
  · rw [hbit]
    exact hi.dataLatched.refresh hd
  · rw [hbit]
    exact fun _ e he hbit => (hi.covered hack e (hsub he) hbit).trans hv
  · rw [hbit]
    exact fun hover => (hi.statusLatched hover).refresh hd
  · rw [hbit, hhost.state]
    exact fun hover hoff e he => hi.announced hover hoff e (hsub he)
  · rw [hhost.stopEvent]
    intro hset hover
    exact (hi.stopEvent hset hover).imp_right fun ⟨h1, h2⟩ => ⟨h1, by omega⟩
  · rcases ht with ht | ⟨hstart, ht⟩
    · exact indPosition_outside ht
    · have hd : d = c := htail (by rw [hstart]; rfl)
      rw [DrvState.indPosition, ht, hd]
      have hright (b : ℕ) (hb : b < 16) : t.unequalRight c
          ⟨s.ulNetxFlags ^^^ s.ulHostFlags, 0#32, 0#32, 0#32⟩ b := by
        rw [DrvState.unequalRight, hbit, BitVec.getLsbD_xor, cached_bit hi.lags hb]
        rfl
      exact ⟨hright newdataBit (by decide), hright newstatusBit (by decide)⟩

theorem unequalRight_congr {s t : DrvState β} {c : Cache (BitVec 16 × ℕ)} {l : ProcessLocals}
    {b : ℕ} (h : t.hostBit b = s.hostBit b) : t.unequalRight c l b ↔ s.unequalRight c l b := by
  rw [DrvState.unequalRight, DrvState.unequalRight, h]

/-- The acknowledge of NEWDATA: all that the DSR has still to see is the acknowledged value. -/
theorem IndInv.ackData {early : Prop} {s t : DrvState β} {f : Firmware β}
    {c : Cache (BitVec 16 × ℕ)} {r v r' v' : ℕ} {l : ProcessLocals} (hi : IndInv early s f c r v)
    (hcached : entryBit newdataBit c.cached = !s.hostBit newdataBit)
    (hright : s.unequalRight c l newstatusBit) (hlag : Lags Prod.fst t c)
    (hdata : t.hostBit newdataBit = !s.hostBit newdataBit)
    (hstatus : t.hostBit newstatusBit = s.hostBit newstatusBit)
    (hstate : t.ulCaptureState = s.ulCaptureState) (hstop : t.hStopComplete = s.hStopComplete)
    (hr : r ≤ r') (hrw : r' ≤ f.filled.length) (hpc : t.dsr = .toggleData .storeHost l) :
    IndInv early t f c r' v' := by
  have hall := hi.dataLatched.all_of_cached hcached
  refine ⟨hlag, hi.indicated, hi.counted, ?_, ?_, ?_, ?_, ?_, ?_⟩
  · rw [hdata]
    exact latchedOn_of_all hall
  · rw [hpc]
    intro hack
    cases hack
  · rw [hstatus]
    exact hi.statusLatched
  · rw [hstatus, hstate]
    exact hi.announced
  · rw [hstop]
    intro hset hover
    exact (hi.stopEvent hset hover).imp_right fun ⟨h1, h2⟩ => ⟨h1, by omega⟩
  · rw [DrvState.indPosition, hpc, hdata]
    exact ⟨(unequalRight_congr hstatus).mpr hright, hcached, hall c.real (real_mem_view c)⟩

/-- The acknowledge of NEWSTATUS. -/
theorem IndInv.ackStatus {early : Prop} {s t : DrvState β} {f : Firmware β}
    {c : Cache (BitVec 16 × ℕ)} {r v r' v' : ℕ} {state : BitVec 32}
    (hi : IndInv early s f c r v)
    (hcached : entryBit newstatusBit c.cached = !s.hostBit newstatusBit)
    (hoff : OffSeen f v state) (hack : s.dsr.ackedUnread = false) (hlag : Lags Prod.fst t c)
    (hdata : t.hostBit newdataBit = s.hostBit newdataBit)
    (hstatus : t.hostBit newstatusBit = !s.hostBit newstatusBit)
    (hstop : t.hStopComplete = s.hStopComplete)
    (hr : r ≤ r') (hrw : r' ≤ f.filled.length) (hv : v ≤ v') (hvw : v' ≤ f.filled.length)
    (hpc : t.dsr = .toggleStatus .storeHost state) : IndInv early t f c r' v' := by
  have hall (hover : f.statusOverrun = false) :=
    (hi.statusLatched hover).all_of_cached hcached
  refine ⟨hlag, hi.indicated, hi.counted, ?_, ?_, ?_, ?_, ?_, ?_⟩
  · rw [hdata]
    exact hi.dataLatched
  · rw [hdata]
    exact fun _ e he hbit => (hi.covered hack e he hbit).trans hv
  · rw [hstatus]
    exact fun hover => latchedOn_of_all (hall hover)
  · rw [hstatus]
    intro hover _ e he hbit
    rw [hall hover e he] at hbit
    simp at hbit
  · rw [hstop]
    intro hset hover
    exact (hi.stopEvent hset hover).imp_right fun ⟨h1, h2⟩ => ⟨h1, by omega⟩
  · rw [DrvState.indPosition, hpc, hstatus]
    exact ⟨fun hover => hall hover c.real (real_mem_view c), hoff.mono hv hvw⟩

section DsrStep
variable {early : Prop} {s t : DrvState β} {f : Firmware β} {c : Cache (BitVec 16 × ℕ)}
  {r v r' v' : ℕ} {ch : DsrChoice} {l : ProcessLocals}

theorem IndInv.testNewData (hi : IndInv early s f c r v) (hpc : s.dsr = .testNewData l)
    (h : dsrStep ch s = some t) (hlag : Lags Prod.fst t c) (hr : r ≤ r')
    (hrw : r' ≤ f.filled.length) (hv : v ≤ v') : IndInv early t f c r' v' := by
  have hpos := hi.position
  rw [DrvState.indPosition, hpc] at hpos
  rw [dsrStep, hpc] at h
  dsimp only at h hpos
  cases h
  obtain ⟨hdata, hstatus⟩ := hpos
  refine hi.of_same hlag rfl rfl rfl rfl hr hrw hv (fun _ => Or.inl (by rw [hpc]; rfl)) ?_
  rw [DrvState.indPosition]
  rw [DrvState.unequalRight] at hdata
  rw [maskTest_one_shiftLeft _ _ (by decide), hdata]
  cases hx : (entryBit newdataBit c.cached ^^ s.hostBit newdataBit) with
  | true =>
    refine ⟨hstatus, ?_⟩
    rw [Bool.xor_iff_ne] at hx
    exact Bool.eq_not.mpr hx
  | false =>
    have hsame : entryBit newdataBit c.cached = s.hostBit newdataBit := by simpa using hx
    exact ⟨hstatus, hsame⟩

/-- With the toggle of NEWDATA the host's bit comes to equal the one the DSR had cached. -/
theorem IndInv.toggleData {stage : ToggleStage} (hi : IndInv early s f c r v)
    (hpc : s.dsr = .toggleData stage l) (h : dsrStep ch s = some t) (hlag : Lags Prod.fst t c)
    (hr : r ≤ r') (hrw : r' ≤ f.filled.length) (hv : v ≤ v') : IndInv early t f c r' v' := by
  have hpos := hi.position
  rw [DrvState.indPosition, hpc] at hpos
  rw [dsrStep, hpc] at h
  dsimp only at h hpos
  obtain ⟨u, hu, rfl⟩ := Option.map_eq_some_iff.mp h
  obtain ⟨-, hbits, hstate, hstop⟩ := toggleStep_stage hu
  have hstatus := hbits newstatusBit (by decide) (Or.inl (by decide))
  cases stage with
  | xorHost =>
    cases hu
    obtain ⟨hright, hcached⟩ := hpos
    exact hi.ackData hcached hright hlag (getLsbD_toggleBit_self _ _ (by decide)) hstatus
      hstate hstop hr hrw rfl
  | enterLock =>
    have hdata := hbits newdataBit (by decide) (Or.inr (by simp))
    refine hi.of_same hlag hdata hstatus hstate hstop hr hrw hv
      (fun _ => Or.inl (by rw [hpc]; rfl)) ?_
    obtain ⟨x, hx, rfl⟩ := Option.map_eq_some_iff.mp hu
    obtain ⟨hright, hcached⟩ := hpos
    refine ⟨(unequalRight_congr hstatus).mpr hright, ?_⟩
    exact hcached.trans (congrArg _ hdata.symm)
  | storeHost =>
    have hdata := hbits newdataBit (by decide) (Or.inr (by simp))
    cases hu
    obtain ⟨hright, hcached, -⟩ := hpos
    exact hi.of_same hlag hdata hstatus hstate hstop hr hrw hv (fun hack => by cases hack)
      ⟨(unequalRight_congr hstatus).mpr hright, hcached.trans hdata.symm⟩
  | leaveLock =>
    have hdata := hbits newdataBit (by decide) (Or.inr (by simp))
    cases hu
    obtain ⟨hright, hcached⟩ := hpos
    exact hi.of_same hlag hdata hstatus hstate hstop hr hrw hv (fun hack => by cases hack)
      ⟨(unequalRight_congr hstatus).mpr hright, hcached.trans hdata.symm⟩

theorem IndInv.testNewStatus (hi : IndInv early s f c r v) (hpc : s.dsr = .testNewStatus l)
    (h : dsrStep ch s = some t) (hlag : Lags Prod.fst t c) (hr : r ≤ r')
    (hrw : r' ≤ f.filled.length) (hv : v ≤ v') : IndInv early t f c r' v' := by
  have hpos := hi.position
  rw [DrvState.indPosition, hpc] at hpos
  rw [dsrStep, hpc] at h
  dsimp only at h hpos
  cases h
  obtain ⟨hstatus, hdata⟩ := hpos
  refine hi.of_same hlag rfl rfl rfl rfl hr hrw hv (fun _ => Or.inl (by rw [hpc]; rfl)) ?_
  rw [DrvState.indPosition]
  rw [DrvState.unequalRight] at hstatus
  rw [maskTest_one_shiftLeft _ _ (by decide), hstatus]
  cases hx : (entryBit newstatusBit c.cached ^^ s.hostBit newstatusBit) with
  | true =>
    refine ⟨hdata, ?_⟩
    rw [Bool.xor_iff_ne] at hx
    exact Bool.eq_not.mpr hx
  | false => trivial

/-- A state OFF was announced after the last buffer, and the data toggle seen with it covers that
buffer. -/
theorem IndInv.readState (hi : IndInv early s f c r v) (hpc : s.dsr = .readState)
    (h : dsrStep ch s = some t) (hlag : Lags Prod.fst t c) (hr : r ≤ r')
    (hrw : r' ≤ f.filled.length) (hv : v ≤ v') (hvw : v' ≤ f.filled.length) :
    IndInv early t f c r' v' := by
  have hpos := hi.position
  rw [DrvState.indPosition, hpc] at hpos
  rw [dsrStep, hpc] at h
  dsimp only at h hpos
  cases h
  obtain ⟨hdata, hstatus⟩ := hpos
  refine hi.of_same hlag rfl rfl rfl rfl hr hrw hv (fun _ => Or.inl (by rw [hpc]; rfl))
    ⟨hstatus, fun hoff hover => ?_⟩
  obtain ⟨hstopped, hcount⟩ := hi.announced hover hoff c.cached (cached_mem_view c) hstatus
  have hle := hi.covered (by rw [hpc]; rfl) c.cached (cached_mem_view c) hdata
  exact ⟨hstopped, by omega⟩

/-- The same for NEWSTATUS. -/
theorem IndInv.toggleStatus {stage : ToggleStage} {state : BitVec 32}
    (hi : IndInv early s f c r v) (hpc : s.dsr = .toggleStatus stage state)
    (h : dsrStep ch s = some t) (hlag : Lags Prod.fst t c) (hr : r ≤ r')
    (hrw : r' ≤ f.filled.length) (hv : v ≤ v') (hvw : v' ≤ f.filled.length) :
    IndInv early t f c r' v' := by
  have hpos := hi.position
  rw [DrvState.indPosition, hpc] at hpos
  rw [dsrStep, hpc] at h
  dsimp only at h hpos
  obtain ⟨u, hu, rfl⟩ := Option.map_eq_some_iff.mp h
  obtain ⟨-, hbits, hstate, hstop⟩ := toggleStep_stage hu
  have hdata := hbits newdataBit (by decide) (Or.inl (by decide))
  cases stage with
  | xorHost =>
    cases hu
    obtain ⟨hcached, hoff⟩ := hpos
    exact hi.ackStatus hcached hoff (by rw [hpc]; rfl) hlag hdata
      (getLsbD_toggleBit_self _ _ (by decide)) hstop hr hrw hv hvw rfl
  | enterLock =>
    have hstatus := hbits newstatusBit (by decide) (Or.inr (by simp))
    refine hi.of_same hlag hdata hstatus hstate hstop hr hrw hv
      (fun _ => Or.inl (by rw [hpc]; rfl)) ?_
    obtain ⟨x, hx, rfl⟩ := Option.map_eq_some_iff.mp hu
    obtain ⟨hcached, hoff⟩ := hpos
    exact ⟨hcached.trans (congrArg _ hstatus.symm), hoff.mono hv hvw⟩
  | storeHost =>
    have hstatus := hbits newstatusBit (by decide) (Or.inr (by simp))
    cases hu
    exact hi.of_same hlag hdata hstatus hstate hstop hr hrw hv
      (fun _ => Or.inl (by rw [hpc]; rfl)) (hpos.2.mono hv hvw)
  | leaveLock =>
    have hstatus := hbits newstatusBit (by decide) (Or.inr (by simp))
    cases hu
    exact hi.of_same hlag hdata hstatus hstate hstop hr hrw hv
      (fun _ => Or.inl (by rw [hpc]; rfl)) (hpos.mono hv hvw)

/-- The only place where the stop event is set. -/
theorem IndInv.testOff {state : BitVec 32} (hi : IndInv early s f c r v)
    (hring : RingInv s f.filled r v) (hpc : s.dsr = .testOff state)
    (h : dsrStep ch s = some t) (hlag : Lags Prod.fst t c) (hr : r ≤ r')
    (hrw : r' ≤ f.filled.length) (hv : v ≤ v') : IndInv early t f c r' v' := by
  have hpos := hi.position
  rw [DrvState.indPosition, hpc] at hpos
  rw [dsrStep, hpc] at h
  dsimp only at h hpos
  have hvr : v = r := by
    have hp := hring.position
    rw [DrvState.ringPosition, hpc] at hp
    exact hp.1
  by_cases hoff : state = captureStateOff
  · rw [if_pos hoff] at h
    cases h
    refine ⟨hlag, hi.indicated, hi.counted, hi.dataLatched, ?_, hi.statusLatched,
      hi.announced, fun _ hover => Or.inr ?_, trivial⟩
    · exact fun _ e he hbit => (hi.covered (by rw [hpc]; rfl) e he hbit).trans hv
    · obtain ⟨hstopped, hfull⟩ := hpos hoff hover
      exact ⟨hstopped, by omega⟩
  · rw [if_neg hoff] at h
    cases h
    exact hi.of_same hlag rfl rfl rfl rfl hr hrw hv (fun _ => Or.inl (by rw [hpc]; rfl))
      trivial

/-- Every statement of the DSR keeps the indications in step with the ring. -/
theorem IndInv.dsr (hb : DoubleBufferInv s) (hring : RingInv s f.filled r v)
    (hring' : RingInv t f.filled r' v') (hi : IndInv early s f c r v) (hr : r ≤ r') (hv : v ≤ v')
    (hread : ∀ l, s.dsr = .readBufferFlags l → v' = f.filled.length)
    (h : dsrStep ch s = some t) : ∃ d, IndInv early t f d r' v' := by
  have hvw' := hring'.bounds.2.1
  have hrw' : r' ≤ f.filled.length := hring'.bounds.1.trans hvw'
  cases hin : s.dsr.inProcess with
  | false => exact hi.dsr_outside hb hr hrw' hv h hin
  | true =>
    have hpos := hi.position
    obtain ⟨k, d, hd, hlag, htail⟩ := Lags.dsr hb hi.lags h
    rw [htail (isTail_of_inProcess hin)] at hlag
    refine ⟨c, ?_⟩
    rw [DrvState.indPosition] at hpos
    have hstep := h
    rw [dsrStep] at h
    cases hpc : s.dsr
    all_goals rw [hpc] at hin
    all_goals first | cases hin; done | skip
    all_goals
      rw [hpc] at h hpos
      dsimp only at h hpos
    case testNewData l => exact hi.testNewData hpc hstep hlag hr hrw' hv
    case toggleData stage l => exact hi.toggleData hpc hstep hlag hr hrw' hv
    case testNewStatus l => exact hi.testNewStatus hpc hstep hlag hr hrw' hv
    case readState => exact hi.readState hpc hstep hlag hr hrw' hv hvw'
    case toggleStatus stage state => exact hi.toggleStatus hpc hstep hlag hr hrw' hv hvw'
    case testOff state => exact hi.testOff hring hpc hstep hlag hr hrw' hv
    case readBufferFlags l =>
      cases h
      exact hi.of_same hlag rfl rfl rfl rfl hr hrw' hv (fun _ => Or.inr (hread l hpc)) hpos
    case testUsed l =>
      cases h
      refine hi.of_same hlag rfl rfl rfl rfl hr hrw' hv (fun _ => Or.inl (by rw [hpc]; rfl)) ?_
      rw [DrvState.indPosition]
      cases maskTest l.ulUsedBuffers l.ulBufferMask <;> exact hpos
    case testSize l =>
      cases h
      refine hi.of_same hlag rfl rfl rfl rfl hr hrw' hv (fun _ => Or.inl (by rw [hpc]; rfl)) ?_
      rw [DrvState.indPosition]
      dsimp only
      by_cases hle : l.ulUsedBufferSize > s.ulBufferSize s.ulCurrentBuffer
      · rw [if_pos hle]
        exact hpos
      · rw [if_neg hle]
        exact hpos
    case rejectBuffer l =>
      have habsurd := hring.position
      rw [DrvState.ringPosition, hpc] at habsurd
      exact absurd habsurd id
    case writeFile l =>
      split at h
      · obtain ⟨u, hu, rfl⟩ := Option.map_eq_some_iff.mp h
        obtain ⟨-, hbits, hstate, hstop⟩ := netanaSignalDriverError_stage hu
        have hdata := hbits newdataBit (by decide) (by decide)
        have hstatus := hbits newstatusBit (by decide) (by decide)
        exact hi.of_same hlag hdata hstatus hstate hstop hr hrw' hv
          (fun _ => Or.inl (by rw [hpc]; rfl))
          ⟨(unequalRight_congr hstatus).mpr hpos.1, hpos.2.trans hdata.symm⟩
      · cases h
        exact hi.of_same hlag rfl rfl rfl rfl hr hrw' hv (fun _ => Or.inl (by rw [hpc]; rfl)) hpos
    case callStatus state error =>
      cases h
      exact hi.of_same hlag rfl rfl rfl rfl hr hrw' hv (fun _ => Or.inl (by rw [hpc]; rfl))
        ⟨hpos.1, hpos.2.mono hv hvw'⟩
    all_goals
      cases h
      exact hi.of_same hlag rfl rfl rfl rfl hr hrw' hv (fun _ => Or.inl (by rw [hpc]; rfl)) hpos

end DsrStep

end NetanaDriver
