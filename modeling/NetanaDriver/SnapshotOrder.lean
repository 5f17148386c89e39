import NetanaDriver.IsrDsrBuffers

/-! The history of consumed snapshots: in which order the DSR takes them over, which events it
sets for them and when it asks for processing. -/
namespace NetanaDriver
open ToggleHandshake

variable {β : Type*}

/-- The cached netX flags after the passes, when they were `f` before. -/
def cachedAfter (f : BitVec 32) : List Pass → BitVec 32
  | [] => f
  | p :: _ => p.flags

/-- The handshake bit events after the passes, when they were `events` before. -/
def eventsAfter (events : ℕ → Option Bool) (ps : List Pass) (b : ℕ) : Option Bool :=
  if ∃ p ∈ ps, b ∈ p.signalled then (events b).map fun _ => true else events b

/-- The events of the changed bits below `n`, in the order they are set. -/
def changedBelow (ulChangedBits : BitVec 32) (n : ℕ) : List ℕ :=
  (List.range n).filter fun b => ulChangedBits.getLsbD b

/-- The return value once the bits below `n` have been looked at. -/
def dsrRetBelow (ulChangedBits : BitVec 32) (n : ℕ) : DsrRet :=
  if newdataBit ∈ changedBelow ulChangedBits n ∨ newstatusBit ∈ changedBelow ulChangedBits n
    then .processingRequest else .handled

/-- The bits that the pass changes. -/
def Pass.changed (p : Pass) : BitVec 32 := p.before ^^^ p.flags

/-- The pass has set the events of its changed bits and returned accordingly. -/
def Pass.Done (p : Pass) : Prop :=
  p.signalled = changedBelow p.changed 16 ∧ p.lRet = some (dsrRetBelow p.changed 16)

/-- Each pass starts from the flags the previous one has stored. -/
def Chained (f : BitVec 32) : List Pass → Prop
  | [] => True
  | p :: ps => p.before = cachedAfter f ps ∧ Chained f ps

/-- The pass took over a snapshot, and a later one than all passes before it. -/
def Ordered (snapshots : List (BitVec 16)) : List Pass → Prop
  | [] => True
  | p :: ps => (∃ w, snapshots[p.snapshotNr]? = some w ∧ p.flags = w.setWidth 32) ∧
      nextNr ps ≤ p.snapshotNr ∧ Ordered snapshots ps

/-- Where the DSR stands in signalling the newest pass. -/
def DrvState.signalling (s : DrvState β) : Prop :=
  match s.dsr with
  | .signalBits ulBitPos ulChangedBits lRet => ulBitPos ≤ 16 ∧ ∃ p ps, s.passes = p :: ps ∧
      ulChangedBits = p.changed ∧ p.signalled = changedBelow p.changed ulBitPos ∧
      lRet = dsrRetBelow p.changed ulBitPos ∧ ∀ q ∈ ps, q.Done
  | _ => ∀ q ∈ s.passes, q.Done

structure PassInv (f : BitVec 32) (s : DrvState β) : Prop where
  cached : s.ulNetxFlags = cachedAfter f s.passes
  chained : Chained f s.passes
  ordered : Ordered s.snapshots s.passes
  signalling : s.signalling

theorem changedBelow_succ (w : BitVec 32) (n : ℕ) :
    changedBelow w (n + 1) = changedBelow w n ++ if w.getLsbD n then [n] else [] := by
  rw [changedBelow, List.range_succ, List.filter_append, ← changedBelow]
  cases h : w.getLsbD n <;> simp [h]

theorem dsrRetBelow_succ_of_changed {w : BitVec 32} {n : ℕ} (h : w.getLsbD n = true) :
    dsrRetBelow w (n + 1) = if n = newdataBit ∨ n = newstatusBit then .processingRequest
      else dsrRetBelow w n := by
  simp only [dsrRetBelow, changedBelow_succ, h, if_true, List.mem_append, List.mem_singleton]
  by_cases h0 : n = newdataBit
  · simp [h0]
  · by_cases h1 : n = newstatusBit
    · simp [h1]
    · have h0' : ¬ newdataBit = n := fun h => h0 h.symm
      have h1' : ¬ newstatusBit = n := fun h => h1 h.symm
      simp [h0, h1, h0', h1']

theorem dsrRetBelow_succ_of_same {w : BitVec 32} {n : ℕ} (h : w.getLsbD n = false) :
    dsrRetBelow w (n + 1) = dsrRetBelow w n := by
  simp [dsrRetBelow, changedBelow_succ, h]

theorem Ordered.append {snapshots : List (BitVec 16)} {ps : List Pass} (w : BitVec 16)
    (h : Ordered snapshots ps) : Ordered (snapshots ++ [w]) ps := by
  induction ps with
  | nil => trivial
  | cons p ps ih =>
    obtain ⟨⟨v, hv, hf⟩, hn, hps⟩ := h
    have hlt := (List.getElem?_eq_some_iff.mp hv).1
    exact ⟨⟨v, by rw [List.getElem?_append_left hlt, hv], hf⟩, hn, ih hps⟩

/-- The number of each consumed snapshot is larger than those before it. -/
theorem Ordered.lt_nextNr {snapshots : List (BitVec 16)} {ps : List Pass}
    (h : Ordered snapshots ps) : ∀ q ∈ ps, q.snapshotNr < nextNr ps := by
  induction ps with
  | nil => intro q hq; cases hq
  | cons p ps ih =>
    obtain ⟨-, hn, hps⟩ := h
    intro q hq
    rw [nextNr]
    rcases List.mem_cons.mp hq with rfl | hq
    · omega
    · have := ih hps q hq
      omega

theorem Ordered.pairwise {snapshots : List (BitVec 16)} {ps : List Pass}
    (h : Ordered snapshots ps) : ps.Pairwise fun p q => q.snapshotNr < p.snapshotNr := by
  induction ps with
  | nil => exact List.Pairwise.nil
  | cons p ps ih =>
    obtain ⟨-, hn, hps⟩ := h
    exact List.Pairwise.cons (fun q hq => lt_of_lt_of_le (hps.lt_nextNr q hq) hn) (ih hps)

/-- The flags consumed so far are a subsequence of the snapshots before the next one. -/
theorem Ordered.sublist {snapshots : List (BitVec 16)} {ps : List Pass}
    (h : Ordered snapshots ps) :
    (ps.reverse.map Pass.flags).Sublist
      ((snapshots.take (nextNr ps)).map fun w => w.setWidth 32) := by
  induction ps with
  | nil => simp [nextNr]
  | cons p ps ih =>
    obtain ⟨⟨w, hw, hf⟩, hn, hps⟩ := h
    obtain ⟨hlt, hget⟩ := List.getElem?_eq_some_iff.mp hw
    rw [List.reverse_cons, List.map_append, nextNr, List.take_add_one, hw, List.map_append]
    refine List.Sublist.append ?_ (by simp [hf])
    exact (ih hps).trans ((List.take_sublist_take_left hn).map _)

/-- Steps that leave the caches, the histories and the position in the signal loop alone. -/
theorem PassInv.of_same {f : BitVec 32} {s t : DrvState β} (hi : PassInv f s)
    (h : SameFlags s t) (hs : s.signalling → ∀ q ∈ s.passes, q.Done)
    (ht : (∀ q ∈ t.passes, q.Done) → t.signalling) : PassInv f t := by
  refine ⟨?_, ?_, ?_, ht ?_⟩
  · rw [h.cached, h.passes]
    exact hi.cached
  · rw [h.passes]
    exact hi.chained
  · rw [h.passes, h.snapshots]
    exact hi.ordered
  · rw [h.passes]
    exact hs hi.signalling

theorem signalling_of_tail {s : DrvState β} (h : s.dsr.isTail = true ∨ s.dsr = .waitSig) :
    s.signalling ↔ ∀ q ∈ s.passes, q.Done := by
  rw [DrvState.signalling]
  rcases h with h | h
  · cases hpc : s.dsr
    all_goals first | exact Iff.rfl | (rw [hpc] at h; cases h)
  · rw [h]

theorem PassInv.isr {f : BitVec 32} {s : DrvState β} (hi : PassInv f s) (w : BitVec 32) :
    PassInv f (netanaIsr w s) := by
  by_cases hw : maskTest w mskIntReq = true
  · have hs : netanaIsr w s = { s with
        atIrq2DsrBuffer := Function.update s.atIrq2DsrBuffer s.iIrq2DsrBuffer
          ⟨s.usNetxFlags, true, s.snapshots.length⟩
        ulIrqCounter := s.ulIrqCounter + 1
        snapshots := s.snapshots ++ [s.usNetxFlags]
        ulIRQEnable_0 := 0#32
        dsrSig := true } := by
      rw [netanaIsr, if_pos hw]
    rw [hs]
    exact ⟨hi.cached, hi.chained, hi.ordered.append s.usNetxFlags, hi.signalling⟩
  · have hs : netanaIsr w s = s := by
      rw [netanaIsr, if_neg hw]
    rw [hs]
    exact hi

/-- Signalling one bit of the newest pass. -/
theorem signalling_next {s : DrvState β} {ulBitPos : ℕ} {ulChangedBits : BitVec 32}
    {lRet : DsrRet} (h : s.signalling) (hpc : s.dsr = .signalBits ulBitPos ulChangedBits lRet)
    {c : DsrChoice} {t : DrvState β} (ht : dsrStep c s = some t) :
    t.signalling ∧ t.passes.map (fun p => (p.snapshotNr, p.before, p.flags)) =
      s.passes.map fun p => (p.snapshotNr, p.before, p.flags) := by
  rw [DrvState.signalling, hpc] at h
  obtain ⟨hle, p, ps, hps, rfl, hsig, rfl, hdone⟩ := h
  rw [dsrStep, hpc] at ht
  dsimp only at ht
  by_cases hlt : ulBitPos < 16
  · rw [if_pos hlt, maskTest_one_shiftLeft _ _ (by omega)] at ht
    cases hbit : p.changed.getLsbD ulBitPos with
    | true =>
      rw [hbit, if_pos rfl, hps] at ht
      cases ht
      refine ⟨⟨hlt, _, ps, rfl, rfl, ?_, ?_, hdone⟩, ?_⟩
      · change p.signalled ++ [ulBitPos] = changedBelow p.changed (ulBitPos + 1)
        rw [hsig, changedBelow_succ, hbit, if_pos rfl]
      · exact (dsrRetBelow_succ_of_changed hbit).symm
      · rw [hps]
        rfl
    | false =>
      rw [hbit, if_neg (by decide)] at ht
      cases ht
      refine ⟨⟨hlt, p, ps, hps, rfl, ?_, ?_, hdone⟩, rfl⟩
      · rw [hsig, changedBelow_succ, hbit]
        simp
      · exact (dsrRetBelow_succ_of_same hbit).symm
  · have h16 : ulBitPos = 16 := by omega
    subst h16
    rw [if_neg hlt, hps] at ht
    cases ht
    refine ⟨?_, ?_⟩
    · change ∀ q ∈ _ :: ps, q.Done
      intro q hq
      rcases List.mem_cons.mp hq with rfl | hq
      · exact ⟨hsig, rfl⟩
      · exact hdone q hq
    · rw [hps]
      rfl

/-- What the orders say depends on the numbers and the flags of the passes only. -/
theorem chained_ordered_congr (f : BitVec 32) (snapshots : List (BitVec 16)) {ps qs : List Pass}
    (h : qs.map (fun p => (p.snapshotNr, p.before, p.flags)) =
      ps.map fun p => (p.snapshotNr, p.before, p.flags)) :
    cachedAfter f qs = cachedAfter f ps ∧ nextNr qs = nextNr ps ∧
      (Chained f ps → Chained f qs) ∧ (Ordered snapshots ps → Ordered snapshots qs) := by
  induction ps generalizing qs with
  | nil =>
    rw [List.map_nil, List.map_eq_nil_iff] at h
    subst h
    exact ⟨rfl, rfl, id, id⟩
  | cons p ps ih =>
    cases qs with
    | nil => cases h
    | cons q qs =>
      rw [List.map_cons, List.map_cons] at h
      injection h with hpq hrest
      obtain ⟨hnr, hbefore, hflags⟩ : q.snapshotNr = p.snapshotNr ∧ q.before = p.before ∧
          q.flags = p.flags := by
        simpa using hpq
      obtain ⟨hc, hn, hch, hord⟩ := ih hrest
      refine ⟨hflags, by rw [nextNr, nextNr, hnr], ?_, ?_⟩
      · rintro ⟨h1, h2⟩
        exact ⟨by rw [hbefore, hc, h1], hch h2⟩
      · rintro ⟨h1, h2, h3⟩
        exact ⟨by rw [hnr, hflags]; exact h1, by rw [hnr, hn]; exact h2, hord h3⟩

theorem PassInv.dsr {f : BitVec 32} {s t : DrvState β} {c : DsrChoice}
    (hb : DoubleBufferInv s) (hi : PassInv f s) (h : dsrStep c s = some t) : PassInv f t := by
  by_cases htail : s.dsr.isTail = true
  · obtain ⟨hsame, ht⟩ := dsrStep_tail h htail
    exact hi.of_same hsame (signalling_of_tail (Or.inl htail)).mp (signalling_of_tail ht).mpr
  · have hstep := h
    have hsig := hi.signalling
    rw [DrvState.signalling] at hsig
    rw [dsrStep] at h
    cases hpc : s.dsr
    all_goals first | (rw [hpc] at htail; exact absurd rfl htail) | skip
    all_goals
      rw [hpc] at h hsig
      dsimp only at h hsig
    case waitSig =>
      split at h
      · cases h
        exact ⟨hi.cached, hi.chained, hi.ordered, hsig⟩
      · cases h
    case testStop =>
      cases h
      refine ⟨hi.cached, hi.chained, hi.ordered, ?_⟩
      rw [DrvState.signalling]
      cases s.shouldStop <;> exact hsig
    case testValid buf =>
      cases h
      refine ⟨hi.cached, hi.chained, hi.ordered, ?_⟩
      rw [DrvState.signalling]
      cases (s.atIrq2DsrBuffer buf).fValid <;> exact hsig
    case storeFlags buf ulChangedBits =>
      cases h
      obtain ⟨hbuf, hchg⟩ : buf = (!s.iIrq2DsrBuffer) ∧
          ulChangedBits = s.ulNetxFlags ^^^ s.dsrBuffer.usNetxFlags.setWidth 32 := by
        have hl := hb.locals
        rwa [DrvState.localsAgree, hpc] at hl
      obtain ⟨hh, hn, -, -⟩ := hb.taken (by rw [hpc]; rfl)
      subst hbuf
      refine ⟨rfl, ⟨hi.cached, hi.chained⟩, ⟨⟨_, hh, rfl⟩, hn, hi.ordered⟩, ?_⟩
      exact ⟨by omega, _, s.passes, rfl, hchg, rfl, rfl, hsig⟩
    case signalBits ulBitPos ulChangedBits lRet =>
      obtain ⟨hsig', hmap⟩ := signalling_next hi.signalling hpc hstep
      obtain ⟨hc, -, hch, hord⟩ := chained_ordered_congr f s.snapshots hmap
      have hsame : t.ulNetxFlags = s.ulNetxFlags ∧ t.snapshots = s.snapshots := by
        split at h
        · split at h <;> (cases h; exact ⟨rfl, rfl⟩)
        · cases h
          exact ⟨rfl, rfl⟩
      refine ⟨?_, hch hi.chained, ?_, hsig'⟩
      · rw [hsame.1, hc]
        exact hi.cached
      · rw [hsame.2]
        exact hord hi.ordered
    case exited => cases h
    all_goals
      cases h
      exact ⟨hi.cached, hi.chained, hi.ordered, hsig⟩

theorem netanaTkitToggleBit_events {b : ℕ} {s t : DrvState β}
    (h : netanaTkitToggleBit b s = some t) :
    t.ahHandshakeBitEvents = s.ahHandshakeBitEvents := by
  simp only [netanaTkitToggleBit, osEnterLock] at h
  split at h
  · cases h
  · cases h
    rfl

theorem toggleStep_events {b : ℕ} {st : ToggleStage} {s : DrvState β}
    {r : DrvState β × Option ToggleStage} (h : toggleStep b st s = some r) :
    r.1.ahHandshakeBitEvents = s.ahHandshakeBitEvents := by
  cases st <;> simp only [toggleStep, osEnterLock, xorHostFlags, storeHostFlags, osLeaveLock] at h
  case enterLock =>
    split at h
    · cases h
    · cases h
      rfl
  all_goals
    cases h
    rfl

theorem netanaSignalDriverError_events {c : DsrChoice} {s t : DrvState β}
    (h : netanaSignalDriverError c s = some t) :
    t.ahHandshakeBitEvents = s.ahHandshakeBitEvents := by
  rw [netanaSignalDriverError] at h
  split at h
  · exact netanaTkitToggleBit_events h
  · cases h
    rfl

theorem eventsAfter_congr {events : ℕ → Option Bool} {ps qs : List Pass}
    (h : qs.flatMap Pass.signalled = ps.flatMap Pass.signalled) :
    eventsAfter events qs = eventsAfter events ps := by
  funext b
  have hmem : (∃ p ∈ qs, b ∈ p.signalled) ↔ ∃ p ∈ ps, b ∈ p.signalled := by
    rw [← List.mem_flatMap, ← List.mem_flatMap, h]
  simp only [eventsAfter, hmem]

/-- Setting the event of one more bit of the newest pass. -/
theorem eventsAfter_noteSignalled (events : ℕ → Option Bool) (p : Pass) (ps : List Pass)
    (b : ℕ) : eventsAfter events (noteSignalled b (p :: ps)) =
      Function.update (eventsAfter events (p :: ps)) b
        ((eventsAfter events (p :: ps) b).map fun _ => true) := by
  funext i
  by_cases hi : i = b
  · subst hi
    rw [Function.update_self]
    have hset : ∃ q ∈ noteSignalled i (p :: ps), i ∈ q.signalled :=
      ⟨_, List.mem_cons_self, List.mem_append_right _ (List.mem_singleton.mpr rfl)⟩
    rw [eventsAfter, if_pos hset, eventsAfter]
    split
    · rw [Option.map_map]
      rfl
    · rfl
  · rw [Function.update_of_ne hi]
    have hmem : (∃ q ∈ noteSignalled b (p :: ps), i ∈ q.signalled) ↔
        ∃ q ∈ p :: ps, i ∈ q.signalled := by
      simp [noteSignalled, hi]
    simp only [eventsAfter, hmem]

/-- A statement of the DSR sets the event of a bit and notes it in the newest pass, or it leaves
the events and what has been noted alone. -/
theorem dsrStep_events {c : DsrChoice} {s t : DrvState β} (h : dsrStep c s = some t) :
    (∃ b w r, s.dsr = .signalBits b w r ∧ t.passes = noteSignalled b s.passes ∧
      t.ahHandshakeBitEvents = Function.update s.ahHandshakeBitEvents b
        ((s.ahHandshakeBitEvents b).map fun _ => true)) ∨
    (t.passes.flatMap Pass.signalled = s.passes.flatMap Pass.signalled ∧
      t.ahHandshakeBitEvents = s.ahHandshakeBitEvents) := by
  rw [dsrStep] at h
  cases hpc : s.dsr
  all_goals
    rw [hpc] at h
    dsimp only at h
  case signalBits b w r =>
    split at h
    · split at h
      · cases h
        exact Or.inl ⟨b, w, r, rfl, rfl, rfl⟩
      · cases h
        exact Or.inr ⟨rfl, rfl⟩
    · cases h
      right
      dsimp only
      cases s.passes <;> exact ⟨rfl, rfl⟩
  case toggleData stage l =>
    obtain ⟨r, hr, rfl⟩ := Option.map_eq_some_iff.mp h
    exact Or.inr ⟨by rw [(toggleStep_sameFlags hr).passes], toggleStep_events hr⟩
  case toggleStatus stage v =>
    obtain ⟨r, hr, rfl⟩ := Option.map_eq_some_iff.mp h
    exact Or.inr ⟨by rw [(toggleStep_sameFlags hr).passes], toggleStep_events hr⟩
  case rejectBuffer l =>
    obtain ⟨r, hr, rfl⟩ := Option.map_eq_some_iff.mp h
    have hevents := netanaSignalDriverError_events hr
    exact Or.inr ⟨by rw [(netanaSignalDriverError_sameFlags hr).passes], hevents⟩
  case writeFile l =>
    split at h
    · obtain ⟨r, hr, rfl⟩ := Option.map_eq_some_iff.mp h
      have hevents := netanaSignalDriverError_events hr
      exact Or.inr ⟨by rw [(netanaSignalDriverError_sameFlags hr).passes], hevents⟩
    · cases h
      exact Or.inr ⟨rfl, rfl⟩
  case waitSig | testOff v =>
    split at h
    all_goals first | cases h; done | (cases h; exact Or.inr ⟨rfl, rfl⟩)
  case exited => cases h
  all_goals
    cases h
    exact Or.inr ⟨rfl, rfl⟩

/-- Positions between the test of the buffer and the return of `netana_tkit_dsr_handler`. -/
def DsrPc.inPass : DsrPc → Bool
  | .testValid _ | .flipIndex _ | .invalidate _ | .diffFlags _ | .storeFlags _ _
  | .signalBits _ _ _ => true
  | _ => false

/-- No buffer is valid, `dsr_sig` is 0, no pass is under way and the histories are empty. -/
structure AtRest (s : DrvState β) : Prop where
  invalid : ∀ buf, (s.atIrq2DsrBuffer buf).fValid = false
  sig : s.dsrSig = false
  idle : s.dsr.inPass = false
  snapshots : s.snapshots = []
  passes : s.passes = []

/-- What happens around the double buffer: interrupts and the statements of the DSR, the
firmware writing the dual-port memory, another thread toggling a host bit, and the statements
of `stop_dsr_thread`. -/
inductive InterruptAction (β : Type*) where
  | isr (ulIRQState_0 : BitVec 32)
  | dsr (c : DsrChoice)
  | firmware (usNetxFlags : BitVec 16) (netxBufferFlags ulCaptureState ulCaptureError : BitVec 32)
      (aulUsedBufferSize : ℕ → BitVec 32) (pvBufferAddress : ℕ → β)
  | toggle (ulBit : ℕ)
  | signalStop
  | stopThread

def interruptStep (s : DrvState β) : InterruptAction β → Option (DrvState β)
  | .isr ulIRQState_0 => some (netanaIsr ulIRQState_0 s)
  | .dsr c => dsrStep c s
  | .firmware netx bufs state error sizes content => some { s with
      usNetxFlags := netx
      netxBufferFlags := bufs
      ulCaptureState := state
      ulCaptureError := error
      aulUsedBufferSize := sizes
      pvBufferAddress := content }
  | .toggle ulBit => netanaTkitToggleBit ulBit s
  | .signalStop => some { s with dsrSig := true }
  | .stopThread => some { s with shouldStop := true }

theorem AtRest.doubleBuffer {s : DrvState β} (h : AtRest s) : DoubleBufferInv s := by
  have hisr : ¬ s.isrBuffer.fValid = true := by simp [DrvState.isrBuffer, h.invalid]
  have hdsr : ¬ s.dsrBuffer.fValid = true := by simp [DrvState.dsrBuffer, h.invalid]
  have hidle := h.idle
  refine ⟨?_, fun hv => absurd hv hdsr, fun hv => absurd hv hisr, fun hv => absurd hv hisr,
    fun hin => ?_, fun _ => ⟨fun _ => ?_, fun hv => absurd hv hisr⟩⟩
  · rw [DrvState.localsAgree]
    cases hpc : s.dsr
    all_goals first | trivial | (rw [hpc] at hidle; cases hidle)
  · cases hpc : s.dsr
    all_goals
      rw [hpc] at hidle hin
      first | cases hidle; done | cases hin
  · rw [h.passes, h.snapshots]
    rfl

theorem AtRest.passInv {s : DrvState β} (h : AtRest s) : PassInv s.ulNetxFlags s := by
  have hidle := h.idle
  refine ⟨?_, ?_, ?_, ?_⟩
  · rw [h.passes]
    rfl
  · rw [h.passes]
    trivial
  · rw [h.passes]
    trivial
  · rw [DrvState.signalling, h.passes]
    cases hpc : s.dsr
    all_goals first | exact fun q hq => by cases hq | (rw [hpc] at hidle; cases hidle)

theorem interruptStep_inv {f : BitVec 32} (s : DrvState β) (a : InterruptAction β)
    (t : DrvState β) (hi : DoubleBufferInv s ∧ PassInv f s) (h : interruptStep s a = some t) :
    DoubleBufferInv t ∧ PassInv f t := by
  obtain ⟨hb, hp⟩ := hi
  cases a with
  | isr w =>
    cases h
    exact ⟨hb.isr w, hp.isr w⟩
  | dsr c => exact ⟨hb.dsr h, hp.dsr hb h⟩
  | firmware netx bufs state error sizes content =>
    cases h
    exact ⟨hb.congr rfl rfl rfl rfl rfl rfl id,
      ⟨hp.cached, hp.chained, hp.ordered, hp.signalling⟩⟩
  | toggle b =>
    refine ⟨hb.toggle h, ?_⟩
    rw [interruptStep, netanaTkitToggleBit] at h
    obtain ⟨u, hu, rfl⟩ := Option.map_eq_some_iff.mp h
    rw [osEnterLock] at hu
    split at hu
    · cases hu
    · cases hu
      exact ⟨hp.cached, hp.chained, hp.ordered, hp.signalling⟩
  | signalStop =>
    cases h
    exact ⟨hb.congr rfl rfl rfl rfl rfl rfl fun _ => rfl,
      ⟨hp.cached, hp.chained, hp.ordered, hp.signalling⟩⟩
  | stopThread =>
    cases h
    exact ⟨hb.congr rfl rfl rfl rfl rfl rfl id,
      ⟨hp.cached, hp.chained, hp.ordered, hp.signalling⟩⟩

/-- The events are those of the signalled bits. -/
def EventsInv (events : ℕ → Option Bool) (s : DrvState β) : Prop :=
  s.ahHandshakeBitEvents = eventsAfter events s.passes

theorem EventsInv.of_same {events : ℕ → Option Bool} {s t : DrvState β} (hi : EventsInv events s)
    (hpasses : t.passes.flatMap Pass.signalled = s.passes.flatMap Pass.signalled)
    (hevents : t.ahHandshakeBitEvents = s.ahHandshakeBitEvents) : EventsInv events t := by
  rw [EventsInv, hevents, eventsAfter_congr hpasses]
  exact hi

theorem EventsInv.dsr {events : ℕ → Option Bool} {f : BitVec 32} {s t : DrvState β}
    {c : DsrChoice} (hi : EventsInv events s) (hp : PassInv f s) (h : dsrStep c s = some t) :
    EventsInv events t := by
  rcases dsrStep_events h with ⟨b, w, r, hpc, hpasses, hevents⟩ | ⟨hpasses, hevents⟩
  · -- a DSR that signals bits has a newest pass
    have hsig := hp.signalling
    rw [DrvState.signalling, hpc] at hsig
    obtain ⟨-, p, ps, hps, -⟩ := hsig
    rw [EventsInv, hevents, hpasses, hps, eventsAfter_noteSignalled, ← hps, ← hi]
  · exact hi.of_same hpasses hevents

/-- While the DSR sleeps without a request, everything the ISR saw has been taken over. -/
theorem asleep_up_to_date {f : BitVec 32} {s : DrvState β} (hb : DoubleBufferInv s)
    (hp : PassInv f s) (hpc : s.dsr = .waitSig) (hsig : s.dsrSig = false) :
    (∀ buf, (s.atIrq2DsrBuffer buf).fValid = false) ∧
      s.ulNetxFlags = (s.snapshots.getLast?).elim f fun w => w.setWidth 32 := by
  have hdsr : s.dsrBuffer.fValid = false := by
    simpa using hb.dsr_invalid (by simp [hpc])
  have hisr : s.isrBuffer.fValid = false := by
    cases hv : s.isrBuffer.fValid with
    | false => rfl
    | true =>
      have hset := hb.sig_of_valid (by rw [hpc]; rfl) hv
      rw [hsig] at hset
      cases hset
  refine ⟨fun buf => ?_, ?_⟩
  · by_cases hbuf : buf = s.iIrq2DsrBuffer
    · rw [hbuf]
      exact hisr
    · have hflip : buf = !s.iIrq2DsrBuffer := Bool.eq_not.mpr hbuf
      rw [hflip]
      exact hdsr
  · have hn := (hb.idle (by rw [hpc]; rfl)).1 hisr
    rw [hp.cached]
    cases hps : s.passes with
    | nil =>
      rw [hps, nextNr] at hn
      rw [List.eq_nil_of_length_eq_zero hn.symm]
      rfl
    | cons p ps =>
      have hord := hp.ordered
      rw [hps] at hord hn
      obtain ⟨⟨w, hw, hf⟩, -, -⟩ := hord
      rw [nextNr] at hn
      rw [List.getLast?_eq_getElem?, ← hn, Nat.add_sub_cancel, hw]
      exact hf

theorem restingDevice_atRest (usFlags : BitVec 16) (n : ℕ) (size : BitVec 32)
    (content : ℕ → β) : AtRest (restingDevice usFlags n size content) :=
  ⟨fun _ => rfl, rfl, rfl, rfl, rfl⟩

end NetanaDriver
