import NetanaDriver.DsrThread

/-! The double buffer between the ISR and the DSR thread: which buffer holds which snapshot at
every statement of the DSR, for any netX flags and any interrupts. -/
namespace NetanaDriver
open ToggleHandshake

variable {β : Type*}

/-- Positions after `netana_tkit_dsr_handler` has returned and before the next wait. -/
def DsrPc.isTail : DsrPc → Bool
  | .dispatch _ | .processStart | .testNewData _ | .toggleData _ _ | .readBufferFlags _
  | .testUsed _ | .readSize _ | .testSize _ | .rejectBuffer _ | .writeFile _ | .callData _
  | .freeBuffer _ | .clearUsed _ | .advance _ | .testNewStatus _ | .readState | .callStatus _ _
  | .toggleStatus _ _ | .testOff _ | .enableIrq => true
  | _ => false

/-- What the ISR and the DSR share is the same in both states. -/
structure SameFlags (s t : DrvState β) : Prop where
  netx : t.usNetxFlags = s.usNetxFlags
  index : t.iIrq2DsrBuffer = s.iIrq2DsrBuffer
  buffers : t.atIrq2DsrBuffer = s.atIrq2DsrBuffer
  cached : t.ulNetxFlags = s.ulNetxFlags
  sig : t.dsrSig = s.dsrSig
  snapshots : t.snapshots = s.snapshots
  passes : t.passes = s.passes

theorem toggleStep_sameFlags {b : ℕ} {st : ToggleStage} {s : DrvState β}
    {r : DrvState β × Option ToggleStage} (h : toggleStep b st s = some r) :
    SameFlags s r.1 := by
  cases st <;> simp only [toggleStep, osEnterLock, xorHostFlags, storeHostFlags, osLeaveLock] at h
  case enterLock =>
    split at h
    · cases h
    · cases h
      exact ⟨rfl, rfl, rfl, rfl, rfl, rfl, rfl⟩
  all_goals
    cases h
    exact ⟨rfl, rfl, rfl, rfl, rfl, rfl, rfl⟩

theorem netanaTkitToggleBit_sameFlags {b : ℕ} {s t : DrvState β}
    (h : netanaTkitToggleBit b s = some t) : SameFlags s t := by
  simp only [netanaTkitToggleBit, osEnterLock] at h
  split at h
  · cases h
  · cases h
    exact ⟨rfl, rfl, rfl, rfl, rfl, rfl, rfl⟩

theorem netanaTkitToggleBit_dsr {b : ℕ} {s t : DrvState β}
    (h : netanaTkitToggleBit b s = some t) : t.dsr = s.dsr := by
  simp only [netanaTkitToggleBit, osEnterLock] at h
  split at h
  · cases h
  · cases h
    rfl

theorem netanaSignalDriverError_sameFlags {c : DsrChoice} {s t : DrvState β}
    (h : netanaSignalDriverError c s = some t) : SameFlags s t := by
  rw [netanaSignalDriverError] at h
  split at h
  · exact netanaTkitToggleBit_sameFlags h
  · cases h
    exact ⟨rfl, rfl, rfl, rfl, rfl, rfl, rfl⟩

theorem dsrStep_tail {c : DsrChoice} {s t : DrvState β} (h : dsrStep c s = some t)
    (ht : s.dsr.isTail = true) : SameFlags s t ∧ (t.dsr.isTail = true ∨ t.dsr = .waitSig) := by
  rw [dsrStep] at h
  cases hpc : s.dsr
  all_goals rw [hpc] at ht
  all_goals first | cases ht; done | skip
  all_goals
    rw [hpc] at h
    dsimp only at h
  case toggleData stage l =>
    obtain ⟨r, hr, rfl⟩ := Option.map_eq_some_iff.mp h
    obtain ⟨h1, h2, h3, h4, h5, h6, h7⟩ := toggleStep_sameFlags hr
    exact ⟨⟨h1, h2, h3, h4, h5, h6, h7⟩, Or.inl (by dsimp only; split <;> rfl)⟩
  case toggleStatus stage v =>
    obtain ⟨r, hr, rfl⟩ := Option.map_eq_some_iff.mp h
    obtain ⟨h1, h2, h3, h4, h5, h6, h7⟩ := toggleStep_sameFlags hr
    exact ⟨⟨h1, h2, h3, h4, h5, h6, h7⟩, Or.inl (by dsimp only; split <;> rfl)⟩
  case rejectBuffer l =>
    obtain ⟨r, hr, rfl⟩ := Option.map_eq_some_iff.mp h
    obtain ⟨h1, h2, h3, h4, h5, h6, h7⟩ := netanaSignalDriverError_sameFlags hr
    exact ⟨⟨h1, h2, h3, h4, h5, h6, h7⟩, Or.inl rfl⟩
  case writeFile l =>
    split at h
    · obtain ⟨r, hr, rfl⟩ := Option.map_eq_some_iff.mp h
      obtain ⟨h1, h2, h3, h4, h5, h6, h7⟩ := netanaSignalDriverError_sameFlags hr
      exact ⟨⟨h1, h2, h3, h4, h5, h6, h7⟩, Or.inl rfl⟩
    · cases h
      exact ⟨⟨rfl, rfl, rfl, rfl, rfl, rfl, rfl⟩, Or.inl rfl⟩
  case testOff v =>
    split at h
    all_goals
      cases h
      exact ⟨⟨rfl, rfl, rfl, rfl, rfl, rfl, rfl⟩, Or.inl rfl⟩
  case enableIrq =>
    cases h
    exact ⟨⟨rfl, rfl, rfl, rfl, rfl, rfl, rfl⟩, Or.inr rfl⟩
  all_goals
    cases h
    refine ⟨⟨rfl, rfl, rfl, rfl, rfl, rfl, rfl⟩, Or.inl ?_⟩
    dsimp only
    first | rfl | (split <;> rfl)

/-- The DSR has taken a snapshot over but not yet stored it into the cached flags. -/
def DsrPc.inHand : DsrPc → Bool
  | .invalidate _ | .diffFlags _ | .storeFlags _ _ => true
  | _ => false

/-- Positions from which the DSR still tests the buffer, whatever `dsr_sig` says. -/
def DsrPc.willTest : DsrPc → Bool
  | .testStop | .readIndex | .testValid _ | .flipIndex _ | .exited => true
  | _ => false

/-- The buffer the ISR fills next. -/
def DrvState.isrBuffer (s : DrvState β) : Irq2DsrBuffer := s.atIrq2DsrBuffer s.iIrq2DsrBuffer

/-- The other buffer, which belongs to the DSR. -/
def DrvState.dsrBuffer (s : DrvState β) : Irq2DsrBuffer := s.atIrq2DsrBuffer (!s.iIrq2DsrBuffer)

/-- Number of the first snapshot the DSR has not consumed yet. -/
def nextNr : List Pass → ℕ
  | [] => 0
  | p :: _ => p.snapshotNr + 1

/-- What the locals of the DSR mean. -/
def DrvState.localsAgree (s : DrvState β) : Prop :=
  match s.dsr with
  | .testValid buf => buf = s.iIrq2DsrBuffer
  | .flipIndex buf => buf = s.iIrq2DsrBuffer ∧ s.isrBuffer.fValid = true
  | .invalidate buf | .diffFlags buf => buf = !s.iIrq2DsrBuffer
  | .storeFlags buf ulChangedBits => buf = (!s.iIrq2DsrBuffer) ∧
      ulChangedBits = s.ulNetxFlags ^^^ s.dsrBuffer.usNetxFlags.setWidth 32
  | _ => True

/-- The buffer holds the snapshot with its number. -/
def DrvState.holds (s : DrvState β) (b : Irq2DsrBuffer) : Prop :=
  s.snapshots[b.snapshotNr]? = some b.usNetxFlags

structure DoubleBufferInv (s : DrvState β) : Prop where
  locals : s.localsAgree
  other : s.dsrBuffer.fValid = true → ∃ buf, s.dsr = .invalidate buf
  pending : s.isrBuffer.fValid = true → s.dsrSig = true ∨ s.dsr.willTest = true
  fresh : s.isrBuffer.fValid = true →
    s.holds s.isrBuffer ∧ s.isrBuffer.snapshotNr + 1 = s.snapshots.length
  taken : s.dsr.inHand = true → s.holds s.dsrBuffer ∧ nextNr s.passes ≤ s.dsrBuffer.snapshotNr ∧
    (s.isrBuffer.fValid = false → s.dsrBuffer.snapshotNr + 1 = s.snapshots.length) ∧
    (s.isrBuffer.fValid = true → s.dsrBuffer.snapshotNr < s.isrBuffer.snapshotNr)
  idle : s.dsr.inHand = false →
    (s.isrBuffer.fValid = false → nextNr s.passes = s.snapshots.length) ∧
    (s.isrBuffer.fValid = true → nextNr s.passes ≤ s.isrBuffer.snapshotNr)

theorem isrBuffer_isr (s : DrvState β) (w : BitVec 32) (hw : maskTest w mskIntReq = true) :
    (netanaIsr w s).isrBuffer = ⟨s.usNetxFlags, true, s.snapshots.length⟩ := by
  simp [netanaIsr, hw, DrvState.isrBuffer]

theorem dsrBuffer_isr (s : DrvState β) (w : BitVec 32) :
    (netanaIsr w s).dsrBuffer = s.dsrBuffer := by
  rw [netanaIsr]
  split
  · simp [DrvState.dsrBuffer]
  · rfl

theorem DrvState.holds_append {s : DrvState β} {b : Irq2DsrBuffer} {w : BitVec 16}
    (h : s.snapshots[b.snapshotNr]? = some b.usNetxFlags) :
    (s.snapshots ++ [w])[b.snapshotNr]? = some b.usNetxFlags := by
  have hlt := (List.getElem?_eq_some_iff.mp h).1
  rw [List.getElem?_append_left hlt, h]

/-- An interrupt at any statement of the DSR keeps the buffers in order. -/
theorem DoubleBufferInv.isr {s : DrvState β} (hi : DoubleBufferInv s) (w : BitVec 32) :
    DoubleBufferInv (netanaIsr w s) := by
  by_cases hw : maskTest w mskIntReq = true
  · have hb := isrBuffer_isr s w hw
    have hd := dsrBuffer_isr s w
    have hdsr : (netanaIsr w s).dsr = s.dsr := by simp [netanaIsr, hw]
    have hsn : (netanaIsr w s).snapshots = s.snapshots ++ [s.usNetxFlags] := by
      simp [netanaIsr, hw]
    have hps : (netanaIsr w s).passes = s.passes := by simp [netanaIsr, hw]
    have hidx : (netanaIsr w s).iIrq2DsrBuffer = s.iIrq2DsrBuffer := by simp [netanaIsr, hw]
    have hcache : (netanaIsr w s).ulNetxFlags = s.ulNetxFlags := by simp [netanaIsr, hw]
    refine ⟨?_, ?_, ?_, ?_, ?_, ?_⟩
    · have hl := hi.locals
      rw [DrvState.localsAgree] at hl ⊢
      rw [hdsr, hb, hd, hidx, hcache]
      cases hpc : s.dsr <;> simp_all
    · rw [hd, hdsr]
      exact hi.other
    · intro _
      left
      simp [netanaIsr, hw]
    · intro _
      rw [DrvState.holds, hb, hsn]
      simp
    · rw [hdsr, hd, hb, hps, DrvState.holds, hsn]
      intro hin
      obtain ⟨hh, hn, h0, h1⟩ := hi.taken hin
      have hlt := (List.getElem?_eq_some_iff.mp hh).1
      exact ⟨DrvState.holds_append hh, hn, by simp, fun _ => hlt⟩
    · rw [hdsr, hb, hps]
      intro hin
      obtain ⟨h0, h1⟩ := hi.idle hin
      refine ⟨by simp, fun _ => ?_⟩
      cases hv : s.isrBuffer.fValid with
      | false => exact (h0 hv).le
      | true =>
        have hf := (hi.fresh hv).2
        have hle := h1 hv
        dsimp only
        omega
  · have hs : netanaIsr w s = s := by simp [netanaIsr, hw]
    rw [hs]
    exact hi

/-- The invariant reads the position of the DSR, the two buffers and their index, the flags that
the DSR has stored, its event, and the record of snapshots and passes. -/
theorem DoubleBufferInv.congr {s t : DrvState β} (hi : DoubleBufferInv s) (hdsr : t.dsr = s.dsr)
    (hindex : t.iIrq2DsrBuffer = s.iIrq2DsrBuffer)
    (hbuffers : t.atIrq2DsrBuffer = s.atIrq2DsrBuffer) (hcached : t.ulNetxFlags = s.ulNetxFlags)
    (hsnapshots : t.snapshots = s.snapshots) (hpasses : t.passes = s.passes)
    (hsig : s.dsrSig = true → t.dsrSig = true) : DoubleBufferInv t := by
  have hisr : t.isrBuffer = s.isrBuffer := by
    rw [DrvState.isrBuffer, DrvState.isrBuffer, hbuffers, hindex]
  have hown : t.dsrBuffer = s.dsrBuffer := by
    rw [DrvState.dsrBuffer, DrvState.dsrBuffer, hbuffers, hindex]
  have hholds (x : Irq2DsrBuffer) : t.holds x ↔ s.holds x := by
    rw [DrvState.holds, DrvState.holds, hsnapshots]
  refine ⟨?_, ?_, ?_, ?_, ?_, ?_⟩
  · have hlocals := hi.locals
    rw [DrvState.localsAgree] at hlocals ⊢
    rw [hdsr, hindex, hisr, hown, hcached]
    exact hlocals
  · rw [hown, hdsr]
    exact hi.other
  · rw [hisr, hdsr]
    exact fun hv => (hi.pending hv).imp_left hsig
  · rw [hisr, hholds, hsnapshots]
    exact hi.fresh
  · rw [hdsr, hisr, hown, hholds, hpasses, hsnapshots]
    exact hi.taken
  · rw [hdsr, hisr, hpasses, hsnapshots]
    exact hi.idle

theorem DoubleBufferInv.of_flags {s t : DrvState β} (hi : DoubleBufferInv s)
    (h : SameFlags s t) (hdsr : t.dsr = s.dsr) : DoubleBufferInv t :=
  hi.congr hdsr h.index h.buffers h.cached h.snapshots h.passes (by rw [h.sig]; exact id)

/-- A step that leaves the shared fields alone and holds no buffer keeps the invariant. -/
theorem DoubleBufferInv.of_same {s t : DrvState β} (hi : DoubleBufferInv s) (h : SameFlags s t)
    (hs : s.dsr.inHand = false) (ht : t.dsr.inHand = false) (hl : t.localsAgree)
    (hw : s.dsr.willTest = true → t.dsr.willTest = true) : DoubleBufferInv t := by
  have hb : t.isrBuffer = s.isrBuffer := by
    rw [DrvState.isrBuffer, DrvState.isrBuffer, h.buffers, h.index]
  have hd : t.dsrBuffer = s.dsrBuffer := by
    rw [DrvState.dsrBuffer, DrvState.dsrBuffer, h.buffers, h.index]
  refine ⟨hl, ?_, ?_, ?_, ?_, ?_⟩
  · rw [hd]
    intro hv
    obtain ⟨buf, hbuf⟩ := hi.other hv
    rw [hbuf] at hs
    cases hs
  · rw [hb, h.sig]
    exact fun hv => (hi.pending hv).imp_right hw
  · rw [DrvState.holds, hb, h.snapshots]
    exact hi.fresh
  · intro hin
    rw [hin] at ht
    cases ht
  · rw [hb, h.passes, h.snapshots]
    exact fun _ => hi.idle hs

theorem localsAgree_of_tail {s : DrvState β} (h : s.dsr.isTail = true ∨ s.dsr = .waitSig) :
    s.localsAgree ∧ s.dsr.inHand = false ∧ s.dsr.willTest = false := by
  rw [DrvState.localsAgree]
  rcases h with h | h
  · cases hpc : s.dsr <;> rw [hpc] at h <;>
      first | exact ⟨trivial, rfl, rfl⟩ | cases h
  · rw [h]
    exact ⟨trivial, rfl, rfl⟩

/-- Outside the statement that clears it, the buffer of the DSR is not valid. -/
theorem DoubleBufferInv.dsr_invalid {s : DrvState β} (hi : DoubleBufferInv s)
    (h : ∀ buf, s.dsr ≠ .invalidate buf) : ¬ s.dsrBuffer.fValid = true := by
  intro hv
  obtain ⟨buf, hbuf⟩ := hi.other hv
  exact h buf hbuf

theorem DoubleBufferInv.sig_of_valid {s : DrvState β} (hi : DoubleBufferInv s)
    (hw : s.dsr.willTest = false) (hv : s.isrBuffer.fValid = true) : s.dsrSig = true := by
  refine (hi.pending hv).resolve_right fun h => ?_
  rw [hw] at h
  cases h

section DsrStep
variable {s t : DrvState β} {c : DsrChoice} {buf : Bool}

theorem DoubleBufferInv.testValid (hi : DoubleBufferInv s) (hpc : s.dsr = .testValid buf)
    (h : dsrStep c s = some t) : DoubleBufferInv t := by
  have hbuf : buf = s.iIrq2DsrBuffer := by
    have hl := hi.locals
    rwa [DrvState.localsAgree, hpc] at hl
  rw [dsrStep, hpc] at h
  dsimp only at h
  subst hbuf
  cases hv : (s.atIrq2DsrBuffer s.iIrq2DsrBuffer).fValid with
  | true =>
    rw [hv] at h
    cases h
    exact hi.of_same ⟨rfl, rfl, rfl, rfl, rfl, rfl, rfl⟩ (by rw [hpc]; rfl) rfl ⟨rfl, hv⟩
      (fun _ => rfl)
  | false =>
    rw [hv] at h
    cases h
    have hin : s.dsr.inHand = false := by rw [hpc]; rfl
    have hother := hi.dsr_invalid (by simp [hpc])
    have hisr : ¬ s.isrBuffer.fValid = true := by simp [DrvState.isrBuffer, hv]
    exact ⟨trivial, fun hv => absurd hv hother, fun hv => absurd hv hisr, hi.fresh,
      fun hc => (by cases hc), fun _ => hi.idle hin⟩

/-- The flip gives the filled buffer to the DSR and the other one to the ISR, unfilled. -/
theorem DoubleBufferInv.flipIndex (hi : DoubleBufferInv s) (hpc : s.dsr = .flipIndex buf)
    (h : dsrStep c s = some t) : DoubleBufferInv t := by
  rw [dsrStep, hpc] at h
  dsimp only at h
  cases h
  have hin : s.dsr.inHand = false := by rw [hpc]; rfl
  obtain ⟨hbuf, hv⟩ : buf = s.iIrq2DsrBuffer ∧ s.isrBuffer.fValid = true := by
    have hl := hi.locals
    rwa [DrvState.localsAgree, hpc] at hl
  have hother := hi.dsr_invalid (by simp [hpc])
  obtain ⟨hh, hlen⟩ := hi.fresh hv
  have hnext := (hi.idle hin).2 hv
  refine ⟨?_, fun _ => ⟨buf, rfl⟩, fun hv => absurd hv hother, fun hv => absurd hv hother,
    fun _ => ?_, fun hc => (by cases hc)⟩
  · simp [DrvState.localsAgree, hbuf]
  · simp only [DrvState.holds, DrvState.dsrBuffer, DrvState.isrBuffer, Bool.not_not]
    exact ⟨hh, hnext, fun _ => hlen, fun hv => absurd hv hother⟩

/-- Only the DSR's own buffer is written. -/
theorem DoubleBufferInv.invalidate (hi : DoubleBufferInv s) (hpc : s.dsr = .invalidate buf)
    (h : dsrStep c s = some t) : DoubleBufferInv t := by
  rw [dsrStep, hpc] at h
  dsimp only at h
  cases h
  have hbuf : buf = !s.iIrq2DsrBuffer := by
    have hl := hi.locals
    rwa [DrvState.localsAgree, hpc] at hl
  have htaken := hi.taken (by rw [hpc]; rfl)
  subst hbuf
  have hisr (d : DsrPc) (b : Irq2DsrBuffer) : DrvState.isrBuffer
      { s with
        atIrq2DsrBuffer := Function.update s.atIrq2DsrBuffer (!s.iIrq2DsrBuffer) b
        dsr := d } = s.isrBuffer := by
    simp [DrvState.isrBuffer]
  have hdsr (d : DsrPc) (b : Irq2DsrBuffer) : DrvState.dsrBuffer
      { s with
        atIrq2DsrBuffer := Function.update s.atIrq2DsrBuffer (!s.iIrq2DsrBuffer) b
        dsr := d } = b := by
    simp [DrvState.dsrBuffer]
  refine ⟨rfl, fun hv => ?_, fun hv => ?_, fun hv => ?_, fun _ => ?_, fun hc => ?_⟩
  · rw [hdsr] at hv
    cases hv
  · rw [hisr] at hv
    exact Or.inl (hi.sig_of_valid (by rw [hpc]; rfl) hv)
  · rw [hisr] at hv ⊢
    exact hi.fresh hv
  · rw [hisr, hdsr]
    exact htaken
  · cases hc

theorem DoubleBufferInv.storeFlags {ulChangedBits : BitVec 32} (hi : DoubleBufferInv s)
    (hpc : s.dsr = .storeFlags buf ulChangedBits) (h : dsrStep c s = some t) :
    DoubleBufferInv t := by
  rw [dsrStep, hpc] at h
  dsimp only at h
  cases h
  obtain ⟨hbuf, -⟩ : buf = (!s.iIrq2DsrBuffer) ∧
      ulChangedBits = s.ulNetxFlags ^^^ s.dsrBuffer.usNetxFlags.setWidth 32 := by
    have hl := hi.locals
    rwa [DrvState.localsAgree, hpc] at hl
  obtain ⟨-, -, h0, h1⟩ := hi.taken (by rw [hpc]; rfl)
  have hother := hi.dsr_invalid (by simp [hpc])
  subst hbuf
  exact ⟨trivial, fun hv => absurd hv hother,
    fun hv => Or.inl (hi.sig_of_valid (by rw [hpc]; rfl) hv), hi.fresh,
    fun hc => (by cases hc), fun _ => ⟨h0, h1⟩⟩

/-- What is noted about a pass does not change which snapshot it took. -/
theorem DoubleBufferInv.signalBits {ulBitPos : ℕ} {ulChangedBits : BitVec 32} {lRet : DsrRet}
    (hi : DoubleBufferInv s) (hpc : s.dsr = .signalBits ulBitPos ulChangedBits lRet)
    (h : dsrStep c s = some t) : DoubleBufferInv t := by
  rw [dsrStep, hpc] at h
  dsimp only at h
  have hin : s.dsr.inHand = false := by rw [hpc]; rfl
  have hnr (b : ℕ) (ps : List Pass) : nextNr (noteSignalled b ps) = nextNr ps := by
    cases ps <;> rfl
  have hnr' (r : DsrRet) (ps : List Pass) : nextNr (noteReturn r ps) = nextNr ps := by
    cases ps <;> rfl
  have hother := hi.dsr_invalid (by simp [hpc])
  have hpend := hi.sig_of_valid (by rw [hpc]; rfl)
  split at h
  · split at h
    · cases h
      refine ⟨trivial, fun hv => absurd hv hother, fun hv => Or.inl (hpend hv), hi.fresh,
        fun hc => (by cases hc), fun _ => ?_⟩
      rw [hnr]
      exact hi.idle hin
    · cases h
      exact ⟨trivial, fun hv => absurd hv hother, fun hv => Or.inl (hpend hv), hi.fresh,
        fun hc => (by cases hc), fun _ => hi.idle hin⟩
  · cases h
    refine ⟨trivial, fun hv => absurd hv hother, fun hv => Or.inl (hpend hv), hi.fresh,
      fun hc => (by cases hc), fun _ => ?_⟩
    rw [hnr']
    exact hi.idle hin

/-- Every statement of the DSR keeps the buffers in order. -/
theorem DoubleBufferInv.dsr (hi : DoubleBufferInv s) (h : dsrStep c s = some t) :
    DoubleBufferInv t := by
  by_cases htail : s.dsr.isTail = true
  · obtain ⟨hsame, ht⟩ := dsrStep_tail h htail
    obtain ⟨-, hs, hw⟩ := localsAgree_of_tail (Or.inl htail)
    obtain ⟨hl, ht, -⟩ := localsAgree_of_tail ht
    exact hi.of_same hsame hs ht hl (by simp [hw])
  · have hstep := h
    rw [dsrStep] at h
    cases hpc : s.dsr
    all_goals first | (rw [hpc] at htail; exact absurd rfl htail) | skip
    all_goals
      rw [hpc] at h
      dsimp only at h
    case waitSig =>
      split at h
      · cases h
        exact hi.of_same ⟨rfl, rfl, rfl, rfl, rfl, rfl, rfl⟩ (by rw [hpc]; rfl) rfl trivial
          (by simp [hpc, DsrPc.willTest])
      · cases h
    -- the event is cleared before the buffer is tested, so a filled buffer is still noticed
    case clearSig =>
      cases h
      have hin : s.dsr.inHand = false := by rw [hpc]; rfl
      have hother := hi.dsr_invalid (by simp [hpc])
      exact ⟨trivial, fun hv => absurd hv hother, fun _ => Or.inr rfl, hi.fresh,
        fun hc => (by cases hc), fun _ => hi.idle hin⟩
    case testStop =>
      cases h
      refine hi.of_same ⟨rfl, rfl, rfl, rfl, rfl, rfl, rfl⟩ (by rw [hpc]; rfl) ?_ ?_ ?_
      · dsimp only; split <;> rfl
      · rw [DrvState.localsAgree]; cases s.shouldStop <;> trivial
      · intro _; dsimp only; split <;> rfl
    case readIndex =>
      cases h
      exact hi.of_same ⟨rfl, rfl, rfl, rfl, rfl, rfl, rfl⟩ (by rw [hpc]; rfl) rfl rfl
        (fun _ => rfl)
    case testValid buf => exact hi.testValid hpc hstep
    case flipIndex buf => exact hi.flipIndex hpc hstep
    case invalidate buf => exact hi.invalidate hpc hstep
    case diffFlags buf =>
      cases h
      have hbuf : buf = !s.iIrq2DsrBuffer := by
        have hl := hi.locals
        rwa [DrvState.localsAgree, hpc] at hl
      have hother := hi.dsr_invalid (by simp [hpc])
      exact ⟨⟨hbuf, by rw [hbuf]; rfl⟩, fun hv => absurd hv hother,
        fun hv => Or.inl (hi.sig_of_valid (by rw [hpc]; rfl) hv), hi.fresh,
        fun _ => hi.taken (by rw [hpc]; rfl), fun hc => (by cases hc)⟩
    case storeFlags buf ulChangedBits => exact hi.storeFlags hpc hstep
    case signalBits ulBitPos ulChangedBits lRet => exact hi.signalBits hpc hstep
    case exited => cases h

end DsrStep

/-- Another thread toggling a host bit has no part in the double buffer. -/
theorem DoubleBufferInv.toggle {s t : DrvState β} {b : ℕ} (hi : DoubleBufferInv s)
    (h : netanaTkitToggleBit b s = some t) : DoubleBufferInv t := by
  rw [netanaTkitToggleBit] at h
  obtain ⟨u, hu, rfl⟩ := Option.map_eq_some_iff.mp h
  rw [osEnterLock] at hu
  split at hu
  · cases hu
  · cases hu
    exact hi.congr rfl rfl rfl rfl rfl rfl id

end NetanaDriver
