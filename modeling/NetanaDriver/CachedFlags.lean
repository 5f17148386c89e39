import NetanaDriver.SnapshotOrder
import NetanaDriver.LaggingCache

/-! The netX flags as the driver sees them are a lagging cache of the handshake word: every
interleaving of interrupts and DSR statements is a run of cache refreshes. -/
namespace NetanaDriver
open ToggleHandshake LaggingCache

variable {α β : Type*} {word : α → BitVec 16}

/-- The cached flags, the snapshot the DSR has in hand, the one the ISR has left for it and the
handshake word are values of one history, in this order. An entry of the history may carry
more than the word. -/
structure Lags (word : α → BitVec 16) (s : DrvState β) (c : Cache α) : Prop where
  real : word c.real = s.usNetxFlags
  cached : s.ulNetxFlags = (word c.cached).setWidth 32
  buffers : ∃ i j, c.seen ≤ i ∧ i ≤ j ∧ j < c.hist.length ∧
    (s.dsr.inHand = true → ∃ x, c.hist[i]? = some x ∧ word x = s.dsrBuffer.usNetxFlags) ∧
    (s.isrBuffer.fValid = true → ∃ x, c.hist[j]? = some x ∧ word x = s.isrBuffer.usNetxFlags)

theorem Lags.isr {s : DrvState β} {c : Cache α} (h : Lags word s c) (w : BitVec 32) :
    Lags word (netanaIsr w s) c := by
  by_cases hw : maskTest w mskIntReq = true
  · obtain ⟨i, j, hi, hij, hj, hhand, -⟩ := h.buffers
    have hdsr : (netanaIsr w s).dsr = s.dsr := by simp [netanaIsr, hw]
    have hreal : (netanaIsr w s).usNetxFlags = s.usNetxFlags := by simp [netanaIsr, hw]
    have hcached : (netanaIsr w s).ulNetxFlags = s.ulNetxFlags := by simp [netanaIsr, hw]
    refine ⟨?_, ?_, i, c.hist.length - 1, hi, by omega, by omega, ?_, fun _ => ?_⟩
    · rw [hreal]
      exact h.real
    · rw [hcached]
      exact h.cached
    · rw [hdsr, dsrBuffer_isr]
      exact hhand
    · refine ⟨c.real, ?_, ?_⟩
      · rw [Cache.real, ← List.getLast?_eq_getElem?, List.getLast?_eq_some_getLast]
      · rw [isrBuffer_isr s w hw, h.real]
  · have hs : netanaIsr w s = s := by simp [netanaIsr, hw]
    rw [hs]
    exact h

/-- The firmware writes the handshake word. -/
theorem Lags.firmware {s t : DrvState β} {c : Cache α} (h : Lags word s c) (x : α)
    (hreal : t.usNetxFlags = word x) (hcached : t.ulNetxFlags = s.ulNetxFlags)
    (hdsr : t.dsr = s.dsr) (hindex : t.iIrq2DsrBuffer = s.iIrq2DsrBuffer)
    (hbuf : t.atIrq2DsrBuffer = s.atIrq2DsrBuffer) : Lags word t (c.write x) := by
  obtain ⟨i, j, hi, hij, hj, hhand, hfresh⟩ := h.buffers
  have hget (k : ℕ) (hk : k < c.hist.length) : (c.write x).hist[k]? = c.hist[k]? :=
    List.getElem?_append_left hk
  refine ⟨?_, ?_, i, j, hi, hij, ?_, ?_, ?_⟩
  · rw [real_write, hreal]
  · rw [cached_write, hcached]
    exact h.cached
  · rw [Cache.write, List.length_append]
    omega
  · rw [hget i (by omega), hdsr, DrvState.dsrBuffer, hbuf, hindex]
    exact hhand
  · rw [hget j hj, DrvState.isrBuffer, hbuf, hindex]
    exact hfresh

/-- A step that leaves the shared fields alone and takes no snapshot over. -/
theorem Lags.of_same {s t : DrvState β} {c : Cache α} (h : Lags word s c)
    (hs : SameFlags s t) (ht : t.dsr.inHand = true → s.dsr.inHand = true) : Lags word t c := by
  obtain ⟨i, j, hi, hij, hj, hhand, hfresh⟩ := h.buffers
  refine ⟨?_, ?_, i, j, hi, hij, hj, ?_, ?_⟩
  · rw [hs.netx]
    exact h.real
  · rw [hs.cached]
    exact h.cached
  · rw [DrvState.dsrBuffer, hs.buffers, hs.index]
    exact fun hin => hhand (ht hin)
  · rw [DrvState.isrBuffer, hs.buffers, hs.index]
    exact hfresh

/-- Every statement of the DSR refreshes the cached flags to the same or a later value, and
those after `netana_tkit_dsr_handler` do not touch them. -/
theorem Lags.dsr {s t : DrvState β} {a : Cache α} {c : DsrChoice}
    (hb : DoubleBufferInv s) (hl : Lags word s a) (h : dsrStep c s = some t) :
    ∃ k d, a.refresh k = some d ∧ Lags word t d ∧ (s.dsr.isTail = true → d = a) := by
  by_cases htail : s.dsr.isTail = true
  · obtain ⟨hsame, ht⟩ := dsrStep_tail h htail
    obtain ⟨-, hin, -⟩ := localsAgree_of_tail ht
    exact ⟨_, a, refresh_seen a, hl.of_same hsame fun h => (by rw [hin] at h; cases h),
      fun _ => rfl⟩
  · suffices hex : ∃ k d, a.refresh k = some d ∧ Lags word t d by
      obtain ⟨k, d, hd, hlag⟩ := hex
      exact ⟨k, d, hd, hlag, fun ht => absurd ht htail⟩
    obtain ⟨i, j, hi, hij, hj, hhand, hfresh⟩ := hl.buffers
    rw [dsrStep] at h
    cases hpc : s.dsr
    all_goals first | (rw [hpc] at htail; exact absurd rfl htail) | skip
    all_goals
      rw [hpc] at h
      dsimp only at h
    case waitSig =>
      split at h
      · cases h
        exact ⟨_, a, refresh_seen a, hl.of_same ⟨rfl, rfl, rfl, rfl, rfl, rfl, rfl⟩
          fun h => by cases h⟩
      · cases h
    case clearSig =>
      cases h
      exact ⟨_, a, refresh_seen a, ⟨hl.real, hl.cached, i, j, hi, hij, hj,
        fun h => (by cases h), hfresh⟩⟩
    case testStop =>
      cases h
      refine ⟨_, a, refresh_seen a, hl.of_same ⟨rfl, rfl, rfl, rfl, rfl, rfl, rfl⟩ ?_⟩
      dsimp only
      split <;> exact fun h => by cases h
    case readIndex =>
      cases h
      exact ⟨_, a, refresh_seen a, hl.of_same ⟨rfl, rfl, rfl, rfl, rfl, rfl, rfl⟩
        fun h => by cases h⟩
    case testValid buf =>
      cases h
      refine ⟨_, a, refresh_seen a, hl.of_same ⟨rfl, rfl, rfl, rfl, rfl, rfl, rfl⟩ ?_⟩
      dsimp only
      split <;> exact fun h => by cases h
    case flipIndex buf =>
      -- the snapshot left by the ISR is the one in hand from here on
      cases h
      obtain ⟨-, hv⟩ : buf = s.iIrq2DsrBuffer ∧ s.isrBuffer.fValid = true := by
        have hloc := hb.locals
        rwa [DrvState.localsAgree, hpc] at hloc
      have hother := hb.dsr_invalid (by simp [hpc])
      refine ⟨_, a, refresh_seen a, ⟨hl.real, hl.cached, j, j, by omega, le_rfl, hj,
        fun _ => ?_, fun hv => absurd hv hother⟩⟩
      rw [DrvState.dsrBuffer]
      simp only [Bool.not_not]
      exact hfresh hv
    case invalidate buf =>
      cases h
      have hbuf : buf = !s.iIrq2DsrBuffer := by
        have hloc := hb.locals
        rwa [DrvState.localsAgree, hpc] at hloc
      have hin := hhand (by rw [hpc]; rfl)
      subst hbuf
      refine ⟨_, a, refresh_seen a, ⟨hl.real, hl.cached, i, j, hi, hij, hj, fun _ => ?_, ?_⟩⟩
      · simpa [DrvState.dsrBuffer] using hin
      · simpa [DrvState.isrBuffer] using hfresh
    case diffFlags buf =>
      cases h
      exact ⟨_, a, refresh_seen a, ⟨hl.real, hl.cached, i, j, hi, hij, hj,
        fun _ => hhand (by rw [hpc]; rfl), hfresh⟩⟩
    case storeFlags buf ulChangedBits =>
      cases h
      obtain ⟨hbuf, -⟩ : buf = (!s.iIrq2DsrBuffer) ∧
          ulChangedBits = s.ulNetxFlags ^^^ s.dsrBuffer.usNetxFlags.setWidth 32 := by
        have hloc := hb.locals
        rwa [DrvState.localsAgree, hpc] at hloc
      obtain ⟨x, hx, hword⟩ := hhand (by rw [hpc]; rfl)
      obtain ⟨d, hd, hdc⟩ := refresh_of_le hi hx
      obtain ⟨hhist, hseen, -⟩ := refresh_eq_some hd
      subst hbuf
      refine ⟨i, d, hd, ⟨?_, ?_, i, j, hseen.le, hij, by rw [hhist]; exact hj,
        fun h => (by cases h), ?_⟩⟩
      · rw [real_refresh hd]
        exact hl.real
      · rw [hdc, hword]
        rfl
      · rw [hhist]
        exact hfresh
    case signalBits ulBitPos ulChangedBits lRet =>
      refine ⟨_, a, refresh_seen a, ?_⟩
      split at h
      · split at h
        · cases h
          exact ⟨hl.real, hl.cached, i, j, hi, hij, hj, fun h => (by cases h), hfresh⟩
        · cases h
          exact ⟨hl.real, hl.cached, i, j, hi, hij, hj, fun h => (by cases h), hfresh⟩
      · cases h
        exact ⟨hl.real, hl.cached, i, j, hi, hij, hj, fun h => (by cases h), hfresh⟩
    case exited => cases h

/-- One step of the driver side is at most one step of the lagging cache. -/
theorem interruptStep_lags {f : BitVec 32} (s : DrvState β) (x : InterruptAction β)
    (t : DrvState β) (c : Cache (BitVec 16))
    (hR : (DoubleBufferInv s ∧ PassInv f s) ∧ Lags id s c) (hx : interruptStep s x = some t) :
    ∃ bs d, StepRuns.run cacheStep c bs = some d ∧
      (DoubleBufferInv t ∧ PassInv f t) ∧ Lags id t d := by
  obtain ⟨hinv, hlag⟩ := hR
  have hinv' := interruptStep_inv s x t hinv hx
  cases x with
  | isr w =>
    cases hx
    exact ⟨[], c, rfl, hinv', hlag.isr w⟩
  | dsr ch =>
    obtain ⟨k, d, hd, hlag', -⟩ := Lags.dsr hinv.1 hlag hx
    refine ⟨[.refresh k], d, ?_, hinv', hlag'⟩
    rw [StepRuns.run_cons, cacheStep, hd]
    rfl
  | firmware netx bufs state error sizes content =>
    cases hx
    exact ⟨[.write netx], c.write netx, rfl, hinv', hlag.firmware netx rfl rfl rfl rfl rfl⟩
  | toggle b =>
    have hsame := netanaTkitToggleBit_sameFlags hx
    have hdsr := netanaTkitToggleBit_dsr hx
    exact ⟨[], c, rfl, hinv', hlag.of_same hsame fun h => by rwa [hdsr] at h⟩
  | signalStop =>
    cases hx
    exact ⟨[], c, rfl, hinv', ⟨hlag.real, hlag.cached, hlag.buffers⟩⟩
  | stopThread =>
    cases hx
    exact ⟨[], c, rfl, hinv', ⟨hlag.real, hlag.cached, hlag.buffers⟩⟩

/-- A device that has been added has nothing to be seen but the present flags. -/
theorem restingDevice_lags (usFlags : BitVec 16) (n : ℕ) (size : BitVec 32) (content : ℕ → β) :
    Lags id (restingDevice usFlags n size content) (Cache.start usFlags) := by
  refine ⟨rfl, rfl, 0, 0, le_rfl, le_rfl, Nat.zero_lt_one, ?_, ?_⟩
  · intro h
    cases h
  · intro h
    cases h

/-- Every run of interrupts and DSR statements is a run of the lagging cache. -/
theorem interrupt_run_is_cache_run {f : BitVec 32} {s t : DrvState β} {c : Cache (BitVec 16)}
    {as : List (InterruptAction β)} (hi : DoubleBufferInv s ∧ PassInv f s) (hl : Lags id s c)
    (h : StepRuns.run interruptStep s as = some t) :
    ∃ bs d, StepRuns.run cacheStep c bs = some d ∧ Lags id t d := by
  obtain ⟨bs, d, hd, -, hlag⟩ := StepRuns.run_simulates interruptStep_lags ⟨hi, hl⟩ h
  exact ⟨bs, d, hd, hlag⟩

end NetanaDriver
