import NetanaDriver.CaptureIndications

/-! What the steps of the firmware and of other driver threads do to the indications of a
running capture. -/
namespace NetanaDriver
open ToggleHandshake LaggingCache FlagRing

variable {β : Type*}

/-- The bit the dual-port memory shows is the driver's own, except between the two writes of a
toggle of that bit. -/
theorem HostInv.shown {s : DrvState β} (h : HostInv s) {b : ℕ} (hb : b < 16) :
    s.usHostFlags.getLsbD b =
      (s.hostBit b ^^ decide (s.dsr.toggling = some (b, .storeHost))) := by
  have hlow (w : BitVec 32) : (w.setWidth 16).getLsbD b = w.getLsbD b := by
    rw [BitVec.getLsbD_setWidth]
    simp [hb]
  rw [HostInv, DrvState.stageInv.eq_def] at h
  rw [DrvState.hostBit]
  cases htog : s.dsr.toggling with
  | none =>
    rw [htog] at h
    simp [h.1, hlow]
  | some p =>
    obtain ⟨b', st⟩ := p
    rw [htog] at h
    cases st
    case storeHost =>
      rw [h.1, hlow, getLsbD_toggleBit _ _ _ (by omega)]
      simp [eq_comm]
    all_goals simp [h.1, hlow]

theorem indPosition_congr {s t : DrvState β} {f : Firmware β} {c : Cache (BitVec 16 × ℕ)} {v : ℕ}
    (hdsr : t.dsr = s.dsr) (hdata : t.hostBit newdataBit = s.hostBit newdataBit)
    (hstatus : t.hostBit newstatusBit = s.hostBit newstatusBit) :
    t.indPosition f c v ↔ s.indPosition f c v := by
  rw [DrvState.indPosition, DrvState.indPosition, hdsr]
  simp only [DrvState.unequalRight, hdata, hstatus]

/-- A step of another party that leaves the netX flags and the two host bits alone. -/
theorem IndInv.of_other {early : Prop} {s t : DrvState β} {f : Firmware β}
    {c : Cache (BitVec 16 × ℕ)} {r v : ℕ} (hi : IndInv early s f c r v)
    (hlag : Lags Prod.fst t c) (hdsr : t.dsr = s.dsr)
    (hdata : t.hostBit newdataBit = s.hostBit newdataBit)
    (hstatus : t.hostBit newstatusBit = s.hostBit newstatusBit)
    (hstate : t.ulCaptureState = s.ulCaptureState) (hstop : t.hStopComplete = s.hStopComplete)
    (hrw : r ≤ f.filled.length) : IndInv early t f c r v :=
  hi.of_same hlag hdata hstatus hstate hstop le_rfl hrw le_rfl
    (fun hack => Or.inl (by rw [← hdsr]; exact hack))
    ((indPosition_congr hdsr hdata hstatus).mpr hi.position)

/-- The firmware fills another buffer, which it does not do once the end is announced. -/
theorem IndInv.fill {early : Prop} {s t : DrvState β} {f : Firmware β}
    {c : Cache (BitVec 16 × ℕ)} {r v : ℕ} (b : Handover β) (hi : IndInv early s f c r v)
    (hrun : f.stopped = false) (hlag : Lags Prod.fst t c) (hdsr : t.dsr = s.dsr)
    (hhost : t.ulHostFlags = s.ulHostFlags) (hstate : t.ulCaptureState = s.ulCaptureState)
    (hstop : t.hStopComplete = s.hStopComplete) :
    IndInv early t { f with filled := f.filled ++ [b] } c r v := by
  have hbit (b : ℕ) : t.hostBit b = s.hostBit b := by
    rw [DrvState.hostBit, DrvState.hostBit, hhost]
  refine ⟨hlag, hi.indicated, fun e he => ?_, ?_, ?_, ?_, ?_, ?_, ?_⟩
  · have hle := hi.counted e he
    rw [List.length_append]
    omega
  · rw [hbit]
    exact hi.dataLatched
  · rw [hdsr, hbit]
    exact hi.covered
  · rw [hbit]
    exact hi.statusLatched
  · rw [hbit, hstate]
    intro hover hoff e he hb
    have hstopped := (hi.announced hover hoff e he hb).1
    rw [hrun] at hstopped
    cases hstopped
  · rw [hstop]
    intro hset hover
    refine (hi.stopEvent hset hover).imp_right fun h => ?_
    rw [hrun] at h
    cases h.1
  · have hoff (state : BitVec 32) (h : OffSeen f v state) :
        OffSeen { f with filled := f.filled ++ [b] } v state := by
      intro hstate hover
      have hstopped := (h hstate hover).1
      rw [hrun] at hstopped
      cases hstopped
    have hpos := (indPosition_congr (f := f) (c := c) (v := v) hdsr (hbit _) (hbit _)).mpr
      hi.position
    rw [DrvState.indPosition.eq_def] at hpos ⊢
    cases hpc : t.dsr
    case callStatus | testOff =>
      rw [hpc] at hpos
      first | exact ⟨hpos.1, hoff _ hpos.2⟩ | exact hoff _ hpos
    case toggleStatus stage state =>
      rw [hpc] at hpos
      cases stage
      all_goals first | exact ⟨hpos.1, hoff _ hpos.2⟩ | exact hoff _ hpos
    case toggleData stage l =>
      rw [hpc] at hpos
      cases stage <;> exact hpos
    all_goals
      rw [hpc] at hpos
      exact hpos

/-- The firmware writes the netX flags. A NEWDATA toggle answers nothing and covers what has
been filled; a NEWSTATUS toggle for the state OFF comes after the last buffer. -/
theorem IndInv.write {early : Prop} {s t : DrvState β} {f g : Firmware β}
    {c : Cache (BitVec 16 × ℕ)} {r v : ℕ} (e : BitVec 16 × ℕ) (hi : IndInv early s f c r v)
    (hlag : Lags Prod.fst t (c.write e)) (hdsr : t.dsr = s.dsr)
    (hhost : t.ulHostFlags = s.ulHostFlags) (hstate : t.ulCaptureState = s.ulCaptureState)
    (hstop : t.hStopComplete = s.hStopComplete) (hfilled : g.filled = f.filled)
    (hind : e.2 = g.indicated) (hcount : e.2 ≤ f.filled.length)
    (hstopped : f.stopped = true → g.stopped = true)
    (hover : g.statusOverrun = false → f.statusOverrun = false)
    (hdata : (entryBit newdataBit e = entryBit newdataBit c.real ∧ e.2 = c.real.2) ∨
      (entryBit newdataBit e = (!s.hostBit newdataBit) ∧
        ∀ l, s.dsr ≠ .toggleData .storeHost l))
    (hstatus : g.statusOverrun = false → entryBit newstatusBit e = entryBit newstatusBit c.real ∨
      (entryBit newstatusBit e = (!s.hostBit newstatusBit) ∧
        ∀ state, s.dsr ≠ .toggleStatus .storeHost state))
    (hann : g.statusOverrun = false → s.ulCaptureState = captureStateOff →
      entryBit newstatusBit e = (!s.hostBit newstatusBit) →
        g.stopped = true ∧ e.2 = f.filled.length) : IndInv early t g (c.write e) r v := by
  have hbit (b : ℕ) : t.hostBit b = s.hostBit b := by
    rw [DrvState.hostBit, DrvState.hostBit, hhost]
  -- a write adds one entry to what the DSR may still see: each part looks at that entry
  have hview : ∀ x ∈ (c.write e).view, x ∈ c.view ∨ x = e := by
    intro x hx
    rw [view_write] at hx
    exact (List.mem_append.mp hx).imp_right List.mem_singleton.mp
  refine ⟨hlag, ?_, ?_, ?_, ?_, ?_, ?_, ?_, ?_⟩
  · rw [real_write, hind]
  · rw [hfilled]
    intro x hx
    rcases hview x hx with hx | rfl
    · exact hi.counted x hx
    · exact hcount
  · rw [hbit]
    rcases hdata with ⟨hsame, -⟩ | ⟨hnew, -⟩
    · exact hi.dataLatched.write_same hsame
    · exact hi.dataLatched.write_latch hnew
  · rw [hdsr, hbit]
    intro hack x hx hb
    rcases hview x hx with hx | rfl
    · exact hi.covered hack x hx hb
    · rcases hdata with ⟨hsame, hn⟩ | ⟨hnew, -⟩
      · -- an unchanged bit carries the count of the latest entry with it
        rw [hn]
        exact hi.covered hack c.real (real_mem_view c) (hsame ▸ hb)
      · -- a toggled bit is unequal to the host's, so it acknowledges nothing
        rw [hnew] at hb
        simp at hb
  · rw [hbit]
    intro ho
    rcases hstatus ho with hsame | ⟨hnew, -⟩
    · exact (hi.statusLatched (hover ho)).write_same hsame
    · exact (hi.statusLatched (hover ho)).write_latch hnew
  · rw [hbit, hstate, hfilled]
    intro ho hoff x hx hb
    rcases hview x hx with hx | rfl
    · obtain ⟨h1, h2⟩ := hi.announced (hover ho) hoff x hx hb
      exact ⟨hstopped h1, h2⟩
    · exact hann ho hoff hb
  · rw [hstop, hfilled]
    intro hset ho
    rcases hi.stopEvent hset (hover ho) with hleft | ⟨h1, h2⟩
    · exact Or.inl hleft
    · exact Or.inr ⟨hstopped h1, h2⟩
  · have hoff (state : BitVec 32) (h : OffSeen f v state) : OffSeen g v state := by
      intro hst ho
      obtain ⟨h1, h2⟩ := h hst (hover ho)
      exact ⟨hstopped h1, by rw [hfilled]; exact h2⟩
    have hpos := (indPosition_congr (f := f) (c := c) (v := v) hdsr (hbit _) (hbit _)).mpr
      hi.position
    rw [DrvState.indPosition.eq_def] at hpos ⊢
    simp only [DrvState.unequalRight, cached_write, real_write] at hpos ⊢
    cases hpc : t.dsr
    case callStatus | testOff =>
      rw [hpc] at hpos
      first | exact ⟨hpos.1, hoff _ hpos.2⟩ | exact hoff _ hpos
    case toggleData stage l =>
      rw [hpc] at hpos
      cases stage
      case storeHost =>
        obtain ⟨h1, h2, h3⟩ := hpos
        refine ⟨h1, h2, ?_⟩
        rcases hdata with ⟨hsame, -⟩ | ⟨-, hno⟩
        · rw [hsame, h3]
        · -- the firmware does not toggle between the XOR and the store of the acknowledgement
          exact absurd (hdsr.symm.trans hpc) (hno l)
      all_goals exact hpos
    case toggleStatus stage state =>
      rw [hpc] at hpos
      cases stage
      case storeHost =>
        refine ⟨fun ho => ?_, hoff _ hpos.2⟩
        rcases hstatus ho with hsame | ⟨-, hno⟩
        · rw [hsame]
          exact hpos.1 (hover ho)
        · exact absurd (hdsr.symm.trans hpc) (hno state)
      all_goals first | exact ⟨hpos.1, hoff _ hpos.2⟩ | exact hoff _ hpos
    all_goals
      rw [hpc] at hpos
      exact hpos

end NetanaDriver
