import NetanaDriver.CaptureFirmware
import NetanaDriver.BoundedFifo

/-! A capture from its start: every buffer the firmware fills is handed over exactly once and
in order, and before the stop is reported all of them have been. -/
namespace NetanaDriver
open ToggleHandshake LaggingCache FlagRing BoundedFifo

variable {β : Type*}

def CaptureInv (early : Prop) (x : CaptureState β) : Prop :=
  DoubleBufferInv x.drv ∧ HostInv x.drv ∧
    ∃ r v c, RingInv x.drv x.fw.filled r v ∧ IndInv early x.drv x.fw c r v

theorem RingInv.le_filled {s : DrvState β} {filled : List (Handover β)} {r v : ℕ}
    (hi : RingInv s filled r v) : r ≤ filled.length := hi.bounds.1.trans hi.bounds.2.1

/-- The newest entry of the history is what the DPM shows. -/
theorem IndInv.entryBit_real {early : Prop} {s : DrvState β} {f : Firmware β}
    {c : Cache (BitVec 16 × ℕ)} {r v : ℕ} (hi : IndInv early s f c r v) (b : ℕ) :
    entryBit b c.real = s.usNetxFlags.getLsbD b := by
  rw [entryBit, hi.lags.real]

theorem IndInv.indicated_le {early : Prop} {s : DrvState β} {f : Firmware β}
    {c : Cache (BitVec 16 × ℕ)} {r v : ℕ} (hi : IndInv early s f c r v) :
    f.indicated ≤ f.filled.length := by
  rw [← hi.indicated]
  exact hi.counted c.real (real_mem_view c)

/-- Where the DPM bits are equal, the firmware has not toggled since the last acknowledge, and
the DSR is not about to show its acknowledge. -/
theorem IndInv.equal_data {early : Prop} {s : DrvState β} {f : Firmware β}
    {c : Cache (BitVec 16 × ℕ)} {r v : ℕ} (hi : IndInv early s f c r v) (hh : HostInv s)
    (heq : s.bitsEqual newdataBit = true) :
    entryBit newdataBit c.real = s.hostBit newdataBit ∧
      ∀ l, s.dsr ≠ .toggleData .storeHost l := by
  have hreal := hi.entryBit_real newdataBit
  have hshown := hh.shown (b := newdataBit) (by decide)
  rw [DrvState.bitsEqual, beq_iff_eq] at heq
  have hno : ∀ l, s.dsr ≠ .toggleData .storeHost l := by
    intro l hpc
    have hpos := hi.position
    rw [DrvState.indPosition, hpc] at hpos
    rw [hpc, ← heq.symm, ← hreal, hpos.2.2] at hshown
    simp [DsrPc.toggling] at hshown
  refine ⟨?_, hno⟩
  have htog : ¬ s.dsr.toggling = some (newdataBit, .storeHost) := by
    intro htog
    cases hpc : s.dsr
    all_goals rw [hpc] at htog
    all_goals first | cases htog; done | skip
    case toggleData stage l =>
      simp only [DsrPc.toggling, Option.some.injEq, Prod.mk.injEq, true_and] at htog
      subst htog
      exact hno l hpc
  rw [hreal, ← heq, hshown]
  simp [htog]

theorem IndInv.equal_status {early : Prop} {s : DrvState β} {f : Firmware β}
    {c : Cache (BitVec 16 × ℕ)} {r v : ℕ} (hi : IndInv early s f c r v) (hh : HostInv s)
    (hover : f.statusOverrun = false) (heq : s.bitsEqual newstatusBit = true) :
    entryBit newstatusBit c.real = s.hostBit newstatusBit ∧
      ∀ state, s.dsr ≠ .toggleStatus .storeHost state := by
  have hreal := hi.entryBit_real newstatusBit
  have hshown := hh.shown (b := newstatusBit) (by decide)
  rw [DrvState.bitsEqual, beq_iff_eq] at heq
  have hno : ∀ state, s.dsr ≠ .toggleStatus .storeHost state := by
    intro state hpc
    have hpos := hi.position
    rw [DrvState.indPosition, hpc] at hpos
    rw [hpc, ← heq.symm, ← hreal, hpos.1 hover] at hshown
    simp [DsrPc.toggling] at hshown
  refine ⟨?_, hno⟩
  have htog : ¬ s.dsr.toggling = some (newstatusBit, .storeHost) := by
    intro htog
    cases hpc : s.dsr
    all_goals rw [hpc] at htog
    all_goals first | cases htog; done | skip
    case toggleStatus stage state =>
      simp only [DsrPc.toggling, Option.some.injEq, Prod.mk.injEq, true_and] at htog
      subst htog
      exact hno state hpc
  rw [hreal, ← heq, hshown]
  simp [htog]

/-- Toggling another bit of the history entry. -/
theorem entryBit_toggle_ne {w : BitVec 16} {b i n : ℕ} (hi : i < 16) (h : i ≠ b) :
    entryBit i (toggleBit w b, n) = w.getLsbD i :=
  getLsbD_toggleBit_ne w hi h

theorem entryBit_toggle_self {w : BitVec 16} {b n : ℕ} (hb : b < 16) :
    entryBit b (toggleBit w b, n) = !w.getLsbD b :=
  getLsbD_toggleBit_self w b hb

/-- The firmware writing its flags does not concern the double buffer or the ring. -/
theorem DoubleBufferInv.of_netx {s : DrvState β} (hi : DoubleBufferInv s) (w : BitVec 16) :
    DoubleBufferInv { s with usNetxFlags := w } :=
  hi.congr rfl rfl rfl rfl rfl rfl id

theorem RingInv.of_netx {s : DrvState β} {filled : List (Handover β)} {r v : ℕ}
    (hi : RingInv s filled r v) (w : BitVec 16) :
    RingInv { s with usNetxFlags := w } filled r v :=
  ⟨hi.count, hi.callback, hi.bounds, hi.flags, hi.slots, hi.handed, hi.position⟩

/-- Another thread moves neither the DSR nor the ring. -/
theorem RingInv.of_other {s t : DrvState β} {filled : List (Handover β)} {r v : ℕ}
    (hi : RingInv s filled r v) (h : SameRing s t) (hdsr : t.dsr = s.dsr) :
    RingInv t filled r v := by
  refine hi.of_same h (by rw [hdsr]) ?_
  have hpos := hi.position
  rw [DrvState.ringPosition] at hpos ⊢
  simp only [DrvState.atBuffer] at hpos ⊢
  rw [hdsr, h.count, h.current, h.sizes]
  exact hpos

/-- While another thread can take the lock, the DSR is not between its own toggle's lock and
unlock. -/
theorem HostInv.quiet {s : DrvState β} (hi : HostInv s) (hlock : s.pvLock ≠ some true) :
    s.stageInv none ∧ ∀ t : DrvState β, t.stageInv none → t.stageInv s.dsr.toggling := by
  rw [HostInv, DrvState.stageInv.eq_def] at hi
  cases htog : s.dsr.toggling with
  | none =>
    rw [htog] at hi
    exact ⟨hi, fun _ ht => ht⟩
  | some p =>
    obtain ⟨i, st⟩ := p
    rw [htog] at hi
    cases st
    case enterLock => exact ⟨hi, fun _ ht => ht⟩
    all_goals exact absurd hi.2 hlock

section Step
variable {early : Prop} {x y : CaptureState β}

theorem CaptureInv.isr {w : BitVec 32} (hi : CaptureInv early x)
    (h : captureStep x (.isr w) = some y) : CaptureInv early y := by
  obtain ⟨hbuf, hhost, r, v, c, hring, hind⟩ := hi
  cases h
  obtain ⟨hsame, hsameHost, hdsr⟩ := isr_same w x.drv
  have hbit (b : ℕ) : (netanaIsr w x.drv).hostBit b = x.drv.hostBit b := by
    rw [DrvState.hostBit, DrvState.hostBit, hsameHost.host]
  refine ⟨hbuf.isr w, ?_, r, v, c, hring.of_other hsame hdsr,
    hind.of_other (hind.lags.isr w) hdsr (hbit _) (hbit _) hsameHost.state
      hsameHost.stopEvent hring.le_filled⟩
  rw [HostInv, DrvState.stageInv.eq_def, hdsr, hsameHost.host, hsameHost.stored, hsameHost.lock]
  exact hhost

theorem CaptureInv.dsr {ch : DsrChoice} (hi : CaptureInv early x)
    (h : captureStep x (.dsr ch) = some y) : CaptureInv early y := by
  obtain ⟨hbuf, hhost, r, v, c, hring, hind⟩ := hi
  obtain ⟨t, ht, rfl⟩ := Option.map_eq_some_iff.mp h
  obtain ⟨r', v', hring', hr, hv, hread⟩ := hring.dsr ht
  obtain ⟨d, hind'⟩ := hind.dsr hbuf hring hring' hr hv hread ht
  exact ⟨hbuf.dsr ht, hhost.dsr ht, r', v', d, hring', hind'⟩

theorem CaptureInv.transfer {content : β} (hi : CaptureInv early x)
    (h : captureStep x (.transfer content) = some y) : CaptureInv early y := by
  obtain ⟨hbuf, hhost, r, v, c, hring, hind⟩ := hi
  rw [captureStep] at h
  split at h
  · rename_i hfree
    cases h
    refine ⟨hbuf.congr rfl rfl rfl rfl rfl rfl id, hhost,
      r, v, c, hring.write hfree ?_ rfl rfl rfl rfl rfl rfl rfl rfl,
      hind.of_other (hind.lags.of_same ⟨rfl, rfl, rfl, rfl, rfl, rfl, rfl⟩ id) rfl rfl rfl rfl
        rfl hring.le_filled⟩
    exact fun p hp => ⟨rfl, Function.update_of_ne hp _ _⟩
  · cases h

theorem CaptureInv.setSize {size : BitVec 32} (hi : CaptureInv early x)
    (h : captureStep x (.setSize size) = some y) : CaptureInv early y := by
  obtain ⟨hbuf, hhost, r, v, c, hring, hind⟩ := hi
  rw [captureStep] at h
  split at h
  · rename_i hfree
    cases h
    refine ⟨hbuf.congr rfl rfl rfl rfl rfl rfl id, hhost,
      r, v, c, hring.write hfree ?_ rfl rfl rfl rfl rfl rfl rfl rfl,
      hind.of_other (hind.lags.of_same ⟨rfl, rfl, rfl, rfl, rfl, rfl, rfl⟩ id) rfl rfl rfl rfl
        rfl hring.le_filled⟩
    exact fun p hp => ⟨Function.update_of_ne hp _ _, rfl⟩
  · cases h

theorem CaptureInv.flipBuffer (hi : CaptureInv early x)
    (h : captureStep x .flipBuffer = some y) : CaptureInv early y := by
  obtain ⟨hbuf, hhost, r, v, c, hring, hind⟩ := hi
  rw [captureStep] at h
  split at h
  · rename_i hguard
    cases h
    obtain ⟨⟨hfree, hrun⟩, hlegal⟩ : (x.drv.bufferFree x.fillBuffer = true ∧
        (!x.fw.stopped) = true) ∧
        x.drv.aulUsedBufferSize x.fillBuffer ≤ x.drv.ulBufferSize x.fillBuffer := by
      simpa only [Bool.and_eq_true, decide_eq_true_eq] using hguard
    exact ⟨hbuf.congr rfl rfl rfl rfl rfl rfl id, hhost,
      r, v, c, hring.flip hfree hlegal, hind.fill _ (by simpa using hrun)
        (hind.lags.of_same ⟨rfl, rfl, rfl, rfl, rfl, rfl, rfl⟩ id) rfl rfl rfl rfl⟩
  · cases h

theorem CaptureInv.newData (hi : CaptureInv early x) (h : captureStep x .newData = some y) :
    CaptureInv early y := by
  obtain ⟨hbuf, hhost, r, v, c, hring, hind⟩ := hi
  rw [captureStep] at h
  split at h
  · rename_i heq
    cases h
    obtain ⟨hsame, hno⟩ := hind.equal_data hhost heq
    have hbit1 : entryBit newstatusBit (toggleBit x.drv.usNetxFlags newdataBit,
        x.fw.filled.length) = entryBit newstatusBit c.real := by
      rw [entryBit_toggle_ne (by decide) (by decide), hind.entryBit_real]
    refine ⟨hbuf.of_netx _, hhost, r, v, _, hring.of_netx _,
      hind.write (toggleBit x.drv.usNetxFlags newdataBit, x.fw.filled.length)
        (hind.lags.firmware _ rfl rfl rfl rfl rfl) rfl rfl rfl rfl rfl rfl le_rfl id id
        (Or.inr ⟨?_, hno⟩) (fun _ => Or.inl hbit1) ?_⟩
    · rw [entryBit_toggle_self (by decide), ← hind.entryBit_real, hsame]
    · intro hover hoff hb
      rw [hbit1] at hb
      exact ⟨(hind.announced hover hoff c.real (real_mem_view c) hb).1, rfl⟩
  · cases h

theorem CaptureInv.setState {state error : BitVec 32} (hi : CaptureInv early x)
    (h : captureStep x (.setState state error) = some y) : CaptureInv early y := by
  obtain ⟨hbuf, hhost, r, v, c, hring, hind⟩ := hi
  rw [captureStep] at h
  split at h
  · rename_i heq
    cases h
    refine ⟨hbuf.congr rfl rfl rfl rfl rfl rfl id, hhost,
      r, v, c, ⟨hring.count, hring.callback, hring.bounds, hring.flags, hring.slots,
        hring.handed, hring.position⟩,
      ⟨hind.lags.of_same ⟨rfl, rfl, rfl, rfl, rfl, rfl, rfl⟩ id, hind.indicated, hind.counted,
        hind.dataLatched, hind.covered, hind.statusLatched, ?_, hind.stopEvent,
        hind.position⟩⟩
    -- with equal bits nothing is announced
    intro hover _ e he hb
    obtain ⟨hsame, -⟩ := hind.equal_status hhost hover heq
    have hnone := (hind.statusLatched hover).none_of_real (by rw [hsame, Bool.not_not]) e he
    rw [Bool.not_not] at hnone
    have hb' : entryBit newstatusBit e = !x.drv.hostBit newstatusBit := hb
    rw [hnone] at hb'
    simp at hb'
  · cases h

theorem CaptureInv.newStatus (hi : CaptureInv early x) (h : captureStep x .newStatus = some y) :
    CaptureInv early y := by
  obtain ⟨hbuf, hhost, r, v, c, hring, hind⟩ := hi
  rw [captureStep] at h
  split at h
  · cases h
  · rename_i hguard
    cases h
    have hbit0 : entryBit newdataBit (toggleBit x.drv.usNetxFlags newstatusBit,
        x.fw.indicated) = entryBit newdataBit c.real := by
      rw [entryBit_toggle_ne (by decide) (by decide), hind.entryBit_real]
    have hequal : (x.fw.statusOverrun || !x.drv.bitsEqual newstatusBit) = false →
        x.fw.statusOverrun = false ∧ x.drv.bitsEqual newstatusBit = true := by
      simp
    refine ⟨hbuf.of_netx _, hhost, r, v, _, hring.of_netx _,
      hind.write (toggleBit x.drv.usNetxFlags newstatusBit, x.fw.indicated)
        (hind.lags.firmware _ rfl rfl rfl rfl rfl) rfl rfl rfl rfl rfl rfl hind.indicated_le
        (fun hs => by simp [hs]) (fun ho => (hequal ho).1)
        (Or.inl ⟨hbit0, hind.indicated.symm⟩) (fun ho => Or.inr ?_) ?_⟩
    · obtain ⟨hover, heq⟩ := hequal ho
      obtain ⟨hsame, hno⟩ := hind.equal_status hhost hover heq
      refine ⟨?_, hno⟩
      rw [entryBit_toggle_self (by decide), ← hind.entryBit_real, hsame]
    · intro _ hoff _
      refine ⟨by simp [hoff], ?_⟩
      by_contra hne
      exact hguard ⟨hoff, hne⟩

/-- A bit that the capture does not use. -/
theorem CaptureInv.otherNetxBit {b : ℕ} (hi : CaptureInv early x)
    (h : captureStep x (.otherNetxBit b) = some y) : CaptureInv early y := by
  obtain ⟨hbuf, hhost, r, v, c, hring, hind⟩ := hi
  rw [captureStep] at h
  split at h
  · cases h
  · rename_i hb
    cases h
    rw [not_or] at hb
    have hbit (i : ℕ) (hi : i < 16) (hne : i ≠ b) : entryBit i
        (toggleBit x.drv.usNetxFlags b, x.fw.indicated) = entryBit i c.real := by
      rw [entryBit_toggle_ne hi hne, hind.entryBit_real]
    refine ⟨hbuf.of_netx _, hhost, r, v, _, hring.of_netx _,
      hind.write (toggleBit x.drv.usNetxFlags b, x.fw.indicated)
        (hind.lags.firmware _ rfl rfl rfl rfl rfl) rfl rfl rfl rfl rfl rfl hind.indicated_le
        id id (Or.inl ⟨hbit newdataBit (by decide) (Ne.symm hb.1), hind.indicated.symm⟩)
        (fun _ => Or.inl (hbit newstatusBit (by decide) (Ne.symm hb.2))) ?_⟩
    intro hover hoff hb1
    rw [hbit newstatusBit (by decide) (Ne.symm hb.2)] at hb1
    obtain ⟨h1, h2⟩ := hind.announced hover hoff c.real (real_mem_view c) hb1
    exact ⟨h1, by rw [← h2, hind.indicated]⟩

/-- Another thread of the driver toggles a bit of its own. -/
theorem CaptureInv.otherHostBit {b : ℕ} (hi : CaptureInv early x)
    (h : captureStep x (.otherHostBit b) = some y) : CaptureInv early y := by
  obtain ⟨hbuf, hhost, r, v, c, hring, hind⟩ := hi
  rw [captureStep] at h
  split at h
  · cases h
  · rename_i hb
    rw [not_or] at hb
    obtain ⟨t, ht, rfl⟩ := Option.map_eq_some_iff.mp h
    obtain ⟨hstage, hlock, hbits, hstate, hstop⟩ := netanaTkitToggleBit_stage ht
    obtain ⟨hquiet, hback⟩ := hhost.quiet hlock
    have hflags := netanaTkitToggleBit_sameFlags ht
    have hdsr := netanaTkitToggleBit_dsr ht
    have hdata := hbits newdataBit (by decide) (Ne.symm hb.1)
    have hstatus := hbits newstatusBit (by decide) (Ne.symm hb.2)
    refine ⟨hbuf.toggle ht, ?_, r, v, c, hring.of_other (netanaTkitToggleBit_same ht) hdsr,
      hind.of_other (hind.lags.of_same hflags (by rw [hdsr]; exact id)) hdsr hdata hstatus
        hstate hstop hring.le_filled⟩
    rw [HostInv, hdsr]
    exact hback t (hstage hquiet)

end Step

theorem captureStep_inv {early : Prop} (x : CaptureState β) (a : CaptureAction β)
    (y : CaptureState β) (hi : CaptureInv early x) (h : captureStep x a = some y) :
    CaptureInv early y := by
  cases a with
  | isr w => exact hi.isr h
  | dsr ch => exact hi.dsr h
  | transfer content => exact hi.transfer h
  | setSize size => exact hi.setSize h
  | flipBuffer => exact hi.flipBuffer h
  | newData => exact hi.newData h
  | setState state error => exact hi.setState h
  | newStatus => exact hi.newStatus h
  | otherNetxBit b => exact hi.otherNetxBit h
  | otherHostBit b => exact hi.otherHostBit h

/-- The start of a capture: between 1 and 32 buffers, both words of buffer flags 0, the ring at
its first buffer, a data callback, and no indication pending or still to be seen. -/
structure CaptureStart (x : CaptureState β) : Prop where
  count : 0 < x.drv.ulDMABufferCount ∧ x.drv.ulDMABufferCount ≤ 32
  hostFlags : x.drv.hostBufferFlags = 0#32
  netxFlags : x.drv.netxBufferFlags = 0#32
  current : x.drv.ulCurrentBuffer = 0
  callback : x.drv.pfnData = true
  handed : x.drv.handed = []
  buffers : DoubleBufferInv x.drv
  position : x.drv.dsr.inProcess = false
  stored : x.drv.usHostFlags = x.drv.ulHostFlags.setWidth 16
  unlocked : x.drv.pvLock = some false
  nothingPending : ∃ c : Cache (BitVec 16), Lags id x.drv c ∧ ∀ w ∈ c.view,
    w.getLsbD newdataBit = x.drv.hostBit newdataBit ∧
      w.getLsbD newstatusBit = x.drv.hostBit newstatusBit
  firmware : x.fw = ⟨[], 0, false, false⟩

theorem Lags.pair {s : DrvState β} {c : Cache (BitVec 16)} (h : Lags id s c) :
    Lags Prod.fst s (c.map fun w => (w, 0)) := by
  obtain ⟨i, j, hi, hij, hj, hhand, hfresh⟩ := h.buffers
  have hget {k : ℕ} {w : BitVec 16} (hk : ∃ x, c.hist[k]? = some x ∧ id x = w) :
      ∃ x, (c.map fun w => (w, 0)).hist[k]? = some x ∧ x.1 = w := by
    obtain ⟨x, hx, rfl⟩ := hk
    exact ⟨(x, 0), by rw [Cache.map, List.getElem?_map, hx]; rfl, rfl⟩
  refine ⟨?_, ?_, i, j, hi, hij, ?_, fun hin => hget (hhand hin), fun hv => hget (hfresh hv)⟩
  · rw [real_map]
    exact h.real
  · rw [cached_map]
    exact h.cached
  · rw [Cache.map, List.length_map]
    exact hj

theorem CaptureStart.inv {x : CaptureState β} (h : CaptureStart x) :
    CaptureInv (x.drv.hStopComplete = some true) x := by
  obtain ⟨c, hlag, hagree⟩ := h.nothingPending
  have hbounds := h.count
  have hview : ∀ e ∈ (c.map fun w => (w, 0)).view, e.2 = 0 ∧
      entryBit newdataBit e = x.drv.hostBit newdataBit ∧
        entryBit newstatusBit e = x.drv.hostBit newstatusBit := by
    intro e he
    rw [view_map] at he
    obtain ⟨w, hw, rfl⟩ := List.mem_map.mp he
    exact ⟨rfl, hagree w hw⟩
  have hposition : x.drv.ringPosition 0 0 := by
    rw [ringPosition_outside (Or.inl h.position)]
    exact ⟨rfl, by rw [h.current, Nat.zero_mod]⟩
  refine ⟨h.buffers, ?_, 0, 0, c.map fun w => (w, 0), ?_, ?_⟩
  · rw [HostInv, toggling_outside (Or.inl h.position)]
    exact ⟨h.stored, h.unlocked⟩
  · rw [h.firmware]
    refine ⟨h.count, h.callback, ⟨le_rfl, le_rfl, Nat.zero_le _⟩, ?_, fun q _ hq => ?_, ?_,
      hposition⟩
    · rw [h.hostFlags, h.netxFlags, BitVec.xor_self]
      exact shows_zero _ _
    · exact absurd hq (Nat.not_lt_zero q)
    · rw [h.handed, List.take_nil]
  · rw [h.firmware]
    refine ⟨hlag.pair, ?_, fun e he => ?_, ?_, fun _ e he _ => ?_, fun _ => ?_,
      fun _ _ e he hb => ?_, fun hset _ => Or.inl hset, indPosition_outside h.position⟩
    · exact (hview _ (real_mem_view _)).1
    · exact (hview e he).1.le
    · exact latchedOn_of_all fun e he => (hview e he).2.1
    · exact (hview e he).1.le
    · exact latchedOn_of_all fun e he => (hview e he).2.2
    · rw [(hview e he).2.2] at hb
      simp at hb

theorem restingDevice_captureStart (usFlags : BitVec 16) {n : ℕ} (size : BitVec 32)
    (content : ℕ → β) (hn : 0 < n) (hn32 : n ≤ 32) :
    CaptureStart ⟨restingDevice usFlags n size content, ⟨[], 0, false, false⟩⟩ where
  count := ⟨hn, hn32⟩
  hostFlags := rfl
  netxFlags := rfl
  current := rfl
  callback := rfl
  handed := rfl
  buffers := (restingDevice_atRest usFlags n size content).doubleBuffer
  position := rfl
  stored := by
    simp [restingDevice]
  unlocked := rfl
  nothingPending := by
    refine ⟨Cache.start usFlags, restingDevice_lags usFlags n size content, ?_⟩
    intro w hw
    rw [view_start, List.mem_singleton] at hw
    subst hw
    simp [restingDevice, DrvState.hostBit, newdataBit, newstatusBit]
  firmware := rfl

/-- The hand-over counts its entries as the bounded buffer does: what is filled is put in, what
is handed over is taken out. -/
structure HandsOver (x : CaptureState β) (n : ℕ) (f : Fifo (Handover β) n) : Prop where
  capacity : x.drv.ulDMABufferCount = n
  entries : f.entries = x.fw.filled
  taken : f.taken = x.drv.handed.length

/-- Only a flip of the firmware fills, and only the data callback hands over. -/
theorem captureStep_entries {x y : CaptureState β} {a : CaptureAction β}
    (h : captureStep x a = some y) :
    (y.fw.filled = x.fw.filled ∨ ∃ b, y.fw.filled = x.fw.filled ++ [b] ∧
      y.drv.handed = x.drv.handed) ∧
    (y.drv.handed = x.drv.handed ∨ ∃ b, y.drv.handed = x.drv.handed ++ [b] ∧
      y.fw.filled = x.fw.filled) ∧
    y.drv.ulDMABufferCount = x.drv.ulDMABufferCount := by
  cases a with
  | isr w =>
    cases h
    obtain ⟨hsame, -, -⟩ := isr_same w x.drv
    exact ⟨Or.inl rfl, Or.inl hsame.handed, hsame.count⟩
  | dsr c =>
    obtain ⟨t, ht, rfl⟩ := Option.map_eq_some_iff.mp h
    obtain ⟨hhanded, hcount, -⟩ := dsrStep_handed ht
    exact ⟨Or.inl rfl, hhanded.imp_right fun ⟨l, _, hb⟩ => ⟨_, hb, rfl⟩, hcount⟩
  | otherHostBit b =>
    rw [captureStep] at h
    split at h
    · cases h
    · obtain ⟨t, ht, rfl⟩ := Option.map_eq_some_iff.mp h
      have hsame := netanaTkitToggleBit_same ht
      exact ⟨Or.inl rfl, Or.inl hsame.handed, hsame.count⟩
  | flipBuffer =>
    rw [captureStep] at h
    split at h
    · cases h
      exact ⟨Or.inr ⟨_, rfl, rfl⟩, Or.inl rfl, rfl⟩
    · cases h
  | newStatus | otherNetxBit _ =>
    rw [captureStep] at h
    split at h
    · cases h
    · cases h
      exact ⟨Or.inl rfl, Or.inl rfl, rfl⟩
  | transfer _ | setSize _ | newData | setState _ _ =>
    rw [captureStep] at h
    split at h
    · cases h
      exact ⟨Or.inl rfl, Or.inl rfl, rfl⟩
    · cases h

theorem captureStep_is_fifoStep {early : Prop} {n : ℕ} (x : CaptureState β)
    (a : CaptureAction β) (y : CaptureState β) (f : Fifo (Handover β) n)
    (hR : CaptureInv early x ∧ HandsOver x n f) (ha : captureStep x a = some y) :
    ∃ bs g, StepRuns.run fifoStep f bs = some g ∧ CaptureInv early y ∧ HandsOver y n g := by
  obtain ⟨hinv, hf⟩ := hR
  have hinv' := captureStep_inv x a y hinv ha
  obtain ⟨hfilled, hhanded, hcount⟩ := captureStep_entries ha
  obtain ⟨-, -, r, v, c, hring, -⟩ := id hinv'
  obtain ⟨hr, hle, -⟩ := hring.handed_bounds
  have hfits := hring.bounds.2.2
  have hcapacity := hcount.trans hf.capacity
  rw [hcapacity] at hfits
  rcases hhanded with hsame | ⟨b, hb, hfill⟩
  · rcases hfilled with hfill | ⟨b, hb, -⟩
    · exact ⟨[], f, rfl, hinv', hcapacity, by rw [hfill, hf.entries], by rw [hsame, hf.taken]⟩
    · have hroom : f.entries.length < f.taken + n := by
        rw [hb, List.length_append, List.length_singleton, ← hf.entries] at hfits
        rw [hsame, ← hf.taken] at hr
        omega
      obtain ⟨g, hg, hentries, htaken⟩ := put_of_room b hroom
      refine ⟨[.put b], g, ?_, hinv', hcapacity, ?_, ?_⟩
      · rw [StepRuns.run_cons, fifoStep, hg]
        rfl
      · rw [hentries, hb, hf.entries]
      · rw [htaken, hsame, hf.taken]
  · have hpending : f.taken < f.entries.length := by
      rw [hb, List.length_append, List.length_singleton, hfill, ← hf.entries, ← hf.taken] at hle
      omega
    obtain ⟨g, hg, hentries, htaken⟩ := take_of_pending hpending
    refine ⟨[.take], g, ?_, hinv', hcapacity, ?_, ?_⟩
    · rw [StepRuns.run_cons, fifoStep, hg]
      rfl
    · rw [hentries, hfill, hf.entries]
    · rw [htaken, hb, List.length_append, List.length_singleton, hf.taken]

/-- Every capture is a run of a first-in first-out buffer with the capacity of the ring: what
the callback receives is what is taken out of it. -/
theorem capture_run_is_fifo_run {x y : CaptureState β} {as : List (CaptureAction β)}
    (h : CaptureStart x) (hrun : StepRuns.run captureStep x as = some y) :
    ∃ bs, ∃ g : Fifo (Handover β) x.drv.ulDMABufferCount,
      StepRuns.run fifoStep Fifo.empty bs = some g ∧
        g.entries = y.fw.filled ∧ g.received = y.drv.handed := by
  have hempty : HandsOver x x.drv.ulDMABufferCount Fifo.empty := by
    refine ⟨rfl, ?_, ?_⟩
    · rw [h.firmware]
      rfl
    · rw [h.handed]
      rfl
  obtain ⟨bs, g, hg, ⟨-, -, r, v, c, hring, -⟩, hf⟩ :=
    StepRuns.run_simulates captureStep_is_fifoStep ⟨h.inv, hempty⟩ hrun
  refine ⟨bs, g, hg, hf.entries, ?_⟩
  rw [Fifo.received, hf.entries, hf.taken]
  exact hring.handed_bounds.2.2.symm

end NetanaDriver
