import NetanaDriver.CaptureRing
import NetanaDriver.InevitableRuns

/-! One data pass of `netana_tkit_process` for any flag words and any sizes: the loop over the used
buffers (toolkit/netana_capture.c). -/
namespace NetanaDriver

open ToggleHandshake FlagRing InevitableRuns

variable {β : Type*}

/-- The DSR at the end of the loop's body. -/
def DsrPc.atAdvance : DsrPc → Bool
  | .advance _ => true
  | _ => false

/-- The step of the DSR thread, for its runs. -/
def dsrAct (s : DrvState β) (c : DsrChoice) : Option (DrvState β) := dsrStep c s

/-- The state counts for a turn of the loop. -/
def DrvState.endsTurn (s : DrvState β) : Bool := s.dsr.atAdvance

/-- The bits that differ in the two words of buffer flags. -/
def DrvState.usedFlags (s : DrvState β) : BitVec 32 := s.hostBufferFlags ^^^ s.netxBufferFlags

/-- What the data callback gets for the next `k` buffers: those whose size fits. -/
def DrvState.fitting (s : DrvState β) (k : ℕ) : List (Handover β) :=
  if s.pfnData then
    ((runCells s.ulDMABufferCount s.ulCurrentBuffer k).filter fun p =>
      s.aulUsedBufferSize p ≤ s.ulBufferSize p).map fun p =>
        ⟨p, s.aulUsedBufferSize p, s.pvBufferAddress p⟩
  else []

/-- `k` buffers from the current one on are freed, and those that fit are handed over. -/
structure Freed (s : DrvState β) (k : ℕ) (t : DrvState β) : Prop where
  host : ∀ p < 32, t.hostBufferFlags.getLsbD p = (s.hostBufferFlags.getLsbD p ^^
    decide (p ∈ runCells s.ulDMABufferCount s.ulCurrentBuffer k))
  current : t.ulCurrentBuffer = (s.ulCurrentBuffer + k) % s.ulDMABufferCount
  handed : t.handed = s.handed ++ s.fitting k

/-- In the loop `k` buffers are freed, and the first `h` buffers handed over. -/
structure PassAt (s : DrvState β) (k h : ℕ) (t : DrvState β) (l : ProcessLocals) : Prop where
  host : ∀ p < 32, t.hostBufferFlags.getLsbD p = (s.hostBufferFlags.getLsbD p ^^
    decide (p ∈ runCells s.ulDMABufferCount s.ulCurrentBuffer k))
  current : t.ulCurrentBuffer = (s.ulCurrentBuffer + k) % s.ulDMABufferCount
  handed : t.handed = s.handed ++ s.fitting h
  mask : l.ulBufferMask = 1#32 <<< t.ulCurrentBuffer
  used : ∀ p < 32, l.ulUsedBuffers.getLsbD p = (s.usedFlags.getLsbD p &&
    !decide (p ∈ runCells s.ulDMABufferCount s.ulCurrentBuffer k))
  sizes : t.aulUsedBufferSize = s.aulUsedBufferSize
  limits : t.ulBufferSize = s.ulBufferSize
  contents : t.pvBufferAddress = s.pvBufferAddress
  count : t.ulDMABufferCount = s.ulDMABufferCount
  callback : t.pfnData = s.pfnData
  lock : t.pvLock ≠ some true

theorem fitting_zero (s : DrvState β) : s.fitting 0 = [] := by
  rw [DrvState.fitting]
  split <;> rfl

/-- One more buffer is handed over if its size fits and there is a callback. -/
theorem fitting_succ (s : DrvState β) (k : ℕ) :
    let p := (s.ulCurrentBuffer + k) % s.ulDMABufferCount
    s.fitting (k + 1) = s.fitting k ++
      if s.pfnData = true ∧ s.aulUsedBufferSize p ≤ s.ulBufferSize p then
        [⟨p, s.aulUsedBufferSize p, s.pvBufferAddress p⟩] else [] := by
  intro p
  rw [DrvState.fitting, DrvState.fitting, runCells_succ, List.filter_append, List.map_append]
  cases s.pfnData with
  | false => simp
  | true =>
    by_cases hfit : s.aulUsedBufferSize p ≤ s.ulBufferSize p
    · simp [p, hfit]
    · simp [p, hfit]

/-- The driver-error bit does not touch what the pass works on, and leaves the lock free. -/
theorem netanaSignalDriverError_free (c : DsrChoice) {s : DrvState β} (h : s.pvLock ≠ some true) :
    ∃ t, netanaSignalDriverError c s = some t ∧ SameRing s t ∧ t.pvLock ≠ some true := by
  rw [netanaSignalDriverError]
  split
  · rw [netanaTkitToggleBit, osEnterLock, if_neg h]
    refine ⟨_, rfl, ⟨rfl, rfl, rfl, rfl, rfl, rfl, rfl, rfl, rfl⟩, ?_⟩
    show (Option.map _ (Option.map _ s.pvLock)) ≠ some true
    cases s.pvLock <;> simp
  · exact ⟨s, rfl, SameRing.refl s, h⟩

/-- A turn of the loop has ended, or the loop is entered. -/
def AtTest (s : DrvState β) (k : ℕ) (t : DrvState β) : Prop :=
  ∃ l, t.dsr = .testUsed l ∧ PassAt s k k t l

variable {s t : DrvState β} {k h : ℕ} {l : ProcessLocals}

theorem PassAt.of_same {u : DrvState β} (hat : PassAt s k h t l) (hsame : SameRing t u)
    (hlock : u.pvLock ≠ some true) : PassAt s k h u l := by
  refine ⟨?_, hsame.current.trans hat.current, hsame.handed.trans hat.handed, ?_, hat.used,
    hsame.sizes.trans hat.sizes, hsame.limits.trans hat.limits,
    hsame.contents.trans hat.contents, hsame.count.trans hat.count,
    hsame.callback.trans hat.callback, hlock⟩
  · rw [hsame.host]
    exact hat.host
  · rw [hsame.current]
    exact hat.mask

theorem DrvState.eq_at {pc : DsrPc} (hpc : t.dsr = pc) : t = { t with dsr := pc } := by
  rw [← hpc]

/-- The bit of the current buffer is flipped in the host's word and cleared in the copy, and the
ring position advances. -/
theorem PassAt.free (hat : PassAt s k (k + 1) t l) (hk : k < s.ulDMABufferCount)
    (hpc : t.dsr = .freeBuffer l) : Reaches dsrAct DrvState.endsTurn (AtTest s (k + 1)) 1 t := by
  have hn : 0 < s.ulDMABufferCount := by omega
  have hnew := next_not_mem_runCells (c := s.ulCurrentBuffer) hk
  have hcurrent : nextBuffer t.ulDMABufferCount t.ulCurrentBuffer =
      (s.ulCurrentBuffer + (k + 1)) % s.ulDMABufferCount := by
    rw [hat.count, hat.current, nextBuffer, next_mod hn, Nat.add_assoc]
  have hmask : l.ulBufferMask = 1#32 <<< ((s.ulCurrentBuffer + k) % s.ulDMABufferCount) := by
    rw [hat.mask, hat.current]
  have hmem (p : ℕ) : p ∈ runCells s.ulDMABufferCount s.ulCurrentBuffer (k + 1) ↔
      p ∈ runCells s.ulDMABufferCount s.ulCurrentBuffer k ∨
        p = (s.ulCurrentBuffer + k) % s.ulDMABufferCount := by
    rw [runCells_succ, List.mem_append, List.mem_singleton]
  rw [DrvState.eq_at hpc]
  refine .uncounted rfl fun _ => ⟨_, rfl, ?_⟩
  refine .uncounted rfl fun _ => ⟨_, rfl, ?_⟩
  refine .counted rfl fun _ => ⟨_, rfl, .here ⟨_, rfl, ?_⟩⟩
  refine ⟨fun p hp => ?_, hcurrent, hat.handed, rfl, fun p hp => ?_, hat.sizes, hat.limits,
    hat.contents, hat.count, hat.callback, hat.lock⟩
  · show (t.hostBufferFlags ^^^ l.ulBufferMask).getLsbD p = _
    rw [BitVec.getLsbD_xor, hat.host p hp, hmask, getLsbD_one_shiftLeft _ p hp, Bool.xor_assoc]
    congr 1
    by_cases hcell : p = (s.ulCurrentBuffer + k) % s.ulDMABufferCount
    · rw [hcell]
      simp [hmem, hnew]
    · simp [hmem, hcell]
  · show (l.ulUsedBuffers &&& ~~~l.ulBufferMask).getLsbD p = _
    rw [BitVec.getLsbD_and, BitVec.getLsbD_not, hat.used p hp, hmask,
      getLsbD_one_shiftLeft _ p hp, Bool.and_assoc]
    congr 1
    simp [hmem, hp]

/-- A buffer that is too large: the driver error is signalled, an active file capture ends. -/
theorem rejectBuffer_step (c : DsrChoice) (hpc : t.dsr = .rejectBuffer l)
    (hlock : t.pvLock ≠ some true) : ∃ u, dsrAct t c = some u ∧ u.dsr = .freeBuffer l ∧
      SameRing t u ∧ u.pvLock ≠ some true := by
  obtain ⟨u, hu, hsame, hfree⟩ := netanaSignalDriverError_free c hlock
  refine ⟨{ u with fWriteToFile := false, dsr := .freeBuffer l }, ?_, rfl, ⟨hsame.host, hsame.netx,
    hsame.sizes, hsame.limits, hsame.contents, hsame.count, hsame.current, hsame.callback,
    hsame.handed⟩, hfree⟩
  rw [dsrAct, dsrStep, hpc]
  simp only [hu, Option.map_some]

/-- The write to the file, which may be the one that ends the capture. -/
theorem writeFile_step (c : DsrChoice) (hpc : t.dsr = .writeFile l)
    (hlock : t.pvLock ≠ some true) : ∃ u, dsrAct t c = some u ∧ u.dsr = .callData l ∧
      SameRing t u ∧ u.pvLock ≠ some true := by
  rw [dsrAct, dsrStep, hpc]
  dsimp only
  split
  · obtain ⟨u, hu, hsame, hfree⟩ := netanaSignalDriverError_free c hlock
    refine ⟨{ u with fWriteToFile := false, dsr := .callData l }, ?_, rfl, ⟨hsame.host, hsame.netx,
      hsame.sizes, hsame.limits, hsame.contents, hsame.count, hsame.current, hsame.callback,
      hsame.handed⟩, hfree⟩
    rw [hu, Option.map_some]
  · exact ⟨_, rfl, rfl, (SameRing.refl t).moved _, hlock⟩

/-- The callback gets the current buffer. -/
theorem PassAt.call (hat : PassAt s k k t l) (hpc : t.dsr = .callData l)
    (hsize : l.ulUsedBufferSize = t.aulUsedBufferSize t.ulCurrentBuffer)
    (hfit : t.aulUsedBufferSize t.ulCurrentBuffer ≤ t.ulBufferSize t.ulCurrentBuffer)
    (hk : k < s.ulDMABufferCount) : Reaches dsrAct DrvState.endsTurn (AtTest s (k + 1)) 1 t := by
  have hhanded : (if t.pfnData then t.handed ++ [⟨t.ulCurrentBuffer, l.ulUsedBufferSize,
      t.pvBufferAddress t.ulCurrentBuffer⟩] else t.handed) = s.handed ++ s.fitting (k + 1) := by
    have hsucc := fitting_succ s k
    dsimp only at hsucc
    rw [← hat.current, ← hat.sizes, ← hat.limits, ← hat.contents, ← hat.callback] at hsucc
    rw [hsucc, hat.handed, hsize]
    cases t.pfnData with
    | false => simp
    | true => simp [hfit]
  rw [DrvState.eq_at hpc]
  refine .uncounted rfl fun _ => ⟨_, rfl, ?_⟩
  exact PassAt.free ⟨hat.host, hat.current, hhanded, hat.mask, hat.used, hat.sizes, hat.limits,
    hat.contents, hat.count, hat.callback, hat.lock⟩ hk rfl

/-- One turn of the loop: the current buffer is rejected or handed over, and then freed. -/
theorem PassAt.turn (hat : PassAt s k k t l) (hn : s.ulDMABufferCount ≤ 32)
    (hk : k < runLength s.usedFlags s.ulDMABufferCount s.ulCurrentBuffer)
    (hpc : t.dsr = .testUsed l) : Reaches dsrAct DrvState.endsTurn (AtTest s (k + 1)) 1 t := by
  have hkn : k < s.ulDMABufferCount := Nat.lt_of_lt_of_le hk (runLength_le _ _ _)
  have hcell : t.ulCurrentBuffer < 32 := by
    rw [hat.current]
    exact Nat.lt_of_lt_of_le (Nat.mod_lt _ (by omega)) hn
  -- the flags of the current buffer differ, and they are not yet cleared in the copy
  have hused : maskTest l.ulUsedBuffers l.ulBufferMask = true := by
    rw [hat.mask, maskTest_one_shiftLeft _ _ hcell, hat.used _ hcell, hat.current,
      getLsbD_of_lt_runLength hk, decide_eq_false (next_not_mem_runCells hkn)]
    rfl
  -- the size is read into a local
  have hat' : PassAt s k k t { l with
      ulUsedBufferSize := t.aulUsedBufferSize t.ulCurrentBuffer } :=
    ⟨hat.host, hat.current, hat.handed, hat.mask, hat.used, hat.sizes, hat.limits, hat.contents,
      hat.count, hat.callback, hat.lock⟩
  rw [DrvState.eq_at hpc]
  refine .uncounted rfl fun _ => ⟨_, rfl, ?_⟩
  rw [if_pos hused]
  refine .uncounted rfl fun _ => ⟨_, rfl, ?_⟩
  refine .uncounted rfl fun _ => ⟨_, rfl, ?_⟩
  let l' : ProcessLocals := { l with ulUsedBufferSize := t.aulUsedBufferSize t.ulCurrentBuffer }
  by_cases hsize : t.aulUsedBufferSize t.ulCurrentBuffer > t.ulBufferSize t.ulCurrentBuffer
  · rw [if_pos hsize]
    refine .uncounted rfl fun c => ?_
    obtain ⟨u, hu, hupc, hsame, hlock⟩ := rejectBuffer_step (l := l')
      (t := { t with dsr := .rejectBuffer l' }) c rfl hat.lock
    have hdrop : s.fitting (k + 1) = s.fitting k := by
      have hsucc := fitting_succ s k
      dsimp only at hsucc
      rw [← hat.current, ← hat.sizes, ← hat.limits, ← hat.contents, ← hat.callback] at hsucc
      rw [hsucc, if_neg fun hfit => absurd hsize (BitVec.not_lt.mpr hfit.2), List.append_nil]
    have hmoved := hat'.of_same ((SameRing.refl t).moved (.rejectBuffer l')) hat.lock
    have hatu := hmoved.of_same hsame hlock
    refine ⟨u, hu, PassAt.free ⟨hatu.host, hatu.current, ?_, hatu.mask, hatu.used, hatu.sizes,
      hatu.limits, hatu.contents, hatu.count, hatu.callback, hatu.lock⟩ hkn hupc⟩
    rw [hdrop]
    exact hatu.handed
  · rw [if_neg hsize]
    refine .uncounted rfl fun c => ?_
    obtain ⟨u, hu, hupc, hsame, hlock⟩ := writeFile_step (l := l')
      (t := { t with dsr := .writeFile l' }) c rfl hat.lock
    have hmoved := hat'.of_same ((SameRing.refl t).moved (.writeFile l')) hat.lock
    have hatu := hmoved.of_same hsame hlock
    refine ⟨u, hu, hatu.call hupc ?_ ?_ hkn⟩
    · rw [hsame.sizes, hsame.current]
    · rw [hsame.sizes, hsame.limits, hsame.current]
      exact BitVec.not_lt.mp hsize

/-- The copy has no flag at the end of the run: either it was clear or its buffer is freed. -/
theorem PassAt.stop (hat : PassAt s k k t l) (hn : s.ulDMABufferCount ≤ 32)
    (hpos : 0 < s.ulDMABufferCount)
    (hk : k = runLength s.usedFlags s.ulDMABufferCount s.ulCurrentBuffer) :
    maskTest l.ulUsedBuffers l.ulBufferMask = false := by
  have hcell : t.ulCurrentBuffer < 32 := by
    rw [hat.current]
    exact Nat.lt_of_lt_of_le (Nat.mod_lt _ hpos) hn
  rw [hat.mask, maskTest_one_shiftLeft _ _ hcell, hat.used _ hcell, hat.current]
  rcases Nat.lt_or_eq_of_le (runLength_le s.usedFlags s.ulDMABufferCount s.ulCurrentBuffer)
    with hless | hfull
  · rw [hk, getLsbD_runLength hless]
    rfl
  · rw [hk, hfull, decide_eq_true (next_mem_runCells hpos)]
    exact Bool.and_false _

/-- The loop takes one turn for each flag of the run and then ends. -/
theorem PassAt.loop (hat : PassAt s k k t l) (hn : s.ulDMABufferCount ≤ 32)
    (hpos : 0 < s.ulDMABufferCount)
    (hk : k ≤ runLength s.usedFlags s.ulDMABufferCount s.ulCurrentBuffer)
    (hpc : t.dsr = .testUsed l) :
    Reaches dsrAct DrvState.endsTurn
      (fun u => (∃ l', u.dsr = .testNewStatus l') ∧
        Freed s (runLength s.usedFlags s.ulDMABufferCount s.ulCurrentBuffer) u)
      (runLength s.usedFlags s.ulDMABufferCount s.ulCurrentBuffer - k) t := by
  induction hleft : runLength s.usedFlags s.ulDMABufferCount s.ulCurrentBuffer - k
    generalizing k t l with
  | zero =>
    have heq : k = runLength s.usedFlags s.ulDMABufferCount s.ulCurrentBuffer := by omega
    have hstop := hat.stop hn hpos heq
    rw [DrvState.eq_at hpc]
    refine .uncounted rfl fun _ => ⟨_, rfl, .here ⟨⟨l, ?_⟩, ?_⟩⟩
    · dsimp only
      rw [hstop]
      rfl
    · rw [← heq]
      exact ⟨hat.host, hat.current, hat.handed⟩
  | succ m ih =>
    have hmore : k < runLength s.usedFlags s.ulDMABufferCount s.ulCurrentBuffer := by omega
    have hturn := hat.turn hn hmore hpc
    rw [Nat.add_comm]
    refine hturn.trans fun u ⟨l', hupc, hu⟩ => ?_
    exact ih hu (by omega) hupc (by omega)

theorem enterData_step (c : DsrChoice) (hpc : t.dsr = .toggleData .enterLock l)
    (hlock : t.pvLock ≠ some true) : dsrAct t c = some { t with
      pvLock := t.pvLock.map fun _ => true
      usedDeleted := t.usedDeleted || t.pvLock.isNone
      dsr := .toggleData .xorHost l } := by
  rw [dsrAct, dsrStep, hpc]
  simp only [toggleStep, osEnterLock, if_neg hlock, Option.map_some]

/-- The pass acknowledges the indication. -/
theorem toggleData_reaches (hpc : t.dsr = .toggleData .enterLock l) (hlock : t.pvLock ≠ some true) :
    Reaches dsrAct DrvState.endsTurn
      (fun u => u.dsr = .readBufferFlags l ∧ SameRing t u ∧ u.pvLock ≠ some true) 0 t := by
  have hleft : (Option.map (fun _ => false) (Option.map (fun _ => true) t.pvLock)) ≠ some true := by
    cases t.pvLock <;> simp
  have hno : t.endsTurn = false := by
    rw [DrvState.endsTurn, hpc]
    rfl
  refine .uncounted hno fun c => ⟨_, enterData_step c hpc hlock, ?_⟩
  refine .uncounted rfl fun _ => ⟨_, rfl, ?_⟩
  refine .uncounted rfl fun _ => ⟨_, rfl, ?_⟩
  refine .uncounted rfl fun _ => ⟨_, rfl, .here ⟨rfl, ?_, hleft⟩⟩
  exact ⟨rfl, rfl, rfl, rfl, rfl, rfl, rfl, rfl, rfl⟩

/-- The copy of the flags is taken. -/
theorem readBufferFlags_reaches (hpc : t.dsr = .readBufferFlags l) (hsame : SameRing s t)
    (hmask : l.ulBufferMask = 1#32 <<< s.ulCurrentBuffer) (hlock : t.pvLock ≠ some true)
    (hcurrent : s.ulCurrentBuffer < s.ulDMABufferCount) :
    Reaches dsrAct DrvState.endsTurn (AtTest s 0) 0 t := by
  have hempty (p : ℕ) : p ∉ runCells s.ulDMABufferCount s.ulCurrentBuffer 0 := List.not_mem_nil
  rw [DrvState.eq_at hpc]
  refine .uncounted rfl fun _ => ⟨_, rfl, .here ⟨_, rfl, ?_⟩⟩
  refine ⟨fun p _ => ?_, ?_, ?_, ?_, fun p _ => ?_, hsame.sizes, hsame.limits, hsame.contents,
    hsame.count, hsame.callback, hlock⟩
  · rw [decide_eq_false (hempty p), Bool.xor_false, ← hsame.host]
  · show t.ulCurrentBuffer = _
    rw [hsame.current, Nat.add_zero, Nat.mod_eq_of_lt hcurrent]
  · show t.handed = _
    rw [fitting_zero, List.append_nil, hsame.handed]
  · show l.ulBufferMask = 1#32 <<< t.ulCurrentBuffer
    rw [hmask, hsame.current]
  · show (t.hostBufferFlags ^^^ t.netxBufferFlags).getLsbD p = _
    rw [decide_eq_false (hempty p), hsame.host, hsame.netx]
    exact (Bool.and_true _).symm

/-- With a pending data indication the pass comes to its loop. -/
theorem process_reaches_loop (hpc : s.dsr = .processStart)
    (hdata : (s.ulNetxFlags ^^^ s.ulHostFlags).getLsbD newdataBit = true)
    (hlock : s.pvLock ≠ some true) (hcurrent : s.ulCurrentBuffer < s.ulDMABufferCount) :
    Reaches dsrAct DrvState.endsTurn (AtTest s 0) 0 s := by
  have htest : maskTest (s.ulNetxFlags ^^^ s.ulHostFlags) (1#32 <<< newdataBit) = true := by
    rw [maskTest_one_shiftLeft _ newdataBit (by decide)]
    exact hdata
  let l : ProcessLocals :=
    ⟨s.ulNetxFlags ^^^ s.ulHostFlags, 1#32 <<< s.ulCurrentBuffer, 0#32, 0#32⟩
  have htoggle := toggleData_reaches (l := l)
    (t := { s with dsr := .toggleData .enterLock l }) rfl hlock
  have hloop := htoggle.trans fun u ⟨hupc, hsame, hfree⟩ =>
    readBufferFlags_reaches (s := s) hupc
      ⟨hsame.host, hsame.netx, hsame.sizes, hsame.limits, hsame.contents, hsame.count,
        hsame.current, hsame.callback, hsame.handed⟩ rfl hfree hcurrent
  have hno : s.endsTurn = false := by
    rw [DrvState.endsTurn, hpc]
    rfl
  refine .uncounted hno fun _ => ⟨{ s with
    dsr := .testNewData ⟨s.ulNetxFlags ^^^ s.ulHostFlags, 0#32, 0#32, 0#32⟩ }, ?_, ?_⟩
  · rw [dsrAct, dsrStep, hpc]
  · refine .uncounted rfl fun _ => ⟨_, rfl, ?_⟩
    rw [if_pos htest]
    exact hloop

/-- A data pass ends after one turn for each flag of the run of differing flags at the current
buffer. It frees exactly these buffers and hands those that fit over in ring order; flags above the
ring are without effect. -/
theorem process_data_pass (hpc : s.dsr = .processStart)
    (hdata : (s.ulNetxFlags ^^^ s.ulHostFlags).getLsbD newdataBit = true)
    (hlock : s.pvLock ≠ some true) (hn : s.ulDMABufferCount ≤ 32)
    (hcurrent : s.ulCurrentBuffer < s.ulDMABufferCount) (c : ℕ → DsrChoice) :
    ∃ k m t l,
      k ≤ s.ulDMABufferCount ∧
      (∀ j < k, s.usedFlags.getLsbD ((s.ulCurrentBuffer + j) % s.ulDMABufferCount) = true) ∧
      (k < s.ulDMABufferCount →
        s.usedFlags.getLsbD ((s.ulCurrentBuffer + k) % s.ulDMABufferCount) = false) ∧
      (∀ u : BitVec 32, (∀ p < s.ulDMABufferCount, u.getLsbD p = s.usedFlags.getLsbD p) →
        runLength u s.ulDMABufferCount s.ulCurrentBuffer = k) ∧
      StepRuns.run dsrAct s ((List.range m).map c) = some t ∧
      turns dsrAct DrvState.endsTurn s ((List.range m).map c) = k ∧
      t.dsr = .testNewStatus l ∧ Freed s k t := by
  have hpos : 0 < s.ulDMABufferCount := by omega
  have hreach := (process_reaches_loop hpc hdata hlock hcurrent).trans fun t ⟨l, htpc, hat⟩ =>
    hat.loop hn hpos (Nat.zero_le _) htpc
  obtain ⟨m, t, hrun, hturns, ⟨l, htpc⟩, hfreed⟩ := hreach.run c
  rw [Nat.zero_add, Nat.sub_zero] at hturns
  exact ⟨_, m, t, l, runLength_le _ _ _, fun j hj => getLsbD_of_lt_runLength hj,
    getLsbD_runLength, fun u hu => runLength_congr hpos hu, hrun, hturns, htpc, hfreed⟩

/-- A ring of four buffers, at its third one; the flags of all but the second one differ, and one
flag above the ring. The fourth buffer states more bytes than it has. -/
def threeUsed : DrvState ℕ :=
  { restingDevice 0#16 4 64#32 fun p => p with
    dsr := .processStart
    ulNetxFlags := 1#32
    netxBufferFlags := 0x8000000D#32
    aulUsedBufferSize := fun p => if p = 3 then 65#32 else 64#32
    ulCurrentBuffer := 2 }

theorem process_data_pass_three :
    ∃ m t, StepRuns.run dsrAct threeUsed ((List.range m).map fun _ => ⟨true, true⟩) = some t ∧
      turns dsrAct DrvState.endsTurn threeUsed ((List.range m).map fun _ => ⟨true, true⟩) = 3 ∧
      t.ulCurrentBuffer = 1 ∧ t.handed = [⟨2, 64#32, 2⟩, ⟨0, 64#32, 0⟩] := by
  obtain ⟨k, m, t, l, -, -, -, hk, hrun, hturns, -, hfreed⟩ := process_data_pass (s := threeUsed)
    rfl (by decide) (by decide) (by decide) (by decide) fun _ => ⟨true, true⟩
  have hthree : 3 = k := by
    rw [← hk threeUsed.usedFlags fun p _ => rfl]
    decide
  subst hthree
  exact ⟨m, t, hrun, hturns, hfreed.current, hfreed.handed⟩

end NetanaDriver
