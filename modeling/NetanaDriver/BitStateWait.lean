import NetanaDriver.HandshakeThreads
import NetanaDriver.WrappingClock

/-! `netana_tkit_WaitForBitState` (toolkit/netana_functions.c) pass by pass, with the counter it
reads and whatever wakes it up. -/
namespace NetanaDriver
open ToggleHandshake WrappingClock

/-- What a pass finds when `OS_WaitEvent` has returned, for whatever reason: the time that has gone
by since the start of the wait, and then the flags. -/
structure Wakeup where
  elapsed : ℕ
  ulHostFlags : BitVec 32
  ulNetxFlags : BitVec 32

/-- A call of `netana_tkit_WaitForBitState`, with the flags it finds at its entry, the time at
which its wait starts, and its wake-ups. -/
structure BitWait where
  ulBit : ℕ
  bState : BitState
  ulTimeout : BitVec 32
  ulHostFlags : BitVec 32
  ulNetxFlags : BitVec 32
  start : ℕ
  wake : ℕ → Wakeup

/-- The locals of the loop; `iRet` once the call has returned. -/
structure WaitLocals where
  ulInternalTimeout : BitVec 32
  iRet : Option Bool
  -- history: the timeouts passed to OS_WaitEvent
  waits : List (BitVec 32)

/-- The checks before the loop. -/
def waitEntry (w : BitWait) : WaitLocals where
  ulInternalTimeout := w.ulTimeout
  iRet :=
    if getHskBitState w.ulHostFlags w.ulNetxFlags (1#32 <<< w.ulBit) w.bState = w.bState then
      some true
    -- a timeout of zero asks for the state once, without waiting
    else if 0#32 = w.ulTimeout then some false
    else none
  waits := []

/-- One pass of the loop, with the time it has measured. -/
def waitPass (w : BitWait) (ulDiffTime : BitVec 32) (k : Wakeup) (s : WaitLocals) : WaitLocals :=
  match s.iRet with
  | some _ => s
  | none =>
    -- the difference is used by the next wait only, if there is one
    { ulInternalTimeout := w.ulTimeout - ulDiffTime
      iRet :=
        if getHskBitState k.ulHostFlags k.ulNetxFlags (1#32 <<< w.ulBit) w.bState = w.bState then
          some true
        else if ulDiffTime > w.ulTimeout then some false
        else none
      waits := s.waits ++ [s.ulInternalTimeout] }

/-- `netana_tkit_WaitForBitState` after at most `n` passes; `counter` is what
`OS_GetMilliSecCounter` returns at a time. -/
def netanaTkitWaitForBitState (counter : ℕ → BitVec 32) (w : BitWait) : ℕ → WaitLocals
  | 0 => waitEntry w
  | n + 1 => waitPass w (counter (w.start + (w.wake n).elapsed) - counter w.start) (w.wake n)
      (netanaTkitWaitForBitState counter w n)

/-- A pass goes on, or returns, as the statement after `OS_WaitEvent` does that leaves the
comparison of the times to a choice. -/
theorem waitPass_checkAgain {β : Type*} (w : BitWait) (ulDiffTime : BitVec 32) (k : Wakeup)
    (s : WaitLocals) (d : DrvState β) (fGiveUp : Bool) (hs : s.iRet = none)
    (hhost : d.ulHostFlags = k.ulHostFlags) (hnetx : d.ulNetxFlags = k.ulNetxFlags) :
    waitStep w.ulBit w.bState w.ulTimeout ⟨fGiveUp, decide (ulDiffTime > w.ulTimeout)⟩
      .checkAgain d =
      some (d, (waitPass w ulDiffTime k s).iRet.elim (.goto .waitEvent) .ret) := by
  rw [waitStep, waitPass, hs, DrvState.bitStateIs, hhost, hnetx]
  by_cases hstate :
      getHskBitState k.ulHostFlags k.ulNetxFlags (1#32 <<< w.ulBit) w.bState = w.bState
  · simp [hstate]
  · by_cases hexpired : ulDiffTime > w.ulTimeout
    · simp [hstate, hexpired]
    · simp [hstate, hexpired]

/-- The meaning of a requested bit state. -/
def bitHolds (ulHostFlags ulNetxFlags : BitVec 32) (b : ℕ) : BitState → Prop
  | .set => ulNetxFlags.getLsbD b = true
  | .clear => ulNetxFlags.getLsbD b = false
  | .equal => ulNetxFlags.getLsbD b = ulHostFlags.getLsbD b
  | .unequal => ulNetxFlags.getLsbD b ≠ ulHostFlags.getLsbD b

def BitWait.holdsAtEntry (w : BitWait) : Prop :=
  bitHolds w.ulHostFlags w.ulNetxFlags w.ulBit w.bState

def BitWait.holdsAt (w : BitWait) (k : ℕ) : Prop :=
  bitHolds (w.wake k).ulHostFlags (w.wake k).ulNetxFlags w.ulBit w.bState

/-- The mask tests the bit also where it is shifted out. -/
theorem maskTest_shifted {n : ℕ} (w : BitVec n) (b : ℕ) :
    maskTest w (1#n <<< b) = w.getLsbD b := by
  by_cases hb : b < n
  · exact maskTest_one_shiftLeft w b hb
  · have hzero : 1#n <<< b = 0#n := BitVec.shiftLeft_eq_zero (not_lt.mp hb)
    have hout : w.getLsbD b = false := BitVec.getLsbD_of_ge w b (not_lt.mp hb)
    rw [hzero, hout, maskTest, BitVec.and_zero]
    simp

theorem getHskBitState_iff (h n : BitVec 32) (b : ℕ) (bState : BitState) :
    getHskBitState h n (1#32 <<< b) bState = bState ↔ bitHolds h n b bState := by
  cases bState with
  | set | clear =>
    rw [getHskBitState, maskTest_shifted, bitHolds]
    cases n.getLsbD b <;> simp
  | equal | unequal =>
    simp only [getHskBitState, maskTest_shifted, bitHolds, BitVec.getLsbD_xor]
    cases n.getLsbD b <;> cases h.getLsbD b <;> simp

/-- What is so after any number of passes. -/
structure WaitInv (w : BitWait) (diff : ℕ → BitVec 32) (n : ℕ) (s : WaitLocals) : Prop where
  internal : s.iRet = none → s.ulInternalTimeout ≤ w.ulTimeout
  bounded : ∀ t ∈ s.waits, t ≤ w.ulTimeout
  running : s.iRet = none → s.waits.length = n ∧ ¬ w.holdsAtEntry ∧ w.ulTimeout ≠ 0#32 ∧
    ∀ k < n, ¬ w.holdsAt k ∧ diff k ≤ w.ulTimeout
  found : s.iRet = some true → w.holdsAtEntry ∨ ∃ k < s.waits.length, w.holdsAt k
  lost : s.iRet = some false → ¬ w.holdsAtEntry ∧ (∀ k < s.waits.length, ¬ w.holdsAt k) ∧
    (w.ulTimeout = 0#32 ∨ ∃ k, k + 1 = s.waits.length ∧ w.ulTimeout < diff k)
  immediate : w.ulTimeout = 0#32 → s.waits = []

theorem waitEntry_inv (w : BitWait) (diff : ℕ → BitVec 32) : WaitInv w diff 0 (waitEntry w) := by
  have hentry := getHskBitState_iff w.ulHostFlags w.ulNetxFlags w.ulBit w.bState
  refine ⟨fun _ => BitVec.le_refl _, ?_, ?_, ?_, ?_, fun _ => rfl⟩
  · intro t ht
    cases ht
  · intro hrun
    rw [waitEntry] at hrun
    dsimp only at hrun
    split at hrun
    · cases hrun
    · rename_i hnot
      split at hrun
      · cases hrun
      · rename_i htimeout
        refine ⟨rfl, fun h => hnot (hentry.mpr h), fun h => htimeout h.symm, ?_⟩
        intro k hk
        omega
  · intro hrun
    rw [waitEntry] at hrun
    dsimp only at hrun
    split at hrun
    · rename_i hyes
      exact Or.inl (hentry.mp hyes)
    · split at hrun <;> cases hrun
  · intro hrun
    rw [waitEntry] at hrun
    dsimp only at hrun
    split at hrun
    · cases hrun
    · rename_i hnot
      split at hrun
      · rename_i htimeout
        refine ⟨fun h => hnot (hentry.mpr h), ?_, Or.inl htimeout.symm⟩
        intro k hk
        cases hk
      · cases hrun

theorem WaitInv.pass {w : BitWait} {diff : ℕ → BitVec 32} {n : ℕ} {s : WaitLocals}
    (hi : WaitInv w diff n s) :
    WaitInv w diff (n + 1) (waitPass w (diff n) (w.wake n) s) := by
  cases hret : s.iRet with
  | some iRet =>
    have hsame : waitPass w (diff n) (w.wake n) s = s := by
      rw [waitPass, hret]
    rw [hsame]
    exact ⟨hi.internal, hi.bounded, fun h => absurd h (by rw [hret]; simp), hi.found, hi.lost,
      hi.immediate⟩
  | none =>
    -- the call is still in its loop, so no pass so far has seen the state or come too late
    obtain ⟨hlen, hentry, htimeout, hpast⟩ := hi.running hret
    have hcheck := getHskBitState_iff (w.wake n).ulHostFlags (w.wake n).ulNetxFlags w.ulBit
      w.bState
    have hwaits : (waitPass w (diff n) (w.wake n) s).waits = s.waits ++ [s.ulInternalTimeout] := by
      rw [waitPass, hret]
    have hinternal : (waitPass w (diff n) (w.wake n) s).ulInternalTimeout =
        w.ulTimeout - diff n := by
      rw [waitPass, hret]
    have hiRet : (waitPass w (diff n) (w.wake n) s).iRet =
        if getHskBitState (w.wake n).ulHostFlags (w.wake n).ulNetxFlags (1#32 <<< w.ulBit)
          w.bState = w.bState then some true
        else if diff n > w.ulTimeout then some false else none := by
      rw [waitPass, hret]
    have hlen' : (waitPass w (diff n) (w.wake n) s).waits.length = n + 1 := by
      rw [hwaits, List.length_append, hlen]
      rfl
    -- a pass that goes on has not found the state, and is in time
    have hnone : (waitPass w (diff n) (w.wake n) s).iRet = none →
        ¬ w.holdsAt n ∧ diff n ≤ w.ulTimeout := by
      intro h
      rw [hiRet] at h
      split at h
      · cases h
      · rename_i hnot
        split at h
        · cases h
        · rename_i hlate
          exact ⟨fun hold => hnot (hcheck.mpr hold), BitVec.not_lt.mp hlate⟩
    refine ⟨?_, ?_, ?_, ?_, ?_, fun h => absurd h htimeout⟩
    · intro h
      -- in time, so the subtraction does not wrap
      rw [hinternal, BitVec.le_def, BitVec.toNat_sub_of_le (hnone h).2]
      omega
    · intro t ht
      rw [hwaits] at ht
      rcases List.mem_append.mp ht with ht | ht
      · exact hi.bounded t ht
      · rw [List.mem_singleton.mp ht]
        exact hi.internal hret
    · intro h
      refine ⟨hlen', hentry, htimeout, fun k hk => ?_⟩
      rcases Nat.lt_succ_iff_lt_or_eq.mp hk with hk | rfl
      · exact hpast k hk
      · exact hnone h
    · intro h
      rw [hiRet] at h
      split at h
      · rename_i hyes
        exact Or.inr ⟨n, by omega, hcheck.mp hyes⟩
      · split at h <;> cases h
    · intro h
      rw [hiRet] at h
      split at h
      · cases h
      · rename_i hnot
        split at h
        · rename_i hlate
          refine ⟨hentry, fun k hk => ?_, Or.inr ⟨n, hlen'.symm, hlate⟩⟩
          rw [hlen'] at hk
          rcases Nat.lt_succ_iff_lt_or_eq.mp hk with hk | rfl
          · exact (hpast k hk).1
          · exact fun hold => hnot (hcheck.mpr hold)
        · cases h

theorem wait_inv (counter : ℕ → BitVec 32) (w : BitWait) (n : ℕ) :
    WaitInv w (fun k => counter (w.start + (w.wake k).elapsed) - counter w.start) n
      (netanaTkitWaitForBitState counter w n) := by
  induction n with
  | zero => exact waitEntry_inv w _
  | succ n ih => exact ih.pass

/-- With a counter of milliseconds that turns over at 32 bits. -/
theorem wait_for_bit_state_exact (w : BitWait) :
    (∀ n, ((netanaTkitWaitForBitState (reading 32) w n).iRet = some true ↔
          w.holdsAtEntry ∨ ∃ k < (netanaTkitWaitForBitState (reading 32) w n).waits.length,
            w.holdsAt k) ∧
        (∀ t ∈ (netanaTkitWaitForBitState (reading 32) w n).waits, t ≤ w.ulTimeout) ∧
        (0#32 < w.ulTimeout → (netanaTkitWaitForBitState (reading 32) w n).iRet = some false →
          ∃ k, k + 1 = (netanaTkitWaitForBitState (reading 32) w n).waits.length ∧
            w.ulTimeout.toNat < (w.wake k).elapsed) ∧
        (w.ulTimeout = 0#32 → (netanaTkitWaitForBitState (reading 32) w n).waits = [])) ∧
      ((∃ n iRet, (netanaTkitWaitForBitState (reading 32) w n).iRet = some iRet) ∨
        ∀ k, ¬ w.holdsAt k ∧ (w.wake k).elapsed % 2 ^ 32 ≤ w.ulTimeout.toNat) := by
  constructor
  · intro n
    have hi := wait_inv (reading 32) w n
    refine ⟨⟨hi.found, ?_⟩, hi.bounded, ?_, hi.immediate⟩
    · intro hold
      cases hret : (netanaTkitWaitForBitState (reading 32) w n).iRet with
      | none =>
        obtain ⟨hlen, hentry, -, hpast⟩ := hi.running hret
        rcases hold with hold | ⟨k, hk, hold⟩
        · exact absurd hold hentry
        · exact absurd hold (hpast k (by omega)).1
      | some iRet =>
        cases iRet with
        | true => rfl
        | false =>
          obtain ⟨hentry, hpast, -⟩ := hi.lost hret
          rcases hold with hold | ⟨k, hk, hold⟩
          · exact absurd hold hentry
          · exact absurd hold (hpast k hk)
    · intro hpos hret
      obtain ⟨-, -, hzero | ⟨k, hk, hlate⟩⟩ := hi.lost hret
      · rw [hzero] at hpos
        exact absurd hpos (by decide)
      · -- a difference of readings is never more than the time that has gone by
        exact ⟨k, hk, hlate.trans_le (toNat_sub_reading_le 32 _ _)⟩
  · by_cases hreturns : ∃ n iRet, (netanaTkitWaitForBitState (reading 32) w n).iRet = some iRet
    · exact Or.inl hreturns
    · right
      intro k
      have hrun : (netanaTkitWaitForBitState (reading 32) w (k + 1)).iRet = none := by
        cases hret : (netanaTkitWaitForBitState (reading 32) w (k + 1)).iRet with
        | none => rfl
        | some iRet => exact absurd ⟨k + 1, iRet, hret⟩ hreturns
      obtain ⟨-, -, -, hpast⟩ := (wait_inv (reading 32) w (k + 1)).running hrun
      obtain ⟨hnot, htime⟩ := hpast k (Nat.lt_succ_self k)
      rw [BitVec.le_def, toNat_sub_reading] at htime
      exact ⟨hnot, htime⟩

end NetanaDriver
