import NetanaDriver.BitStateWait
import NetanaDriver.SystemMailbox

/-! The millisecond counter of the driver (OS_Linux.c) and the loops that measure their timeouts
with it. -/
namespace NetanaDriver
open WrappingClock ToggleHandshake

/-- `OS_GetMilliSecCounter`, for the low 32 bits of `jiffies`. -/
def osGetMilliSecCounter (HZ : ℕ) (curjiffies : BitVec 32) : BitVec 32 :=
  curjiffies * 1000#32 / BitVec.ofNat 32 HZ

/-- The counter at a time in ticks. -/
def tickCounter (HZ t : ℕ) : BitVec 32 := osGetMilliSecCounter HZ (BitVec.ofNat 32 t)

/-- The product of the counter does not wrap around in the next `d` ticks. -/
def ProductKept (curjiffies : BitVec 32) (d : ℕ) : Prop :=
  (curjiffies * 1000#32).toNat + 1000 * d < 2 ^ 32

/-- What the two readings round off does not add up to one more millisecond. -/
def Uncarried (HZ : ℕ) (curjiffies : BitVec 32) (d : ℕ) : Prop :=
  (curjiffies * 1000#32).toNat % HZ + 1000 * d % HZ < HZ

/-- Nothing is rounded off where a tick takes whole milliseconds. -/
theorem uncarried_of_dvd {HZ : ℕ} (hpos : 0 < HZ) (hdvd : HZ ∣ 1000) (j : BitVec 32) (d : ℕ) :
    Uncarried HZ j d := by
  have hzero : 1000 * d % HZ = 0 := Nat.mod_eq_zero_of_dvd (hdvd.mul_right d)
  rw [Uncarried, hzero, Nat.add_zero]
  exact Nat.mod_lt _ hpos

theorem toNat_osGetMilliSecCounter {HZ : ℕ} (hHZ : HZ < 2 ^ 32) (j : BitVec 32) :
    (osGetMilliSecCounter HZ j).toNat = (j * 1000#32).toNat / HZ := by
  rw [osGetMilliSecCounter, BitVec.toNat_udiv, BitVec.toNat_ofNat, Nat.mod_eq_of_lt hHZ]

theorem toNat_product_add (j : BitVec 32) (d : ℕ) :
    ((j + BitVec.ofNat 32 d) * 1000#32).toNat =
      ((j * 1000#32).toNat + 1000 * d) % 2 ^ 32 := by
  rw [BitVec.add_mul, BitVec.toNat_add, BitVec.toNat_mul (BitVec.ofNat 32 d), BitVec.toNat_ofNat,
    BitVec.toNat_ofNat]
  omega

/-- A difference of readings, in terms of the product at the first one. -/
theorem toNat_counter_sub {HZ : ℕ} (hHZ : HZ < 2 ^ 32) (j : BitVec 32) (d : ℕ) :
    (osGetMilliSecCounter HZ (j + BitVec.ofNat 32 d) - osGetMilliSecCounter HZ j).toNat =
      (((j * 1000#32).toNat + 1000 * d) % 2 ^ 32 / HZ +
        (2 ^ 32 - (j * 1000#32).toNat / HZ)) % 2 ^ 32 := by
  rw [BitVec.toNat_sub, toNat_osGetMilliSecCounter hHZ, toNat_osGetMilliSecCounter hHZ,
    toNat_product_add, Nat.add_comm]

theorem counter_near_iff {HZ : ℕ} (hlow : 12 ≤ HZ) (hhigh : HZ < 12288) (j : BitVec 32) {d : ℕ}
    (hd : 1000 * d / HZ < 2 ^ 31) :
    Near HZ (1000 * d)
      (osGetMilliSecCounter HZ (j + BitVec.ofNat 32 d) - osGetMilliSecCounter HZ j).toNat ↔
      ProductKept j d := by
  have hx : 1000 * d < 2 ^ 31 * HZ := (Nat.div_lt_iff_lt_mul (by omega)).mp hd
  rw [toNat_counter_sub (by omega), ProductKept]
  exact near_iff_of_scaled (BitVec.isLt _) (by omega) (by omega) (by omega)

/-- Without a wrap the difference is right for any number of ticks. -/
theorem counter_near {HZ : ℕ} (hlow : 12 ≤ HZ) (hhigh : HZ < 12288) {t d : ℕ}
    (hkept : ProductKept (BitVec.ofNat 32 t) d) :
    Near HZ (1000 * d) (tickCounter HZ (t + d) - tickCounter HZ t).toNat := by
  have hadd : BitVec.ofNat 32 (t + d) = BitVec.ofNat 32 t + BitVec.ofNat 32 d :=
    BitVec.ofNat_add t d
  have hd : 1000 * d / HZ < 2 ^ 31 := by
    have hlt : 1000 * d < 2 ^ 32 := by
      rw [ProductKept] at hkept
      omega
    rw [Nat.div_lt_iff_lt_mul (by omega)]
    omega
  rw [tickCounter, tickCounter, hadd]
  exact (counter_near_iff hlow hhigh _ hd).mpr hkept

/-- Without a wrap the difference does not exceed the time exactly where nothing is carried. -/
theorem counter_le_iff {HZ : ℕ} (hlow : 12 ≤ HZ) (hhigh : HZ < 12288) {t d : ℕ}
    (hkept : ProductKept (BitVec.ofNat 32 t) d) :
    (tickCounter HZ (t + d) - tickCounter HZ t).toNat * HZ ≤ 1000 * d ↔
      Uncarried HZ (BitVec.ofNat 32 t) d := by
  have hadd : BitVec.ofNat 32 (t + d) = BitVec.ofNat 32 t + BitVec.ofNat 32 d :=
    BitVec.ofNat_add t d
  rw [tickCounter, tickCounter, hadd, toNat_counter_sub (by omega), Uncarried,
    ← sub_div_mul_le_iff (by omega)]
  rw [ProductKept] at hkept
  generalize (BitVec.ofNat 32 t * 1000#32).toNat = m at hkept ⊢
  have hle : m / HZ ≤ (m + 1000 * d) / HZ := Nat.div_le_div_right (Nat.le_add_right _ _)
  have hlt : (m + 1000 * d) / HZ ≤ m + 1000 * d := Nat.div_le_self _ _
  have hdiff : ((m + 1000 * d) / HZ + (2 ^ 32 - m / HZ)) % 2 ^ 32 =
      (m + 1000 * d) / HZ - m / HZ := by
    generalize (m + 1000 * d) / HZ = b at hle hlt ⊢
    generalize m / HZ = a at hle ⊢
    omega
  rw [Nat.mod_eq_of_lt hkept, hdiff]

/-- A difference above the timeout means that the timeout has elapsed. -/
theorem elapsed_of_near {HZ d ulTimeout diff : ℕ} (h : Near HZ (1000 * d) diff)
    (hlate : ulTimeout < diff) : ulTimeout * HZ ≤ 1000 * d := by
  -- a reading is rounded down, so one millisecond more has to show
  have hmore : ulTimeout * HZ + HZ ≤ 1000 * d + HZ :=
    calc
      ulTimeout * HZ + HZ = (ulTimeout + 1) * HZ := (Nat.succ_mul ulTimeout HZ).symm
      _ ≤ diff * HZ := Nat.mul_le_mul_right HZ hlate
      _ ≤ 1000 * d + HZ := h.1
  exact Nat.le_of_add_le_add_right hmore

/-- `netana_tkit_WaitForBitState` gives up only when its timeout has elapsed. -/
theorem waitForBitState_in_time {HZ : ℕ} (hlow : 12 ≤ HZ) (hhigh : HZ < 12288) (w : BitWait)
    (n : ℕ) (hkept : ∀ k < n, ProductKept (BitVec.ofNat 32 w.start) (w.wake k).elapsed)
    (hpos : w.ulTimeout ≠ 0#32)
    (hret : (netanaTkitWaitForBitState (tickCounter HZ) w n).iRet = some false) :
    ∃ k < n, w.ulTimeout.toNat * HZ ≤ 1000 * (w.wake k).elapsed := by
  have hi := wait_inv (tickCounter HZ) w n
  obtain ⟨-, -, hzero | ⟨k, hk, hlate⟩⟩ := hi.lost hret
  · exact absurd hzero hpos
  · -- the reading that ends the wait is among those of the first n passes
    have hlen : (netanaTkitWaitForBitState (tickCounter HZ) w n).waits.length ≤ n := by
      clear hret hi hk hlate
      induction n with
      | zero => exact le_refl _
      | succ n ih =>
        have hbefore := ih fun k hk => hkept k (Nat.lt_succ_of_lt hk)
        rw [netanaTkitWaitForBitState, waitPass]
        split
        · omega
        · rw [List.length_append, List.length_singleton]
          omega
    have hkn : k < n := by omega
    exact ⟨k, hkn, elapsed_of_near (counter_near hlow hhigh (hkept k hkn)) hlate⟩

/-- `WaitForBitStatePollBL` gives up only when its timeout has elapsed. -/
theorem waitForBitStatePollBL_in_time {HZ : ℕ} (hlow : 12 ≤ HZ) (hhigh : HZ < 12288)
    (ulBitMask : BitVec 8) (bState : RcxFlags) (ulTimeout : BitVec 64) (bHostFlags : BitVec 8)
    (e : PollWait) (n : ℕ)
    (hkept : ∀ k < n, ProductKept (BitVec.ofNat 32 e.start) (e.poll k).elapsed)
    (hpos : ulTimeout ≠ 0#64)
    (hret : waitForBitStatePollBL (tickCounter HZ) ulBitMask bState ulTimeout bHostFlags e n =
      some false) :
    ∃ k < n, ulTimeout.toNat * HZ ≤ 1000 * (e.poll k).elapsed := by
  induction n with
  | zero =>
    rw [waitForBitStatePollBL] at hret
    split at hret
    · cases hret
    · split at hret
      · rename_i hzero
        exact absurd hzero.symm hpos
      · cases hret
  | succ n ih =>
    rw [waitForBitStatePollBL] at hret
    cases hbefore : waitForBitStatePollBL (tickCounter HZ) ulBitMask bState ulTimeout bHostFlags
        e n with
    | some iRet =>
      rw [hbefore, pollPass] at hret
      rw [hret] at hbefore
      obtain ⟨k, hk, hle⟩ := ih (fun k hk => hkept k (Nat.lt_succ_of_lt hk)) hbefore
      exact ⟨k, Nat.lt_succ_of_lt hk, hle⟩
    | none =>
      rw [hbefore, pollPass] at hret
      split at hret
      · cases hret
      · split at hret
        · cases hret
        · rename_i hlate
          refine ⟨n, Nat.lt_succ_self n, ?_⟩
          have hnear := counter_near hlow hhigh (hkept n (Nat.lt_succ_self n))
          rw [BitVec.not_le, BitVec.lt_def, BitVec.toNat_setWidth_of_le (by decide)] at hlate
          exact elapsed_of_near hnear hlate

/-- The results of the two mailbox functions, which are not that of the loop around them. -/
theorem getPacketBL_lRet {counter : ℕ → BitVec 32} {fuel : ℕ} {e : GetEnv}
    {ptRecvPkt : ByteArea} {ulRecvBufferSize ulTimeout : BitVec 64} {ch : SysChannel}
    {r : SysChannel × Receipt}
    (h : getPacketBL counter fuel e ptRecvPkt ulRecvBufferSize ulTimeout ch = some r) :
    r.2.lRet ∈ [netanaDevNotReady, netanaDevGetNoPacket, netanaBufferTooShort,
      netanaNoError] := by
  rw [getPacketBL] at h
  split at h
  · cases h
    simp
  · obtain ⟨iRet, -, rfl⟩ := Option.map_eq_some_iff.mp h
    cases iRet with
    | false => simp
    | true =>
      by_cases hshort :
          (ulLenAt e.abRecvMbx + rcxPacketHeaderSize).setWidth 64 > ulRecvBufferSize
      · simp [hshort]
      · simp [hshort]

theorem putPacketBL_lRet {counter : ℕ → BitVec 32} {fuel : ℕ} {e : PutEnv}
    {ptSendPkt : ByteArea} {ulTimeout : BitVec 64} {ch : SysChannel} {r : SysChannel × BitVec 32}
    (h : putPacketBL counter fuel e ptSendPkt ulTimeout ch = some r) :
    r.2 ∈ [netanaDevNotReady, netanaDevMailboxTooShort, netanaDevMailboxFull,
      netanaNoError] := by
  rw [putPacketBL] at h
  split at h
  · cases h
    simp
  · split at h
    · cases h
      simp
    · obtain ⟨iRet, -, rfl⟩ := Option.map_eq_some_iff.mp h
      cases iRet <;> simp

/-- `TransferPacket` gives up at a difference equal to its timeout, which has elapsed then only if
nothing is carried. -/
theorem transferPacket_in_time {HZ : ℕ} (hlow : 12 ≤ HZ) (hhigh : HZ < 12288) (fuel : ℕ)
    (e : TransferEnv) (ptSendPkt ptRecvPkt : ByteArea) (ulRecvBufferSize ulTimeout : BitVec 64)
    (ch : SysChannel) (n : ℕ) (s : TransferLocals)
    (hkept : ∀ k < n, ProductKept (BitVec.ofNat 32 e.start) (e.elapsed k) ∧
      Uncarried HZ (BitVec.ofNat 32 e.start) (e.elapsed k))
    (hrun : transferPacket (tickCounter HZ) fuel e ptSendPkt ptRecvPkt ulRecvBufferSize ulTimeout
      ch n = some s) (hdone : s.fDone = true) (hret : s.lRet = netanaTransferTimeout) :
    ∃ k < n, ulTimeout.toNat * HZ ≤ 1000 * e.elapsed k := by
  induction n generalizing s with
  | zero =>
    obtain ⟨r, hr, rfl⟩ := Option.map_eq_some_iff.mp hrun
    have hmem := putPacketBL_lRet hr
    rw [show r.2 = netanaTransferTimeout from hret] at hmem
    exact absurd hmem (by decide)
  | succ n ih =>
    rw [transferPacket] at hrun
    obtain ⟨t, ht, hpass⟩ := Option.bind_eq_some_iff.mp hrun
    -- only the check of the loop gives this result; the mailbox functions have others
    by_cases htdone : t.fDone = true
    · rw [if_pos htdone] at hpass
      cases hpass
      obtain ⟨k, hk, hle⟩ := ih _ (fun k hk => hkept k (Nat.lt_succ_of_lt hk)) ht hdone hret
      exact ⟨k, Nat.lt_succ_of_lt hk, hle⟩
    · rw [if_neg htdone] at hpass
      obtain ⟨r, hr, rfl⟩ := Option.map_eq_some_iff.mp hpass
      by_cases hok : r.2.lRet = netanaNoError
      · rw [if_pos hok] at hdone hret
        by_cases hanswer : answers r.2.ptRecvPkt ptSendPkt = true
        · rw [if_pos hanswer] at hret
          have hno : netanaNoError = netanaTransferTimeout := hret
          exact absurd hno (by decide)
        · rw [if_neg hanswer] at hdone
          have hlate : ¬ (tickCounter HZ (e.start + e.elapsed n) - tickCounter HZ
              e.start).setWidth 64 < ulTimeout := by
            simpa using hdone
          rw [BitVec.not_lt, BitVec.le_def, BitVec.toNat_setWidth_of_le (by decide)] at hlate
          obtain ⟨hproduct, hcarry⟩ := hkept n (Nat.lt_succ_self n)
          have hle : ulTimeout.toNat * HZ ≤ 1000 * e.elapsed n :=
            calc
              ulTimeout.toNat * HZ ≤ (tickCounter HZ (e.start + e.elapsed n) -
                  tickCounter HZ e.start).toNat * HZ := Nat.mul_le_mul_right HZ hlate
              _ ≤ 1000 * e.elapsed n := (counter_le_iff hlow hhigh hproduct).mpr hcarry
          exact ⟨n, Nat.lt_succ_self n, hle⟩
      · rw [if_neg hok] at hret
        have hmem := getPacketBL_lRet hr
        rw [show r.2.lRet = netanaTransferTimeout from hret] at hmem
        exact absurd hmem (by decide)

/-- A packet with another `ulId`. -/
def otherPacket : ByteArea := fun i => if i = 20 then 1#8 else 0#8

/-- A transfer of an empty packet that receives another one, and checks the time at `d` ticks. -/
def straddlingTransfer (start d : ℕ) : TransferEnv where
  start := start
  put := ⟨nsfReady, ⟨nsfReady, start, fun _ => ⟨nsfReady, 0⟩⟩⟩
  get := fun _ => ⟨nsfReady, ⟨hsfRecvMbxAck, start, fun _ => ⟨hsfRecvMbxAck, 0⟩⟩, otherPacket⟩
  elapsed := fun _ => d

/-- With the difference itself as its timeout it gives up at that check. -/
theorem straddlingTransfer_gives_up (HZ start d : ℕ) : ∃ s : TransferLocals,
    transferPacket (tickCounter HZ) 0 (straddlingTransfer start d) (fun _ => 0#8) (fun _ => 0#8)
      1600#64 ((tickCounter HZ (start + d) - tickCounter HZ start).setWidth 64)
      ⟨0#8, fun _ => 0#8⟩ 1 = some s ∧ s.fDone = true ∧ s.lRet = netanaTransferTimeout := by
  have hother : answers (osMemcpy (fun _ => 0#8) otherPacket 40#32) (fun _ => 0#8) = false := by
    decide
  have hready : maskTest nsfReady nsfReady = true := by decide
  have hfree : pollState 0#8 nsfReady hsfSendMbxCmd = .equal := by decide
  have hfull : pollState hsfSendMbxCmd hsfRecvMbxAck hsfRecvMbxAck = .notEqual := by decide
  have hsend : ulLenAt (fun _ => 0#8) + rcxPacketHeaderSize = 40#32 := by decide
  have hrecv : ulLenAt otherPacket + rcxPacketHeaderSize = 40#32 := by decide
  have hput (ulTimeout : BitVec 64) : putPacketBL (tickCounter HZ) 0
      (straddlingTransfer start d).put (fun _ => 0#8) ulTimeout ⟨0#8, fun _ => 0#8⟩ =
      some (⟨hsfSendMbxCmd, osMemcpy (fun _ => 0#8) (fun _ => 0#8) 40#32⟩, netanaNoError) := by
    simp [putPacketBL, straddlingTransfer, waitForBitStatePollBL, hready, hfree, hsend,
      netxSystemMailboxMinSize]
  have hget (ulTimeout : BitVec 64) (mbx : ByteArea) : getPacketBL (tickCounter HZ) 0
      ((straddlingTransfer start d).get 0) (fun _ => 0#8) 1600#64 ulTimeout ⟨hsfSendMbxCmd, mbx⟩ =
      some (⟨hsfSendMbxCmd ^^^ hsfRecvMbxAck, mbx⟩,
        ⟨netanaNoError, osMemcpy (fun _ => 0#8) otherPacket 40#32, some 40#32⟩) := by
    simp [getPacketBL, straddlingTransfer, waitForBitStatePollBL, hready, hfull, hrecv]
  generalize hT : (tickCounter HZ (start + d) - tickCounter HZ start).setWidth 64 = ulTimeout
  have hlate : (!decide ((tickCounter HZ (start + d) - tickCounter HZ start).setWidth 64 <
      ulTimeout)) = true := by
    rw [hT]
    simp
  refine ⟨⟨⟨hsfSendMbxCmd ^^^ hsfRecvMbxAck, osMemcpy (fun _ => 0#8) (fun _ => 0#8) 40#32⟩,
    osMemcpy (fun _ => 0#8) otherPacket 40#32, netanaTransferTimeout, true⟩, ?_, rfl, rfl⟩
  rw [transferPacket, transferPacket, hput, Option.map_some, Option.bind_some]
  dsimp only
  rw [if_neg (by decide), transferPass, hget, Option.map_some]
  dsimp only
  rw [if_pos rfl, hother, if_neg (by decide), ← hlate]
  rfl

/-- The difference of two readings is right exactly where the product does not wrap; there the two
waits end in time, and `TransferPacket` where nothing is carried. -/
theorem counter_difference_exact {HZ : ℕ} (hlow : 12 ≤ HZ) (hhigh : HZ < 12288) :
    (∀ (j : BitVec 32) (d : ℕ), 1000 * d / HZ < 2 ^ 31 →
      (Near HZ (1000 * d)
        (osGetMilliSecCounter HZ (j + BitVec.ofNat 32 d) - osGetMilliSecCounter HZ j).toNat ↔
        ProductKept j d)) ∧
    (∀ (w : BitWait) (n : ℕ),
      (∀ k < n, ProductKept (BitVec.ofNat 32 w.start) (w.wake k).elapsed) →
      w.ulTimeout ≠ 0#32 → (netanaTkitWaitForBitState (tickCounter HZ) w n).iRet = some false →
      ∃ k < n, w.ulTimeout.toNat * HZ ≤ 1000 * (w.wake k).elapsed) ∧
    (∀ (ulBitMask : BitVec 8) (bState : RcxFlags) (ulTimeout : BitVec 64) (bHostFlags : BitVec 8)
      (e : PollWait) (n : ℕ),
      (∀ k < n, ProductKept (BitVec.ofNat 32 e.start) (e.poll k).elapsed) → ulTimeout ≠ 0#64 →
      waitForBitStatePollBL (tickCounter HZ) ulBitMask bState ulTimeout bHostFlags e n =
        some false → ∃ k < n, ulTimeout.toNat * HZ ≤ 1000 * (e.poll k).elapsed) ∧
    (∀ (fuel : ℕ) (e : TransferEnv) (ptSendPkt ptRecvPkt : ByteArea)
      (ulRecvBufferSize ulTimeout : BitVec 64) (ch : SysChannel) (n : ℕ) (s : TransferLocals),
      (∀ k < n, ProductKept (BitVec.ofNat 32 e.start) (e.elapsed k) ∧
        Uncarried HZ (BitVec.ofNat 32 e.start) (e.elapsed k)) →
      transferPacket (tickCounter HZ) fuel e ptSendPkt ptRecvPkt ulRecvBufferSize ulTimeout ch n =
        some s → s.fDone = true → s.lRet = netanaTransferTimeout →
      ∃ k < n, ulTimeout.toNat * HZ ≤ 1000 * e.elapsed k) ∧
    (∀ start d, ProductKept (BitVec.ofNat 32 start) d →
      ¬ Uncarried HZ (BitVec.ofNat 32 start) d → ∃ (e : TransferEnv) (ulTimeout : BitVec 64)
        (s : TransferLocals), e.start = start ∧ e.elapsed 0 = d ∧
        transferPacket (tickCounter HZ) 0 e (fun _ => 0#8) (fun _ => 0#8) 1600#64 ulTimeout
          ⟨0#8, fun _ => 0#8⟩ 1 = some s ∧ s.fDone = true ∧ s.lRet = netanaTransferTimeout ∧
        1000 * d < ulTimeout.toNat * HZ) ∧
    (HZ ∣ 1000 → ∀ (j : BitVec 32) (d : ℕ), Uncarried HZ j d) := by
  refine ⟨fun j d hd => counter_near_iff hlow hhigh j hd, ?_, ?_, ?_, ?_, ?_⟩
  · exact fun w n hkept => waitForBitState_in_time hlow hhigh w n hkept
  · exact fun ulBitMask bState ulTimeout bHostFlags e n hkept =>
      waitForBitStatePollBL_in_time hlow hhigh ulBitMask bState ulTimeout bHostFlags e n hkept
  · exact fun fuel e ptSendPkt ptRecvPkt ulRecvBufferSize ulTimeout ch n s hkept =>
      transferPacket_in_time hlow hhigh fuel e ptSendPkt ptRecvPkt ulRecvBufferSize ulTimeout ch
        n s hkept
  · intro start d hkept hcarry
    obtain ⟨s, hrun, hdone, hret⟩ := straddlingTransfer_gives_up HZ start d
    refine ⟨straddlingTransfer start d, _, s, rfl, rfl, hrun, hdone, hret, ?_⟩
    rw [BitVec.toNat_setWidth_of_le (by decide)]
    exact not_le.mp fun hle => hcarry ((counter_le_iff hlow hhigh hkept).mp hle)
  · exact fun hdvd j d => uncarried_of_dvd (by omega) hdvd j d

theorem counter_difference_exact_second :
    Near 250 1000 (osGetMilliSecCounter 250 (7#32 + BitVec.ofNat 32 1) -
      osGetMilliSecCounter 250 7#32).toNat :=
  ((counter_difference_exact (by decide) (by decide)).1 7#32 1 (by decide)).mpr (by
    rw [ProductKept]
    decide)

/-- A wait of one second, started in the last millisecond before the product wraps around. -/
def straddlingWait : BitWait where
  ulBit := 0
  bState := .equal
  ulTimeout := 1000#32
  ulHostFlags := 1#32
  ulNetxFlags := 0#32
  start := 4294967
  wake := fun _ => ⟨1, 1#32, 0#32⟩

/-- The wait gives up after one millisecond. At 300 ticks a second a transfer with a timeout of four
milliseconds gives up after one tick, though nothing wraps around. -/
theorem counter_difference_wraps :
    (netanaTkitWaitForBitState (tickCounter 1000) straddlingWait 1).iRet = some false ∧
      (∃ s : TransferLocals, transferPacket (tickCounter 300) 0 (straddlingTransfer 2 1)
        (fun _ => 0#8) (fun _ => 0#8) 1600#64 4#64 ⟨0#8, fun _ => 0#8⟩ 1 = some s ∧
        s.fDone = true ∧ s.lRet = netanaTransferTimeout) ∧
      ¬ ∀ HZ, 12 ≤ HZ → HZ < 12288 → ∀ (j : BitVec 32) (d : ℕ), 1000 * d / HZ < 2 ^ 31 →
        Near HZ (1000 * d)
          (osGetMilliSecCounter HZ (j + BitVec.ofNat 32 d) - osGetMilliSecCounter HZ j).toNat := by
  have hfour : (tickCounter 300 (2 + 1) - tickCounter 300 2).setWidth 64 = 4#64 := by decide
  refine ⟨by decide, ?_, fun hall => ?_⟩
  · rw [← hfour]
    exact straddlingTransfer_gives_up 300 2 1
  · have hnear := (hall 1000 (by decide) (by decide) 4294967#32 1 (by decide)).1
    revert hnear
    decide

end NetanaDriver
