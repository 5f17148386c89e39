import Mathlib

/-! Clocks with a limited number of bits: differences of readings, and what becomes of them when
the ticks are multiplied and divided again before they are subtracted. -/
namespace WrappingClock

/-- The reading of a clock of `w` bits at time `t`. -/
def reading (w t : ℕ) : BitVec w := BitVec.ofNat w t

/-- Two readings tell the time between them up to whole turns of the clock. -/
theorem toNat_sub_reading (w t elapsed : ℕ) :
    (reading w (t + elapsed) - reading w t).toNat = elapsed % 2 ^ w := by
  have hadd : reading w (t + elapsed) = reading w t + reading w elapsed :=
    BitVec.ofNat_add t elapsed
  calc (reading w (t + elapsed) - reading w t).toNat
      = (reading w elapsed).toNat := by rw [hadd, add_sub_cancel_left]
    _ = elapsed % 2 ^ w := by rw [reading, BitVec.toNat_ofNat]

/-- They never tell more time than has gone by. -/
theorem toNat_sub_reading_le (w t elapsed : ℕ) :
    (reading w (t + elapsed) - reading w t).toNat ≤ elapsed := by
  rw [toNat_sub_reading]
  exact Nat.mod_le _ _

/-- `a` periods of `h` ticks are `x` ticks, up to one period. -/
def Near (h x a : ℕ) : Prop := a * h ≤ x + h ∧ x ≤ a * h + h

/-- The quotients of two numbers differ by the quotient of their difference, up to one. -/
theorem near_sub_div {h : ℕ} (hh : 0 < h) (m x : ℕ) : Near h x ((m + x) / h - m / h) := by
  have hle : m / h ≤ (m + x) / h := Nat.div_le_div_right (Nat.le_add_right m x)
  have hm := Nat.div_add_mod m h
  have hs := Nat.div_add_mod (m + x) h
  have hmr := Nat.mod_lt m hh
  have hsr := Nat.mod_lt (m + x) hh
  have hdiff : ((m + x) / h - m / h) * h = h * ((m + x) / h) - h * (m / h) := by
    rw [Nat.mul_comm, Nat.mul_sub]
  have hmul : h * (m / h) ≤ h * ((m + x) / h) := Nat.mul_le_mul_left h hle
  constructor
  · omega
  · omega

/-- They do not exceed it exactly where the two remainders do not add up to another period. -/
theorem sub_div_mul_le_iff {h : ℕ} (hh : 0 < h) (m x : ℕ) :
    ((m + x) / h - m / h) * h ≤ x ↔ m % h + x % h < h := by
  have hx := Nat.div_add_mod x h
  have hxr := Nat.mod_lt x hh
  have hcomm : x / h * h = h * (x / h) := Nat.mul_comm _ _
  rw [Nat.add_div hh]
  split
  · rename_i hcarry
    have hone : (m / h + x / h + 1 - m / h) * h = x / h * h + h := by
      rw [Nat.add_assoc, Nat.add_sub_cancel_left, Nat.succ_mul]
    rw [hone]
    constructor
    · intro hle
      omega
    · intro hlt
      omega
  · rename_i hfits
    have hnone : (m / h + x / h + 0 - m / h) * h = x / h * h := by
      rw [Nat.add_zero, Nat.add_sub_cancel_left]
    rw [hnone]
    constructor
    · intro _
      omega
    · intro _
      omega

/-- A product that wraps around has lost whole turns, and with them more than one period. -/
theorem not_near_of_wrap {M h m x : ℕ} (hm : m < M) (hh : 2 ≤ h) (hM : 4 * h ≤ M)
    (hx : 2 * x < M * h) (hwrap : M ≤ m + x) :
    ¬ Near h x (((m + x) % M / h + (M - m / h)) % M) := by
  have hpos : 0 < h := by omega
  have hMpos : 0 < M := by omega
  -- the number of turns, and the two quotients
  obtain ⟨w, hw⟩ : ∃ w, w = (m + x) / M := ⟨_, rfl⟩
  obtain ⟨a, ha⟩ : ∃ a, a = (m + x) % M / h := ⟨_, rfl⟩
  obtain ⟨b, hb⟩ : ∃ b, b = m / h := ⟨_, rfl⟩
  have hturns := Nat.div_add_mod (m + x) M
  have hrem := Nat.mod_lt (m + x) hMpos
  have hquot := Nat.div_add_mod ((m + x) % M) h
  have hquotr := Nat.mod_lt ((m + x) % M) hpos
  have hstart := Nat.div_add_mod m h
  have hstartr := Nat.mod_lt m hpos
  rw [← hw] at hturns
  rw [← ha] at hquot
  rw [← hb] at hstart
  have hw1 : 1 ≤ w := by
    rw [hw]
    exact (Nat.one_le_div_iff hMpos).mpr hwrap
  have hMw : M * 1 ≤ M * w := Nat.mul_le_mul_left M hw1
  have hwh : w ≤ h - 1 := by
    by_contra hlarge
    have hge : M * h ≤ M * w := Nat.mul_le_mul_left M (by omega)
    have htwo : M * 2 ≤ M * h := Nat.mul_le_mul_left M hh
    omega
  have hMh : M * w + M ≤ M * h := by
    have hstep : M * (w + 1) ≤ M * h := Nat.mul_le_mul_left M (by omega)
    rw [Nat.mul_succ] at hstep
    exact hstep
  have haM : a < M := by
    have hle : a ≤ (m + x) % M := by
      rw [ha]
      exact Nat.div_le_self _ _
    omega
  have hbM : b < M := by
    have hle : b ≤ m := by
      rw [hb]
      exact Nat.div_le_self _ _
    omega
  rw [← ha, ← hb]
  rintro ⟨hupper, hlower⟩
  by_cases hab : b ≤ a
  · have hmod : (a + (M - b)) % M = a - b := by
      have hsum : a + (M - b) = a - b + M := by omega
      calc (a + (M - b)) % M
          = (a - b) % M := by rw [hsum, Nat.add_mod_right]
        _ = a - b := Nat.mod_eq_of_lt (by omega)
    have hmul : (a - b) * h = h * a - h * b := by
      rw [Nat.mul_comm, Nat.mul_sub]
    have hle : h * b ≤ h * a := Nat.mul_le_mul_left h hab
    rw [hmod, hmul] at hlower
    omega
  · have hmod : (a + (M - b)) % M = a + (M - b) := Nat.mod_eq_of_lt (by omega)
    have hmul : (a + (M - b)) * h = h * a + (M * h - h * b) := by
      rw [Nat.add_mul, Nat.sub_mul, Nat.mul_comm a h, Nat.mul_comm b h]
    have hle : h * b ≤ M * h := by
      rw [Nat.mul_comm M h]
      exact Nat.mul_le_mul_left h hbM.le
    rw [hmod, hmul] at hupper
    omega

/-- The scaled difference is right exactly if the product has not wrapped around in between. -/
theorem near_iff_of_scaled {M h m x : ℕ} (hm : m < M) (hh : 2 ≤ h) (hM : 4 * h ≤ M)
    (hx : 2 * x < M * h) :
    Near h x (((m + x) % M / h + (M - m / h)) % M) ↔ m + x < M := by
  constructor
  · intro hnear
    by_contra hwrap
    exact not_near_of_wrap hm hh hM hx (not_lt.mp hwrap) hnear
  · intro hlt
    have hpos : 0 < h := by omega
    have hle : m / h ≤ (m + x) / h := Nat.div_le_div_right (Nat.le_add_right m x)
    have hbound : (m + x) / h ≤ m + x := Nat.div_le_self _ _
    have hstart : m / h ≤ m := Nat.div_le_self _ _
    have hsum : (m + x) / h + (M - m / h) = (m + x) / h - m / h + M := by omega
    have hsmall : (m + x) / h - m / h < M :=
      (Nat.sub_le _ _).trans_lt (hbound.trans_lt hlt)
    rw [Nat.mod_eq_of_lt hlt, hsum, Nat.add_mod_right, Nat.mod_eq_of_lt hsmall]
    exact near_sub_div hpos m x

end WrappingClock
