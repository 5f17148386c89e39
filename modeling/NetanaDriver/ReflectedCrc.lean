import Mathlib

/-! Cyclic redundancy checks with a reflected register: the definition bit by bit, and the same
a byte at a time with a table of the 256 remainders. -/
namespace ReflectedCrc

variable {w : ℕ}

/-- One bit leaves the register. -/
def bitStep (poly r : BitVec w) : BitVec w :=
  if r.getLsbD 0 then r >>> 1 ^^^ poly else r >>> 1

/-- A byte is taken in and passes through the register. -/
def byteStep (poly r : BitVec w) (b : BitVec 8) : BitVec w :=
  (bitStep poly)^[8] (r ^^^ b.setWidth w)

def update (poly r : BitVec w) (bs : List (BitVec 8)) : BitVec w := bs.foldl (byteStep poly) r

/-- The check value, continued from that of what came before; that of nothing is 0. -/
def continued (poly xorOut c : BitVec w) (bs : List (BitVec 8)) : BitVec w :=
  update poly (c ^^^ xorOut) bs ^^^ xorOut

def check (poly xorOut : BitVec w) (bs : List (BitVec 8)) : BitVec w :=
  continued poly xorOut 0#w bs

/-- The remainder of one byte. -/
def tableEntry (poly : BitVec w) (i : BitVec 8) : BitVec w := (bitStep poly)^[8] (i.setWidth w)

theorem bitStep_xor (poly a b : BitVec w) :
    bitStep poly (a ^^^ b) = bitStep poly a ^^^ bitStep poly b := by
  unfold bitStep
  rw [BitVec.getLsbD_xor, BitVec.ushiftRight_xor_distrib]
  cases a.getLsbD 0 <;> cases b.getLsbD 0
  · rfl
  · simp only [Bool.false_xor, if_true, Bool.false_eq_true, if_false, BitVec.xor_assoc]
  · simp only [Bool.xor_false, if_true, Bool.false_eq_true, if_false]
    rw [BitVec.xor_assoc, BitVec.xor_assoc, BitVec.xor_comm poly]
  · simp only [Bool.xor_true, Bool.not_true, if_true, Bool.false_eq_true, if_false]
    rw [BitVec.xor_assoc, ← BitVec.xor_assoc poly, BitVec.xor_comm poly, BitVec.xor_assoc,
      BitVec.xor_self, BitVec.xor_zero]

theorem iterate_bitStep_xor (poly a b : BitVec w) (k : ℕ) :
    (bitStep poly)^[k] (a ^^^ b) = (bitStep poly)^[k] a ^^^ (bitStep poly)^[k] b := by
  induction k generalizing a b with
  | zero => rfl
  | succ k ih =>
    rw [Function.iterate_succ_apply, Function.iterate_succ_apply, Function.iterate_succ_apply,
      bitStep_xor]
    exact ih _ _

/-- Bits that are 0 pass through without a trace. -/
theorem iterate_bitStep_of_low {poly r : BitVec w} {k : ℕ}
    (h : ∀ i, i < k → r.getLsbD i = false) : (bitStep poly)^[k] r = r >>> k := by
  induction k with
  | zero => rw [Function.iterate_zero_apply, BitVec.ushiftRight_zero]
  | succ k ih =>
    have hbit : (r >>> k).getLsbD 0 = false := by
      rw [BitVec.getLsbD_ushiftRight]
      exact h k (Nat.lt_succ_self k)
    calc (bitStep poly)^[k + 1] r
        = bitStep poly (r >>> k) := by
          rw [Function.iterate_succ_apply', ih fun i hi => h i (Nat.lt_succ_of_lt hi)]
      _ = r >>> k >>> 1 := by rw [bitStep, hbit, if_neg Bool.false_ne_true]
      _ = r >>> (k + 1) := by rw [BitVec.shiftRight_add]

/-- The table: a byte step looks up the low byte and shifts the rest. -/
theorem byteStep_eq_table (poly r : BitVec w) (b : BitVec 8) :
    byteStep poly r b = tableEntry poly ((r ^^^ b.setWidth w).setWidth 8) ^^^ r >>> 8 := by
  have hsplit : r ^^^ b.setWidth w =
      ((r ^^^ b.setWidth w).setWidth 8).setWidth w ^^^ (r >>> 8) <<< 8 := by
    apply BitVec.eq_of_getLsbD_eq
    intro i hi
    by_cases hlow : i < 8
    · simp [hlow, hi]
    · have hhigh : 8 + (i - 8) = i := by omega
      have hbyte : b.getLsbD i = false := BitVec.getLsbD_of_ge b i (by omega)
      simp [hlow, hi, hhigh, hbyte]
  have hlow : ∀ i, i < 8 → ((r >>> 8) <<< 8).getLsbD i = false := by
    intro i hi
    simp [hi]
  have hback : ((r >>> 8) <<< 8) >>> 8 = r >>> 8 := by
    apply BitVec.eq_of_getLsbD_eq
    intro i hi
    by_cases hin : 8 + i < w
    · simp [hin]
    · have hout : r.getLsbD (8 + i) = false := BitVec.getLsbD_of_ge r _ (by omega)
      simp [hin, hout]
  calc byteStep poly r b
      = (bitStep poly)^[8]
          (((r ^^^ b.setWidth w).setWidth 8).setWidth w ^^^ (r >>> 8) <<< 8) := by
        rw [byteStep, ← hsplit]
    _ = tableEntry poly ((r ^^^ b.setWidth w).setWidth 8) ^^^ r >>> 8 := by
        rw [iterate_bitStep_xor, iterate_bitStep_of_low hlow, hback, tableEntry]

theorem update_append (poly r : BitVec w) (as bs : List (BitVec 8)) :
    update poly r (as ++ bs) = update poly (update poly r as) bs := List.foldl_append

/-- Continuing over a second part gives the value of the whole. -/
theorem continued_append (poly xorOut c : BitVec w) (as bs : List (BitVec 8)) :
    continued poly xorOut (continued poly xorOut c as) bs =
      continued poly xorOut c (as ++ bs) := by
  have hreset (a : BitVec w) : a ^^^ xorOut ^^^ xorOut = a := by
    rw [BitVec.xor_assoc, BitVec.xor_self, BitVec.xor_zero]
  calc continued poly xorOut (continued poly xorOut c as) bs
      = update poly (update poly (c ^^^ xorOut) as) bs ^^^ xorOut := by
        rw [continued, continued, hreset]
    _ = continued poly xorOut c (as ++ bs) := by rw [← update_append, continued]

@[simp] theorem continued_nil (poly xorOut c : BitVec w) : continued poly xorOut c [] = c := by
  show c ^^^ xorOut ^^^ xorOut = c
  rw [BitVec.xor_assoc, BitVec.xor_self, BitVec.xor_zero]

end ReflectedCrc
