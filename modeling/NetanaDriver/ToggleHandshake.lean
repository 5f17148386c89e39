import Mathlib

/-! Toggle-bit handshakes. Two parties own one bit each; a request or an indication is pending
while the bits differ, and the other side answers by toggling its own bit. One side sees the
other's bit only through copies that lag behind, so what matters is the list of values the
lagging side has still to see: once the bit has reached the value that answers the toggle it
stays there. -/
namespace ToggleHandshake

/-- Toggle bit `b` of a flag word. -/
def toggleBit {n : ℕ} (w : BitVec n) (b : ℕ) : BitVec n := w ^^^ (1#n <<< b)

theorem getLsbD_one_shiftLeft {n : ℕ} (b i : ℕ) (hi : i < n) :
    (1#n <<< b).getLsbD i = decide (i = b) := by
  simp only [BitVec.getLsbD_shiftLeft, hi, decide_true, Bool.true_and, BitVec.getLsbD_one]
  by_cases h : i = b
  · subst h
    simp
    omega
  · have : i < b ∨ ¬ i - b = 0 := by omega
    rcases this with h1 | h1 <;> simp [h, h1]

theorem getLsbD_toggleBit {n : ℕ} (w : BitVec n) (b i : ℕ) (hi : i < n) :
    (toggleBit w b).getLsbD i = (w.getLsbD i ^^ decide (i = b)) := by
  rw [toggleBit, BitVec.getLsbD_xor, getLsbD_one_shiftLeft b i hi]

@[simp] theorem getLsbD_toggleBit_self {n : ℕ} (w : BitVec n) (b : ℕ) (hb : b < n) :
    (toggleBit w b).getLsbD b = !w.getLsbD b := by
  simp [getLsbD_toggleBit w b b hb]

theorem getLsbD_toggleBit_ne {n : ℕ} (w : BitVec n) {b i : ℕ} (hi : i < n) (h : i ≠ b) :
    (toggleBit w b).getLsbD i = w.getLsbD i := by
  simp [getLsbD_toggleBit w b i hi, h]

@[simp] theorem toggleBit_toggleBit {n : ℕ} (w : BitVec n) (b : ℕ) :
    toggleBit (toggleBit w b) b = w := by
  rw [toggleBit, toggleBit, BitVec.xor_assoc, BitVec.xor_self, BitVec.xor_zero]

/-- The test `w & (1 << b)` of the source. -/
def maskTest {n : ℕ} (w mask : BitVec n) : Bool := w &&& mask != 0#n

theorem maskTest_one_shiftLeft {n : ℕ} (w : BitVec n) (b : ℕ) (hb : b < n) :
    maskTest w (1#n <<< b) = w.getLsbD b := by
  have hbit (i : ℕ) (hi : i < n) :
      (w &&& (1#n <<< b)).getLsbD i = (w.getLsbD i && decide (i = b)) := by
    rw [BitVec.getLsbD_and, getLsbD_one_shiftLeft b i hi]
  cases h : w.getLsbD b with
  | true =>
    have hne : w &&& (1#n <<< b) ≠ 0#n := by
      intro h0
      have hb0 := hbit b hb
      simp [h0, h] at hb0
    simpa [maskTest] using hne
  | false =>
    have h0 : w &&& (1#n <<< b) = 0#n := by
      apply BitVec.eq_of_getLsbD_eq
      intro i hi
      rw [hbit i hi, BitVec.getLsbD_zero]
      by_cases hib : i = b
      · subst hib
        simp [h]
      · simp [hib]
    simp [maskTest, h0]

/-- The successive values of one bit, oldest first, never leave `v` once they have reached it. -/
def Latched (v : Bool) (xs : List Bool) : Prop := xs.Pairwise fun x y => x = v → y = v

theorem latched_nil (v : Bool) : Latched v [] := List.Pairwise.nil

theorem latched_cons {v x : Bool} {xs : List Bool} :
    Latched v (x :: xs) ↔ (x = v → ∀ y ∈ xs, y = v) ∧ Latched v xs := by
  rw [Latched, List.pairwise_cons]
  exact and_congr ⟨fun h hx y hy => h y hy hx, fun h y hy hx => h hx y hy⟩ Iff.rfl

theorem Latched.sublist {v : Bool} {xs ys : List Bool} (h : Latched v ys) (hs : xs.Sublist ys) :
    Latched v xs := List.Pairwise.sublist hs h

/-- When the oldest value is already the latched one, all of them are. -/
theorem Latched.all_of_head {v x : Bool} {xs : List Bool} (h : Latched v (x :: xs)) (hx : x = v) :
    ∀ y ∈ x :: xs, y = v := by
  intro y hy
  rcases List.mem_cons.mp hy with rfl | hy
  · exact hx
  · exact (latched_cons.mp h).1 hx y hy

/-- When the newest value is not the latched one, none of them is. -/
theorem Latched.none_of_last {v r : Bool} {xs : List Bool} (h : Latched v (xs ++ [r]))
    (hr : r ≠ v) : ∀ y ∈ xs ++ [r], y ≠ v := by
  intro y hy hv
  rcases List.mem_append.mp hy with hy | hy
  · exact hr ((List.pairwise_append.mp h).2.2 y hy r (List.mem_singleton_self r) hv)
  · exact hr ((List.mem_singleton.mp hy).symm.trans hv)

/-- The answering side may reach the latched value at any time. -/
theorem Latched.append_self {v : Bool} {xs : List Bool} (h : Latched v xs) :
    Latched v (xs ++ [v]) :=
  List.pairwise_append.mpr ⟨h, List.pairwise_singleton _ _, fun _ _ _ hy _ =>
    List.mem_singleton.mp hy⟩

/-- A copy of the newest value changes nothing. -/
theorem Latched.append_last {v r : Bool} {xs : List Bool} (h : Latched v (xs ++ [r])) :
    Latched v (xs ++ [r, r]) := by
  have hsplit : xs ++ [r, r] = (xs ++ [r]) ++ [r] := by simp
  rw [hsplit]
  refine List.pairwise_append.mpr ⟨h, List.pairwise_singleton _ _, fun x hx y hy hv => ?_⟩
  rw [List.mem_singleton.mp hy]
  rcases List.mem_append.mp hx with hx | hx
  · exact (List.pairwise_append.mp h).2.2 x hx r (List.mem_singleton_self r) hv
  · exact (List.mem_singleton.mp hx).symm.trans hv

/-- After an answered toggle every visible value is the old one, so the next answer latches. -/
theorem latched_of_none {v : Bool} {xs : List Bool} (h : ∀ y ∈ xs, y ≠ v) : Latched v xs := by
  induction xs with
  | nil => exact latched_nil v
  | cons x xs ih =>
    refine latched_cons.mpr ⟨fun hx => ?_, ih fun y hy => h y (List.mem_cons_of_mem x hy)⟩
    exact absurd hx (h x List.mem_cons_self)

end ToggleHandshake
