import NetanaDriver.ToggleHandshake

/-! A ring of `n` cells that are filled and freed in order, with one flag bit for each cell: the
bit of cell `p` is set while the cell holds one of the entries numbered from `r` up to `w`, the
entry number `q` lying in cell `q % n`. The flag word is kept up to date by toggling one bit
for every entry that comes or goes, no matter which party's copy the toggle goes to. -/
namespace FlagRing
open ToggleHandshake

/-- Cell `p` holds an entry that has been put in and not taken out. -/
def Occupied (n r w p : ℕ) : Prop := ∃ q, r ≤ q ∧ q < w ∧ q % n = p

/-- The flag word shows exactly the occupied cells. -/
def Shows {m : ℕ} (u : BitVec m) (n r w : ℕ) : Prop :=
  ∀ p, p < n → (u.getLsbD p = true ↔ Occupied n r w p)

theorem not_occupied_empty (n r p : ℕ) : ¬ Occupied n r r p := by
  rintro ⟨q, h1, h2, -⟩
  omega

/-- Two entries of a ring that is not overfull never share a cell. -/
theorem eq_of_same_cell {n r w q q' : ℕ} (hw : w ≤ r + n) (hq : r ≤ q) (hq' : r ≤ q')
    (hqw : q < w) (hqw' : q' < w) (h : q % n = q' % n) : q = q' := by
  have hle : ∀ a b, a ≤ b → b < a + n → a % n = b % n → a = b := by
    intro a b hab hlt hmod
    have hdvd : n ∣ b - a := Nat.dvd_of_mod_eq_zero (Nat.sub_mod_eq_zero_of_mod_eq hmod.symm)
    have hzero := Nat.eq_zero_of_dvd_of_lt hdvd (by omega)
    omega
  rcases Nat.le_total q q' with hqq | hqq
  · exact hle q q' hqq (by omega) h
  · exact (hle q' q hqq (by omega) h.symm).symm

/-- The cell of the next entry to come is free exactly when the ring is not full. -/
theorem occupied_last {n r w : ℕ} (hn : 0 < n) (hr : r ≤ w) (hw : w ≤ r + n) :
    Occupied n r w (w % n) ↔ w = r + n := by
  constructor
  · rintro ⟨q, h1, h2, h3⟩
    by_contra hne
    have hq : q = w := eq_of_same_cell (w := w + 1) (by omega) h1 hr (by omega) (by omega) h3
    omega
  · intro h
    exact ⟨r, le_rfl, by omega, by rw [h, Nat.add_mod_right]⟩

/-- The cell of the oldest entry is occupied exactly when the ring is not empty. -/
theorem occupied_first {n r w : ℕ} : Occupied n r w (r % n) ↔ r < w := by
  constructor
  · rintro ⟨q, h1, h2, -⟩
    omega
  · intro h
    exact ⟨r, le_rfl, h, rfl⟩

theorem shows_zero {m : ℕ} (n r : ℕ) : Shows (0#m) n r r := by
  intro p _
  simp [not_occupied_empty]

theorem occupied_push {n r w p : ℕ} (hr : r ≤ w) :
    Occupied n r (w + 1) p ↔ Occupied n r w p ∨ w % n = p := by
  constructor
  · rintro ⟨q, h1, h2, h3⟩
    by_cases hq : q = w
    · exact Or.inr (hq ▸ h3)
    · exact Or.inl ⟨q, h1, by omega, h3⟩
  · rintro (⟨q, h1, h2, h3⟩ | h)
    · exact ⟨q, h1, by omega, h3⟩
    · exact ⟨w, hr, by omega, h⟩

theorem occupied_pop {n r w p : ℕ} (hr : r < w) (hw : w ≤ r + n) :
    Occupied n (r + 1) w p ↔ Occupied n r w p ∧ r % n ≠ p := by
  constructor
  · rintro ⟨q, h1, h2, h3⟩
    refine ⟨⟨q, by omega, h2, h3⟩, fun h => ?_⟩
    have hq : q = r := eq_of_same_cell hw (by omega) le_rfl h2 hr (h3.trans h.symm)
    omega
  · rintro ⟨⟨q, h1, h2, h3⟩, hne⟩
    have hq : q ≠ r := fun h => hne (h ▸ h3)
    exact ⟨q, by omega, h2, h3⟩

/-- An entry comes: either party toggles the bit of its cell. -/
theorem Shows.push {m n r w : ℕ} {u : BitVec m} (h : Shows u n r w) (hm : n ≤ m) (hr : r ≤ w)
    (hw : w < r + n) : Shows (toggleBit u (w % n)) n r (w + 1) := by
  have hn : 0 < n := by omega
  have hfree : ¬ Occupied n r w (w % n) := by
    rw [occupied_last hn hr hw.le]
    omega
  intro p hp
  rw [getLsbD_toggleBit u _ p (by omega), occupied_push hr]
  by_cases hpw : p = w % n
  · subst hpw
    have hbit : u.getLsbD (w % n) = false := by
      cases hb : u.getLsbD (w % n) with
      | false => rfl
      | true => exact absurd ((h _ hp).mp hb) hfree
    simp [hbit]
  · rw [decide_eq_false hpw, Bool.xor_false, h p hp]
    have hne : ¬ w % n = p := fun h => hpw h.symm
    simp [hne]

/-- The oldest entry goes: either party toggles the bit of its cell. -/
theorem Shows.pop {m n r w : ℕ} {u : BitVec m} (h : Shows u n r w) (hm : n ≤ m) (hr : r < w)
    (hw : w ≤ r + n) : Shows (toggleBit u (r % n)) n (r + 1) w := by
  have hn : 0 < n := by omega
  intro p hp
  rw [getLsbD_toggleBit u _ p (by omega), occupied_pop hr hw]
  by_cases hpr : p = r % n
  · subst hpr
    have hbit : u.getLsbD (r % n) = true := (h _ hp).mpr (occupied_first.mpr hr)
    simp [hbit]
  · rw [decide_eq_false hpr, Bool.xor_false, h p hp]
    have hne : r % n ≠ p := fun h => hpr h.symm
    simp [hne]

/-- The same on a private copy of the flags, where the bit is cleared. -/
theorem Shows.clear {m n r w : ℕ} {u : BitVec m} (h : Shows u n r w) (hm : n ≤ m) (hr : r < w)
    (hw : w ≤ r + n) : Shows (u &&& ~~~(1#m <<< (r % n))) n (r + 1) w := by
  intro p hp
  have hpm : p < m := by omega
  rw [BitVec.getLsbD_and, BitVec.getLsbD_not, getLsbD_one_shiftLeft _ p hpm,
    occupied_pop hr hw, ← h p hp]
  by_cases hpr : p = r % n
  · simp [hpr]
  · have hne : ¬ r % n = p := fun h => hpr h.symm
    simp [hpr, hne, hpm]

/-- The bit at the oldest entry tells whether there is one. -/
theorem Shows.first {m n r w : ℕ} {u : BitVec m} (h : Shows u n r w) (hn : 0 < n) :
    u.getLsbD (r % n) = true ↔ r < w := by
  rw [h _ (Nat.mod_lt r hn), occupied_first]

/-- A free cell at the next entry to come is room for it. -/
theorem Shows.room {m n r w : ℕ} {u : BitVec m} (h : Shows u n r w) (hn : 0 < n) (hr : r ≤ w)
    (hw : w ≤ r + n) (hfree : u.getLsbD (w % n) = false) : w < r + n := by
  by_contra hfull
  have hocc : Occupied n r w (w % n) := (occupied_last hn hr hw).mpr (by omega)
  rw [(h _ (Nat.mod_lt w hn)).mpr hocc] at hfree
  cases hfree

/-- Both parties' words differ exactly at the occupied cells: a toggle of either is a toggle of
the difference. -/
theorem toggleBit_xor_left {m : ℕ} (u v : BitVec m) (b : ℕ) :
    toggleBit u b ^^^ v = toggleBit (u ^^^ v) b := by
  rw [toggleBit, toggleBit, BitVec.xor_assoc, BitVec.xor_comm _ v, BitVec.xor_assoc]

theorem toggleBit_xor_right {m : ℕ} (u v : BitVec m) (b : ℕ) :
    u ^^^ toggleBit v b = toggleBit (u ^^^ v) b := by
  rw [toggleBit, toggleBit, BitVec.xor_assoc]

/-- The position after `p`, counted with a comparison instead of a remainder. -/
theorem next_mod {n q : ℕ} (hn : 0 < n) :
    (if q % n + 1 ≥ n then 0 else q % n + 1) = (q + 1) % n := by
  have hlt := Nat.mod_lt q hn
  have hdiv := Nat.div_add_mod q n
  split
  · have hq : q + 1 = n * (q / n + 1) := by
      rw [Nat.mul_add]
      omega
    rw [hq, Nat.mul_mod_right]
  · rename_i h
    have hq : q + 1 = n * (q / n) + (q % n + 1) := by omega
    calc q % n + 1
        = (q % n + 1) % n := (Nat.mod_eq_of_lt (by omega)).symm
      _ = (n * (q / n) + (q % n + 1)) % n := (Nat.mul_add_mod n (q / n) (q % n + 1)).symm
      _ = (q + 1) % n := by rw [← hq]

/-- The `k` cells from cell `c` on. -/
def runCells (n c k : ℕ) : List ℕ := (List.range k).map fun j => (c + j) % n

/-- The length of the longest run of set flags from cell `c` on, in one turn. -/
def runLength {m : ℕ} (u : BitVec m) (n c : ℕ) : ℕ :=
  Nat.findGreatest (fun k => ∀ j < k, u.getLsbD ((c + j) % n) = true) n

theorem runCells_succ (n c k : ℕ) : runCells n c (k + 1) = runCells n c k ++ [(c + k) % n] := by
  rw [runCells, List.range_succ, List.map_append, List.map_singleton, runCells]

theorem mem_runCells {n c k p : ℕ} : p ∈ runCells n c k ↔ ∃ j, j < k ∧ (c + j) % n = p := by
  simp [runCells]

/-- Before a full turn the next cell is a new one. -/
theorem next_not_mem_runCells {n c k : ℕ} (hk : k < n) : (c + k) % n ∉ runCells n c k := by
  intro h
  obtain ⟨j, hj, heq⟩ := mem_runCells.mp h
  have hsame : c + j = c + k := eq_of_same_cell (r := c) (w := c + k + 1) (by omega) (by omega)
    (by omega) (by omega) (by omega) heq
  omega

/-- A full turn comes back to its first cell. -/
theorem next_mem_runCells {n c : ℕ} (hn : 0 < n) : (c + n) % n ∈ runCells n c n :=
  mem_runCells.mpr ⟨0, hn, by rw [Nat.add_zero, Nat.add_mod_right]⟩

theorem runLength_le {m : ℕ} (u : BitVec m) (n c : ℕ) : runLength u n c ≤ n :=
  Nat.findGreatest_le n

theorem getLsbD_of_lt_runLength {m n c j : ℕ} {u : BitVec m} (hj : j < runLength u n c) :
    u.getLsbD ((c + j) % n) = true := by
  have hrun := Nat.findGreatest_spec (P := fun k => ∀ j < k, u.getLsbD ((c + j) % n) = true)
    (Nat.zero_le n) fun j hj => absurd hj (Nat.not_lt_zero j)
  exact hrun j hj

/-- The run ends at a clear flag, or after a full turn. -/
theorem getLsbD_runLength {m n c : ℕ} {u : BitVec m} (h : runLength u n c < n) :
    u.getLsbD ((c + runLength u n c) % n) = false := by
  by_contra hset
  apply Nat.findGreatest_is_greatest (Nat.lt_succ_self (runLength u n c)) h
  intro j hj
  rcases Nat.lt_succ_iff_lt_or_eq.mp hj with hlt | heq
  · exact getLsbD_of_lt_runLength hlt
  · rw [heq]
    exact Bool.eq_true_of_not_eq_false hset

theorem runLength_congr {m n c : ℕ} {u v : BitVec m} (hn : 0 < n)
    (h : ∀ p < n, u.getLsbD p = v.getLsbD p) : runLength u n c = runLength v n c := by
  have hiff (k : ℕ) : (∀ j < k, u.getLsbD ((c + j) % n) = true) ↔
      ∀ j < k, v.getLsbD ((c + j) % n) = true := by
    refine forall₂_congr fun j _ => ?_
    rw [h _ (Nat.mod_lt _ hn)]
  rw [runLength, runLength]
  exact le_antisymm (Nat.findGreatest_mono_left (fun k => (hiff k).mp) n)
    (Nat.findGreatest_mono_left (fun k => (hiff k).mpr) n)

end FlagRing
