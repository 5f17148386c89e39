import Mathlib

/-! A sequence of records kept in `n` slots, record `j` in slot `j % n`, so that a slot keeps the
last record that went into it; and how the records that are still there are put back in order. -/
namespace RotatingSlots

/-- Of `m` records, those that are still in a slot, the oldest first. -/
def held (m n : ℕ) : List ℕ := List.range' (m - min m n) (min m n)

theorem mem_held {m n j : ℕ} : j ∈ held m n ↔ j < m ∧ m ≤ j + n := by
  unfold held
  rw [List.mem_range'_1]
  omega

theorem length_held (m n : ℕ) : (held m n).length = min m n := List.length_range'

/-- Two records less than `n` apart are in different slots. -/
theorem mod_ne {n i j : ℕ} (hij : i < j) (hji : j < i + n) : i % n ≠ j % n := by
  intro h
  have hdvd : n ∣ j - i := (Nat.modEq_iff_dvd' hij.le).mp h
  have hle : n ≤ j - i := Nat.le_of_dvd (by omega) hdvd
  omega

theorem mod_inj_of_held {m n i j : ℕ} (hi : i ∈ held m n) (hj : j ∈ held m n)
    (h : i % n = j % n) : i = j := by
  rw [mem_held] at hi hj
  rcases Nat.lt_trichotomy i j with hlt | heq | hgt
  · exact absurd h (mod_ne hlt (by omega))
  · exact heq
  · exact absurd h.symm (mod_ne hgt (by omega))

/-- The records that are still there are in the first slots, one in each. -/
theorem map_mod_held_perm {m n : ℕ} (hn : 0 < n) :
    ((held m n).map (· % n)).Perm (List.range (min m n)) := by
  have hnodup : ((held m n).map (· % n)).Nodup := by
    refine List.Nodup.map_on ?_ List.nodup_range'
    intro i hi j hj h
    exact mod_inj_of_held hi hj h
  have hsub : (held m n).map (· % n) ⊆ List.range (min m n) := by
    intro i hi
    obtain ⟨j, hj, rfl⟩ := List.mem_map.mp hi
    have hlt : j % n < n := Nat.mod_lt j hn
    have hle : j % n ≤ j := Nat.mod_le j n
    rw [mem_held] at hj
    exact List.mem_range.mpr (by omega)
  apply (List.subperm_of_subset hnodup hsub).perm_of_length_le
  rw [List.length_map, length_held, List.length_range]

variable {α : Type*}

/-- What is in the slots, sorted by a key that grows from record to record, is the records in
their order. -/
theorem mergeSort_slots {m n : ℕ} (hn : 0 < n) {slot record : ℕ → α} {key : α → ℕ}
    (hslot : ∀ j ∈ held m n, slot (j % n) = record j)
    (hkey : ∀ i ∈ held m n, ∀ j ∈ held m n, i < j → key (record i) < key (record j)) :
    ((List.range (min m n)).map slot).mergeSort (fun a b => decide (key a ≤ key b)) =
      (held m n).map record := by
  have hperm : ((List.range (min m n)).map slot).Perm ((held m n).map record) := by
    have hrecords : ((held m n).map (· % n)).map slot = (held m n).map record := by
      rw [List.map_map]
      exact List.map_congr_left hslot
    rw [← hrecords]
    exact ((map_mod_held_perm hn).map slot).symm
  have hinj : ∀ i ∈ held m n, ∀ j ∈ held m n,
      key (record i) ≤ key (record j) → key (record j) ≤ key (record i) → i = j := by
    intro i hi j hj hle hge
    rcases Nat.lt_trichotomy i j with hlt | heq | hgt
    · have := hkey i hi j hj hlt
      omega
    · exact heq
    · have := hkey j hj i hi hgt
      omega
  have hsorted : ((held m n).map record).Pairwise fun a b => decide (key a ≤ key b) = true := by
    rw [List.pairwise_map]
    have hlt : (held m n).Pairwise (· < ·) := List.pairwise_lt_range'
    refine hlt.imp_of_mem ?_
    intro i j hi hj hij
    exact decide_eq_true (hkey i hi j hj hij).le
  have hmerge : (((List.range (min m n)).map slot).mergeSort
      fun a b => decide (key a ≤ key b)).Pairwise fun a b => decide (key a ≤ key b) = true := by
    apply List.pairwise_mergeSort
    · intro a b c hab hbc
      simp only [decide_eq_true_eq] at hab hbc ⊢
      exact hab.trans hbc
    · intro a b
      simp only [Bool.or_eq_true, decide_eq_true_eq]
      exact le_total _ _
  have hsame := (List.mergeSort_perm ((List.range (min m n)).map slot)
    fun a b => decide (key a ≤ key b)).trans hperm
  refine hsame.eq_of_pairwise ?_ hmerge hsorted
  intro a b ha hb hab hba
  obtain ⟨i, hi, rfl⟩ := List.mem_map.mp (hsame.mem_iff.mp ha)
  obtain ⟨j, hj, rfl⟩ := List.mem_map.mp hb
  rw [hinj i hi j hj (of_decide_eq_true hab) (of_decide_eq_true hba)]

section Tally
variable {β : Type*} [AddCommMonoid β] {m n c : ℕ} {count slot : ℕ → β}

/-- Each slot counts the record that is in it, and a slot without a record counts nothing. -/
structure Tally (m n : ℕ) (count slot : ℕ → β) : Prop where
  held : ∀ j ∈ held m n, slot (j % n) = count j
  unused : ∀ i, m ≤ i → i < n → slot i = 0

/-- Record `c` is counted again in its slot, or for the first time. -/
theorem Tally.update (h : Tally m n count slot) (hn : 0 < n) (hm : m = c ∨ m = c + 1)
    (count' : ℕ → β) (hsame : ∀ j < c, count' j = count j) :
    Tally (c + 1) n count' (Function.update slot (c % n) (count' c)) := by
  have hlt : c % n < n := Nat.mod_lt c hn
  have hle : c % n ≤ c := Nat.mod_le c n
  constructor
  · intro j hj
    rw [mem_held] at hj
    rcases Nat.lt_or_ge j c with hjc | hjc
    · rw [Function.update_of_ne (mod_ne hjc (by omega)), hsame j hjc]
      exact h.held j (mem_held.mpr (by omega))
    · have heq : j = c := by omega
      rw [heq, Function.update_self]
  · intro i hi hin
    rw [Function.update_of_ne (by omega)]
    exact h.unused i (by omega) hin

/-- All slots together count the records that are still there. -/
theorem Tally.sum (h : Tally m n count slot) (hn : 0 < n) :
    ((List.range n).map slot).sum = ((RotatingSlots.held m n).map count).sum := by
  have hrange : List.range n = List.range (min m n) ++ List.range' (min m n) (n - min m n) := by
    have hsplit := @List.range'_append 0 (min m n) (n - min m n) 1
    have hlen : min m n + (n - min m n) = n := by omega
    rw [Nat.one_mul, Nat.zero_add, hlen] at hsplit
    rw [List.range_eq_range', List.range_eq_range', hsplit]
  have hunused : ((List.range' (min m n) (n - min m n)).map slot).sum = 0 := by
    apply List.sum_eq_zero
    intro b hb
    obtain ⟨i, hi, rfl⟩ := List.mem_map.mp hb
    rw [List.mem_range'_1] at hi
    exact h.unused i (by omega) (by omega)
  calc ((List.range n).map slot).sum
      = ((List.range (min m n)).map slot).sum := by
        rw [hrange, List.map_append, List.sum_append, hunused, add_zero]
    _ = (((RotatingSlots.held m n).map (· % n)).map slot).sum :=
        (((map_mod_held_perm hn).map slot).sum_eq).symm
    _ = ((RotatingSlots.held m n).map count).sum := by
        rw [List.map_map]
        exact congrArg List.sum (List.map_congr_left h.held)

end Tally
end RotatingSlots
