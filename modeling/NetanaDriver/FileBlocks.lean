import Mathlib

/-! A list cut into blocks of one length, of which the last may be shorter, each with its place
in the sequence. -/
namespace FileBlocks

variable {α : Type*}

/-- Block number `i`. -/
def block (b : ℕ) (l : List α) (i : ℕ) : List α := (l.drop (i * b)).take b

/-- The number of blocks that `n` entries need; nothing at all is one empty block. -/
def blockCount (b n : ℕ) : ℕ := if n ≤ b then 1 else (n - 1) / b + 1

/-- The place of a block in the sequence. -/
inductive Place where
  | only
  | first
  | middle
  | last
  deriving DecidableEq, Repr

def place (b n i : ℕ) : Place :=
  if n ≤ b then .only
  else if i = 0 then .first
  else if n ≤ (i + 1) * b then .last
  else .middle

theorem length_block (b : ℕ) (l : List α) (i : ℕ) :
    (block b l i).length = min b (l.length - i * b) := by
  rw [block, List.length_take, List.length_drop]

theorem take_succ_mul (b : ℕ) (l : List α) (i : ℕ) :
    l.take ((i + 1) * b) = l.take (i * b) ++ block b l i := by
  rw [block, Nat.succ_mul, List.take_add]

/-- The first blocks make up a prefix. -/
theorem flatten_blocks (b : ℕ) (l : List α) (n : ℕ) :
    ((List.range n).map (block b l)).flatten = l.take (n * b) := by
  induction n with
  | zero => simp
  | succ n ih =>
    rw [List.range_succ, List.map_append, List.flatten_append, ih, List.map_singleton,
      List.flatten_singleton, take_succ_mul]

/-- All blocks make up the whole. -/
theorem le_blockCount_mul {b : ℕ} (hb : 0 < b) (n : ℕ) : n ≤ blockCount b n * b := by
  unfold blockCount
  split
  · omega
  · have hdiv := Nat.lt_div_mul_add (a := n - 1) hb
    rw [Nat.succ_mul]
    omega

/-- A block that is not the last ends before the end. -/
theorem lt_of_succ_lt_blockCount {b n i : ℕ} (h : i + 1 < blockCount b n) : (i + 1) * b < n := by
  unfold blockCount at h
  split at h
  · omega
  · have hle : i + 1 ≤ (n - 1) / b := by omega
    have hmul : (i + 1) * b ≤ n - 1 :=
      calc (i + 1) * b
          ≤ (n - 1) / b * b := Nat.mul_le_mul_right b hle
        _ ≤ n - 1 := Nat.div_mul_le_self (n - 1) b
    omega

theorem blockCount_pos (b n : ℕ) : 0 < blockCount b n := by
  unfold blockCount
  split
  · exact Nat.one_pos
  · exact Nat.succ_pos _

/-- The end is reached with the last block and not before. -/
theorem le_succ_mul_iff {b n i : ℕ} (hb : 0 < b) (hi : i < blockCount b n) :
    n ≤ (i + 1) * b ↔ i + 1 = blockCount b n := by
  constructor
  · intro hle
    by_contra hne
    have hlt := lt_of_succ_lt_blockCount (b := b) (n := n) (i := i) (by omega)
    omega
  · intro heq
    rw [heq]
    exact le_blockCount_mul hb n

theorem blockCount_le (b n : ℕ) : blockCount b n ≤ n + 1 := by
  unfold blockCount
  split
  · omega
  · have hdiv := Nat.div_le_self (n - 1) b
    omega

/-- The blocks are as many as fit the length rounded up, and one for an empty file. -/
theorem blockCount_le_ceil {b : ℕ} (hb : 0 < b) (n : ℕ) :
    blockCount b n ≤ (n + b - 1) / b + 1 := by
  unfold blockCount
  split
  · exact Nat.le_add_left 1 _
  · have hshift : n + b - 1 = n - 1 + b := by omega
    rw [hshift, Nat.add_div_right _ hb]
    exact Nat.le_succ _

theorem blockCount_eq_one {b n : ℕ} (h : n ≤ b) : blockCount b n = 1 := if_pos h

theorem two_le_blockCount {b n : ℕ} (hb : 0 < b) (h : ¬ n ≤ b) : 2 ≤ blockCount b n := by
  unfold blockCount
  rw [if_neg h]
  have hdiv : 1 ≤ (n - 1) / b := (Nat.one_le_div_iff hb).mpr (by omega)
  omega

/-- A sequence of blocks is a single one, or begins with the first and ends with the last. -/
theorem places_eq {b : ℕ} (hb : 0 < b) (n : ℕ) :
    (List.range (blockCount b n)).map (place b n) =
      if n ≤ b then [.only]
      else .first :: (List.replicate (blockCount b n - 2) .middle ++ [.last]) := by
  by_cases hn : n ≤ b
  · rw [if_pos hn, blockCount_eq_one hn]
    simp [place, hn]
  · rw [if_neg hn]
    obtain ⟨m, hm⟩ : ∃ m, blockCount b n = m + 2 :=
      ⟨blockCount b n - 2, by have := two_le_blockCount hb hn; omega⟩
    have hmiddle : (List.range m).map (fun i => place b n (i + 1)) = List.replicate m .middle := by
      refine List.eq_replicate_iff.mpr ⟨by simp, fun x hx => ?_⟩
      obtain ⟨i, hi, rfl⟩ := List.mem_map.mp hx
      have hlt := List.mem_range.mp hi
      have hnot : ¬ n ≤ (i + 1 + 1) * b := by
        rw [le_succ_mul_iff hb (by omega), hm]
        omega
      rw [place, if_neg hn, if_neg (by omega), if_neg hnot]
    have hlast : place b n (m + 1) = .last := by
      have hle : n ≤ (m + 1 + 1) * b := (le_succ_mul_iff hb (by omega)).mpr hm.symm
      rw [place, if_neg hn, if_neg (by omega), if_pos hle]
    have hfirst : place b n 0 = .first := by
      rw [place, if_neg hn, if_pos rfl]
    rw [hm, List.range_succ_eq_map, List.map_cons, List.map_map, hfirst, List.range_succ,
      List.map_append, List.map_singleton]
    show _ :: ((List.range m).map (fun i => place b n (i + 1)) ++ [place b n (m + 1)]) = _
    rw [hmiddle, hlast, Nat.add_sub_cancel]

end FileBlocks
