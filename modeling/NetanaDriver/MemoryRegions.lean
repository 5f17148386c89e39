import Mathlib

/-! Regions of a linear memory: cells from a start on, regions that follow one another without a
gap, and counted loops that place blocks with a moving pointer. -/
namespace MemoryRegions

/-- `size` cells from `start` on. -/
structure Region where
  start : ℤ
  size : ℕ
  deriving DecidableEq, Repr

def Region.cells (r : Region) : Set ℤ := Set.Ico r.start (r.start + r.size)

/-- The regions follow one another from `a` to `b`. -/
def Tiles : ℤ → List Region → ℤ → Prop
  | a, [], b => a = b
  | a, r :: l, b => r.start = a ∧ Tiles (a + r.size) l b

theorem Tiles.append {a b c : ℤ} {l m : List Region} (hl : Tiles a l b) (hm : Tiles b m c) :
    Tiles a (l ++ m) c := by
  induction l generalizing a with
  | nil =>
    rw [show a = b from hl]
    exact hm
  | cons r l ih => exact ⟨hl.1, ih hl.2⟩

theorem Tiles.le {a b : ℤ} {l : List Region} (h : Tiles a l b) : a ≤ b := by
  induction l generalizing a with
  | nil => exact le_of_eq h
  | cons r l ih => exact le_trans (le_add_of_nonneg_right (Int.natCast_nonneg _)) (ih h.2)

/-- Regions without a gap cover the interval between the ends. -/
theorem Tiles.cover {a b : ℤ} {l : List Region} (h : Tiles a l b) (x : ℤ) :
    (∃ r ∈ l, x ∈ r.cells) ↔ x ∈ Set.Ico a b := by
  induction l generalizing a with
  | nil =>
    rw [show a = b from h, Set.Ico_self]
    simp
  | cons r l ih =>
    have hle : a + r.size ≤ b := h.2.le
    rw [List.exists_mem_cons_iff, ih h.2, Region.cells, h.1, Set.mem_Ico, Set.mem_Ico, Set.mem_Ico]
    omega

theorem Tiles.mem_cells {a b : ℤ} {l : List Region} (h : Tiles a l b) {r : Region} (hr : r ∈ l)
    {x : ℤ} (hx : x ∈ r.cells) : x ∈ Set.Ico a b := (h.cover x).mp ⟨r, hr, hx⟩

theorem Tiles.pairwise {a b : ℤ} {l : List Region} (h : Tiles a l b) :
    l.Pairwise fun r s => Disjoint r.cells s.cells := by
  induction l generalizing a with
  | nil => exact List.Pairwise.nil
  | cons r l ih =>
    refine List.Pairwise.cons (fun s hs => ?_) (ih h.2)
    rw [Set.disjoint_left]
    intro x hxr hxs
    have hlow := (h.2.mem_cells hs hxs).1
    have hhigh := hxr.2
    rw [h.1] at hhigh
    exact absurd hlow (not_le.mpr hhigh)

/-- To be apart from all of them is to be apart from the interval. -/
theorem Tiles.disjoint_iff {a b : ℤ} {l : List Region} (h : Tiles a l b) (s : Set ℤ) :
    (∀ r ∈ l, Disjoint r.cells s) ↔ Disjoint (Set.Ico a b) s := by
  constructor
  · intro hall
    rw [Set.disjoint_left]
    intro x hx
    obtain ⟨r, hr, hxr⟩ := (h.cover x).mpr hx
    exact Set.disjoint_left.mp (hall r hr) hxr
  · intro hd r hr
    exact hd.mono_left fun x hx => h.mem_cells hr hx

theorem Tiles.subset_iff {a b : ℤ} {l : List Region} (h : Tiles a l b) (s : Set ℤ) :
    (∀ r ∈ l, r.cells ⊆ s) ↔ Set.Ico a b ⊆ s := by
  constructor
  · intro hall x hx
    obtain ⟨r, hr, hxr⟩ := (h.cover x).mpr hx
    exact hall r hr hxr
  · intro hs r hr x hx
    exact hs (h.mem_cells hr hx)

/-- Regions without a gap and others lie in a set exactly where the interval and the others do. -/
theorem Tiles.append_subset_iff {a b : ℤ} {l : List Region} (h : Tiles a l b)
    (others : List Region) (s : Set ℤ) :
    (∀ r ∈ l ++ others, r.cells ⊆ s) ↔ Set.Ico a b ⊆ s ∧ ∀ r ∈ others, r.cells ⊆ s := by
  rw [List.forall_mem_append, h.subset_iff]

/-- They are all apart exactly where the interval and the others are. -/
theorem Tiles.append_pairwise_iff {a b : ℤ} {l : List Region} (h : Tiles a l b)
    (others : List Region) :
    ((l ++ others).Pairwise fun r s => Disjoint r.cells s.cells) ↔
      (others.Pairwise fun r s => Disjoint r.cells s.cells) ∧
        ∀ r ∈ others, Disjoint (Set.Ico a b) r.cells := by
  rw [List.pairwise_append]
  constructor
  · rintro ⟨-, hothers, hcross⟩
    exact ⟨hothers, fun r hr => (h.disjoint_iff r.cells).mp fun q hq => hcross q hq r hr⟩
  · rintro ⟨hothers, hcross⟩
    exact ⟨h.pairwise, hothers, fun q hq r hr => (h.disjoint_iff r.cells).mpr (hcross r hr) q hq⟩

/-- Intervals that are not empty are apart if one ends before the other starts. -/
theorem disjoint_Ico_iff {a b c d : ℤ} (hab : a < b) (hcd : c < d) :
    Disjoint (Set.Ico a b) (Set.Ico c d) ↔ b ≤ c ∨ d ≤ a := by
  rw [Set.Ico_disjoint_Ico]
  omega

section Placement

variable {α : Type*} {block : ℕ → α × ℕ} {size : ℕ}

/-- A counted loop: `block` places one thing at the pointer and moves the pointer on. -/
def place (block : ℕ → α × ℕ) : ℕ → ℕ → List α × ℕ
  | 0, pb => ([], pb)
  | n + 1, pb =>
    let r := place block n (block pb).2
    ((block pb).1 :: r.1, r.2)

@[simp] theorem place_length (n pb : ℕ) : (place block n pb).1.length = n := by
  induction n generalizing pb with
  | zero => rfl
  | succ n ih => exact congrArg (· + 1) (ih _)

/-- Where the loop ends, if every pass moves the pointer by the same amount. -/
theorem place_end (hsize : ∀ pb, (block pb).2 = pb + size) (n pb : ℕ) :
    (place block n pb).2 = pb + n * size := by
  induction n generalizing pb with
  | zero =>
    rw [Nat.zero_mul]
    rfl
  | succ n ih =>
    calc (place block n (block pb).2).2 = (block pb).2 + n * size := ih _
      _ = pb + (n + 1) * size := by
        rw [hsize]
        ring

/-- What lies at each index. -/
theorem place_getElem (hsize : ∀ pb, (block pb).2 = pb + size) {n i : ℕ} (pb : ℕ) (hi : i < n) :
    (place block n pb).1[i]? = some (block (pb + i * size)).1 := by
  induction n generalizing i pb with
  | zero => exact absurd hi (Nat.not_lt_zero i)
  | succ n ih =>
    cases i with
    | zero =>
      rw [Nat.zero_mul]
      rfl
    | succ i =>
      calc (place block n (block pb).2).1[i]?
          = some (block ((block pb).2 + i * size)).1 := ih _ (Nat.lt_of_succ_lt_succ hi)
        _ = some (block (pb + (i + 1) * size)).1 := by
          rw [hsize]
          congr 3
          ring

/-- If what is placed takes the cells from the pointer to its next position, the whole takes the
cells from the first position to the last. -/
theorem place_tiles {regions : α → List Region}
    (hregions : ∀ pb : ℕ, Tiles pb (regions (block pb).1) (block pb).2) (n pb : ℕ) :
    Tiles pb ((place block n pb).1.flatMap regions) (place block n pb).2 := by
  induction n generalizing pb with
  | zero => exact rfl
  | succ n ih =>
    rw [place, List.flatMap_cons]
    exact (hregions pb).append (ih _)

end Placement

end MemoryRegions
