import NetanaDriver.LittleEndian

/-! A memory of bytes with natural addresses: areas, writes and 32-bit words. -/
namespace ByteMemory

abbrev Memory := ℕ → BitVec 8

/-- The memory from an address on. -/
def area (m : Memory) (a : ℕ) : Memory := fun i => m (a + i)

/-- `n` bytes are written from an address on. -/
def write (m : Memory) (a n : ℕ) (f : Memory) : Memory :=
  fun i => if a ≤ i ∧ i < a + n then f (i - a) else m i

/-- `n` bytes from an address on. -/
def load (m : Memory) (a n : ℕ) : List (BitVec 8) := (List.range n).map fun i => m (a + i)

/-- A list of bytes is written. -/
def store (m : Memory) (a : ℕ) (bs : List (BitVec 8)) : Memory :=
  write m a bs.length fun i => bs.getD i 0#8

/-- A little-endian word. -/
def read32 (m : Memory) (a : ℕ) : BitVec 32 := BitVec.ofNat 32 (LittleEndian.value (load m a 4))

def write32 (m : Memory) (a : ℕ) (w : BitVec 32) : Memory :=
  store m a (LittleEndian.bytes 4 w.toNat)

variable {m : Memory} {a n : ℕ} {f : Memory}

theorem write_inside {i : ℕ} (hi : i < n) : write m a n f (a + i) = f i := by
  have hin : a ≤ a + i ∧ a + i < a + n := ⟨Nat.le_add_right a i, Nat.add_lt_add_left hi a⟩
  rw [write, if_pos hin, Nat.add_sub_cancel_left]

theorem write_outside {i : ℕ} (hi : i < a ∨ a + n ≤ i) : write m a n f i = m i := by
  have hout : ¬ (a ≤ i ∧ i < a + n) := by omega
  rw [write, if_neg hout]

@[simp] theorem length_load (m : Memory) (a n : ℕ) : (load m a n).length = n := by
  rw [load, List.length_map, List.length_range]

theorem load_congr {m' : Memory} (h : ∀ i < n, m (a + i) = m' (a + i)) :
    load m a n = load m' a n := by
  apply List.map_congr_left
  intro i hi
  exact h i (List.mem_range.mp hi)

/-- What was stored is what is loaded. -/
theorem load_store (m : Memory) (a : ℕ) (bs : List (BitVec 8)) :
    load (store m a bs) a bs.length = bs := by
  apply List.ext_getElem
  · rw [length_load]
  · intro i hi hbs
    simp only [load, List.getElem_map, List.getElem_range]
    rw [store, write_inside hbs, List.getD_eq_getElem bs 0#8 hbs]

theorem store_outside {bs : List (BitVec 8)} {i : ℕ} (hi : i < a ∨ a + bs.length ≤ i) :
    store m a bs i = m i := write_outside hi

theorem read32_congr {m' : Memory} (h : ∀ i < 4, m (a + i) = m' (a + i)) :
    read32 m a = read32 m' a := by
  rw [read32, read32, load_congr h]

@[simp] theorem read32_write32 (m : Memory) (a : ℕ) (w : BitVec 32) :
    read32 (write32 m a w) a = w := by
  have hlen : (LittleEndian.bytes 4 w.toNat).length = 4 := LittleEndian.length_bytes 4 w.toNat
  have hload : load (write32 m a w) a 4 = LittleEndian.bytes 4 w.toNat := by
    have h := load_store m a (LittleEndian.bytes 4 w.toNat)
    rwa [hlen] at h
  have hlt : w.toNat < 256 ^ 4 := w.isLt
  rw [read32, hload, LittleEndian.value_bytes_of_lt hlt, BitVec.ofNat_toNat, BitVec.setWidth_eq]

theorem write32_outside {w : BitVec 32} {i : ℕ} (hi : i < a ∨ a + 4 ≤ i) :
    write32 m a w i = m i := by
  apply store_outside
  rwa [LittleEndian.length_bytes]

theorem store_load (m : Memory) (d s n : ℕ) : store m d (load m s n) = write m d n (area m s) := by
  funext i
  rw [store, length_load, write, write]
  split
  · rename_i hi
    have hlt : i - d < (load m s n).length := by rw [length_load]; omega
    rw [List.getD_eq_getElem _ _ hlt]
    simp [load, area]
  · rfl

/-- A word that is read and written is the copy of its four bytes. -/
theorem write32_read32 (m : Memory) (d s : ℕ) :
    write32 m d (read32 m s) = write m d 4 (area m s) := by
  have hlen : (load m s 4).length = 4 := length_load m s 4
  have hlt : LittleEndian.value (load m s 4) < 2 ^ 32 := by
    have h := LittleEndian.value_lt (load m s 4)
    rwa [hlen] at h
  have hbytes : LittleEndian.bytes 4 (LittleEndian.value (load m s 4)) = load m s 4 := by
    have h := LittleEndian.bytes_value (load m s 4)
    rwa [hlen] at h
  rw [write32, read32, BitVec.toNat_ofNat, Nat.mod_eq_of_lt hlt, hbytes, store_load]

/-- The copy of an area may be made in two parts, the second one from the memory that the first
one left, where the areas are apart. -/
theorem write_area_append {d s k j : ℕ} (h : s + (k + j) ≤ d ∨ d + (k + j) ≤ s) :
    write (write m d k (area m s)) (d + k) j (area (write m d k (area m s)) (s + k)) =
      write m d (k + j) (area m s) := by
  funext i
  by_cases hlow : d ≤ i ∧ i < d + k
  · have hout : ¬ (d + k ≤ i ∧ i < d + k + j) := by omega
    have hin : d ≤ i ∧ i < d + (k + j) := by omega
    rw [write, if_neg hout, write, if_pos hlow, write, if_pos hin]
  · by_cases hhigh : d + k ≤ i ∧ i < d + k + j
    · have hin : d ≤ i ∧ i < d + (k + j) := by omega
      have hsrc : s + k + (i - (d + k)) < d ∨ d + k ≤ s + k + (i - (d + k)) := by omega
      have haddr : s + k + (i - (d + k)) = s + (i - d) := by omega
      rw [write, if_pos hhigh, area, write_outside hsrc, write, if_pos hin, area, haddr]
    · have hout : ¬ (d ≤ i ∧ i < d + (k + j)) := by omega
      rw [write, if_neg hhigh, write, if_neg hlow, write, if_neg hout]
end ByteMemory
