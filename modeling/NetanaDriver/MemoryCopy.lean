import NetanaDriver.DpmFilters

/-! `OS_Memcpy` with its loops over words and bytes (OS_Linux.c). -/
namespace NetanaDriver

open ByteMemory

/-- The memory and the two pointers of a copy. `reads`: the accesses through the source pointer,
with their widths. -/
structure CopyState where
  mem : Memory
  pDest : ℕ
  pSrc : ℕ
  reads : List (ℕ × ℕ)

/-- `*(pDest32)++ = *(pSrc32)++`. -/
def copyWord (x : CopyState) : CopyState where
  mem := write32 x.mem x.pDest (read32 x.mem x.pSrc)
  pDest := x.pDest + 4
  pSrc := x.pSrc + 4
  reads := x.reads ++ [(x.pSrc, 4)]

/-- `*(pDest8++) = *(pSrc8++)`. -/
def copyByte (x : CopyState) : CopyState where
  mem := store x.mem x.pDest [x.mem x.pSrc]
  pDest := x.pDest + 1
  pSrc := x.pSrc + 1
  reads := x.reads ++ [(x.pSrc, 1)]

/-- A loop that copies while a whole block is left: the state and the size that remain. -/
def copyBlocks (block : ℕ) (body : CopyState → CopyState) (ulSize : ℕ) (x : CopyState) :
    CopyState × ℕ :=
  if 0 < block ∧ block ≤ ulSize then copyBlocks block body (ulSize - block) (body x)
  else (x, ulSize)
termination_by ulSize

/-- `((uint32_t)(unsigned long)p & 0x03) == 0`. -/
def aligned32 (p : ℕ) : Bool := BitVec.ofNat 32 p &&& 0x03#32 == 0#32

/-- The loops of `OS_Memcpy`; `fWords` is whether the words are copied first. -/
def osMemcpyLoops (fWords : Bool) (pvDest pvSrc ulSize : ℕ) (m : Memory) : CopyState :=
  let start : CopyState := ⟨m, pvDest, pvSrc, []⟩
  if fWords then
    let (x, n) := copyBlocks 8 (fun x => copyWord (copyWord x)) ulSize start
    let (x, n) := copyBlocks 4 copyWord n x
    (copyBlocks 1 copyByte n x).1
  else (copyBlocks 1 copyByte ulSize start).1

/-- `OS_Memcpy`. -/
def osMemcpyPointers (pvDest pvSrc ulSize : ℕ) (m : Memory) : CopyState :=
  osMemcpyLoops (aligned32 pvDest && aligned32 pvSrc) pvDest pvSrc ulSize m

/-- The areas of the source and of the destination are apart. -/
def AreasApart (pvDest pvSrc ulSize : ℕ) : Prop := pvSrc + ulSize ≤ pvDest ∨ pvDest + ulSize ≤ pvSrc

/-- The first `k` bytes are copied, and nothing else was written or read. -/
structure CopiedBytes (m : Memory) (pvDest pvSrc k : ℕ) (x : CopyState) : Prop where
  dest : x.pDest = pvDest + k
  src : x.pSrc = pvSrc + k
  mem : x.mem = write m pvDest k (area m pvSrc)
  reads : ∀ r ∈ x.reads, pvSrc ≤ r.1 ∧ r.1 + r.2 ≤ pvSrc + k

variable {m : Memory} {pvDest pvSrc k n : ℕ} {x : CopyState}

theorem copied_start (m : Memory) (pvDest pvSrc : ℕ) :
    CopiedBytes m pvDest pvSrc 0 ⟨m, pvDest, pvSrc, []⟩ := by
  refine ⟨rfl, rfl, ?_, fun r hr => absurd hr List.not_mem_nil⟩
  funext i
  rw [write_outside (by omega)]

theorem CopiedBytes.reads_append (h : CopiedBytes m pvDest pvSrc k x) (j : ℕ) :
    ∀ r ∈ x.reads ++ [(x.pSrc, j)], pvSrc ≤ r.1 ∧ r.1 + r.2 ≤ pvSrc + (k + j) := by
  intro r hr
  rcases List.mem_append.mp hr with hr | hr
  · have hold := h.reads r hr
    omega
  · rw [List.mem_singleton.mp hr, h.src]
    dsimp only
    omega

theorem CopiedBytes.copyWord (h : CopiedBytes m pvDest pvSrc k x)
    (hk : AreasApart pvDest pvSrc (k + 4)) :
    CopiedBytes m pvDest pvSrc (k + 4) (copyWord x) := by
  refine ⟨?_, ?_, ?_, h.reads_append 4⟩
  · show x.pDest + 4 = _
    rw [h.dest, Nat.add_assoc]
  · show x.pSrc + 4 = _
    rw [h.src, Nat.add_assoc]
  · show write32 x.mem x.pDest (read32 x.mem x.pSrc) = _
    rw [write32_read32, h.mem, h.dest, h.src, write_area_append hk]

theorem CopiedBytes.copyByte (h : CopiedBytes m pvDest pvSrc k x)
    (hk : AreasApart pvDest pvSrc (k + 1)) :
    CopiedBytes m pvDest pvSrc (k + 1) (copyByte x) := by
  refine ⟨?_, ?_, ?_, h.reads_append 1⟩
  · show x.pDest + 1 = _
    rw [h.dest, Nat.add_assoc]
  · show x.pSrc + 1 = _
    rw [h.src, Nat.add_assoc]
  · have hload : [x.mem x.pSrc] = load x.mem x.pSrc 1 := rfl
    show store x.mem x.pDest [x.mem x.pSrc] = _
    rw [hload, store_load, h.mem, h.dest, h.src, write_area_append hk]

/-- A loop leaves less than a block and has copied the rest. -/
theorem CopiedBytes.copyBlocks {block : ℕ} {body : CopyState → CopyState} (hblock : 0 < block)
    (hbody : ∀ k x, k + block ≤ n → CopiedBytes m pvDest pvSrc k x →
      CopiedBytes m pvDest pvSrc (k + block) (body x))
    {ulSize : ℕ} (h : CopiedBytes m pvDest pvSrc k x) (hn : k + ulSize = n) :
    ∃ k', k' + (copyBlocks block body ulSize x).2 = n ∧
      (copyBlocks block body ulSize x).2 < block ∧
      CopiedBytes m pvDest pvSrc k' (copyBlocks block body ulSize x).1 := by
  induction ulSize using Nat.strong_induction_on generalizing k x with
  | _ ulSize ih =>
    rw [NetanaDriver.copyBlocks]
    split
    · rename_i hmore
      apply ih (ulSize - block) (by omega) (hbody k x (by omega) h)
      omega
    · rename_i hless
      exact ⟨k, hn, by omega, h⟩

theorem apart_of_le {n' : ℕ} (h : AreasApart pvDest pvSrc n) (hle : n' ≤ n) :
    AreasApart pvDest pvSrc n' := by
  unfold AreasApart at *
  omega

/-- The last loop copies what is left. -/
theorem CopiedBytes.copyBytes (h : CopiedBytes m pvDest pvSrc k x)
    (hapart : AreasApart pvDest pvSrc n) {ulSize : ℕ} (hn : k + ulSize = n) :
    CopiedBytes m pvDest pvSrc n (NetanaDriver.copyBlocks 1 NetanaDriver.copyByte ulSize x).1 := by
  obtain ⟨k', hk', hlt, hcopied⟩ := h.copyBlocks Nat.one_pos
    (fun j y hj hy => hy.copyByte (apart_of_le hapart hj)) hn
  have heq : k' = n := by omega
  rwa [heq] at hcopied

/-- Both ways through the function copy the same. -/
theorem osMemcpyLoops_copied (fWords : Bool) (m : Memory) (hapart : AreasApart pvDest pvSrc n) :
    CopiedBytes m pvDest pvSrc n (osMemcpyLoops fWords pvDest pvSrc n m) := by
  have hstart := copied_start m pvDest pvSrc
  cases fWords with
  | false => exact hstart.copyBytes hapart (Nat.zero_add n)
  | true =>
    have htwo : ∀ j y, j + 8 ≤ n → CopiedBytes m pvDest pvSrc j y →
        CopiedBytes m pvDest pvSrc (j + 8) (copyWord (copyWord y)) := fun j y hj hy =>
      (hy.copyWord (apart_of_le hapart (by omega))).copyWord (apart_of_le hapart hj)
    obtain ⟨k, hk, -, h64⟩ := hstart.copyBlocks (by omega) htwo (Nat.zero_add n)
    obtain ⟨l, hl, -, h32⟩ := h64.copyBlocks (by omega)
      (fun j y hj hy => hy.copyWord (apart_of_le hapart hj)) hk
    exact h32.copyBytes hapart hl

/-- The function moves the bytes of the source to the destination, reads and writes no others,
and copies by words as it copies by bytes. -/
theorem osMemcpyPointers_copies (m : Memory) (hapart : AreasApart pvDest pvSrc n) :
    (∀ i < n, (osMemcpyPointers pvDest pvSrc n m).mem (pvDest + i) = m (pvSrc + i)) ∧
    (∀ a, a < pvDest ∨ pvDest + n ≤ a → (osMemcpyPointers pvDest pvSrc n m).mem a = m a) ∧
    (∀ r ∈ (osMemcpyPointers pvDest pvSrc n m).reads,
      pvSrc ≤ r.1 ∧ r.1 + r.2 ≤ pvSrc + n) ∧
    ∀ fWords, (osMemcpyLoops fWords pvDest pvSrc n m).mem =
      (osMemcpyPointers pvDest pvSrc n m).mem := by
  have hcopied : CopiedBytes m pvDest pvSrc n (osMemcpyPointers pvDest pvSrc n m) :=
    osMemcpyLoops_copied _ m hapart
  refine ⟨fun i hi => ?_, fun a ha => ?_, hcopied.reads, fun fWords => ?_⟩
  · rw [hcopied.mem, write_inside hi, area]
  · rw [hcopied.mem, write_outside ha]
  · rw [(osMemcpyLoops_copied fWords m hapart).mem, hcopied.mem]

/-- Fifteen bytes between aligned addresses: two words, one word, three bytes. -/
theorem osMemcpyPointers_copies_fifteen :
    (∀ i < 15, (osMemcpyPointers 64 32 15 fun a => BitVec.ofNat 8 a).mem (64 + i) =
      BitVec.ofNat 8 (32 + i)) ∧
    ∀ r ∈ (osMemcpyPointers 64 32 15 fun a => BitVec.ofNat 8 a).reads,
      32 ≤ r.1 ∧ r.1 + r.2 ≤ 32 + 15 := by
  have hapart : AreasApart 64 32 15 := .inl (by omega)
  obtain ⟨hcopy, -, hreads, -⟩ := osMemcpyPointers_copies (fun a => BitVec.ofNat 8 a) hapart
  exact ⟨hcopy, hreads⟩

/-- To an address in the DPM it writes what lies at its source. -/
theorem osMemcpyPointers_eq (m : Memory) {ulSize : BitVec 32}
    (hapart : AreasApart pvDest pvSrc ulSize.toNat) :
    (osMemcpyPointers pvDest pvSrc ulSize.toNat m).mem =
      osMemcpyTo pvDest (area m pvSrc) ulSize m :=
  (osMemcpyLoops_copied _ m hapart).mem

end NetanaDriver
