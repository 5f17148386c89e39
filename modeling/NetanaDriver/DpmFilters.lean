import NetanaDriver.DpmLayout

/-! The filters of a port in the bytes of the DPM: `netana_set_filter` and `netana_get_filter`
(toolkit/netana_functions.c) over the layout that `netana_tkit_deviceadd` has read. -/
namespace NetanaDriver

open ByteMemory MemoryRegions

/-- `OS_Memset` and `OS_Memcpy` to an address in the DPM. -/
def osMemsetTo (pvMem : ℕ) (bFill : BitVec 8) (ulSize : BitVec 32) (m : Memory) : Memory :=
  write m pvMem ulSize.toNat fun _ => bFill

def osMemcpyTo (pvDest : ℕ) (pvSrc : ByteArea) (ulSize : BitVec 32) (m : Memory) : Memory :=
  write m pvDest ulSize.toNat pvSrc

/-- `IsCaptureRunning`. -/
def isCaptureRunning (m : Memory) : Bool := read32 m captureStateOffset != captureStateOff

/-- What lies at the pointers of a filter. -/
def FilterDataPtr.view (p : FilterDataPtr) (m : Memory) : FilterData :=
  { pbMask := area m p.pbMask, pbValue := area m p.pbValue }

def FilterDataPtr.clear (p : FilterDataPtr) (ulFilterSize : BitVec 32) (m : Memory) : Memory :=
  osMemsetTo p.pbValue 0#8 ulFilterSize (osMemsetTo p.pbMask 0#8 ulFilterSize m)

/-- A filter with anything in it is copied; its pointers have been checked. -/
def FilterDataPtr.copy (p : FilterDataPtr) (ptFilter : Option NetanaFilter) (m : Memory) : Memory :=
  match ptFilter with
  | none => m
  | some f =>
    if f.ulFilterSize > 0#32 then
      match f.pbMask, f.pbValue with
      | some pbMask, some pbValue =>
        osMemcpyTo p.pbValue pbValue f.ulFilterSize (osMemcpyTo p.pbMask pbMask f.ulFilterSize m)
      | _, _ => m
    else m

/-- What `netana_set_filter` writes once everything is checked. -/
def DpmFilterPtr.load (ptFilter : DpmFilterPtr) (ulFilterSize : BitVec 32)
    (ptFilterA ptFilterB : Option NetanaFilter) (ulRelationShip : BitVec 32) (m : Memory) :
    Memory :=
  let m := write32 m ptFilter.ptBase ulRelationShip
  let m := (ptFilter.atFilter filterA).clear ulFilterSize m
  let m := (ptFilter.atFilter filterB).clear ulFilterSize m
  let m := (ptFilter.atFilter filterA).copy ptFilterA m
  (ptFilter.atFilter filterB).copy ptFilterB m

/-- The pointers of a port, which the layout has for every port. -/
def DpmInstance.ptFilter (x : DpmInstance) (ulPort : ℕ) : DpmFilterPtr :=
  x.atFilters.getD ulPort ⟨0, fun _ => ⟨0, 0⟩⟩

/-- `netana_set_filter`. -/
def DpmInstance.netanaSetFilter (x : DpmInstance) (ulPort : BitVec 32)
    (ptFilterA ptFilterB : Option NetanaFilter) (ulRelationShip : BitVec 32) (m : Memory) :
    Memory × BitVec 32 :=
  if isCaptureRunning m then (m, netanaCaptureActive)
  else
    match filterError x.ulFilterSize ptFilterA with
    | some lRet => (m, lRet)
    | none =>
      match filterError x.ulFilterSize ptFilterB with
      | some lRet => (m, lRet)
      | none =>
        if ulPort < x.ulPortCnt then
          ((x.ptFilter ulPort.toNat).load x.ulFilterSize ptFilterA ptFilterB ulRelationShip m,
            netanaNoError)
        else (m, netanaInvalidPort)

/-- `netana_get_filter`. -/
def DpmInstance.netanaGetFilter (x : DpmInstance) (ulPort : BitVec 32)
    (ptFilterA ptFilterB : Option NetanaFilter) (m : Memory) : FilterReply :=
  if ulPort < x.ulPortCnt then
    let ptFilter := x.ptFilter ulPort.toNat
    let ulRelationShip := read32 m ptFilter.ptBase
    match ((ptFilter.atFilter filterA).view m).store x.ulFilterSize ptFilterA with
    | none => ⟨netanaInvalidParameter, some ulRelationShip, ptFilterA, ptFilterB⟩
    | some ptFilterA =>
      match ((ptFilter.atFilter filterB).view m).store x.ulFilterSize ptFilterB with
      | none => ⟨netanaInvalidParameter, some ulRelationShip, ptFilterA, ptFilterB⟩
      | some ptFilterB => ⟨netanaNoError, some ulRelationShip, ptFilterA, ptFilterB⟩
  else ⟨netanaInvalidPort, none, ptFilterA, ptFilterB⟩

/-- A byte of a filter, padded with zeros; no filter is one without bytes. -/
def filterByte (pb : NetanaFilter → Option ByteArea) (ptFilter : Option NetanaFilter) (i : ℕ) :
    BitVec 8 :=
  match ptFilter with
  | none => 0#8
  | some f => if i < f.ulFilterSize.toNat then (pb f).elim 0#8 fun b => b i else 0#8

/-- There are buffers for all that is asked for. -/
def HasBuffers (ptFilter : Option NetanaFilter) : Prop :=
  ∀ f, ptFilter = some f → f.ulFilterSize > 0#32 → f.pbMask.isSome ∧ f.pbValue.isSome

/-- The caller's buffer after a call: the first `n` bytes are those given, the others are left. -/
def Copied (n : ℕ) (byte : ℕ → BitVec 8) (before after : Option ByteArea) : Prop :=
  ∀ pb, before = some pb → ∃ pb', after = some pb' ∧
    (∀ i < n, pb' i = byte i) ∧ ∀ i, n ≤ i → pb' i = pb i

/-- What comes back for a request after the filter `set` has been set. -/
def Returned (ulFilterSize : BitVec 32) (set request reply : Option NetanaFilter) : Prop :=
  match request with
  | none => reply = none
  | some q => ∃ f, reply = some f ∧
    f.ulFilterSize.toNat = min q.ulFilterSize.toNat ulFilterSize.toNat ∧
    Copied f.ulFilterSize.toNat (filterByte (·.pbMask) set) q.pbMask f.pbMask ∧
    Copied f.ulFilterSize.toNat (filterByte (·.pbValue) set) q.pbValue f.pbValue

theorem toNat_of_not_pos {ulSize : BitVec 32} (h : ¬ ulSize > 0#32) : ulSize.toNat = 0 := by
  rw [gt_iff_lt, BitVec.lt_def] at h
  exact Nat.eq_zero_of_not_pos h

/-- An empty filter is padded from its first byte on. -/
theorem filterByte_empty (pb : NetanaFilter → Option ByteArea) {f : NetanaFilter}
    (h : ¬ f.ulFilterSize > 0#32) (i : ℕ) : filterByte pb (some f) i = 0#8 := by
  have hlen : ¬ i < f.ulFilterSize.toNat := by
    rw [toNat_of_not_pos h]
    exact Nat.not_lt_zero i
  exact if_neg hlen

/-- What the checks leave of a filter. -/
theorem filterError_none {ulFilterSize : BitVec 32} {f : NetanaFilter}
    (h : filterError ulFilterSize (some f) = none) (hpos : f.ulFilterSize > 0#32) :
    (∃ pbMask pbValue, f.pbMask = some pbMask ∧ f.pbValue = some pbValue) ∧
      f.ulFilterSize.toNat ≤ ulFilterSize.toNat := by
  have hcheck : (if f.pbMask.isNone ∨ f.pbValue.isNone then some netanaInvalidParameter
      else if f.ulFilterSize > ulFilterSize then some netanaInvalidBuffersize
      else none) = none := by
    have hunfold := h
    unfold filterError at hunfold
    simp only [if_pos hpos] at hunfold
    exact hunfold
  by_cases hnull : f.pbMask.isNone ∨ f.pbValue.isNone
  · rw [if_pos hnull] at hcheck
    exact absurd hcheck (Option.some_ne_none _)
  rw [if_neg hnull] at hcheck
  by_cases hsize : f.ulFilterSize > ulFilterSize
  · rw [if_pos hsize] at hcheck
    exact absurd hcheck (Option.some_ne_none _)
  rw [not_or, Option.isNone_iff_eq_none, Option.isNone_iff_eq_none] at hnull
  obtain ⟨pbMask, hmask⟩ := Option.ne_none_iff_exists'.mp hnull.1
  obtain ⟨pbValue, hvalue⟩ := Option.ne_none_iff_exists'.mp hnull.2
  refine ⟨⟨pbMask, pbValue, hmask, hvalue⟩, ?_⟩
  rw [gt_iff_lt, BitVec.lt_def] at hsize
  omega

theorem filterError_ne {ulFilterSize lRet : BitVec 32} {ptFilter : Option NetanaFilter}
    (h : filterError ulFilterSize ptFilter = some lRet) : lRet ≠ netanaNoError := by
  cases ptFilter with
  | none => exact absurd h.symm (Option.some_ne_none _)
  | some f =>
    unfold filterError at h
    simp only at h
    split_ifs at h
    · rw [← Option.some.inj h]
      decide
    · rw [← Option.some.inj h]
      decide

/-- A filter that lies as the layout has it: the value follows the mask. -/
def FilterDataPtr.Adjacent (p : FilterDataPtr) (ulFilterSize : BitVec 32) : Prop :=
  p.pbValue = p.pbMask + ulFilterSize.toNat

section OneFilter

variable {p : FilterDataPtr} {ulFilterSize : BitVec 32}

theorem FilterDataPtr.clear_outside (hp : p.Adjacent ulFilterSize) (m : Memory) {i : ℕ}
    (hi : i < p.pbMask ∨ p.pbMask + 2 * ulFilterSize.toNat ≤ i) :
    p.clear ulFilterSize m i = m i := by
  unfold FilterDataPtr.Adjacent at hp
  rw [FilterDataPtr.clear, osMemsetTo, write_outside (by omega), osMemsetTo,
    write_outside (by omega)]

theorem FilterDataPtr.clear_mask (hp : p.Adjacent ulFilterSize) (m : Memory) {i : ℕ}
    (hi : i < ulFilterSize.toNat) : p.clear ulFilterSize m (p.pbMask + i) = 0#8 := by
  unfold FilterDataPtr.Adjacent at hp
  rw [FilterDataPtr.clear, osMemsetTo, write_outside (by omega), osMemsetTo, write_inside hi]

theorem FilterDataPtr.clear_value (m : Memory) {i : ℕ} (hi : i < ulFilterSize.toNat) :
    p.clear ulFilterSize m (p.pbValue + i) = 0#8 := by
  rw [FilterDataPtr.clear, osMemsetTo, write_inside hi]

variable {ptFilter : Option NetanaFilter}

theorem FilterDataPtr.copy_outside (hp : p.Adjacent ulFilterSize)
    (hf : filterError ulFilterSize ptFilter = none) (m : Memory) {i : ℕ}
    (hi : i < p.pbMask ∨ p.pbMask + 2 * ulFilterSize.toNat ≤ i) : p.copy ptFilter m i = m i := by
  unfold FilterDataPtr.Adjacent at hp
  cases ptFilter with
  | none => rfl
  | some f =>
    rw [FilterDataPtr.copy]
    by_cases hpos : f.ulFilterSize > 0#32
    · obtain ⟨⟨pbMask, pbValue, hmask, hvalue⟩, hsize⟩ := filterError_none hf hpos
      simp only [if_pos hpos, hmask, hvalue, osMemcpyTo]
      rw [write_outside (by omega), write_outside (by omega)]
    · rw [if_neg hpos]

/-- A filter that is not empty shows through the mask and the value. -/
theorem FilterDataPtr.copy_mask (hp : p.Adjacent ulFilterSize)
    (hf : filterError ulFilterSize ptFilter = none) {m : Memory} {i : ℕ}
    (hi : i < ulFilterSize.toNat) (hm : m (p.pbMask + i) = 0#8) :
    p.copy ptFilter m (p.pbMask + i) = filterByte (·.pbMask) ptFilter i := by
  unfold FilterDataPtr.Adjacent at hp
  cases ptFilter with
  | none => exact hm
  | some f =>
    rw [FilterDataPtr.copy]
    by_cases hpos : f.ulFilterSize > 0#32
    · obtain ⟨⟨pbMask, pbValue, hmask, hvalue⟩, hsize⟩ := filterError_none hf hpos
      simp only [filterByte, if_pos hpos, hmask, hvalue, osMemcpyTo]
      rw [write_outside (by omega)]
      by_cases hlt : i < f.ulFilterSize.toNat
      · rw [write_inside hlt, if_pos hlt]
        rfl
      · rw [write_outside (by omega), if_neg hlt, hm]
    · rw [if_neg hpos, filterByte_empty _ hpos, hm]

theorem FilterDataPtr.copy_value (hp : p.Adjacent ulFilterSize)
    (hf : filterError ulFilterSize ptFilter = none) {m : Memory} {i : ℕ}
    (hm : m (p.pbValue + i) = 0#8) :
    p.copy ptFilter m (p.pbValue + i) = filterByte (·.pbValue) ptFilter i := by
  unfold FilterDataPtr.Adjacent at hp
  cases ptFilter with
  | none => exact hm
  | some f =>
    rw [FilterDataPtr.copy]
    by_cases hpos : f.ulFilterSize > 0#32
    · obtain ⟨⟨pbMask, pbValue, hmask, hvalue⟩, hsize⟩ := filterError_none hf hpos
      simp only [filterByte, if_pos hpos, hmask, hvalue, osMemcpyTo]
      by_cases hlt : i < f.ulFilterSize.toNat
      · rw [write_inside hlt, if_pos hlt]
        rfl
      · rw [write_outside (by omega), write_outside (by omega), if_neg hlt, hm]
    · rw [if_neg hpos, filterByte_empty _ hpos, hm]

end OneFilter

/-- The two filters of a port follow its relation and each other. -/
structure DpmFilterPtr.Laid (p : DpmFilterPtr) (ulFilterSize : BitVec 32) : Prop where
  first : (p.atFilter 0).pbMask = p.ptBase + sizeofFilterBase
  second : (p.atFilter 1).pbMask = p.ptBase + sizeofFilterBase + 2 * ulFilterSize.toNat
  adjacent : ∀ k, (p.atFilter k).Adjacent ulFilterSize

theorem filterBlock_laid (ulFilterSize : BitVec 32) (pb : ℕ) :
    (filterBlock ulFilterSize pb).1.Laid ulFilterSize := by
  refine ⟨rfl, ?_, ?_⟩
  · simp only [filterBlock, Matrix.cons_val_one, Matrix.cons_val_fin_one]
    omega
  · rw [Fin.forall_fin_two]
    exact ⟨rfl, rfl⟩

/-- The bytes of both filters lie in the port's block. -/
theorem DpmFilterPtr.Laid.bounds {p : DpmFilterPtr} {ulFilterSize : BitVec 32}
    (hp : p.Laid ulFilterSize) (k : Fin 2) {i : ℕ} (hi : i < ulFilterSize.toNat) :
    (p.ptBase ≤ (p.atFilter k).pbMask + i ∧
      (p.atFilter k).pbMask + i < p.ptBase + (sizeofFilterBase + 4 * ulFilterSize.toNat)) ∧
    p.ptBase ≤ (p.atFilter k).pbValue + i ∧
      (p.atFilter k).pbValue + i < p.ptBase + (sizeofFilterBase + 4 * ulFilterSize.toNat) := by
  have h0 := hp.first
  have h1 := hp.second
  have hv := hp.adjacent k
  unfold FilterDataPtr.Adjacent at hv
  fin_cases k
  · simp only [Fin.zero_eta] at hv ⊢
    omega
  · simp only [Fin.mk_one] at hv ⊢
    omega

section OnePort

variable {p : DpmFilterPtr} {ulFilterSize : BitVec 32} {fA fB : Option NetanaFilter}

/-- Nothing outside of the port's block is written. -/
theorem DpmFilterPtr.load_outside (hp : p.Laid ulFilterSize)
    (hA : filterError ulFilterSize fA = none) (hB : filterError ulFilterSize fB = none)
    (ulRelationShip : BitVec 32) (m : Memory) {i : ℕ}
    (hi : i < p.ptBase ∨ p.ptBase + (sizeofFilterBase + 4 * ulFilterSize.toNat) ≤ i) :
    p.load ulFilterSize fA fB ulRelationShip m i = m i := by
  have h0 := hp.first
  have h1 := hp.second
  unfold sizeofFilterBase at h0 h1 hi
  unfold DpmFilterPtr.load
  rw [FilterDataPtr.copy_outside (hp.adjacent 1) hB _ (by omega),
    FilterDataPtr.copy_outside (hp.adjacent 0) hA _ (by omega),
    FilterDataPtr.clear_outside (hp.adjacent 1) _ (by omega),
    FilterDataPtr.clear_outside (hp.adjacent 0) _ (by omega), write32_outside (by omega)]

theorem DpmFilterPtr.load_relation (hp : p.Laid ulFilterSize)
    (hA : filterError ulFilterSize fA = none) (hB : filterError ulFilterSize fB = none)
    (ulRelationShip : BitVec 32) (m : Memory) :
    read32 (p.load ulFilterSize fA fB ulRelationShip m) p.ptBase = ulRelationShip := by
  have h0 := hp.first
  have h1 := hp.second
  unfold sizeofFilterBase at h0 h1
  calc read32 (p.load ulFilterSize fA fB ulRelationShip m) p.ptBase
      = read32 (write32 m p.ptBase ulRelationShip) p.ptBase := by
        apply read32_congr
        intro i hi
        unfold DpmFilterPtr.load
        rw [FilterDataPtr.copy_outside (hp.adjacent 1) hB _ (by omega),
          FilterDataPtr.copy_outside (hp.adjacent 0) hA _ (by omega),
          FilterDataPtr.clear_outside (hp.adjacent 1) _ (by omega),
          FilterDataPtr.clear_outside (hp.adjacent 0) _ (by omega)]
    _ = ulRelationShip := read32_write32 m p.ptBase ulRelationShip

/-- What the filters of the port hold afterwards. -/
theorem DpmFilterPtr.load_bytes (hp : p.Laid ulFilterSize)
    (hA : filterError ulFilterSize fA = none) (hB : filterError ulFilterSize fB = none)
    (ulRelationShip : BitVec 32) (m : Memory) {i : ℕ} (hi : i < ulFilterSize.toNat) (k : Fin 2) :
    let v := (p.atFilter k).view (p.load ulFilterSize fA fB ulRelationShip m)
    v.pbMask i = filterByte (·.pbMask) (if k = 0 then fA else fB) i ∧
      v.pbValue i = filterByte (·.pbValue) (if k = 0 then fA else fB) i := by
  have h0 := hp.first
  have h1 := hp.second
  have hv0 := hp.adjacent 0
  have hv1 := hp.adjacent 1
  unfold FilterDataPtr.Adjacent at hv0 hv1
  unfold sizeofFilterBase at h0 h1
  intro v
  have hmask : v.pbMask i =
      p.load ulFilterSize fA fB ulRelationShip m ((p.atFilter k).pbMask + i) := rfl
  have hvalue : v.pbValue i =
      p.load ulFilterSize fA fB ulRelationShip m ((p.atFilter k).pbValue + i) := rfl
  rw [hmask, hvalue]
  unfold DpmFilterPtr.load
  fin_cases k
  · -- the first filter: the copy of the second one is behind it
    simp only [Fin.zero_eta, if_true]
    rw [FilterDataPtr.copy_outside (hp.adjacent 1) hB _ (by omega),
      FilterDataPtr.copy_outside (hp.adjacent 1) hB _ (by omega)]
    constructor
    · apply FilterDataPtr.copy_mask (hp.adjacent 0) hA hi
      rw [FilterDataPtr.clear_outside (hp.adjacent 1) _ (by omega)]
      exact FilterDataPtr.clear_mask (hp.adjacent 0) _ hi
    · apply FilterDataPtr.copy_value (hp.adjacent 0) hA
      rw [FilterDataPtr.clear_outside (hp.adjacent 1) _ (by omega)]
      exact FilterDataPtr.clear_value _ hi
  · simp only [Fin.mk_one, one_ne_zero, if_false]
    constructor
    · apply FilterDataPtr.copy_mask (hp.adjacent 1) hB hi
      rw [FilterDataPtr.copy_outside (hp.adjacent 0) hA _ (by omega)]
      exact FilterDataPtr.clear_mask (hp.adjacent 1) _ hi
    · apply FilterDataPtr.copy_value (hp.adjacent 1) hB
      rw [FilterDataPtr.copy_outside (hp.adjacent 0) hA _ (by omega)]
      exact FilterDataPtr.clear_value _ hi

end OnePort

/-- A call with buffers copies what lies in the DPM. -/
theorem FilterData.store_returned {ulFilterSize : BitVec 32} {v : FilterData}
    {set request : Option NetanaFilter}
    (hv : ∀ i < ulFilterSize.toNat, v.pbMask i = filterByte (·.pbMask) set i ∧
      v.pbValue i = filterByte (·.pbValue) set i) (hrequest : HasBuffers request) :
    ∃ reply, v.store ulFilterSize request = some reply ∧
      Returned ulFilterSize set request reply := by
  cases request with
  | none => exact ⟨none, rfl, rfl⟩
  | some q =>
    by_cases hpos : q.ulFilterSize > 0#32
    · obtain ⟨hmask, hvalue⟩ := hrequest q rfl hpos
      obtain ⟨pbMask, hmask⟩ := Option.isSome_iff_exists.mp hmask
      obtain ⟨pbValue, hvalue⟩ := Option.isSome_iff_exists.mp hvalue
      let ulLen := if q.ulFilterSize > ulFilterSize then ulFilterSize else q.ulFilterSize
      have hlen : ulLen.toNat = min q.ulFilterSize.toNat ulFilterSize.toNat := by
        by_cases hclip : q.ulFilterSize > ulFilterSize
        · rw [show ulLen = ulFilterSize from if_pos hclip]
          rw [gt_iff_lt, BitVec.lt_def] at hclip
          omega
        · rw [show ulLen = q.ulFilterSize from if_neg hclip]
          rw [gt_iff_lt, BitVec.lt_def] at hclip
          omega
      have hcopied : ∀ (pb src byte : ℕ → BitVec 8),
          (∀ i < ulFilterSize.toNat, src i = byte i) →
          Copied ulLen.toNat byte (some pb) (some (osMemcpy pb src ulLen)) := by
        intro pb src byte hsrc pb0 hpb0
        cases hpb0
        refine ⟨_, rfl, fun i hi => ?_, fun i hi => ?_⟩
        · rw [osMemcpy, if_pos hi]
          exact hsrc i (by omega)
        · rw [osMemcpy, if_neg (not_lt.mpr hi)]
      refine ⟨some ⟨ulLen, some (osMemcpy pbMask v.pbMask ulLen),
        some (osMemcpy pbValue v.pbValue ulLen)⟩, ?_, _, rfl, hlen, ?_, ?_⟩
      · simp only [FilterData.store, if_pos hpos, hmask, hvalue]
        rfl
      · rw [hmask]
        exact hcopied _ _ _ fun i hi => (hv i hi).1
      · rw [hvalue]
        exact hcopied _ _ _ fun i hi => (hv i hi).2
    · have hzero := toNat_of_not_pos hpos
      have hcopied : ∀ (byte : ℕ → BitVec 8) (pb : Option ByteArea),
          Copied q.ulFilterSize.toNat byte pb pb := by
        intro byte pb pb0 hpb0
        refine ⟨pb0, hpb0, fun i hi => ?_, fun i _ => rfl⟩
        rw [hzero] at hi
        exact absurd hi (Nat.not_lt_zero i)
      refine ⟨some q, ?_, q, rfl, ?_, hcopied _ _, hcopied _ _⟩
      · simp only [FilterData.store, if_neg hpos]
      · rw [hzero, Nat.zero_min]

/-- Blocks of one size are apart. -/
theorem block_apart {start size p q i : ℕ} (hne : p ≠ q) (hlow : start + p * size ≤ i)
    (hhigh : i < start + (p + 1) * size) :
    i < start + q * size ∨ start + (q + 1) * size ≤ i := by
  rcases lt_or_gt_of_ne hne with hlt | hgt
  · have hmul := Nat.mul_le_mul_right size (Nat.succ_le_of_lt hlt)
    left
    exact lt_of_lt_of_le hhigh (Nat.add_le_add_left hmul start)
  · have hmul := Nat.mul_le_mul_right size (Nat.succ_le_of_lt hgt)
    right
    exact le_trans (Nat.add_le_add_left hmul start) hlow

section Layout

variable (fAllocated : ℕ → Bool) (m₀ : Memory)

/-- Where the filter blocks start, and how long each one is. -/
def DpmSizes.filterStart (s : DpmSizes) : ℕ :=
  sizeofBaseDpm + s.ulGPIOCount.toNat * sizeofGpioBlock

def DpmSizes.filterBlockSize (s : DpmSizes) : ℕ := sizeofFilterBase + 4 * s.ulFilterSize.toNat

/-- The pointers of a port. -/
theorem ptFilter_eq {ulPort : ℕ} (hport : ulPort < (readSizes m₀).ulPortCount.toNat) :
    (readDpmLayout fAllocated m₀).ptFilter ulPort =
      (filterBlock (readSizes m₀).ulFilterSize ((readSizes m₀).filterStart +
        ulPort * (readSizes m₀).filterBlockSize)).1 := by
  unfold DpmInstance.ptFilter
  simp only [readDpmLayout]
  rw [List.getD_eq_getElem?_getD, place_getElem (filterBlock_snd _) _ hport,
    place_end gpioBlock_snd]
  rfl

theorem ptFilter_base {ulPort : ℕ} (hport : ulPort < (readSizes m₀).ulPortCount.toNat) :
    ((readDpmLayout fAllocated m₀).ptFilter ulPort).ptBase =
      (readSizes m₀).filterStart + ulPort * (readSizes m₀).filterBlockSize := by
  rw [ptFilter_eq fAllocated m₀ hport]
  rfl

theorem ptFilter_laid {ulPort : ℕ} (hport : ulPort < (readSizes m₀).ulPortCount.toNat) :
    ((readDpmLayout fAllocated m₀).ptFilter ulPort).Laid (readSizes m₀).ulFilterSize := by
  rw [ptFilter_eq fAllocated m₀ hport]
  exact filterBlock_laid _ _

/-- A byte before or behind the block of the port is not written. -/
theorem load_frame {ulPort : ℕ} (hport : ulPort < (readSizes m₀).ulPortCount.toNat)
    {fA fB : Option NetanaFilter} (hA : filterError (readSizes m₀).ulFilterSize fA = none)
    (hB : filterError (readSizes m₀).ulFilterSize fB = none) (ulRelationShip : BitVec 32)
    (m : Memory) {i : ℕ}
    (hi : i < (readSizes m₀).filterStart + ulPort * (readSizes m₀).filterBlockSize ∨
      (readSizes m₀).filterStart + (ulPort + 1) * (readSizes m₀).filterBlockSize ≤ i) :
    ((readDpmLayout fAllocated m₀).ptFilter ulPort).load (readSizes m₀).ulFilterSize fA fB
      ulRelationShip m i = m i := by
  apply DpmFilterPtr.load_outside (ptFilter_laid fAllocated m₀ hport) hA hB
  have hend : (ulPort + 1) * (readSizes m₀).filterBlockSize =
      ulPort * (readSizes m₀).filterBlockSize + (readSizes m₀).filterBlockSize := by ring
  rw [hend] at hi
  rw [ptFilter_eq fAllocated m₀ hport]
  change _ < (readSizes m₀).filterStart + ulPort * (readSizes m₀).filterBlockSize ∨
    (readSizes m₀).filterStart + ulPort * (readSizes m₀).filterBlockSize +
      (readSizes m₀).filterBlockSize ≤ i
  omega

/-- The bytes of a port's block. -/
theorem filterRegions_cells {ulPort : ℕ} (hport : ulPort < (readSizes m₀).ulPortCount.toNat)
    {r : Region} (hr : r ∈ filterRegions (readSizes m₀).ulFilterSize
      ((readDpmLayout fAllocated m₀).ptFilter ulPort)) {i : ℕ} (hi : (i : ℤ) ∈ r.cells) :
    (readSizes m₀).filterStart + ulPort * (readSizes m₀).filterBlockSize ≤ i ∧
      i < (readSizes m₀).filterStart + (ulPort + 1) * (readSizes m₀).filterBlockSize := by
  rw [ptFilter_eq fAllocated m₀ hport] at hr
  have hcells := (filterBlock_tiles _ _).mem_cells hr hi
  rw [filterBlock_snd, Set.mem_Ico] at hcells
  have hend : (ulPort + 1) * (readSizes m₀).filterBlockSize =
      ulPort * (readSizes m₀).filterBlockSize + (readSizes m₀).filterBlockSize := by ring
  rw [hend]
  unfold DpmSizes.filterBlockSize at hcells ⊢
  omega

/-- The GPIOs lie before the filters, the counters and the identification behind them. -/
theorem otherRegions_cells {r : Region}
    (hr : r ∈ (readDpmLayout fAllocated m₀).aptGPIOs.flatMap gpioRegion ++
      ((readDpmLayout fAllocated m₀).aptCounters.flatMap
          (counterRegion (readSizes m₀).ulCounterSize) ++
        [⟨(readDpmLayout fAllocated m₀).pbIdentInfoBlock, identInfoBlockSize⟩]))
    {i : ℕ} (hi : (i : ℤ) ∈ r.cells) :
    i < (readSizes m₀).filterStart ∨ (readSizes m₀).filterStart +
      (readSizes m₀).ulPortCount.toNat * (readSizes m₀).filterBlockSize ≤ i := by
  simp only [readDpmLayout] at hr
  generalize readSizes m₀ = s at hr ⊢
  have hgpios := place_tiles gpioBlock_tiles s.ulGPIOCount.toNat sizeofBaseDpm
  have hstart : (place gpioBlock s.ulGPIOCount.toNat sizeofBaseDpm).2 = s.filterStart :=
    place_end gpioBlock_snd _ _
  rw [hstart] at hr hgpios
  have hmiddle : (place (filterBlock s.ulFilterSize) s.ulPortCount.toNat s.filterStart).2 =
      s.filterStart + s.ulPortCount.toNat * s.filterBlockSize :=
    place_end (filterBlock_snd _) _ _
  rw [hmiddle] at hr
  generalize s.filterStart + s.ulPortCount.toNat * s.filterBlockSize = middle at hr ⊢
  have hcounters := place_tiles (counterBlock_tiles s.ulCounterSize) s.ulPortCount.toNat middle
  rw [List.mem_append] at hr
  rcases hr with hr | hr
  · have hlt := (hgpios.mem_cells hr hi).2
    omega
  · have htail : Tiles middle ((place (counterBlock s.ulCounterSize) s.ulPortCount.toNat
          middle).1.flatMap (counterRegion s.ulCounterSize) ++
        [⟨(place (counterBlock s.ulCounterSize) s.ulPortCount.toNat middle).2,
          identInfoBlockSize⟩]) _ := hcounters.append ⟨rfl, rfl⟩
    have hle := (htail.mem_cells hr hi).1
    omega

end Layout

/-- A call passes its checks and writes to the block of the port, or fails and writes nothing. -/
theorem netanaSetFilter_cases (x : DpmInstance) (ulPort ulRelationShip : BitVec 32)
    (fA fB : Option NetanaFilter) (m : Memory) :
    (filterError x.ulFilterSize fA = none ∧ filterError x.ulFilterSize fB = none ∧
      ulPort < x.ulPortCnt ∧ x.netanaSetFilter ulPort fA fB ulRelationShip m =
        ((x.ptFilter ulPort.toNat).load x.ulFilterSize fA fB ulRelationShip m, netanaNoError)) ∨
    ∃ lRet, lRet ≠ netanaNoError ∧ x.netanaSetFilter ulPort fA fB ulRelationShip m = (m, lRet) := by
  unfold DpmInstance.netanaSetFilter
  by_cases hrun : isCaptureRunning m = true
  · exact Or.inr ⟨netanaCaptureActive, by decide, if_pos hrun⟩
  rw [if_neg hrun]
  cases hA : filterError x.ulFilterSize fA with
  | some lRet => exact Or.inr ⟨lRet, filterError_ne hA, rfl⟩
  | none =>
    cases hB : filterError x.ulFilterSize fB with
    | some lRet => exact Or.inr ⟨lRet, filterError_ne hB, rfl⟩
    | none =>
      by_cases hport : ulPort < x.ulPortCnt
      · exact Or.inl ⟨rfl, rfl, hport, if_pos hport⟩
      · exact Or.inr ⟨netanaInvalidPort, by decide, if_neg hport⟩

/-- What a call that succeeds has checked and written. -/
theorem netanaSetFilter_ok {x : DpmInstance} {ulPort ulRelationShip : BitVec 32}
    {fA fB : Option NetanaFilter} {m : Memory}
    (h : (x.netanaSetFilter ulPort fA fB ulRelationShip m).2 = netanaNoError) :
    filterError x.ulFilterSize fA = none ∧ filterError x.ulFilterSize fB = none ∧
      ulPort < x.ulPortCnt ∧ (x.netanaSetFilter ulPort fA fB ulRelationShip m).1 =
        (x.ptFilter ulPort.toNat).load x.ulFilterSize fA fB ulRelationShip m := by
  rcases netanaSetFilter_cases x ulPort ulRelationShip fA fB m with
    ⟨hA, hB, hport, hr⟩ | ⟨lRet, hne, hr⟩
  · exact ⟨hA, hB, hport, congrArg Prod.fst hr⟩
  · rw [hr] at h
    exact absurd h hne

theorem netanaSetFilter_error {x : DpmInstance} {ulPort ulRelationShip : BitVec 32}
    {fA fB : Option NetanaFilter} {m : Memory}
    (h : (x.netanaSetFilter ulPort fA fB ulRelationShip m).2 ≠ netanaNoError) :
    (x.netanaSetFilter ulPort fA fB ulRelationShip m).1 = m := by
  rcases netanaSetFilter_cases x ulPort ulRelationShip fA fB m with ⟨-, -, -, hr⟩ | ⟨lRet, -, hr⟩
  · rw [hr] at h
    exact absurd rfl h
  · exact congrArg Prod.fst hr

/-- The region has the same bytes in both memories. -/
def SameBytes (r : Region) (m m' : Memory) : Prop := ∀ i : ℕ, (i : ℤ) ∈ r.cells → m' i = m i

/-- What has been set comes back, padded with zeros and cut to what is asked for; nothing outside
of the port's block is changed, and nothing at all by a call that fails. -/
theorem filter_round_trip (fAllocated : ℕ → Bool) (m₀ m : Memory)
    (ulPort ulRelationShip : BitVec 32) (fA fB : Option NetanaFilter) :
    let x := readDpmLayout fAllocated m₀
    let r := x.netanaSetFilter ulPort fA fB ulRelationShip m
    (r.2 = netanaNoError →
      (∀ gA gB, HasBuffers gA → HasBuffers gB →
        let reply := x.netanaGetFilter ulPort gA gB r.1
        reply.lRet = netanaNoError ∧ reply.pulRelationShip = some ulRelationShip ∧
          Returned x.ulFilterSize fA gA reply.ptFilterA ∧
          Returned x.ulFilterSize fB gB reply.ptFilterB) ∧
      (∀ q, q < x.ulPortCnt.toNat → q ≠ ulPort.toNat →
        ∀ b ∈ filterRegions x.ulFilterSize (x.ptFilter q), SameBytes b m r.1) ∧
      ∀ b ∈ x.aptGPIOs.flatMap gpioRegion ++ (x.aptCounters.flatMap (counterRegion x.ulCounterSize)
        ++ [⟨x.pbIdentInfoBlock, identInfoBlockSize⟩]), SameBytes b m r.1) ∧
    (r.2 ≠ netanaNoError → r.1 = m) := by
  intro x r
  refine ⟨fun hok => ?_, netanaSetFilter_error⟩
  obtain ⟨hA, hB, hport, hmem⟩ := netanaSetFilter_ok hok
  have hlt : ulPort.toNat < (readSizes m₀).ulPortCount.toNat := BitVec.lt_def.mp hport
  have hlaid : (x.ptFilter ulPort.toNat).Laid x.ulFilterSize := ptFilter_laid fAllocated m₀ hlt
  have hframe : ∀ i, (i < (readSizes m₀).filterStart +
        ulPort.toNat * (readSizes m₀).filterBlockSize ∨
      (readSizes m₀).filterStart + (ulPort.toNat + 1) * (readSizes m₀).filterBlockSize ≤ i) →
      r.1 i = m i := by
    intro i hi
    rw [show r.1 = _ from hmem]
    exact load_frame fAllocated m₀ hlt hA hB ulRelationShip m hi
  refine ⟨fun gA gB hgA hgB => ?_, fun q hq hne b hb i hi => ?_, fun b hb i hi => ?_⟩
  · have hbytes := fun i hi => DpmFilterPtr.load_bytes hlaid hA hB ulRelationShip m (i := i) hi
    obtain ⟨rA, hstoreA, hretA⟩ := FilterData.store_returned (fun i hi => hbytes i hi 0) hgA
    obtain ⟨rB, hstoreB, hretB⟩ := FilterData.store_returned (fun i hi => hbytes i hi 1) hgB
    have hrel := DpmFilterPtr.load_relation hlaid hA hB ulRelationShip m
    have hreply : x.netanaGetFilter ulPort gA gB r.1 =
        ⟨netanaNoError, some ulRelationShip, rA, rB⟩ := by
      unfold DpmInstance.netanaGetFilter
      rw [if_pos hport, show r.1 = _ from hmem]
      simp only [hstoreA, hstoreB, hrel]
    rw [hreply]
    exact ⟨rfl, rfl, hretA, hretB⟩
  · obtain ⟨hlow, hhigh⟩ := filterRegions_cells fAllocated m₀ hq hb hi
    exact hframe i (block_apart hne hlow hhigh)
  · apply hframe
    rcases otherRegions_cells fAllocated m₀ hb hi with hlow | hhigh
    · left
      exact lt_of_lt_of_le hlow (Nat.le_add_right _ _)
    · have hmul := Nat.mul_le_mul_right (readSizes m₀).filterBlockSize (Nat.succ_le_of_lt hlt)
      right
      exact le_trans (Nat.add_le_add_left hmul _) hhigh

/-- A DPM with two ports, four GPIOs and filters of eight bytes. -/
def smallDpm : Memory := fun i =>
  if i = portCountOffset then 2#8
  else if i = gpioCountOffset then 4#8
  else if i = filterSizeOffset then 8#8
  else if i = counterSizeOffset then 104#8
  else 0#8

/-- Three bytes that are set for the second port, read back with room for sixteen. -/
theorem filter_round_trip_short :
    let x := readDpmLayout (fun _ => true) smallDpm
    let f : NetanaFilter := ⟨3#32, some fun _ => 0xFF#8, some fun i => BitVec.ofNat 8 i⟩
    let q : NetanaFilter := ⟨16#32, some fun _ => 0xAA#8, some fun _ => 0xAA#8⟩
    let r := x.netanaSetFilter 1#32 (some f) none 1#32 smallDpm
    let reply := x.netanaGetFilter 1#32 (some q) none r.1
    r.2 = netanaNoError ∧ reply.lRet = netanaNoError ∧
      ∃ g pb, reply.ptFilterA = some g ∧ g.ulFilterSize.toNat = 8 ∧ g.pbMask = some pb ∧
        (List.range 9).map pb = [0xFF#8, 0xFF#8, 0xFF#8, 0#8, 0#8, 0#8, 0#8, 0#8, 0xAA#8] := by
  intro x f q r reply
  have hok : r.2 = netanaNoError := by decide +kernel
  have hbuffers : HasBuffers (some q) := by
    intro g hg _
    cases hg
    exact ⟨rfl, rfl⟩
  have hnone : HasBuffers none := fun g hg => absurd hg (Option.some_ne_none g).symm
  obtain ⟨hread, -⟩ := (filter_round_trip (fun _ => true) smallDpm smallDpm 1#32 1#32
    (some f) none).1 hok
  obtain ⟨hret, -, ⟨g, hg, hsize, hmask, -⟩, -⟩ := hread (some q) none hbuffers hnone
  have hF : x.ulFilterSize = 8#32 := by decide +kernel
  have hsize8 : g.ulFilterSize.toNat = 8 := hsize.trans (congrArg BitVec.toNat hF)
  obtain ⟨pb, hpb, hbytes, hrest⟩ := hmask _ rfl
  rw [hsize8] at hbytes hrest
  refine ⟨hok, hret, g, pb, hg, hsize8, hpb, ?_⟩
  simp only [List.range, List.range.loop, List.map_cons, List.map_nil]
  rw [hbytes 0 (by decide), hbytes 1 (by decide), hbytes 2 (by decide), hbytes 3 (by decide),
    hbytes 4 (by decide), hbytes 5 (by decide), hbytes 6 (by decide), hbytes 7 (by decide),
    hrest 8 (by decide)]
  rfl

/-- The device as the sessions see it, with its filters in the DPM. -/
structure DpmInstance.Represents (x : DpmInstance) (m : Memory) (d : DeviceSession) : Prop where
  ports : d.ulPortCnt = x.ulPortCnt
  size : d.ulFilterSize = x.ulFilterSize
  running : d.isCaptureRunning = isCaptureRunning m
  relation : ∀ p < x.ulPortCnt.toNat,
    (d.atFilters p).ulRelationShip = read32 m (x.ptFilter p).ptBase
  bytes : ∀ p < x.ulPortCnt.toNat, ∀ k, ∀ i < x.ulFilterSize.toNat,
    ((d.atFilters p).atFilter k).pbMask i = (((x.ptFilter p).atFilter k).view m).pbMask i ∧
      ((d.atFilters p).atFilter k).pbValue i = (((x.ptFilter p).atFilter k).view m).pbValue i

/-- What a filter holds after it has been loaded. -/
theorem FilterData.load_byte {ulFilterSize : BitVec 32} {ptFilter : Option NetanaFilter}
    (hf : filterError ulFilterSize ptFilter = none) (v : FilterData) {i : ℕ}
    (hi : i < ulFilterSize.toNat) :
    (v.load ulFilterSize ptFilter).pbMask i = filterByte (·.pbMask) ptFilter i ∧
      (v.load ulFilterSize ptFilter).pbValue i = filterByte (·.pbValue) ptFilter i := by
  have hclear : ∀ pb : ByteArea, osMemset pb 0#8 ulFilterSize i = 0#8 := fun pb => if_pos hi
  cases ptFilter with
  | none => exact ⟨hclear _, hclear _⟩
  | some f =>
    have hcopy : ∀ (pb : ByteArea) (src : Option ByteArea),
        (src.elim (osMemset pb 0#8 ulFilterSize)
          fun b => osMemcpy (osMemset pb 0#8 ulFilterSize) b f.ulFilterSize) i =
          if i < f.ulFilterSize.toNat then src.elim 0#8 fun b => b i else 0#8 := by
      intro pb src
      cases src with
      | none =>
        change osMemset pb 0#8 ulFilterSize i = if _ then 0#8 else 0#8
        rw [ite_self]
        exact hclear pb
      | some b =>
        change osMemcpy _ b f.ulFilterSize i = if i < f.ulFilterSize.toNat then b i else 0#8
        by_cases hlt : i < f.ulFilterSize.toNat
        · rw [osMemcpy, if_pos hlt, if_pos hlt]
        · rw [osMemcpy, if_neg hlt, if_neg hlt]
          exact hclear pb
    exact ⟨hcopy v.pbMask f.pbMask, hcopy v.pbValue f.pbValue⟩

/-- The step that both take once a filter has passed its checks. -/
theorem DpmInstance.Represents.load (fAllocated : ℕ → Bool) {m₀ m : Memory} {d : DeviceSession}
    (h : (readDpmLayout fAllocated m₀).Represents m d) {ulPort : ℕ}
    {fA fB : Option NetanaFilter}
    (hA : filterError (readSizes m₀).ulFilterSize fA = none)
    (hB : filterError (readSizes m₀).ulFilterSize fB = none)
    (hport : ulPort < (readSizes m₀).ulPortCount.toNat) (ulRelationShip : BitVec 32) :
    (readDpmLayout fAllocated m₀).Represents
      (((readDpmLayout fAllocated m₀).ptFilter ulPort).load (readSizes m₀).ulFilterSize fA fB
        ulRelationShip m)
      { d with
        atFilters := Function.update d.atFilters ulPort
          { ulRelationShip := ulRelationShip
            atFilter := ![((d.atFilters ulPort).atFilter 0).load d.ulFilterSize fA,
              ((d.atFilters ulPort).atFilter 1).load d.ulFilterSize fB] } } := by
  have hlaid := ptFilter_laid fAllocated m₀ hport
  have hframe := fun i hi => load_frame fAllocated m₀ hport hA hB ulRelationShip m (i := i) hi
  -- the block of another port
  have hother : ∀ p, p < (readSizes m₀).ulPortCount.toNat → p ≠ ulPort → ∀ i,
      ((readDpmLayout fAllocated m₀).ptFilter p).ptBase ≤ i →
      i < ((readDpmLayout fAllocated m₀).ptFilter p).ptBase + (readSizes m₀).filterBlockSize →
      ((readDpmLayout fAllocated m₀).ptFilter ulPort).load (readSizes m₀).ulFilterSize fA fB
        ulRelationShip m i = m i := by
    intro p hp hne i hlow hhigh
    rw [ptFilter_base fAllocated m₀ hp] at hlow hhigh
    apply hframe
    apply block_apart hne hlow
    rwa [Nat.add_assoc, ← Nat.succ_mul] at hhigh
  refine ⟨h.ports, h.size, ?_, fun p hp => ?_, fun p hp k i hi => ?_⟩
  · have hstate : read32 (((readDpmLayout fAllocated m₀).ptFilter ulPort).load
        (readSizes m₀).ulFilterSize fA fB ulRelationShip m) captureStateOffset =
        read32 m captureStateOffset := by
      apply read32_congr
      intro i hi
      apply hframe
      -- the capture state lies before the filters
      unfold DpmSizes.filterStart captureStateOffset sizeofBaseDpm
      omega
    rw [isCaptureRunning, hstate]
    exact h.running
  · by_cases hpp : p = ulPort
    · rw [hpp]
      dsimp only
      rw [Function.update_self]
      exact (DpmFilterPtr.load_relation hlaid hA hB ulRelationShip m).symm
    · dsimp only
      rw [Function.update_of_ne hpp, h.relation p hp]
      apply read32_congr
      intro i hi
      refine (hother p hp hpp _ (Nat.le_add_right _ i) ?_).symm
      unfold DpmSizes.filterBlockSize sizeofFilterBase
      omega
  · by_cases hpp : p = ulPort
    · subst hpp
      have hbytes := DpmFilterPtr.load_bytes hlaid hA hB ulRelationShip m hi k
      dsimp only at hbytes ⊢
      rw [Function.update_self, hbytes.1, hbytes.2, h.size]
      fin_cases k
      · exact FilterData.load_byte hA _ hi
      · exact FilterData.load_byte hB _ hi
    · have hbounds := (ptFilter_laid fAllocated m₀ hp).bounds k hi
      have hmask := hother p hp hpp _ hbounds.1.1 hbounds.1.2
      have hvalue := hother p hp hpp _ hbounds.2.1 hbounds.2.2
      dsimp only
      rw [Function.update_of_ne hpp, (h.bytes p hp k i hi).1, (h.bytes p hp k i hi).2]
      exact ⟨hmask.symm, hvalue.symm⟩

/-- Setting a filter in the bytes does what the sessions see of it. -/
theorem netanaSetFilter_refines (fAllocated : ℕ → Bool) {m₀ m : Memory} {d : DeviceSession}
    (h : (readDpmLayout fAllocated m₀).Represents m d) (ulPort ulRelationShip : BitVec 32)
    (fA fB : Option NetanaFilter) :
    let x := readDpmLayout fAllocated m₀
    (d.netanaSetFilter ulPort fA fB ulRelationShip).2 =
        (x.netanaSetFilter ulPort fA fB ulRelationShip m).2 ∧
      x.Represents (x.netanaSetFilter ulPort fA fB ulRelationShip m).1
        (d.netanaSetFilter ulPort fA fB ulRelationShip).1 := by
  intro x
  unfold DeviceSession.netanaSetFilter DpmInstance.netanaSetFilter
  rw [h.running]
  by_cases hrun : isCaptureRunning m = true
  · rw [if_pos hrun, if_pos hrun]
    exact ⟨rfl, h⟩
  rw [if_neg hrun, if_neg hrun]
  have herror : ∀ f, filterError d.ulFilterSize f = filterError x.ulFilterSize f := by
    intro f
    rw [h.size]
  rw [herror fA, herror fB]
  cases hA : filterError x.ulFilterSize fA with
  | some lRet => exact ⟨rfl, h⟩
  | none =>
    cases hB : filterError x.ulFilterSize fB with
    | some lRet => exact ⟨rfl, h⟩
    | none =>
      by_cases hport : ulPort < x.ulPortCnt
      · have hport' : ulPort < d.ulPortCnt := by
          rw [h.ports]
          exact hport
        simp only [if_pos hport, if_pos hport']
        exact ⟨trivial, h.load fAllocated hA hB (BitVec.lt_def.mp hport) ulRelationShip⟩
      · have hport' : ¬ ulPort < d.ulPortCnt := by
          rw [h.ports]
          exact hport
        simp only [if_neg hport, if_neg hport']
        exact ⟨trivial, h⟩

/-- Both read the same. -/
theorem netanaGetFilter_refines {x : DpmInstance} {m : Memory} {d : DeviceSession}
    (h : x.Represents m d) (ulPort : BitVec 32) (gA gB : Option NetanaFilter) :
    d.netanaGetFilter ulPort gA gB = x.netanaGetFilter ulPort gA gB m := by
  unfold DeviceSession.netanaGetFilter DpmInstance.netanaGetFilter
  rw [h.ports]
  by_cases hport : ulPort < x.ulPortCnt
  · have hlt : ulPort.toNat < x.ulPortCnt.toNat := BitVec.lt_def.mp hport
    have hstore : ∀ (k : Fin 2) (g : Option NetanaFilter),
        ((d.atFilters ulPort.toNat).atFilter k).store d.ulFilterSize g =
          (((x.ptFilter ulPort.toNat).atFilter k).view m).store x.ulFilterSize g := by
      intro k g
      rw [h.size]
      exact FilterData.store_congr (fun i hi => (h.bytes _ hlt k i hi).1)
        (fun i hi => (h.bytes _ hlt k i hi).2) g
    rw [if_pos hport, if_pos hport]
    cases hA : (((x.ptFilter ulPort.toNat).atFilter 0).view m).store x.ulFilterSize gA with
    | none => simp only [hstore, h.relation _ hlt, hA]
    | some ptFilterA =>
      cases hB : (((x.ptFilter ulPort.toNat).atFilter 1).view m).store x.ulFilterSize gB with
      | none => simp only [hstore, h.relation _ hlt, hA, hB]
      | some ptFilterB => simp only [hstore, h.relation _ hlt, hA, hB]
  · rw [if_neg hport, if_neg hport]

end NetanaDriver
