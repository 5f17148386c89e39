import NetanaDriver.ByteMemory
import NetanaDriver.MemoryRegions
import NetanaDriver.DeviceSession

/-! How `netana_tkit_deviceadd` reads the layout of the DPM (toolkit/netana_toolkit.c,
toolkit/netana_dpmlayout.h). -/
namespace NetanaDriver

open ByteMemory MemoryRegions

def netanaMaxGpios : ℕ := 4
def netanaMaxPorts : ℕ := 4

/-- Sizes of the packed structures. -/
def sizeofBaseDpm : ℕ := 0x600
def sizeofGpioBlock : ℕ := 20
def sizeofFilterBase : ℕ := 4
def identInfoBlockSize : ℕ := 30
def sizeofHandshakeBlock : ℕ := 256
def sizeofMailboxBlock : ℕ := 1600

def dpmSendMbxOffset : ℕ := 0x2900
def dpmRecvMbxOffset : ℕ := 0x2F40

/-- Where the fields of the system information block and the capture state lie. -/
def dpmUsedSizeOffset : ℕ := 0x18
def portCountOffset : ℕ := 0x74
def gpioCountOffset : ℕ := 0x78
def filterSizeOffset : ℕ := 0x7C
def counterSizeOffset : ℕ := 0x80
def captureStateOffset : ℕ := 0x404

/-- The fields of the system information block that the layout depends on. -/
structure DpmSizes where
  ulDPMUsedSize : BitVec 32
  ulPortCount : BitVec 32
  ulGPIOCount : BitVec 32
  ulFilterSize : BitVec 32
  ulCounterSize : BitVec 32
  deriving DecidableEq, Repr

def readSizes (m : Memory) : DpmSizes :=
  { ulDPMUsedSize := read32 m dpmUsedSizeOffset
    ulPortCount := read32 m portCountOffset
    ulGPIOCount := read32 m gpioCountOffset
    ulFilterSize := read32 m filterSizeOffset
    ulCounterSize := read32 m counterSizeOffset }

/-- Where the mask and the value of a filter lie. -/
structure FilterDataPtr where
  pbMask : ℕ
  pbValue : ℕ
  deriving DecidableEq, Repr

/-- `NETANA_DPM_FILTER_T`, with offsets into the DPM as pointers. -/
structure DpmFilterPtr where
  ptBase : ℕ
  atFilter : Fin 2 → FilterDataPtr

/-- What the layout tells the device instance. -/
structure DpmInstance where
  ulGpioCnt : BitVec 32
  aptGPIOs : List ℕ
  atDefaultGPIOs : List (List (BitVec 8))
  ulPortCnt : BitVec 32
  ulFilterSize : BitVec 32
  atFilters : List DpmFilterPtr
  atDefaultFilter : List (Fin 2 → DefaultFilter)
  ulCounterSize : BitVec 32
  aptCounters : List ℕ
  pbIdentInfoBlock : ℕ
  -- can lie before the start of the DPM
  ptHandshakeBlock : ℤ
  ptSendMailboxStart : ℕ
  ptRecvMailboxStart : ℕ

def gpioBlock (pbCurrentBlock : ℕ) : ℕ × ℕ := (pbCurrentBlock, pbCurrentBlock + sizeofGpioBlock)

/-- The base of a port's filters is followed by mask and value of each filter. -/
def filterBlock (ulFilterSize : BitVec 32) (pbCurrentBlock : ℕ) : DpmFilterPtr × ℕ :=
  let ptBase := pbCurrentBlock
  let pbCurrentBlock := pbCurrentBlock + sizeofFilterBase
  let maskA := pbCurrentBlock
  let pbCurrentBlock := pbCurrentBlock + ulFilterSize.toNat
  let valueA := pbCurrentBlock
  let pbCurrentBlock := pbCurrentBlock + ulFilterSize.toNat
  let maskB := pbCurrentBlock
  let pbCurrentBlock := pbCurrentBlock + ulFilterSize.toNat
  let valueB := pbCurrentBlock
  let pbCurrentBlock := pbCurrentBlock + ulFilterSize.toNat
  (⟨ptBase, ![⟨maskA, valueA⟩, ⟨maskB, valueB⟩]⟩, pbCurrentBlock)

def counterBlock (ulCounterSize : BitVec 32) (pbCurrentBlock : ℕ) : ℕ × ℕ :=
  (pbCurrentBlock, pbCurrentBlock + ulCounterSize.toNat)

/-- The part of `netana_tkit_deviceadd` that reads the layout. `fAllocated` says of each
`OS_Memalloc` for a default filter in turn whether there is memory. -/
def readDpmLayout (fAllocated : ℕ → Bool) (m : Memory) : DpmInstance :=
  let s := readSizes m
  let gpios := place gpioBlock s.ulGPIOCount.toNat sizeofBaseDpm
  let filters := place (filterBlock s.ulFilterSize) s.ulPortCount.toNat gpios.2
  let counters := place (counterBlock s.ulCounterSize) s.ulPortCount.toNat filters.2
  { ulGpioCnt := s.ulGPIOCount
    aptGPIOs := gpios.1
    atDefaultGPIOs := gpios.1.map fun ptBlock => load m ptBlock sizeofGpioBlock
    ulPortCnt := s.ulPortCount
    ulFilterSize := s.ulFilterSize
    atFilters := filters.1
    atDefaultFilter := filters.1.mapIdx fun ulIdx ptFilter ulFilter =>
      { pbMask :=
          if fAllocated (4 * ulIdx + 2 * ulFilter) then
            some (area m (ptFilter.atFilter ulFilter).pbMask)
          else none
        pbValue :=
          if fAllocated (4 * ulIdx + 2 * ulFilter + 1) then
            some (area m (ptFilter.atFilter ulFilter).pbValue)
          else none }
    ulCounterSize := s.ulCounterSize
    aptCounters := counters.1
    pbIdentInfoBlock := counters.2
    ptHandshakeBlock := (s.ulDPMUsedSize.toNat : ℤ) - sizeofHandshakeBlock
    ptSendMailboxStart := dpmSendMbxOffset
    ptRecvMailboxStart := dpmRecvMbxOffset }

def gpioRegion (ptBlock : ℕ) : List Region := [⟨ptBlock, sizeofGpioBlock⟩]

def filterRegions (ulFilterSize : BitVec 32) (p : DpmFilterPtr) : List Region :=
  [⟨p.ptBase, sizeofFilterBase⟩,
    ⟨(p.atFilter filterA).pbMask, ulFilterSize.toNat⟩,
    ⟨(p.atFilter filterA).pbValue, ulFilterSize.toNat⟩,
    ⟨(p.atFilter filterB).pbMask, ulFilterSize.toNat⟩,
    ⟨(p.atFilter filterB).pbValue, ulFilterSize.toNat⟩]

def counterRegion (ulCounterSize : BitVec 32) (ptCounter : ℕ) : List Region :=
  [⟨ptCounter, ulCounterSize.toNat⟩]

/-- The blocks behind the base DPM. -/
def DpmInstance.walked (x : DpmInstance) : List Region :=
  x.aptGPIOs.flatMap gpioRegion ++ (x.atFilters.flatMap (filterRegions x.ulFilterSize) ++
    (x.aptCounters.flatMap (counterRegion x.ulCounterSize) ++
      [⟨x.pbIdentInfoBlock, identInfoBlockSize⟩]))

/-- The blocks at places of their own. -/
def DpmInstance.fixed (x : DpmInstance) : List Region :=
  [⟨x.ptHandshakeBlock, sizeofHandshakeBlock⟩, ⟨x.ptSendMailboxStart, sizeofMailboxBlock⟩,
    ⟨x.ptRecvMailboxStart, sizeofMailboxBlock⟩]

def DpmInstance.regions (x : DpmInstance) : List Region := x.walked ++ x.fixed

/-- All indices and all regions are in bounds, and the regions apart from each other. -/
structure DpmInstance.InBounds (x : DpmInstance) (ulDPMSize : BitVec 32) : Prop where
  gpios : ∀ ulIdx < x.aptGPIOs.length, ulIdx < netanaMaxGpios
  defaultGpios : ∀ ulIdx < x.atDefaultGPIOs.length, ulIdx < netanaMaxGpios
  filters : ∀ ulIdx < x.atFilters.length, ulIdx < netanaMaxPorts
  defaultFilters : ∀ ulIdx < x.atDefaultFilter.length, ulIdx < netanaMaxPorts
  counters : ∀ ulIdx < x.aptCounters.length, ulIdx < netanaMaxPorts
  inside : ∀ r ∈ x.regions, r.cells ⊆ Set.Ico 0 (ulDPMSize.toNat : ℤ)
  disjoint : x.regions.Pairwise fun r s => Disjoint r.cells s.cells

/-- Where the blocks behind the base DPM end. -/
def DpmSizes.walkEnd (s : DpmSizes) : ℕ :=
  sizeofBaseDpm + s.ulGPIOCount.toNat * sizeofGpioBlock +
    s.ulPortCount.toNat * (sizeofFilterBase + 4 * s.ulFilterSize.toNat) +
    s.ulPortCount.toNat * s.ulCounterSize.toNat + identInfoBlockSize

/-- At most four GPIOs and ports; the blocks behind the base DPM end before the mailboxes, the
mailboxes and the used part lie in the DPM, and the last 256 bytes of the used part are none of
the other blocks. -/
structure DpmSizes.Fit (s : DpmSizes) (ulDPMSize : BitVec 32) : Prop where
  gpios : s.ulGPIOCount.toNat ≤ netanaMaxGpios
  ports : s.ulPortCount.toNat ≤ netanaMaxPorts
  walk : s.walkEnd ≤ dpmSendMbxOffset
  mailboxes : dpmRecvMbxOffset + sizeofMailboxBlock ≤ ulDPMSize.toNat
  handshake : sizeofHandshakeBlock ≤ s.ulDPMUsedSize.toNat
  used : s.ulDPMUsedSize.toNat ≤ ulDPMSize.toNat
  apartWalk : s.ulDPMUsedSize.toNat ≤ sizeofBaseDpm ∨
    s.walkEnd + sizeofHandshakeBlock ≤ s.ulDPMUsedSize.toNat
  apartMailboxes : s.ulDPMUsedSize.toNat ≤ dpmSendMbxOffset ∨
    dpmRecvMbxOffset + sizeofMailboxBlock + sizeofHandshakeBlock ≤ s.ulDPMUsedSize.toNat

theorem gpioBlock_snd (pb : ℕ) : (gpioBlock pb).2 = pb + sizeofGpioBlock := rfl

theorem filterBlock_snd (ulFilterSize : BitVec 32) (pb : ℕ) :
    (filterBlock ulFilterSize pb).2 = pb + (sizeofFilterBase + 4 * ulFilterSize.toNat) := by
  simp only [filterBlock]
  ring

theorem counterBlock_snd (ulCounterSize : BitVec 32) (pb : ℕ) :
    (counterBlock ulCounterSize pb).2 = pb + ulCounterSize.toNat := rfl

theorem gpioBlock_tiles (pb : ℕ) :
    Tiles pb (gpioRegion (gpioBlock pb).1) (gpioBlock pb).2 := ⟨rfl, rfl⟩

theorem filterBlock_tiles (ulFilterSize : BitVec 32) (pb : ℕ) :
    Tiles pb (filterRegions ulFilterSize (filterBlock ulFilterSize pb).1)
      (filterBlock ulFilterSize pb).2 := by
  refine ⟨rfl, ?_, ?_, ?_, ?_, ?_⟩
  all_goals
    simp only [filterBlock, Matrix.cons_val_zero, Matrix.cons_val_one]
    push_cast
    rfl

theorem counterBlock_tiles (ulCounterSize : BitVec 32) (pb : ℕ) :
    Tiles pb (counterRegion ulCounterSize (counterBlock ulCounterSize pb).1)
      (counterBlock ulCounterSize pb).2 := ⟨rfl, rfl⟩

variable (fAllocated : ℕ → Bool) (m : Memory)

theorem ident_eq : (readDpmLayout fAllocated m).pbIdentInfoBlock + identInfoBlockSize =
    (readSizes m).walkEnd := by
  simp only [readDpmLayout]
  rw [place_end (counterBlock_snd _), place_end (filterBlock_snd _), place_end gpioBlock_snd]
  rfl

/-- The walk leaves no gap. -/
theorem walked_tiles :
    Tiles sizeofBaseDpm (readDpmLayout fAllocated m).walked (readSizes m).walkEnd := by
  have hend := ident_eq fAllocated m
  unfold DpmInstance.walked
  simp only [readDpmLayout] at hend ⊢
  generalize readSizes m = s at hend ⊢
  have hgpios := place_tiles gpioBlock_tiles s.ulGPIOCount.toNat sizeofBaseDpm
  generalize place gpioBlock s.ulGPIOCount.toNat sizeofBaseDpm = gpios at hgpios hend ⊢
  have hfilters := place_tiles (filterBlock_tiles s.ulFilterSize) s.ulPortCount.toNat gpios.2
  generalize place (filterBlock s.ulFilterSize) s.ulPortCount.toNat gpios.2 = filters
    at hfilters hend ⊢
  have hcounters :=
    place_tiles (counterBlock_tiles s.ulCounterSize) s.ulPortCount.toNat filters.2
  generalize place (counterBlock s.ulCounterSize) s.ulPortCount.toNat filters.2 = counters
    at hcounters hend ⊢
  rw [← hend, Nat.cast_add]
  exact hgpios.append (hfilters.append (hcounters.append ⟨rfl, rfl⟩))

theorem forall_lt_lt_iff (n k : ℕ) : (∀ i < n, i < k) ↔ n ≤ k := by
  constructor
  · intro h
    by_contra hlt
    exact absurd (h k (not_le.mp hlt)) (lt_irrefl k)
  · exact fun h i hi => lt_of_lt_of_le hi h

/-- The numbers of blocks, which are the numbers of passes of the loops. -/
theorem readDpmLayout_lengths :
    (readDpmLayout fAllocated m).aptGPIOs.length = (readSizes m).ulGPIOCount.toNat ∧
      (readDpmLayout fAllocated m).atDefaultGPIOs.length = (readSizes m).ulGPIOCount.toNat ∧
      (readDpmLayout fAllocated m).atFilters.length = (readSizes m).ulPortCount.toNat ∧
      (readDpmLayout fAllocated m).atDefaultFilter.length = (readSizes m).ulPortCount.toNat ∧
      (readDpmLayout fAllocated m).aptCounters.length = (readSizes m).ulPortCount.toNat := by
  simp only [readDpmLayout, List.length_map, List.length_mapIdx, place_length, and_self]

/-- The layout is in bounds exactly where the sizes fit. -/
theorem inBounds_iff (ulDPMSize : BitVec 32) :
    (readDpmLayout fAllocated m).InBounds ulDPMSize ↔ (readSizes m).Fit ulDPMSize := by
  obtain ⟨hgpios, hdefaultGpios, hfilters, hdefaultFilters, hcounters⟩ :=
    readDpmLayout_lengths fAllocated m
  have hwalk := walked_tiles fAllocated m
  have hinside := hwalk.append_subset_iff (readDpmLayout fAllocated m).fixed
    (Set.Ico 0 (ulDPMSize.toNat : ℤ))
  have hdisjoint := hwalk.append_pairwise_iff (readDpmLayout fAllocated m).fixed
  have hfixed : (readDpmLayout fAllocated m).fixed =
      [⟨((readSizes m).ulDPMUsedSize.toNat : ℤ) - sizeofHandshakeBlock, sizeofHandshakeBlock⟩,
        ⟨(dpmSendMbxOffset : ℤ), sizeofMailboxBlock⟩,
        ⟨(dpmRecvMbxOffset : ℤ), sizeofMailboxBlock⟩] := rfl
  rw [hfixed] at hinside hdisjoint
  have hpos : (sizeofBaseDpm : ℤ) < (readSizes m).walkEnd := by
    have h : sizeofBaseDpm < (readSizes m).walkEnd := by
      unfold DpmSizes.walkEnd identInfoBlockSize
      omega
    exact_mod_cast h
  -- the handshake block and the mailboxes are not empty either
  have hhsk : ((readSizes m).ulDPMUsedSize.toNat : ℤ) - sizeofHandshakeBlock <
      ((readSizes m).ulDPMUsedSize.toNat : ℤ) - sizeofHandshakeBlock + sizeofHandshakeBlock := by
    unfold sizeofHandshakeBlock
    omega
  have hsend : (dpmSendMbxOffset : ℤ) < dpmSendMbxOffset + sizeofMailboxBlock := by decide
  have hrecv : (dpmRecvMbxOffset : ℤ) < dpmRecvMbxOffset + sizeofMailboxBlock := by decide
  simp only [List.forall_mem_cons, List.not_mem_nil, false_implies, implies_true, and_true,
    List.pairwise_cons, List.Pairwise.nil, Region.cells, Set.Ico_subset_Ico_iff hpos,
    Set.Ico_subset_Ico_iff hhsk, Set.Ico_subset_Ico_iff hsend, Set.Ico_subset_Ico_iff hrecv,
    disjoint_Ico_iff hpos hhsk, disjoint_Ico_iff hpos hsend, disjoint_Ico_iff hpos hrecv,
    disjoint_Ico_iff hhsk hsend, disjoint_Ico_iff hhsk hrecv, disjoint_Ico_iff hsend hrecv]
    at hinside hdisjoint
  simp only [sizeofBaseDpm, sizeofHandshakeBlock, sizeofMailboxBlock, dpmSendMbxOffset,
    dpmRecvMbxOffset] at hinside hdisjoint hpos
  constructor
  · intro h
    obtain ⟨⟨-, -⟩, ⟨hused0, hused⟩, ⟨-, -⟩, -, hmbx⟩ := hinside.mp h.inside
    obtain ⟨⟨⟨hsendApart, hrecvApart⟩, -⟩, hwalkHsk, hwalkSend, -⟩ := hdisjoint.mp h.disjoint
    refine ⟨?_, ?_, ?_, ?_, ?_, ?_, ?_, ?_⟩
    · rw [← hgpios]
      exact (forall_lt_lt_iff _ _).mp h.gpios
    · rw [← hfilters]
      exact (forall_lt_lt_iff _ _).mp h.filters
    · unfold dpmSendMbxOffset
      omega
    · unfold dpmRecvMbxOffset sizeofMailboxBlock
      omega
    · unfold sizeofHandshakeBlock
      omega
    · omega
    · unfold sizeofBaseDpm sizeofHandshakeBlock
      omega
    · unfold dpmSendMbxOffset dpmRecvMbxOffset sizeofMailboxBlock sizeofHandshakeBlock
      omega
  · rintro ⟨hg, hp, hwalk, hmbx, hhandshake, hused, hapartWalk, hapartMbx⟩
    simp only [sizeofBaseDpm, sizeofHandshakeBlock, sizeofMailboxBlock, dpmSendMbxOffset,
      dpmRecvMbxOffset] at hwalk hmbx hhandshake hapartWalk hapartMbx
    refine ⟨?_, ?_, ?_, ?_, ?_, hinside.mpr ?_, hdisjoint.mpr ?_⟩
    · rw [hgpios]
      exact (forall_lt_lt_iff _ _).mpr hg
    · rw [hdefaultGpios]
      exact (forall_lt_lt_iff _ _).mpr hg
    · rw [hfilters]
      exact (forall_lt_lt_iff _ _).mpr hp
    · rw [hdefaultFilters]
      exact (forall_lt_lt_iff _ _).mpr hp
    · rw [hcounters]
      exact (forall_lt_lt_iff _ _).mpr hp
    · omega
    · omega

end NetanaDriver
