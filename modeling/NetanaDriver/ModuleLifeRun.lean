import NetanaDriver.ModuleLifeEnds

/-! What the module holds after every run of probes and removals. -/
namespace NetanaDriver
open StepRuns SlotTable

namespace DriverModule

theorem withClass_fault (s : DriverModule) : s.withClass.fault = s.fault := by
  unfold withClass
  cases s.netanaClass <;> rfl

theorem withClass_cards (s : DriverModule) : s.withClass.cards = s.cards := by
  unfold withClass
  cases s.netanaClass <;> rfl

theorem bindCard_ok (bus : Bus) (card : ℕ) (s t : DriverModule) (ret : ℤ)
    (info : Option NetanaInfo) :
    s.bindCard bus card (.ok (t, ret, info)) =
      { t with cards := if 0 ≤ ret then t.cards ++ [⟨bus, card, info⟩] else t.cards } := by
  unfold bindCard
  dsimp only
  split_ifs <;> rfl

/-- The devices that are registered. -/
def registered (s : DriverModule) : List NetanaInfo := s.cards.filterMap BoundCard.drvdata

end DriverModule

/-- The module as it is after `k` creations of the class. -/
structure ModuleInv (k : ℕ) (s : DriverModule) : Prop where
  registry : RegistryInv s.registry
  count : s.netanaClass = DriverModule.classOf s.registered.length
  held : s.held = (s.cards.map BoundCard.holds).sum +
    (DriverModule.classHeld s.registered.length + Multiset.replicate k .cardLock)
  slots : ∀ m p, find s.registry.netAnaIDR m = some p ↔
    ∃ info ∈ s.registered, info.minor = m ∧ info.tkdevice = p
  minors : (s.registered.map NetanaInfo.minor).Nodup
  refs : s.registry.moduleRefs = s.registry.openFiles.length

theorem ModuleInv.loaded (d : TkDevice) : ModuleInv 0 (DriverModule.loaded d) where
  registry := RegistryInv.init d
  count := rfl
  held := rfl
  slots := by
    intro m p
    apply iff_of_false
    · simp [DriverModule.loaded, Registry.init]
    · simp [DriverModule.loaded, DriverModule.registered]
  minors := List.nodup_nil
  refs := rfl

/-- An operation that neither opens nor closes a file. -/
structure SameFiles (s t : Registry) : Prop where
  files : t.openFiles = s.openFiles
  refs : t.moduleRefs = s.moduleRefs

/-- One that does not register a device either. -/
structure SameNodes (s t : Registry) : Prop extends SameFiles s t where
  idr : t.netAnaIDR = s.netAnaIDR

theorem SameNodes.refl (s : Registry) : SameNodes s s := ⟨⟨rfl, rfl⟩, rfl⟩

theorem SameNodes.trans {s t u : Registry} (h : SameNodes s t) (h' : SameNodes t u) :
    SameNodes s u :=
  ⟨⟨h'.files.trans h.files, h'.refs.trans h.refs⟩, h'.idr.trans h.idr⟩

theorem deviceadd_nodes (p : DevPtr) (ulDevNo : ℕ) (c : AddChoice) (s : Registry) :
    SameNodes s (netanaTkitDeviceadd p ulDevNo c s).1 := by
  unfold netanaTkitDeviceadd
  split_ifs <;> exact ⟨⟨rfl, rfl⟩, rfl⟩

theorem deviceremove_nodes (p : DevPtr) (fForceRemove fAcknowledged : Bool) (s : Registry) :
    SameNodes s (netanaTkitDeviceremove p fForceRemove fAcknowledged s).1 := by
  unfold netanaTkitDeviceremove
  split_ifs <;> exact ⟨⟨rfl, rfl⟩, rfl⟩

theorem closeDevice_nodes (hDev : Option DevPtr) (s : Registry) :
    SameNodes s (netanaCloseDevice hDev s).1 := by
  cases hDev with
  | none => exact .refl s
  | some p =>
    unfold netanaCloseDevice
    dsimp only
    split_ifs <;> exact ⟨⟨rfl, rfl⟩, rfl⟩

/-- `netana_registerdevice` is successful from `device_create` on. -/
def RegisterChoice.tailSucceeds (c : RegisterChoice) : Bool :=
  c.fDeviceCreated && c.fDmaCreated && c.fDsrThreadStarted && c.add.lRet = netanaNoError &&
    c.fSysfsCreated

def RegisterChoice.succeeds (c : RegisterChoice) (s : Registry) : Bool :=
  c.fClassReady && c.fTkdeviceAllocated && c.fIdrAllocated &&
    (alloc minorLimit s.netAnaIDR s.nextPtr).isSome && c.tailSucceeds

theorem registerTail_slots (c : RegisterChoice) (p : DevPtr) (minor : ℕ) (s : Registry) :
    if c.tailSucceeds then
      (registerTail c p minor s).2 = 0 ∧ (registerTail c p minor s).1.netAnaIDR = s.netAnaIDR
    else
      (registerTail c p minor s).2 ≠ 0 ∧
        (registerTail c p minor s).1.netAnaIDR = remove s.netAnaIDR minor := by
  have henomem : -enomem ≠ 0 := by decide
  unfold RegisterChoice.tailSucceeds registerTail
  cases c.fDeviceCreated with
  | false => exact ⟨one_ne_zero, rfl⟩
  | true =>
  cases c.fDmaCreated with
  | false => exact ⟨henomem, rfl⟩
  | true =>
  cases c.fDsrThreadStarted with
  | false => exact ⟨henomem, rfl⟩
  | true =>
  have hadded := (deviceadd_nodes p minor c.add s).idr
  have hret := DriverModule.deviceadd_ret p minor c.add s
  simp only [Bool.true_eq_false, if_false, hret, Bool.true_and]
  by_cases hadd : c.add.lRet = netanaNoError
  · simp only [hadd, if_true, decide_true, Bool.true_and]
    cases c.fSysfsCreated with
    | true => exact ⟨rfl, hadded⟩
    | false =>
      refine ⟨henomem, ?_⟩
      have hremoved := (deviceremove_nodes p true c.fAcknowledged
        (netanaTkitDeviceadd p minor c.add s).1).idr
      exact congrArg (fun t => remove t minor) (hremoved.trans hadded)
  · simp only [hadd, if_false, decide_false, Bool.false_and, Bool.false_eq_true]
    exact ⟨DriverModule.toInt_ne_zero hadd, congrArg (fun t => remove t minor) hadded⟩

/-- A registration takes the lowest free minor, and it gives it back if it fails. -/
theorem register_slots (c : RegisterChoice) (s : Registry) :
    if c.succeeds s then
      (netanaRegisterdevice c s).2 = 0 ∧ ∃ idr minor,
        alloc minorLimit s.netAnaIDR s.nextPtr = some (idr, minor) ∧
          (netanaRegisterdevice c s).1.netAnaIDR = idr
    else
      (netanaRegisterdevice c s).2 ≠ 0 ∧
        ∀ m, find (netanaRegisterdevice c s).1.netAnaIDR m = find s.netAnaIDR m := by
  have henomem : -enomem ≠ 0 := by decide
  have henospc : -enospc ≠ 0 := by decide
  unfold RegisterChoice.succeeds
  cases hready : c.fClassReady with
  | false =>
    have hregister : netanaRegisterdevice c s = (s, -enomem) := if_pos hready
    rw [hregister]
    exact ⟨henomem, fun _ => rfl⟩
  | true =>
  cases hmemory : c.fTkdeviceAllocated with
  | false =>
    have hregister : netanaRegisterdevice c s = (s, -enomem) := by
      simp [netanaRegisterdevice, hready, hmemory]
    rw [hregister]
    exact ⟨henomem, fun _ => rfl⟩
  | true =>
  cases hidr : c.fIdrAllocated with
  | false =>
    have hregister : netanaRegisterdevice c s =
        ({ s with nextPtr := s.nextPtr + 1 }, -enomem) := by
      simp [netanaRegisterdevice, hready, hmemory, hidr]
    rw [hregister]
    exact ⟨henomem, fun _ => rfl⟩
  | true =>
  cases halloc : alloc minorLimit s.netAnaIDR s.nextPtr with
  | none =>
    have hregister : netanaRegisterdevice c s =
        ({ s with nextPtr := s.nextPtr + 1 }, -enospc) := by
      simp [netanaRegisterdevice, hready, hmemory, hidr, halloc]
    rw [hregister]
    exact ⟨henospc, fun _ => rfl⟩
  | some r =>
  obtain ⟨idr, minor⟩ := r
  rw [registerdevice_tail hready hmemory hidr halloc]
  have htail := registerTail_slots c s.nextPtr minor
    { Registry.set { s with nextPtr := s.nextPtr + 1 } s.nextPtr (c.device minor) with
      netAnaIDR := idr }
  simp only [Option.isSome_some, Bool.true_and]
  cases hsucceeds : c.tailSucceeds with
  | true =>
    rw [hsucceeds, if_pos rfl] at htail
    exact ⟨htail.1, idr, minor, rfl, htail.2⟩
  | false =>
    rw [hsucceeds, if_neg Bool.false_ne_true] at htail
    refine ⟨htail.1, fun m => ?_⟩
    rw [htail.2, find_remove, find_alloc halloc]
    by_cases hm : m = minor
    · obtain ⟨hlowest, -⟩ := alloc_eq_some halloc
      rw [if_pos hm, hm, hlowest, find_lowestFree]
    · rw [if_neg hm, if_neg hm]

theorem unregister_slots (p : DevPtr) (fAcknowledged : Bool) (s : Registry) (m : ℕ) :
    find (netanaUnregisterdevice p fAcknowledged s).netAnaIDR m =
      if m = (s.devices p).minor then none else find s.netAnaIDR m := by
  unfold netanaUnregisterdevice
  by_cases hadded : (s.devices p).addsucceded = true
  · simp only [if_pos hadded]
    rw [find_remove, netanaTkitDeviceremove_forced]
  · simp only [if_neg hadded]
    exact find_remove _ _ _

theorem restart_nodes (p : DevPtr) (fAcknowledged : Bool) (c : AddChoice) (s : Registry) :
    SameNodes s (netanaRestartDevice p fAcknowledged c s).1 := by
  unfold netanaRestartDevice
  by_cases hcapture : (s.devices p).fCaptureRunning = true
  · rw [if_pos hcapture]
    exact .refl s
  rw [if_neg hcapture]
  dsimp only
  have hremoved := deviceremove_nodes p true fAcknowledged s
  have hadded (n : ℕ) :=
    hremoved.trans (deviceadd_nodes p n c (netanaTkitDeviceremove p true fAcknowledged s).1)
  split_ifs
  · exact hadded _
  · exact (hadded _).trans (closeDevice_nodes _ _)
  · exact hremoved.trans (closeDevice_nodes _ _)

theorem identUpdate_nodes (p : DevPtr) (c : IdentChoice) (s : Registry) :
    SameNodes s (netanaIdentUpdate p c s).1 := by
  have hset : SameNodes s (netanaSetDeviceIdent p s).1 := by
    unfold netanaSetDeviceIdent
    dsimp only
    split_ifs <;> exact ⟨⟨rfl, rfl⟩, rfl⟩
  have hrestart := hset.trans (restart_nodes p c.fAcknowledged c.add (netanaSetDeviceIdent p s).1)
  unfold netanaIdentUpdate
  dsimp only
  split_ifs
  · exact .refl s
  · exact .refl s
  · exact .refl s
  · exact hrestart
  · exact hrestart
  · exact hrestart.trans ⟨⟨rfl, rfl⟩, rfl⟩
  · exact hset

theorem registerTail_files (c : RegisterChoice) (p : DevPtr) (minor : ℕ) (s : Registry) :
    SameFiles s (registerTail c p minor s).1 := by
  have hadded := deviceadd_nodes p minor c.add s
  unfold registerTail
  dsimp only
  split_ifs
  · exact ⟨rfl, rfl⟩
  · exact ⟨rfl, rfl⟩
  · exact ⟨rfl, rfl⟩
  · exact ⟨hadded.files, hadded.refs⟩
  · have hremoved := hadded.trans (deviceremove_nodes p true c.fAcknowledged _)
    exact ⟨hremoved.files, hremoved.refs⟩
  · exact ⟨hadded.files, hadded.refs⟩

theorem register_files (c : RegisterChoice) (s : Registry) :
    SameFiles s (netanaRegisterdevice c s).1 := by
  unfold netanaRegisterdevice
  by_cases hready : c.fClassReady = false
  · rw [if_pos hready]
    exact ⟨rfl, rfl⟩
  rw [if_neg hready]
  by_cases hmemory : c.fTkdeviceAllocated = false
  · rw [if_pos hmemory]
    exact ⟨rfl, rfl⟩
  rw [if_neg hmemory]
  dsimp only
  by_cases hidr : c.fIdrAllocated = false
  · rw [if_pos hidr]
    exact ⟨rfl, rfl⟩
  rw [if_neg hidr]
  cases alloc minorLimit s.netAnaIDR s.nextPtr with
  | none => exact ⟨rfl, rfl⟩
  | some r =>
    have htail := registerTail_files c s.nextPtr r.2
      { Registry.set { s with nextPtr := s.nextPtr + 1 } s.nextPtr (c.device r.2) with
        netAnaIDR := r.1 }
    exact ⟨htail.files, htail.refs⟩

theorem unregister_files (p : DevPtr) (fAcknowledged : Bool) (s : Registry) :
    SameFiles s (netanaUnregisterdevice p fAcknowledged s) := by
  unfold netanaUnregisterdevice
  dsimp only
  split_ifs
  · have hremoved := deviceremove_nodes p true fAcknowledged s
    exact ⟨hremoved.files, hremoved.refs⟩
  · exact ⟨rfl, rfl⟩

/-- The module is referred to once for every open file. -/
def Registry.RefsOpen (s : Registry) : Prop := s.moduleRefs = s.openFiles.length

theorem SameFiles.refsOpen {s t : Registry} (h : SameFiles s t) (hs : s.RefsOpen) : t.RefsOpen := by
  rw [Registry.RefsOpen, h.files, h.refs]
  exact hs

theorem openDevice_nodes (ulFilter : BitVec 32) (szDevice : List Char) (s : Registry) :
    SameNodes s (netanaOpenDevice ulFilter szDevice s).1 := by
  unfold netanaOpenDevice
  split
  · exact .refl s
  · dsimp only
    split_ifs <;> exact ⟨⟨rfl, rfl⟩, rfl⟩

/-- `netana_open` opens the device of the minor, finds that the toolkit does not, or refuses it
before. -/
theorem netanaOpen_ends (ulFilter : BitVec 32) (minor : ℕ) (s : Registry) :
    (∃ p t, find s.netAnaIDR minor = some p ∧
      (s.devices p).addsucceded = true ∧ (s.devices p).hdevice.isSome = false ∧
        (netanaOpenDevice ulFilter (s.devices p).szDeviceName
          { s with moduleRefs := s.moduleRefs + 1 }).1 = t ∧
        ((∃ hDev, s.netanaOpen ulFilter minor =
          ({ t.set p { t.devices p with hdevice := some hDev } with
              openFiles := p :: t.openFiles }, 0)) ∨
            s.netanaOpen ulFilter minor =
              ({ t.set p { t.devices p with hdevice := none } with
                  moduleRefs := t.moduleRefs - 1 }, -enodev))) ∨
      ∃ lRet, lRet ≠ 0 ∧ s.netanaOpen ulFilter minor = (s, lRet) := by
  have henodev : -enodev ≠ 0 := by decide
  have hebusy : -ebusy ≠ 0 := by decide
  cases hfind : find s.netAnaIDR minor with
  | none => exact Or.inr ⟨-enodev, henodev, by simp [Registry.netanaOpen, hfind, henodev]⟩
  | some p =>
    by_cases hadded : (s.devices p).addsucceded = true
    · by_cases hbusy : (s.devices p).hdevice.isSome = true
      · exact Or.inr ⟨-ebusy, hebusy, by
          simp [Registry.netanaOpen, hfind, hadded, hbusy, hebusy]⟩
      cases hopen : netanaOpenDevice ulFilter (s.devices p).szDeviceName
          { s with moduleRefs := s.moduleRefs + 1 } with
      | mk t r =>
      refine Or.inl ⟨p, t, rfl, hadded, Bool.eq_false_of_not_eq_true hbusy,
        congrArg Prod.fst hopen, ?_⟩
      cases r with
      | error lRet =>
        exact Or.inr (by
          simp [Registry.netanaOpen, hfind, hadded, hbusy, hopen, henodev, Registry.set])
      | ok hDev =>
        exact Or.inl ⟨hDev, by simp [Registry.netanaOpen, hfind, hadded, hbusy, hopen]⟩
    · exact Or.inr ⟨-enodev, henodev, by
        simp [Registry.netanaOpen, hfind, hadded, henodev]⟩

theorem open_refs (ulFilter : BitVec 32) (minor : ℕ) {s : Registry} (hs : s.RefsOpen) :
    (s.netanaOpen ulFilter minor).1.RefsOpen := by
  rcases netanaOpen_ends ulFilter minor s with
    ⟨p, t, -, -, -, rfl, ⟨hDev, hopen⟩ | hopen⟩ | ⟨lRet, -, hopen⟩
  · have hsame := openDevice_nodes ulFilter (s.devices p).szDeviceName
      { s with moduleRefs := s.moduleRefs + 1 }
    rw [hopen, Registry.RefsOpen]
    dsimp only [Registry.set]
    rw [hsame.refs, hsame.files, List.length_cons]
    exact congrArg (· + 1) hs
  · -- the reference that has been taken is dropped again
    have hsame := openDevice_nodes ulFilter (s.devices p).szDeviceName
      { s with moduleRefs := s.moduleRefs + 1 }
    rw [hopen, Registry.RefsOpen]
    dsimp only [Registry.set]
    rw [hsame.refs, hsame.files]
    exact hs
  · rw [hopen]
    exact hs

theorem release_refs {p : DevPtr} {s : Registry} (hp : p ∈ s.openFiles) (hs : s.RefsOpen) :
    (s.netanaRelease p).RefsOpen := by
  have hclosed := closeDevice_nodes (s.devices p).hdevice s
  change (netanaCloseDevice (s.devices p).hdevice s).1.moduleRefs - 1 =
    ((netanaCloseDevice (s.devices p).hdevice s).1.openFiles.erase p).length
  rw [hclosed.refs, hclosed.files, List.length_erase_of_mem hp]
  exact congrArg (· - 1) hs

/-- Whoever uses a device leaves the minors alone. -/
theorem use_nodes {s t : Registry} {a : RegistryAction} (huse : a.isUse = true)
    (h : registryStep s a = some t) : t.netAnaIDR = s.netAnaIDR ∧ (s.RefsOpen → t.RefsOpen) := by
  cases a with
  | register c => exact absurd huse Bool.false_ne_true
  | unregister p fAcknowledged => exact absurd huse Bool.false_ne_true
  | openFile ulFilter minor =>
    cases h
    exact ⟨(netanaOpen_same ulFilter minor s).idr, open_refs ulFilter minor⟩
  | release p =>
    obtain ⟨hp, ht⟩ := Option.ite_none_right_eq_some.mp h
    cases ht
    exact ⟨(netanaRelease_same p s).idr, release_refs hp.2⟩
  | identUpdate p c =>
    obtain ⟨-, ht⟩ := Option.ite_none_right_eq_some.mp h
    cases ht
    have hupdated := identUpdate_nodes p c s
    exact ⟨hupdated.idr, hupdated.refsOpen⟩
  | capture p fCaptureRunning =>
    obtain ⟨-, ht⟩ := Option.ite_none_right_eq_some.mp h
    cases ht
    exact ⟨rfl, id⟩

namespace ModuleInv

variable {k : ℕ} {s : DriverModule}

theorem kref (h : ModuleInv k s) : s.netanaClass ≠ some 0 := by
  rw [h.count, DriverModule.classOf]
  split_ifs with hn
  · exact (Option.some_ne_none 0).symm
  · exact fun h => hn (Option.some.inj h)

/-- The device of a bound card has the minor of its `netana_info`. -/
theorem minor (h : ModuleInv k s) {info : NetanaInfo} (hinfo : info ∈ s.registered) :
    s.registry.Registered info.tkdevice ∧
      (s.registry.devices info.tkdevice).minor = info.minor := by
  have hslot := (h.slots info.minor info.tkdevice).mpr ⟨info, hinfo, rfl, rfl⟩
  exact ⟨h.registry.registered hslot, (h.registry.slots _ _ hslot).1⟩

/-- `netana_tkit_init` finds the list of cards as it would leave it. -/
theorem cards (h : ModuleInv k s) (hclass : s.netanaClass = none) :
    s.registry.tCardList = [] ∧ s.registry.ulCardCnt = 0#32 := by
  have hnone : s.registered = [] := by
    have hcount := h.count
    rw [hclass, DriverModule.classOf] at hcount
    split_ifs at hcount with hlength
    exact List.eq_nil_of_length_eq_zero hlength
  have hempty : s.registry.tCardList = [] := by
    apply List.eq_nil_iff_forall_not_mem.mpr
    intro p hp
    obtain ⟨info, hinfo, -⟩ := (h.slots _ p).mp ((h.registry.listed p).mp hp).1
    rw [hnone] at hinfo
    exact List.not_mem_nil hinfo
  refine ⟨hempty, ?_⟩
  have hcount := h.registry.cards.count
  rw [hempty] at hcount
  exact hcount

/-- The probe has gone back; the bus may have bound the card all the same. -/
theorem back (h : ModuleInv k s) {registry : Registry} (hregistry : RegistryInv registry)
    (hfiles : SameFiles s.registry registry)
    (hfind : ∀ m, find registry.netAnaIDR m = find s.registry.netAnaIDR m) (j : ℕ)
    {cards : List BoundCard}
    (hcards : cards = s.cards ∨ ∃ b : BoundCard, b.drvdata = none ∧ cards = s.cards ++ [b]) :
    ModuleInv (k + j) { s with
      registry := registry
      held := Multiset.replicate j .cardLock + s.held
      cards := cards } := by
  have hregistered : cards.filterMap BoundCard.drvdata = s.registered := by
    rcases hcards with rfl | ⟨b, hb, rfl⟩
    · rfl
    · simp [DriverModule.registered, hb]
  have hsum : (cards.map BoundCard.holds).sum = (s.cards.map BoundCard.holds).sum := by
    rcases hcards with rfl | ⟨b, hb, rfl⟩
    · rfl
    · have hnothing : b.holds = 0 := by simp [BoundCard.holds, hb]
      rw [List.map_append, List.sum_append, List.map_singleton, List.sum_singleton, hnothing,
        add_zero]
  refine ⟨hregistry, ?_, ?_, ?_, ?_, ?_⟩
  · change s.netanaClass = DriverModule.classOf (cards.filterMap BoundCard.drvdata).length
    rw [hregistered]
    exact h.count
  · change Multiset.replicate j .cardLock + s.held = (cards.map BoundCard.holds).sum +
      (DriverModule.classHeld (cards.filterMap BoundCard.drvdata).length +
        Multiset.replicate (k + j) .cardLock)
    rw [hregistered, hsum, h.held, Multiset.replicate_add]
    abel
  · intro m p
    change find registry.netAnaIDR m = some p ↔
      ∃ info ∈ cards.filterMap BoundCard.drvdata, info.minor = m ∧ info.tkdevice = p
    rw [hregistered, hfind]
    exact h.slots m p
  · change ((cards.filterMap BoundCard.drvdata).map NetanaInfo.minor).Nodup
    rw [hregistered]
    exact h.minors
  · exact hfiles.refsOpen h.refs

/-- A card is bound with a device. -/
theorem bind (h : ModuleInv k s) {registry : Registry} (hregistry : RegistryInv registry)
    (hfiles : SameFiles s.registry registry)
    {b : BoundCard} {info : NetanaInfo} (hdata : b.drvdata = some info)
    (hdevice : info.tkdevice = s.registry.nextPtr)
    (halloc : alloc minorLimit s.registry.netAnaIDR s.registry.nextPtr =
      some (registry.netAnaIDR, info.minor)) :
    ModuleInv (k + if s.netanaClass = none then 1 else 0) { s.withClass with
      registry := registry
      held := b.holds + s.withClass.held
      cards := s.cards ++ [b] } := by
  have hregistered : (s.cards ++ [b]).filterMap BoundCard.drvdata = s.registered ++ [info] := by
    simp [DriverModule.registered, hdata]
  have hfind (m : ℕ) := find_alloc halloc m
  have hfree : ∀ p, find s.registry.netAnaIDR info.minor ≠ some p := by
    obtain ⟨hlowest, -⟩ := alloc_eq_some halloc
    rw [hlowest, find_lowestFree]
    exact fun p => (Option.some_ne_none p).symm
  have hclass : s.withClass.netanaClass = DriverModule.classOf (s.registered.length + 1) ∧
      s.withClass.held = (s.cards.map BoundCard.holds).sum +
        (DriverModule.classHeld (s.registered.length + 1) +
          Multiset.replicate (k + if s.netanaClass = none then 1 else 0) .cardLock) := by
    have hheld := h.held
    have hcount := h.count
    unfold DriverModule.withClass
    cases hlength : s.registered.length with
    | zero =>
      rw [hlength] at hheld hcount
      have hnone : s.netanaClass = none := hcount
      rw [hnone]
      refine ⟨rfl, ?_⟩
      simp only [if_true, Multiset.replicate_add, Multiset.replicate_one, hheld]
      simp only [DriverModule.classHeld, if_true, Nat.succ_ne_zero, if_false]
      abel
    | succ n =>
      rw [hlength] at hheld hcount
      have hsome : s.netanaClass = some (n + 1) := hcount
      rw [hsome]
      exact ⟨rfl, hheld⟩
  refine ⟨hregistry, ?_, ?_, ?_, ?_, ?_⟩
  · change s.withClass.netanaClass =
      DriverModule.classOf ((s.cards ++ [b]).filterMap BoundCard.drvdata).length
    rw [hregistered, List.length_append]
    exact hclass.1
  · change b.holds + s.withClass.held = ((s.cards ++ [b]).map BoundCard.holds).sum +
      (DriverModule.classHeld ((s.cards ++ [b]).filterMap BoundCard.drvdata).length + _)
    rw [hregistered, List.length_append, List.map_append, List.sum_append, List.map_singleton,
      List.sum_singleton, hclass.2, List.length_singleton]
    abel
  · intro m p
    change find registry.netAnaIDR m = some p ↔
      ∃ i ∈ (s.cards ++ [b]).filterMap BoundCard.drvdata, i.minor = m ∧ i.tkdevice = p
    rw [hregistered, hfind]
    by_cases hm : m = info.minor
    · rw [if_pos hm]
      constructor
      · intro hp
        exact ⟨info, by simp, hm.symm, hdevice.trans (Option.some.inj hp)⟩
      · rintro ⟨i, hi, him, hip⟩
        rcases List.mem_append.mp hi with hold | hnew
        · -- the minor was free
          have hslot := (h.slots i.minor i.tkdevice).mpr ⟨i, hold, rfl, rfl⟩
          rw [him, hm] at hslot
          exact absurd hslot (hfree _)
        · rw [List.mem_singleton.mp hnew] at hip
          rw [← hip, hdevice]
    · rw [if_neg hm, h.slots]
      constructor
      · rintro ⟨i, hi, him, hip⟩
        exact ⟨i, List.mem_append_left _ hi, him, hip⟩
      · rintro ⟨i, hi, him, hip⟩
        rcases List.mem_append.mp hi with hold | hnew
        · exact ⟨i, hold, him, hip⟩
        · rw [List.mem_singleton.mp hnew] at him
          exact absurd him.symm hm
  · change (((s.cards ++ [b]).filterMap BoundCard.drvdata).map NetanaInfo.minor).Nodup
    rw [hregistered, List.map_append, List.nodup_append]
    refine ⟨h.minors, List.nodup_singleton _, ?_⟩
    intro m hm m' hm'
    obtain ⟨i, hi, rfl⟩ := List.mem_map.mp hm
    rw [List.map_singleton, List.mem_singleton] at hm'
    rintro rfl
    exact hfree i.tkdevice (hm' ▸ (h.slots i.minor i.tkdevice).mpr ⟨i, hi, rfl, rfl⟩)
  · exact hfiles.refsOpen h.refs

/-- What a bound card with a device has of the module. -/
theorem share (h : ModuleInv k s) {b : BoundCard} (hb : b ∈ s.cards) {info : NetanaInfo}
    (hdata : b.drvdata = some info) :
    ∃ others : List NetanaInfo, others = (s.cards.erase b).filterMap BoundCard.drvdata ∧
      s.registered.Perm (info :: others) ∧
      s.netanaClass = DriverModule.classOf (others.length + 1) ∧
      s.held = b.holds + (DriverModule.classHeld (others.length + 1) +
        (((s.cards.erase b).map BoundCard.holds).sum + Multiset.replicate k .cardLock)) := by
  have hperm := List.perm_cons_erase hb
  have hregistered : s.registered.Perm
      (info :: (s.cards.erase b).filterMap BoundCard.drvdata) := by
    have hmap := hperm.filterMap BoundCard.drvdata
    rwa [List.filterMap_cons_some hdata] at hmap
  have hlength : s.registered.length =
      ((s.cards.erase b).filterMap BoundCard.drvdata).length + 1 := hregistered.length_eq
  have hsum := ResourceLedger.sum_erase BoundCard.holds hb
  refine ⟨_, rfl, hregistered, ?_, ?_⟩
  · rw [← hlength]
    exact h.count
  · rw [h.held, hlength, hsum]
    abel

theorem remove (h : ModuleInv k s) {b : BoundCard} (hb : b ∈ s.cards) {info : NetanaInfo}
    (hdata : b.drvdata = some info) (hclosed : info.tkdevice ∉ s.registry.openFiles)
    (fAcknowledged : Bool) {others : List NetanaInfo}
    (hothers : others = (s.cards.erase b).filterMap BoundCard.drvdata) :
    ModuleInv k { s with
      registry := netanaUnregisterdevice info.tkdevice fAcknowledged s.registry
      netanaClass := DriverModule.classOf others.length
      held := DriverModule.classHeld others.length +
        (((s.cards.erase b).map BoundCard.holds).sum + Multiset.replicate k .cardLock)
      cards := s.cards.erase b } := by
  obtain ⟨_, rfl, hperm, -, -⟩ := h.share hb hdata
  have hinfo : info ∈ s.registered := hperm.mem_iff.mpr List.mem_cons_self
  obtain ⟨hregistered, hminor⟩ := h.minor hinfo
  -- no other device has the minor
  have hminors := (hperm.map NetanaInfo.minor).nodup_iff.mp h.minors
  rw [List.map_cons, List.nodup_cons] at hminors
  subst hothers
  refine ⟨h.registry.unregister hregistered hclosed fAcknowledged, rfl, ?_, ?_, hminors.2,
    (unregister_files _ _ _).refsOpen h.refs⟩
  · exact add_left_comm _ _ _
  · intro m p
    change find (netanaUnregisterdevice info.tkdevice fAcknowledged s.registry).netAnaIDR m =
      some p ↔ ∃ i ∈ (s.cards.erase b).filterMap BoundCard.drvdata, i.minor = m ∧ i.tkdevice = p
    rw [unregister_slots, hminor]
    by_cases hm : m = info.minor
    · rw [if_pos hm]
      apply iff_of_false (Option.some_ne_none p).symm
      rintro ⟨i, hi, him, -⟩
      exact hminors.1 (List.mem_map.mpr ⟨i, hi, him.trans hm⟩)
    · rw [if_neg hm, h.slots]
      constructor
      · rintro ⟨i, hi, him, hip⟩
        rcases List.mem_cons.mp (hperm.mem_iff.mp hi) with rfl | hrest
        · exact absurd him.symm hm
        · exact ⟨i, hrest, him, hip⟩
      · rintro ⟨i, hi, him, hip⟩
        exact ⟨i, hperm.mem_iff.mpr (List.mem_cons_of_mem _ hi), him, hip⟩

theorem use (h : ModuleInv k s) {a : RegistryAction} (huse : a.isUse = true) {t : Registry}
    (hstep : registryStep s.registry a = some t) : ModuleInv k { s with registry := t } := by
  have hclosed : unregistersClosed s.registry a = true := by
    cases a with
    | unregister p fAcknowledged => exact absurd huse Bool.false_ne_true
    | _ => rfl
  obtain ⟨hidr, hrefs⟩ := use_nodes huse hstep
  refine ⟨registryStep_inv h.registry hclosed hstep, h.count, h.held, ?_, h.minors, hrefs h.refs⟩
  intro m p
  change find t.netAnaIDR m = some p ↔ _
  rw [hidr]
  exact h.slots m p

end ModuleInv

/-- The registration gets a class, a device and all that belongs to it. -/
def RegistrationChoice.succeeds (c : RegistrationChoice) (s : DriverModule) : Bool :=
  (c.choice (c.classReady s)).succeeds s.registry

theorem registered_eq_zero (c : RegistrationChoice) (s : DriverModule) :
    (c.registered s).2 = 0 ↔ c.succeeds s = true := by
  have hslots := register_slots (c.choice (c.classReady s)) s.registry
  unfold RegistrationChoice.registered RegistrationChoice.succeeds
  split_ifs at hslots with hsucceeds
  · exact iff_of_true hslots.1 hsucceeds
  · exact iff_of_false hslots.1 hsucceeds

/-- What an error pointer stops has not succeeded. -/
theorem RegistrationChoice.stops_of_registered (c : RegistrationChoice) {s : DriverModule}
    (hret : (c.registered s).2 = 0) : c.stops s = false := by
  rw [registered_eq_zero] at hret
  simp only [succeeds, RegisterChoice.succeeds, RegisterChoice.tailSucceeds, choice,
    Bool.and_eq_true, decide_eq_true_eq] at hret
  obtain ⟨-, ⟨-, hadd⟩, hsysfs⟩ := hret
  simp [stops, stopsTail, of_decide_eq_true hadd, hsysfs]

/-- The step creates the class. -/
def ModuleAction.createsClass (s : DriverModule) : ModuleAction → Bool
  | .pciProbe _ c =>
    s.netanaClass.isNone && (c.reachesRegions && c.isMapped) && c.register.classReady s
  | .ofProbe _ c => s.netanaClass.isNone && (c.fInfoAllocated && c.fMemAllocated) &&
    c.register.any fun r => r.classReady s
  | _ => false

/-- How often a run creates it. -/
def classCreations : DriverModule → List ModuleAction → ℕ
  | _, [] => 0
  | s, a :: as => (a.createsClass s).toNat + match moduleStep s a with
    | none => 0
    | some t => classCreations t as

/-- The step uses a resource that is not there any more, or one that never has been. -/
def ModuleAction.goesWrong (s : DriverModule) : ModuleAction → Bool
  | .pciProbe _ c => (c.reachesRegions && c.isMapped) && c.register.stops s
  | .ofProbe _ c => c.fInfoAllocated &&
    !(c.fMemAllocated && c.register.any fun r => r.succeeds s)
  | .remove b _ => !b.removable
  | .use _ => false

/-- Only devices without an open file lose their card. -/
def removesClosed (s : DriverModule) : ModuleAction → Bool
  | .remove b _ => b.drvdata.all fun info => decide (info.tkdevice ∉ s.registry.openFiles)
  | _ => true

/-- How a step can end that starts with the invariant. -/
inductive StepEnds (k : ℕ) (s : DriverModule) (a : ModuleAction) (t : DriverModule) : Prop where
  | wrong (hwrong : a.goesWrong s = true) (hfault : t.fault ≠ none)
  | fine (hwrong : a.goesWrong s = false) (hfault : t.fault = none) {j : Bool}
      (hcreates : a.createsClass s = j) (hinv : ModuleInv (k + j.toNat) t)

/-- A card without driver data changes nothing of the invariant. -/
theorem DriverModule.bound_unbound (bus : Bus) (card : ℕ) (s : DriverModule) (ret : ℤ) :
    (if 0 ≤ ret then s.cards ++ [⟨bus, card, none⟩] else s.cards) = s.cards ∨
      ∃ b : BoundCard, b.drvdata = none ∧
        (if 0 ≤ ret then s.cards ++ [⟨bus, card, none⟩] else s.cards) = s.cards ++ [b] := by
  split_ifs
  · exact Or.inr ⟨⟨bus, card, none⟩, rfl, rfl⟩
  · exact Or.inl rfl

theorem lost_eq (s : DriverModule) (ready : Bool) :
    (if ready then s.lost else 0) =
      Multiset.replicate (s.netanaClass.isNone && ready).toNat .cardLock := by
  unfold DriverModule.lost
  cases s.netanaClass with
  | none => cases ready <;> rfl
  | some kref => cases ready <;> rfl

namespace ModuleInv

variable {k : ℕ} {s : DriverModule}

/-- A registration that goes back leaves nothing but the lock. -/
theorem failed (h : ModuleInv k s) (c : RegistrationChoice) (hne : (c.registered s).2 ≠ 0)
    {cards : List BoundCard}
    (hcards : cards = s.cards ∨ ∃ b : BoundCard, b.drvdata = none ∧ cards = s.cards ++ [b]) :
    ModuleInv (k + (s.netanaClass.isNone && c.classReady s).toNat) { s with
      registry := (c.registered s).1
      held := (if c.classReady s then s.lost else 0) + s.held
      cards := cards } := by
  have hslots := register_slots (c.choice (c.classReady s)) s.registry
  split_ifs at hslots with hsucceeds
  · exact absurd hslots.1 hne
  rw [lost_eq]
  exact h.back (h.registry.register _) (register_files _ _) hslots.2 _ hcards

/-- A registration that succeeds adds a card. -/
theorem registered (h : ModuleInv k s) (c : RegistrationChoice) (hret : (c.registered s).2 = 0)
    (hready : c.classReady s = true) {minor : ℕ}
    (hminor : ∃ idr, alloc minorLimit s.registry.netAnaIDR s.registry.nextPtr = some (idr, minor))
    (bus : Bus) (card : ℕ) :
    ModuleInv (k + (s.netanaClass.isNone && c.classReady s).toNat) { s.withClass with
      registry := (c.registered s).1
      held := BoundCard.holds ⟨bus, card, some ⟨minor, s.registry.nextPtr, c.dsrthread⟩⟩ +
        s.withClass.held
      cards := s.cards ++ [⟨bus, card, some ⟨minor, s.registry.nextPtr, c.dsrthread⟩⟩] } := by
  have hslots := register_slots (c.choice (c.classReady s)) s.registry
  split_ifs at hslots with hsucceeds
  · obtain ⟨idr, halloc⟩ := hminor
    obtain ⟨-, idr', minor', halloc', hidr⟩ := hslots
    obtain ⟨rfl, rfl⟩ := Prod.mk.inj (Option.some.inj (halloc.symm.trans halloc'))
    have hbind := h.bind (b := ⟨bus, card, some ⟨minor, s.registry.nextPtr, c.dsrthread⟩⟩)
      (h.registry.register (c.choice (c.classReady s))) (register_files _ _) rfl rfl
      (hidr ▸ halloc)
    have hcreated : (if s.netanaClass = none then 1 else 0) =
        (s.netanaClass.isNone && c.classReady s).toNat := by
      rw [hready]
      cases s.netanaClass <;> rfl
    rw [hcreated] at hbind
    exact hbind
  · exact absurd hret hslots.1

/-- A probe that has done nothing. -/
theorem early (h : ModuleInv k s) {cards : List BoundCard}
    (hcards : cards = s.cards ∨ ∃ b : BoundCard, b.drvdata = none ∧ cards = s.cards ++ [b]) :
    ModuleInv k { s with cards := cards } := by
  have hback := h.back h.registry ⟨rfl, rfl⟩ (fun _ => rfl) 0 hcards
  rw [Multiset.replicate_zero, zero_add] at hback
  exact hback

theorem pciProbe (h : ModuleInv k s) (hfault : s.fault = none) (card : ℕ) (c : PciChoice) :
    StepEnds k s (.pciProbe card c) (s.bindCard .pci card (s.netanaPciProbe card c)) := by
  have hend := DriverModule.netanaPciProbe_ends card c h.kref
  generalize s.netanaPciProbe card c = r at hend ⊢
  cases hend with
  | early hearly ret hret =>
    rw [DriverModule.bindCard_ok]
    have hbound := h.early (DriverModule.bound_unbound .pci card s ret)
    refine StepEnds.fine (j := false) ?_ ?_ ?_ hbound
    · simp [ModuleAction.goesWrong, hearly]
    · exact hfault
    · simp [ModuleAction.createsClass, hearly]
  | stopped hreaches hstops =>
    apply StepEnds.wrong
    · simp [ModuleAction.goesWrong, hreaches, hstops]
    · exact Option.some_ne_none _
  | failed hreaches hstops hne =>
    -- the value that the bus goes by is one if `device_create` has failed
    rw [DriverModule.bindCard_ok]
    have hfailed := h.failed c.register hne
      (DriverModule.bound_unbound .pci card s (c.register.registered s).2)
    refine StepEnds.fine ?_ ?_ ?_ hfailed
    · simp [ModuleAction.goesWrong, hstops]
    · exact hfault
    · simp only [ModuleAction.createsClass, hreaches, Bool.and_true]
  | registered hreaches hstops hready hret minor hminor =>
    have hregistered := h.registered c.register hret hready hminor .pci card
    rw [BoundCard.holds, add_assoc, ← s.withClass_cards] at hregistered
    rw [DriverModule.bindCard_ok, if_pos le_rfl]
    refine StepEnds.fine ?_ ?_ ?_ hregistered
    · simp [ModuleAction.goesWrong, hstops]
    · exact s.withClass_fault.trans hfault
    · simp only [ModuleAction.createsClass, hreaches, Bool.and_true]

theorem ofProbe (h : ModuleInv k s) (hfault : s.fault = none) (card : ℕ) (c : OfChoice) :
    StepEnds k s (.ofProbe card c) (s.bindCard .platform card (s.nanlOfProbe card c)) := by
  have hend := DriverModule.nanlOfProbe_ends card c h.kref
  generalize s.nanlOfProbe card c = r at hend ⊢
  cases hend with
  | early hinfo =>
    refine StepEnds.fine (j := false) ?_ ?_ ?_ h
    · simp [ModuleAction.goesWrong, hinfo]
    · exact hfault
    · simp [ModuleAction.createsClass, hinfo]
  | freed hinfo hfails f =>
    have hwrong : (c.fMemAllocated && c.register.any fun r => r.succeeds s) = false := by
      cases hmem : c.fMemAllocated with
      | false => rfl
      | true =>
      cases hr : c.register with
      | none => rfl
      | some r =>
        change r.succeeds s = false
        rw [Bool.eq_false_iff, ne_eq, ← registered_eq_zero]
        rcases hfails r hmem hr with hstops | hne
        · intro hret
          rw [r.stops_of_registered hret] at hstops
          exact Bool.false_ne_true hstops
        · exact hne
    apply StepEnds.wrong
    · simp only [ModuleAction.goesWrong, hinfo, hwrong, Bool.not_false, Bool.true_and]
    · exact Option.some_ne_none f
  | registered hinfo hmem r hr hstops hready hret minor hminor =>
    have hsucceeds := (registered_eq_zero r s).mp hret
    have hregistered := h.registered r hret hready hminor .platform card
    rw [BoundCard.holds, add_assoc, ← s.withClass_cards] at hregistered
    rw [DriverModule.bindCard_ok, if_pos le_rfl]
    refine StepEnds.fine ?_ ?_ ?_ hregistered
    · simp [ModuleAction.goesWrong, hmem, hr, hsucceeds]
    · exact s.withClass_fault.trans hfault
    · simp [ModuleAction.createsClass, hinfo, hmem, hr]

/-- A card is removed if it can be. -/
theorem removeCard (h : ModuleInv k s) {b : BoundCard} (hb : b ∈ s.cards)
    (hclosed : b.drvdata.all fun info => decide (info.tkdevice ∉ s.registry.openFiles))
    (fAcknowledged : Bool) :
    if b.removable then
      ∃ t, s.removeCard b fAcknowledged = .ok t ∧ ModuleInv k t ∧ t.fault = s.fault ∧
        t.cards = s.cards.erase b ∧ t.registry.openFiles = s.registry.openFiles
    else ∃ f, s.removeCard b fAcknowledged = .error f := by
  split_ifs with hremovable
  · cases hdata : b.drvdata with
    | none =>
      rw [BoundCard.removable, hdata, Bool.and_false] at hremovable
      exact absurd hremovable Bool.false_ne_true
    | some info =>
      rw [hdata, Option.all_some, decide_eq_true_eq] at hclosed
      obtain ⟨others, hothers, hperm, hclass, hheld⟩ := h.share hb hdata
      have hminor := (h.minor (hperm.mem_iff.mpr List.mem_cons_self)).2
      exact ⟨_, DriverModule.removeCard_eq fAcknowledged hdata hremovable hminor hclass hheld,
        h.remove hb hdata hclosed fAcknowledged hothers, rfl, rfl, (unregister_files _ _ _).files⟩
  · cases hdata : b.drvdata with
    | none =>
      exact DriverModule.removeCard_fails (n := 0) (l := 0) fAcknowledged
        (Bool.eq_false_of_not_eq_true hremovable)
        (fun info hinfo => absurd (hdata.symm.trans hinfo) (Option.some_ne_none info).symm)
    | some info =>
      obtain ⟨others, -, hperm, hclass, hheld⟩ := h.share hb hdata
      have hminor := (h.minor (hperm.mem_iff.mpr List.mem_cons_self)).2
      apply DriverModule.removeCard_fails fAcknowledged
        (Bool.eq_false_of_not_eq_true hremovable)
      intro info' hinfo'
      obtain rfl : info = info' := Option.some.inj (hdata.symm.trans hinfo')
      exact ⟨hminor, hclass, hheld⟩

theorem step (h : ModuleInv k s) {a : ModuleAction} (hclosed : removesClosed s a = true)
    {t : DriverModule} (hstep : moduleStep s a = some t) : StepEnds k s a t := by
  unfold moduleStep at hstep
  obtain ⟨hrunning, hstep⟩ := Option.ite_none_left_eq_some.mp hstep
  have hfault : s.fault = none := by
    simpa using hrunning
  cases a with
  | pciProbe card c =>
    obtain ⟨-, ht⟩ := Option.ite_none_left_eq_some.mp hstep
    cases ht
    exact h.pciProbe hfault card c
  | ofProbe card c =>
    obtain ⟨-, ht⟩ := Option.ite_none_left_eq_some.mp hstep
    cases ht
    exact h.ofProbe hfault card c
  | remove b fAcknowledged =>
    obtain ⟨hb, ht⟩ := Option.ite_none_right_eq_some.mp hstep
    have hremoved := h.removeCard hb hclosed fAcknowledged
    cases hremovable : b.removable with
    | true =>
      rw [hremovable, if_pos rfl] at hremoved
      obtain ⟨u, hu, hinv, hsame, -⟩ := hremoved
      rw [hu] at ht
      cases ht
      refine StepEnds.fine (j := false) ?_ ?_ ?_ hinv
      · simp [ModuleAction.goesWrong, hremovable]
      · exact hsame.trans hfault
      · rfl
    | false =>
      rw [hremovable, if_neg Bool.false_ne_true] at hremoved
      obtain ⟨f, hf⟩ := hremoved
      rw [hf] at ht
      cases ht
      apply StepEnds.wrong _ (Option.some_ne_none f)
      simp [ModuleAction.goesWrong, hremovable]
  | use a =>
    obtain ⟨huse, ht⟩ := Option.ite_none_right_eq_some.mp hstep
    obtain ⟨r, hr, rfl⟩ := Option.map_eq_some_iff.mp ht
    exact StepEnds.fine (j := false) rfl hfault rfl (h.use huse hr)

end ModuleInv

/-- After a fault nothing happens any more. -/
theorem run_faulted {s t : DriverModule} {as : List ModuleAction} (hfault : s.fault ≠ none)
    (hrun : run moduleStep s as = some t) : t = s := by
  cases as with
  | nil =>
    cases hrun
    rfl
  | cons a as =>
    obtain ⟨u, hu, -⟩ := run_cons_eq_some.mp hrun
    unfold moduleStep at hu
    rw [if_pos (Option.isSome_iff_ne_none.mpr hfault)] at hu
    exact absurd hu (Option.some_ne_none u).symm

/-- From the first fault on the run is over, and without one the invariant holds to its end. -/
theorem ModuleInv.run {k : ℕ} {s t : DriverModule} {as : List ModuleAction} (h : ModuleInv k s)
    (hfault : s.fault = none)
    (hclosed : Along (fun s a => removesClosed s a = true) moduleStep s as)
    (hrun : StepRuns.run moduleStep s as = some t) :
    (t.fault = none ↔ Along (fun s a => a.goesWrong s = false) moduleStep s as) ∧
      (t.fault = none → ModuleInv (k + classCreations s as) t) := by
  induction as generalizing k s with
  | nil =>
    cases hrun
    exact ⟨iff_of_true hfault trivial, fun _ => h⟩
  | cons a as ih =>
    obtain ⟨u, hu, hrest⟩ := run_cons_eq_some.mp hrun
    obtain ⟨hfirst, hafter⟩ := hclosed
    cases h.step hfirst hu with
    | wrong hwrong hstopped =>
      obtain rfl := run_faulted hstopped hrest
      refine ⟨iff_of_false hstopped ?_, fun hnone => absurd hnone hstopped⟩
      rintro ⟨hright, -⟩
      rw [hwrong] at hright
      exact Bool.false_ne_true hright.symm
    | fine hright hnone hcreates hinv =>
      obtain ⟨hiff, hkept⟩ := ih hinv hnone (hafter u hu) hrest
      constructor
      · rw [hiff]
        constructor
        · intro halong
          refine ⟨hright, fun v hv => ?_⟩
          obtain rfl : u = v := Option.some.inj (hu.symm.trans hv)
          exact halong
        · exact fun halong => halong.2 u hu
      · intro hend
        have hcount : classCreations s (a :: as) =
            (a.createsClass s).toNat + classCreations u as := by
          rw [classCreations, hu]
        rw [hcount, hcreates, ← add_assoc]
        exact hkept hend

/-- The last cards are removed in any order. -/
theorem ModuleInv.removeAll {k : ℕ} {s : DriverModule} (h : ModuleInv k s)
    (hclosed : s.registry.openFiles = []) (fAcknowledged : BoundCard → Bool)
    {cards : List BoundCard} (hcards : cards.Perm s.cards) :
    if cards.all BoundCard.removable then
      ∃ t, cards.foldlM (fun s b => s.removeCard b (fAcknowledged b)) s = .ok t ∧
        ModuleInv k t ∧ t.cards = []
    else ∃ f, cards.foldlM (fun s b => s.removeCard b (fAcknowledged b)) s = .error f := by
  induction cards generalizing s with
  | nil => exact ⟨s, rfl, h, List.nil_perm.mp hcards⟩
  | cons b cards ih =>
    obtain ⟨hb, hrest⟩ := List.cons_perm_iff_perm_erase.mp hcards
    have hfree : b.drvdata.all fun info => decide (info.tkdevice ∉ s.registry.openFiles) := by
      rw [hclosed]
      cases b.drvdata <;> rfl
    have hremoved := h.removeCard hb hfree (fAcknowledged b)
    rw [List.foldlM_cons, List.all_cons]
    cases hremovable : b.removable with
    | false =>
      rw [hremovable, if_neg Bool.false_ne_true] at hremoved
      obtain ⟨f, hf⟩ := hremoved
      rw [hf]
      exact ⟨f, rfl⟩
    | true =>
      rw [hremovable, if_pos rfl] at hremoved
      obtain ⟨t, ht, hinv, -, hleft, hfiles⟩ := hremoved
      rw [ht, Bool.true_and]
      exact ih hinv (hfiles.trans hclosed) (hleft ▸ hrest)

/-- A card for which every step succeeds, and one without a node. -/
def cardFound : PciChoice :=
  { fInfoAllocated := true
    fMemAllocated := true
    pciEnableDevice := none
    pciRequestRegions := none
    addr := 0xf0000000#64
    size := 0x10000#64
    fMapped := true
    irq := 17#32
    subsystemDevice := 0x0010#16
    registration :=
      { register := cardRegistered
        fChrdevRegistered := true
        fClassAllocated := true
        fClassCreated := true
        fToolkitReady := true
        dsrthread := .thread } }

def cardWithoutNode : PciChoice :=
  { cardFound with
    registration := { cardFound.registration with
      register := { cardRegistered with fDeviceCreated := false } } }

section Runs

variable {d : TkDevice} {as : List ModuleAction} {s : DriverModule}

/-- What the module holds of what is counted, after every run: the share of each bound card, the
class while there is a device, and the lock of the list of cards once for each time that the class
has been created. A run goes wrong exactly where a registration is undone that has an error pointer
for a thread, where a platform device is not registered, or where a card is removed that cannot
be. -/
theorem module_resources
    (hclosed : Along (fun s a => removesClosed s a = true) moduleStep (DriverModule.loaded d) as)
    (hrun : run moduleStep (DriverModule.loaded d) as = some s) :
    (s.fault = none ↔
        Along (fun s a => a.goesWrong s = false) moduleStep (DriverModule.loaded d) as) ∧
      (s.fault = none →
        s.held = (s.cards.map BoundCard.holds).sum +
            (DriverModule.classHeld s.registered.length +
              Multiset.replicate (classCreations (DriverModule.loaded d) as) .cardLock) ∧
          s.netanaClass = DriverModule.classOf s.registered.length ∧
          (∀ m p, find s.registry.netAnaIDR m = some p ↔
            ∃ info ∈ s.registered, info.minor = m ∧ info.tkdevice = p) ∧
          s.registry.moduleRefs = s.registry.openFiles.length) := by
  obtain ⟨hiff, hinv⟩ := (ModuleInv.loaded d).run rfl hclosed hrun
  refine ⟨hiff, fun hfault => ?_⟩
  have hend := hinv hfault
  rw [zero_add] at hend
  exact ⟨hend.held, hend.count, hend.slots, hend.refs⟩

/-- Two cards; the node of the second one is not created, and it is bound without a device. The
first one is opened, closed and removed. -/
theorem module_resources_two : ∃ s, run moduleStep (DriverModule.loaded (cardRegistered.device 0))
      [.pciProbe 0 cardFound, .pciProbe 1 cardWithoutNode, .use (.openFile 0#32 0),
        .use (.release 0), .remove ⟨.pci, 0, some ⟨0, 0, .thread⟩⟩ true] = some s ∧
    s.cards = [⟨.pci, 1, none⟩] ∧ s.held = {.cardLock} ∧ s.registry.moduleRefs = 0 := by
  obtain ⟨s, hrun, hfault, hcards, hfiles⟩ : ∃ s, run moduleStep
      (DriverModule.loaded (cardRegistered.device 0))
      [.pciProbe 0 cardFound, .pciProbe 1 cardWithoutNode, .use (.openFile 0#32 0),
        .use (.release 0), .remove ⟨.pci, 0, some ⟨0, 0, .thread⟩⟩ true] = some s ∧
      s.fault = none ∧ s.cards = [⟨.pci, 1, none⟩] ∧ s.registry.openFiles = [] :=
    ⟨_, rfl, by rfl, by rfl, by rfl⟩
  obtain ⟨-, hend⟩ := module_resources (along_of_check (by rfl)) hrun
  obtain ⟨hheld, -, -, hrefs⟩ := hend hfault
  refine ⟨s, hrun, hcards, ?_, ?_⟩
  · rw [hheld, DriverModule.registered, hcards]
    rfl
  · rw [hrefs, hfiles]
    rfl

/-- A module that nobody refers to can be unloaded if and only if all its cards can be removed, and
then the locks are all that it leaves of what is counted. -/
theorem module_unload
    (hclosed : Along (fun s a => removesClosed s a = true) moduleStep (DriverModule.loaded d) as)
    (hrun : run moduleStep (DriverModule.loaded d) as = some s) (hfault : s.fault = none)
    (hrefs : s.registry.moduleRefs = 0) (fAcknowledged : BoundCard → Bool) :
    ((∃ t, netanaPciExitModule fAcknowledged s = .ok t) ↔
        ∀ b ∈ s.cards, b.removable = true) ∧
      ∀ t, netanaPciExitModule fAcknowledged s = .ok t →
        t.held = Multiset.replicate (classCreations (DriverModule.loaded d) as) .cardLock ∧
          t.netanaClass = none ∧ t.cards = [] ∧ ∀ m, find t.registry.netAnaIDR m = none := by
  have hinv := ((ModuleInv.loaded d).run rfl hclosed hrun).2 hfault
  rw [zero_add] at hinv
  have hfiles : s.registry.openFiles = [] :=
    List.eq_nil_of_length_eq_zero (hinv.refs.symm.trans hrefs)
  have hperm : (s.cards.filter (·.bus = .pci) ++ s.cards.filter (·.bus = .platform)).Perm
      s.cards := by
    have hsplit := List.filter_append_perm (fun b : BoundCard => decide (b.bus = .pci)) s.cards
    have hother : s.cards.filter (·.bus = .platform) =
        s.cards.filter (fun b => !decide (b.bus = .pci)) := by
      apply List.filter_congr
      intro b _
      cases b.bus <;> rfl
    rw [hother]
    exact hsplit
  have hexit := hinv.removeAll hfiles fAcknowledged hperm
  rw [hperm.all_eq] at hexit
  unfold netanaPciExitModule
  cases hall : s.cards.all BoundCard.removable with
  | true =>
    rw [hall, if_pos rfl] at hexit
    obtain ⟨t, ht, hend, hcards⟩ := hexit
    refine ⟨iff_of_true ⟨t, ht⟩ (List.all_eq_true.mp hall), fun u hu => ?_⟩
    obtain rfl : t = u := Except.ok.inj (ht.symm.trans hu)
    have hnone : t.registered = [] := by
      rw [DriverModule.registered, hcards]
      rfl
    refine ⟨?_, ?_, hcards, ?_⟩
    · rw [hend.held, hcards, hnone]
      simp [DriverModule.classHeld]
    · rw [hend.count, hnone]
      rfl
    · intro m
      by_contra hsome
      obtain ⟨p, hp⟩ := Option.ne_none_iff_exists'.mp hsome
      obtain ⟨info, hinfo, -⟩ := (hend.slots m p).mp hp
      rw [hnone] at hinfo
      exact absurd hinfo List.not_mem_nil
  | false =>
    rw [hall, if_neg Bool.false_ne_true] at hexit
    obtain ⟨f, hf⟩ := hexit
    have hnever (t : DriverModule) : ¬ List.foldlM (fun s b => s.removeCard b (fAcknowledged b)) s
        (s.cards.filter (·.bus = .pci) ++ s.cards.filter (·.bus = .platform)) = .ok t := by
      rw [hf]
      exact fun h => nomatch h
    refine ⟨iff_of_false (fun ⟨t, ht⟩ => hnever t ht) ?_, fun t ht => absurd ht (hnever t)⟩
    intro hremovable
    rw [List.all_eq_true.mpr hremovable] at hall
    exact Bool.false_ne_true hall.symm

/-- Two cards with a device each are removed with the module. -/
theorem module_unload_two : ∃ s t, run moduleStep
      (DriverModule.loaded (cardRegistered.device 0))
      [.pciProbe 0 cardFound, .pciProbe 1 cardFound] = some s ∧
    netanaPciExitModule (fun _ => true) s = .ok t ∧ t.held = {.cardLock} ∧
      t.netanaClass = none := by
  obtain ⟨s, hrun, hfault, hrefs, hcards⟩ : ∃ s, run moduleStep
      (DriverModule.loaded (cardRegistered.device 0))
      [.pciProbe 0 cardFound, .pciProbe 1 cardFound] = some s ∧
      s.fault = none ∧ s.registry.moduleRefs = 0 ∧ s.cards.all BoundCard.removable = true :=
    ⟨_, rfl, by rfl, by rfl, by rfl⟩
  obtain ⟨hiff, hleft⟩ := module_unload (along_of_check (by rfl)) hrun hfault hrefs (fun _ => true)
  obtain ⟨t, ht⟩ := hiff.mpr (List.all_eq_true.mp hcards)
  obtain ⟨hheld, hclass, -, -⟩ := hleft t ht
  exact ⟨s, t, hrun, ht, hheld, hclass⟩

end Runs

end NetanaDriver
