import NetanaDriver.CardRegistryRun

/-! The file `device_info` of a device: `show_device_info` (netana_tk_interface.c) passes the minor
to `netana_enum_device` (toolkit/netana_functions.c), which takes it as a place in the list. -/
namespace NetanaDriver
open SlotTable

/-- `NETANA_DEVICE_INFORMATION_T`; the extended information is always zero. -/
structure DeviceInformation where
  szDeviceName : List Char
  ulPhysicalAddress : BitVec 32
  ulDPMSize : BitVec 32
  ulUsedDPMSize : BitVec 32
  ulDPMLayoutVersion : BitVec 32
  ulInterrupt : BitVec 32
  ulDeviceNr : BitVec 32
  ulSerialNr : BitVec 32
  ausHwOptions : List (BitVec 16)
  usManufacturer : BitVec 16
  usProductionDate : BitVec 16
  usDeviceClass : BitVec 16
  bHwRevision : BitVec 8
  bHwCompatibility : BitVec 8
  ulOpenCnt : BitVec 32
  ulPortCnt : BitVec 32
  ulGpioCnt : BitVec 32
  ulFilterSize : BitVec 32
  ulCounterSize : BitVec 32
  szFirmwareName : List (BitVec 8)
  ulVersionMajor : BitVec 32
  ulVersionMinor : BitVec 32
  ulVersionBuild : BitVec 32
  ulVersionRevision : BitVec 32
  deriving DecidableEq, Repr

/-- `sizeof(NETANA_DEVICE_INFORMATION_T)`. -/
def deviceInformationSize : ℕ := 394

/-- `GenerateDeviceInformation`. -/
def generateDeviceInformation (d : TkDevice) : DeviceInformation :=
  { szDeviceName := d.szAliasName
    ulPhysicalAddress := d.ulDPMPhysicalAddress
    ulDPMSize := d.ulDPMSize
    ulUsedDPMSize := d.tSystemInfoBlock.ulDPMUsedSize
    ulDPMLayoutVersion := d.tSystemInfoBlock.ulDPMLayoutVersion
    ulInterrupt := d.ulInterruptNr
    ulDeviceNr := d.ulDeviceNr
    ulSerialNr := d.ulSerialNr
    ausHwOptions := d.tSystemInfoBlock.ausHwOptions
    usManufacturer := d.tSystemInfoBlock.usManufacturer
    usProductionDate := d.tSystemInfoBlock.usProductionDate
    usDeviceClass := d.tSystemInfoBlock.usDeviceClass
    bHwRevision := d.tSystemInfoBlock.bHwRevision
    bHwCompatibility := d.tSystemInfoBlock.bHwCompatibility
    ulOpenCnt := d.ulOpenCnt
    ulPortCnt := d.ulPortCnt
    ulGpioCnt := d.ulGpioCnt
    ulFilterSize := d.ulFilterSize
    ulCounterSize := d.tSystemInfoBlock.ulCounterSize
    szFirmwareName := d.tSystemInfoBlock.szFirmwareName
    ulVersionMajor := d.tSystemInfoBlock.ulVersionMajor
    ulVersionMinor := d.tSystemInfoBlock.ulVersionMinor
    ulVersionBuild := d.tSystemInfoBlock.ulVersionBuild
    ulVersionRevision := d.tSystemInfoBlock.ulVersionRevision }

/-- `netana_enum_device`, with the record and the device instance that it is generated from. -/
def netanaEnumDevice (ulFilter : BitVec 32) (ulCardNr : ℕ) (s : Registry) :
    Except (BitVec 32) (DevPtr × DeviceInformation) :=
  if BitVec.ofNat 32 ulCardNr > s.ulCardCnt then .error netanaDeviceNotFound
  else
    -- the loop goes as many cards on
    match s.tCardList[ulCardNr]? with
    | none => .error netanaDeviceNotFound
    | some p =>
      if classSelected (s.devices p).tSystemInfoBlock.usDeviceClass ulFilter then
        .ok (p, generateDeviceInformation (s.devices p))
      else .error netanaAccessDenied

/-- What a read of the file hands over: bytes of a record, and the device instance behind it. -/
structure ShownInformation where
  instancePtr : DevPtr
  tDevInfo : DeviceInformation
  toff : ℕ
  tcount : ℕ
  deriving DecidableEq, Repr

/-- `show_device_info` in the directory of device `p`, with the error that it stores; nothing is
handed over behind the end of the record. -/
def showDeviceInfo (ulFilter : BitVec 32) (toff tcount : ℕ) (p : DevPtr) (s : Registry) :
    Except (BitVec 32) (Option ShownInformation) :=
  if toff > deviceInformationSize then .ok none
  else
    let tcount :=
      if toff + tcount > deviceInformationSize then deviceInformationSize - toff else tcount
    match netanaEnumDevice ulFilter (s.devices p).minor s with
    | .error netanaError => .error netanaError
    | .ok (q, tDevInfo) => .ok (some ⟨q, tDevInfo, toff, tcount⟩)

/-- What the file of every registered device is there for. -/
def ShowsItself (s : Registry) : Prop :=
  ∀ p, s.Registered p → ∀ ulFilter toff tcount,
    (∀ r, showDeviceInfo ulFilter toff tcount p s = .ok (some r) →
      r.instancePtr = p ∧ r.tDevInfo = generateDeviceInformation (s.devices p)) ∧
    (p ∈ s.tCardList →
      showDeviceInfo ulFilter toff tcount p s ≠ .error netanaDeviceNotFound)

/-- The ident update gets to the restart of the device. -/
def restarts (p : DevPtr) (c : IdentChoice) (s : Registry) : Bool :=
  (s.devices p).hdevice.isSome && c.fAllocated && c.fNameRead && !(s.devices p).fCaptureRunning

/-- Every restart succeeds. -/
def restartSucceeds (s : Registry) : RegistryAction → Bool
  | .identUpdate p c =>
    !restarts p c s || c.fAcknowledged && decide (c.add.lRet = netanaNoError)
  | _ => true

/-- Only the last device of the list is un-registered or restarted. -/
def removesLast (s : Registry) : RegistryAction → Bool
  | .unregister p _ => s.tCardList.getLast? == some p
  | .identUpdate p c => !restarts p c s || s.tCardList.getLast? == some p
  | _ => true

/-- The place of every device in the list is its minor. -/
structure PlaceInv (s : Registry) : Prop where
  place : ∀ m : ℕ, s.tCardList[m]? = find s.netAnaIDR m
  minor : ∀ m p, find s.netAnaIDR m = some p →
    (s.devices p).minor = m ∧ (s.devices p).addsucceded = true ∧ m < minorLimit ∧ p < s.nextPtr
  count : s.ulCardCnt = BitVec.ofNat 32 s.tCardList.length

theorem PlaceInv.init (d : TkDevice) : PlaceInv (Registry.init d) where
  place := fun _ => rfl
  minor := by
    intro m p h
    exact absurd h (by simp [Registry.init])
  count := rfl

theorem PlaceInv.length_le {s : Registry} (hs : PlaceInv s) :
    s.tCardList.length ≤ minorLimit := by
  by_contra hlong
  have hlt : minorLimit < s.tCardList.length := not_le.mp hlong
  have hplace := hs.place minorLimit
  rw [List.getElem?_eq_getElem hlt] at hplace
  exact absurd (hs.minor _ _ hplace.symm).2.2.1 (lt_irrefl _)

/-- The file shows its device as long as the places are the minors. -/
theorem PlaceInv.shows {s : Registry} (hs : PlaceInv s) : ShowsItself s := by
  intro p hp ulFilter toff tcount
  have hplace : s.tCardList[(s.devices p).minor]? = some p := (hs.place _).trans hp
  have hlt : (s.devices p).minor < s.tCardList.length := (List.getElem?_eq_some_iff.mp hplace).1
  have hcount : ¬ BitVec.ofNat 32 (s.devices p).minor > s.ulCardCnt := by
    have hlimit : minorLimit < 2 ^ 32 := by decide
    have hlength := hs.length_le
    rw [hs.count, gt_iff_lt, BitVec.lt_def, BitVec.toNat_ofNat, BitVec.toNat_ofNat,
      Nat.mod_eq_of_lt (by omega), Nat.mod_eq_of_lt (by omega)]
    omega
  have henum : netanaEnumDevice ulFilter (s.devices p).minor s =
      if classSelected (s.devices p).tSystemInfoBlock.usDeviceClass ulFilter then
        .ok (p, generateDeviceInformation (s.devices p))
      else .error netanaAccessDenied := by
    unfold netanaEnumDevice
    rw [if_neg hcount, hplace]
  unfold showDeviceInfo
  rw [henum]
  refine ⟨?_, ?_⟩
  · intro r hr
    split_ifs at hr
    all_goals cases hr
    all_goals exact ⟨rfl, rfl⟩
  · intro _ herror
    split_ifs at herror
    all_goals exact absurd herror (by simp [netanaAccessDenied, netanaDeviceNotFound])

/-- An operation that keeps the list, the minors and the success flags. -/
structure SameEntries (s t : Registry) : Prop where
  list : t.tCardList = s.tCardList
  count : t.ulCardCnt = s.ulCardCnt
  idr : t.netAnaIDR = s.netAnaIDR
  next : t.nextPtr = s.nextPtr
  device : ∀ q, (t.devices q).minor = (s.devices q).minor ∧
    (t.devices q).addsucceded = (s.devices q).addsucceded

theorem SameEntries.refl (s : Registry) : SameEntries s s :=
  ⟨rfl, rfl, rfl, rfl, fun _ => ⟨rfl, rfl⟩⟩

theorem SameEntries.trans {s t u : Registry} (h : SameEntries s t) (h' : SameEntries t u) :
    SameEntries s u := by
  refine ⟨h'.list.trans h.list, h'.count.trans h.count, h'.idr.trans h.idr,
    h'.next.trans h.next, ?_⟩
  intro q
  exact ⟨(h'.device q).1.trans (h.device q).1, (h'.device q).2.trans (h.device q).2⟩

theorem SameEntries.set (s : Registry) (p : DevPtr) {d : TkDevice}
    (hminor : d.minor = (s.devices p).minor)
    (hadded : d.addsucceded = (s.devices p).addsucceded) : SameEntries s (s.set p d) := by
  refine ⟨rfl, rfl, rfl, rfl, ?_⟩
  intro q
  by_cases hq : q = p
  · rw [hq, s.set_devices_self]
    exact ⟨hminor, hadded⟩
  · rw [s.set_devices_ne d hq]
    exact ⟨rfl, rfl⟩

theorem PlaceInv.same {s t : Registry} (hs : PlaceInv s) (h : SameEntries s t) : PlaceInv t := by
  refine ⟨?_, ?_, ?_⟩
  · intro m
    rw [h.list, h.idr]
    exact hs.place m
  · intro m p hp
    rw [h.idr] at hp
    rw [(h.device p).1, (h.device p).2, h.next]
    exact hs.minor m p hp
  · rw [h.list, h.count]
    exact hs.count

theorem PlaceInv.untouched {s t : Registry} (hs : PlaceInv s) (h : Untouched s t) :
    PlaceInv t := by
  refine ⟨?_, ?_, ?_⟩
  · intro m
    rw [h.list, h.slots]
    exact hs.place m
  · intro m p hp
    rw [h.slots] at hp
    obtain ⟨hminor, hadded, hlimit, hbefore⟩ := hs.minor m p hp
    rw [h.devices p hbefore]
    exact ⟨hminor, hadded, hlimit, lt_of_lt_of_le hbefore h.next⟩
  · rw [h.list, h.count]
    exact hs.count

theorem netanaCloseDevice_same (hDev : Option DevPtr) (s : Registry) :
    SameEntries s (netanaCloseDevice hDev s).1 := by
  cases hDev with
  | none => exact SameEntries.refl s
  | some p =>
    unfold netanaCloseDevice
    dsimp only
    split
    · exact SameEntries.set s p rfl rfl
    · exact SameEntries.refl s

theorem netanaOpenDevice_same (ulFilter : BitVec 32) (szDevice : List Char) (s : Registry) :
    SameEntries s (netanaOpenDevice ulFilter szDevice s).1 := by
  unfold netanaOpenDevice
  cases s.tCardList.find? fun p =>
      osStrnicmpEqual szDevice (s.devices p).szAliasName netanaMaxDevicenamesize with
  | none => exact SameEntries.refl s
  | some p =>
    dsimp only
    split_ifs
    · exact SameEntries.refl s
    · exact SameEntries.set s p rfl rfl
    · exact SameEntries.refl s

theorem netanaRelease_same (p : DevPtr) (s : Registry) : SameEntries s (s.netanaRelease p) := by
  have hclose := netanaCloseDevice_same (s.devices p).hdevice s
  have hset := SameEntries.set (netanaCloseDevice (s.devices p).hdevice s).1 p
    (d := { (netanaCloseDevice (s.devices p).hdevice s).1.devices p with hdevice := none }) rfl rfl
  obtain ⟨hlist, hcount, hidr, hnext, hdevice⟩ := hclose.trans hset
  exact ⟨hlist, hcount, hidr, hnext, hdevice⟩

theorem netanaOpen_same (ulFilter : BitVec 32) (minor : ℕ) (s : Registry) :
    SameEntries s (s.netanaOpen ulFilter minor).1 := by
  have hdropped {r : Registry × ℤ} (hr : SameEntries s r.1) :
      SameEntries s (if r.2 ≠ 0 then ({ r.1 with moduleRefs := r.1.moduleRefs - 1 }, r.2)
        else r : Registry × ℤ).1 := by
    split
    · exact ⟨hr.list, hr.count, hr.idr, hr.next, hr.device⟩
    · exact hr
  let t : Registry := { s with moduleRefs := s.moduleRefs + 1 }
  have ht : SameEntries s t := ⟨rfl, rfl, rfl, rfl, fun _ => ⟨rfl, rfl⟩⟩
  unfold Registry.netanaOpen
  apply hdropped
  change SameEntries s (match find t.netAnaIDR minor with
    | none => (t, -enodev)
    | some p => _).1
  cases find t.netAnaIDR minor with
  | none => exact ht
  | some p =>
    dsimp only
    split_ifs
    · exact ht
    · have hopen := netanaOpenDevice_same ulFilter (t.devices p).szDeviceName t
      cases hresult : netanaOpenDevice ulFilter (t.devices p).szDeviceName t with
      | mk u r =>
        rw [hresult] at hopen
        cases r with
        | ok hDev =>
          obtain ⟨hlist, hcount, hidr, hnext, hdevice⟩ := (ht.trans hopen).trans
            (SameEntries.set u p (d := { u.devices p with hdevice := some hDev }) rfl rfl)
          exact ⟨hlist, hcount, hidr, hnext, hdevice⟩
        | error lRet =>
          exact (ht.trans hopen).trans
            (SameEntries.set u p (d := { u.devices p with hdevice := none }) rfl rfl)
    · exact ht

/-- A device is on the list once. -/
theorem PlaceInv.notMem_before {s : Registry} (hs : PlaceInv s) {l : List DevPtr} {p : DevPtr}
    (hlist : s.tCardList = l ++ [p]) : p ∉ l := by
  intro hp
  obtain ⟨i, hi, hip⟩ := List.mem_iff_getElem.mp hp
  have hfirst : find s.netAnaIDR i = some p := by
    rw [← hs.place, hlist, List.getElem?_append_left hi, List.getElem?_eq_getElem hi, hip]
  have hlast : find s.netAnaIDR l.length = some p := by
    rw [← hs.place, hlist, List.getElem?_concat_length]
  have hminor := (hs.minor _ _ hfirst).1.symm.trans (hs.minor _ _ hlast).1
  omega

/-- With a place for every minor, the lowest free minor is the place behind the last card. -/
theorem PlaceInv.lowestFree_eq {s : Registry} (hs : PlaceInv s) :
    lowestFree s.netAnaIDR = s.tCardList.length := by
  apply le_antisymm
  · by_contra hlong
    obtain ⟨p, hp⟩ := find_of_lt_lowestFree (not_le.mp hlong)
    rw [← hs.place, List.getElem?_eq_none le_rfl] at hp
    exact absurd hp (by simp)
  · have hfree := find_lowestFree s.netAnaIDR
    rw [← hs.place] at hfree
    exact List.getElem?_eq_none_iff.mp hfree

theorem PlaceInv.register {s : Registry} (hs : PlaceInv s) (c : RegisterChoice) :
    PlaceInv (netanaRegisterdevice c s).1 := by
  have hunlisted : s.nextPtr ∉ s.tCardList := by
    intro h
    obtain ⟨i, hi, hip⟩ := List.mem_iff_getElem.mp h
    have hfind : find s.netAnaIDR i = some s.nextPtr := by
      rw [← hs.place, List.getElem?_eq_getElem hi, hip]
    exact lt_irrefl _ (hs.minor _ _ hfind).2.2.2
  rcases register_cases c hunlisted with hsame | ⟨idr, minor, halloc, hadd, hresult⟩
  · exact hs.untouched hsame
  rw [hresult]
  obtain ⟨hlowest, hlimit, -⟩ := alloc_eq_some halloc
  rw [hs.lowestFree_eq] at hlowest
  let d := { (c.device minor).added minor c.add with addsucceded := true }
  have hself : (s.withCard idr d).devices s.nextPtr = d := s.set_devices_self _ d
  refine ⟨?_, ?_, ?_⟩
  · intro m
    change (s.tCardList ++ [s.nextPtr])[m]? = find idr m
    rw [find_alloc halloc]
    by_cases hm : m = minor
    · rw [if_pos hm, hm, hlowest, List.getElem?_concat_length]
    · rw [if_neg hm, ← hs.place]
      by_cases hbefore : m < s.tCardList.length
      · exact List.getElem?_append_left hbefore
      · have hbehind : (s.tCardList ++ [s.nextPtr]).length ≤ m := by
          rw [List.length_append, List.length_singleton]
          omega
        rw [List.getElem?_eq_none hbehind, List.getElem?_eq_none (not_lt.mp hbefore)]
  · intro m q hq
    have hq' : find idr m = some q := hq
    rw [find_alloc halloc] at hq'
    by_cases hm : m = minor
    · rw [if_pos hm] at hq'
      rw [← Option.some.inj hq', hself, hm]
      obtain ⟨hminor, -⟩ := (c.device minor).added_same minor c.add
      exact ⟨hminor, rfl, hlimit, Nat.lt_succ_self _⟩
    · rw [if_neg hm] at hq'
      obtain ⟨hminor, hadded, hqlimit, hbefore⟩ := hs.minor m q hq'
      have hother : (s.withCard idr d).devices q = s.devices q :=
        s.set_devices_ne d (ne_of_lt hbefore)
      rw [hother]
      exact ⟨hminor, hadded, hqlimit, hbefore.trans (Nat.lt_succ_self _)⟩
  · change s.ulCardCnt + 1#32 = BitVec.ofNat 32 (s.tCardList ++ [s.nextPtr]).length
    rw [hs.count, List.length_append, BitVec.ofNat_add]
    rfl

theorem PlaceInv.unregister {s : Registry} (hs : PlaceInv s) {p : DevPtr}
    (hp : s.Registered p) (hlast : s.tCardList.getLast? = some p) (fAcknowledged : Bool) :
    PlaceInv (netanaUnregisterdevice p fAcknowledged s) := by
  obtain ⟨hminor, hadded, -⟩ := hs.minor _ p hp
  obtain ⟨l, hlist⟩ := List.getLast?_eq_some_iff.mp hlast
  have hunique : p ∉ l := hs.notMem_before hlist
  have hplace : (s.devices p).minor = l.length := by
    have hend : find s.netAnaIDR l.length = some p := by
      rw [← hs.place, hlist, List.getElem?_concat_length]
    exact (hs.minor _ _ hend).1
  have herase : s.tCardList.erase p = l := by
    rw [hlist, List.erase_append_right _ hunique, List.erase_cons_head, List.append_nil]
  have hresult : netanaUnregisterdevice p fAcknowledged s =
      { s with
        tCardList := l
        ulCardCnt := s.ulCardCnt - 1#32
        netAnaIDR := remove s.netAnaIDR l.length
        cardOps := .remove p :: s.cardOps } := by
    unfold netanaUnregisterdevice
    rw [if_pos hadded, netanaTkitDeviceremove_forced, herase, ← hplace]
  rw [hresult]
  refine ⟨?_, ?_, ?_⟩
  · intro m
    change l[m]? = find (remove s.netAnaIDR l.length) m
    rw [find_remove, ← hs.place, hlist]
    by_cases hm : m = l.length
    · rw [if_pos hm, hm]
      exact List.getElem?_eq_none le_rfl
    · rw [if_neg hm]
      by_cases hbefore : m < l.length
      · exact (List.getElem?_append_left hbefore).symm
      · have hbehind : (l ++ [p]).length ≤ m := by
          rw [List.length_append, List.length_singleton]
          omega
        rw [List.getElem?_eq_none hbehind, List.getElem?_eq_none (not_lt.mp hbefore)]
  · intro m q hq
    have hq' : find (remove s.netAnaIDR l.length) m = some q := hq
    rw [find_remove] at hq'
    by_cases hm : m = l.length
    · rw [if_pos hm] at hq'
      exact absurd hq' (by simp)
    · rw [if_neg hm] at hq'
      exact hs.minor m q hq'
  · change s.ulCardCnt - 1#32 = BitVec.ofNat 32 l.length
    rw [hs.count, hlist, List.length_append, BitVec.ofNat_add]
    exact BitVec.add_sub_cancel _ _

/-- An ident update restarts no device, or takes the last one off the list and puts it back. -/
theorem PlaceInv.identUpdate {s : Registry} (hs : PlaceInv s) (p : DevPtr) (c : IdentChoice)
    (hsucceeds : restartSucceeds s (.identUpdate p c) = true)
    (hlast : removesLast s (.identUpdate p c) = true) : PlaceInv (netanaIdentUpdate p c s).1 := by
  unfold netanaIdentUpdate
  by_cases hopen : (s.devices p).hdevice = none
  · rw [if_pos hopen]
    exact hs
  rw [if_neg hopen]
  by_cases halloc : c.fAllocated = false
  · rw [if_pos halloc]
    exact hs
  rw [if_neg halloc]
  by_cases hread : c.fNameRead = false
  · rw [if_pos hread]
    exact hs
  rw [if_neg hread]
  by_cases hrunning : (s.devices p).fCaptureRunning = true
  · have hbusy : netanaSetDeviceIdent p s = (s, netanaCaptureActive) := if_pos hrunning
    rw [hbusy]
    exact hs
  have hidle : (s.devices p).fCaptureRunning = false := Bool.eq_false_iff.mpr hrunning
  have hrestarts : restarts p c s = true := by
    have hsome : (s.devices p).hdevice.isSome = true := Option.isSome_iff_ne_none.mpr hopen
    simp [restarts, hsome, hidle, Bool.eq_true_of_not_eq_false halloc,
      Bool.eq_true_of_not_eq_false hread]
  obtain ⟨hack, hadd⟩ : c.fAcknowledged = true ∧ c.add.lRet = netanaNoError := by
    simpa [restartSucceeds, hrestarts] using hsucceeds
  have hend : s.tCardList.getLast? = some p := by
    simpa [removesLast, hrestarts] using hlast
  obtain ⟨l, hlist⟩ := List.getLast?_eq_some_iff.mp hend
  have herase : s.tCardList.erase p ++ [p] = s.tCardList := by
    rw [hlist, List.erase_append_right _ (hs.notMem_before hlist), List.erase_cons_head,
      List.append_nil]
  let d := { s.devices p with lIdentError := netanaNoError, fIdentUpdateRequest := true }
  have hset : netanaSetDeviceIdent p s = (s.set p d, netanaNoError) := if_neg hrunning
  have hd : (s.set p d).devices p = d := s.set_devices_self p d
  have hrestart := restart_success (s := s.set p d) (p := p) (c := c.add) (by rw [hd]; exact hidle)
    hadd
  simp only [hset, if_true, hack, hrestart]
  apply hs.same
  obtain ⟨-, -, -, -, hfirst⟩ := SameEntries.set s p (d := d) rfl rfl
  obtain ⟨hminor, -, -, -, hadded⟩ := d.added_same d.ulDevNo c.add
  obtain ⟨-, -, hidr, hnext, hsecond⟩ := SameEntries.set (s.set p d) p
    (d := d.added d.ulDevNo c.add) (hminor.trans (congrArg TkDevice.minor hd).symm)
    (hadded.trans (congrArg TkDevice.addsucceded hd).symm)
  refine ⟨herase, BitVec.sub_add_cancel _ _, hidr, hnext, ?_⟩
  intro q
  rw [hd]
  exact ⟨(hsecond q).1.trans (hfirst q).1, (hsecond q).2.trans (hfirst q).2⟩

theorem registryStep_place {s t : Registry} {a : RegistryAction} (hs : PlaceInv s)
    (hok : (restartSucceeds s a && removesLast s a) = true) (h : registryStep s a = some t) :
    PlaceInv t := by
  obtain ⟨hsucceeds, hlast⟩ := (Bool.and_eq_true _ _).mp hok
  cases a with
  | register c =>
    cases h
    exact hs.register c
  | unregister p fAcknowledged =>
    obtain ⟨hp, ht⟩ := Option.ite_none_right_eq_some.mp h
    cases ht
    exact hs.unregister hp (by simpa [removesLast] using hlast) fAcknowledged
  | openFile ulFilter minor =>
    cases h
    exact hs.same (netanaOpen_same ulFilter minor s)
  | release p =>
    obtain ⟨-, ht⟩ := Option.ite_none_right_eq_some.mp h
    cases ht
    exact hs.same (netanaRelease_same p s)
  | identUpdate p c =>
    obtain ⟨-, ht⟩ := Option.ite_none_right_eq_some.mp h
    cases ht
    exact hs.identUpdate p c hsucceeds hlast
  | capture p fCaptureRunning =>
    obtain ⟨-, ht⟩ := Option.ite_none_right_eq_some.mp h
    cases ht
    exact hs.same (SameEntries.set s p rfl rfl)

/-- As long as only the device at the end of the list is un-registered or restarted, every file
`device_info` shows its own device. -/
theorem device_info_own {d : TkDevice} {as : List RegistryAction} {s : Registry}
    (hok : StepRuns.Along (fun s a => (restartSucceeds s a && removesLast s a) = true)
      registryStep (Registry.init d) as)
    (hrun : StepRuns.run registryStep (Registry.init d) as = some s) : ShowsItself s := by
  have hs : PlaceInv s := StepRuns.along_invariant
    (fun _ _ _ hs hok h => registryStep_place hs hok h) (PlaceInv.init d) hok hrun
  exact hs.shows

/-- Three cards, of which the last is opened, restarted, closed and un-registered. -/
theorem device_info_own_last : ∃ s, StepRuns.run registryStep
      (Registry.init (cardRegistered.device 0))
      [.register cardRegistered, .register cardRegistered, .register cardRegistered,
        .openFile 0#32 2, .identUpdate 2 cardRestarted, .release 2, .unregister 2 true] = some s ∧
    s.tCardList = [0, 1] ∧ ShowsItself s := by
  obtain ⟨s, hrun, hlist⟩ : ∃ s, StepRuns.run registryStep
      (Registry.init (cardRegistered.device 0))
      [.register cardRegistered, .register cardRegistered, .register cardRegistered,
        .openFile 0#32 2, .identUpdate 2 cardRestarted, .release 2, .unregister 2 true] = some s ∧
      s.tCardList = [0, 1] := ⟨_, rfl, by rfl⟩
  exact ⟨s, hrun, hlist, device_info_own (StepRuns.along_of_check (by rfl)) hrun⟩

/-- The restart of the first of two cards makes each file show the other card; un-registering it
instead makes the file of the second report that there is no such device. -/
theorem device_info_of_other :
    (∃ s, StepRuns.run registryStep (Registry.init (cardRegistered.device 0))
        [.register cardRegistered, .register cardRegistered, .openFile 0#32 0,
          .identUpdate 0 cardRestarted] = some s ∧
      StepRuns.Along (fun s a => restartSucceeds s a = true) registryStep
        (Registry.init (cardRegistered.device 0))
        [.register cardRegistered, .register cardRegistered, .openFile 0#32 0,
          .identUpdate 0 cardRestarted] ∧
      (∃ r, showDeviceInfo 0#32 0 394 0 s = .ok (some r) ∧ r.instancePtr = 1) ∧
      ¬ ShowsItself s) ∧
    ∃ s, StepRuns.run registryStep (Registry.init (cardRegistered.device 0))
        [.register cardRegistered, .register cardRegistered, .unregister 0 true] = some s ∧
      s.tCardList = [1] ∧ showDeviceInfo 0#32 0 394 1 s = .error netanaDeviceNotFound := by
  refine ⟨?_, ⟨_, rfl, by rfl, by rfl⟩⟩
  obtain ⟨s, hrun, hregistered, r, hshow, hother⟩ : ∃ s, StepRuns.run registryStep
      (Registry.init (cardRegistered.device 0))
        [.register cardRegistered, .register cardRegistered, .openFile 0#32 0,
          .identUpdate 0 cardRestarted] = some s ∧ s.Registered 0 ∧
      ∃ r, showDeviceInfo 0#32 0 394 0 s = .ok (some r) ∧ r.instancePtr = 1 :=
    ⟨_, rfl, by rfl, _, by rfl, by rfl⟩
  refine ⟨s, hrun, StepRuns.along_of_check (by rfl), ⟨r, hshow, hother⟩, ?_⟩
  intro hshows
  have hown := ((hshows 0 hregistered 0#32 0 394).1 r hshow).1
  rw [hother] at hown
  exact absurd hown (by decide)

end NetanaDriver
