import NetanaDriver.CardRegistry

/-! The list of cards, the counter, the success flag and the open state of every registered device
agree after every operation. -/
namespace NetanaDriver
open SlotTable FormattedText

theorem length_printNat_le {n k : ℕ} (hk : 0 < k) (h : n < 10 ^ k) :
    (printNat 10 n).length ≤ k := by
  unfold printNat
  split
  · exact hk
  · rw [List.length_map, List.length_reverse]
    exact (Nat.digits_length_le_iff (by decide) n).mpr h

theorem printNat_inj {m n : ℕ} (h : printNat 10 m = printNat 10 n) : m = n := by
  have hm := foldl_printNat (b := 10) (n := m) (by decide) (by decide)
  have hn := foldl_printNat (b := 10) (n := n) (by decide) (by decide)
  rw [← hm, ← hn, h]

/-- The number of a name is what follows its underscore. -/
theorem number_of_name {a b : List Char} {m n : ℕ} (ha : ∀ c ∈ a, c ≠ '_') (hb : ∀ c ∈ b, c ≠ '_')
    (h : a ++ '_' :: printNat 10 m = b ++ '_' :: printNat 10 n) : m = n := by
  have hdrop (l : List Char) (k : ℕ) (hl : ∀ c ∈ l, c ≠ '_') :
      (l ++ '_' :: printNat 10 k).dropWhile (· ≠ '_') = '_' :: printNat 10 k := by
    rw [List.dropWhile_append_of_pos (by simpa using hl)]
    rfl
  have hnumber := congrArg (List.dropWhile (· ≠ '_')) h
  rw [hdrop a m ha, hdrop b n hb] at hnumber
  exact printNat_inj (List.cons.inj hnumber).2

theorem nameWithNumber_eq {a : List Char} {n : ℕ} (ha : a.length ≤ 12) (hn : n < minorLimit) :
    nameWithNumber netanaMaxDevicenamesize a n = a ++ '_' :: printNat 10 n := by
  have hdigits : (printNat 10 n).length ≤ 10 :=
    length_printNat_le (by decide) (lt_trans hn (by decide))
  apply List.take_of_length_le
  rw [List.length_append, List.length_cons]
  have hsize : netanaMaxDevicenamesize - 1 = 63 := rfl
  omega

/-- The buffers of the names are long enough for every minor, so that a name is found under the
same minor only. -/
theorem minor_of_name {subsystemDevice : Option (BitVec 16)} {usDeviceClass : BitVec 16} {m n : ℕ}
    (hm : m < minorLimit) (hn : n < minorLimit)
    (h : osStrnicmpEqual (deviceName subsystemDevice m) (aliasName usDeviceClass n)
      netanaMaxDevicenamesize = true) : m = n := by
  obtain ⟨a, halength, ha, hname⟩ : ∃ a : List Char, a.length ≤ 12 ∧ (∀ c ∈ a, c ≠ '_') ∧
      deviceName subsystemDevice m = nameWithNumber netanaMaxDevicenamesize a m := by
    unfold deviceName
    split_ifs
    · exact ⟨_, by simp, by simp, rfl⟩
    · exact ⟨_, by simp, by simp, rfl⟩
    · exact ⟨_, by simp, by simp, rfl⟩
  obtain ⟨b, hblength, hb, halias⟩ : ∃ b : List Char, b.length ≤ 12 ∧ (∀ c ∈ b, c ≠ '_') ∧
      aliasName usDeviceClass n = nameWithNumber netanaMaxDevicenamesize b n := by
    unfold aliasName
    split_ifs
    · exact ⟨_, by simp, by simp, rfl⟩
    · exact ⟨_, by simp, by simp, rfl⟩
    · exact ⟨_, by simp, by simp, rfl⟩
  have hshort (c : List Char) (k : ℕ) : (nameWithNumber netanaMaxDevicenamesize c k).take
      netanaMaxDevicenamesize = nameWithNumber netanaMaxDevicenamesize c k := by
    apply List.take_of_length_le
    exact (List.length_take_le _ _).trans (Nat.sub_le _ _)
  rw [osStrnicmpEqual, beq_iff_eq, hname, halias, hshort, hshort, nameWithNumber_eq halength hm,
    nameWithNumber_eq hblength hn] at h
  exact number_of_name ha hb h

/-- The counter counts the cards of the list, and none is on it twice. -/
structure CardsInv (tCardList : List DevPtr) (ulCardCnt : BitVec 32) : Prop where
  count : ulCardCnt = BitVec.ofNat 32 tCardList.length
  nodup : tCardList.Nodup

theorem CardsInv.insert {l : List DevPtr} {n : BitVec 32} (h : CardsInv l n) {p : DevPtr}
    (hp : p ∉ l) : CardsInv (l ++ [p]) (n + 1#32) := by
  refine ⟨?_, ?_⟩
  · rw [h.count, List.length_append, BitVec.ofNat_add]
    rfl
  · apply List.nodup_append.mpr
    refine ⟨h.nodup, List.nodup_singleton p, ?_⟩
    intro a ha b hb hab
    rw [List.mem_singleton.mp hb] at hab
    exact hp (hab ▸ ha)

theorem CardsInv.remove {l : List DevPtr} {n : BitVec 32} (h : CardsInv l n) {p : DevPtr}
    (hp : p ∈ l) : CardsInv (l.erase p) (n - 1#32) := by
  refine ⟨?_, h.nodup.erase p⟩
  have hpos : 1 ≤ l.length := List.length_pos_of_mem hp
  rw [h.count, List.length_erase_of_mem hp]
  symm
  apply BitVec.eq_sub_iff_add_eq.mpr
  rw [← BitVec.ofNat_add, Nat.sub_add_cancel hpos]

structure DeviceInv (p : DevPtr) (d : TkDevice) : Prop where
  name : ∃ subsystemDevice, d.szDeviceName = deviceName subsystemDevice d.minor
  added : d.addsucceded = true →
    (∃ usDeviceClass, d.szAliasName = aliasName usDeviceClass d.minor) ∧ d.ulDevNo = d.minor
  opened : d.hdevice = none ∧ d.ulOpenCnt = 0#32 ∨
    d.hdevice = some p ∧ d.ulOpenCnt = 1#32 ∧ d.addsucceded = true

structure RegistryInv (s : Registry) : Prop where
  cards : CardsInv s.tCardList s.ulCardCnt
  slots : ∀ m p, find s.netAnaIDR m = some p →
    (s.devices p).minor = m ∧ m < minorLimit ∧ p < s.nextPtr
  listed : ∀ p, p ∈ s.tCardList ↔ s.Registered p ∧ (s.devices p).addsucceded = true
  device : ∀ p, s.Registered p → DeviceInv p (s.devices p)
  files : ∀ p ∈ s.openFiles, s.Registered p

theorem RegistryInv.init (d : TkDevice) : RegistryInv (Registry.init d) where
  cards := ⟨rfl, List.nodup_nil⟩
  slots := by
    intro m p h
    exact absurd h (by simp [Registry.init])
  listed := by simp [Registry.init, Registry.Registered]
  device := by simp [Registry.init, Registry.Registered]
  files := by simp [Registry.init]

theorem RegistryInv.registered {s : Registry} (hs : RegistryInv s) {m : ℕ} {p : DevPtr}
    (h : find s.netAnaIDR m = some p) : s.Registered p := by
  unfold Registry.Registered
  rw [(hs.slots m p h).1]
  exact h

/-- The device that comes next has never been registered. -/
theorem RegistryInv.fresh {s : Registry} (hs : RegistryInv s) {p : DevPtr} (hp : s.nextPtr ≤ p) :
    ¬ s.Registered p := by
  intro h
  exact absurd (hs.slots _ p h).2.2 (not_lt.mpr hp)

/-- An operation on registered device `p` that leaves the minors alone. -/
theorem RegistryInv.update {s t : Registry} (hs : RegistryInv s) {p : DevPtr}
    (hp : s.Registered p) (hidr : t.netAnaIDR = s.netAnaIDR) (hnext : t.nextPtr = s.nextPtr)
    (hother : ∀ q, q ≠ p → t.devices q = s.devices q)
    (hminor : (t.devices p).minor = (s.devices p).minor) (hdevice : DeviceInv p (t.devices p))
    (hcards : CardsInv t.tCardList t.ulCardCnt)
    (hlisted : ∀ q, q ≠ p → (q ∈ t.tCardList ↔ q ∈ s.tCardList))
    (hself : p ∈ t.tCardList ↔ (t.devices p).addsucceded = true)
    (hfiles : ∀ q ∈ t.openFiles, q = p ∨ q ∈ s.openFiles) : RegistryInv t := by
  have hsame (q : DevPtr) : (t.devices q).minor = (s.devices q).minor := by
    by_cases hq : q = p
    · rw [hq, hminor]
    · rw [hother q hq]
  have hregistered (q : DevPtr) : t.Registered q ↔ s.Registered q := by
    rw [Registry.Registered, Registry.Registered, hidr, hsame]
  refine ⟨hcards, ?_, ?_, ?_, ?_⟩
  · intro m q hq
    rw [hidr] at hq
    rw [hsame, hnext]
    exact hs.slots m q hq
  · intro q
    rw [hregistered]
    by_cases hq : q = p
    · rw [hq, hself]
      exact (and_iff_right hp).symm
    · rw [hlisted q hq, hother q hq]
      exact hs.listed q
  · intro q hq
    by_cases hqp : q = p
    · rw [hqp]
      exact hdevice
    · rw [hother q hqp]
      exact hs.device q ((hregistered q).mp hq)
  · intro q hq
    rw [hregistered]
    rcases hfiles q hq with rfl | hbefore
    · exact hp
    · exact hs.files q hbefore

/-- An operation that changes at most memory which has been allocated for it. -/
structure Untouched (s t : Registry) : Prop where
  slots : ∀ m, find t.netAnaIDR m = find s.netAnaIDR m
  devices : ∀ q, q < s.nextPtr → t.devices q = s.devices q
  list : t.tCardList = s.tCardList
  count : t.ulCardCnt = s.ulCardCnt
  files : t.openFiles = s.openFiles
  next : s.nextPtr ≤ t.nextPtr

theorem RegistryInv.untouched {s t : Registry} (hs : RegistryInv s) (h : Untouched s t) :
    RegistryInv t := by
  have hbefore {q : DevPtr} (hq : s.Registered q) : t.devices q = s.devices q :=
    h.devices q (hs.slots _ q hq).2.2
  have hregistered (q : DevPtr) : t.Registered q ↔ s.Registered q := by
    apply Iff.intro
    · intro hq
      rw [Registry.Registered, h.slots] at hq
      exact hs.registered hq
    · intro hq
      rw [Registry.Registered, h.slots, hbefore hq]
      exact hq
  refine ⟨?_, ?_, ?_, ?_, ?_⟩
  · rw [h.list, h.count]
    exact hs.cards
  · intro m q hq
    rw [h.slots] at hq
    rw [hbefore (hs.registered hq)]
    obtain ⟨hminor, hlimit, hptr⟩ := hs.slots m q hq
    exact ⟨hminor, hlimit, lt_of_lt_of_le hptr h.next⟩
  · intro q
    rw [h.list, hs.listed, hregistered]
    apply and_congr_right
    intro hq
    rw [hbefore hq]
  · intro q hq
    rw [hbefore ((hregistered q).mp hq)]
    exact hs.device q ((hregistered q).mp hq)
  · intro q hq
    rw [h.files] at hq
    exact (hregistered q).mpr (hs.files q hq)

@[simp] theorem Registry.set_devices_self (s : Registry) (p : DevPtr) (d : TkDevice) :
    (s.set p d).devices p = d := by
  simp [Registry.set]

theorem Registry.set_devices_ne (s : Registry) {p q : DevPtr} (d : TkDevice) (h : q ≠ p) :
    (s.set p d).devices q = s.devices q := by
  simp [Registry.set, h]

/-- Only fields of a registered device change that neither the list nor its place depends on. -/
theorem RegistryInv.set {s : Registry} (hs : RegistryInv s) {p : DevPtr} (hp : s.Registered p)
    {d : TkDevice} (hminor : d.minor = (s.devices p).minor)
    (hadded : d.addsucceded = (s.devices p).addsucceded) (hd : DeviceInv p d) :
    RegistryInv (s.set p d) := by
  apply RegistryInv.update (t := s.set p d) hs hp rfl rfl
  · intro q hq
    exact s.set_devices_ne d hq
  · rw [s.set_devices_self]
    exact hminor
  · rw [s.set_devices_self]
    exact hd
  · exact hs.cards
  · intro q _
    exact Iff.rfl
  · rw [s.set_devices_self, hadded]
    exact (hs.listed p).trans (and_iff_right hp)
  · intro q hq
    exact Or.inr hq

theorem Registry.set_self (s : Registry) (p : DevPtr) : s.set p (s.devices p) = s := by
  simp [Registry.set]

theorem Registry.set_set (s : Registry) (p : DevPtr) (d d' : TkDevice) :
    (s.set p d).set p d' = s.set p d' := by
  simp [Registry.set]

theorem netanaCloseDevice_open {s : Registry} {p : DevPtr} (h : (s.devices p).ulOpenCnt = 1#32) :
    (netanaCloseDevice (some p) s).1 = s.set p { s.devices p with ulOpenCnt := 0#32 } := by
  have hcount : (s.devices p).ulOpenCnt > 0#32 := by
    rw [h]
    decide
  have hclose : netanaCloseDevice (some p) s =
      (s.set p { s.devices p with ulOpenCnt := (s.devices p).ulOpenCnt - 1#32 }, netanaNoError) :=
    if_pos hcount
  rw [hclose, h]
  rfl

theorem netanaTkitDeviceremove_forced (p : DevPtr) (fAcknowledged : Bool) (s : Registry) :
    netanaTkitDeviceremove p true fAcknowledged s =
      ({ s with
          tCardList := s.tCardList.erase p
          ulCardCnt := s.ulCardCnt - 1#32
          cardOps := .remove p :: s.cardOps },
        if fAcknowledged then netanaNoError else netanaFunctionFailed) := by
  apply if_neg
  simp

theorem TkDevice.added_same (d : TkDevice) (ulDevNo : ℕ) (c : AddChoice) :
    (d.added ulDevNo c).minor = d.minor ∧ (d.added ulDevNo c).szDeviceName = d.szDeviceName ∧
      (d.added ulDevNo c).hdevice = d.hdevice ∧ (d.added ulDevNo c).ulOpenCnt = d.ulOpenCnt ∧
      (d.added ulDevNo c).addsucceded = d.addsucceded := by
  unfold TkDevice.added
  by_cases hadd : c.lRet = netanaNoError
  · simp [hadd]
  · simp [hadd]

theorem TkDevice.added_alias (d : TkDevice) (ulDevNo : ℕ) {c : AddChoice}
    (hadd : c.lRet = netanaNoError) : (d.added ulDevNo c).ulDevNo = ulDevNo ∧
      (d.added ulDevNo c).szAliasName = aliasName c.usDeviceClass ulDevNo := by
  simp [TkDevice.added, hadd]

/-- A restart that succeeds puts the device at the end of the list again. -/
theorem restart_success {s : Registry} {p : DevPtr} {c : AddChoice}
    (hidle : (s.devices p).fCaptureRunning = false) (hadd : c.lRet = netanaNoError) :
    netanaRestartDevice p true c s =
      ({ s.set p ((s.devices p).added (s.devices p).ulDevNo c) with
          tCardList := s.tCardList.erase p ++ [p]
          ulCardCnt := s.ulCardCnt - 1#32 + 1#32
          cardOps := .insertTail p :: .remove p :: s.cardOps },
        netanaNoError) := by
  have hrunning : ¬ (s.devices p).fCaptureRunning = true := by simp [hidle]
  unfold netanaRestartDevice
  rw [if_neg hrunning, netanaTkitDeviceremove_forced]
  simp only [if_true, netanaTkitDeviceadd, hadd]
  rfl

/-- A restart puts the device at the end of the list again, or takes it off and closes it. -/
theorem restart_cases {s : Registry} {p : DevPtr} (fAcknowledged : Bool) (c : AddChoice)
    (hidle : (s.devices p).fCaptureRunning = false) (hopen : (s.devices p).ulOpenCnt = 1#32) :
    fAcknowledged = true ∧ c.lRet = netanaNoError ∧
        netanaRestartDevice p fAcknowledged c s =
          ({ s.set p ((s.devices p).added (s.devices p).ulDevNo c) with
              tCardList := s.tCardList.erase p ++ [p]
              ulCardCnt := s.ulCardCnt - 1#32 + 1#32
              cardOps := .insertTail p :: .remove p :: s.cardOps },
            netanaNoError) ∨
      (fAcknowledged = false ∨ c.lRet ≠ netanaNoError) ∧
        ∃ d lRet, d.minor = (s.devices p).minor ∧ d.szDeviceName = (s.devices p).szDeviceName ∧
          d.ulOpenCnt = 0#32 ∧ lRet ≠ netanaNoError ∧
          netanaRestartDevice p fAcknowledged c s =
            ({ s.set p d with
                tCardList := s.tCardList.erase p
                ulCardCnt := s.ulCardCnt - 1#32
                cardOps := .remove p :: s.cardOps }, lRet) := by
  have hrunning : ¬ (s.devices p).fCaptureRunning = true := by simp [hidle]
  have hremoved := netanaTkitDeviceremove_forced p fAcknowledged s
  unfold netanaRestartDevice
  rw [if_neg hrunning, hremoved]
  cases fAcknowledged with
  | false =>
    -- the firmware has not answered: the device is not added again
    right
    refine ⟨Or.inl rfl, { s.devices p with ulOpenCnt := 0#32 }, netanaFunctionFailed, rfl, rfl, rfl,
      by decide, ?_⟩
    have hclosed := netanaCloseDevice_open (p := p) (s := { s with
      tCardList := s.tCardList.erase p
      ulCardCnt := s.ulCardCnt - 1#32
      cardOps := .remove p :: s.cardOps }) hopen
    have hfailed : ¬ netanaFunctionFailed = netanaNoError := by decide
    simp only [Bool.false_eq_true, if_false, if_neg hfailed]
    rw [hclosed]
    rfl
  | true =>
    by_cases hadd : c.lRet = netanaNoError
    · left
      refine ⟨rfl, hadd, ?_⟩
      rw [← restart_success hidle hadd, netanaRestartDevice, if_neg hrunning, hremoved]
    · right
      let d := (s.devices p).added (s.devices p).ulDevNo c
      obtain ⟨hminor, hname, -, hcount, -⟩ := (s.devices p).added_same (s.devices p).ulDevNo c
      refine ⟨Or.inr hadd, { d with ulOpenCnt := 0#32 }, c.lRet, hminor, hname, rfl, hadd, ?_⟩
      let t : Registry := { s.set p d with
        tCardList := s.tCardList.erase p
        ulCardCnt := s.ulCardCnt - 1#32
        cardOps := .remove p :: s.cardOps }
      have htp : t.devices p = d := s.set_devices_self p d
      have hclosed : (netanaCloseDevice (some p) t).1 =
          t.set p { t.devices p with ulOpenCnt := 0#32 } := by
        apply netanaCloseDevice_open
        rw [htp, hcount]
        exact hopen
      have hresult : t.set p { d with ulOpenCnt := 0#32 } =
          { s.set p { d with ulOpenCnt := 0#32 } with
            tCardList := s.tCardList.erase p
            ulCardCnt := s.ulCardCnt - 1#32
            cardOps := .remove p :: s.cardOps } := by
        simp [t, Registry.set]
      simp only [if_true, netanaTkitDeviceadd, if_neg hadd]
      rw [← hresult, ← htp, ← hclosed]
      rfl

theorem RegistryInv.identUpdate {s : Registry} (hs : RegistryInv s) {p : DevPtr}
    (hp : s.Registered p) (c : IdentChoice) : RegistryInv (netanaIdentUpdate p c s).1 := by
  have hdevice := hs.device p hp
  unfold netanaIdentUpdate
  by_cases hopen : (s.devices p).hdevice = none
  · rw [if_pos hopen]
    exact hs
  rw [if_neg hopen]
  by_cases halloc : c.fAllocated = false
  · rw [if_pos halloc]
    exact hs
  rw [if_neg halloc]
  by_cases hread : c.fNameRead = false
  · rw [if_pos hread]
    exact hs
  rw [if_neg hread]
  obtain ⟨hhandle, hcount, hadded⟩ := hdevice.opened.resolve_left (fun h => hopen h.1)
  have hlisted : p ∈ s.tCardList := (hs.listed p).mpr ⟨hp, hadded⟩
  -- the restart takes the card off the list first, whatever happens next
  have hgone : p ∉ s.tCardList.erase p := by
    rw [hs.cards.nodup.mem_erase_iff]
    simp
  have hothers (q : DevPtr) (hq : q ≠ p) : q ∈ s.tCardList.erase p ↔ q ∈ s.tCardList :=
    List.mem_erase_of_ne hq
  by_cases hrunning : (s.devices p).fCaptureRunning = true
  · -- the capture still runs: nothing is restarted
    have hbusy : netanaSetDeviceIdent p s = (s, netanaCaptureActive) := if_pos hrunning
    rw [hbusy]
    exact hs
  have hidle : (s.devices p).fCaptureRunning = false := Bool.eq_false_iff.mpr hrunning
  let d := { s.devices p with lIdentError := netanaNoError, fIdentUpdateRequest := true }
  have hset : netanaSetDeviceIdent p s = (s.set p d, netanaNoError) := if_neg hrunning
  simp only [hset, if_true]
  have hd : (s.set p d).devices p = d := s.set_devices_self p d
  rcases restart_cases (s := s.set p d) (p := p) c.fAcknowledged c.add (by rw [hd]; exact hidle)
    (by rw [hd]; exact hcount) with
    ⟨-, hok, hrestart⟩ | ⟨-, d', lRet, hminor, hname, hclosed, hlRet, hrestart⟩
  · -- back at the end of the list
    let t : Registry := { s.set p (d.added d.ulDevNo c.add) with
      tCardList := s.tCardList.erase p ++ [p]
      ulCardCnt := s.ulCardCnt - 1#32 + 1#32
      cardOps := .insertTail p :: .remove p :: s.cardOps }
    rw [hrestart, hd, Registry.set_set, if_pos rfl]
    change RegistryInv t
    have hnew : t.devices p = d.added d.ulDevNo c.add := s.set_devices_self p _
    obtain ⟨hminor, hname, hhandle', hcount', hadded'⟩ := d.added_same d.ulDevNo c.add
    obtain ⟨hnumber, halias⟩ := d.added_alias d.ulDevNo hok
    apply RegistryInv.update (p := p) (t := t) hs hp rfl rfl
    · intro q hq
      exact s.set_devices_ne _ hq
    · exact (congrArg TkDevice.minor hnew).trans hminor
    · rw [hnew]
      refine ⟨?_, ?_, ?_⟩
      · rw [hname, hminor]
        exact hdevice.name
      · intro _
        rw [hnumber, halias, hminor, (hdevice.added hadded).2]
        exact ⟨⟨_, rfl⟩, rfl⟩
      · rw [hhandle', hcount', hadded']
        exact hdevice.opened
    · exact (hs.cards.remove hlisted).insert hgone
    · intro q hq
      rw [List.mem_append, hothers q hq, List.mem_singleton]
      exact or_iff_left hq
    · apply iff_of_true
      · exact List.mem_append_right _ (List.mem_singleton_self p)
      · exact (congrArg TkDevice.addsucceded hnew).trans (hadded'.trans hadded)
    · intro q hq
      exact Or.inr hq
  · -- off the list, closed and given up
    rw [hrestart, Registry.set_set, if_neg hlRet]
    rw [hd] at hminor hname
    let t : Registry := { s.set p d' with
      tCardList := s.tCardList.erase p
      ulCardCnt := s.ulCardCnt - 1#32
      cardOps := .remove p :: s.cardOps }
    have ht : t.devices p = d' := s.set_devices_self p d'
    let d'' := { t.devices p with addsucceded := false, hdevice := none }
    have hnew : (t.set p d'').devices p = d'' := t.set_devices_self p d''
    apply RegistryInv.update (p := p) (t := t.set p d'') hs hp rfl rfl
    · intro q hq
      exact (t.set_devices_ne d'' hq).trans (s.set_devices_ne d' hq)
    · rw [hnew]
      exact (congrArg TkDevice.minor ht).trans hminor
    · rw [hnew]
      refine ⟨?_, ?_, ?_⟩
      · obtain ⟨sub, hsub⟩ := hdevice.name
        refine ⟨sub, ?_⟩
        change (t.devices p).szDeviceName = deviceName sub (t.devices p).minor
        rw [ht, hname, hminor]
        exact hsub
      · intro h
        exact absurd h (by simp [d''])
      · left
        exact ⟨rfl, (congrArg TkDevice.ulOpenCnt ht).trans hclosed⟩
    · exact hs.cards.remove hlisted
    · intro q hq
      exact hothers q hq
    · rw [hnew]
      exact iff_of_false hgone (by simp [d''])
    · intro q hq
      exact Or.inr hq

/-- The card found under a device's name is the device itself. -/
theorem RegistryInv.found {s : Registry} (hs : RegistryInv s) {p q : DevPtr}
    (hp : s.Registered p)
    (h : s.tCardList.find? (fun r => osStrnicmpEqual (s.devices p).szDeviceName
      (s.devices r).szAliasName netanaMaxDevicenamesize) = some q) : q = p := by
  obtain ⟨hq, hadded⟩ := (hs.listed q).mp (List.mem_of_find?_eq_some h)
  have hmatch := List.find?_some h
  obtain ⟨sub, hname⟩ := (hs.device p hp).name
  obtain ⟨⟨cls, halias⟩, -⟩ := (hs.device q hq).added hadded
  rw [hname, halias] at hmatch
  have hminor := minor_of_name (hs.slots _ p hp).2.1 (hs.slots _ q hq).2.1 hmatch
  unfold Registry.Registered at hp hq
  rw [← hminor, hp] at hq
  exact (Option.some.inj hq).symm

theorem RegistryInv.openFile {s : Registry} (hs : RegistryInv s) (ulFilter : BitVec 32)
    (minor : ℕ) : RegistryInv (s.netanaOpen ulFilter minor).1 := by
  let t : Registry := { s with moduleRefs := s.moduleRefs + 1 }
  have hrefs {u : Registry} (hu : RegistryInv u) (n : ℕ) :
      RegistryInv { u with moduleRefs := n } :=
    ⟨hu.cards, hu.slots, hu.listed, hu.device, hu.files⟩
  have hdropped {r : Registry × ℤ} (hr : RegistryInv r.1) :
      RegistryInv (if r.2 ≠ 0 then ({ r.1 with moduleRefs := r.1.moduleRefs - 1 }, r.2)
        else r : Registry × ℤ).1 := by
    split
    · exact hrefs hr _
    · exact hr
  have ht : RegistryInv t := hrefs hs _
  unfold Registry.netanaOpen
  apply hdropped
  dsimp only
  cases hfind : find s.netAnaIDR minor with
  | none => exact ht
  | some p =>
    have hp : t.Registered p := ht.registered hfind
    have hdevice := ht.device p hp
    dsimp only
    -- the device must have been added and be closed, as `netana_open` checks
    by_cases hadded : (t.devices p).addsucceded = true
    · rw [if_pos hadded]
      by_cases hbusy : (t.devices p).hdevice.isSome = true
      · rw [if_pos hbusy]
        exact ht
      · rw [if_neg hbusy]
        have hclosed : (t.devices p).hdevice = none := by simpa using hbusy
        have hcount : (t.devices p).ulOpenCnt = 0#32 := by
          rcases hdevice.opened with ⟨-, hzero⟩ | ⟨hhandle, -⟩
          · exact hzero
          · rw [hhandle] at hclosed
            exact absurd hclosed (by simp)
        -- both ways to fail after that leave the handle null, as it was
        have hfailed : RegistryInv (t.set p { t.devices p with hdevice := none }) := by
          apply RegistryInv.set (d := { t.devices p with hdevice := none }) ht hp rfl rfl
          exact ⟨hdevice.name, hdevice.added, Or.inl ⟨rfl, hcount⟩⟩
        unfold netanaOpenDevice
        cases hcard : t.tCardList.find? (fun r => osStrnicmpEqual (t.devices p).szDeviceName
            (t.devices r).szAliasName netanaMaxDevicenamesize) with
        | none => exact hfailed
        | some q =>
          have hq : q = p := ht.found hp hcard
          rw [hq]
          dsimp only
          by_cases hclass : classSelected (t.devices p).tSystemInfoBlock.usDeviceClass ulFilter
          · have hfree : ¬ (t.devices p).ulOpenCnt > 0#32 := by
              rw [hcount]
              decide
            rw [if_pos hclass, if_neg hfree]
            let d := { t.devices p with ulOpenCnt := 1#32, hdevice := some p }
            let u : Registry := { t.set p d with openFiles := p :: t.openFiles }
            have hresult : RegistryInv u := by
              have hnew : u.devices p = d := t.set_devices_self p d
              apply RegistryInv.update (p := p) (t := u) ht hp rfl rfl
              · intro r hr
                exact t.set_devices_ne d hr
              · rw [hnew]
              · rw [hnew]
                exact ⟨hdevice.name, hdevice.added, Or.inr ⟨rfl, rfl, hadded⟩⟩
              · exact ht.cards
              · intro r _
                exact Iff.rfl
              · rw [hnew]
                exact (ht.listed p).trans (and_iff_right hp)
              · intro r hr
                exact List.mem_cons.mp hr
            have hone : (s.devices p).ulOpenCnt + 1#32 = 1#32 := by
              have hzero : (s.devices p).ulOpenCnt = 0#32 := hcount
              rw [hzero]
              rfl
            simp only [Registry.set_devices_self, Registry.set_set, hone]
            exact hresult
          · rw [if_neg hclass]
            exact hfailed
    · rw [if_neg hadded]
      exact ht

theorem RegistryInv.release {s : Registry} (hs : RegistryInv s) {p : DevPtr}
    (hp : s.Registered p) : RegistryInv (s.netanaRelease p) := by
  have hdevice := hs.device p hp
  have hclose : (netanaCloseDevice (s.devices p).hdevice s).1 =
      s.set p { s.devices p with ulOpenCnt := 0#32 } := by
    rcases hdevice.opened with ⟨hhandle, hcount⟩ | ⟨hhandle, hcount, -⟩
    · rw [hhandle, ← hcount]
      exact (s.set_self p).symm
    · rw [hhandle]
      exact netanaCloseDevice_open hcount
  unfold Registry.netanaRelease
  rw [hclose]
  let d := { s.devices p with ulOpenCnt := 0#32, hdevice := none }
  let t : Registry := { s.set p d with
    openFiles := s.openFiles.erase p, moduleRefs := s.moduleRefs - 1 }
  have hresult : RegistryInv t := by
    have hnew : t.devices p = d := s.set_devices_self p d
    apply RegistryInv.update (p := p) (t := t) hs hp rfl rfl
    · intro q hq
      exact s.set_devices_ne d hq
    · rw [hnew]
    · rw [hnew]
      exact ⟨hdevice.name, hdevice.added, Or.inl ⟨rfl, rfl⟩⟩
    · exact hs.cards
    · intro q _
      exact Iff.rfl
    · rw [hnew]
      exact (hs.listed p).trans (and_iff_right hp)
    · intro q hq
      exact Or.inr (List.mem_of_mem_erase hq)
  simp only [Registry.set_devices_self, Registry.set_set]
  exact hresult

theorem RegistryInv.capture {s : Registry} (hs : RegistryInv s) {p : DevPtr}
    (hp : s.Registered p) (fCaptureRunning : Bool) :
    RegistryInv (s.set p { s.devices p with fCaptureRunning := fCaptureRunning }) := by
  have hdevice := hs.device p hp
  apply RegistryInv.set (d := { s.devices p with fCaptureRunning := fCaptureRunning }) hs hp rfl rfl
  exact ⟨hdevice.name, hdevice.added, hdevice.opened⟩

theorem RegistryInv.unregister {s : Registry} (hs : RegistryInv s) {p : DevPtr}
    (hp : s.Registered p) (hclosed : p ∉ s.openFiles) (fAcknowledged : Bool) :
    RegistryInv (netanaUnregisterdevice p fAcknowledged s) := by
  -- what happens to the list of cards
  obtain ⟨l, n, ops, hstate, hcards, hlist⟩ : ∃ l n ops, (if (s.devices p).addsucceded then
        (netanaTkitDeviceremove p true fAcknowledged s).1 else s) =
      { s with tCardList := l, ulCardCnt := n, cardOps := ops } ∧ CardsInv l n ∧
        ∀ q, q ∈ l ↔ q ≠ p ∧ q ∈ s.tCardList := by
    by_cases hadded : (s.devices p).addsucceded = true
    · have hlisted : p ∈ s.tCardList := (hs.listed p).mpr ⟨hp, hadded⟩
      refine ⟨s.tCardList.erase p, s.ulCardCnt - 1#32, .remove p :: s.cardOps, ?_,
        hs.cards.remove hlisted, ?_⟩
      · rw [if_pos hadded, netanaTkitDeviceremove_forced]
      · intro q
        exact hs.cards.nodup.mem_erase_iff
    · refine ⟨s.tCardList, s.ulCardCnt, s.cardOps, if_neg hadded, hs.cards, ?_⟩
      intro q
      apply Iff.symm
      apply and_iff_right_of_imp
      rintro hq rfl
      exact hadded ((hs.listed q).mp hq).2
  unfold netanaUnregisterdevice
  rw [hstate]
  have hfind (m : ℕ) : find (remove s.netAnaIDR (s.devices p).minor) m =
      if m = (s.devices p).minor then none else find s.netAnaIDR m := find_remove _ _ _
  -- every other device stays registered
  have hregistered (q : DevPtr) : find (remove s.netAnaIDR (s.devices p).minor)
      (s.devices q).minor = some q ↔ q ≠ p ∧ s.Registered q := by
    rw [hfind]
    by_cases hminor : (s.devices q).minor = (s.devices p).minor
    · rw [if_pos hminor]
      apply iff_of_false (by simp)
      rintro ⟨hne, hq⟩
      unfold Registry.Registered at hq hp
      rw [hminor, hp] at hq
      exact hne (Option.some.inj hq).symm
    · rw [if_neg hminor]
      apply Iff.symm
      apply and_iff_right_of_imp
      rintro - rfl
      exact hminor rfl
  refine ⟨hcards, ?_, ?_, ?_, ?_⟩
  · intro m q hq
    have hq' : find (remove s.netAnaIDR (s.devices p).minor) m = some q := hq
    rw [hfind] at hq'
    by_cases hm : m = (s.devices p).minor
    · rw [if_pos hm] at hq'
      exact absurd hq' (by simp)
    · rw [if_neg hm] at hq'
      exact hs.slots m q hq'
  · intro q
    apply (hlist q).trans
    rw [hs.listed, ← and_assoc]
    exact and_congr_left fun _ => (hregistered q).symm
  · intro q hq
    exact hs.device q ((hregistered q).mp hq).2
  · intro q hq
    apply (hregistered q).mpr
    refine ⟨?_, hs.files q hq⟩
    rintro rfl
    exact hclosed hq

/-- The state after a registration that succeeds. -/
def Registry.withCard (s : Registry) (idr : Table DevPtr) (d : TkDevice) : Registry :=
  { s.set s.nextPtr d with
    nextPtr := s.nextPtr + 1
    netAnaIDR := idr
    tCardList := s.tCardList ++ [s.nextPtr]
    ulCardCnt := s.ulCardCnt + 1#32
    cardOps := .insertTail s.nextPtr :: s.cardOps }

/-- A device that has just been allocated gets a minor and goes to the end of the list. -/
theorem RegistryInv.registerSuccess {s : Registry} (hs : RegistryInv s) {idr : Table DevPtr}
    {minor : ℕ} (halloc : alloc minorLimit s.netAnaIDR s.nextPtr = some (idr, minor))
    {d : TkDevice} (hminor : d.minor = minor) (hadded : d.addsucceded = true)
    (hd : DeviceInv s.nextPtr d) :
    RegistryInv (s.withCard idr d) := by
  let p := s.nextPtr
  let t : Registry := s.withCard idr d
  obtain ⟨hlowest, hlimit, -⟩ := alloc_eq_some halloc
  have hfree : find s.netAnaIDR minor = none := by
    rw [hlowest]
    exact find_lowestFree _
  have hfind (m : ℕ) : find t.netAnaIDR m = if m = minor then some p else find s.netAnaIDR m :=
    find_alloc halloc m
  have hunlisted : p ∉ s.tCardList := fun h => hs.fresh le_rfl ((hs.listed p).mp h).1
  have hself : t.devices p = d := s.set_devices_self p d
  have hother (q : DevPtr) (hq : q ≠ p) : t.devices q = s.devices q := s.set_devices_ne d hq
  have hregistered (q : DevPtr) : t.Registered q ↔ q = p ∨ s.Registered q := by
    unfold Registry.Registered
    by_cases hq : q = p
    · rw [hq, hself, hfind, if_pos hminor]
      simp
    · rw [hother q hq, hfind, or_iff_right hq]
      by_cases hm : (s.devices q).minor = minor
      · rw [if_pos hm, hm, hfree]
        apply iff_of_false
        · intro h
          exact hq (Option.some.inj h).symm
        · simp
      · rw [if_neg hm]
  change RegistryInv t
  refine ⟨hs.cards.insert hunlisted, ?_, ?_, ?_, ?_⟩
  · intro m q hq
    rw [hfind] at hq
    by_cases hm : m = minor
    · rw [if_pos hm] at hq
      rw [← Option.some.inj hq, hself, hm]
      exact ⟨hminor, hlimit, Nat.lt_succ_self p⟩
    · rw [if_neg hm] at hq
      obtain ⟨hqminor, hqlimit, hbefore⟩ := hs.slots m q hq
      rw [hother q (ne_of_lt hbefore)]
      exact ⟨hqminor, hqlimit, hbefore.trans (Nat.lt_succ_self p)⟩
  · intro q
    rw [hregistered]
    by_cases hq : q = p
    · rw [hq, hself]
      exact iff_of_true (List.mem_append_right _ (List.mem_singleton_self p)) ⟨Or.inl rfl, hadded⟩
    · rw [hother q hq, or_iff_right hq, ← hs.listed]
      change q ∈ s.tCardList ++ [p] ↔ q ∈ s.tCardList
      rw [List.mem_append, List.mem_singleton]
      exact or_iff_left hq
  · intro q hq
    by_cases hqp : q = p
    · rw [hqp, hself]
      exact hd
    · rw [hother q hqp]
      exact hs.device q (((hregistered q).mp hq).resolve_left hqp)
  · intro q hq
    exact (hregistered q).mpr (Or.inr (hs.files q hq))

theorem RegisterChoice.deviceInv (c : RegisterChoice) (p : DevPtr) (minor : ℕ)
    (hadd : c.add.lRet = netanaNoError) :
    DeviceInv p { (c.device minor).added minor c.add with addsucceded := true } := by
  obtain ⟨hminor, hname, hhandle, hcount, -⟩ := (c.device minor).added_same minor c.add
  obtain ⟨hnumber, halias⟩ := (c.device minor).added_alias minor hadd
  refine ⟨⟨c.subsystemDevice, ?_⟩, ?_, Or.inl ⟨hhandle, hcount⟩⟩
  · change ((c.device minor).added minor c.add).szDeviceName =
      deviceName c.subsystemDevice ((c.device minor).added minor c.add).minor
    rw [hname, hminor]
    rfl
  · intro _
    refine ⟨⟨c.add.usDeviceClass, ?_⟩, hnumber.trans hminor.symm⟩
    change ((c.device minor).added minor c.add).szAliasName =
      aliasName c.add.usDeviceClass ((c.device minor).added minor c.add).minor
    rw [halias, hminor]
    rfl

/-- A registration adds a new card at the end of the list, or leaves everything as it was. -/
theorem register_cases {s : Registry} (c : RegisterChoice) (hunlisted : s.nextPtr ∉ s.tCardList) :
    Untouched s (netanaRegisterdevice c s).1 ∨
      ∃ idr minor, alloc minorLimit s.netAnaIDR s.nextPtr = some (idr, minor) ∧
        c.add.lRet = netanaNoError ∧ (netanaRegisterdevice c s).1 =
          s.withCard idr { (c.device minor).added minor c.add with addsucceded := true } := by
  let p := s.nextPtr
  have hallocated : Untouched s { s with nextPtr := p + 1 } :=
    ⟨fun _ => rfl, fun _ _ => rfl, rfl, rfl, rfl, Nat.le_succ p⟩
  unfold netanaRegisterdevice
  by_cases hclass : c.fClassReady = false
  · rw [if_pos hclass]
    exact Or.inl ⟨fun _ => rfl, fun _ _ => rfl, rfl, rfl, rfl, le_rfl⟩
  rw [if_neg hclass]
  by_cases hmemory : c.fTkdeviceAllocated = false
  · rw [if_pos hmemory]
    exact Or.inl ⟨fun _ => rfl, fun _ _ => rfl, rfl, rfl, rfl, le_rfl⟩
  rw [if_neg hmemory]
  by_cases hidr : c.fIdrAllocated = false
  · simp only [if_pos hidr]
    exact Or.inl hallocated
  simp only [if_neg hidr]
  cases halloc : alloc minorLimit s.netAnaIDR s.nextPtr with
  | none => exact Or.inl hallocated
  | some r =>
    obtain ⟨idr, minor⟩ := r
    have hback (m : ℕ) : find (remove idr minor) m = find s.netAnaIDR m := by
      rw [find_remove, find_alloc halloc]
      by_cases hm : m = minor
      · obtain ⟨hlowest, -⟩ := alloc_eq_some halloc
        rw [if_pos hm, hm, hlowest, find_lowestFree]
      · rw [if_neg hm, if_neg hm]
    -- the state with the new device, and the same without its minor
    let u : Registry :=
      { Registry.set { s with nextPtr := p + 1 } p (c.device minor) with netAnaIDR := idr }
    have hu (q : DevPtr) (hq : q < p) : u.devices q = s.devices q :=
      s.set_devices_ne _ (ne_of_lt hq)
    have hup : u.devices p = c.device minor := s.set_devices_self p _
    have hreleased : Untouched s { u with netAnaIDR := remove idr minor } :=
      ⟨hback, hu, rfl, rfl, rfl, Nat.le_succ p⟩
    dsimp only
    by_cases hcreated : c.fDeviceCreated = false
    · rw [if_pos hcreated]
      exact Or.inl hreleased
    rw [if_neg hcreated]
    by_cases hdma : c.fDmaCreated = false
    · rw [if_pos hdma]
      exact Or.inl hreleased
    rw [if_neg hdma]
    by_cases hthread : c.fDsrThreadStarted = false
    · rw [if_pos hthread]
      exact Or.inl hreleased
    rw [if_neg hthread]
    let d := (c.device minor).added minor c.add
    have hd (q : DevPtr) (hq : q < p) : (u.set p d).devices q = s.devices q :=
      (u.set_devices_ne d (ne_of_lt hq)).trans (hu q hq)
    by_cases hadd : c.add.lRet = netanaNoError
    · have hadded : netanaTkitDeviceadd p minor c.add u =
          ({ u.set p d with
              tCardList := s.tCardList ++ [p]
              ulCardCnt := s.ulCardCnt + 1#32
              cardOps := .insertTail p :: s.cardOps }, c.add.lRet) := by
        unfold netanaTkitDeviceadd
        rw [hup]
        exact if_pos hadd
      by_cases hsysfs : c.fSysfsCreated = true
      · right
        refine ⟨idr, minor, rfl, hadd, ?_⟩
        let v : Registry := Registry.set { u.set p d with
            tCardList := s.tCardList ++ [p]
            ulCardCnt := s.ulCardCnt + 1#32
            cardOps := .insertTail p :: s.cardOps } p
          { (u.set p d).devices p with addsucceded := true }
        have hv : v = s.withCard idr { d with addsucceded := true } := by
          have hself : (u.set p d).devices p = d := u.set_devices_self p d
          simp only [v, hself]
          simp [Registry.withCard, u, Registry.set, p]
        change (if (netanaTkitDeviceadd p minor c.add u).2 = netanaNoError then
          if c.fSysfsCreated = true then _ else _ else _ : Registry × ℤ).1 = _
        rw [hadded, if_pos hadd, if_pos hsysfs]
        exact hv
      · left
        change Untouched s (if (netanaTkitDeviceadd p minor c.add u).2 = netanaNoError then
          if c.fSysfsCreated = true then _ else _ else _ : Registry × ℤ).1
        rw [hadded, if_pos hadd, if_neg hsysfs, netanaTkitDeviceremove_forced]
        -- the card comes off the list again
        refine ⟨hback, hd, ?_, BitVec.add_sub_cancel _ _, rfl, Nat.le_succ p⟩
        change (s.tCardList ++ [p]).erase p = s.tCardList
        rw [List.erase_append_right _ hunlisted, List.erase_cons_head, List.append_nil]
    · left
      have hnotadded : netanaTkitDeviceadd p minor c.add u = (u.set p d, c.add.lRet) := by
        unfold netanaTkitDeviceadd
        rw [hup]
        exact if_neg hadd
      change Untouched s (if (netanaTkitDeviceadd p minor c.add u).2 = netanaNoError then
        _ else _ : Registry × ℤ).1
      rw [hnotadded, if_neg hadd]
      exact ⟨hback, hd, rfl, rfl, rfl, Nat.le_succ p⟩

theorem RegistryInv.register {s : Registry} (hs : RegistryInv s) (c : RegisterChoice) :
    RegistryInv (netanaRegisterdevice c s).1 := by
  have hunlisted : s.nextPtr ∉ s.tCardList := fun h => hs.fresh le_rfl ((hs.listed _).mp h).1
  rcases register_cases c hunlisted with hsame | ⟨idr, minor, halloc, hadd, hresult⟩
  · exact hs.untouched hsame
  · obtain ⟨hminor, -⟩ := (c.device minor).added_same minor c.add
    rw [hresult]
    exact hs.registerSuccess halloc hminor rfl (c.deviceInv s.nextPtr minor hadd)

/-- Only devices without an open file are un-registered. -/
def unregistersClosed (s : Registry) : RegistryAction → Bool
  | .unregister p _ => decide (p ∉ s.openFiles)
  | _ => true

theorem registryStep_inv {s t : Registry} {a : RegistryAction} (hs : RegistryInv s)
    (hok : unregistersClosed s a = true) (h : registryStep s a = some t) : RegistryInv t := by
  cases a with
  | register c =>
    cases h
    exact hs.register c
  | unregister p fAcknowledged =>
    obtain ⟨hp, ht⟩ := Option.ite_none_right_eq_some.mp h
    cases ht
    exact hs.unregister hp (of_decide_eq_true hok) fAcknowledged
  | openFile ulFilter minor =>
    cases h
    exact hs.openFile ulFilter minor
  | release p =>
    obtain ⟨hp, ht⟩ := Option.ite_none_right_eq_some.mp h
    cases ht
    exact hs.release hp.1
  | identUpdate p c =>
    obtain ⟨hp, ht⟩ := Option.ite_none_right_eq_some.mp h
    cases ht
    exact hs.identUpdate hp c
  | capture p fCaptureRunning =>
    obtain ⟨hp, ht⟩ := Option.ite_none_right_eq_some.mp h
    cases ht
    exact hs.capture hp fCaptureRunning

/-- There are not more cards than minors. -/
theorem RegistryInv.length_le {s : Registry} (hs : RegistryInv s) :
    s.tCardList.length ≤ minorLimit := by
  have hnodup : (s.tCardList.map fun p => (s.devices p).minor).Nodup := by
    apply List.Nodup.map_on _ hs.cards.nodup
    intro p hp q hq hminor
    obtain ⟨hpr, -⟩ := (hs.listed p).mp hp
    obtain ⟨hqr, -⟩ := (hs.listed q).mp hq
    unfold Registry.Registered at hpr hqr
    rw [hminor, hqr] at hpr
    exact (Option.some.inj hpr).symm
  have hsubset : (s.tCardList.map fun p => (s.devices p).minor) ⊆ List.range minorLimit := by
    intro m hm
    obtain ⟨p, hp, rfl⟩ := List.mem_map.mp hm
    exact List.mem_range.mpr (hs.slots _ p ((hs.listed p).mp hp).1).2.1
  have hlength := (hnodup.subperm hsubset).length_le
  rwa [List.length_map, List.length_range] at hlength

/-- The list, the counter, the success flag and the open state of every device agree between the
operations: a device whose registration failed, or that is not registered any more, is not on the
list, and a device whose file is open is not opened again. -/
theorem registry_agrees {d : TkDevice} {as : List RegistryAction} {s : Registry}
    (hclosed : StepRuns.Along (fun s a => unregistersClosed s a = true) registryStep
      (Registry.init d) as)
    (hrun : StepRuns.run registryStep (Registry.init d) as = some s) :
    s.ulCardCnt.toNat = s.tCardList.length ∧
      (∀ p ∈ s.tCardList, s.Registered p) ∧
      ∀ m p, find s.netAnaIDR m = some p →
        s.tCardList.count p = (if (s.devices p).addsucceded then 1 else 0) ∧
        ((s.devices p).ulOpenCnt = 0#32 ∨ (s.devices p).ulOpenCnt = 1#32) ∧
        ((s.devices p).ulOpenCnt = 1#32 ↔ (s.devices p).hdevice ≠ none) ∧
        ((s.devices p).hdevice ≠ none → ∀ ulFilter, s.netanaOpen ulFilter m = (s, -ebusy)) := by
  have hs : RegistryInv s := StepRuns.along_invariant
    (fun _ _ _ hs hok h => registryStep_inv hs hok h) (RegistryInv.init d) hclosed hrun
  refine ⟨?_, fun p hp => ((hs.listed p).mp hp).1, ?_⟩
  · rw [hs.cards.count]
    apply Nat.mod_eq_of_lt
    exact lt_of_le_of_lt hs.length_le (by decide)
  intro m p hfind
  have hp := hs.registered hfind
  have hdevice := hs.device p hp
  refine ⟨?_, ?_, ?_, ?_⟩
  · by_cases hadded : (s.devices p).addsucceded = true
    · rw [if_pos hadded]
      exact List.count_eq_one_of_mem hs.cards.nodup ((hs.listed p).mpr ⟨hp, hadded⟩)
    · rw [if_neg hadded]
      exact List.count_eq_zero_of_not_mem fun h => hadded ((hs.listed p).mp h).2
  · rcases hdevice.opened with ⟨-, hcount⟩ | ⟨-, hcount, -⟩
    · exact Or.inl hcount
    · exact Or.inr hcount
  · rcases hdevice.opened with ⟨hhandle, hcount⟩ | ⟨hhandle, hcount, -⟩
    · simp [hhandle, hcount]
    · simp [hhandle, hcount]
  · intro hopen ulFilter
    obtain ⟨hhandle, -, hadded⟩ := hdevice.opened.resolve_left (fun h => hopen h.1)
    have hbusy : (s.devices p).hdevice.isSome = true := by
      rw [hhandle]
      rfl
    simp only [Registry.netanaOpen, hfind, if_pos hadded, if_pos hbusy]
    rfl

/-- Two cards; the second is opened and restarted by an ident update. -/
theorem registry_agrees_two : ∃ s, StepRuns.run registryStep
      (Registry.init (cardRegistered.device 0))
      [.register cardRegistered, .register cardRegistered, .openFile 0#32 1,
        .identUpdate 1 cardRestarted] = some s ∧
    s.tCardList = [0, 1] ∧ s.ulCardCnt.toNat = 2 ∧ s.netanaOpen 0#32 1 = (s, -ebusy) := by
  obtain ⟨s, hrun, hlist, hfind, hhandle⟩ : ∃ s, StepRuns.run registryStep
      (Registry.init (cardRegistered.device 0))
      [.register cardRegistered, .register cardRegistered, .openFile 0#32 1,
        .identUpdate 1 cardRestarted] = some s ∧
      s.tCardList = [0, 1] ∧ find s.netAnaIDR 1 = some 1 ∧ (s.devices 1).hdevice = some 1 :=
    ⟨_, rfl, by rfl, by rfl, by rfl⟩
  have hagrees := registry_agrees (StepRuns.along_of_check (by rfl)) hrun
  refine ⟨s, hrun, hlist, ?_, ?_⟩
  · rw [hagrees.1, hlist]
    rfl
  · apply (hagrees.2.2 1 1 hfind).2.2.2
    rw [hhandle]
    simp

end NetanaDriver
