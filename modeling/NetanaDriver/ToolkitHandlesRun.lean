import NetanaDriver.ToolkitHandles

/-! What a run of the toolkit leaves behind of its handles. -/
namespace NetanaDriver
open HandleTable

/-- The handles that a device on the list has from `netana_tkit_deviceadd`. -/
def ownHandles (d : ℕ) : List HandleSlot := .pvLock d :: irqEvents d

theorem mem_irqEvents {d : ℕ} {i : HandleSlot} :
    i ∈ irqEvents d ↔ i = .hStopComplete d ∨ ∃ ulIdx, i = .ahHandshakeBitEvents d ulIdx := by
  simp [irqEvents, eq_comm]

theorem mem_defaultFilters {d ulPortCnt : ℕ} {i : HandleSlot} :
    i ∈ defaultFilters d ulPortCnt ↔ ∃ (ulPort : Fin 4) (ulFilter : Fin 2),
      ulPort.val < ulPortCnt ∧
        (i = .pbMask d ulPort ulFilter ∨ i = .pbValue d ulPort ulFilter) := by
  simp only [defaultFilters, List.mem_flatMap, List.mem_filter, List.mem_finRange, true_and,
    decide_eq_true_eq, List.mem_cons, List.not_mem_nil, or_false]
  apply exists_congr
  intro ulPort
  apply Iff.intro
  · rintro ⟨hport, ulFilter, h⟩
    exact ⟨ulFilter, hport, h⟩
  · rintro ⟨ulFilter, hport, h⟩
    exact ⟨hport, ulFilter, h⟩

theorem mem_ownHandles {d : ℕ} {i : HandleSlot} : i ∈ ownHandles d ↔
    i = .pvLock d ∨ i = .hStopComplete d ∨ ∃ ulIdx, i = .ahHandshakeBitEvents d ulIdx := by
  rw [ownHandles, List.mem_cons, mem_irqEvents]

theorem mem_addedHandles {d : ℕ} {c : AddSteps} {i : HandleSlot} : i ∈ addedHandles d c ↔
    i ∈ defaultFilters d c.ulPortCnt ∨ i = .pvSendMBXMutex d ∨ i = .pvRecvMBXMutex d := by
  simp [addedHandles]

theorem owner_of_ownHandles {d : ℕ} {i : HandleSlot} (h : i ∈ ownHandles d) :
    i.owner = some d := by
  rcases mem_ownHandles.mp h with rfl | rfl | ⟨ulIdx, rfl⟩
  · rfl
  · rfl
  · rfl

theorem owner_of_addedHandles {d : ℕ} {c : AddSteps} {i : HandleSlot}
    (h : i ∈ addedHandles d c) : i.owner = some d := by
  rcases mem_addedHandles.mp h with hfilter | rfl | rfl
  · obtain ⟨ulPort, ulFilter, -, rfl | rfl⟩ := mem_defaultFilters.mp hfilter
    · rfl
    · rfl
  · rfl
  · rfl

/-- A handle of a device is one of its lock and events, or a mutex or a buffer. -/
theorem mem_of_owner {d : ℕ} {i : HandleSlot} (h : i.owner = some d) :
    i ∈ ownHandles d ∨
      i ∈ HandleSlot.pvSendMBXMutex d :: .pvRecvMBXMutex d :: defaultFilters d 4 := by
  rw [mem_ownHandles, List.mem_cons, List.mem_cons, mem_defaultFilters]
  cases i with
  | cardLock => exact absurd h (by simp [HandleSlot.owner])
  | pvLock e =>
    cases h
    exact Or.inl (Or.inl rfl)
  | hStopComplete e =>
    cases h
    exact Or.inl (Or.inr (Or.inl rfl))
  | ahHandshakeBitEvents e ulIdx =>
    cases h
    exact Or.inl (Or.inr (Or.inr ⟨ulIdx, rfl⟩))
  | pbMask e ulPort ulFilter =>
    cases h
    exact Or.inr (Or.inr (Or.inr ⟨ulPort, ulFilter, ulPort.isLt, Or.inl rfl⟩))
  | pbValue e ulPort ulFilter =>
    cases h
    exact Or.inr (Or.inr (Or.inr ⟨ulPort, ulFilter, ulPort.isLt, Or.inr rfl⟩))
  | pvSendMBXMutex e =>
    cases h
    exact Or.inr (Or.inl rfl)
  | pvRecvMBXMutex e =>
    cases h
    exact Or.inr (Or.inr (Or.inl rfl))

theorem nodup_irqEvents (d : ℕ) : (irqEvents d).Nodup := by
  apply List.nodup_cons.mpr
  refine ⟨by simp, ?_⟩
  apply (List.nodup_finRange 16).map
  intro a b h
  exact (HandleSlot.ahHandshakeBitEvents.inj h).2

theorem nodup_defaultFilters (d ulPortCnt : ℕ) : (defaultFilters d ulPortCnt).Nodup := by
  apply List.nodup_flatMap.mpr
  refine ⟨?_, ?_⟩
  · intro ulPort _
    apply List.nodup_flatMap.mpr
    refine ⟨by simp, ?_⟩
    apply (List.nodup_finRange 2).imp
    intro a b hab i hi hj
    simp only [List.mem_cons, List.not_mem_nil, or_false] at hi hj
    rcases hi with rfl | rfl
    · simp [hab] at hj
    · simp [hab] at hj
  · apply ((List.nodup_finRange 4).filter _).imp
    intro a b hab i hi hj
    simp only [List.mem_flatMap, List.mem_cons, List.not_mem_nil, or_false] at hi hj
    obtain ⟨k, -, rfl | rfl⟩ := hi
    · simp [hab] at hj
    · simp [hab] at hj

theorem nodup_addedHandles (d : ℕ) (c : AddSteps) : (addedHandles d c).Nodup := by
  apply List.nodup_append.mpr
  refine ⟨nodup_defaultFilters d c.ulPortCnt, by simp, ?_⟩
  intro i hi j hj hij
  obtain ⟨ulPort, ulFilter, -, rfl | rfl⟩ := mem_defaultFilters.mp hi
  · simp [← hij] at hj
  · simp [← hij] at hj

theorem addedHandles_disjoint {d : ℕ} {c : AddSteps} {i : HandleSlot}
    (h : i ∈ addedHandles d c) : i ∉ ownHandles d := by
  rw [mem_ownHandles]
  rcases mem_addedHandles.mp h with hfilter | rfl | rfl
  · obtain ⟨ulPort, ulFilter, -, rfl | rfl⟩ := mem_defaultFilters.mp hfilter
    · simp
    · simp
  · simp
  · simp

structure ToolkitInv (s : Toolkit) : Prop where
  balanced : Balanced s.handles
  held : ∀ i d, s.handles.slot i ≠ none → i.owner = some d → d ∈ s.tCardList
  filled : ∀ d ∈ s.tCardList, ∀ i ∈ ownHandles d, s.handles.slot i ≠ none
  ready : s.tCardList ≠ [] → s.handles.slot .cardLock ≠ none
  nodup : s.tCardList.Nodup

theorem ToolkitInv.released {s : Toolkit} (hs : ToolkitInv s) : s.Released := by
  refine ⟨hs.balanced.sound, ?_⟩
  intro n hn
  obtain ⟨i, hi⟩ := (hs.balanced.owned n).mp hn
  refine ⟨i, hi, ?_⟩
  intro d hd
  apply hs.held i d _ hd
  rw [hi]
  simp

theorem ToolkitInv.start : ToolkitInv Toolkit.start where
  balanced := Balanced.empty
  held := by
    intro i d h
    exact absurd rfl h
  filled := by simp [Toolkit.start]
  ready := by simp [Toolkit.start]
  nodup := List.nodup_nil

/-- A device that is not on the list has no handles. -/
theorem ToolkitInv.empty {s : Toolkit} (hs : ToolkitInv s) {d : ℕ} (hd : d ∉ s.tCardList)
    {i : HandleSlot} (hi : i.owner = some d) : s.handles.slot i = none := by
  by_contra hne
  exact hd (hs.held i d hne hi)

/-- The invariant only looks at the slots. -/
theorem ToolkitInv.of_slots {s t : Toolkit} (hs : ToolkitInv s) (ht : Balanced t.handles)
    (hslot : ∀ i, t.handles.slot i = s.handles.slot i) (hlist : t.tCardList = s.tCardList) :
    ToolkitInv t := by
  refine ⟨ht, ?_, ?_, ?_, ?_⟩
  · intro i d hi hd
    rw [hslot] at hi
    rw [hlist]
    exact hs.held i d hi hd
  · intro d hd i hi
    rw [hlist] at hd
    rw [hslot]
    exact hs.filled d hd i hi
  · intro hne
    rw [hlist] at hne
    rw [hslot]
    exact hs.ready hne
  · rw [hlist]
    exact hs.nodup

theorem deleteOwn_slot (d : ℕ) (h : Table HandleSlot) (i : HandleSlot) :
    (delete (.pvLock d) (deleteAll (irqEvents d) h)).slot i =
      if i ∈ ownHandles d then none else h.slot i := by
  by_cases hi : i = .pvLock d
  · have hself : HandleSlot.pvLock d ∈ ownHandles d := List.mem_cons_self
    rw [hi, delete_slot_self, if_pos hself]
  · rw [delete_slot_ne hi, deleteAll_slot]
    have hmem : i ∈ ownHandles d ↔ i ∈ irqEvents d := by
      rw [ownHandles, List.mem_cons]
      exact or_iff_right hi
    simp only [hmem]

/-- The error path of `netana_tkit_deviceadd` takes back what has been created. -/
theorem ToolkitInv.takeBack {s : Toolkit} (hs : ToolkitInv s) {d : ℕ} (hd : d ∉ s.tCardList)
    {h : Table HandleSlot} (hbalanced : Balanced h)
    (hother : ∀ i, i ∉ ownHandles d → h.slot i = s.handles.slot i) :
    ToolkitInv { s with handles := delete (.pvLock d) (deleteAll (irqEvents d) h) } := by
  let t : Toolkit := { s with handles := delete (.pvLock d) (deleteAll (irqEvents d) h) }
  apply ToolkitInv.of_slots (t := t) hs ((hbalanced.deleteAll _).delete _) _ rfl
  intro i
  change (delete (.pvLock d) (deleteAll (irqEvents d) h)).slot i = s.handles.slot i
  rw [deleteOwn_slot]
  by_cases hi : i ∈ ownHandles d
  · rw [if_pos hi]
    exact (hs.empty hd (owner_of_ownHandles hi)).symm
  · rw [if_neg hi]
    exact hother i hi

theorem ToolkitInv.add {s : Toolkit} (hs : ToolkitInv s) (hready : s.initialised = true) {d : ℕ}
    (hd : d ∉ s.tCardList) (c : AddSteps) : ToolkitInv (s.netanaTkitDeviceadd d c).1 := by
  have hempty {i : HandleSlot} (hi : i.owner = some d) : s.handles.slot i = none := hs.empty hd hi
  let h₁ := create (.pvLock d) (c.fCreated (.pvLock d)) s.handles
  have hbalanced₁ : Balanced h₁ := hs.balanced.create (hempty rfl) _
  have hslot₁ (i : HandleSlot) (hi : i ≠ .pvLock d) : h₁.slot i = s.handles.slot i :=
    create_slot_ne hi _ _
  unfold Toolkit.netanaTkitDeviceadd
  by_cases hlock : c.fCreated (.pvLock d) = false
  · -- no lock
    have herror : ¬ netanaIrqlockCreationFailed = netanaNoError := by decide
    simp only [if_pos hlock, if_neg herror]
    apply hs.takeBack hd hbalanced₁
    intro i hi
    apply hslot₁
    rintro rfl
    exact hi List.mem_cons_self
  · let r := createWhile c.fCreated (irqEvents d) h₁
    have hevents : ∀ i ∈ irqEvents d, h₁.slot i = none := by
      intro i hi
      have hne : i ≠ .pvLock d := by
        rintro rfl
        exact absurd (mem_irqEvents.mp hi) (by simp)
      rw [hslot₁ i hne]
      exact hempty (owner_of_ownHandles (List.mem_cons_of_mem _ hi))
    have hbalanced₂ : Balanced r.1 := hbalanced₁.createWhile _ (nodup_irqEvents d) hevents
    have hslot₂ (i : HandleSlot) (hi : i ∉ ownHandles d) : r.1.slot i = s.handles.slot i := by
      rw [ownHandles, List.mem_cons, not_or] at hi
      exact (createWhile_slot hi.2 h₁).trans (hslot₁ i hi.1)
    simp only [if_neg hlock]
    by_cases hok : (if r.2 then c.lRet else netanaIrqeventCreationFailed) = netanaNoError
    · rw [if_pos hok]
      have hcreated : r.2 = true := by
        by_contra hfailed
        rw [if_neg hfailed] at hok
        exact absurd hok (by decide)
      let h₃ := createAll c.fCreated (addedHandles d c) r.1
      have hbalanced₃ : Balanced h₃ := by
        apply hbalanced₂.createAll _ (nodup_addedHandles d c)
        intro i hi
        rw [hslot₂ i (addedHandles_disjoint hi)]
        exact hempty (owner_of_addedHandles hi)
      have hslot₃ (i : HandleSlot) (hi : i.owner ≠ some d) : h₃.slot i = s.handles.slot i := by
        have hnotAdded : i ∉ addedHandles d c := fun h => hi (owner_of_addedHandles h)
        have hnotOwn : i ∉ ownHandles d := fun h => hi (owner_of_ownHandles h)
        exact (createAll_slot hnotAdded r.1).trans (hslot₂ i hnotOwn)
      -- the lock and the events are there
      have hown (i : HandleSlot) (hi : i ∈ ownHandles d) : h₃.slot i ≠ none := by
        have hnotAdded : i ∉ addedHandles d c := fun h => addedHandles_disjoint h hi
        have hsame : h₃.slot i = r.1.slot i := createAll_slot hnotAdded r.1
        rw [hsame]
        rcases List.mem_cons.mp hi with rfl | hevent
        · have hlocked : c.fCreated (.pvLock d) = true := Bool.eq_true_of_not_eq_false hlock
          have hnotEvent : HandleSlot.pvLock d ∉ irqEvents d := by
            rw [mem_irqEvents]
            simp
          have hcreate : r.1.slot (.pvLock d) = h₁.slot (.pvLock d) :=
            createWhile_slot hnotEvent h₁
          rw [hcreate, create_slot_self, if_pos hlocked]
          simp
        · exact createWhile_filled (nodup_irqEvents d) hcreated hevent
      have hcards : h₃.slot .cardLock ≠ none := by
        rw [hslot₃ .cardLock (by simp [HandleSlot.owner])]
        exact Option.isSome_iff_ne_none.mp hready
      have huses : useAll (addUses d c) h₃ = h₃ := by
        apply hbalanced₃.useAll
        intro i hi
        simp only [addUses, List.mem_append, List.mem_map, List.mem_cons, List.not_mem_nil,
          or_false] at hi
        rcases hi with (hlock' | hcard) | ⟨ulIdx, -, rfl⟩
        · have hi' : i = .pvLock d := by
            split at hlock'
            · simpa using hlock'
            · simp at hlock'
          rw [hi']
          exact hown _ List.mem_cons_self
        · have hi' : i = .cardLock := by simpa using hcard
          rw [hi']
          exact hcards
        · exact hown _ (mem_ownHandles.mpr (Or.inr (Or.inr ⟨ulIdx, rfl⟩)))
      change ToolkitInv { handles := useAll (addUses d c) h₃, tCardList := s.tCardList ++ [d] }
      rw [huses]
      refine ⟨hbalanced₃, ?_, ?_, ?_, ?_⟩
      · intro i e hi he
        by_cases hde : e = d
        · rw [hde]
          exact List.mem_append_right _ (List.mem_singleton_self d)
        · apply List.mem_append_left
          apply hs.held i e _ he
          rw [← hslot₃ i (by rw [he]; exact fun h => hde (Option.some.inj h))]
          exact hi
      · intro e he i hi
        rcases List.mem_append.mp he with hbefore | hnew
        · have hne : i.owner ≠ some d := by
            rw [owner_of_ownHandles hi]
            intro h
            exact hd (Option.some.inj h ▸ hbefore)
          change h₃.slot i ≠ none
          rw [hslot₃ i hne]
          exact hs.filled e hbefore i hi
        · rw [List.mem_singleton.mp hnew] at hi
          exact hown i hi
      · intro _
        exact hcards
      · apply List.nodup_append.mpr
        refine ⟨hs.nodup, List.nodup_singleton d, ?_⟩
        intro a ha b hb hab
        rw [List.mem_singleton.mp hb] at hab
        exact hd (hab ▸ ha)
    · rw [if_neg hok]
      exact hs.takeBack hd hbalanced₂ hslot₂

theorem plain_slot {s : Toolkit} {d : ℕ} (h : s.plain d = true) {i : HandleSlot}
    (hi : i ∈ HandleSlot.pvSendMBXMutex d :: .pvRecvMBXMutex d :: defaultFilters d 4) :
    s.handles.slot i = none :=
  Option.isNone_iff_eq_none.mp (List.all_eq_true.mp h i hi)

/-- A plain device leaves no handle behind. -/
theorem ToolkitInv.remove {s : Toolkit} (hs : ToolkitInv s) {d : ℕ} (hd : d ∈ s.tCardList)
    {fOpen fForceRemove : Bool} (hplain : (fOpen && !fForceRemove || s.plain d) = true)
    (ulWaits : ℕ) (fAcknowledged : Bool) :
    ToolkitInv (s.netanaTkitDeviceremove d fOpen fForceRemove ulWaits fAcknowledged).1 := by
  have hready : s.handles.slot .cardLock ≠ none := hs.ready (List.ne_nil_of_mem hd)
  unfold Toolkit.netanaTkitDeviceremove
  by_cases hopen : fOpen = true ∧ fForceRemove = false
  · rw [if_pos hopen]
    exact hs
  rw [if_neg hopen]
  have hplain' : s.plain d = true := by
    rcases (Bool.or_eq_true _ _).mp hplain with h | h
    · exact absurd (by simpa using h) hopen
    · exact h
  -- nothing is used that is not there, and then the device's own handles are deleted
  have huses : useAll (removeUses d ulWaits) s.handles = s.handles := by
    apply hs.balanced.useAll
    intro i hi
    apply hs.filled d hd
    rw [mem_ownHandles]
    simp only [removeUses, List.mem_append, List.mem_cons, List.not_mem_nil, or_false] at hi
    rcases hi with (rfl | rfl) | hwait
    · exact Or.inl rfl
    · exact Or.inl rfl
    · exact Or.inr (Or.inr ⟨_, List.eq_of_mem_replicate hwait⟩)
  let h := delete (.pvLock d) (deleteAll (irqEvents d) s.handles)
  have hbalanced : Balanced h := (hs.balanced.deleteAll _).delete _
  have hslot (i : HandleSlot) : h.slot i = if i ∈ ownHandles d then none else s.handles.slot i :=
    deleteOwn_slot d s.handles i
  have hcards : h.slot .cardLock ≠ none := by
    have hnot : HandleSlot.cardLock ∉ ownHandles d := by
      rw [mem_ownHandles]
      simp
    rw [hslot, if_neg hnot]
    exact hready
  have hcardUses : useAll [.cardLock, .cardLock] h = h := by
    apply hbalanced.useAll
    intro i hi
    have hi' : i = .cardLock := by simpa using hi
    rw [hi']
    exact hcards
  rw [huses]
  change ToolkitInv { handles := useAll [.cardLock, .cardLock] h, tCardList := s.tCardList.erase d }
  rw [hcardUses]
  refine ⟨hbalanced, ?_, ?_, ?_, hs.nodup.erase d⟩
  · intro i e hi he
    change h.slot i ≠ none at hi
    rw [hslot] at hi
    by_cases hown : i ∈ ownHandles d
    · rw [if_pos hown] at hi
      exact absurd rfl hi
    · rw [if_neg hown] at hi
      rw [hs.nodup.mem_erase_iff]
      refine ⟨?_, hs.held i e hi he⟩
      -- what is left of the device would be a mailbox mutex or the buffer of a filter
      rintro rfl
      exact hi (plain_slot hplain' ((mem_of_owner he).resolve_left hown))
  · intro e he i hi
    obtain ⟨hne, hbefore⟩ := hs.nodup.mem_erase_iff.mp he
    have hother : i ∉ ownHandles d := by
      intro h
      have howner := owner_of_ownHandles h
      rw [owner_of_ownHandles hi] at howner
      exact hne (Option.some.inj howner)
    change h.slot i ≠ none
    rw [hslot, if_neg hother]
    exact hs.filled e hbefore i hi
  · intro _
    exact hcards

theorem remove_list (s : Toolkit) (d ulWaits : ℕ) (fAcknowledged : Bool) :
    (s.netanaTkitDeviceremove d true true ulWaits fAcknowledged).1.tCardList =
      s.tCardList.erase d := by
  simp [Toolkit.netanaTkitDeviceremove]

theorem remove_cardLock (s : Toolkit) (d ulWaits : ℕ) (fAcknowledged : Bool) :
    (s.netanaTkitDeviceremove d true true ulWaits fAcknowledged).1.handles.slot .cardLock =
      s.handles.slot .cardLock := by
  have hnot : HandleSlot.cardLock ∉ ownHandles d := by
    rw [mem_ownHandles]
    simp
  simp [Toolkit.netanaTkitDeviceremove, useAll_slot, deleteOwn_slot, hnot]

theorem ToolkitInv.restart {s : Toolkit} (hs : ToolkitInv s) (hready : s.initialised = true)
    {d : ℕ} (hd : d ∈ s.tCardList) {fCaptureRunning : Bool}
    (hplain : (fCaptureRunning || s.plain d) = true) (ulWaits : ℕ) (fAcknowledged : Bool)
    (c : AddSteps) :
    ToolkitInv (s.netanaRestartDevice d fCaptureRunning ulWaits fAcknowledged c).1 := by
  unfold Toolkit.netanaRestartDevice
  cases fCaptureRunning with
  | true => exact hs
  | false =>
    have hremove : ToolkitInv (s.netanaTkitDeviceremove d true true ulWaits fAcknowledged).1 :=
      hs.remove hd (by simpa using hplain) ulWaits fAcknowledged
    simp only [Bool.false_eq_true, if_false]
    split
    · apply hremove.add
      · rw [Toolkit.initialised, remove_cardLock]
        exact hready
      · rw [remove_list, hs.nodup.mem_erase_iff]
        simp
    · exact hremove

theorem ToolkitInv.deinit {s : Toolkit} (hs : ToolkitInv s) (hlist : s.tCardList = [])
    (ulWaits : ℕ) (fAcknowledged : Bool) :
    ToolkitInv (s.netanaTkitDeinit ulWaits fAcknowledged) := by
  have hresult : s.netanaTkitDeinit ulWaits fAcknowledged =
      { s with handles := delete .cardLock s.handles } := by
    simp [Toolkit.netanaTkitDeinit, hlist, Toolkit.removeAll]
  rw [hresult]
  refine ⟨hs.balanced.delete _, ?_, ?_, ?_, hs.nodup⟩
  · intro i d hi hd
    apply hs.held i d _ hd
    have hne : i ≠ .cardLock := by
      rintro rfl
      exact absurd hd (by simp [HandleSlot.owner])
    change (delete .cardLock s.handles).slot i ≠ none at hi
    rwa [delete_slot_ne hne] at hi
  · simp [hlist]
  · intro hne
    exact absurd hlist hne

theorem toolkitStep_inv {s t : Toolkit} {a : ToolkitAction} (hs : ToolkitInv s)
    (hok : balancedStep s a = true) (h : toolkitStep s a = some t) : ToolkitInv t := by
  cases a with
  | init fLock =>
    have hnone : s.handles.slot .cardLock = none := by
      simpa [balancedStep, Toolkit.initialised] using hok
    have hcards : s.tCardList = [] := by
      by_contra hne
      exact hs.ready hne hnone
    cases h
    refine ⟨hs.balanced.create hnone fLock, ?_, ?_, ?_, List.nodup_nil⟩
    · intro i d hi hd
      have hne : i ≠ .cardLock := by
        rintro rfl
        exact absurd hd (by simp [HandleSlot.owner])
      change (create .cardLock fLock s.handles).slot i ≠ none at hi
      rw [create_slot_ne hne] at hi
      exact absurd (hs.held i d hi hd) (by simp [hcards])
    · simp [Toolkit.netanaTkitInit]
    · simp [Toolkit.netanaTkitInit]
  | add d c =>
    obtain ⟨⟨hready, hd⟩, ht⟩ := Option.ite_none_right_eq_some.mp h
    cases ht
    exact hs.add hready hd c
  | remove d fOpen fForceRemove ulWaits fAcknowledged =>
    obtain ⟨⟨-, hd⟩, ht⟩ := Option.ite_none_right_eq_some.mp h
    cases ht
    exact hs.remove hd hok ulWaits fAcknowledged
  | restart d fCaptureRunning ulWaits fAcknowledged c =>
    obtain ⟨⟨hready, hd⟩, ht⟩ := Option.ite_none_right_eq_some.mp h
    cases ht
    exact hs.restart hready hd hok ulWaits fAcknowledged c
  | deinit ulWaits fAcknowledged =>
    cases h
    exact hs.deinit (List.isEmpty_iff.mp hok) ulWaits fAcknowledged

/-- The action adds, removes or restarts device `d`. -/
def concerns (d : ℕ) : ToolkitAction → Bool
  | .add e _ => e == d
  | .remove e _ _ _ _ => e == d
  | .restart e _ _ _ _ => e == d
  | _ => false

theorem add_frame {d : ℕ} {i : HandleSlot} (hi : i.owner ≠ some d) (c : AddSteps) (s : Toolkit) :
    (s.netanaTkitDeviceadd d c).1.handles.slot i = s.handles.slot i := by
  have hnotAdded : i ∉ addedHandles d c := fun h => hi (owner_of_addedHandles h)
  have hnotOwn : i ∉ ownHandles d := fun h => hi (owner_of_ownHandles h)
  have hnotEvent : i ∉ irqEvents d := fun h => hnotOwn (List.mem_cons_of_mem _ h)
  have hnotLock : i ≠ .pvLock d := by
    rintro rfl
    exact hi rfl
  unfold Toolkit.netanaTkitDeviceadd
  by_cases hlock : c.fCreated (.pvLock d) = false
  · have herror : ¬ netanaIrqlockCreationFailed = netanaNoError := by decide
    simp only [if_pos hlock, if_neg herror, deleteOwn_slot, if_neg hnotOwn]
    exact create_slot_ne hnotLock _ _
  · simp only [if_neg hlock]
    let r := createWhile c.fCreated (irqEvents d)
      (create (.pvLock d) (c.fCreated (.pvLock d)) s.handles)
    have hcreated : r.1.slot i = s.handles.slot i :=
      (createWhile_slot hnotEvent _).trans (create_slot_ne hnotLock _ _)
    by_cases hok : (if r.2 then c.lRet else netanaIrqeventCreationFailed) = netanaNoError
    · rw [if_pos hok]
      calc (useAll (addUses d c) (createAll c.fCreated (addedHandles d c) r.1)).slot i
          = (createAll c.fCreated (addedHandles d c) r.1).slot i := useAll_slot _ _ i
        _ = r.1.slot i := createAll_slot hnotAdded r.1
        _ = s.handles.slot i := hcreated
    · rw [if_neg hok]
      calc (delete (.pvLock d) (deleteAll (irqEvents d) r.1)).slot i
          = if i ∈ ownHandles d then none else r.1.slot i := deleteOwn_slot d r.1 i
        _ = r.1.slot i := if_neg hnotOwn
        _ = s.handles.slot i := hcreated

theorem remove_frame {d : ℕ} {i : HandleSlot} (hi : i.owner ≠ some d) (fOpen fForceRemove : Bool)
    (ulWaits : ℕ) (fAcknowledged : Bool) (s : Toolkit) :
    (s.netanaTkitDeviceremove d fOpen fForceRemove ulWaits fAcknowledged).1.handles.slot i =
      s.handles.slot i := by
  have hnotOwn : i ∉ ownHandles d := fun h => hi (owner_of_ownHandles h)
  unfold Toolkit.netanaTkitDeviceremove
  by_cases hopen : fOpen = true ∧ fForceRemove = false
  · rw [if_pos hopen]
  · rw [if_neg hopen]
    simp only [useAll_slot, deleteOwn_slot, if_neg hnotOwn]

/-- The handles of the other devices and of the toolkit stay as they are. -/
theorem toolkitStep_frame {s t : Toolkit} {a : ToolkitAction} {d : ℕ} (ha : concerns d a = true)
    (h : toolkitStep s a = some t) {i : HandleSlot} (hi : i.owner ≠ some d) :
    t.handles.slot i = s.handles.slot i := by
  cases a with
  | init fLock => exact absurd ha (by simp [concerns])
  | add e c =>
    have he : e = d := by simpa [concerns] using ha
    obtain ⟨-, ht⟩ := Option.ite_none_right_eq_some.mp h
    cases ht
    rw [he]
    exact add_frame hi c s
  | remove e fOpen fForceRemove ulWaits fAcknowledged =>
    have he : e = d := by simpa [concerns] using ha
    obtain ⟨-, ht⟩ := Option.ite_none_right_eq_some.mp h
    cases ht
    rw [he]
    exact remove_frame hi fOpen fForceRemove ulWaits fAcknowledged s
  | restart e fCaptureRunning ulWaits fAcknowledged c =>
    have he : e = d := by simpa [concerns] using ha
    obtain ⟨-, ht⟩ := Option.ite_none_right_eq_some.mp h
    cases ht
    rw [he]
    have hremove := remove_frame hi true true ulWaits fAcknowledged s
    unfold Toolkit.netanaRestartDevice
    by_cases hrunning : fCaptureRunning = true
    · rw [if_pos hrunning]
    · rw [if_neg hrunning]
      dsimp only
      split
      · exact (add_frame hi c _).trans hremove
      · exact hremove
  | deinit ulWaits fAcknowledged => exact absurd ha (by simp [concerns])

theorem toolkit_run_frame {s t : Toolkit} {as : List ToolkitAction} {d : ℕ}
    (has : ∀ a ∈ as, concerns d a = true) (h : StepRuns.run toolkitStep s as = some t)
    {i : HandleSlot} (hi : i.owner ≠ some d) : t.handles.slot i = s.handles.slot i := by
  induction as generalizing s with
  | nil =>
    cases h
    rfl
  | cons a as ih =>
    obtain ⟨u, hu, hrun⟩ := StepRuns.run_cons_eq_some.mp h
    have hrest := ih (fun b hb => has b (List.mem_cons_of_mem a hb)) hrun
    exact hrest.trans (toolkitStep_frame (has a List.mem_cons_self) hu hi)

/-- As long as the toolkit is not initialised twice, only plain devices are taken off the list, and
the toolkit is de-initialised without a device, every handle is released with its device, none is
used afterwards, and adding and removing a device any number of times leaves exactly the handles
that were there before. -/
theorem handles_released {as : List ToolkitAction} {s : Toolkit}
    (hok : StepRuns.Along (fun s a => balancedStep s a = true) toolkitStep Toolkit.start as)
    (hrun : StepRuns.run toolkitStep Toolkit.start as = some s) :
    s.Released ∧ ∀ (d : ℕ) (cycles : List ToolkitAction) (t : Toolkit),
      (∀ a ∈ cycles, concerns d a = true) →
      StepRuns.Along (fun s a => balancedStep s a = true) toolkitStep s cycles →
      StepRuns.run toolkitStep s cycles = some t → d ∉ s.tCardList → d ∉ t.tCardList →
      t.handles.live = s.handles.live := by
  have hs : ToolkitInv s := StepRuns.along_invariant
    (fun _ _ _ hs hok h => toolkitStep_inv hs hok h) ToolkitInv.start hok hrun
  refine ⟨hs.released, ?_⟩
  intro d cycles t hcycles hok' hrun' hbefore hafter
  have ht : ToolkitInv t := StepRuns.along_invariant
    (fun _ _ _ hs hok h => toolkitStep_inv hs hok h) hs hok' hrun'
  -- the slots are the same, and so are the handles in them
  have hslot (i : HandleSlot) : t.handles.slot i = s.handles.slot i := by
    by_cases hi : i.owner = some d
    · rw [ht.empty hafter hi, hs.empty hbefore hi]
    · exact toolkit_run_frame hcycles hrun' hi
  funext n
  rw [Bool.eq_iff_iff, ht.balanced.owned, hs.balanced.owned]
  simp only [hslot]

/-- A device without ports, for which the mutexes cannot be created. -/
def plainAdd : AddSteps :=
  { fCreated := fun i => match i with
      | .pvSendMBXMutex _ => false
      | .pvRecvMBXMutex _ => false
      | _ => true
    lRet := netanaNoError
    ulPortCnt := 0
    fNewstatus := true
    changedBits := [⟨8, by decide⟩, ⟨9, by decide⟩] }

/-- A device with four ports, for which everything succeeds. -/
def fullAdd : AddSteps :=
  { fCreated := fun _ => true
    lRet := netanaNoError
    ulPortCnt := 4
    fNewstatus := true
    changedBits := [⟨8, by decide⟩, ⟨9, by decide⟩] }

/-- The plain device is added, restarted and removed. -/
theorem handles_released_plain : ∃ s t, StepRuns.run toolkitStep Toolkit.start
      [.init true] = some s ∧
    StepRuns.run toolkitStep s [.add 0 plainAdd, .restart 0 false 1 true plainAdd,
      .remove 0 false true 1 true] = some t ∧
    t.handles.live = s.handles.live := by
  obtain ⟨s, t, hfirst, hcycle, hcheck, hbefore, hafter⟩ : ∃ s t,
      StepRuns.run toolkitStep Toolkit.start [.init true] = some s ∧
      StepRuns.run toolkitStep s [.add 0 plainAdd, .restart 0 false 1 true plainAdd,
        .remove 0 false true 1 true] = some t ∧
      StepRuns.checkAlong balancedStep toolkitStep s [.add 0 plainAdd,
        .restart 0 false 1 true plainAdd, .remove 0 false true 1 true] = true ∧
      s.tCardList = [] ∧ t.tCardList = [] := ⟨_, _, rfl, rfl, by rfl, by rfl, by rfl⟩
  refine ⟨s, t, hfirst, hcycle, ?_⟩
  apply (handles_released (StepRuns.along_of_check (by rfl)) hfirst).2 0 _ t _
    (StepRuns.along_of_check hcheck) hcycle (by simp [hbefore]) (by simp [hafter])
  intro a ha
  simp only [List.mem_cons, List.not_mem_nil, or_false] at ha
  rcases ha with rfl | rfl | rfl
  · rfl
  · rfl
  · rfl

/-- After one card has been added and removed, its mailbox mutex still exists; a toolkit that is
de-initialised with a card on the list enters the lock that it has just deleted; and one that is
initialised again loses its lock. -/
theorem handles_leaked :
    (∃ s, StepRuns.run toolkitStep Toolkit.start
        [.init true, .add 0 fullAdd, .remove 0 false true 1 true] = some s ∧
      s.tCardList = [] ∧ s.handles.slot (.pvSendMBXMutex 0) = some 35 ∧
      s.handles.live 35 = true ∧ ¬ s.Released) ∧
    (∃ s, StepRuns.run toolkitStep Toolkit.start
        [.init true, .add 0 fullAdd, .deinit 1 true] = some s ∧
      s.handles.fault = true ∧ ¬ s.Released) ∧
    ∃ s, StepRuns.run toolkitStep Toolkit.start [.init true, .init true] = some s ∧
      s.handles.live 0 = true ∧ ¬ s.Released := by
  refine ⟨?_, ?_, ?_⟩
  · obtain ⟨s, hrun, hlist, hslot, hlive, hcard⟩ : ∃ s, StepRuns.run toolkitStep Toolkit.start
          [.init true, .add 0 fullAdd, .remove 0 false true 1 true] = some s ∧
        s.tCardList = [] ∧ s.handles.slot (.pvSendMBXMutex 0) = some 35 ∧
        s.handles.live 35 = true ∧ s.handles.slot .cardLock = some 0 :=
      ⟨_, rfl, by rfl, by rfl, by rfl, by rfl⟩
    refine ⟨s, hrun, hlist, hslot, hlive, ?_⟩
    rintro ⟨-, hheld⟩
    obtain ⟨i, hi, howner⟩ := hheld 35 hlive
    cases hi' : i.owner with
    | none =>
      have hicard : i = .cardLock := by
        cases i with
        | cardLock => rfl
        | _ => exact absurd hi' (by simp [HandleSlot.owner])
      rw [hicard, hcard] at hi
      exact absurd hi (by decide)
    | some d =>
      have hmem := howner d hi'
      rw [hlist] at hmem
      exact absurd hmem (by simp)
  · obtain ⟨s, hrun, hfault⟩ : ∃ s, StepRuns.run toolkitStep Toolkit.start
        [.init true, .add 0 fullAdd, .deinit 1 true] = some s ∧ s.handles.fault = true :=
      ⟨_, rfl, by rfl⟩
    refine ⟨s, hrun, hfault, ?_⟩
    rintro ⟨hsound, -⟩
    rw [hfault] at hsound
    exact absurd hsound (by decide)
  · obtain ⟨s, hrun, hlive, hslot⟩ : ∃ s, StepRuns.run toolkitStep Toolkit.start
          [.init true, .init true] = some s ∧ s.handles.live 0 = true ∧
        ∀ i, s.handles.slot i = some 0 → False :=
      ⟨_, rfl, by rfl, fun i hi => by cases i <;> cases hi⟩
    refine ⟨s, hrun, hlive, ?_⟩
    rintro ⟨-, hheld⟩
    obtain ⟨i, hi, -⟩ := hheld 0 hlive
    exact hslot i hi

end NetanaDriver
