import NetanaDriver.DeviceInfoFile
import NetanaDriver.TailQueue

/-! The list of cards as the linked queue `g_tCardList` that it is in memory: where
toolkit/netana_toolkit.c links a device in or takes it out, and the walks over the queue in
toolkit/netana_functions.c. -/
namespace NetanaDriver
open TailQueue SlotTable

abbrev CardQueue := Queue DevPtr

/-- More steps than a walk over the cards takes, so that a walk that takes them goes round. -/
def walkBound (ops : List CardOp) : ℕ := ops.length + 1

/-- The links after the macros that the toolkit has used. -/
def linkedCards (q : CardQueue) : List CardOp → Except Fault CardQueue
  | [] => .ok q.init
  | .insertTail p :: ops => (linkedCards q ops).map (Queue.stailqInsertTail p)
  | .remove p :: ops => (linkedCards q ops).bind (Queue.stailqRemove (walkBound ops) p)

/-- The loop of `netana_enum_device`: `while( (ulCardNr-- > 0) && (NULL != (ptDevice =
STAILQ_NEXT(ptDevice, tList) )) ) ;` -/
def walkCards (q : CardQueue) : ℕ → Option DevPtr → Except Fault (Option DevPtr)
  | 0, ptDevice => .ok ptDevice
  | _ + 1, none => .error .nullPointer
  | ulCardNr + 1, some p =>
    match q.next p with
    | none => .ok none
    | some d => walkCards q ulCardNr (some d)

/-- `netana_enum_device` over the links. -/
def linkedEnumDevice (ulFilter ulCardNr : BitVec 32) (s : Registry) (q : CardQueue) :
    Except Fault (Except (BitVec 32) (DevPtr × DeviceInformation)) :=
  if ulCardNr > s.ulCardCnt then .ok (.error netanaDeviceNotFound)
  else
    (walkCards q ulCardNr.toNat q.first).map fun ptDevice =>
      match ptDevice with
      | none => .error netanaDeviceNotFound
      | some p =>
        if classSelected (s.devices p).tSystemInfoBlock.usDeviceClass ulFilter then
          .ok (p, generateDeviceInformation (s.devices p))
        else .error netanaAccessDenied

/-- The search of `netana_open_device`, and of `netana_mngmt_exec_cmd` for a device to blink. -/
def linkedFindDevice (szDevice : List Char) (s : Registry) (q : CardQueue) :
    Except Fault (Option DevPtr) :=
  q.search (fun p => osStrnicmpEqual szDevice (s.devices p).szAliasName netanaMaxDevicenamesize)
    (walkBound s.cardOps) q.first

theorem walkCards_next {q : CardQueue} {l : List DevPtr} {p : DevPtr}
    (hseg : Segment q (.next p) l) (hstop : q.load (endLink (.next p) l) = none) {n : ℕ}
    (hn : n ≤ l.length + 1) : walkCards q n (some p) = .ok (p :: l)[n]? := by
  induction n generalizing p l with
  | zero => rfl
  | succ n ih =>
    cases l with
    | nil =>
      have hnext : q.next p = none := hstop
      obtain rfl : n = 0 := by simpa using hn
      rw [walkCards, hnext]
      rfl
    | cons d l =>
      have hnext : q.next p = some d := hseg.1
      rw [walkCards, hnext]
      exact ih hseg.2 hstop (by simpa using hn)

/-- The walk reaches the card with the number, or the end of the list. -/
theorem walkCards_represents {q : CardQueue} {l : List DevPtr} (h : Represents q l) {n : ℕ}
    (hn : n ≤ l.length) : walkCards q n q.first = .ok l[n]? := by
  have hstop : q.load (endLink .first l) = none := h.last ▸ h.stop
  cases l with
  | nil =>
    obtain rfl : n = 0 := by simpa using hn
    have hfirst : q.first = none := hstop
    rw [walkCards, hfirst]
    rfl
  | cons p l =>
    have hfirst : q.first = some p := h.segment.1
    rw [hfirst]
    exact walkCards_next h.segment.2 hstop hn

theorem RegistryInv.listed_lt {s : Registry} (hs : RegistryInv s) {p : DevPtr}
    (hp : p ∈ s.tCardList) : p < s.nextPtr := by
  by_contra hfresh
  exact hs.fresh (not_lt.mp hfresh) ((hs.listed p).mp hp).1

/-- The links stand for the list of cards. -/
structure Linked (q : CardQueue) (s : Registry) : Prop where
  length : s.tCardList.length ≤ s.cardOps.length
  cards : ∃ r, linkedCards q s.cardOps = .ok r ∧ Represents r s.tCardList

section Linked

variable {q : CardQueue} {s t : Registry} {p : DevPtr}

theorem Linked.init (q : CardQueue) (d : TkDevice) : Linked q (Registry.init d) :=
  ⟨le_refl 0, q.init, rfl, init_represents q⟩

theorem Linked.same (h : Linked q s) (hlist : t.tCardList = s.tCardList)
    (hops : t.cardOps = s.cardOps) : Linked q t := by
  refine ⟨?_, ?_⟩
  · rw [hlist, hops]
    exact h.length
  · rw [hlist, hops]
    exact h.cards

theorem Linked.deviceadd (h : Linked q s) (hp : p ∉ s.tCardList) (ulDevNo : ℕ) (c : AddChoice) :
    Linked q (netanaTkitDeviceadd p ulDevNo c s).1 := by
  obtain ⟨r, hr, hcards⟩ := h.cards
  unfold netanaTkitDeviceadd
  by_cases hadd : c.lRet = netanaNoError
  · rw [if_pos hadd]
    refine ⟨?_, r.stailqInsertTail p, ?_, hcards.insertTail hp⟩
    · show (s.tCardList ++ [p]).length ≤ s.cardOps.length + 1
      rw [List.length_append]
      exact Nat.succ_le_succ h.length
    · show (linkedCards q s.cardOps).map _ = _
      rw [hr]
      rfl
  · rw [if_neg hadd]
    exact ⟨h.length, r, hr, hcards⟩

theorem Linked.deviceremove (h : Linked q s) (hp : p ∈ s.tCardList)
    (fForceRemove fAcknowledged : Bool) :
    Linked q (netanaTkitDeviceremove p fForceRemove fAcknowledged s).1 := by
  unfold netanaTkitDeviceremove
  split
  · exact h
  · obtain ⟨r, hr, hcards⟩ := h.cards
    have hfuel : s.tCardList.length ≤ walkBound s.cardOps := h.length.trans (Nat.le_succ _)
    obtain ⟨r', hr', hremoved⟩ := hcards.remove hp hfuel
    refine ⟨?_, r', ?_, hremoved⟩
    · show (s.tCardList.erase p).length ≤ s.cardOps.length + 1
      exact (List.length_erase_le).trans (h.length.trans (Nat.le_succ _))
    · show (linkedCards q s.cardOps).bind _ = _
      rw [hr]
      exact hr'

theorem netanaCloseDevice_ops (hDev : Option DevPtr) (s : Registry) :
    (netanaCloseDevice hDev s).1.cardOps = s.cardOps := by
  cases hDev with
  | none => rfl
  | some p =>
    unfold netanaCloseDevice
    dsimp only
    split
    · rfl
    · rfl

theorem Linked.close (h : Linked q s) (hDev : Option DevPtr) :
    Linked q (netanaCloseDevice hDev s).1 :=
  h.same (netanaCloseDevice_same hDev s).list (netanaCloseDevice_ops hDev s)

theorem Linked.restart (h : Linked q s) (hp : p ∈ s.tCardList) (fAcknowledged : Bool)
    (c : AddChoice) : Linked q (netanaRestartDevice p fAcknowledged c s).1 := by
  have hremoved := h.deviceremove hp true fAcknowledged
  obtain ⟨r, -, hcards⟩ := h.cards
  -- the card comes off the queue first
  have hgone : p ∉ (netanaTkitDeviceremove p true fAcknowledged s).1.tCardList := by
    rw [netanaTkitDeviceremove_forced]
    exact fun hmem => (hcards.nodup.mem_erase_iff.mp hmem).1 rfl
  have hends {x : Registry × BitVec 32} (hx : Linked q x.1) : Linked q
      (if x.2 = netanaNoError then x else ((netanaCloseDevice (some p) x.1).1, x.2)).1 := by
    split
    · exact hx
    · exact hx.close _
  unfold netanaRestartDevice
  split
  · exact h
  · apply hends
    split
    · exact hremoved.deviceadd hgone _ c
    · exact hremoved

theorem Linked.identUpdate (h : Linked q s)
    (hp : (s.devices p).hdevice ≠ none → p ∈ s.tCardList) (c : IdentChoice) :
    Linked q (netanaIdentUpdate p c s).1 := by
  unfold netanaIdentUpdate
  by_cases hhandle : (s.devices p).hdevice = none
  · rw [if_pos hhandle]
    exact h
  rw [if_neg hhandle]
  have hset : Linked q (netanaSetDeviceIdent p s).1 := by
    unfold netanaSetDeviceIdent
    dsimp only
    split
    · exact h
    · exact h.same rfl rfl
  have hlist : p ∈ (netanaSetDeviceIdent p s).1.tCardList := by
    unfold netanaSetDeviceIdent
    dsimp only
    split
    · exact hp hhandle
    · exact hp hhandle
  have hrestarted := hset.restart hlist c.fAcknowledged c.add
  split
  · exact h
  split
  · exact h
  dsimp only
  split
  · split
    · exact hrestarted
    · exact hrestarted.same rfl rfl
  · exact hset

theorem Linked.register (h : Linked q s) (hnew : s.nextPtr ∉ s.tCardList) (c : RegisterChoice) :
    Linked q (netanaRegisterdevice c s).1 := by
  unfold netanaRegisterdevice
  split
  · exact h
  split
  · exact h
  dsimp only
  split
  · exact h.same rfl rfl
  cases alloc minorLimit s.netAnaIDR s.nextPtr with
  | none => exact h.same rfl rfl
  | some r =>
    obtain ⟨idr, minor⟩ := r
    dsimp only
    split
    · exact h.same rfl rfl
    split
    · exact h.same rfl rfl
    split
    · exact h.same rfl rfl
    let u : Registry := { Registry.set { s with nextPtr := s.nextPtr + 1 } s.nextPtr
      (c.device minor) with netAnaIDR := idr }
    have hu : Linked q u := h.same rfl rfl
    have hadded := hu.deviceadd hnew minor c.add
    split
    · rename_i hadd
      split
      · exact hadded.same rfl rfl
      · -- the card that has just come comes off again
        have hmem : s.nextPtr ∈ (netanaTkitDeviceadd s.nextPtr minor c.add u).1.tCardList := by
          unfold netanaTkitDeviceadd at hadd ⊢
          split
          · exact List.mem_append_right _ (List.mem_singleton_self _)
          · rename_i hfailed
            dsimp only at hadd
            rw [if_neg hfailed] at hadd
            exact absurd hadd hfailed
        exact (hadded.deviceremove hmem true c.fAcknowledged).same rfl rfl
    · exact hadded.same rfl rfl

theorem Linked.unregister (h : Linked q s)
    (hp : (s.devices p).addsucceded = true → p ∈ s.tCardList) (fAcknowledged : Bool) :
    Linked q (netanaUnregisterdevice p fAcknowledged s) := by
  unfold netanaUnregisterdevice
  dsimp only
  split
  · rename_i hadded
    exact (h.deviceremove (hp hadded) true fAcknowledged).same rfl rfl
  · exact h.same rfl rfl

theorem netanaOpen_ops (ulFilter : BitVec 32) (minor : ℕ) (s : Registry) :
    (s.netanaOpen ulFilter minor).1.cardOps = s.cardOps := by
  have hdropped {r : Registry × ℤ} (hr : r.1.cardOps = s.cardOps) :
      (if r.2 ≠ 0 then ({ r.1 with moduleRefs := r.1.moduleRefs - 1 }, r.2)
        else r : Registry × ℤ).1.cardOps = s.cardOps := by
    split
    · exact hr
    · exact hr
  unfold Registry.netanaOpen
  apply hdropped
  dsimp only
  cases find s.netAnaIDR minor with
  | none => rfl
  | some p =>
    dsimp only
    split
    · split
      · rfl
      · unfold netanaOpenDevice
        dsimp only
        cases s.tCardList.find? fun q => osStrnicmpEqual (s.devices p).szDeviceName
            (s.devices q).szAliasName netanaMaxDevicenamesize with
        | none => rfl
        | some q =>
          dsimp only
          split_ifs <;> rfl
    · rfl

end Linked

/-- What the registry and the links have in common between the operations. -/
structure LinkedInv (q : CardQueue) (s : Registry) : Prop where
  registry : RegistryInv s
  linked : Linked q s

theorem LinkedInv.step {q : CardQueue} {s t : Registry} {a : RegistryAction} (h : LinkedInv q s)
    (hok : unregistersClosed s a = true) (hstep : registryStep s a = some t) : LinkedInv q t := by
  refine ⟨registryStep_inv h.registry hok hstep, ?_⟩
  cases a with
  | register c =>
    cases hstep
    exact h.linked.register (fun hmem => lt_irrefl _ (h.registry.listed_lt hmem)) c
  | unregister p fAcknowledged =>
    obtain ⟨hp, hstep⟩ := Option.ite_none_right_eq_some.mp hstep
    cases hstep
    exact h.linked.unregister (fun hadded => (h.registry.listed p).mpr ⟨hp, hadded⟩) fAcknowledged
  | openFile ulFilter minor =>
    cases hstep
    exact h.linked.same (netanaOpen_same ulFilter minor s).list (netanaOpen_ops ulFilter minor s)
  | release p =>
    obtain ⟨-, hstep⟩ := Option.ite_none_right_eq_some.mp hstep
    cases hstep
    exact h.linked.same (netanaRelease_same p s).list (netanaCloseDevice_ops _ s)
  | identUpdate p c =>
    obtain ⟨hp, hstep⟩ := Option.ite_none_right_eq_some.mp hstep
    cases hstep
    refine h.linked.identUpdate (fun hhandle => ?_) c
    obtain ⟨-, -, hadded⟩ := (h.registry.device p hp).opened.resolve_left fun h => hhandle h.1
    exact (h.registry.listed p).mpr ⟨hp, hadded⟩
  | capture p fCaptureRunning =>
    obtain ⟨-, hstep⟩ := Option.ite_none_right_eq_some.mp hstep
    cases hstep
    exact h.linked.same rfl rfl

/-- What is enumerated along links that stand for the list. -/
theorem RegistryInv.enum {s : Registry} (hs : RegistryInv s) {q : CardQueue}
    (hq : Represents q s.tCardList) (ulFilter ulCardNr : BitVec 32) :
    linkedEnumDevice ulFilter ulCardNr s q =
      .ok (netanaEnumDevice ulFilter ulCardNr.toNat s) := by
  unfold linkedEnumDevice netanaEnumDevice
  rw [BitVec.ofNat_toNat, BitVec.setWidth_eq]
  by_cases hcount : ulCardNr > s.ulCardCnt
  · rw [if_pos hcount, if_pos hcount]
  · rw [if_neg hcount, if_neg hcount]
    have hlength : ulCardNr.toNat ≤ s.tCardList.length := by
      have hle : ulCardNr.toNat ≤ s.ulCardCnt.toNat := not_lt.mp hcount
      rw [hs.cards.count, BitVec.toNat_ofNat] at hle
      exact hle.trans (Nat.mod_le _ _)
    rw [walkCards_represents hq hlength]
    cases s.tCardList[ulCardNr.toNat]? with
    | none => rfl
    | some p => rfl

/-- In every run the links are sound: no removal runs into a null pointer, and what is found along
the links is what stands in the list. A device that is not in the list could not be taken out. -/
theorem linked_cards_agree {d : TkDevice} {as : List RegistryAction} {s : Registry} (q : CardQueue)
    (hclosed : StepRuns.Along (fun s a => unregistersClosed s a = true) registryStep
      (Registry.init d) as)
    (hrun : StepRuns.run registryStep (Registry.init d) as = some s) :
    ∃ r, linkedCards q s.cardOps = .ok r ∧
      (∀ ulFilter ulCardNr, linkedEnumDevice ulFilter ulCardNr s r =
        .ok (netanaEnumDevice ulFilter ulCardNr.toNat s)) ∧
      (∀ szDevice, linkedFindDevice szDevice s r = .ok (s.tCardList.find? fun p =>
        osStrnicmpEqual szDevice (s.devices p).szAliasName netanaMaxDevicenamesize)) ∧
      ∀ p ∉ s.tCardList, r.stailqRemove (walkBound s.cardOps) p = .error .nullPointer := by
  have hinv : LinkedInv q s := StepRuns.along_invariant (fun _ _ _ h hok hstep => h.step hok hstep)
    ⟨RegistryInv.init d, Linked.init q d⟩ hclosed hrun
  obtain ⟨hlength, r, hr, hcards⟩ := hinv.linked
  have hbound : s.tCardList.length < walkBound s.cardOps := Nat.lt_succ_of_le hlength
  refine ⟨r, hr, hinv.registry.enum hcards, fun szDevice => ?_, fun p hp => ?_⟩
  · exact hcards.search _ hbound
  · exact hcards.remove_absent hp hbound

/-- Three cards; the first is opened and restarted, the second is un-registered. -/
theorem linked_cards_agree_three : ∃ s r, StepRuns.run registryStep
      (Registry.init (cardRegistered.device 0))
      [.register cardRegistered, .register cardRegistered, .register cardRegistered,
        .openFile 0#32 0, .identUpdate 0 cardRestarted, .unregister 1 true] = some s ∧
    s.cardOps = [.remove 1, .insertTail 0, .remove 0, .insertTail 2, .insertTail 1, .insertTail 0] ∧
    linkedCards ⟨none, .first, fun _ => none, fun _ => .first⟩ s.cardOps = .ok r ∧
    s.tCardList = [2, 0] ∧ linkedEnumDevice 0#32 1#32 s r = .ok (netanaEnumDevice 0#32 1 s) ∧
    r.stailqRemove (walkBound s.cardOps) 1 = .error .nullPointer := by
  obtain ⟨s, hrun, hlist, hops⟩ : ∃ s, StepRuns.run registryStep
      (Registry.init (cardRegistered.device 0))
      [.register cardRegistered, .register cardRegistered, .register cardRegistered,
        .openFile 0#32 0, .identUpdate 0 cardRestarted, .unregister 1 true] = some s ∧
      s.tCardList = [2, 0] ∧ s.cardOps =
        [.remove 1, .insertTail 0, .remove 0, .insertTail 2, .insertTail 1, .insertTail 0] :=
    ⟨_, rfl, by rfl, by rfl⟩
  obtain ⟨r, hr, henum, -, habsent⟩ :=
    linked_cards_agree ⟨none, .first, fun _ => none, fun _ => .first⟩
      (StepRuns.along_of_check (by rfl)) hrun
  exact ⟨s, r, hrun, hops, hr, hlist, henum 0#32 1#32, habsent 1 (by simp [hlist])⟩

end NetanaDriver
