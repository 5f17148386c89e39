import NetanaDriver.CardQueue

/-! The device classes that a process has chosen (USER_Linux.c): one entry a process id in the
linked queue `g_tAppProcessList`, and what enumerating and opening devices make of it
(toolkit/netana_functions.c, netana_tk_interface.c). The source has no lock for the list: what is
shown here is about calls that do not overlap. -/
namespace NetanaDriver
open TailQueue SlotTable

/-- `APP_PROCESS_T`; the links are in the queue. -/
structure AppProcess where
  pid : ℕ
  ulDeviceClass : BitVec 32
  deriving DecidableEq, Repr

abbrev ProcPtr := ℕ

/-- `g_tAppProcessList` with its elements; `nextPtr` is where the next one is allocated. -/
structure AppProcesses where
  queue : Queue ProcPtr
  process : ProcPtr → AppProcess
  nextPtr : ProcPtr

/-- `~(NETANA_DEV_CLASS_NANL_500 | NETANA_DEV_CLASS_NSCP_100 | NETANA_DEV_CLASS_CIFX)`. -/
def ulInvMask : BitVec 32 :=
  ~~~(netanaDevClassNanl500 ||| netanaDevClassNscp100 ||| netanaDevClassCifx)

/-- The loop over the processes, up to the one that calls. -/
def AppProcesses.find (pid : ℕ) (s : AppProcesses) : Except Fault (Option ProcPtr) :=
  s.queue.search (fun p => (s.process p).pid == pid) (s.nextPtr + 1) s.queue.first

/-- `USER_SetDevClassFilter`, called by a thread of the process `pid`. -/
def userSetDevClassFilter (pid : ℕ) (fAllocated : Bool) (ulDeviceFilter : BitVec 32)
    (s : AppProcesses) : Except Fault (AppProcesses × BitVec 32) :=
  if ulDeviceFilter &&& ulInvMask ≠ 0#32 ∨ ulDeviceFilter = 0#32 then
    .ok (s, netanaInvalidParameter)
  else
    (s.find pid).map fun ptProcessInfo =>
      match ptProcessInfo with
      | some p =>
        let x := { s.process p with ulDeviceClass := ulDeviceFilter }
        ({ s with process := Function.update s.process p x }, netanaNoError)
      | none =>
        if fAllocated then
          ({ queue := s.queue.tailqInsertTail s.nextPtr
             process := Function.update s.process s.nextPtr ⟨pid, ulDeviceFilter⟩
             nextPtr := s.nextPtr + 1 }, netanaNoError)
        else (s, netanaFunctionFailed)

/-- `USER_GetDevClassFilter`. -/
def userGetDevClassFilter (pid : ℕ) (s : AppProcesses) : Except Fault (BitVec 32) :=
  (s.find pid).map fun ptProcessInfo =>
    match ptProcessInfo with
    | some p => (s.process p).ulDeviceClass
    | none => 0#32

/-- `USER_ClearDevClassFilter`. -/
def userClearDevClassFilter (pid : ℕ) (s : AppProcesses) : Except Fault AppProcesses :=
  (s.find pid).map fun ptProcessInfo =>
    match ptProcessInfo with
    | some p => { s with queue := s.queue.tailqRemove p }
    | none => s

/-- How `netana_enum_device` and `netana_open_device` get the classes for a device they have
found. -/
def callerFilter (pid : ℕ) (fAllocated : Bool) (s : AppProcesses) :
    Except Fault (AppProcesses × BitVec 32) :=
  (userGetDevClassFilter pid s).bind fun ulFilter =>
    if ulFilter = 0#32 then
      (userSetDevClassFilter pid fAllocated netanaDevClassNanl500 s).map fun r =>
        (r.1, netanaDevClassNanl500)
    else .ok (s, ulFilter)

/-- `netana_enum_device` finds a device. -/
def enumFinds (ulCardNr : BitVec 32) (s : Registry) : Bool :=
  !decide (ulCardNr > s.ulCardCnt) && (s.tCardList[ulCardNr.toNat]?).isSome

/-- An open gets as far as to a device that `netana_open_device` finds. -/
def openFinds (minor : ℕ) (s : Registry) : Bool :=
  match find s.netAnaIDR minor with
  | none => false
  | some p =>
    (s.devices p).addsucceded && (s.devices p).hdevice.isNone &&
      (s.tCardList.find? fun q => osStrnicmpEqual (s.devices p).szDeviceName
        (s.devices q).szAliasName netanaMaxDevicenamesize).isSome

/-- What a process can ask for: to choose classes, to read or forget its choice, to enumerate a
device and to open one. -/
inductive ProcessCall where
  | setClass (fAllocated : Bool) (ulDeviceFilter : BitVec 32)
  | getClass
  | clearClass
  | enumDevice (fAllocated : Bool) (ulCardNr : BitVec 32)
  | openFile (fAllocated : Bool) (minor : ℕ)
  deriving DecidableEq, Repr

inductive ProcessResult where
  | lRet (lRet : BitVec 32)
  | deviceClass (ulDeviceClass : BitVec 32)
  | cleared
  | device (r : Except (BitVec 32) (DevPtr × DeviceInformation))
  | opened (ret : ℤ)

/-- The devices, the choices of the processes, and the calls so far with their results. -/
structure FilterSystem where
  registry : Registry
  processes : AppProcesses
  calls : List (ℕ × ProcessCall × ProcessResult)

/-- A call of the process `pid`, from its beginning to its end. -/
def FilterSystem.call (pid : ℕ) (s : FilterSystem) :
    ProcessCall → Except Fault (Registry × AppProcesses × ProcessResult)
  | .setClass fAllocated ulDeviceFilter =>
    (userSetDevClassFilter pid fAllocated ulDeviceFilter s.processes).map fun r =>
      (s.registry, r.1, .lRet r.2)
  | .getClass =>
    (userGetDevClassFilter pid s.processes).map fun c => (s.registry, s.processes, .deviceClass c)
  | .clearClass =>
    (userClearDevClassFilter pid s.processes).map fun t => (s.registry, t, .cleared)
  | .enumDevice fAllocated ulCardNr =>
    if enumFinds ulCardNr s.registry then
      (callerFilter pid fAllocated s.processes).map fun r =>
        (s.registry, r.1, .device (netanaEnumDevice r.2 ulCardNr.toNat s.registry))
    else .ok (s.registry, s.processes, .device (.error netanaDeviceNotFound))
  | .openFile fAllocated minor =>
    if openFinds minor s.registry then
      (callerFilter pid fAllocated s.processes).map fun r =>
        let t := s.registry.netanaOpen r.2 minor
        (t.1, r.1, .opened t.2)
    else
      -- no filter is looked at
      let t := s.registry.netanaOpen 0#32 minor
      .ok (t.1, s.processes, .opened t.2)

inductive FilterAction where
  | process (pid : ℕ) (c : ProcessCall)
  -- anything that happens to the devices but for opening them
  | device (a : RegistryAction)

def RegistryAction.opens : RegistryAction → Bool
  | .openFile _ _ => true
  | _ => false

/-- One call or one operation, which ends before the next one begins; an operation that is not
possible changes nothing. The entry of a process stays when the process ends. -/
def filterStep (s : FilterSystem) : FilterAction → Except Fault FilterSystem
  | .process pid c =>
    (s.call pid c).map fun r =>
      { registry := r.1, processes := r.2.1, calls := s.calls ++ [(pid, c, r.2.2)] }
  | .device a =>
    if a.opens then .ok s
    else
      match registryStep s.registry a with
      | none => .ok s
      | some t => .ok { s with registry := t }

/-- After the module has been loaded. -/
def FilterSystem.init (d : TkDevice) (q : Queue ProcPtr) (process : ProcPtr → AppProcess) :
    FilterSystem :=
  { registry := Registry.init d
    processes := { queue := q.init, process := process, nextPtr := 0 }
    calls := [] }

/-- What the list of the processes is there for: the classes that each process has chosen, none
before it has. -/
abbrev Choices := ℕ → BitVec 32

def Choices.set (pid : ℕ) (fAllocated : Bool) (ulDeviceFilter : BitVec 32) (m : Choices) :
    Choices × BitVec 32 :=
  if ulDeviceFilter &&& ulInvMask ≠ 0#32 ∨ ulDeviceFilter = 0#32 then (m, netanaInvalidParameter)
  else if m pid = 0#32 ∧ fAllocated = false then (m, netanaFunctionFailed)
  else (Function.update m pid ulDeviceFilter, netanaNoError)

/-- The same calls on the choices. -/
def Choices.call (pid : ℕ) (s : Registry) (m : Choices) :
    ProcessCall → Registry × Choices × ProcessResult
  | .setClass fAllocated ulDeviceFilter =>
    let r := m.set pid fAllocated ulDeviceFilter
    (s, r.1, .lRet r.2)
  | .getClass => (s, m, .deviceClass (m pid))
  | .clearClass => (s, Function.update m pid 0#32, .cleared)
  | .enumDevice fAllocated ulCardNr =>
    (s, if enumFinds ulCardNr s ∧ m pid = 0#32 ∧ fAllocated then
        Function.update m pid netanaDevClassNanl500 else m,
      .device (netanaEnumDevice (m pid) ulCardNr.toNat s))
  | .openFile fAllocated minor =>
    let t := s.netanaOpen (m pid) minor
    (t.1, if openFinds minor s ∧ m pid = 0#32 ∧ fAllocated then
        Function.update m pid netanaDevClassNanl500 else m,
      .opened t.2)

/-- The devices, the choices and the calls. -/
structure ChoiceSystem where
  registry : Registry
  choices : Choices
  calls : List (ℕ × ProcessCall × ProcessResult)

def choiceStep (s : ChoiceSystem) : FilterAction → ChoiceSystem
  | .process pid c =>
    let r := Choices.call pid s.registry s.choices c
    { registry := r.1, choices := r.2.1, calls := s.calls ++ [(pid, c, r.2.2)] }
  | .device a =>
    if a.opens then s
    else
      match registryStep s.registry a with
      | none => s
      | some t => { s with registry := t }

/-- What a call of another process, or one that is refused, leaves of a choice. -/
def nextChoice (pid : ℕ) (c : BitVec 32) : ℕ × ProcessCall × ProcessResult → BitVec 32
  | (caller, .setClass _ ulDeviceFilter, .lRet lRet) =>
    if caller = pid ∧ lRet = netanaNoError then ulDeviceFilter else c
  | (caller, .clearClass, _) => if caller = pid then 0#32 else c
  | _ => c

/-- The classes that the process has asked for last, as the calls and their results tell. -/
def chosenClasses (pid : ℕ) (calls : List (ℕ × ProcessCall × ProcessResult)) : BitVec 32 :=
  calls.foldl (nextChoice pid) 0#32

theorem classSelected_default (usDeviceClass : BitVec 16) :
    classSelected usDeviceClass netanaDevClassNanl500 = classSelected usDeviceClass 0#32 := by
  simp [classSelected, netanaDevClassNanl500]

theorem enum_default (ulCardNr : ℕ) (s : Registry) :
    netanaEnumDevice netanaDevClassNanl500 ulCardNr s = netanaEnumDevice 0#32 ulCardNr s := by
  simp only [netanaEnumDevice, classSelected_default]

theorem enum_of_not_finds {ulCardNr : BitVec 32} {s : Registry}
    (h : enumFinds ulCardNr s = false) (ulFilter : BitVec 32) :
    netanaEnumDevice ulFilter ulCardNr.toNat s = .error netanaDeviceNotFound := by
  unfold netanaEnumDevice
  rw [BitVec.ofNat_toNat, BitVec.setWidth_eq]
  by_cases hcount : ulCardNr > s.ulCardCnt
  · rw [if_pos hcount]
  · rw [if_neg hcount]
    cases hcard : s.tCardList[ulCardNr.toNat]? with
    | none => rfl
    | some p => simp [enumFinds, hcount, hcard] at h

theorem open_default (minor : ℕ) (s : Registry) :
    s.netanaOpen netanaDevClassNanl500 minor = s.netanaOpen 0#32 minor := by
  simp only [Registry.netanaOpen, netanaOpenDevice, classSelected_default]

theorem open_of_not_finds {minor : ℕ} {s : Registry} (h : openFinds minor s = false)
    (ulFilter : BitVec 32) : s.netanaOpen ulFilter minor = s.netanaOpen 0#32 minor := by
  unfold Registry.netanaOpen
  dsimp only
  cases hfind : find s.netAnaIDR minor with
  | none => rfl
  | some p =>
    by_cases hadded : (s.devices p).addsucceded = true
    · by_cases hhandle : (s.devices p).hdevice.isSome = true
      · simp [hadded, hhandle]
      · have hnone : (s.devices p).hdevice.isNone = true := by simpa using hhandle
        have hsearch : (s.tCardList.find? fun q => osStrnicmpEqual (s.devices p).szDeviceName
            (s.devices q).szAliasName netanaMaxDevicenamesize) = none := by
          simpa [openFinds, hfind, hadded, hnone] using h
        simp [hadded, hhandle, netanaOpenDevice, hsearch]
    · simp [hadded]

/-- The processes of the list `l` have made these choices, and no other one has made any. -/
structure Keeps (s : AppProcesses) (m : Choices) (l : List ProcPtr) : Prop where
  queue : Doubly s.queue l
  allocated : ∀ p ∈ l, p < s.nextPtr
  apart : l.Pairwise fun p q => (s.process p).pid ≠ (s.process q).pid
  entry : ∀ p ∈ l, m (s.process p).pid = (s.process p).ulDeviceClass
  chosen : ∀ p ∈ l, (s.process p).ulDeviceClass ≠ 0#32
  absent : ∀ pid, (∀ p ∈ l, (s.process p).pid ≠ pid) → m pid = 0#32

variable {s : AppProcesses} {m : Choices} {l : List ProcPtr} {pid : ℕ}

theorem Keeps.length_lt (h : Keeps s m l) : l.length < s.nextPtr + 1 := by
  have hsubset : l ⊆ List.range s.nextPtr := fun p hp => List.mem_range.mpr (h.allocated p hp)
  have hlength := (h.queue.nodup.subperm hsubset).length_le
  rw [List.length_range] at hlength
  exact Nat.lt_succ_of_le hlength

/-- The search finds the entry of the process, or there is none. -/
theorem Keeps.find_cases (h : Keeps s m l) (pid : ℕ) :
    (∃ p ∈ l, (s.process p).pid = pid ∧ s.find pid = .ok (some p) ∧
        m pid = (s.process p).ulDeviceClass ∧ m pid ≠ 0#32) ∨
      (∀ p ∈ l, (s.process p).pid ≠ pid) ∧ s.find pid = .ok none ∧ m pid = 0#32 := by
  have hfind : s.find pid = .ok (l.find? fun p => (s.process p).pid == pid) :=
    h.queue.search _ h.length_lt
  cases hsearch : l.find? fun p => (s.process p).pid == pid with
  | none =>
    right
    have habsent : ∀ p ∈ l, (s.process p).pid ≠ pid := by
      intro p hp
      simpa using List.find?_eq_none.mp hsearch p hp
    exact ⟨habsent, hfind.trans (congrArg Except.ok hsearch), h.absent pid habsent⟩
  | some p =>
    left
    have hp : p ∈ l := List.mem_of_find?_eq_some hsearch
    have hpid : (s.process p).pid = pid := by simpa using List.find?_some hsearch
    have hclass : m pid = (s.process p).ulDeviceClass := hpid ▸ h.entry p hp
    exact ⟨p, hp, hpid, hfind.trans (congrArg Except.ok hsearch), hclass, hclass ▸ h.chosen p hp⟩

/-- An entry that is there gets another class. -/
theorem Keeps.replace (h : Keeps s m l) {p : ProcPtr} (hp : p ∈ l) {c : BitVec 32}
    (hc : c ≠ 0#32) :
    Keeps { s with process := Function.update s.process p ⟨(s.process p).pid, c⟩ }
      (Function.update m (s.process p).pid c) l := by
  let process := Function.update s.process p ⟨(s.process p).pid, c⟩
  have hself : process p = ⟨(s.process p).pid, c⟩ := Function.update_self _ _ _
  have hother (d : ProcPtr) (hd : d ≠ p) : process d = s.process d :=
    Function.update_of_ne hd _ _
  have hpid (d : ProcPtr) : (process d).pid = (s.process d).pid := by
    by_cases hd : d = p
    · rw [hd, hself]
    · rw [hother d hd]
  refine ⟨h.queue, h.allocated, ?_, ?_, ?_, ?_⟩
  · exact h.apart.imp fun {d e} hne => by rwa [hpid d, hpid e]
  · intro d hd
    change Function.update m (s.process p).pid c (process d).pid = (process d).ulDeviceClass
    rw [hpid]
    by_cases hdp : d = p
    · rw [hdp, Function.update_self, hself]
    · have hne : (s.process d).pid ≠ (s.process p).pid := by
        intro heq
        exact hdp (List.inj_on_of_nodup_map (List.pairwise_map.mpr h.apart) hd hp heq)
      rw [Function.update_of_ne hne, hother d hdp]
      exact h.entry d hd
  · intro d hd
    change (process d).ulDeviceClass ≠ 0#32
    by_cases hdp : d = p
    · rw [hdp, hself]
      exact hc
    · rw [hother d hdp]
      exact h.chosen d hd
  · intro pid hpids
    have hne : pid ≠ (s.process p).pid := fun heq => hpids p hp ((hpid p).trans heq.symm)
    rw [Function.update_of_ne hne]
    exact h.absent pid fun d hd => hpid d ▸ hpids d hd

/-- A process without an entry gets one. -/
theorem Keeps.insert (h : Keeps s m l) (hpid : ∀ p ∈ l, (s.process p).pid ≠ pid) {c : BitVec 32}
    (hc : c ≠ 0#32) :
    Keeps
      { queue := s.queue.tailqInsertTail s.nextPtr
        process := Function.update s.process s.nextPtr ⟨pid, c⟩
        nextPtr := s.nextPtr + 1 }
      (Function.update m pid c) (l ++ [s.nextPtr]) := by
  let process := Function.update s.process s.nextPtr ⟨pid, c⟩
  have hself : process s.nextPtr = ⟨pid, c⟩ := Function.update_self _ _ _
  have hold (p : ProcPtr) (hp : p ∈ l) : process p = s.process p :=
    Function.update_of_ne (h.allocated p hp).ne _ _
  have hnew : s.nextPtr ∉ l := fun hmem => lt_irrefl _ (h.allocated _ hmem)
  have hcases {p : ProcPtr} (hp : p ∈ l ++ [s.nextPtr]) : p ∈ l ∨ p = s.nextPtr :=
    (List.mem_append.mp hp).imp_right List.mem_singleton.mp
  refine ⟨h.queue.insertTail hnew, ?_, ?_, ?_, ?_, ?_⟩
  · intro p hp
    rcases hcases hp with hp | rfl
    · exact Nat.lt_succ_of_lt (h.allocated p hp)
    · exact Nat.lt_succ_self _
  · refine List.pairwise_append.mpr ⟨?_, List.pairwise_singleton _ _, ?_⟩
    · exact h.apart.imp_of_mem fun {p q} hp hq hne => by
        change (process p).pid ≠ (process q).pid
        rwa [hold p hp, hold q hq]
    · intro p hp q hq
      change (process p).pid ≠ (process q).pid
      rw [List.mem_singleton.mp hq, hold p hp, hself]
      exact hpid p hp
  · intro p hp
    change Function.update m pid c (process p).pid = (process p).ulDeviceClass
    rcases hcases hp with hp | rfl
    · rw [hold p hp, Function.update_of_ne (hpid p hp)]
      exact h.entry p hp
    · rw [hself, Function.update_self]
  · intro p hp
    change (process p).ulDeviceClass ≠ 0#32
    rcases hcases hp with hp | rfl
    · rw [hold p hp]
      exact h.chosen p hp
    · rw [hself]
      exact hc
  · intro g hg
    have hne : g ≠ pid := by
      have hlast : (process s.nextPtr).pid ≠ g := hg s.nextPtr (by simp)
      rw [hself] at hlast
      exact hlast.symm
    rw [Function.update_of_ne hne]
    apply h.absent
    intro p hp
    rw [← hold p hp]
    exact hg p (List.mem_append_left _ hp)

/-- The entry of a process goes. -/
theorem Keeps.remove (h : Keeps s m l) {p : ProcPtr} (hp : p ∈ l) :
    Keeps { s with queue := s.queue.tailqRemove p }
      (Function.update m (s.process p).pid 0#32) (l.erase p) := by
  have hmem {d : ProcPtr} (hd : d ∈ l.erase p) : d ≠ p ∧ d ∈ l :=
    (h.queue.nodup.mem_erase_iff).mp hd
  refine ⟨h.queue.remove hp, fun d hd => h.allocated d (hmem hd).2, ?_, ?_, ?_, ?_⟩
  · exact h.apart.sublist List.erase_sublist
  · intro d hd
    have hne : (s.process d).pid ≠ (s.process p).pid := by
      intro heq
      exact (hmem hd).1
        (List.inj_on_of_nodup_map (List.pairwise_map.mpr h.apart) (hmem hd).2 hp heq)
    rw [Function.update_of_ne hne]
    exact h.entry d (hmem hd).2
  · exact fun d hd => h.chosen d (hmem hd).2
  · intro pid hpids
    by_cases hpid : pid = (s.process p).pid
    · rw [hpid, Function.update_self]
    · rw [Function.update_of_ne hpid]
      apply h.absent
      intro d hd
      by_cases hdp : d = p
      · rw [hdp]
        exact fun heq => hpid heq.symm
      · exact hpids d (h.queue.nodup.mem_erase_iff.mpr ⟨hdp, hd⟩)

theorem Keeps.setClass (h : Keeps s m l) (pid : ℕ) (fAllocated : Bool)
    (ulDeviceFilter : BitVec 32) :
    ∃ t k, userSetDevClassFilter pid fAllocated ulDeviceFilter s =
        .ok (t, (m.set pid fAllocated ulDeviceFilter).2) ∧
      Keeps t (m.set pid fAllocated ulDeviceFilter).1 k := by
  unfold userSetDevClassFilter Choices.set
  by_cases hinvalid : ulDeviceFilter &&& ulInvMask ≠ 0#32 ∨ ulDeviceFilter = 0#32
  · rw [if_pos hinvalid, if_pos hinvalid]
    exact ⟨s, l, rfl, h⟩
  rw [if_neg hinvalid, if_neg hinvalid]
  have hne : ulDeviceFilter ≠ 0#32 := fun heq => hinvalid (Or.inr heq)
  rcases h.find_cases pid with ⟨p, hp, rfl, hfind, -, hchosen⟩ | ⟨habsent, hfind, hnone⟩
  · have hkeep : ¬ (m (s.process p).pid = 0#32 ∧ fAllocated = false) := fun h => hchosen h.1
    rw [hfind, if_neg hkeep]
    exact ⟨_, l, rfl, h.replace hp hne⟩
  · rw [hfind]
    cases fAllocated with
    | false =>
      simp only [hnone, true_and, if_true]
      exact ⟨s, l, rfl, h⟩
    | true =>
      simp only [reduceCtorEq, and_false, if_false]
      exact ⟨_, _, rfl, h.insert habsent hne⟩

theorem Keeps.getClass (h : Keeps s m l) (pid : ℕ) : userGetDevClassFilter pid s = .ok (m pid) := by
  unfold userGetDevClassFilter
  rcases h.find_cases pid with ⟨p, -, -, hfind, hclass, -⟩ | ⟨-, hfind, hnone⟩
  · rw [hfind, hclass]
    rfl
  · rw [hfind, hnone]
    rfl

theorem Keeps.clearClass (h : Keeps s m l) (pid : ℕ) :
    ∃ t k, userClearDevClassFilter pid s = .ok t ∧ Keeps t (Function.update m pid 0#32) k := by
  unfold userClearDevClassFilter
  rcases h.find_cases pid with ⟨p, hp, rfl, hfind, -, -⟩ | ⟨-, hfind, hnone⟩
  · rw [hfind]
    exact ⟨_, _, rfl, h.remove hp⟩
  · rw [hfind, ← hnone, Function.update_eq_self]
    exact ⟨s, l, rfl, h⟩

/-- A caller without a choice gets the default, which becomes its choice if there is memory. -/
theorem Keeps.callerFilter (h : Keeps s m l) (pid : ℕ) (fAllocated : Bool) :
    ∃ t k, callerFilter pid fAllocated s =
        .ok (t, if m pid = 0#32 then netanaDevClassNanl500 else m pid) ∧
      Keeps t (if m pid = 0#32 ∧ fAllocated then Function.update m pid netanaDevClassNanl500
        else m) k := by
  unfold NetanaDriver.callerFilter
  rw [h.getClass pid]
  by_cases hnone : m pid = 0#32
  · obtain ⟨t, k, hset, hk⟩ := h.setClass pid fAllocated netanaDevClassNanl500
    have hvalid :
        ¬ (netanaDevClassNanl500 &&& ulInvMask ≠ 0#32 ∨ netanaDevClassNanl500 = 0#32) := by
      decide
    refine ⟨t, k, ?_, ?_⟩
    · simp only [Except.bind, hnone, if_true, hset]
      rfl
    · rw [Choices.set, if_neg hvalid] at hk
      cases fAllocated with
      | false => simpa [hnone] using hk
      | true => simpa [hnone] using hk
  · refine ⟨s, l, ?_, ?_⟩
    · simp only [Except.bind, if_neg hnone]
    · rw [if_neg fun h => hnone h.1]
      exact h

/-- A call on the linked queue does what it does on the choices. -/
theorem Keeps.call {s : FilterSystem} (h : Keeps s.processes m l) (pid : ℕ) (c : ProcessCall) :
    ∃ t k, s.call pid c = .ok ((Choices.call pid s.registry m c).1, t,
        (Choices.call pid s.registry m c).2.2) ∧
      Keeps t (Choices.call pid s.registry m c).2.1 k := by
  cases c with
  | setClass fAllocated ulDeviceFilter =>
    obtain ⟨t, k, hset, hk⟩ := h.setClass pid fAllocated ulDeviceFilter
    refine ⟨t, k, ?_, hk⟩
    rw [FilterSystem.call, hset]
    rfl
  | getClass =>
    refine ⟨s.processes, l, ?_, h⟩
    rw [FilterSystem.call, h.getClass pid]
    rfl
  | clearClass =>
    obtain ⟨t, k, hclear, hk⟩ := h.clearClass pid
    refine ⟨t, k, ?_, hk⟩
    rw [FilterSystem.call, hclear]
    rfl
  | enumDevice fAllocated ulCardNr =>
    by_cases hfinds : enumFinds ulCardNr s.registry = true
    · obtain ⟨t, k, hfilter, hk⟩ := h.callerFilter pid fAllocated
      refine ⟨t, k, ?_, by simpa [Choices.call, hfinds] using hk⟩
      rw [FilterSystem.call, if_pos hfinds, hfilter]
      by_cases hnone : m pid = 0#32
      · simp [Except.map, Choices.call, hnone, enum_default]
      · simp [Except.map, Choices.call, hnone]
    · refine ⟨s.processes, l, ?_, by simpa [Choices.call, hfinds] using h⟩
      rw [FilterSystem.call, if_neg hfinds]
      simp [Choices.call, enum_of_not_finds (Bool.eq_false_iff.mpr hfinds)]
  | openFile fAllocated minor =>
    by_cases hfinds : openFinds minor s.registry = true
    · obtain ⟨t, k, hfilter, hk⟩ := h.callerFilter pid fAllocated
      refine ⟨t, k, ?_, by simpa [Choices.call, hfinds] using hk⟩
      rw [FilterSystem.call, if_pos hfinds, hfilter]
      by_cases hnone : m pid = 0#32
      · simp [Except.map, Choices.call, hnone, open_default]
      · simp [Except.map, Choices.call, hnone]
    · refine ⟨s.processes, l, ?_, by simpa [Choices.call, hfinds] using h⟩
      rw [FilterSystem.call, if_neg hfinds]
      simp [Choices.call, open_of_not_finds (Bool.eq_false_iff.mpr hfinds) (m pid)]

theorem filterStep_device (s : FilterSystem) (a : RegistryAction) :
    filterStep s (.device a) =
      if a.opens then .ok s
      else
        match registryStep s.registry a with
        | none => .ok s
        | some t => .ok { s with registry := t } := rfl

theorem choiceStep_device (s : ChoiceSystem) (a : RegistryAction) :
    choiceStep s (.device a) =
      if a.opens then s
      else
        match registryStep s.registry a with
        | none => s
        | some t => { s with registry := t } := rfl

/-- A run of the driver and the same run on the choices have come to this. -/
structure Refines (s : FilterSystem) (a : ChoiceSystem) : Prop where
  registry : s.registry = a.registry
  calls : s.calls = a.calls
  choices : ∃ l, Keeps s.processes a.choices l

theorem filterStep_refines {s : FilterSystem} {a : ChoiceSystem} (h : Refines s a)
    (act : FilterAction) : ∃ t, filterStep s act = .ok t ∧ Refines t (choiceStep a act) := by
  obtain ⟨hregistry, hcalls, l, hl⟩ := h
  cases act with
  | process pid c =>
    obtain ⟨t, k, hcall, hk⟩ := hl.call pid c
    rw [hregistry] at hcall hk
    refine ⟨_, by rw [filterStep, hcall]; rfl, ⟨rfl, ?_, k, hk⟩⟩
    rw [choiceStep, hcalls]
  | device act =>
    rw [filterStep_device, choiceStep_device, hregistry]
    by_cases hopens : act.opens = true
    · rw [if_pos hopens, if_pos hopens]
      exact ⟨s, rfl, hregistry, hcalls, l, hl⟩
    · rw [if_neg hopens, if_neg hopens]
      cases registryStep a.registry act with
      | none => exact ⟨s, rfl, hregistry, hcalls, l, hl⟩
      | some t => exact ⟨_, rfl, rfl, hcalls, l, hl⟩

theorem run_refines (as : List FilterAction) {s : FilterSystem} {a : ChoiceSystem}
    (h : Refines s a) :
    ∃ t, as.foldlM filterStep s = .ok t ∧ Refines t (as.foldl choiceStep a) := by
  induction as generalizing s a with
  | nil => exact ⟨s, rfl, h⟩
  | cons act as ih =>
    obtain ⟨t, ht, hnext⟩ := filterStep_refines h act
    obtain ⟨u, hu, hrun⟩ := ih hnext
    refine ⟨u, ?_, hrun⟩
    rw [List.foldlM_cons, ht]
    exact hu

def ChoiceSystem.init (d : TkDevice) : ChoiceSystem :=
  { registry := Registry.init d, choices := fun _ => 0#32, calls := [] }

theorem init_refines (d : TkDevice) (q : Queue ProcPtr) (process : ProcPtr → AppProcess) :
    Refines (FilterSystem.init d q process) (ChoiceSystem.init d) := by
  refine ⟨rfl, rfl, [], init_doubly q, ?_, List.Pairwise.nil, ?_, ?_, fun _ _ => rfl⟩
  · exact fun p hp => absurd hp List.not_mem_nil
  · exact fun p hp => absurd hp List.not_mem_nil
  · exact fun p hp => absurd hp List.not_mem_nil

/-- In every run of calls by any processes that do not overlap, the linked list of the processes
does what a choice for each process id does: no call runs into a bad link, and all results are the
same. -/
theorem process_list_is_choices (d : TkDevice) (q : Queue ProcPtr) (process : ProcPtr → AppProcess)
    (as : List FilterAction) :
    ∃ s, as.foldlM filterStep (FilterSystem.init d q process) = .ok s ∧
      s.registry = (as.foldl choiceStep (ChoiceSystem.init d)).registry ∧
      s.calls = (as.foldl choiceStep (ChoiceSystem.init d)).calls ∧
      ∀ pid, userGetDevClassFilter pid s.processes =
        .ok ((as.foldl choiceStep (ChoiceSystem.init d)).choices pid) := by
  obtain ⟨s, hs, hrefines⟩ := run_refines as (init_refines d q process)
  obtain ⟨l, hl⟩ := hrefines.choices
  exact ⟨s, hs, hrefines.registry, hrefines.calls, fun pid => hl.getClass pid⟩

/-- The choice of a process is what it has asked for last, or the default that it has been given
without having asked. -/
def ChoiceSystem.OwnChoices (a : ChoiceSystem) : Prop :=
  ∀ pid, a.choices pid = chosenClasses pid a.calls ∨
    chosenClasses pid a.calls = 0#32 ∧ a.choices pid = netanaDevClassNanl500

theorem chosenClasses_append (pid : ℕ) (calls : List (ℕ × ProcessCall × ProcessResult))
    (e : ℕ × ProcessCall × ProcessResult) :
    chosenClasses pid (calls ++ [e]) = nextChoice pid (chosenClasses pid calls) e := by
  rw [chosenClasses, List.foldl_append]
  rfl

/-- A device that is looked at for a process without a choice. -/
theorem given_default {m : Choices} {c : BitVec 32} {pid caller : ℕ} {fGiven : Prop}
    [Decidable fGiven] (h : m pid = c ∨ c = 0#32 ∧ m pid = netanaDevClassNanl500)
    (hgiven : fGiven → m caller = 0#32) :
    (if fGiven then Function.update m caller netanaDevClassNanl500 else m) pid = c ∨
      c = 0#32 ∧
        (if fGiven then Function.update m caller netanaDevClassNanl500 else m) pid =
          netanaDevClassNanl500 := by
  by_cases hif : fGiven
  · rw [if_pos hif]
    by_cases hpid : pid = caller
    · right
      subst hpid
      refine ⟨?_, Function.update_self _ _ _⟩
      rcases h with h | ⟨h, -⟩
      · rw [← h, hgiven hif]
      · exact h
    · rwa [Function.update_of_ne hpid]
  · rwa [if_neg hif]

theorem invalid_ne_no_error : netanaInvalidParameter ≠ netanaNoError := by decide

theorem failed_ne_no_error : netanaFunctionFailed ≠ netanaNoError := by decide

theorem choiceStep_own {a : ChoiceSystem} (h : a.OwnChoices) (act : FilterAction) :
    (choiceStep a act).OwnChoices := by
  intro pid
  cases act with
  | device act =>
    rw [choiceStep_device]
    by_cases hopens : act.opens = true
    · rw [if_pos hopens]
      exact h pid
    · rw [if_neg hopens]
      cases registryStep a.registry act with
      | none => exact h pid
      | some t => exact h pid
  | process caller c =>
    have hcalls : (choiceStep a (.process caller c)).calls =
      a.calls ++ [(caller, c, (Choices.call caller a.registry a.choices c).2.2)] := rfl
    have hchoices : (choiceStep a (.process caller c)).choices =
      (Choices.call caller a.registry a.choices c).2.1 := rfl
    rw [hcalls, hchoices, chosenClasses_append]
    cases c with
    | setClass fAllocated ulDeviceFilter =>
      change (a.choices.set caller fAllocated ulDeviceFilter).1 pid =
          (if caller = pid ∧ (a.choices.set caller fAllocated ulDeviceFilter).2 = netanaNoError then
            ulDeviceFilter else chosenClasses pid a.calls) ∨
        (if caller = pid ∧ (a.choices.set caller fAllocated ulDeviceFilter).2 = netanaNoError then
            ulDeviceFilter else chosenClasses pid a.calls) = 0#32 ∧
          (a.choices.set caller fAllocated ulDeviceFilter).1 pid = netanaDevClassNanl500
      unfold Choices.set
      by_cases hinvalid : ulDeviceFilter &&& ulInvMask ≠ 0#32 ∨ ulDeviceFilter = 0#32
      · rw [if_pos hinvalid, if_neg fun h => invalid_ne_no_error h.2]
        exact h pid
      rw [if_neg hinvalid]
      by_cases hmemory : a.choices caller = 0#32 ∧ fAllocated = false
      · rw [if_pos hmemory, if_neg fun h => failed_ne_no_error h.2]
        exact h pid
      rw [if_neg hmemory]
      by_cases hpid : caller = pid
      · left
        rw [if_pos ⟨hpid, rfl⟩, hpid]
        exact Function.update_self _ _ _
      · rw [if_neg fun h => hpid h.1]
        change Function.update a.choices caller ulDeviceFilter pid = _ ∨
          _ ∧ Function.update a.choices caller ulDeviceFilter pid = _
        rw [Function.update_of_ne (Ne.symm hpid)]
        exact h pid
    | getClass => exact h pid
    | clearClass =>
      change Function.update a.choices caller 0#32 pid =
          (if caller = pid then 0#32 else chosenClasses pid a.calls) ∨
        (if caller = pid then 0#32 else chosenClasses pid a.calls) = 0#32 ∧
          Function.update a.choices caller 0#32 pid = netanaDevClassNanl500
      by_cases hpid : caller = pid
      · left
        rw [if_pos hpid, hpid, Function.update_self]
      · rw [if_neg hpid, Function.update_of_ne (Ne.symm hpid)]
        exact h pid
    | enumDevice fAllocated ulCardNr => exact given_default (h pid) fun h => h.2.1
    | openFile fAllocated minor => exact given_default (h pid) fun h => h.2.1

theorem run_own (as : List FilterAction) {a : ChoiceSystem} (h : a.OwnChoices) :
    (as.foldl choiceStep a).OwnChoices := by
  induction as generalizing a with
  | nil => exact h
  | cons act as ih => exact ih (choiceStep_own h act)

/-- Whatever the processes have done before, one call after the other, which devices a process can
see and open depends on the last request under its process id alone: other processes, and the
default it may have been given, change nothing. -/
theorem devices_by_own_choice (d : TkDevice) (q : Queue ProcPtr) (process : ProcPtr → AppProcess)
    (as : List FilterAction) :
    ∃ s, as.foldlM filterStep (FilterSystem.init d q process) = .ok s ∧
      ∀ pid fAllocated,
        (∀ ulCardNr, ∃ t, s.call pid (.enumDevice fAllocated ulCardNr) =
          .ok (s.registry, t,
            .device (netanaEnumDevice (chosenClasses pid s.calls) ulCardNr.toNat s.registry))) ∧
        ∀ minor, ∃ t, s.call pid (.openFile fAllocated minor) =
          .ok ((s.registry.netanaOpen (chosenClasses pid s.calls) minor).1, t,
            .opened (s.registry.netanaOpen (chosenClasses pid s.calls) minor).2) := by
  obtain ⟨s, hs, hrefines⟩ := run_refines as (init_refines d q process)
  obtain ⟨l, hl⟩ := hrefines.choices
  refine ⟨s, hs, fun pid fAllocated => ?_⟩
  have hown := run_own as (a := ChoiceSystem.init d) (fun _ => Or.inl rfl) pid
  rw [← hrefines.calls] at hown
  refine ⟨fun ulCardNr => ?_, fun minor => ?_⟩
  · obtain ⟨t, -, hcall, -⟩ := hl.call pid (.enumDevice fAllocated ulCardNr)
    refine ⟨t, hcall.trans ?_⟩
    rcases hown with hown | ⟨hzero, hdefault⟩
    · rw [← hown]
      rfl
    · rw [hzero, ← enum_default, ← hdefault]
      rfl
  · obtain ⟨t, -, hcall, -⟩ := hl.call pid (.openFile fAllocated minor)
    refine ⟨t, hcall.trans ?_⟩
    rcases hown with hown | ⟨hzero, hdefault⟩
    · rw [← hown]
      rfl
    · rw [hzero, ← open_default, ← hdefault]
      rfl

end NetanaDriver
