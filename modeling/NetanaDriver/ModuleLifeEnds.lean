import NetanaDriver.DeviceInfoFile
import NetanaDriver.ModuleLife

/-! How registration, the probes and the removals can end, and what they give back. -/
namespace NetanaDriver
open StepRuns SlotTable

namespace DriverModule

variable {s t : DriverModule}

theorem release_eq {r : Resource} (l : ResourceLedger.Ledger Resource) (h : s.held = {r} + l) :
    s.release r = .ok { s with held := l } := by
  rw [release, h, ResourceLedger.release_add]

/-- What has been taken last is the first that is given back. -/
theorem release_acquire (r : Resource) (s : DriverModule) : (s.acquire r).release r = .ok s :=
  release_eq s.held rfl

theorem held_acquire (r : Resource) (s : DriverModule) : (s.acquire r).held = {r} + s.held := rfl

/-- What there is once for all devices. -/
def classHolds : ResourceLedger.Ledger Resource := {.chrdev} + {.netanaClass} + {.deviceClass}

/-- The module after `init_netana_class` has been successful. -/
def withClass (s : DriverModule) : DriverModule :=
  match s.netanaClass with
  | some kref => { s with netanaClass := some (kref + 1) }
  | none => { s with netanaClass := some 1, held := classHolds + {.cardLock} + s.held }

/-- The lock that stays when the class is destroyed again. -/
def lost (s : DriverModule) : ResourceLedger.Ledger Resource :=
  if s.netanaClass = none then {.cardLock} else 0

end DriverModule

def RegistrationChoice.classReady (c : RegistrationChoice) (s : DriverModule) : Bool :=
  s.netanaClass.isSome ||
    (c.fChrdevRegistered && c.fClassAllocated && c.fClassCreated && c.fToolkitReady)

namespace DriverModule

variable {s t : DriverModule}

theorem initNetanaClass_eq (c : RegistrationChoice) (s : DriverModule) :
    s.initNetanaClass c =
      .ok (if c.classReady s then (s.withClass, true) else (s, false)) := by
  unfold initNetanaClass RegistrationChoice.classReady withClass
  cases hclass : s.netanaClass with
  | some kref => rfl
  | none =>
    cases c.fChrdevRegistered with
    | false => rfl
    | true =>
    cases c.fClassAllocated with
    | false => simp [errKzalloc, release_acquire, bind, Except.bind, pure, Except.pure]
    | true =>
    cases c.fClassCreated with
    | false =>
      simp [errCreateClass, errKzalloc, release_acquire, bind, Except.bind, pure, Except.pure]
    | true =>
    cases c.fToolkitReady with
    | false =>
      simp [errCreateClass, errKzalloc, release_acquire, bind, Except.bind, pure, Except.pure]
    | true =>
      have hheld : ((((s.acquire .chrdev).acquire .netanaClass).acquire .deviceClass).acquire
          .cardLock).held = classHolds + {.cardLock} + s.held := by
        simp only [held_acquire, classHolds]
        abel
      simp [acquire] at hheld ⊢
      exact hheld

/-- The class is destroyed with the last device; its lock stays. -/
theorem netanaClassdestroy_last {l : ResourceLedger.Ledger Resource}
    (hclass : t.netanaClass = some 1) (hheld : t.held = classHolds + l) :
    t.netanaClassdestroy = .ok { t with netanaClass := none, held := l } := by
  have hfirst : t.held = {.deviceClass} + ({.netanaClass} + ({.chrdev} + l)) := by
    rw [hheld, classHolds]
    abel
  rw [netanaClassdestroy, hclass]
  simp only [if_true]
  rw [release_eq _ hfirst]
  simp only [bind, Except.bind]
  rw [release_eq ({.chrdev} + l) rfl]
  simp only
  rw [release_eq l rfl]
  rfl

theorem netanaClassdestroy_other {kref : ℕ} (hclass : t.netanaClass = some (kref + 2)) :
    t.netanaClassdestroy = .ok { t with netanaClass := some (kref + 1) } := by
  rw [netanaClassdestroy, hclass]
  exact if_neg (by omega)

/-- The module `t` without what `init_netana_class` has taken in `s`. -/
def undone (s t : DriverModule) : DriverModule :=
  { t with netanaClass := s.netanaClass, held := s.lost + s.held }

/-- What registration holds on top of the class. -/
def Holding (s t : DriverModule) (l : ResourceLedger.Ledger Resource) : Prop :=
  t.netanaClass = s.withClass.netanaClass ∧ t.held = l + s.withClass.held

theorem Holding.release {r : Resource} {l : ResourceLedger.Ledger Resource}
    (h : s.Holding t ({r} + l)) :
    t.release r = .ok { t with held := l + s.withClass.held } :=
  release_eq _ (h.2.trans (add_assoc _ _ _))

theorem Holding.rest {l : ResourceLedger.Ledger Resource} (h : s.Holding t l)
    (l' : ResourceLedger.Ledger Resource) :
    s.Holding { t with held := l' + s.withClass.held } l' := ⟨h.1, rfl⟩

theorem Holding.acquire {l : ResourceLedger.Ledger Resource} (h : s.Holding t l) (r : Resource) :
    s.Holding (t.acquire r) ({r} + l) :=
  ⟨h.1, by rw [held_acquire, h.2, ← add_assoc]⟩

theorem errDevmem_eq (hkref : s.netanaClass ≠ some 0) (h : s.Holding t 0) (ret : ℤ) :
    t.errDevmem ret = .ok (s.undone t, ret, none) := by
  obtain ⟨hclass, hheld⟩ := h
  rw [zero_add] at hheld
  have hdestroy : t.netanaClassdestroy = .ok (s.undone t) := by
    unfold withClass at hclass hheld
    unfold undone lost
    cases hs : s.netanaClass with
    | none =>
      rw [hs] at hclass hheld
      rw [if_pos rfl, netanaClassdestroy_last hclass (hheld.trans (add_assoc _ _ _))]
    | some kref =>
      rw [hs] at hclass hheld hkref
      obtain ⟨kref, rfl⟩ : ∃ k, kref = k + 1 := by
        refine ⟨kref - 1, ?_⟩
        have hne : kref ≠ 0 := fun h => hkref (congrArg some h)
        omega
      rw [if_neg (Option.some_ne_none _), zero_add, netanaClassdestroy_other hclass]
      have hheld' : t.held = s.held := hheld
      rw [← hheld']
  rw [errDevmem, hdestroy]
  rfl

section Labels

variable {p : DevPtr} {minor : ℕ} {l : ResourceLedger.Ledger Resource}

theorem errGetMinor_eq (hkref : s.netanaClass ≠ some 0) (h : s.Holding t {.tkdevice p}) (ret : ℤ) :
    t.errGetMinor p ret = .ok (s.undone t, ret, none) := by
  have h' : s.Holding t ({.tkdevice p} + 0) := by rwa [add_zero]
  rw [errGetMinor, h'.release]
  exact errDevmem_eq hkref (h.rest 0) ret

theorem errCreateDevice_eq (hkref : s.netanaClass ≠ some 0) (h : s.Holding t {.tkdevice p})
    (ret : ℤ) :
    t.errCreateDevice p minor ret = .ok (s.undone (t.netanaFreeminor minor), ret, none) :=
  errGetMinor_eq hkref (t := t.netanaFreeminor minor) h ret

theorem errorDma_eq (hkref : s.netanaClass ≠ some 0)
    (h : s.Holding t ({.deviceNode minor} + {.tkdevice p})) (ret : ℤ) :
    t.errorDma p minor ret = .ok (s.undone (t.netanaFreeminor minor), ret, none) := by
  rw [errorDma, h.release]
  exact errCreateDevice_eq hkref (h.rest _) ret

theorem errRegDsrThread_eq (hkref : s.netanaClass ≠ some 0)
    (h : s.Holding t ({.dma p} + ({.deviceNode minor} + {.tkdevice p}))) (ret : ℤ) :
    t.errRegDsrThread p minor ret = .ok (s.undone (t.netanaFreeminor minor), ret, none) := by
  rw [errRegDsrThread, h.release]
  exact errorDma_eq hkref (h.rest _) ret

/-- What `dsrthread` stands for. -/
def threadHolds (p : DevPtr) (dsrthread : KthreadResult) : ResourceLedger.Ledger Resource :=
  if dsrthread = .thread then {.dsrthread p} else 0

theorem errAddToToolkit_eq (hkref : s.netanaClass ≠ some 0) {dsrthread : KthreadResult}
    (h : s.Holding t (threadHolds p dsrthread +
      ({.dma p} + ({.deviceNode minor} + {.tkdevice p})))) (ret : ℤ) :
    t.errAddToToolkit p minor dsrthread ret =
      if dsrthread = .error then .error .errorPointer
      else .ok (s.undone (t.netanaFreeminor minor), ret, none) := by
  cases dsrthread with
  | null =>
    have h' : s.Holding t ({.dma p} + ({.deviceNode minor} + {.tkdevice p})) := by
      simpa [threadHolds] using h
    exact errRegDsrThread_eq hkref h' ret
  | thread =>
    rw [errAddToToolkit, stopDsrThread, h.release]
    exact errRegDsrThread_eq hkref (h.rest _) ret
  | error => rfl

end Labels

@[simp] theorem withClass_registry (s : DriverModule) : s.withClass.registry = s.registry := by
  unfold withClass
  cases s.netanaClass with
  | none => rfl
  | some kref => rfl

theorem undone_withClass (registry : Registry) (held : ResourceLedger.Ledger Resource) :
    s.undone { s.withClass with registry := registry, held := held } =
      { s with registry := registry, held := s.lost + s.held } := by
  unfold undone withClass
  cases s.netanaClass with
  | none => rfl
  | some kref => rfl

end DriverModule

/-- What a registered device holds. -/
def NetanaInfo.holds (info : NetanaInfo) : ResourceLedger.Ledger Resource :=
  {.sysfs info.tkdevice} + (DriverModule.threadHolds info.tkdevice info.dsrthread +
    ({.dma info.tkdevice} + ({.deviceNode info.minor} + {.tkdevice info.tkdevice})))

/-- The registry from `device_create` on. -/
def registerTail (c : RegisterChoice) (p : DevPtr) (minor : ℕ) (s : Registry) : Registry × ℤ :=
  let freeminor (s : Registry) : Registry :=
    { s with netAnaIDR := remove s.netAnaIDR minor }
  if c.fDeviceCreated = false then (freeminor s, 1)
  else if c.fDmaCreated = false then (freeminor s, -enomem)
  else if c.fDsrThreadStarted = false then (freeminor s, -enomem)
  else
    let r := netanaTkitDeviceadd p minor c.add s
    if r.2 = netanaNoError then
      if c.fSysfsCreated then
        (r.1.set p { r.1.devices p with addsucceded := true }, 0)
      else (freeminor (netanaTkitDeviceremove p true c.fAcknowledged r.1).1, -enomem)
    else (freeminor r.1, r.2.toInt)

theorem registerdevice_tail {c : RegisterChoice} {s : Registry} {idr : Table DevPtr} {minor : ℕ}
    (hready : c.fClassReady = true) (hmemory : c.fTkdeviceAllocated = true)
    (hidr : c.fIdrAllocated = true)
    (halloc : alloc minorLimit s.netAnaIDR s.nextPtr = some (idr, minor)) :
    netanaRegisterdevice c s = registerTail c s.nextPtr minor
      { Registry.set { s with nextPtr := s.nextPtr + 1 } s.nextPtr (c.device minor) with
        netAnaIDR := idr } := by
  rw [netanaRegisterdevice, if_neg (by simp [hready]), if_neg (by simp [hmemory])]
  simp only [hidr, Bool.true_eq_false, if_false, halloc]
  rfl

namespace RegistrationChoice

/-- What the registry sees of it: only a null pointer would be no thread. -/
def choice (c : RegistrationChoice) (fReady : Bool) : RegisterChoice :=
  { c.register with
    fClassReady := fReady
    fDsrThreadStarted := c.dsrthread ≠ .null }

/-- There is an error pointer instead of a thread, and the registration has to go back. -/
def stopsTail (c : RegistrationChoice) : Bool :=
  c.dsrthread = .error && c.register.fDeviceCreated && c.register.fDmaCreated &&
    (c.register.add.lRet ≠ netanaNoError || !c.register.fSysfsCreated)

def stops (c : RegistrationChoice) (s : DriverModule) : Bool :=
  c.classReady s && c.register.fTkdeviceAllocated && c.register.fIdrAllocated &&
    (alloc minorLimit s.registry.netAnaIDR s.registry.nextPtr).isSome && c.stopsTail

/-- How `netana_registerdevice` can end from `device_create` on, in the module `t`. -/
inductive TailEnds (c : RegistrationChoice) (p : DevPtr) (minor : ℕ) (s t : DriverModule) :
    Except ModuleFault Registration → Prop where
  | stopped (h : c.stopsTail = true) : TailEnds c p minor s t (.error .errorPointer)
  | failed (h : c.stopsTail = false) (registry : Registry) (ret : ℤ)
      (htail : registerTail (c.choice true) p minor t.registry = (registry, ret)) (hne : ret ≠ 0) :
      TailEnds c p minor s t (.ok (s.undone { t with registry := registry }, ret, none))
  | registered (h : c.stopsTail = false) (registry : Registry) (hthread : c.dsrthread ≠ .null)
      (htail : registerTail (c.choice true) p minor t.registry = (registry, 0)) :
      TailEnds c p minor s t (.ok ({ t with
        registry := registry
        held := NetanaInfo.holds ⟨minor, p, c.dsrthread⟩ + s.withClass.held }, 0,
        some ⟨minor, p, c.dsrthread⟩))

end RegistrationChoice

namespace DriverModule

variable {s t : DriverModule} {p : DevPtr} {minor : ℕ}

theorem deviceadd_ret (p : DevPtr) (ulDevNo : ℕ) (c : AddChoice) (s : Registry) :
    (netanaTkitDeviceadd p ulDevNo c s).2 = c.lRet := by
  unfold netanaTkitDeviceadd
  split_ifs <;> rfl

theorem toInt_ne_zero {lRet : BitVec 32} (h : lRet ≠ netanaNoError) : lRet.toInt ≠ 0 := by
  intro hzero
  apply h
  apply BitVec.eq_of_toInt_eq
  rw [hzero]
  rfl

/-- A device that has been added goes back as far as the thread lets it. -/
theorem errAddToToolkit_ends {c : RegistrationChoice} (hkref : s.netanaClass ≠ some 0)
    (hcreated : c.register.fDeviceCreated = true) (hdma : c.register.fDmaCreated = true)
    (hfails : c.register.add.lRet ≠ netanaNoError ∨ c.register.fSysfsCreated = false)
    (h : s.Holding t (threadHolds p c.dsrthread +
      ({.dma p} + ({.deviceNode minor} + {.tkdevice p})))) {registry : Registry} {ret : ℤ}
    (htail : registerTail (c.choice true) p minor t.registry =
      ({ registry with netAnaIDR := remove registry.netAnaIDR minor }, ret)) (hne : ret ≠ 0) :
    c.TailEnds p minor s t
      ({ t with registry := registry }.errAddToToolkit p minor c.dsrthread ret) := by
  rw [errAddToToolkit_eq hkref (t := { t with registry := registry }) h]
  by_cases herror : c.dsrthread = .error
  · rw [if_pos herror]
    apply RegistrationChoice.TailEnds.stopped
    simpa [RegistrationChoice.stopsTail, herror, hcreated, hdma] using hfails
  · rw [if_neg herror]
    apply RegistrationChoice.TailEnds.failed _ _ _ htail hne
    simp [RegistrationChoice.stopsTail, herror]

theorem addToToolkit_ends {c : RegistrationChoice} (hkref : s.netanaClass ≠ some 0)
    (hcreated : c.register.fDeviceCreated = true) (hdma : c.register.fDmaCreated = true)
    (hthread : c.dsrthread ≠ .null) (h : s.Holding t (threadHolds p c.dsrthread +
      ({.dma p} + ({.deviceNode minor} + {.tkdevice p})))) :
    c.TailEnds p minor s t (t.addToToolkit c p minor) := by
  let added := netanaTkitDeviceadd p minor c.register.add t.registry
  have hret : added.2 = c.register.add.lRet := deviceadd_ret p minor c.register.add t.registry
  have htail : registerTail (c.choice true) p minor t.registry =
      if added.2 = netanaNoError then
        if c.register.fSysfsCreated then
          (added.1.set p { added.1.devices p with addsucceded := true }, 0)
        else
          let removed := (netanaTkitDeviceremove p true c.register.fAcknowledged added.1).1
          ({ removed with netAnaIDR := remove removed.netAnaIDR minor }, -enomem)
      else ({ added.1 with netAnaIDR := remove added.1.netAnaIDR minor }, added.2.toInt) := by
    simp only [registerTail, RegistrationChoice.choice, hcreated, hdma, hthread, ne_eq,
      not_false_eq_true, decide_true, Bool.true_eq_false, if_false, added]
  unfold addToToolkit
  by_cases hadd : added.2 = netanaNoError
  · rw [if_neg (by simpa using hadd)]
    rw [if_pos hadd] at htail
    cases hsysfs : c.register.fSysfsCreated with
    | false =>
      rw [if_pos rfl]
      rw [hsysfs, if_neg Bool.false_ne_true] at htail
      exact errAddToToolkit_ends hkref hcreated hdma (Or.inr hsysfs) h htail (by decide)
    | true =>
      rw [if_neg (by decide)]
      rw [hsysfs, if_pos rfl] at htail
      have hstops : c.stopsTail = false := by
        have hlRet : c.register.add.lRet = netanaNoError := hret.symm.trans hadd
        simp [RegistrationChoice.stopsTail, hsysfs, hlRet]
      have hheld : {.sysfs p} + t.held =
          NetanaInfo.holds ⟨minor, p, c.dsrthread⟩ + s.withClass.held := by
        rw [h.2, ← add_assoc]
        rfl
      have hend := RegistrationChoice.TailEnds.registered (s := s) hstops _ hthread htail
      rw [← hheld] at hend
      exact hend
  · rw [if_pos hadd]
    rw [if_neg hadd] at htail
    exact errAddToToolkit_ends hkref hcreated hdma (Or.inl (hret ▸ hadd)) h htail
      (toInt_ne_zero hadd)

theorem createDevice_ends (c : RegistrationChoice) (hkref : s.netanaClass ≠ some 0)
    (h : s.Holding t {.tkdevice p}) : c.TailEnds p minor s t (t.createDevice c p minor) := by
  have hfreed : t.netanaFreeminor minor = { t with registry :=
      { t.registry with netAnaIDR := remove t.registry.netAnaIDR minor } } := rfl
  unfold createDevice
  cases hcreated : c.register.fDeviceCreated with
  | false =>
    rw [if_pos rfl, errCreateDevice_eq hkref h]
    apply RegistrationChoice.TailEnds.failed
    · simp [RegistrationChoice.stopsTail, hcreated]
    · simp only [registerTail, RegistrationChoice.choice, hcreated, if_true]
    · decide
  | true =>
  rw [if_neg (by decide)]
  have hnode := h.acquire (.deviceNode minor)
  cases hdma : c.register.fDmaCreated with
  | false =>
    dsimp only
    rw [if_pos rfl, errorDma_eq hkref hnode]
    refine RegistrationChoice.TailEnds.failed ?_
      { t.registry with netAnaIDR := remove t.registry.netAnaIDR minor } _ ?_ ?_
    · simp [RegistrationChoice.stopsTail, hdma]
    · simp [registerTail, RegistrationChoice.choice, hcreated, hdma]
    · decide
  | true =>
  dsimp only
  rw [if_neg (by decide)]
  have hbuffers := hnode.acquire (.dma p)
  -- what is held does not matter for the ends
  have hends {r : Except ModuleFault Registration} {l : ResourceLedger.Ledger Resource}
      (hr : c.TailEnds p minor s { t with held := l } r) : c.TailEnds p minor s t r := by
    cases hr with
    | stopped h => exact .stopped h
    | failed h registry ret htail hne => exact .failed h registry ret htail hne
    | registered h registry hthread htail => exact .registered h registry hthread htail
  cases hthread : c.dsrthread with
  | null =>
    dsimp only
    rw [errRegDsrThread_eq hkref hbuffers]
    refine RegistrationChoice.TailEnds.failed ?_
      { t.registry with netAnaIDR := remove t.registry.netAnaIDR minor } _ ?_ ?_
    · simp [RegistrationChoice.stopsTail, hthread]
    · simp [registerTail, RegistrationChoice.choice, hcreated, hdma, hthread]
    · decide
  | thread =>
    dsimp only
    have hrunning := hbuffers.acquire (.dsrthread p)
    apply hends
    apply addToToolkit_ends hkref hcreated hdma
    · simp [hthread]
    · rw [hthread]
      exact hrunning
  | error =>
    dsimp only
    apply hends
    apply addToToolkit_ends hkref hcreated hdma
    · simp [hthread]
    · rw [hthread]
      have hnothing : threadHolds p .error = 0 := rfl
      rw [hnothing, zero_add]
      exact hbuffers

end DriverModule

/-- The registry after the registration, with the value that is returned. -/
def RegistrationChoice.registered (c : RegistrationChoice) (s : DriverModule) : Registry × ℤ :=
  netanaRegisterdevice (c.choice (c.classReady s)) s.registry

/-- How `netana_registerdevice` can end. -/
inductive RegistrationChoice.Ends (c : RegistrationChoice) (s : DriverModule) :
    Except ModuleFault Registration → Prop where
  | stopped (h : c.stops s = true) : Ends c s (.error .errorPointer)
  | failed (h : c.stops s = false) (hne : (c.registered s).2 ≠ 0) :
      Ends c s (.ok ({ s with
        registry := (c.registered s).1
        held := (if c.classReady s then s.lost else 0) + s.held }, (c.registered s).2, none))
  | registered (h : c.stops s = false) (hready : c.classReady s = true)
      (hthread : c.dsrthread ≠ .null) (hret : (c.registered s).2 = 0) (minor : ℕ)
      (hminor : ∃ idr, alloc minorLimit s.registry.netAnaIDR s.registry.nextPtr =
        some (idr, minor)) :
      Ends c s (.ok ({ s.withClass with
        registry := (c.registered s).1
        held := NetanaInfo.holds ⟨minor, s.registry.nextPtr, c.dsrthread⟩ + s.withClass.held }, 0,
        some ⟨minor, s.registry.nextPtr, c.dsrthread⟩))

namespace DriverModule

variable {s t : DriverModule}

theorem allocateDevice_ends {c : RegistrationChoice} (hkref : s.netanaClass ≠ some 0)
    (hready : c.classReady s = true) : c.Ends s (s.withClass.allocateDevice c) := by
  let p := s.registry.nextPtr
  -- behind every label the module is as before, but for the lock
  have hback {u : DriverModule} {ret : ℤ} (hcards : u.cards = s.withClass.cards)
      (hfault : u.fault = s.withClass.fault) (hstops : c.stops s = false)
      (hq : c.registered s = (u.registry, ret)) (hne : ret ≠ 0) :
      c.Ends s (.ok (s.undone u, ret, none)) := by
    have hundone : s.undone u =
        { s with registry := u.registry, held := s.lost + s.held } := by
      rw [← undone_withClass u.registry u.held]
      unfold undone
      rw [hcards, hfault]
    have hend := RegistrationChoice.Ends.failed hstops (by rw [hq]; exact hne)
    rw [hq, hready, if_pos rfl] at hend
    rw [hundone]
    exact hend
  unfold allocateDevice
  cases hmemory : c.register.fTkdeviceAllocated with
  | false =>
    rw [if_pos rfl, errDevmem_eq hkref ⟨rfl, (zero_add _).symm⟩]
    apply hback rfl rfl
    · simp [RegistrationChoice.stops, hmemory]
    · simp [RegistrationChoice.registered, RegistrationChoice.choice,
        NetanaDriver.netanaRegisterdevice, hready, hmemory]
    · decide
  | true =>
  rw [if_neg (by decide), withClass_registry]
  let u : DriverModule := { s.withClass with
    registry := { s.registry with nextPtr := p + 1 }, held := {.tkdevice p} + s.withClass.held }
  have hu : s.Holding u {.tkdevice p} := ⟨rfl, rfl⟩
  change c.Ends s (if c.register.fIdrAllocated = false then u.errGetMinor p (-enomem) else _)
  cases hidr : c.register.fIdrAllocated with
  | false =>
    rw [if_pos rfl, errGetMinor_eq hkref hu]
    apply hback (u := u) rfl rfl
    · simp [RegistrationChoice.stops, hidr]
    · simp [RegistrationChoice.registered, RegistrationChoice.choice,
        NetanaDriver.netanaRegisterdevice, hready, hmemory, hidr, u, p]
    · decide
  | true =>
  rw [if_neg (by decide)]
  generalize halloc : alloc minorLimit _ _ = r
  change alloc minorLimit s.registry.netAnaIDR p = r at halloc
  cases r with
  | none =>
    change c.Ends s (u.errGetMinor p (-enospc))
    rw [errGetMinor_eq hkref hu]
    apply hback (u := u) rfl rfl
    · simp [RegistrationChoice.stops, halloc, p]
    · simp [RegistrationChoice.registered, RegistrationChoice.choice,
        NetanaDriver.netanaRegisterdevice, hready, hmemory, hidr, halloc, u, p]
    · decide
  | some r =>
    obtain ⟨idr, minor⟩ := r
    change c.Ends s ({ u with registry := { u.registry.set p (c.register.device minor) with
      netAnaIDR := idr } }.createDevice c p minor)
    have hregistered : c.registered s = registerTail (c.choice true) p minor
        { u.registry.set p (c.register.device minor) with netAnaIDR := idr } := by
      rw [RegistrationChoice.registered, hready]
      exact registerdevice_tail rfl hmemory hidr halloc
    have hstops : c.stops s = c.stopsTail := by
      simp [RegistrationChoice.stops, hready, hmemory, hidr, halloc, p]
    generalize hr : createDevice c p minor _ = r
    have hend : c.TailEnds p minor s { u with
        registry := { u.registry.set p (c.register.device minor) with netAnaIDR := idr } } _ :=
      createDevice_ends c hkref hu
    rw [hr] at hend
    cases hend with
    | stopped h => exact .stopped (hstops.trans h)
    | failed h registry ret htail hne =>
      exact hback rfl rfl (hstops.trans h) (hregistered.trans htail) hne
    | registered h registry hthread htail =>
      have hq : c.registered s = (registry, 0) := hregistered.trans htail
      have hend := RegistrationChoice.Ends.registered (hstops.trans h) hready hthread
        (congrArg Prod.snd hq) minor ⟨idr, halloc⟩
      rw [hq] at hend
      exact hend

theorem netanaRegisterdevice_ends (c : RegistrationChoice) (hkref : s.netanaClass ≠ some 0) :
    c.Ends s (s.netanaRegisterdevice c) := by
  unfold netanaRegisterdevice
  rw [initNetanaClass_eq]
  cases hready : c.classReady s with
  | false =>
    have hregistered : c.registered s = (s.registry, -enomem) := by
      rw [RegistrationChoice.registered, hready]
      rfl
    have hstops : c.stops s = false := by simp [RegistrationChoice.stops, hready]
    have hne : (c.registered s).2 ≠ 0 := by
      rw [hregistered]
      exact (by decide : -enomem ≠ 0)
    have hend := RegistrationChoice.Ends.failed hstops hne
    rw [hregistered, hready, if_neg Bool.false_ne_true, zero_add] at hend
    exact hend
  | true => exact allocateDevice_ends hkref hready

/-- What is held of the class for `n` devices. -/
def classHeld (n : ℕ) : ResourceLedger.Ledger Resource := if n = 0 then 0 else classHolds

def classOf (n : ℕ) : Option ℕ := if n = 0 then none else some n

theorem stopDsrThread_eq {p : DevPtr} (dsrthread : KthreadResult)
    {l : ResourceLedger.Ledger Resource} (h : s.held = threadHolds p dsrthread + l) :
    s.stopDsrThread p dsrthread =
      if dsrthread = .error then .error .errorPointer else .ok { s with held := l } := by
  cases dsrthread with
  | null =>
    have hheld : s.held = l := h.trans (zero_add l)
    rw [← hheld]
    rfl
  | thread => exact release_eq l h
  | error => rfl

/-- The class loses one device. -/
theorem netanaClassdestroy_eq {n : ℕ} {l : ResourceLedger.Ledger Resource}
    (hclass : s.netanaClass = classOf (n + 1)) (hheld : s.held = classHeld (n + 1) + l) :
    s.netanaClassdestroy =
      .ok { s with netanaClass := classOf n, held := classHeld n + l } := by
  cases n with
  | zero =>
    have hnothing : classHeld 0 + l = l := zero_add l
    rw [netanaClassdestroy_last hclass hheld, hnothing]
    rfl
  | succ n =>
    have hsame : s.held = classHeld (n + 1) + l := hheld
    rw [netanaClassdestroy_other hclass, ← hsame]
    rfl

theorem netanaUnregisterdevice_eq {info : NetanaInfo} (fAcknowledged : Bool) {n : ℕ}
    {l : ResourceLedger.Ledger Resource}
    (hminor : (s.registry.devices info.tkdevice).minor = info.minor)
    (hclass : s.netanaClass = classOf (n + 1))
    (hheld : s.held = info.holds + (classHeld (n + 1) + l)) :
    s.netanaUnregisterdevice info fAcknowledged =
      if info.dsrthread = .error then .error .errorPointer
      else .ok { s with
        registry := NetanaDriver.netanaUnregisterdevice info.tkdevice fAcknowledged s.registry
        netanaClass := classOf n
        held := classHeld n + l } := by
  let p := info.tkdevice
  let removed :=
    if (s.registry.devices p).addsucceded then
      (netanaTkitDeviceremove p true fAcknowledged s.registry).1
    else s.registry
  have hremoved : (if (s.registry.devices p).addsucceded then
      { s with registry := (netanaTkitDeviceremove p true fAcknowledged s.registry).1 } else s) =
        { s with registry := removed } := by
    simp only [removed]
    split_ifs <;> rfl
  have hdevices : removed.devices = s.registry.devices := by
    simp only [removed]
    split_ifs
    · rw [netanaTkitDeviceremove_forced]
    · rfl
  have hregistry : NetanaDriver.netanaUnregisterdevice p fAcknowledged s.registry =
      { removed with netAnaIDR := remove removed.netAnaIDR info.minor } := by
    rw [← hminor, ← hdevices]
    rfl
  let rest := classHeld (n + 1) + l
  have hstop := stopDsrThread_eq (s := { s with registry := removed }) (p := p) info.dsrthread
    (l := {.dma p} + ({.sysfs p} + ({.deviceNode info.minor} + ({.tkdevice p} + rest))))
    (hheld.trans (by simp only [NetanaInfo.holds, rest, p]; abel))
  unfold netanaUnregisterdevice
  simp only
  rw [hremoved, hstop]
  by_cases herror : info.dsrthread = .error
  · rw [if_pos herror, if_pos herror]
    rfl
  · rw [if_neg herror, if_neg herror]
    simp only [bind, Except.bind]
    rw [release_eq _ rfl]
    simp only
    rw [release_eq _ rfl]
    simp only
    rw [release_eq _ rfl]
    simp only [netanaFreeminor]
    rw [release_eq rest rfl]
    simp only
    rw [hregistry]
    exact netanaClassdestroy_eq (s := { s with
      registry := { removed with netAnaIDR := remove removed.netAnaIDR info.minor }
      held := rest }) hclass rfl

theorem withClass_held (s : DriverModule) (l : ResourceLedger.Ledger Resource) :
    { s with held := l + s.held }.withClass =
      { s.withClass with held := l + s.withClass.held } := by
  unfold withClass
  cases s.netanaClass with
  | none =>
    have hheld : classHolds + {.cardLock} + (l + s.held) =
        l + (classHolds + {.cardLock} + s.held) := by abel
    rw [hheld]
  | some kref => rfl

/-- What a card of the PCI bus holds besides its device. -/
def pciHolds (card : ℕ) : ResourceLedger.Ledger Resource :=
  {.internalAddr card} + ({.pciRegions card} + ({.pciEnabled card} +
    ({.ptdevicemem card} + {.ptdeviceinfo card})))

def platformHolds (card : ℕ) : ResourceLedger.Ledger Resource :=
  {.internalAddr card} + ({.ptdevicemem card} + {.ptdeviceinfo card})

end DriverModule

namespace PciChoice

/-- The probe gets as far as the regions of the card. -/
def reachesRegions (c : PciChoice) : Bool :=
  c.fInfoAllocated && c.fMemAllocated && c.pciEnableDevice.isNone && c.pciRequestRegions.isNone

/-- There is memory behind them. -/
def isMapped (c : PciChoice) : Bool := c.addr != 0#64 && c.fMapped

/-- How `netana_pci_probe` can end. -/
inductive Ends (c : PciChoice) (card : ℕ) (s : DriverModule) :
    Except ModuleFault Registration → Prop where
  | early (h : (c.reachesRegions && c.isMapped) = false) (ret : ℤ)
      (hret : 0 ≤ ret ↔ c.reachesRegions = true) : Ends c card s (.ok (s, ret, none))
  | stopped (h : (c.reachesRegions && c.isMapped) = true) (hstops : c.register.stops s = true) :
      Ends c card s (.error .errorPointer)
  | failed (h : (c.reachesRegions && c.isMapped) = true) (hstops : c.register.stops s = false)
      (hne : (c.register.registered s).2 ≠ 0) :
      Ends c card s (.ok ({ s with
        registry := (c.register.registered s).1
        held := (if c.register.classReady s then s.lost else 0) + s.held },
        (c.register.registered s).2, none))
  | registered (h : (c.reachesRegions && c.isMapped) = true) (hstops : c.register.stops s = false)
      (hready : c.register.classReady s = true) (hret : (c.register.registered s).2 = 0)
      (minor : ℕ) (hminor : ∃ idr, alloc minorLimit s.registry.netAnaIDR s.registry.nextPtr =
        some (idr, minor)) :
      Ends c card s (.ok ({ s.withClass with
        registry := (c.register.registered s).1
        held := NetanaInfo.holds ⟨minor, s.registry.nextPtr, c.registration.dsrthread⟩ +
          (DriverModule.pciHolds card + s.withClass.held) }, 0,
        some ⟨minor, s.registry.nextPtr, c.registration.dsrthread⟩))

end PciChoice

namespace DriverModule

variable {s t : DriverModule}

theorem errPciResource_eq {card : ℕ} {l : ResourceLedger.Ledger Resource}
    (h : t.held = pciHolds card + l) (ret : ℤ) :
    (do
      let s ← t.release (.internalAddr card)
      s.errPciResource card ret) = .ok ({ t with held := l }, ret, none) := by
  have hfirst : t.held = {.internalAddr card} + ({.pciRegions card} + ({.pciEnabled card} +
      ({.ptdevicemem card} + ({.ptdeviceinfo card} + l)))) := by
    rw [h, pciHolds]
    simp only [add_assoc]
  rw [release_eq _ hfirst]
  simp only [bind, Except.bind, errPciResource]
  rw [release_eq _ rfl]
  simp only [outPciRequest, bind, Except.bind]
  rw [release_eq _ rfl]
  simp only [errEnable, bind, Except.bind]
  rw [release_eq _ rfl]
  simp only
  rw [release_eq l rfl]
  rfl

theorem netanaPciProbe_ends (card : ℕ) (c : PciChoice) (hkref : s.netanaClass ≠ some 0) :
    c.Ends card s (s.netanaPciProbe card c) := by
  have henomem : ¬ (0 : ℤ) ≤ -enomem := by decide
  unfold netanaPciProbe
  cases hinfo : c.fInfoAllocated with
  | false =>
    rw [if_pos rfl]
    have hreach : c.reachesRegions = false := by simp [PciChoice.reachesRegions, hinfo]
    exact .early (by rw [hreach]; rfl) _ (iff_of_false henomem (by simp [hreach]))
  | true =>
  rw [if_neg (by decide)]
  cases hmem : c.fMemAllocated with
  | false =>
    have hreach : c.reachesRegions = false := by simp [PciChoice.reachesRegions, hmem]
    simp only [if_true, release_acquire, bind, Except.bind, pure, Except.pure]
    exact .early (by rw [hreach]; rfl) _ (iff_of_false henomem (by simp [hreach]))
  | true =>
  simp only [Bool.true_eq_false, if_false]
  have hnegative (n : ℕ) : kernelResult (some n) < 0 := by
    simp only [kernelResult]
    omega
  cases henable : c.pciEnableDevice with
  | some n =>
    have hreach : c.reachesRegions = false := by simp [PciChoice.reachesRegions, henable]
    rw [if_pos (hnegative n).ne, errEnable, release_acquire]
    simp only [bind, Except.bind, release_acquire, pure, Except.pure]
    exact .early (by rw [hreach]; rfl) _ (iff_of_false (hnegative n).not_ge (by simp [hreach]))
  | none =>
  rw [if_neg (by simp [kernelResult])]
  cases hrequest : c.pciRequestRegions with
  | some n =>
    have hreach : c.reachesRegions = false := by simp [PciChoice.reachesRegions, hrequest]
    rw [if_pos (hnegative n), outPciRequest, release_acquire]
    simp only [bind, Except.bind, errEnable, release_acquire, pure, Except.pure]
    exact .early (by rw [hreach]; rfl) _ (iff_of_false (hnegative n).not_ge (by simp [hreach]))
  | none =>
  have hreach : c.reachesRegions = true := by
    simp [PciChoice.reachesRegions, hinfo, hmem, henable, hrequest]
  rw [if_neg (by simp [kernelResult])]
  by_cases hunmapped : c.addr = 0#64 ∨ c.fMapped = false
  · -- the value is the zero of `pci_request_regions`
    have hmapped : c.isMapped = false := by
      rcases hunmapped with h | h <;> simp [PciChoice.isMapped, h]
    rw [if_pos hunmapped, errPciResource, release_acquire]
    simp only [bind, Except.bind, outPciRequest, errEnable, release_acquire, pure, Except.pure]
    exact .early (by rw [hreach, hmapped]; rfl) _ (iff_of_true le_rfl hreach)
  rw [if_neg hunmapped]
  have hregisters : (c.reachesRegions && c.isMapped) = true := by
    rw [not_or] at hunmapped
    simp [hreach, PciChoice.isMapped, hunmapped.1, Bool.eq_true_of_not_eq_false hunmapped.2]
  -- the module with the card, which is as it was for the registration
  generalize hu : acquire (.internalAddr card) _ = u
  have hu' : u = { s with held := pciHolds card + s.held } := by
    rw [← hu]
    unfold acquire pciHolds
    simp only [add_assoc]
  have hend := netanaRegisterdevice_ends (s := u) c.register (by rw [hu']; exact hkref)
  subst hu'
  generalize hr : netanaRegisterdevice c.register _ = r
  rw [hr] at hend
  cases hend with
  | stopped h => exact .stopped hregisters h
  | failed h hne =>
    have hfailed : c.Ends card s _ := .failed hregisters h hne
    rw [← errPciResource_eq (t := { s with
        registry := (c.register.registered s).1
        held := (if c.register.classReady s then s.lost else 0) + (pciHolds card + s.held) })
      (add_left_comm _ _ _) (c.register.registered s).2] at hfailed
    simp only [bind, Except.bind] at hfailed ⊢
    rw [if_neg hne]
    exact hfailed
  | registered h hready hthread hret minor hminor =>
    have hregistered := @PciChoice.Ends.registered c card s hregisters h hready hret minor hminor
    rw [withClass_held]
    exact hregistered

end DriverModule

/-- How `nanl_of_probe` can end. -/
inductive OfChoice.Ends (c : OfChoice) (card : ℕ) (s : DriverModule) :
    Except ModuleFault Registration → Prop where
  | early (h : c.fInfoAllocated = false) : Ends c card s (.ok (s, -enomem, none))
  | freed (h : c.fInfoAllocated = true)
      (hfails : ∀ r, c.fMemAllocated = true → c.register = some r →
        r.stops s = true ∨ (r.registered s).2 ≠ 0) (f : ModuleFault) : Ends c card s (.error f)
  | registered (h : c.fInfoAllocated = true) (hmem : c.fMemAllocated = true)
      (r : RegistrationChoice) (hr : c.register = some r) (hstops : r.stops s = false)
      (hready : r.classReady s = true) (hret : (r.registered s).2 = 0) (minor : ℕ)
      (hminor : ∃ idr, alloc minorLimit s.registry.netAnaIDR s.registry.nextPtr =
        some (idr, minor)) :
      Ends c card s (.ok ({ s.withClass with
        registry := (r.registered s).1
        held := NetanaInfo.holds ⟨minor, s.registry.nextPtr, r.dsrthread⟩ +
          (DriverModule.platformHolds card + s.withClass.held) }, 0,
        some ⟨minor, s.registry.nextPtr, r.dsrthread⟩))

namespace DriverModule

variable {s t : DriverModule}

theorem nanlOfProbe_ends (card : ℕ) (c : OfChoice) (hkref : s.netanaClass ≠ some 0) :
    c.Ends card s (s.nanlOfProbe card c) := by
  unfold nanlOfProbe
  cases hinfo : c.fInfoAllocated with
  | false => exact .early hinfo
  | true =>
  rw [if_neg (by decide)]
  cases hmem : c.fMemAllocated with
  | false =>
    apply OfChoice.Ends.freed hinfo
    intro r h
    exact absurd (hmem.symm.trans h) Bool.false_ne_true
  | true =>
  dsimp only
  rw [if_neg (by decide)]
  cases hr : c.register with
  | none =>
    apply OfChoice.Ends.freed hinfo
    intro r _ h
    exact absurd (hr.symm.trans h) (Option.some_ne_none r).symm
  | some r =>
  dsimp only
  generalize hu : acquire (.internalAddr card) _ = u
  have hu' : u = { s with held := platformHolds card + s.held } := by
    rw [← hu]
    unfold acquire platformHolds
    simp only [add_assoc]
  have hend := netanaRegisterdevice_ends (s := u) r (by rw [hu']; exact hkref)
  subst hu'
  generalize hresult : netanaRegisterdevice r _ = result
  rw [hresult] at hend
  have hsame {r' : RegistrationChoice} (h : c.register = some r') : r' = r :=
    Option.some.inj (h.symm.trans hr)
  cases hend with
  | stopped h =>
    apply OfChoice.Ends.freed hinfo
    intro r' _ hr'
    rw [hsame hr']
    exact Or.inl h
  | failed h hne =>
    simp only [bind, Except.bind]
    rw [if_neg hne]
    apply OfChoice.Ends.freed hinfo
    intro r' _ hr'
    rw [hsame hr']
    exact Or.inr hne
  | registered h hready hthread hret minor hminor =>
    have hregistered := @OfChoice.Ends.registered c card s hinfo hmem r hr h hready hret minor
      hminor
    rw [withClass_held]
    exact hregistered

end DriverModule

/-- A card that can be removed. -/
def BoundCard.removable (b : BoundCard) : Bool :=
  b.bus = .pci && match b.drvdata with
    | none => false
    | some info => info.dsrthread != .error

/-- What a bound card holds. -/
def BoundCard.holds (b : BoundCard) : ResourceLedger.Ledger Resource :=
  match b.drvdata with
  | none => 0
  | some info => info.holds + match b.bus with
    | .pci => DriverModule.pciHolds b.card
    | .platform => DriverModule.platformHolds b.card

namespace DriverModule

variable {s t : DriverModule}

theorem removeCard_eq {b : BoundCard} (fAcknowledged : Bool) {n : ℕ}
    {l : ResourceLedger.Ledger Resource} {info : NetanaInfo} (hdata : b.drvdata = some info)
    (hremovable : b.removable = true)
    (hminor : (s.registry.devices info.tkdevice).minor = info.minor)
    (hclass : s.netanaClass = classOf (n + 1))
    (hheld : s.held = b.holds + (classHeld (n + 1) + l)) :
    s.removeCard b fAcknowledged = .ok { s with
      registry := NetanaDriver.netanaUnregisterdevice info.tkdevice fAcknowledged s.registry
      netanaClass := classOf n
      held := classHeld n + l
      cards := s.cards.erase b } := by
  obtain ⟨bus, card, drvdata⟩ := b
  obtain rfl : drvdata = some info := hdata
  rw [BoundCard.removable, Bool.and_eq_true, decide_eq_true_eq] at hremovable
  obtain ⟨hbus, hthread⟩ := hremovable
  obtain rfl : bus = .pci := hbus
  have herror : ¬ info.dsrthread = .error := bne_iff_ne.mp hthread
  have hregions : s.held = info.holds + (classHeld (n + 1) + (pciHolds card + l)) := by
    rw [hheld]
    simp only [BoundCard.holds]
    abel
  have hunregister := netanaUnregisterdevice_eq fAcknowledged hminor hclass hregions
  rw [if_neg herror] at hunregister
  have hrest : classHeld n + (pciHolds card + l) = {.pciRegions card} + ({.pciEnabled card} +
      ({.internalAddr card} + ({.ptdevicemem card} + ({.ptdeviceinfo card} +
        (classHeld n + l))))) := by
    rw [pciHolds]
    abel
  unfold removeCard
  simp only [netanaPciRemove, hunregister, bind, Except.bind]
  rw [release_eq _ hrest]
  simp only
  rw [release_eq _ rfl]
  simp only
  rw [release_eq _ rfl]
  simp only
  rw [release_eq _ rfl]
  simp only
  rw [release_eq _ rfl]
  rfl

theorem removeCard_fails {b : BoundCard} (fAcknowledged : Bool) {n : ℕ}
    {l : ResourceLedger.Ledger Resource} (hremovable : b.removable = false)
    (hminor : ∀ info, b.drvdata = some info →
      (s.registry.devices info.tkdevice).minor = info.minor ∧ s.netanaClass = classOf (n + 1) ∧
        s.held = b.holds + (classHeld (n + 1) + l)) :
    ∃ f, s.removeCard b fAcknowledged = .error f := by
  obtain ⟨bus, card, drvdata⟩ := b
  cases drvdata with
  | none =>
    refine ⟨.nullDeviceinfo, ?_⟩
    cases bus with
    | pci => rfl
    | platform => rfl
  | some info =>
    obtain ⟨hminor, hclass, hheld⟩ := hminor info rfl
    have hunregister (l' : ResourceLedger.Ledger Resource)
        (h : s.held = info.holds + (classHeld (n + 1) + l')) :=
      netanaUnregisterdevice_eq fAcknowledged hminor hclass h
    cases bus with
    | pci =>
      have herror : info.dsrthread = .error := by
        simpa [BoundCard.removable] using hremovable
      have hstop := hunregister (pciHolds card + l) (by
        rw [hheld]
        simp only [BoundCard.holds]
        abel)
      rw [if_pos herror] at hstop
      refine ⟨.errorPointer, ?_⟩
      simp only [removeCard, netanaPciRemove, hstop, bind, Except.bind]
    | platform =>
      have hstop := hunregister (platformHolds card + l) (by
        rw [hheld]
        simp only [BoundCard.holds]
        abel)
      by_cases herror : info.dsrthread = .error
      · rw [if_pos herror] at hstop
        refine ⟨.errorPointer, ?_⟩
        simp only [removeCard, nanlOfRemove, hstop, bind, Except.bind]
      · rw [if_neg herror] at hstop
        refine ⟨.managedMemory, ?_⟩
        have hrest : classHeld n + (platformHolds card + l) = {.internalAddr card} +
            (classHeld n + ({.ptdevicemem card} + {.ptdeviceinfo card} + l)) := by
          rw [platformHolds]
          abel
        simp only [removeCard, nanlOfRemove, hstop, bind, Except.bind]
        rw [release_eq _ hrest]
        rfl

end DriverModule

end NetanaDriver
