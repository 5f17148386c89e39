import NetanaDriver.LibHandlesSteps

/-! The handles of the library in all interleavings: every handle has its device for itself, and
nothing is used that is gone. -/
namespace NetanaDriver

open SlotTable StepRuns

section Runs

variable {π ι : Type*} [DecidableEq π] [DecidableEq ι] {s : LibWorld π ι}

/-- The process has device `p` of the driver open under the handle, and its node is locked. -/
structure LibWorld.Opened (s : LibWorld π ι) (process : π) (hDev : ℕ) (p : DevPtr) : Prop where
  listed : hDev ∈ s.gTCardList process
  device : ∃ d, s.memory (process, hDev) = some d ∧ d.fClosed = false ∧
    s.files.fds (process, d.fdDevice) = some p ∧
      s.files.flocks p = some (process, d.fdDevice) ∧
        find s.files.registry.netAnaIDR d.iDeviceNum = some p

omit [DecidableEq π] [DecidableEq ι] in
theorem LibInv.opened (h : LibInv s) {process : π} {hDev : ℕ} {d : LibDevice}
    (hlisted : hDev ∈ s.gTCardList process) (hd : s.memory (process, hDev) = some d)
    (hclosed : d.fClosed = false) :
    ∃ p, s.files.fds (process, d.fdDevice) = some p ∧ s.Opened process hDev p := by
  obtain ⟨p, hp, hminor, hlock⟩ := h.shown hd hclosed
  have hregistered := h.files.registry.files p (h.files.opened.held_live hp)
  unfold Registry.Registered at hregistered
  rw [hminor] at hregistered
  exact ⟨p, hp, hlisted, d, hd, hclosed, hp, hlock, hregistered⟩

omit [DecidableEq π] [DecidableEq ι] in
/-- A device is open under one handle of one process at most. -/
theorem LibInv.opened_unique (h : LibInv s) {x y : π × ℕ} {p : DevPtr}
    (hx : s.Opened x.1 x.2 p) (hy : s.Opened y.1 y.2 p) : x = y := by
  obtain ⟨-, d, hd, hclosed, hfd, -⟩ := hx
  obtain ⟨-, e, he, hclosed', hfd', -⟩ := hy
  have hholds {z : π × ℕ} {d : LibDevice} (hd : s.memory z = some d) (hclosed : d.fClosed = false) :
      (s.descriptors (.device z)).map Descriptor.slot = some (z.1, d.fdDevice) := by
    rw [descriptors_device hd hclosed]
    rfl
  -- one file of the driver for each device, and one owner for each descriptor
  have hslot : (x.1, d.fdDevice) = (y.1, e.fdDevice) := h.files.opened.unique _ _ p hfd hfd'
  have hother : (s.descriptors (.device y)).map Descriptor.slot = some (y.1, e.fdDevice) :=
    hholds he hclosed'
  rw [← hslot] at hother
  exact FileOwner.device.inj (h.files.held.unique _ _ _ (hholds hd hclosed) hother)

omit [DecidableEq π] [DecidableEq ι] in
/-- While nobody opens or closes a device, all memory is on the lists. -/
theorem LibInv.quiet_listed (h : LibInv s)
    (hquiet : ∀ t th, s.threads t = some th → ∃ hDev, th.pc = .inside hDev) (process : π)
    (hDev : ℕ) :
    (s.memory (process, hDev)).isSome = true ↔ hDev ∈ s.gTCardList process := by
  rw [h.instances.live_iff]
  constructor
  · rintro ⟨o, ho⟩
    cases o with
    | thread t =>
      obtain ⟨th, hth, hp⟩ := Option.bind_eq_some_iff.mp ho
      obtain ⟨p, hpc⟩ := hquiet t th hth
      rw [hpc] at hp
      cases hp
    | listed x =>
      change (if x.2 ∈ s.gTCardList x.1 then some x else none) = _ at ho
      split_ifs at ho with hx
      cases ho
      exact hx
  · intro hlisted
    exact ⟨.listed (process, hDev), if_pos hlisted⟩

omit [DecidableEq π] [DecidableEq ι] in
/-- And all files that the driver has open are those of the handles. -/
theorem LibInv.quiet_open (h : LibInv s)
    (hquiet : ∀ t th, s.threads t = some th → ∃ hDev, th.pc = .inside hDev)
    (hended : ∀ process fd, s.exiting process = true → s.files.fds (process, fd) = none)
    (p : DevPtr) :
    p ∈ s.files.registry.openFiles ↔ ∃ process hDev, s.Opened process hDev p := by
  constructor
  · intro hp
    obtain ⟨x, hx⟩ := (h.files.opened.live_iff p).mp hp
    have hlive : (s.files.fds x).isSome = true := by rw [hx]; rfl
    obtain ⟨o, ho⟩ := (h.files.held.live_iff x).mp hlive
    obtain ⟨d, hd, rfl⟩ := Option.map_eq_some_iff.mp ho
    cases o with
    | thread t =>
      -- it would be opening a device
      obtain ⟨th, hth, hheld⟩ := Option.bind_eq_some_iff.mp hd
      obtain ⟨q, hpc⟩ := hquiet t th hth
      rw [hpc] at hheld
      cases hheld
    | device y =>
      obtain ⟨e, he, hheld⟩ := Option.bind_eq_some_iff.mp hd
      unfold LibDevice.descriptor at hheld
      split_ifs at hheld with hclosed
      cases hheld
      have hmemory : (s.memory (y.1, y.2)).isSome = true := by rw [he]; rfl
      have hlisted := (h.quiet_listed hquiet y.1 y.2).mp hmemory
      obtain ⟨q, hq, hopened⟩ := h.opened hlisted he (by simpa using hclosed)
      obtain rfl : q = p := Option.some.inj (hq.symm.trans hx)
      exact ⟨y.1, y.2, hopened⟩
    | ended y =>
      obtain ⟨hexit, -, rfl⟩ := descriptors_ended.mp hd
      have hgone : s.files.fds y = none := hended y.1 y.2 hexit
      rw [hgone] at hx
      cases hx
  · rintro ⟨process, hDev, -, d, -, -, hfd, -⟩
    exact h.files.opened.held_live hfd

/-- As long as handles are used properly, in all interleavings of threads, processes and driver:
nothing is used that is gone, no lock is in the way of another one, a handle that passes the check
has its device open unless it is just being freed, and a device is open under one handle of one
process only. While nobody opens or closes, the driver has no other files open, and the processes
have no other instances. -/
theorem handles_exclusive {d : TkDevice} {as : List (HandleAction π ι)}
    (hproper : Along usedProperly handleStep (LibWorld.init (Registry.init d)) as)
    (hrun : run handleStep (LibWorld.init (Registry.init d)) as = some s) :
    s.fault = none ∧ s.fWouldBlock = false ∧
      (∀ process hDev, checkDeviceHandle (s.gTCardList process) hDev = netanaNoError →
        (∃ p, s.Opened process hDev p) ∨ ∃ t, s.threads t = some ⟨process, .remove hDev⟩) ∧
      (∀ (x y : π × ℕ) p, s.Opened x.1 x.2 p → s.Opened y.1 y.2 p → x = y) ∧
      ((∀ t th, s.threads t = some th → ∃ hDev, th.pc = .inside hDev) →
        (∀ process fd, s.exiting process = true → s.files.fds (process, fd) = none) →
        (∀ p, p ∈ s.files.registry.openFiles ↔ ∃ process hDev, s.Opened process hDev p) ∧
          ∀ process hDev, (s.memory (process, hDev)).isSome = true ↔
            checkDeviceHandle (s.gTCardList process) hDev = netanaNoError) := by
  have h : LibInv s := along_invariant
    (fun _ _ _ h hok hstep => handleStep_inv h hok hstep) (LibInv.init d) hproper hrun
  refine ⟨h.sound, h.calm, ?_, fun x y p hx hy => h.opened_unique hx hy, ?_⟩
  · intro process hDev hcheck
    have hlisted := (h.checked process hDev).mp hcheck
    obtain ⟨e, he⟩ := h.allocated hlisted
    cases hclosed : e.fClosed with
    | false =>
      obtain ⟨p, -, hopened⟩ := h.opened hlisted he hclosed
      exact Or.inl ⟨p, hopened⟩
    | true => exact Or.inr (h.closing _ e he hclosed)
  · intro hquiet hended
    refine ⟨h.quiet_open hquiet hended, ?_⟩
    intro process hDev
    rw [h.quiet_listed hquiet, h.checked]

end Runs

/-- `flock` and `netana_get_state` succeed, `malloc` returns the address 16, and there is a log
file. -/
def freely : LibChoice := ⟨true, some 16, true, true⟩

/-- A thread opens the first device with descriptor 3. -/
def opensFirst {π ι : Type*} (t : ι) (process : π) : List (HandleAction π ι) :=
  .openDevice t process 0#32 0 3 :: List.replicate 4 (.step t freely)

/-- And closes it. -/
def closesFirst {π ι : Type*} (t : ι) (process : π) : List (HandleAction π ι) :=
  .closeDevice t process 16 :: List.replicate 4 (.step t freely)

/-- One process opens the device in vain while another one has it open, and gets it afterwards. -/
def opensInTurn : List (HandleAction Bool Bool) :=
  .driver (.register cardRegistered) :: opensFirst false false ++
    [.openDevice true true 0#32 0 3, .call false false 16, .step false freely, .returns false] ++
      closesFirst false false ++ opensFirst true true

theorem handles_exclusive_turns : ∃ s, run handleStep
      (LibWorld.init (Registry.init (cardRegistered.device 0))) opensInTurn = some s ∧
    s.fault = none ∧ ∃ p, s.Opened true 16 p ∧ p ∈ s.files.registry.openFiles := by
  obtain ⟨s, hrun, hcheck, hthread, hexit⟩ : ∃ s, run handleStep
      (LibWorld.init (Registry.init (cardRegistered.device 0))) opensInTurn = some s ∧
        checkDeviceHandle (s.gTCardList true) 16 = netanaNoError ∧
          (∀ t, s.threads t = none) ∧ ∀ process, s.exiting process = false :=
    ⟨_, rfl, by rfl, by intro t; cases t <;> rfl, by intro process; cases process <;> rfl⟩
  have hproper : Along usedProperly handleStep
      (LibWorld.init (Registry.init (cardRegistered.device 0))) opensInTurn :=
    Along.mono (fun s a (h : decide (usedProperly s a) = true) => of_decide_eq_true h)
      (along_of_check (by rfl))
  obtain ⟨hsound, -, hopened, -, hquiet⟩ := handles_exclusive hproper hrun
  obtain ⟨p, hp⟩ := (hopened true 16 hcheck).resolve_right (by simp [hthread])
  obtain ⟨hfiles, -⟩ := hquiet (by simp [hthread]) (by simp [hexit])
  exact ⟨s, hrun, hsound, p, hp, (hfiles p).mpr ⟨true, 16, hp⟩⟩

-- a handle is closed while a function uses it
example : (run handleStep (LibWorld.init (Registry.init (cardRegistered.device 0)))
      (.driver (.register cardRegistered) :: opensFirst false () ++ [.call true () 16] ++
        closesFirst false () ++ [.step true freely])).bind LibWorld.fault =
    some .deadInstance := by
  rfl

-- a handle is closed twice: the second close takes the descriptor of another thread
example : (run handleStep (LibWorld.init (Registry.init (cardRegistered.device 0)))
      (.driver (.register cardRegistered) :: opensFirst 0 () ++
        [.closeDevice 0 () 16, .closeDevice 1 () 16, .step 0 freely, .step 0 freely,
          .step 1 freely, .step 1 freely, .step 0 freely, .openDevice 2 () 0#32 0 3,
          .step 1 freely, .step 2 freely] : List (HandleAction Unit ℕ))).bind LibWorld.fault =
    some .badDescriptor := by
  rfl

end NetanaDriver
