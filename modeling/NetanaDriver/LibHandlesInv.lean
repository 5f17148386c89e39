import NetanaDriver.ExclusiveSection
import NetanaDriver.LibHandles

/-! What the library keeps between the statements of its threads: who owns which descriptor and
which instance, and what a thread may rely on. -/
namespace NetanaDriver

open Ownership SlotTable StepRuns

section Invariant

variable {π ι : Type*}

/-- What a thread may rely on by its position. -/
def LibThread.At (memory : π × ℕ → Option LibDevice) (lists : π → List ℕ) (th : LibThread π) :
    Prop :=
  match th.pc with
  | .flock _ _ | .closeUnlocked _ _ | .malloc _ _ => True
  | .insertTail p => p ≠ 0 ∧ ∃ d, memory (th.process, p) = some d ∧ d.fClosed = false
  | .createLogFile p | .inside p | .getState p | .closeLogFile p =>
    p ∈ lists th.process ∧ ∃ d, memory (th.process, p) = some d ∧ d.fClosed = false
  | .closeFile p =>
    p ∈ lists th.process ∧
      ∃ d, memory (th.process, p) = some d ∧ d.fClosed = false ∧ d.fLogFile = false
  | .remove p =>
    p ∈ lists th.process ∧
      ∃ d, memory (th.process, p) = some d ∧ d.fClosed = true ∧ d.fLogFile = false

/-- Two threads of a process are not at one handle if one of them closes it. -/
def LibThread.Clear (th th' : LibThread π) : Prop :=
  th.process = th'.process → ∀ p, th.pc.closes = some p → th'.pc.uses ≠ some p

def Apart (threads : ι → Option (LibThread π)) : Prop :=
  ∀ t u th th', t ≠ u → threads t = some th → threads u = some th' → th.Clear th'

structure LibInv (s : LibWorld π ι) : Prop where
  files : DescriptorInv s.files s.descriptors
  instances : Owned s.instances fun x => (s.memory x).isSome = true
  lists : ∀ process, (s.gTCardList process).Nodup ∧ 0 ∉ s.gTCardList process
  here : ∀ t th, s.threads t = some th → th.At s.memory s.gTCardList
  apart : Apart s.threads
  -- an instance without a descriptor is about to be freed
  closing : ∀ x d, s.memory x = some d → d.fClosed = true →
    ∃ t, s.threads t = some ⟨x.1, .remove x.2⟩
  ended : ∀ process, s.exiting process = true →
    (∀ t th, s.threads t = some th → th.process ≠ process) ∧ s.gTCardList process = [] ∧
      ∀ p, s.memory (process, p) = none
  calm : s.fWouldBlock = false
  sound : s.fault = none

theorem LibInv.init (d : TkDevice) :
    LibInv (LibWorld.init (Registry.init d) : LibWorld π ι) where
  files := by
    apply (DescriptorInv.init d).congr
    intro o
    cases o <;> simp [LibWorld.descriptors, LibWorld.init]
  instances := by
    apply owned_none.congr
    · intro o
      cases o <;> simp [LibWorld.instances, LibWorld.init]
    · simp [LibWorld.init]
  lists := by simp [LibWorld.init]
  here := by simp [LibWorld.init]
  apart := by
    intro t u th th' _ ht
    cases ht
  closing := by simp [LibWorld.init]
  ended := by simp [LibWorld.init]
  calm := rfl
  sound := rfl

variable {s : LibWorld π ι} {t : ι} {th : LibThread π}

/-- The instance that a thread works on. -/
def LibPc.On (pc : LibPc) (p : ℕ) : Prop := pc.uses = some p ∨ pc.allocated = some p

theorem LibThread.At.keeps {memory memory' : π × ℕ → Option LibDevice} {lists lists' : π → List ℕ}
    (h : th.At memory lists)
    (hlists : ∀ p, th.pc.uses = some p → p ∈ lists th.process → p ∈ lists' th.process)
    (hmemory : ∀ p d, th.pc.On p → memory (th.process, p) = some d →
      ∃ d', memory' (th.process, p) = some d' ∧ d'.fClosed = d.fClosed ∧
        (th.pc.closes = some p → d.fLogFile = false → d'.fLogFile = false)) :
    th.At memory' lists' := by
  obtain ⟨process, pc⟩ := th
  cases pc with
  -- the thread has a descriptor, but no instance yet
  | flock => trivial
  | closeUnlocked => trivial
  | malloc => trivial
  | insertTail p =>
    obtain ⟨hp, d, hd, hclosed⟩ := h
    obtain ⟨d', hd', hclosed', -⟩ := hmemory p d (Or.inr rfl) hd
    exact ⟨hp, d', hd', hclosed'.trans hclosed⟩
  | closeFile p | remove p =>
    obtain ⟨hp, d, hd, hclosed, hlog⟩ := h
    obtain ⟨d', hd', hclosed', hlog'⟩ := hmemory p d (Or.inl rfl) hd
    exact ⟨hlists p rfl hp, d', hd', hclosed'.trans hclosed, hlog' rfl hlog⟩
  | createLogFile p | inside p | getState p | closeLogFile p =>
    obtain ⟨hp, d, hd, hclosed⟩ := h
    obtain ⟨d', hd', hclosed', -⟩ := hmemory p d (Or.inl rfl) hd
    exact ⟨hlists p rfl hp, d', hd', hclosed'.trans hclosed⟩

/-- Nothing has changed that the thread works on. -/
theorem LibThread.At.same {memory memory' : π × ℕ → Option LibDevice} {lists lists' : π → List ℕ}
    (h : th.At memory lists)
    (hlists : ∀ p, th.pc.uses = some p → p ∈ lists th.process → p ∈ lists' th.process)
    (hmemory : ∀ p, th.pc.On p → memory' (th.process, p) = memory (th.process, p)) :
    th.At memory' lists' := by
  apply h.keeps hlists
  intro p d hp hd
  rw [← hmemory p hp] at hd
  exact ⟨d, hd, rfl, fun _ => id⟩

theorem LibPc.closes_uses {pc : LibPc} {p : ℕ} (h : pc.closes = some p) : pc.uses = some p := by
  cases pc <;> first | exact h | cases h

/-- A handle that a thread uses is on the list. -/
theorem LibInv.listed (h : LibInv s) (hth : s.threads t = some th) {p : ℕ}
    (hp : th.pc.uses = some p) :
    p ∈ s.gTCardList th.process ∧ ∃ d, s.memory (th.process, p) = some d := by
  have hhere := h.here t th hth
  obtain ⟨process, pc⟩ := th
  cases pc <;> cases hp
  case createLogFile => exact ⟨hhere.1, hhere.2.imp fun _ => And.left⟩
  case inside => exact ⟨hhere.1, hhere.2.imp fun _ => And.left⟩
  case getState => exact ⟨hhere.1, hhere.2.imp fun _ => And.left⟩
  case closeLogFile => exact ⟨hhere.1, hhere.2.imp fun _ => And.left⟩
  case closeFile => exact ⟨hhere.1, hhere.2.imp fun _ => And.left⟩
  case remove => exact ⟨hhere.1, hhere.2.imp fun _ => And.left⟩

/-- What a thread works on is there. -/
theorem LibInv.device (h : LibInv s) (hth : s.threads t = some th) {p : ℕ} (hp : th.pc.On p) :
    ∃ d, s.memory (th.process, p) = some d := by
  rcases hp with huses | hallocated
  · exact (h.listed hth huses).2
  · have hhere := h.here t th hth
    obtain ⟨process, pc⟩ := th
    cases pc <;> cases hallocated
    exact hhere.2.imp fun _ => And.left

/-- A thread that owns a descriptor or an instance is not in a process that has ended. -/
theorem LibInv.running (h : LibInv s) (hth : s.threads t = some th) :
    s.exiting th.process = false := by
  cases hexit : s.exiting th.process with
  | false => rfl
  | true => exact absurd rfl ((h.ended th.process hexit).1 t th hth)

/-- An instance that is not on the list yet. -/
theorem LibInv.unlisted (h : LibInv s) {p : ℕ} (hth : s.threads t = some th)
    (hp : th.pc.allocated = some p) : p ∉ s.gTCardList th.process := by
  intro hlisted
  have hthread : s.instances (.thread t) = some (th.process, p) := by
    simp [LibWorld.instances, hth, hp]
  have hlist : s.instances (.listed (th.process, p)) = some (th.process, p) :=
    if_pos hlisted
  cases h.instances.unique _ _ _ hthread hlist

/-- On the list there is memory. -/
theorem LibInv.allocated (h : LibInv s) {process : π} {p : ℕ} (hp : p ∈ s.gTCardList process) :
    ∃ d, s.memory (process, p) = some d := by
  have hlist : s.instances (.listed (process, p)) = some (process, p) := if_pos hp
  exact Option.isSome_iff_exists.mp (h.instances.held_live hlist)

/-- What an owner of a descriptor depends on. -/
theorem LibWorld.descriptors_same {s v : LibWorld π ι} {o : FileOwner π ι}
    (hthread : ∀ u, o = .thread u → v.threads u = s.threads u)
    (hdevice : ∀ x, o = .device x → v.memory x = s.memory x)
    (hended : ∀ x, o = .ended x → v.exiting x.1 = s.exiting x.1 ∧
      (s.exiting x.1 = true → v.files.fds x = s.files.fds x)) :
    v.descriptors o = s.descriptors o := by
  cases o with
  | thread u => exact congrArg (Option.bind · _) (hthread u rfl)
  | device x => exact congrArg (Option.bind · _) (hdevice x rfl)
  | ended x =>
    obtain ⟨hexit, hfds⟩ := hended x rfl
    change (if v.exiting x.1 = true ∧ _ then _ else _) = if s.exiting x.1 = true ∧ _ then _ else _
    rw [hexit]
    by_cases hx : s.exiting x.1 = true
    · rw [hfds hx]
    · simp [hx]

/-- The driver does something, or does not open a file. -/
theorem LibInv.withFiles (h : LibInv s) {f : FileTable π}
    (hfiles : DescriptorInv f s.descriptors) (hfds : f.fds = s.files.fds) :
    LibInv { s with files := f } where
  files := by
    apply hfiles.congr
    intro o
    apply LibWorld.descriptors_same
    · intro u _
      rfl
    · intro x _
      rfl
    · intro x _
      exact ⟨rfl, fun _ => congrFun hfds x⟩
  instances := by
    apply h.instances.congr
    · intro o
      cases o <;> rfl
    · intro x
      exact Iff.rfl
  lists := h.lists
  here := h.here
  apart := h.apart
  closing := h.closing
  ended := h.ended
  calm := h.calm
  sound := h.sound

theorem LibInv.driver (h : LibInv s) {a : RegistryAction} {r : Registry} (ha : a.ofDriver = true)
    (hok : unregistersClosed s.files.registry a = true)
    (hr : registryStep s.files.registry a = some r) :
    LibInv { s with files := { s.files with registry := r } } := by
  have hfiles := h.files.keeps (registryStep_inv h.files.registry hok hr)
    (driver_keepsFiles h.files.registry ha hr)
  exact h.withFiles hfiles rfl

/-- A thread that has a descriptor of its own. -/
theorem descriptors_thread (hth : s.threads t = some th) {d : Descriptor π}
    (hd : th.pc.descriptor th.process = some d) : s.descriptors (.thread t) = some d := by
  change (s.threads t).bind _ = _
  rw [hth]
  exact hd

/-- An instance whose descriptor has not been closed. -/
theorem descriptors_device {x : π × ℕ} {d : LibDevice} (hd : s.memory x = some d)
    (hclosed : d.fClosed = false) :
    s.descriptors (.device x) = some ⟨(x.1, d.fdDevice), some (d.iDeviceNum, true)⟩ := by
  change (s.memory x).bind _ = _
  rw [hd]
  change (if d.fClosed = true then none else _) = _
  rw [hclosed]
  rfl

theorem LibPc.descriptor_process {pc : LibPc} {process : π} {d : Descriptor π}
    (h : pc.descriptor process = some d) : d.slot.1 = process := by
  cases pc <;> cases h <;> rfl

theorem LibDevice.descriptor_process {e : LibDevice} {process : π} {d : Descriptor π}
    (h : e.descriptor process = some d) : d.slot.1 = process := by
  unfold LibDevice.descriptor at h
  split_ifs at h
  cases h
  rfl

theorem descriptors_ended {x : π × ℕ} {d : Descriptor π} : s.descriptors (.ended x) = some d ↔
    s.exiting x.1 = true ∧ (s.files.fds x).isSome = true ∧ d = ⟨x, none⟩ := by
  unfold LibWorld.descriptors
  dsimp only
  split_ifs with hx
  · simp [hx, eq_comm]
  · rw [← and_assoc]
    simp [hx]

/-- The check of a handle looks for it on the list. -/
theorem LibInv.checked (h : LibInv s) (process : π) (p : ℕ) :
    checkDeviceHandle (s.gTCardList process) p = netanaNoError ↔ p ∈ s.gTCardList process := by
  have hparameter : netanaInvalidParameter ≠ netanaNoError := by decide
  have hhandle : netanaInvalidHandle ≠ netanaNoError := by decide
  unfold checkDeviceHandle
  split_ifs with hnull hlisted
  · simp [hparameter, hnull, (h.lists process).2]
  · simp [hlisted]
  · simp [hhandle, hlisted]

/-- The device of an instance that has not been closed. -/
theorem LibInv.shown (h : LibInv s) {x : π × ℕ} {d : LibDevice} (hd : s.memory x = some d)
    (hclosed : d.fClosed = false) :
    ∃ p, s.files.fds (x.1, d.fdDevice) = some p ∧
      (s.files.registry.devices p).minor = d.iDeviceNum ∧
        s.files.flocks p = some (x.1, d.fdDevice) := by
  obtain ⟨p, hp, hknown⟩ := h.files.shows _ _ (descriptors_device hd hclosed)
  exact ⟨p, hp, hknown _ _ rfl⟩

/-- A handle on the list that nobody closes. -/
theorem LibInv.entered (h : LibInv s) {process : π} {p : ℕ} (hp : p ∈ s.gTCardList process)
    (hunused : s.unused process LibPc.closes p) :
    ∃ d, s.memory (process, p) = some d ∧ d.fClosed = false := by
  obtain ⟨d, hd⟩ := h.allocated hp
  refine ⟨d, hd, ?_⟩
  cases hclosed : d.fClosed with
  | false => rfl
  | true =>
    -- then a thread is about to free it
    obtain ⟨u, hu⟩ := h.closing _ d hd hclosed
    exact absurd rfl (hunused u _ hu rfl)

variable [DecidableEq ι]

/-- One thread goes on or comes up. -/
theorem Apart.update {threads : ι → Option (LibThread π)} (h : Apart threads)
    {next : Option (LibThread π)}
    (hnext : ∀ n, next = some n → ∀ u th, u ≠ t → threads u = some th → n.Clear th ∧ th.Clear n) :
    Apart (Function.update threads t next) := by
  intro u v th th' huv hu hv
  by_cases hut : u = t
  · rw [hut, Function.update_self] at hu
    have hvt : v ≠ t := fun hvt => huv (hut.trans hvt.symm)
    rw [Function.update_of_ne hvt] at hv
    exact (hnext th hu v th' hvt hv).1
  · rw [Function.update_of_ne hut] at hu
    by_cases hvt : v = t
    · rw [hvt, Function.update_self] at hv
      exact (hnext th' hv u th hut hu).2
    · rw [Function.update_of_ne hvt] at hv
      exact h u v th th' huv hu hv

/-- A thread that is at no other handle than before, and does not begin to close it. -/
theorem Apart.moves {threads : ι → Option (LibThread π)} (h : Apart threads)
    (hth : threads t = some th) {pc : LibPc}
    (huses : ∀ p, pc.uses = some p → th.pc.uses = some p)
    (hcloses : ∀ p, pc.closes = some p → th.pc.closes = some p) :
    Apart (Function.update threads t (some { th with pc := pc })) := by
  apply h.update
  intro n hn u th' hu hth'
  cases hn
  refine ⟨?_, ?_⟩
  · -- it closes nothing that it has not been closing
    intro hprocess p hp
    exact h t u th th' hu.symm hth hth' hprocess p (hcloses p hp)
  · -- and the other one closes nothing that it has been at
    intro hprocess p hp hpc
    exact h u t th' th hu hth' hth hprocess p hp (huses p hpc)

/-- A thread after a step of thread `t`. -/
theorem threads_cases {next : Option (LibThread π)} {u : ι} {n : LibThread π}
    (hu : Function.update s.threads t next u = some n) :
    (u = t ∧ next = some n) ∨ (u ≠ t ∧ s.threads u = some n) :=
  ExclusiveSection.others_of_update (Function.update_self t next s.threads)
    (fun _ hv => Function.update_of_ne hv _ _) hu

/-- What the threads own after a step that leaves thread `t` with the same. -/
theorem threads_bind {β : Type*} {f : LibThread π → Option β} {next : Option (LibThread π)}
    (hsame : next.bind f = (s.threads t).bind f) (u : ι) :
    (Function.update s.threads t next u).bind f = (s.threads u).bind f := by
  by_cases hu : u = t
  · rw [hu, Function.update_self]
    exact hsame
  · rw [Function.update_of_ne hu]

/-- Processes that have ended stay as they are while another one does something. -/
theorem LibInv.ended_step (h : LibInv s) {process : π} {next : Option (LibThread π)}
    {lists : π → List ℕ} {memory : π × ℕ → Option LibDevice}
    (hrunning : s.exiting process = false) (hnext : ∀ n, next = some n → n.process = process)
    (hlists : ∀ q, q ≠ process → lists q = s.gTCardList q)
    (hmemory : ∀ q p, q ≠ process → memory (q, p) = s.memory (q, p)) (q : π)
    (hexit : s.exiting q = true) :
    (∀ u n, Function.update s.threads t next u = some n → n.process ≠ q) ∧ lists q = [] ∧
      ∀ p, memory (q, p) = none := by
  -- a process that does something has not ended
  have hq : q ≠ process := by
    rintro rfl
    rw [hrunning] at hexit
    cases hexit
  obtain ⟨hnone, hlist, hempty⟩ := h.ended q hexit
  refine ⟨?_, (hlists q hq).trans hlist, fun p => (hmemory q p hq).trans (hempty p)⟩
  intro u n hu
  rcases threads_cases hu with ⟨-, hn⟩ | ⟨-, hn⟩
  · rw [hnext n hn]
    exact hq.symm
  · exact hnone u n hn

/-- Those that are about to free an instance go on to do so. -/
theorem LibInv.closing_step (h : LibInv s) {v : LibWorld π ι} {next : Option (LibThread π)}
    (hthreads : v.threads = Function.update s.threads t next)
    (hremove : ∀ q p, s.threads t ≠ some ⟨q, .remove p⟩) {x : π × ℕ} {d : LibDevice}
    (hd : s.memory x = some d) (hclosed : d.fClosed = true) :
    ∃ u, v.threads u = some ⟨x.1, .remove x.2⟩ := by
  obtain ⟨u, hu⟩ := h.closing x d hd hclosed
  have hut : u ≠ t := by
    rintro rfl
    exact hremove _ _ hu
  rw [hthreads]
  exact ⟨u, (Function.update_of_ne hut _ _).trans hu⟩

/-- A thread goes on, comes up or ends that leaves instances and lists alone. -/
theorem LibInv.moves (h : LibInv s) {f : FileTable π} {next : Option (LibThread π)}
    {process : π} (hrunning : s.exiting process = false)
    (hfiles : DescriptorInv f ({ s with
      files := f, threads := Function.update s.threads t next } : LibWorld π ι).descriptors)
    (hallocated : (next.bind fun n => n.pc.allocated.map (n.process, ·)) =
      (s.threads t).bind fun n => n.pc.allocated.map (n.process, ·))
    (hhere : ∀ n, next = some n → n.process = process ∧ n.At s.memory s.gTCardList)
    (hapart : Apart (Function.update s.threads t next))
    (hremove : ∀ q p, s.threads t ≠ some ⟨q, .remove p⟩) :
    LibInv { s with files := f, threads := Function.update s.threads t next } where
  files := hfiles
  instances := by
    apply h.instances.congr
    · intro o
      cases o with
      | thread u =>
        exact threads_bind hallocated u
      | listed x => rfl
    · intro x
      exact Iff.rfl
  lists := h.lists
  here := by
    intro u n hu
    rcases threads_cases hu with ⟨-, hn⟩ | ⟨-, hn⟩
    · exact (hhere n hn).2
    · exact h.here u n hn
  apart := hapart
  closing := fun _ _ hd hclosed => h.closing_step rfl hremove hd hclosed
  ended := by
    apply h.ended_step hrunning
    · intro n hn
      exact (hhere n hn).1
    · intro q _
      rfl
    · intro q p _
      rfl
  calm := h.calm
  sound := h.sound

theorem deref_eq {p : ℕ} {d : LibDevice} (hd : s.memory (th.process, p) = some d)
    (next : LibDevice → LibWorld π ι) : s.deref t th p next = next d := by
  unfold LibWorld.deref
  rw [hd]

/-- The other owners after a thread has done something with a descriptor of its process. -/
theorem descriptors_others {x : π × ℕ} (hrunning : s.exiting x.1 = false) {f : FileTable π}
    {next : Option (LibThread π)} (hfds : ∀ y, y ≠ x → f.fds y = s.files.fds y)
    (o : FileOwner π ι) (ho : o ≠ .thread t) :
    ({ s with files := f, threads := Function.update s.threads t next } :
      LibWorld π ι).descriptors o = s.descriptors o := by
  apply LibWorld.descriptors_same
  · rintro u rfl
    apply Function.update_of_ne
    rintro rfl
    exact ho rfl
  · intro y _
    rfl
  · intro y _
    refine ⟨rfl, fun hexit => hfds y ?_⟩
    rintro rfl
    rw [hrunning] at hexit
    cases hexit

/-- The same for a thread that keeps its descriptor as well. -/
theorem LibInv.goes (h : LibInv s) {next : Option (LibThread π)} {process : π}
    (hrunning : s.exiting process = false)
    (hdescriptor : (next.bind fun n => n.pc.descriptor n.process) =
      (s.threads t).bind fun n => n.pc.descriptor n.process)
    (hallocated : (next.bind fun n => n.pc.allocated.map (n.process, ·)) =
      (s.threads t).bind fun n => n.pc.allocated.map (n.process, ·))
    (hhere : ∀ n, next = some n → n.process = process ∧ n.At s.memory s.gTCardList)
    (hapart : Apart (Function.update s.threads t next))
    (hremove : ∀ q p, s.threads t ≠ some ⟨q, .remove p⟩) :
    LibInv { s with threads := Function.update s.threads t next } := by
  apply h.moves (f := s.files) hrunning _ hallocated hhere hapart hremove
  apply h.files.congr
  intro o
  cases o with
  | thread u =>
    exact threads_bind hdescriptor u
  | device x => rfl
  | ended x => rfl

/-- The thread leaves the library, or goes on with a handle that it does not begin to close. -/
theorem LibInv.continues (h : LibInv s) (hth : s.threads t = some th) {p : ℕ}
    (huses : th.pc.uses = some p) (hremove : th.pc ≠ .remove p) {pc : LibPc}
    (hpc : pc.uses = some p) (hcloses : pc.closes = some p → th.pc.closes = some p)
    (hat : LibThread.At s.memory s.gTCardList { th with pc := pc }) : LibInv (s.goes t th pc) := by
  have hnone {pc : LibPc} (hused : pc.uses = some p) :
      pc.descriptor th.process = none ∧ pc.allocated = none := by
    cases pc <;> cases hused <;> exact ⟨rfl, rfl⟩
  apply h.goes (h.running hth)
  · rw [hth]
    exact (hnone hpc).1.trans (hnone huses).1.symm
  · rw [hth]
    change pc.allocated.map _ = th.pc.allocated.map _
    rw [(hnone hpc).2, (hnone huses).2]
  · intro n hn
    cases hn
    exact ⟨rfl, hat⟩
  · apply h.apart.moves hth
    · intro q hq
      rw [huses, ← hq, hpc]
    · intro q hq
      have hqp : q = p := Option.some.inj ((LibPc.closes_uses hq).symm.trans hpc)
      rw [hqp] at hq ⊢
      exact hcloses hq
  · intro q r hr
    rw [hth] at hr
    cases hr
    cases huses
    exact hremove rfl

theorem LibInv.returns (h : LibInv s) (hth : s.threads t = some th) {p : ℕ}
    (huses : th.pc.uses = some p) (hremove : th.pc ≠ .remove p) : LibInv (s.ends t) := by
  have hnone : th.pc.descriptor th.process = none ∧ th.pc.allocated = none := by
    obtain ⟨process, pc⟩ := th
    cases pc <;> cases huses <;> exact ⟨rfl, rfl⟩
  apply h.goes (h.running hth)
  · rw [hth]
    exact hnone.1.symm
  · rw [hth]
    change none = th.pc.allocated.map _
    rw [hnone.2]
    rfl
  · intro n hn
    cases hn
  · apply h.apart.update
    intro n hn
    cases hn
  · intro q r hr
    rw [hth] at hr
    cases hr
    cases huses
    exact hremove rfl

/-- A thread comes into the library with a handle on the list. -/
theorem LibInv.enters (h : LibInv s) {process : π} (hidle : s.threads t = none)
    (hrunning : s.exiting process = false) {pc : LibPc} {p : ℕ} (huses : pc.uses = some p)
    (hat : LibThread.At s.memory s.gTCardList ⟨process, pc⟩)
    (hunused : s.unused process LibPc.closes p)
    (hcloses : pc.closes = some p → s.unused process LibPc.uses p) :
    LibInv (s.goes t ⟨process, pc⟩ pc) := by
  have hnone : pc.descriptor process = none ∧ pc.allocated = none := by
    cases pc <;> cases huses <;> exact ⟨rfl, rfl⟩
  apply h.goes hrunning
  · rw [hidle]
    exact hnone.1
  · rw [hidle]
    change pc.allocated.map _ = none
    rw [hnone.2]
    rfl
  · intro n hn
    cases hn
    exact ⟨rfl, hat⟩
  · apply h.apart.update
    intro n hn u th hu hth
    cases hn
    refine ⟨?_, ?_⟩
    · intro hprocess q hq
      have hqp : q = p := Option.some.inj ((LibPc.closes_uses hq).symm.trans huses)
      rw [hqp] at hq ⊢
      exact hcloses hq u th hth hprocess.symm
    · intro hprocess q hq hpc
      have hqp : q = p := Option.some.inj (hpc.symm.trans huses)
      exact hunused u th hth hprocess (hqp ▸ hq)
  · simp [hidle]

end Invariant

end NetanaDriver
