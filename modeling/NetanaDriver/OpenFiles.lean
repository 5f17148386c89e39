import NetanaDriver.ModuleLifeRun
import NetanaDriver.Ownership

/-! The open files of the device nodes and the descriptors of the processes: what the operations of
the driver leave of them, and who owns them. -/
namespace NetanaDriver

open Ownership SlotTable

/-- `netana_open` refuses the device. -/
def TkDevice.Busy (d : TkDevice) : Prop := d.hdevice ≠ none ∨ d.addsucceded = false

/-- Devices keep their minors, and those that are refused still are. -/
def KeepsBusy (s t : Registry) : Prop :=
  ∀ p, (t.devices p).minor = (s.devices p).minor ∧ ((s.devices p).Busy → (t.devices p).Busy)

theorem KeepsBusy.refl (s : Registry) : KeepsBusy s s := fun _ => ⟨rfl, id⟩

theorem KeepsBusy.trans {s t u : Registry} (h : KeepsBusy s t) (h' : KeepsBusy t u) :
    KeepsBusy s u :=
  fun p => ⟨(h' p).1.trans (h p).1, fun hp => (h' p).2 ((h p).2 hp)⟩

theorem KeepsBusy.set (s : Registry) (p : DevPtr) {d : TkDevice}
    (hminor : d.minor = (s.devices p).minor) (hbusy : (s.devices p).Busy → d.Busy) :
    KeepsBusy s (s.set p d) := by
  intro q
  by_cases hq : q = p
  · rw [hq, s.set_devices_self]
    exact ⟨hminor, hbusy⟩
  · rw [s.set_devices_ne d hq]
    exact ⟨rfl, id⟩

theorem deviceadd_busy (p : DevPtr) (ulDevNo : ℕ) (c : AddChoice) (s : Registry) :
    KeepsBusy s (netanaTkitDeviceadd p ulDevNo c s).1 := by
  obtain ⟨hminor, -, hhandle, -, hadded⟩ := (s.devices p).added_same ulDevNo c
  have hset : KeepsBusy s (s.set p ((s.devices p).added ulDevNo c)) := by
    apply KeepsBusy.set s p hminor
    intro hbusy
    unfold TkDevice.Busy
    rw [hhandle, hadded]
    exact hbusy
  unfold netanaTkitDeviceadd
  dsimp only
  split_ifs
  · exact hset
  · exact hset

theorem deviceremove_busy (p : DevPtr) (fForceRemove fAcknowledged : Bool) (s : Registry) :
    KeepsBusy s (netanaTkitDeviceremove p fForceRemove fAcknowledged s).1 := by
  unfold netanaTkitDeviceremove
  split_ifs
  · exact .refl s
  · exact .refl s
  · exact .refl s

theorem closeDevice_busy (hDev : Option DevPtr) (s : Registry) :
    KeepsBusy s (netanaCloseDevice hDev s).1 := by
  cases hDev with
  | none => exact .refl s
  | some p =>
    unfold netanaCloseDevice
    dsimp only
    split_ifs
    · exact .set s p rfl id
    · exact .refl s

theorem openDevice_busy (ulFilter : BitVec 32) (szDevice : List Char) (s : Registry) :
    KeepsBusy s (netanaOpenDevice ulFilter szDevice s).1 := by
  unfold netanaOpenDevice
  split
  · exact .refl s
  · dsimp only
    split_ifs
    · exact .refl s
    · exact .set s _ rfl id
    · exact .refl s

theorem restart_busy (p : DevPtr) (fAcknowledged : Bool) (c : AddChoice) (s : Registry) :
    KeepsBusy s (netanaRestartDevice p fAcknowledged c s).1 := by
  have hremoved := deviceremove_busy p true fAcknowledged s
  have hadded (n : ℕ) :=
    hremoved.trans (deviceadd_busy p n c (netanaTkitDeviceremove p true fAcknowledged s).1)
  unfold netanaRestartDevice
  dsimp only
  split_ifs
  · exact .refl s
  · exact hadded _
  · exact (hadded _).trans (closeDevice_busy _ _)
  · exact hremoved.trans (closeDevice_busy _ _)

theorem identUpdate_busy (p : DevPtr) (c : IdentChoice) (s : Registry) :
    KeepsBusy s (netanaIdentUpdate p c s).1 := by
  have hset : KeepsBusy s (netanaSetDeviceIdent p s).1 := by
    unfold netanaSetDeviceIdent
    dsimp only
    split_ifs
    · exact .refl s
    · exact .set s p rfl id
  have hrestart := hset.trans (restart_busy p c.fAcknowledged c.add (netanaSetDeviceIdent p s).1)
  unfold netanaIdentUpdate
  dsimp only
  split_ifs
  · exact .refl s
  · exact .refl s
  · exact .refl s
  · exact hrestart
  · exact hrestart
  -- a device that is lost has no handle, but it has not been added either
  · exact hrestart.trans (.set _ p rfl fun _ => Or.inr rfl)
  · exact hset

/-- The devices of the open files are refused, so that none has two of them. -/
structure FilesInv (s : Registry) : Prop where
  nodup : s.openFiles.Nodup
  busy : ∀ p ∈ s.openFiles, (s.devices p).Busy

theorem FilesInv.init (d : TkDevice) : FilesInv (Registry.init d) := by
  constructor
  · exact List.nodup_nil
  · intro p hp
    cases hp

/-- An operation that neither opens nor closes files, and leaves their devices alone. -/
structure KeepsFiles (s t : Registry) : Prop where
  files : t.openFiles = s.openFiles
  minor : ∀ p ∈ s.openFiles, (t.devices p).minor = (s.devices p).minor
  busy : ∀ p ∈ s.openFiles, (s.devices p).Busy → (t.devices p).Busy

theorem KeepsBusy.keepsFiles {s t : Registry} (h : KeepsBusy s t)
    (hfiles : t.openFiles = s.openFiles) : KeepsFiles s t :=
  ⟨hfiles, fun p _ => (h p).1, fun p _ => (h p).2⟩

theorem KeepsFiles.inv {s t : Registry} (h : KeepsFiles s t) (hs : FilesInv s) : FilesInv t := by
  refine ⟨h.files ▸ hs.nodup, ?_⟩
  intro p hp
  rw [h.files] at hp
  exact h.busy p hp (hs.busy p hp)

/-- What the driver does on its own account. -/
def RegistryAction.ofDriver : RegistryAction → Bool
  | .openFile _ _ | .release _ => false
  | _ => true

theorem register_keepsFiles {s : Registry} (hs : RegistryInv s) (c : RegisterChoice) :
    KeepsFiles s (netanaRegisterdevice c s).1 := by
  have hunlisted : s.nextPtr ∉ s.tCardList := fun h => hs.fresh le_rfl ((hs.listed _).mp h).1
  -- the new device is none of those that are open
  have hold (p : DevPtr) (hp : p ∈ s.openFiles) : p < s.nextPtr :=
    (hs.slots _ p (hs.files p hp)).2.2
  have hdevice (p : DevPtr) (hp : p ∈ s.openFiles) :
      (netanaRegisterdevice c s).1.devices p = s.devices p := by
    rcases register_cases c hunlisted with hsame | ⟨idr, minor, -, -, hresult⟩
    · exact hsame.devices p (hold p hp)
    · rw [hresult]
      exact s.set_devices_ne _ (ne_of_lt (hold p hp))
  refine ⟨(register_files c s).files, ?_, ?_⟩
  · intro p hp
    rw [hdevice p hp]
  · intro p hp
    rw [hdevice p hp]
    exact id

theorem driver_keepsFiles {s t : Registry} {a : RegistryAction} (hs : RegistryInv s)
    (ha : a.ofDriver = true) (h : registryStep s a = some t) : KeepsFiles s t := by
  cases a with
  | register c =>
    cases h
    exact register_keepsFiles hs c
  | unregister p fAcknowledged =>
    obtain ⟨-, ht⟩ := Option.ite_none_right_eq_some.mp h
    cases ht
    have hbusy : KeepsBusy s (netanaUnregisterdevice p fAcknowledged s) := by
      unfold netanaUnregisterdevice
      dsimp only
      split_ifs
      · exact deviceremove_busy p true fAcknowledged s
      · exact .refl s
    exact hbusy.keepsFiles (unregister_files p fAcknowledged s).files
  | openFile ulFilter minor => cases ha
  | release p => cases ha
  | identUpdate p c =>
    obtain ⟨-, ht⟩ := Option.ite_none_right_eq_some.mp h
    cases ht
    exact (identUpdate_busy p c s).keepsFiles (identUpdate_nodes p c s).files
  | capture p fCaptureRunning =>
    obtain ⟨-, ht⟩ := Option.ite_none_right_eq_some.mp h
    cases ht
    have hset : KeepsBusy s (s.set p { s.devices p with fCaptureRunning := fCaptureRunning }) :=
      .set s p rfl id
    exact hset.keepsFiles rfl

/-- `netana_open` opens the device of the minor, which has not been busy, or no file at all. -/
theorem open_cases (ulFilter : BitVec 32) (minor : ℕ) (s : Registry) :
    KeepsBusy s (s.netanaOpen ulFilter minor).1 ∧
      ((s.netanaOpen ulFilter minor).2 = 0 ∧ (∃ p, find s.netAnaIDR minor = some p ∧
          ¬ (s.devices p).Busy ∧ (s.netanaOpen ulFilter minor).1.openFiles = p :: s.openFiles ∧
            ((s.netanaOpen ulFilter minor).1.devices p).Busy) ∨
        (s.netanaOpen ulFilter minor).2 ≠ 0 ∧
          (s.netanaOpen ulFilter minor).1.openFiles = s.openFiles) := by
  have hset {p : DevPtr} {t : Registry} (ht : KeepsBusy s t) (hfree : ¬ (s.devices p).Busy)
      (hDev : Option DevPtr) : KeepsBusy s (t.set p { t.devices p with hdevice := hDev }) := by
    intro q
    by_cases hq : q = p
    · rw [hq, t.set_devices_self]
      exact ⟨(ht p).1, fun h => absurd h hfree⟩
    · rw [t.set_devices_ne _ hq]
      exact ht q
  rcases netanaOpen_ends ulFilter minor s with
    ⟨p, t, hfind, hadded, hhandle, rfl, hcases⟩ | ⟨lRet, hret, hopen⟩
  · have hfree : ¬ (s.devices p).Busy := by
      simpa [TkDevice.Busy, hadded] using hhandle
    have hbusy := openDevice_busy ulFilter (s.devices p).szDeviceName
      { s with moduleRefs := s.moduleRefs + 1 }
    have hfiles := (openDevice_nodes ulFilter (s.devices p).szDeviceName
      { s with moduleRefs := s.moduleRefs + 1 }).files
    rcases hcases with ⟨hDev, hopen⟩ | hopen
    · rw [hopen]
      refine ⟨hset hbusy hfree (some hDev), Or.inl ⟨rfl, p, hfind, hfree, ?_, ?_⟩⟩
      · exact congrArg (p :: ·) hfiles
      · change ((Registry.set _ p _).devices p).Busy
        rw [Registry.set_devices_self]
        exact Or.inl (Option.some_ne_none hDev)
    · rw [hopen]
      have henodev : -enodev ≠ 0 := by decide
      exact ⟨hset hbusy hfree none, Or.inr ⟨henodev, hfiles⟩⟩
  · rw [hopen]
    exact ⟨.refl s, Or.inr ⟨hret, rfl⟩⟩

theorem release_busy {p q : DevPtr} {s : Registry} (hq : q ≠ p) :
    ((s.netanaRelease p).devices q).minor = (s.devices q).minor ∧
      ((s.devices q).Busy → ((s.netanaRelease p).devices q).Busy) := by
  have hclosed := closeDevice_busy (s.devices p).hdevice s q
  change ((Registry.set _ p _).devices q).minor = _ ∧ (_ → ((Registry.set _ p _).devices q).Busy)
  rw [Registry.set_devices_ne _ _ hq]
  exact hclosed

theorem release_openFiles (p : DevPtr) (s : Registry) :
    (s.netanaRelease p).openFiles = s.openFiles.erase p := by
  have hclosed := (closeDevice_nodes (s.devices p).hdevice s).files
  change (netanaCloseDevice (s.devices p).hdevice s).1.openFiles.erase p = _
  rw [hclosed]

section Descriptors

variable {π : Type*}

/-- The driver, the descriptors of the processes for its nodes, and who has locked a node. -/
structure FileTable (π : Type*) where
  registry : Registry
  fds : π × ℕ → Option DevPtr
  flocks : DevPtr → Option (π × ℕ)

namespace FileTable

variable [DecidableEq π]

/-- `open` of the node with a minor, which hands out the descriptor `x`. -/
def openFile (ulFilter : BitVec 32) (minor : ℕ) (x : π × ℕ) (f : FileTable π) :
    FileTable π × Bool :=
  let r := f.registry.netanaOpen ulFilter minor
  if r.2 = 0 then
    ({ f with
        registry := r.1
        fds := Function.update f.fds x (find f.registry.netAnaIDR minor) }, true)
  else ({ f with registry := r.1 }, false)

/-- `flock` gives the node of `p` to the file of the descriptor. -/
def lock (x : π × ℕ) (p : DevPtr) (f : FileTable π) : FileTable π :=
  { f with flocks := Function.update f.flocks p (some x) }

/-- `close`, which unlocks the node as well; there may be no such descriptor. -/
def close (x : π × ℕ) (f : FileTable π) : Option (FileTable π) :=
  (f.fds x).map fun p =>
    { registry := f.registry.netanaRelease p
      fds := Function.update f.fds x none
      flocks := if f.flocks p = some x then Function.update f.flocks p none else f.flocks }

end FileTable

/-- A descriptor, and what its owner knows of it: the number of the device, and whether the node is
locked. -/
structure Descriptor (π : Type*) where
  slot : π × ℕ
  known : Option (ℕ × Bool)
  deriving DecidableEq, Repr

/-- The descriptor is open, and for what its owner takes it for. -/
def FileTable.Shows (f : FileTable π) (d : Descriptor π) : Prop :=
  ∃ p, f.fds d.slot = some p ∧ ∀ iDeviceNum fLocked, d.known = some (iDeviceNum, fLocked) →
    (f.registry.devices p).minor = iDeviceNum ∧
      f.flocks p = if fLocked then some d.slot else none

/-- Every open file has one descriptor, and every descriptor one owner. -/
structure DescriptorInv {ω : Type*} (f : FileTable π) (hold : ω → Option (Descriptor π)) :
    Prop where
  registry : RegistryInv f.registry
  files : FilesInv f.registry
  opened : Owned f.fds (· ∈ f.registry.openFiles)
  held : Owned (fun o => (hold o).map Descriptor.slot) fun x => (f.fds x).isSome = true
  shows : ∀ o d, hold o = some d → f.Shows d
  locks : ∀ p x, f.flocks p = some x → f.fds x = some p

namespace DescriptorInv

variable {ω : Type*} {f : FileTable π} {hold hold' : ω → Option (Descriptor π)} {o o' : ω}
  {d : Descriptor π}

theorem init (r : TkDevice) :
    DescriptorInv ⟨Registry.init r, fun _ : π × ℕ => none, fun _ => none⟩
      (fun _ : ω => (none : Option (Descriptor π))) where
  registry := .init r
  files := .init r
  opened := owned_none.congr (fun _ => rfl) fun _ => by simp [Registry.init]
  held := owned_none.congr (fun _ => rfl) fun _ => by simp
  shows := by simp
  locks := by simp

theorem congr (h : DescriptorInv f hold) (hsame : ∀ o, hold' o = hold o) :
    DescriptorInv f hold' := by
  have hhold : hold' = hold := funext hsame
  rw [hhold]
  exact h

/-- The device of a descriptor. -/
theorem device (h : DescriptorInv f hold) (ho : hold o = some d) :
    ∃ p, f.fds d.slot = some p ∧ p ∈ f.registry.openFiles ∧ f.registry.Registered p := by
  obtain ⟨p, hp, -⟩ := h.shows o d ho
  have hopen := h.opened.held_live hp
  exact ⟨p, hp, hopen, h.registry.files p hopen⟩

/-- The other owners have other descriptors. -/
theorem slot_ne (h : DescriptorInv f hold) (ho : hold o = some d) {d' : Descriptor π}
    (ho' : hold o' = some d') (hne : o' ≠ o) : d'.slot ≠ d.slot := by
  intro hslot
  apply hne
  apply h.held.unique o' o d.slot
  · rw [ho', ← hslot]
    rfl
  · rw [ho]
    rfl

/-- The driver does something to its devices. -/
theorem keeps (h : DescriptorInv f hold) {r : Registry} (hr : RegistryInv r)
    (hkeeps : KeepsFiles f.registry r) : DescriptorInv { f with registry := r } hold where
  registry := hr
  files := hkeeps.inv h.files
  opened := h.opened.congr (fun _ => rfl) fun p => by
    change p ∈ r.openFiles ↔ _
    rw [hkeeps.files]
  held := h.held
  shows := by
    intro o d ho
    obtain ⟨p, hp, hknown⟩ := h.shows o d ho
    refine ⟨p, hp, ?_⟩
    rw [hkeeps.minor p (h.opened.held_live hp)]
    exact hknown
  locks := h.locks

/-- A node that nobody has open is not locked. -/
theorem unlocked (h : DescriptorInv f hold) {p : DevPtr} (hp : p ∉ f.registry.openFiles) :
    f.flocks p = none := by
  cases hlock : f.flocks p with
  | none => rfl
  | some x => exact absurd (h.opened.held_live (h.locks p x hlock)) hp

/-- A descriptor goes to another owner, who knows the same of it. -/
theorem passes (h : DescriptorInv f hold) (ho : hold o = some d) (hempty : hold o' = none)
    (hself : hold' o = none) (hother : hold' o' = some d)
    (hothers : ∀ u, u ≠ o → u ≠ o' → hold' u = hold u) : DescriptorInv f hold' where
  registry := h.registry
  files := h.files
  opened := h.opened
  held := by
    have hgiver : (hold o).map Descriptor.slot = some d.slot := congrArg _ ho
    have htaker : (hold o').map Descriptor.slot = none := congrArg _ hempty
    apply h.held.pass hgiver htaker
    · rw [hself]
      rfl
    · rw [hother]
      rfl
    · intro u hu hu'
      rw [hothers u hu hu']
    · intro x
      exact Iff.rfl
  shows := by
    intro u e hu
    by_cases huo : u = o
    · rw [huo, hself] at hu
      cases hu
    by_cases huo' : u = o'
    · rw [huo', hother] at hu
      cases hu
      exact h.shows o d ho
    · rw [hothers u huo huo'] at hu
      exact h.shows u e hu
  locks := h.locks

/-- An owner locks the node. -/
theorem locked (h : DescriptorInv f hold) {x : π × ℕ} {minor : ℕ} {fLocked : Bool} {p : DevPtr}
    (ho : hold o = some ⟨x, some (minor, fLocked)⟩) (hp : f.fds x = some p)
    (hself : hold' o = some ⟨x, some (minor, true)⟩)
    (hothers : ∀ o', o' ≠ o → hold' o' = hold o') : DescriptorInv (f.lock x p) hold' where
  registry := h.registry
  files := h.files
  opened := h.opened
  held := by
    apply h.held.congr
    · intro o'
      by_cases hoo : o' = o
      · rw [hoo, hself, ho]
        rfl
      · rw [hothers o' hoo]
    · intro y
      exact Iff.rfl
  shows := by
    obtain ⟨p', hp', hknown⟩ := h.shows o _ ho
    obtain rfl : p' = p := Option.some.inj (hp'.symm.trans hp)
    intro o' e ho'
    by_cases hoo : o' = o
    · rw [hoo, hself] at ho'
      cases ho'
      refine ⟨p', hp, ?_⟩
      intro n l hnow
      cases hnow
      exact ⟨(hknown minor fLocked rfl).1, Function.update_self p' _ _⟩
    · rw [hothers o' hoo] at ho'
      obtain ⟨q, hq, hothers⟩ := h.shows o' e ho'
      -- the lock is not on the node of another owner
      have hqp : q ≠ p' := by
        rintro rfl
        exact h.slot_ne ho ho' hoo (h.opened.unique _ _ q hq hp)
      refine ⟨q, hq, ?_⟩
      change ∀ n l, e.known = some (n, l) → _ ∧ Function.update f.flocks p' (some x) q = _
      rw [Function.update_of_ne hqp]
      exact hothers
  locks := by
    intro q y hlock
    by_cases hq : q = p
    · rw [hq] at hlock ⊢
      have hx : some x = some y := (Function.update_self p _ _).symm.trans hlock
      rw [← Option.some.inj hx]
      exact hp
    · exact h.locks q y ((Function.update_of_ne hq _ _).symm.trans hlock)

variable [DecidableEq π]

theorem opens (h : DescriptorInv f hold) {ulFilter : BitVec 32} {minor : ℕ} {x : π × ℕ}
    (hfree : f.fds x = none) (hempty : hold o = none)
    (hself : hold' o = some ⟨x, some (minor, false)⟩) (hothers : ∀ o', o' ≠ o → hold' o' = hold o')
    (hopen : (f.openFile ulFilter minor x).2 = true) :
    DescriptorInv (f.openFile ulFilter minor x).1 hold' := by
  obtain ⟨hkeeps, hcases⟩ := open_cases ulFilter minor f.registry
  have hinv := h.registry.openFile ulFilter minor
  unfold FileTable.openFile at hopen ⊢
  dsimp only at hopen ⊢
  by_cases hret : (f.registry.netanaOpen ulFilter minor).2 = 0
  · rw [if_pos hret] at hopen ⊢
    obtain ⟨-, p, hfind, hbusy, hfiles, hnow⟩ := hcases.resolve_right fun hno => hno.1 hret
    -- a device with an open file is busy
    have hnew : p ∉ f.registry.openFiles := fun hp => hbusy (h.files.busy p hp)
    have hslot (y : π × ℕ) (q : DevPtr) (hy : f.fds y = some q) : y ≠ x := by
      rintro rfl
      rw [hfree] at hy
      cases hy
    rw [hfind]
    refine ⟨hinv, ⟨?_, ?_⟩, ?_, ?_, ?_, ?_⟩
    · rw [hfiles]
      exact List.nodup_cons.mpr ⟨hnew, h.files.nodup⟩
    · intro q hq
      rw [hfiles] at hq
      rcases List.mem_cons.mp hq with rfl | hq
      · exact hnow
      · exact (hkeeps q).2 (h.files.busy q hq)
    · -- the driver has the new file open for the descriptor
      apply h.opened.acquire hfree hnew (Function.update_self x _ _)
      · intro y hy
        exact Function.update_of_ne hy _ _
      · intro q
        rw [hfiles, List.mem_cons]
    · -- and the thread has the descriptor
      apply h.held.acquire (o := o) (r := x)
      · rw [hempty]
        rfl
      · rw [hfree]
        exact Bool.false_ne_true
      · rw [hself]
        rfl
      · intro o' ho'
        rw [hothers o' ho']
      · intro y
        by_cases hy : y = x
        · simp [hy]
        · simp [hy]
    · intro o' e ho'
      by_cases hoo : o' = o
      · rw [hoo, hself] at ho'
        cases ho'
        refine ⟨p, Function.update_self x _ _, ?_⟩
        intro iDeviceNum fLocked hknown
        cases hknown
        rw [(hkeeps p).1]
        exact ⟨(h.registry.slots minor p hfind).1, h.unlocked hnew⟩
      · rw [hothers o' hoo] at ho'
        obtain ⟨q, hq, hknown⟩ := h.shows o' e ho'
        refine ⟨q, ?_, ?_⟩
        · rw [← hq]
          exact Function.update_of_ne (hslot _ q hq) _ _
        · rw [(hkeeps q).1]
          exact hknown
    · intro q y hlock
      have hy := h.locks q y hlock
      rw [← hy]
      exact Function.update_of_ne (hslot y q hy) _ _
  · rw [if_neg hret] at hopen
    cases hopen

/-- A file that is not opened. -/
theorem refused (h : DescriptorInv f hold) {ulFilter : BitVec 32} {minor : ℕ} {x : π × ℕ}
    (hopen : (f.openFile ulFilter minor x).2 = false) :
    DescriptorInv (f.openFile ulFilter minor x).1 hold := by
  obtain ⟨hkeeps, hcases⟩ := open_cases ulFilter minor f.registry
  have hinv := h.registry.openFile ulFilter minor
  unfold FileTable.openFile at hopen ⊢
  dsimp only at hopen ⊢
  by_cases hret : (f.registry.netanaOpen ulFilter minor).2 = 0
  · rw [if_pos hret] at hopen
    cases hopen
  · rw [if_neg hret]
    obtain ⟨-, hfiles⟩ := hcases.resolve_left fun hyes => hret hyes.1
    exact h.keeps hinv (hkeeps.keepsFiles hfiles)

/-- An owner closes its descriptor. -/
theorem closes (h : DescriptorInv f hold) (ho : hold o = some d) :
    ∃ g, f.close d.slot = some g ∧ g.fds d.slot = none ∧
      (∀ x, x ≠ d.slot → g.fds x = f.fds x) ∧
        ∀ hold', hold' o = none → (∀ o', o' ≠ o → hold' o' = hold o') → DescriptorInv g hold' := by
  obtain ⟨p, hp, hopen, hregistered⟩ := h.device ho
  refine ⟨_, congrArg (Option.map _) hp, Function.update_self _ _ _,
    fun x hx => Function.update_of_ne hx _ _, ?_⟩
  intro hold' hself hothers
  -- the other descriptors are for other devices, and keep their locks
  have hother (y : π × ℕ) (q : DevPtr) (hq : f.fds y = some q) (hy : y ≠ d.slot) : q ≠ p := by
    rintro rfl
    exact hy (h.opened.unique y d.slot q hq hp)
  have hkept (y : π × ℕ) (q : DevPtr) (hq : f.fds y = some q) (hy : y ≠ d.slot) :
      Function.update f.fds d.slot none y = some q := by
    rw [Function.update_of_ne hy, hq]
  have hflocks (q : DevPtr) (hq : q ≠ p) :
      (if f.flocks p = some d.slot then Function.update f.flocks p none else f.flocks) q =
        f.flocks q := by
    split_ifs
    · exact Function.update_of_ne hq _ _
    · rfl
  refine ⟨h.registry.release hregistered, ⟨?_, ?_⟩, ?_, ?_, ?_, ?_⟩
  · change (f.registry.netanaRelease p).openFiles.Nodup
    rw [release_openFiles]
    exact h.files.nodup.erase p
  · intro q hq
    change q ∈ (f.registry.netanaRelease p).openFiles at hq
    rw [release_openFiles, h.files.nodup.mem_erase_iff] at hq
    exact (release_busy hq.1).2 (h.files.busy q hq.2)
  · apply h.opened.release hp (Function.update_self _ _ _)
    · intro y hy
      exact Function.update_of_ne hy _ _
    · intro q
      change q ∈ (f.registry.netanaRelease p).openFiles ↔ _
      rw [release_openFiles, h.files.nodup.mem_erase_iff]
  · apply h.held.release (o := o) (r := d.slot)
    · rw [ho]
      rfl
    · rw [hself]
      rfl
    · intro o' ho'
      rw [hothers o' ho']
    · intro y
      by_cases hy : y = d.slot
      · simp [hy]
      · simp [hy]
  · intro o' e ho'
    have hoo : o' ≠ o := by
      rintro rfl
      rw [hself] at ho'
      cases ho'
    rw [hothers o' hoo] at ho'
    have hslot := h.slot_ne ho ho' hoo
    obtain ⟨q, hq, hknown⟩ := h.shows o' e ho'
    have hqp := hother _ q hq hslot
    refine ⟨q, hkept _ q hq hslot, ?_⟩
    intro n l hn
    obtain ⟨hminor, hlock⟩ := hknown n l hn
    exact ⟨(release_busy hqp).1.trans hminor, (hflocks q hqp).trans hlock⟩
  · -- the lock goes with the file
    intro q y hlock
    by_cases hqp : q = p
    · rw [hqp] at hlock
      change (if f.flocks p = some d.slot then Function.update f.flocks p none else f.flocks) p =
        some y at hlock
      split_ifs at hlock with hmine
      · rw [Function.update_self] at hlock
        cases hlock
      · have hy : y ≠ d.slot := by
          rintro rfl
          exact hmine hlock
        exact absurd rfl (hother y p (h.locks p y hlock) hy)
    · have hbefore := h.locks q y ((hflocks q hqp).symm.trans hlock)
      apply hkept y q hbefore
      rintro rfl
      exact hqp (Option.some.inj (hbefore.symm.trans hp))

end DescriptorInv

end Descriptors

end NetanaDriver
