import NetanaDriver.FirmwareFiles

/-! What the threads get that load files while nobody else is opening one. -/
namespace NetanaDriver
open ExclusiveSection HandleTable StepRuns

section Invariant

variable {ι δ : Type*}

/-- The firmware that a thread answers for: it is in a global pointer first. -/
def FilePc.slot (pointer : FirmwarePointer → Option ℕ) : FilePc δ → Option ℕ
  | .takeFirmware p => pointer p
  | .takeSize _ ptFW => ptFW
  | .opened hFile _ | .copied hFile _ => some hFile
  | _ => none

/-- The handles of the threads. -/
def FileLoader.table (s : FileLoader ι δ) : Table ι :=
  { slot := fun t => (s.threads t).bind fun th => th.pc.slot s.pointer
    live := s.live
    next := s.next
    fault := s.fault }

namespace FileThread

/-- The name of its own file. -/
def ownName (instances : δ → FileInstance) (th : FileThread δ) : List Char :=
  ((instances th.device).file th.file).szFullFileName

/-- A request for its own file. -/
def own (instances : δ → FileInstance) (th : FileThread δ)
    (found : Option (List (BitVec 8))) : FirmwareRequest δ :=
  ⟨th.device, th.ownName instances, found⟩

/-- The thread knows its file, and the instance is its own. -/
def Ready (instances : δ → FileInstance) (s : FileLoader ι δ) (th : FileThread δ) : Prop :=
  th.szFullFileName = th.ownName instances ∧ s.sPdeviceinstance = some th.device

/-- What is so of a thread where it is. -/
def At (instances : δ → FileInstance) (s : FileLoader ι δ) (t : ι) (th : FileThread δ) : Prop :=
  match th.pc with
  | .setInstance | .clearInstance => True
  | .switchClass => th.file = .firmware ∧ s.sPdeviceinstance = some th.device
  | .testInstance | .readInfo => th.Ready instances s
  | .readBootloader d | .readFirmware d | .switchFirmware d =>
    th.Ready instances s ∧ d = th.device
  | .setBootloader d ptDevInst | .setFirmware d ptDevInst =>
    th.Ready instances s ∧ d = th.device ∧ ptDevInst = some th.device
  | .readIdent d tFWFileInfo =>
    th.Ready instances s ∧ d = th.device ∧
      tFWFileInfo = firmwareFile (instances th.device).usDeviceClass
  | .setIdent d tFWFileInfo ptDevInst =>
    th.Ready instances s ∧ d = th.device ∧
      tFWFileInfo = firmwareFile (instances th.device).usDeviceClass ∧
      ptDevInst = some th.device
  | .requestFirmware d tFWFileInfo tIdentFileInfo =>
    th.Ready instances s ∧ d = th.device ∧
      tFWFileInfo = firmwareFile (instances th.device).usDeviceClass ∧
      tIdentFileInfo = identInfoFile (instances th.device)
  | .takeFirmware p =>
    ∃ n, s.pointer p = some n ∧ s.asked t = some (th.own instances (some (s.data n)))
  | .takeSize p ptFW =>
    ∃ n, ptFW = some n ∧ s.pointer p = some n ∧
      s.asked t = some (th.own instances (some (s.data n)))
  | .notOpened => s.asked t = some (th.own instances none)
  | .opened hFile ullFileLen =>
    s.asked t = some (th.own instances (some (s.data hFile))) ∧
      ullFileLen = (s.data hFile).length
  | .copied hFile pvFileData =>
    s.asked t = some (th.own instances (some (s.data hFile))) ∧ pvFileData = s.data hFile

end FileThread

structure LoaderInv (instances : δ → FileInstance) (s : FileLoader ι δ) : Prop where
  alone : Exclusive s.threads (fun th => th.pc.inside) true
  here : ∀ t th, s.threads t = some th → th.At instances s t
  balanced : Balanced s.table

variable {instances : δ → FileInstance} {s s' : FileLoader ι δ} {t : ι} {th : FileThread δ}

theorem FilePc.slot_outside {pc : FilePc δ} (h : pc.inside = false)
    (q q' : FirmwarePointer → Option ℕ) : pc.slot q = pc.slot q' := by
  cases pc with
  | takeFirmware p => cases h
  | _ => rfl

/-- Outside of `OS_FileOpen` the global variables do not matter. -/
theorem FileThread.At.outside (h : th.At instances s t) (hout : th.pc.inside = false)
    (hasked : s'.asked t = s.asked t)
    (hdata : ∀ n, th.pc.slot s.pointer = some n → s'.data n = s.data n) :
    th.At instances s' t := by
  obtain ⟨device, file, szFullFileName, pc⟩ := th
  unfold FileThread.At at h ⊢
  cases pc with
  | setInstance => trivial
  | clearInstance => trivial
  | notOpened => exact hasked.trans h
  | opened hFile ullFileLen =>
    dsimp only at h ⊢
    rw [hasked, hdata hFile rfl]
    exact h
  | copied hFile pvFileData =>
    dsimp only at h ⊢
    rw [hasked, hdata hFile rfl]
    exact h
  | _ => cases hout

theorem FileLoader.slot_of_thread (hth : s.threads t = some th) :
    s.table.slot t = th.pc.slot s.pointer := by
  change (s.threads t).bind (fun th => th.pc.slot s.pointer) = _
  rw [hth]
  rfl

theorem LoaderInv.live (h : LoaderInv instances s) (hth : s.threads t = some th) {n : ℕ}
    (hslot : th.pc.slot s.pointer = some n) : s.live n = true := by
  apply (h.balanced.owned n).mpr
  exact ⟨t, (FileLoader.slot_of_thread hth).trans hslot⟩

theorem LoaderInv.othersOutside (h : LoaderInv instances s) (hth : s.threads t = some th)
    (hin : th.pc.inside = true) : s.othersOutside t :=
  fun u hu th' hth' => h.alone.others hth hin u th' hu hth'

theorem FileLoader.othersOutside.slot (hothers : s.othersOutside t)
    (q : FirmwarePointer → Option ℕ) (u : ι) (hu : u ≠ t) (th : FileThread δ)
    (hth : s.threads u = some th) : th.pc.slot q = th.pc.slot s.pointer :=
  FilePc.slot_outside (hothers u hu th hth) _ _

theorem LoaderInv.start : LoaderInv instances (FileLoader.start : FileLoader ι δ) where
  alone := exclusive_none
  here := fun _ _ h => nomatch h
  balanced := Balanced.empty

variable [DecidableEq ι]

/-- A step of a thread while all others are outside. -/
theorem LoaderInv.moves (h : LoaderInv instances s) (hothers : s.othersOutside t)
    {next : Option (FileThread δ)} (hthreads : s'.threads = Function.update s.threads t next)
    (hasked : ∀ u, u ≠ t → s'.asked u = s.asked u)
    (hdata : ∀ n, s.live n = true → s'.data n = s.data n)
    (hat : ∀ th', next = some th' → th'.At instances s' t) (hbalanced : Balanced s'.table) :
    LoaderInv instances s' := by
  have hself : s'.threads t = next := by
    rw [hthreads]
    exact Function.update_self _ _ _
  have hother (u : ι) (hu : u ≠ t) : s'.threads u = s.threads u := by
    rw [hthreads]
    exact Function.update_of_ne hu _ _
  refine ⟨?_, ?_, hbalanced⟩
  · apply exclusive_of_actor hself
    · intro u th' hu hth'
      rw [hother u hu] at hth'
      exact hothers u hu th' hth'
    · exact fun _ _ _ => rfl
  · intro u th' hth'
    by_cases hu : u = t
    · subst hu
      rw [hself] at hth'
      exact hat th' hth'
    · rw [hother u hu] at hth'
      apply (h.here u th' hth').outside (hothers u hu th' hth') (hasked u hu)
      exact fun n hn => hdata n (h.live hth' hn)

/-- A step of a thread outside, which leaves the global variables alone. -/
theorem LoaderInv.stays (h : LoaderInv instances s) {next : Option (FileThread δ)}
    (hthreads : s'.threads = Function.update s.threads t next)
    (hout : ∀ th', next = some th' → th'.pc.inside = false)
    (hinstance : s'.sPdeviceinstance = s.sPdeviceinstance) (hpointer : s'.pointer = s.pointer)
    (hasked : s'.asked = s.asked) (hdata : s'.data = s.data)
    (hat : ∀ th', next = some th' → th'.At instances s' t) (hbalanced : Balanced s'.table) :
    LoaderInv instances s' := by
  have hself : s'.threads t = next := by
    rw [hthreads]
    exact Function.update_self _ _ _
  have hother (u : ι) (hu : u ≠ t) : s'.threads u = s.threads u := by
    rw [hthreads]
    exact Function.update_of_ne hu _ _
  refine ⟨h.alone.outside hself hother hout, ?_, hbalanced⟩
  intro u th' hth'
  by_cases hu : u = t
  · subst hu
    rw [hself] at hth'
    exact hat th' hth'
  · rw [hother u hu] at hth'
    have hbefore := h.here u th' hth'
    unfold FileThread.At FileThread.Ready at hbefore ⊢
    rw [hinstance, hpointer, hasked, hdata]
    exact hbefore

/-- The handles after a step of `t`. -/
theorem table_slot {v : FileLoader ι δ} {next : Option (FileThread δ)}
    (hthreads : v.threads = Function.update s.threads t next)
    (hothers : ∀ u, u ≠ t → ∀ th, s.threads u = some th →
      th.pc.slot v.pointer = th.pc.slot s.pointer) (u : ι) :
    v.table.slot u =
      if u = t then next.bind fun th' => th'.pc.slot v.pointer else s.table.slot u := by
  change (v.threads u).bind (fun th' => th'.pc.slot v.pointer) = _
  rw [hthreads]
  by_cases hu : u = t
  · rw [if_pos hu, hu, Function.update_self]
  · rw [if_neg hu, Function.update_of_ne hu]
    change _ = (s.threads u).bind fun th' => th'.pc.slot s.pointer
    cases hth : s.threads u with
    | none => rfl
    | some th' => exact hothers u hu th' hth

/-- They are the same if the one of the thread is. -/
theorem LoaderInv.table (h : LoaderInv instances s) {next : Option (FileThread δ)}
    (hthreads : s'.threads = Function.update s.threads t next)
    (hothers : ∀ u, u ≠ t → ∀ th, s.threads u = some th →
      th.pc.slot s'.pointer = th.pc.slot s.pointer)
    (hslot : (next.bind fun th' => th'.pc.slot s'.pointer) = s.table.slot t)
    (hlive : s'.live = s.live) (hnext : s'.next = s.next) (hfault : s'.fault = s.fault) :
    Balanced s'.table := by
  have hslots : s'.table.slot = s.table.slot := by
    funext u
    rw [table_slot hthreads hothers]
    by_cases hu : u = t
    · rw [if_pos hu, hu, hslot]
    · rw [if_neg hu]
  obtain ⟨howned, hunique, hfresh, hsound⟩ := h.balanced
  refine ⟨?_, ?_, ?_, hfault.trans hsound⟩
  · intro n
    change s'.live n = true ↔ _
    rw [hslots, hlive]
    exact howned n
  · rw [hslots]
    exact hunique
  · intro n hn
    change s'.live n = true at hn
    change n < s'.next
    rw [hlive] at hn
    rw [hnext]
    exact hfresh n hn

/-- A step that changes nothing but the instance. -/
theorem LoaderInv.quiet (h : LoaderInv instances s) (hth : s.threads t = some th)
    (hothers : s.othersOutside t) (x : Option δ) {th' : FileThread δ}
    (hslot : th'.pc.slot s.pointer = th.pc.slot s.pointer)
    (hat : th'.At instances { s with sPdeviceinstance := x } t) :
    LoaderInv instances { s with
      sPdeviceinstance := x
      threads := Function.update s.threads t (some th') } := by
  refine h.moves hothers rfl ?_ ?_ ?_ ?_
  · exact fun _ _ => rfl
  · exact fun _ _ => rfl
  · intro th'' heq
    cases heq
    exact hat
  · refine h.table rfl (hothers.slot _) ?_ rfl rfl rfl
    exact hslot.trans (FileLoader.slot_of_thread hth).symm

/-- A file that is one of the three has a pointer. -/
theorem pointerFor_own (d : FileInstance) (file : TkitFile) :
    ∃ p, FileLoader.pointerFor (d.file file).szFullFileName (firmwareFile d.usDeviceClass)
      (identInfoFile d) = some p := by
  unfold FileLoader.pointerFor
  by_cases hboot : bootloaderFile.szFullFileName = (d.file file).szFullFileName
  · exact ⟨_, if_pos hboot⟩
  rw [if_neg hboot]
  by_cases hfirmware : (firmwareFile d.usDeviceClass).szFullFileName = (d.file file).szFullFileName
  · exact ⟨_, if_pos hfirmware⟩
  rw [if_neg hfirmware]
  cases file with
  | bootloader => exact absurd rfl hboot
  | firmware => exact absurd rfl hfirmware
  | identInfo => exact ⟨_, if_pos rfl⟩

/-- `request_firmware` for the file of a thread. -/
theorem LoaderInv.request (h : LoaderInv instances s) (hth : s.threads t = some th)
    (hothers : s.othersOutside t) (hempty : th.pc.slot s.pointer = none) (p : FirmwarePointer)
    (found : Option (List (BitVec 8))) :
    LoaderInv instances ((s.request t p (th.own instances found)).goes t th
      (if found.isSome then .takeFirmware p else .notOpened)) := by
  cases found with
  | none =>
    refine h.moves hothers rfl ?_ ?_ ?_ ?_
    · exact fun u hu => Function.update_of_ne hu _ _
    · exact fun _ _ => rfl
    · intro th' heq
      cases heq
      exact Function.update_self _ _ _
    · refine h.table rfl (hothers.slot _) ?_ rfl rfl rfl
      exact hempty.symm.trans (FileLoader.slot_of_thread hth).symm
  | some data =>
    have hnext : s.live s.next = false := by
      by_contra hlive
      exact lt_irrefl _ (h.balanced.fresh _ (Bool.eq_true_of_not_eq_false hlive))
    refine h.moves hothers rfl ?_ ?_ ?_ ?_
    · exact fun u hu => Function.update_of_ne hu _ _
    · intro n hn
      apply Function.update_of_ne
      rintro rfl
      exact absurd (hn.symm.trans hnext) (by decide)
    · intro th' heq
      cases heq
      refine ⟨s.next, Function.update_self _ _ _, ?_⟩
      have hdata : (s.request t p (th.own instances (some data))).data s.next = data :=
        Function.update_self _ _ _
      exact (Function.update_self _ _ _).trans (congrArg (fun d => some (th.own instances (some d)))
        hdata.symm)
    · -- the new handle goes into the empty slot of the thread
      have hcreated : ((s.request t p (th.own instances (some data))).goes t th
          (.takeFirmware p)).table = create t true s.table := by
        have hslots (u : ι) := table_slot (s := s)
          (v := (s.request t p (th.own instances (some data))).goes t th (.takeFirmware p))
          rfl (hothers.slot _) u
        unfold FileLoader.table at hslots ⊢
        unfold create
        rw [if_pos rfl]
        congr 1
        funext u
        refine (hslots u).trans ?_
        by_cases hu : u = t
        · rw [if_pos hu, hu, Function.update_self]
          exact Function.update_self _ _ _
        · rw [if_neg hu, Function.update_of_ne hu]
      have hslot : s.table.slot t = none := by
        rw [FileLoader.slot_of_thread hth]
        exact hempty
      exact hcreated ▸ h.balanced.create hslot true

/-- The next statement of a thread that nobody else disturbs. -/
theorem LoaderInv.statement (h : LoaderInv instances s) (hth : s.threads t = some th)
    (halone : th.pc.setsInstance = true → s.othersOutside t)
    {found : Option (List (BitVec 8))} (hstep : s.statement instances t th found = some s') :
    LoaderInv instances s' := by
  have hhere := h.here t th hth
  have hinside := h.othersOutside hth
  obtain ⟨device, file, szFullFileName, pc⟩ := th
  unfold FileThread.At at hhere
  unfold FileLoader.statement at hstep
  cases pc with
  | setInstance =>
    have hothers := halone rfl
    cases file with
    | bootloader =>
      cases hstep
      exact h.quiet hth hothers (some device) rfl ⟨rfl, rfl⟩
    | firmware =>
      cases hstep
      exact h.quiet hth hothers (some device) rfl ⟨rfl, rfl⟩
    | identInfo =>
      cases hstep
      exact h.quiet hth hothers (some device) rfl ⟨rfl, rfl⟩
  | switchClass =>
    obtain ⟨hfile, hinstance⟩ := hhere
    have hinstance : s.sPdeviceinstance = some device := hinstance
    obtain rfl : file = .firmware := hfile
    dsimp only at hstep
    rw [hinstance] at hstep
    cases hstep
    exact h.quiet hth (hinside rfl) s.sPdeviceinstance rfl ⟨rfl, hinstance⟩
  | testInstance =>
    have hready := hhere
    have hinstance : s.sPdeviceinstance = some device := hhere.2
    dsimp only at hstep
    rw [hinstance, if_neg (Option.some_ne_none device)] at hstep
    cases hstep
    exact h.quiet hth (hinside rfl) s.sPdeviceinstance rfl hready
  | readInfo =>
    have hready := hhere
    have hinstance : s.sPdeviceinstance = some device := hhere.2
    dsimp only at hstep
    rw [hinstance] at hstep
    cases hstep
    exact h.quiet hth (hinside rfl) s.sPdeviceinstance rfl ⟨hready, rfl⟩
  | readBootloader d =>
    obtain ⟨hready, hd⟩ := hhere
    cases hstep
    exact h.quiet hth (hinside rfl) s.sPdeviceinstance rfl ⟨hready, hd, hready.2⟩
  | setBootloader d ptDevInst =>
    obtain ⟨hready, hd, harg⟩ := hhere
    cases hstep
    exact h.quiet hth (hinside rfl) ptDevInst rfl ⟨⟨hready.1, harg⟩, hd⟩
  | readFirmware d =>
    obtain ⟨hready, hd⟩ := hhere
    cases hstep
    exact h.quiet hth (hinside rfl) s.sPdeviceinstance rfl ⟨hready, hd, hready.2⟩
  | setFirmware d ptDevInst =>
    obtain ⟨hready, hd, harg⟩ := hhere
    cases hstep
    exact h.quiet hth (hinside rfl) ptDevInst rfl ⟨⟨hready.1, harg⟩, hd⟩
  | switchFirmware d =>
    obtain ⟨hready, hd⟩ := hhere
    have hinstance : s.sPdeviceinstance = some device := hready.2
    dsimp only at hstep
    rw [hinstance] at hstep
    cases hstep
    exact h.quiet hth (hinside rfl) s.sPdeviceinstance rfl ⟨hready, hd, rfl⟩
  | readIdent d tFWFileInfo =>
    obtain ⟨hready, hd, hfirmware⟩ := hhere
    cases hstep
    exact h.quiet hth (hinside rfl) s.sPdeviceinstance rfl ⟨hready, hd, hfirmware, hready.2⟩
  | setIdent d tFWFileInfo ptDevInst =>
    obtain ⟨hready, hd, hfirmware, harg⟩ := hhere
    have harg : ptDevInst = some device := harg
    subst harg
    cases hstep
    exact h.quiet hth (hinside rfl) (some device) rfl ⟨⟨hready.1, rfl⟩, hd, hfirmware, rfl⟩
  | requestFirmware d tFWFileInfo tIdentFileInfo =>
    obtain ⟨hready, hd, hfirmware, hident⟩ := hhere
    obtain ⟨p, hp⟩ := pointerFor_own (instances device) file
    have hname : szFullFileName = ((instances device).file file).szFullFileName := hready.1
    have hd : d = device := hd
    have hfirmware : tFWFileInfo = firmwareFile (instances device).usDeviceClass := hfirmware
    have hident : tIdentFileInfo = identInfoFile (instances device) := hident
    dsimp only at hstep
    rw [hname, hfirmware, hident, hp, hd] at hstep
    cases hstep
    subst hname
    exact h.request hth (hinside rfl) rfl p found
  | takeFirmware p =>
    obtain ⟨n, hp, hasked⟩ := hhere
    cases hstep
    exact h.quiet hth (hinside rfl) s.sPdeviceinstance rfl ⟨n, hp, hp, hasked⟩
  | takeSize p ptFW =>
    obtain ⟨n, hn, hp, hasked⟩ := hhere
    have hn : ptFW = some n := hn
    have hp : s.pointer p = some n := hp
    subst hn
    have hlive : s.live n = true := h.live hth rfl
    dsimp only at hstep
    rw [hp] at hstep
    dsimp only at hstep
    rw [hlive, Bool.not_true, Bool.or_false] at hstep
    cases hstep
    exact h.quiet hth (hinside rfl) s.sPdeviceinstance rfl ⟨hasked, rfl⟩
  | clearInstance =>
    cases hstep
    refine h.moves (halone rfl) rfl ?_ ?_ ?_ ?_
    · exact fun _ _ => rfl
    · exact fun _ _ => rfl
    · exact fun th' heq => nomatch heq
    · refine h.table rfl ((halone rfl).slot _) ?_ rfl rfl rfl
      exact (FileLoader.slot_of_thread hth).symm
  | notOpened => cases hstep
  | opened hFile ullFileLen => cases hstep
  | copied hFile pvFileData => cases hstep

theorem LoaderInv.load (h : LoaderInv instances s) (hempty : s.table.slot t = none)
    (device : δ) (file : TkitFile) :
    LoaderInv instances (s.goes t ⟨device, file, [], .setInstance⟩ .setInstance) := by
  refine h.stays rfl ?_ rfl rfl rfl rfl ?_ ?_
  · intro th' heq
    cases heq
    rfl
  · intro th' heq
    cases heq
    trivial
  · exact h.table rfl (fun _ _ _ _ => rfl) hempty.symm rfl rfl rfl

theorem LoaderInv.read (h : LoaderInv instances s) (hth : s.threads t = some th)
    {hFile ullFileLen : ℕ} (hpc : th.pc = .opened hFile ullFileLen) :
    LoaderInv instances (s.osFileRead t th hFile ullFileLen) := by
  have hhere := h.here t th hth
  have hslot := FileLoader.slot_of_thread hth
  obtain ⟨device, file, szFullFileName, pc⟩ := th
  obtain rfl : pc = .opened hFile ullFileLen := hpc
  obtain ⟨hasked, hlength⟩ := hhere
  have hlength : ullFileLen = (s.data hFile).length := hlength
  have hlive : s.live hFile = true := h.live hth rfl
  refine h.stays rfl ?_ rfl rfl rfl rfl ?_ ?_
  · intro th' heq
    cases heq
    rfl
  · intro th' heq
    cases heq
    refine ⟨hasked, ?_⟩
    rw [hlength]
    exact List.take_length
  · refine h.table rfl (fun _ _ _ _ => rfl) hslot.symm rfl rfl ?_
    -- the file is loaded, and it is as long as the thread has been told
    simp [FileLoader.osFileRead, FileLoader.goes, hlive, hlength]

theorem LoaderInv.close (h : LoaderInv instances s) (hth : s.threads t = some th) {hFile : ℕ}
    (hslot : th.pc.slot s.pointer = some hFile) :
    LoaderInv instances (s.osFileClose t th hFile) := by
  have hdeleted : (s.osFileClose t th hFile).table = delete t s.table := by
    have hheld := FileLoader.slot_of_thread hth
    rw [hslot] at hheld
    have hslots (u : ι) := table_slot (s := s) (v := s.osFileClose t th hFile) rfl
      (fun _ _ _ _ => rfl) u
    unfold delete
    rw [hheld]
    unfold FileLoader.table at hslots ⊢
    dsimp only at hslots ⊢
    congr 1
    funext u
    refine (hslots u).trans ?_
    by_cases hu : u = t
    · rw [if_pos hu, hu, Function.update_self]
      rfl
    · rw [if_neg hu, Function.update_of_ne hu]
  refine h.stays rfl ?_ rfl rfl rfl rfl ?_ ?_
  · intro th' heq
    cases heq
    rfl
  · intro th' heq
    cases heq
    trivial
  · rw [hdeleted]
    exact h.balanced.delete t

theorem fileStep_inv (h : LoaderInv instances s) {a : FileAction ι δ} (halone : opensAlone s a)
    (hstep : fileStep instances s a = some s') : LoaderInv instances s' := by
  cases a with
  | load t device file =>
    unfold fileStep at hstep
    dsimp only at hstep
    cases hth : s.threads t with
    | none =>
      rw [hth] at hstep
      cases hstep
      apply h.load
      change (s.threads t).bind (fun th => th.pc.slot s.pointer) = none
      rw [hth]
      rfl
    | some th =>
      rw [hth] at hstep
      dsimp only at hstep
      cases hpc : th.pc with
      | notOpened =>
        rw [hpc] at hstep
        cases hstep
        apply h.load
        rw [FileLoader.slot_of_thread hth, hpc]
        rfl
      | _ =>
        rw [hpc] at hstep
        cases hstep
  | step t found =>
    obtain ⟨th, hth, hnext⟩ := Option.bind_eq_some_iff.mp hstep
    refine h.statement hth (fun hsets => halone ?_) hnext
    rw [hth]
    exact hsets
  | read t =>
    obtain ⟨th, hth, hnext⟩ := Option.bind_eq_some_iff.mp hstep
    cases hpc : th.pc with
    | opened hFile ullFileLen =>
      rw [hpc] at hnext
      cases hnext
      exact h.read hth hpc
    | _ =>
      rw [hpc] at hnext
      cases hnext
  | close t =>
    obtain ⟨th, hth, hnext⟩ := Option.bind_eq_some_iff.mp hstep
    cases hpc : th.pc with
    | opened hFile ullFileLen =>
      rw [hpc] at hnext
      cases hnext
      exact h.close hth (by rw [hpc]; rfl)
    | copied hFile pvFileData =>
      rw [hpc] at hnext
      cases hnext
      exact h.close hth (by rw [hpc]; rfl)
    | _ =>
      rw [hpc] at hnext
      cases hnext

end Invariant

section Runs

variable {ι δ : Type*} [DecidableEq ι] {instances : δ → FileInstance}
  {as : List (FileAction ι δ)} {s : FileLoader ι δ}

/-- Threads that load files while nobody else is opening one get their own ones: `OS_FileOpen` fails
only if the file has not been found, what has been read is what has been found for the device and
the name of the thread, every file belongs to one thread, and all the others have been released. -/
theorem loaded_files_own
    (halone : Along opensAlone (fileStep instances) FileLoader.start as)
    (hrun : run (fileStep instances) FileLoader.start as = some s) :
    s.fault = false ∧
      (∀ t th, s.threads t = some th →
        (th.pc = .notOpened → s.asked t = some (th.own instances none)) ∧
          (∀ hFile ullFileLen, th.pc = .opened hFile ullFileLen →
            s.asked t = some (th.own instances (some (s.data hFile))) ∧
              ullFileLen = (s.data hFile).length) ∧
          ∀ hFile pvFileData, th.pc = .copied hFile pvFileData →
            s.asked t = some (th.own instances (some pvFileData))) ∧
      (∀ n, s.live n = true ↔ ∃ t, s.table.slot t = some n) ∧
      ∀ t u n, s.table.slot t = some n → s.table.slot u = some n → t = u := by
  have h : LoaderInv instances s := along_invariant
    (fun _ _ _ h hok hstep => fileStep_inv h hok hstep) LoaderInv.start halone hrun
  refine ⟨h.balanced.sound, ?_, h.balanced.owned, h.balanced.unique⟩
  intro t th hth
  have hhere := h.here t th hth
  unfold FileThread.At at hhere
  refine ⟨?_, ?_, ?_⟩
  · intro hpc
    rw [hpc] at hhere
    exact hhere
  · intro hFile ullFileLen hpc
    rw [hpc] at hhere
    exact hhere
  · intro hFile pvFileData hpc
    rw [hpc] at hhere
    obtain ⟨hasked, hdata⟩ := hhere
    rw [hasked, hdata]

end Runs

/-- Two devices whose files are loaded at the same time. -/
def loadedInstances (d : Bool) : FileInstance :=
  { usDeviceClass := if d then nscpDevClass else nanlDevClass
    szIdentInfoFileName := "license.nxl".toList }

/-- A thread opens its firmware, which has one byte. -/
def opensFirmware (t : Bool) : List (FileAction Bool Bool) :=
  .load t t .firmware :: List.replicate 14 (.step t (some [if t then 2#8 else 1#8]))

/-- Two threads have their firmware at the same time. -/
theorem loaded_files_own_two : ∃ s, run (fileStep loadedInstances) FileLoader.start
      (opensFirmware false ++ opensFirmware true ++ [.read false, .close true]) = some s ∧
    s.fault = false ∧ s.asked false = some ⟨false, "netanalyzer/NANL-500.nxf".toList, some [1#8]⟩ ∧
      s.live 0 = true := by
  obtain ⟨s, hrun, th, hth, hpc, hown, hslot⟩ : ∃ s, run (fileStep loadedInstances)
      FileLoader.start (opensFirmware false ++ opensFirmware true ++ [.read false, .close true]) =
        some s ∧ ∃ th, s.threads false = some th ∧ th.pc = .copied 0 [1#8] ∧
          th.own loadedInstances (some [1#8]) =
            ⟨false, "netanalyzer/NANL-500.nxf".toList, some [1#8]⟩ ∧
          s.table.slot false = some 0 :=
    ⟨_, rfl, _, rfl, rfl, rfl, rfl⟩
  have halone : Along opensAlone (fileStep loadedInstances) FileLoader.start
      (opensFirmware false ++ opensFirmware true ++ [.read false, .close true]) :=
    Along.mono (fun s a (h : decide (opensAlone s a) = true) => of_decide_eq_true h)
      (along_of_check (by rfl))
  obtain ⟨hsound, hthreads, hlive, -⟩ := loaded_files_own halone hrun
  have hasked := (hthreads false th hth).2.2 0 [1#8] hpc
  exact ⟨s, hrun, hsound, hown ▸ hasked, (hlive 0).mpr ⟨false, hslot⟩⟩

-- one thread closes its file after the other one has named its own: nothing is asked for
example : ∃ s, run (fileStep loadedInstances) FileLoader.start
      (opensFirmware false ++ [.close false, .load true true .firmware, .step true none,
        .step true none, .step false none, .step true none]) = some s ∧
    (s.threads true).map FileThread.pc = some .notOpened ∧ s.asked true = none :=
  ⟨_, rfl, rfl, rfl⟩

-- one thread opens its file before the other one has looked at the pointer: both release it
example : ∃ s, run (fileStep loadedInstances) FileLoader.start
      ((opensFirmware false).take 13 ++ opensFirmware true ++
        [.step false none, .step false none, .close true, .close false]) = some s ∧
    s.fault = true :=
  ⟨_, rfl, rfl⟩

end NetanaDriver
