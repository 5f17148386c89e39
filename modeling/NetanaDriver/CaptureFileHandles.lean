import NetanaDriver.CaptureFiles
import NetanaDriver.EventThread
import NetanaDriver.HandleTable
import NetanaDriver.StepRuns

/-! The handles of the capture files: `OpenCaptureFiles`, `CloseCaptureFiles` and
`netana_set_filelist`, with what `netana_start_capture`, `netana_stop_capture` and the capture do
with `hFile`, in the toolkit and in the library (netana_functions.c of both). -/
namespace NetanaDriver
open HandleTable

def netanaFileCreationFailed : BitVec 32 := 0x80220009#32

/-- The file list of a device instance; `atFiles` are the handles `hFile`. -/
structure FileList where
  atFiles : Table ℕ
  ulFileCount : ℕ
  ulCurrentFile : ℕ
  fWriteToFile : Bool
  fRingBuffer : Bool
  fCaptureRunning : Bool

/-- A handle is passed to the C library. -/
def useHandle (hFile : ℕ) (t : Table ℕ) : Table ℕ :=
  { t with fault := t.fault || !t.live hFile }

/-- The body of the loop of `CloseCaptureFiles`; the library takes the file number from the handle
once more after `fclose`. -/
def closeCaptureFile (lib : Bool) (ulFile : ℕ) (t : Table ℕ) : Table ℕ :=
  match t.slot ulFile with
  | none => t
  | some hFile => if lib then useHandle hFile (delete ulFile t) else delete ulFile t

def closeFiles (lib : Bool) (files : List ℕ) (t : Table ℕ) : Table ℕ :=
  files.foldl (fun t ulFile => closeCaptureFile lib ulFile t) t

namespace FileList

def closeCaptureFiles (lib : Bool) (s : FileList) : FileList :=
  { s with atFiles := closeFiles lib (List.range s.ulFileCount) s.atFiles }

/-- `OpenCaptureFiles`; `fOpened` tells for which files the name fits and the file can be opened. A
name that does not fit leaves the handle as it is, which is null. -/
def openCaptureFiles (lib : Bool) (fOpened : ℕ → Bool) (s : FileList) : FileList × BitVec 32 :=
  let s := { closeCaptureFiles lib s with ulCurrentFile := 0 }
  let r := createWhile fOpened (List.range s.ulFileCount) s.atFiles
  ({ s with atFiles := r.1 }, if r.2 then netanaNoError else netanaFileCreationFailed)

def netanaSetFilelist (lib : Bool) (g_ulDMABufferSize : BitVec 32) (ulFileCount : ℕ)
    (ullFileSize : BitVec 64) (fOpened : ℕ → Bool) (s : FileList) : FileList × BitVec 32 :=
  if s.fCaptureRunning then (s, netanaCaptureActive)
  else if ulFileCount > netanaMaxFiles then (s, netanaInvalidParameter)
  else if ullFileSize.toNat < g_ulDMABufferSize.toNat + fileHeaderSize then
    (s, netanaInvalidParameter)
  else
    -- the old count is lost before the old files are closed
    let r := openCaptureFiles lib fOpened { s with ulFileCount := ulFileCount }
    -- the files that could be opened are closed again
    if r.2 ≠ netanaNoError then ({ closeCaptureFiles lib r.1 with ulFileCount := 0 }, r.2)
    else r

/-- `netana_start_capture`: `lRetInfo` is what `netana_driver_information` returns in the library
(the toolkit does not call it), `lRet` what the part after the file header comes to, and `fStarts`
whether the capture then runs. -/
def netanaStartCapture (fRingBuffer pfnData : Bool) (lRetInfo lRet : BitVec 32) (fStarts : Bool)
    (s : FileList) : FileList × BitVec 32 :=
  if s.fCaptureRunning then (s, netanaCaptureActive)
  else if s.ulFileCount = 0 ∧ pfnData = false then (s, netanaConfigurationError)
  else if lRetInfo ≠ netanaNoError then (s, lRetInfo)
  else
    let s := { s with fRingBuffer := fRingBuffer, fCaptureRunning := fStarts }
    if s.ulFileCount > 0 then
      -- the header goes into the first file
      ({ s with ulCurrentFile := 0, fWriteToFile := true, atFiles := use 0 s.atFiles }, lRet)
    else ({ s with fWriteToFile := false }, lRet)

/-- `netana_stop_capture`; `lRet` tells whether the firmware could be told to stop, and `fStopped`
whether the capture is off when the toolkit gives up its wait of five seconds. The library returns
only then. -/
def netanaStopCapture (lib : Bool) (lRet : BitVec 32) (fStopped : Bool) (s : FileList) :
    FileList × BitVec 32 :=
  if s.fCaptureRunning = false then (s, netanaCaptureNotActive)
  else if lRet ≠ netanaNoError then (s, lRet)
  else
    let s := { s with fCaptureRunning := !lib && !fStopped }
    if s.ulFileCount > 0 then
      -- `fWriteToFile` stays set
      let s := if s.fWriteToFile then { s with atFiles := use s.ulCurrentFile s.atFiles } else s
      ({ closeCaptureFiles lib s with ulFileCount := 0 }, netanaNoError)
    else (s, netanaNoError)

/-- A buffer of data in `netana_tkit_process` or the event thread of the library, with
`netana_write_to_file`; `fFull` is whether it does not fit into the current file. -/
def writeBuffer (fFull : Bool) (s : FileList) : FileList :=
  if s.fWriteToFile then
    if fFull then
      let s := { s with atFiles := use s.ulCurrentFile s.atFiles }
      if s.ulCurrentFile + 1 ≥ s.ulFileCount then
        if s.fRingBuffer then { s with ulCurrentFile := 0, atFiles := use 0 s.atFiles }
        else { s with fWriteToFile := false }
      else
        { s with
          ulCurrentFile := s.ulCurrentFile + 1
          atFiles := use (s.ulCurrentFile + 1) s.atFiles }
    else { s with atFiles := use s.ulCurrentFile s.atFiles }
  else s

/-- A buffer with an illegal size in `netana_tkit_process`: its header ends the current file. -/
def rejectBuffer (s : FileList) : FileList :=
  if s.fWriteToFile then
    { s with atFiles := use s.ulCurrentFile s.atFiles, fWriteToFile := false }
  else s

end FileList

/-- The calls on a device instance, and what happens between them: a buffer of data arrives, the
toolkit gets one with an illegal size, or the capture goes to another state. -/
inductive FileCall where
  | setFilelist (ulFileCount : ℕ) (ullFileSize : BitVec 64) (fOpened : ℕ → Bool)
  | startCapture (fRingBuffer pfnData : Bool) (lRetInfo lRet : BitVec 32) (fStarts : Bool)
  | stopCapture (lRet : BitVec 32) (fStopped : Bool)
  | writeBuffer (fFull : Bool)
  | rejectBuffer
  | captureState (fCaptureRunning : Bool)

def fileCall (lib : Bool) (g_ulDMABufferSize : BitVec 32) (s : FileList) : FileCall → FileList
  | .setFilelist ulFileCount ullFileSize fOpened =>
    (s.netanaSetFilelist lib g_ulDMABufferSize ulFileCount ullFileSize fOpened).1
  | .startCapture fRingBuffer pfnData lRetInfo lRet fStarts =>
    (s.netanaStartCapture fRingBuffer pfnData lRetInfo lRet fStarts).1
  | .stopCapture lRet fStopped => (s.netanaStopCapture lib lRet fStopped).1
  | .writeBuffer fFull => s.writeBuffer fFull
  | .rejectBuffer => if lib then s else s.rejectBuffer
  | .captureState fCaptureRunning => { s with fCaptureRunning := fCaptureRunning }

/-- A device instance that has just been opened. -/
def FileList.opened : FileList where
  atFiles := Table.empty
  ulFileCount := 0
  ulCurrentFile := 0
  fWriteToFile := false
  fRingBuffer := false
  fCaptureRunning := false

def fileRun (lib : Bool) (g_ulDMABufferSize : BitVec 32) (calls : List FileCall) : FileList :=
  calls.foldl (fileCall lib g_ulDMABufferSize) FileList.opened

/-- The files in the list are the open ones: every handle that has been opened and not closed is
in one place of the list, every place has one, and no handle has been closed twice or used after
it was closed. -/
structure HandlesOwned (s : FileList) : Prop where
  balanced : Balanced s.atFiles
  listed : ∀ i, s.atFiles.slot i ≠ none → i < s.ulFileCount
  filled : ∀ i < s.ulFileCount, s.atFiles.slot i ≠ none

/-- `netana_set_filelist` gets past its checks. -/
def FileList.accepts (s : FileList) (g_ulDMABufferSize : BitVec 32) (ulFileCount : ℕ)
    (ullFileSize : BitVec 64) : Prop :=
  s.fCaptureRunning = false ∧ ulFileCount ≤ netanaMaxFiles ∧
    g_ulDMABufferSize.toNat + fileHeaderSize ≤ ullFileSize.toNat

/-- A new file list is not shorter than the one it replaces; no buffer is to be written while the
list is empty; and in the library no open file is ever closed: no list is replaced, none fails
behind its first file, and no capture to files is stopped. -/
def FileCallOk (lib : Bool) (g_ulDMABufferSize : BitVec 32) (s : FileList) : FileCall → Prop
  | .setFilelist ulFileCount ullFileSize fOpened =>
    s.accepts g_ulDMABufferSize ulFileCount ullFileSize → s.ulFileCount ≤ ulFileCount ∧
      (lib = true → s.ulFileCount = 0 ∧
        (0 < ulFileCount → fOpened 0 = true → ∀ k < ulFileCount, fOpened k = true))
  | .stopCapture lRet _ =>
    lib = true → s.fCaptureRunning = true → lRet = netanaNoError → s.ulFileCount = 0
  | .writeBuffer _ => s.fWriteToFile = true → 0 < s.ulFileCount
  | .rejectBuffer => lib = false → s.fWriteToFile = true → 0 < s.ulFileCount
  | _ => True

theorem closeCaptureFile_none (lib : Bool) {i : ℕ} {t : Table ℕ} (h : t.slot i = none) :
    closeCaptureFile lib i t = t := by
  rw [closeCaptureFile, h]

theorem closeCaptureFile_slot (lib : Bool) (i j : ℕ) (t : Table ℕ) :
    (closeCaptureFile lib i t).slot j = (delete i t).slot j := by
  unfold closeCaptureFile
  split
  · rename_i hnone
    rw [delete, hnone]
  · cases lib with
    | true => rfl
    | false => rfl

theorem closeFiles_slot (lib : Bool) (files : List ℕ) (t : Table ℕ) (j : ℕ) :
    (closeFiles lib files t).slot j = if j ∈ files then none else t.slot j := by
  induction files generalizing t with
  | nil => rfl
  | cons i files ih =>
    have hrest := ih (closeCaptureFile lib i t)
    change (closeFiles lib files (closeCaptureFile lib i t)).slot j = _
    rw [hrest, closeCaptureFile_slot]
    by_cases hj : j ∈ files
    · rw [if_pos hj, if_pos (List.mem_cons_of_mem i hj)]
    · rw [if_neg hj]
      by_cases hji : j = i
      · rw [if_pos (hji ▸ List.mem_cons_self), hji, delete_slot_self]
      · have hnot : j ∉ i :: files := by
          rw [List.mem_cons, not_or]
          exact ⟨hji, hj⟩
        rw [if_neg hnot, delete_slot_ne hji]

/-- The toolkit only closes the files. -/
theorem closeFiles_toolkit (files : List ℕ) (t : Table ℕ) :
    closeFiles false files t = deleteAll files t := by
  have hbody : (fun (t : Table ℕ) i => closeCaptureFile false i t) = fun t i => delete i t := by
    funext t i
    cases hslot : t.slot i with
    | none => rw [closeCaptureFile, delete, hslot]
    | some hFile => simp [closeCaptureFile, delete, hslot]
  rw [closeFiles, hbody, deleteAll]

/-- Without an open file among them nothing happens. -/
theorem closeFiles_none (lib : Bool) {files : List ℕ} {t : Table ℕ}
    (h : ∀ i ∈ files, t.slot i = none) : closeFiles lib files t = t := by
  induction files with
  | nil => rfl
  | cons i files ih =>
    have hfirst := closeCaptureFile_none lib (h i List.mem_cons_self)
    change closeFiles lib files (closeCaptureFile lib i t) = t
    rw [hfirst]
    exact ih fun j hj => h j (List.mem_cons_of_mem i hj)

theorem closeCaptureFile_fault (lib : Bool) (i : ℕ) {t : Table ℕ} (h : t.fault = true) :
    (closeCaptureFile lib i t).fault = true := by
  unfold closeCaptureFile
  split
  · exact h
  · rename_i hFile hslot
    have hdelete : (delete i t).fault = true := by
      rw [delete, hslot]
      simp [h]
    cases lib with
    | true => simp [useHandle, hdelete]
    | false => exact hdelete

theorem closeFiles_fault (lib : Bool) (files : List ℕ) {t : Table ℕ} (h : t.fault = true) :
    (closeFiles lib files t).fault = true := by
  induction files generalizing t with
  | nil => exact h
  | cons i files ih => exact ih (closeCaptureFile_fault lib i h)

/-- The library cannot close an open file without using its handle afterwards. -/
theorem closeFiles_library {files : List ℕ} {t : Table ℕ} {i : ℕ} (hi : i ∈ files)
    (hopen : t.slot i ≠ none) : (closeFiles true files t).fault = true := by
  induction files generalizing t with
  | nil => cases hi
  | cons j files ih =>
    by_cases hji : i = j
    · obtain ⟨hFile, hslot⟩ := Option.ne_none_iff_exists'.mp hopen
      subst hji
      refine closeFiles_fault true files ?_
      show (closeCaptureFile true i t).fault = true
      rw [closeCaptureFile, hslot]
      have hlive : (delete i t).live hFile = false := by simp [delete, hslot]
      simp [useHandle, hlive]
    · rcases List.mem_cons.mp hi with heq | hmem
      · exact absurd heq hji
      · refine ih hmem ?_
        rw [closeCaptureFile_slot, delete_slot_ne hji]
        exact hopen

/-- Closing keeps the handles in order, unless it is the library that closes an open file. -/
theorem balanced_closeFiles {lib : Bool} {files : List ℕ} {t : Table ℕ} (ht : Balanced t)
    (h : lib = true → ∀ i ∈ files, t.slot i = none) : Balanced (closeFiles lib files t) := by
  cases lib with
  | false =>
    rw [closeFiles_toolkit]
    exact ht.deleteAll files
  | true =>
    rw [closeFiles_none true (h rfl)]
    exact ht

/-- The result of a call of `netana_set_filelist` that gets past its checks. -/
theorem setFilelist_accepted {lib : Bool} {g_ulDMABufferSize : BitVec 32} {n : ℕ}
    {ullFileSize : BitVec 64} {fOpened : ℕ → Bool} {s : FileList}
    (h : s.accepts g_ulDMABufferSize n ullFileSize) :
    (s.netanaSetFilelist lib g_ulDMABufferSize n ullFileSize fOpened).1 =
      if (createWhile fOpened (List.range n)
          (closeFiles lib (List.range n) s.atFiles)).2 = true then
        { s with
          ulFileCount := n
          ulCurrentFile := 0
          atFiles := (createWhile fOpened (List.range n)
            (closeFiles lib (List.range n) s.atFiles)).1 }
      else
        { s with
          ulFileCount := 0
          ulCurrentFile := 0
          atFiles := closeFiles lib (List.range n) (createWhile fOpened (List.range n)
            (closeFiles lib (List.range n) s.atFiles)).1 } := by
  obtain ⟨hidle, hcount, hsize⟩ := h
  have hfailed : netanaFileCreationFailed ≠ netanaNoError := by decide
  have hopen : FileList.openCaptureFiles lib fOpened { s with ulFileCount := n } =
      ({ s with
          ulFileCount := n
          ulCurrentFile := 0
          atFiles := (createWhile fOpened (List.range n)
            (closeFiles lib (List.range n) s.atFiles)).1 },
        if (createWhile fOpened (List.range n) (closeFiles lib (List.range n) s.atFiles)).2 = true
          then netanaNoError else netanaFileCreationFailed) := rfl
  rw [FileList.netanaSetFilelist, if_neg (by rw [hidle]; simp), if_neg (not_lt.mpr hcount),
    if_neg (not_lt.mpr hsize), hopen]
  dsimp only [FileList.closeCaptureFiles]
  by_cases hall :
      (createWhile fOpened (List.range n) (closeFiles lib (List.range n) s.atFiles)).2 = true
  · rw [if_pos hall, if_pos hall, if_neg (not_not.mpr rfl)]
  · rw [if_neg hall, if_neg hall, if_pos hfailed]

theorem setFilelist_refused {lib : Bool} {g_ulDMABufferSize : BitVec 32} {n : ℕ}
    {ullFileSize : BitVec 64} {fOpened : ℕ → Bool} {s : FileList}
    (h : ¬ s.accepts g_ulDMABufferSize n ullFileSize) :
    (s.netanaSetFilelist lib g_ulDMABufferSize n ullFileSize fOpened).1 = s := by
  rw [FileList.netanaSetFilelist]
  split
  · rfl
  · rename_i hidle
    split
    · rfl
    · rename_i hcount
      split
      · rfl
      · rename_i hsize
        exact absurd ⟨by simpa using hidle, not_lt.mp hcount, not_lt.mp hsize⟩ h

/-- The handles are in order, and the current file is one of the list. -/
structure FileInv (s : FileList) : Prop where
  owned : HandlesOwned s
  current : 0 < s.ulFileCount → s.ulCurrentFile < s.ulFileCount

/-- Using a file of the list changes nothing. -/
theorem HandlesOwned.use {s : FileList} (h : HandlesOwned s) {i : ℕ} (hi : i < s.ulFileCount) :
    HandleTable.use i s.atFiles = s.atFiles :=
  h.balanced.use (h.filled i hi)

/-- With the same files, and none more or fewer. -/
theorem HandlesOwned.of_same {s t : FileList} (h : HandlesOwned s) (hfiles : t.atFiles = s.atFiles)
    (hcount : t.ulFileCount = s.ulFileCount) : HandlesOwned t := by
  refine ⟨?_, ?_, ?_⟩
  · rw [hfiles]
    exact h.balanced
  · rw [hfiles, hcount]
    exact h.listed
  · rw [hfiles, hcount]
    exact h.filled

/-- All places are empty. -/
theorem handlesOwned_empty {s : FileList} (hbalanced : Balanced s.atFiles)
    (hempty : ∀ i, s.atFiles.slot i = none) (hcount : s.ulFileCount = 0) : HandlesOwned s := by
  refine ⟨hbalanced, fun i hi => absurd (hempty i) hi, fun i hi => ?_⟩
  rw [hcount] at hi
  exact absurd hi (Nat.not_lt_zero i)

/-- Closing the first `n` places leaves none open, where the list has no more. -/
theorem HandlesOwned.closed {s : FileList} (h : HandlesOwned s) (lib : Bool) {n : ℕ}
    (hn : s.ulFileCount ≤ n) (i : ℕ) :
    (closeFiles lib (List.range n) s.atFiles).slot i = none := by
  rw [closeFiles_slot]
  split
  · rfl
  · rename_i hi
    rw [List.mem_range] at hi
    by_contra hopen
    have hlt := h.listed i hopen
    omega

theorem setFilelist_inv {lib : Bool} {g_ulDMABufferSize : BitVec 32} {n : ℕ}
    {ullFileSize : BitVec 64} {fOpened : ℕ → Bool} {s : FileList} (hi : FileInv s)
    (hok : FileCallOk lib g_ulDMABufferSize s (.setFilelist n ullFileSize fOpened)) :
    FileInv (s.netanaSetFilelist lib g_ulDMABufferSize n ullFileSize fOpened).1 := by
  by_cases haccepts : s.accepts g_ulDMABufferSize n ullFileSize
  · obtain ⟨hcount, hlib⟩ := hok haccepts
    -- the loop over the new count closes all old files, as there are no more of them
    have hclosed := hi.owned.closed lib hcount
    have hbalanced : Balanced (closeFiles lib (List.range n) s.atFiles) := by
      refine balanced_closeFiles hi.owned.balanced fun h i _ => ?_
      by_contra hopen
      have hlt := hi.owned.listed i hopen
      rw [(hlib h).1] at hlt
      exact absurd hlt (Nat.not_lt_zero i)
    have hcreated : Balanced (createWhile fOpened (List.range n)
        (closeFiles lib (List.range n) s.atFiles)).1 :=
      hbalanced.createWhile fOpened List.nodup_range fun i _ => hclosed i
    rw [setFilelist_accepted haccepts]
    split
    · rename_i hall
      refine ⟨⟨hcreated, ?_, ?_⟩, id⟩
      · intro i hopen
        by_contra hout
        have hnot : i ∉ List.range n := fun hmem => hout (List.mem_range.mp hmem)
        exact hopen ((createWhile_slot hnot _).trans (hclosed i))
      · intro i hlt
        exact createWhile_filled List.nodup_range hall (List.mem_range.mpr hlt)
    · rename_i hfail
      have hnone : ∀ i, (closeFiles lib (List.range n) (createWhile fOpened (List.range n)
          (closeFiles lib (List.range n) s.atFiles)).1).slot i = none := by
        intro i
        rw [closeFiles_slot]
        split
        · rfl
        · rename_i hout
          exact (createWhile_slot hout _).trans (hclosed i)
      refine ⟨handlesOwned_empty (balanced_closeFiles hcreated fun h i hmem => ?_) hnone rfl, id⟩
      -- the library has not opened a single file
      obtain ⟨m, rfl⟩ : ∃ m, n = m + 1 := ⟨n - 1, by have := List.mem_range.mp hmem; omega⟩
      have hfirst : fOpened 0 = false := by
        by_contra hopen
        have hyes : fOpened 0 = true := by simpa using hopen
        have hevery := (hlib h).2 (Nat.succ_pos m) hyes
        exact hfail ((createWhile_ok_iff fOpened _ _).mpr fun k hk =>
          hevery k (List.mem_range.mp hk))
      have hstop : (createWhile fOpened (List.range (m + 1))
          (closeFiles lib (List.range (m + 1)) s.atFiles)).1 =
          create 0 false (closeFiles lib (List.range (m + 1)) s.atFiles) := by
        rw [List.range_succ_eq_map, createWhile, hfirst]
        rfl
      rw [hstop]
      by_cases hzero : i = 0
      · rw [hzero, create_slot_self]
        rfl
      · rw [create_slot_ne hzero]
        exact hclosed i
  · rw [setFilelist_refused haccepts]
    exact hi

theorem startCapture_inv {fRingBuffer pfnData fStarts : Bool} {lRetInfo lRet : BitVec 32}
    {s : FileList} (hi : FileInv s) :
    FileInv (s.netanaStartCapture fRingBuffer pfnData lRetInfo lRet fStarts).1 := by
  rw [FileList.netanaStartCapture]
  split
  · exact hi
  · split
    · exact hi
    · split
      · exact hi
      · dsimp only
        split
        · rename_i hfiles
          have hsame := hi.owned.use hfiles
          exact ⟨hi.owned.of_same hsame rfl, id⟩
        · exact ⟨hi.owned.of_same rfl rfl, hi.current⟩

theorem stopCapture_inv {lib fStopped : Bool} {lRet : BitVec 32} {s : FileList} (hi : FileInv s)
    (hok : lib = true → s.fCaptureRunning = true → lRet = netanaNoError → s.ulFileCount = 0) :
    FileInv (s.netanaStopCapture lib lRet fStopped).1 := by
  rw [FileList.netanaStopCapture]
  split
  · exact hi
  · rename_i hrunning
    have hrun : s.fCaptureRunning = true := by simpa using hrunning
    split
    · exact hi
    · rename_i hreached
      dsimp only
      split
      · rename_i hfiles
        rw [hi.owned.use (hi.current hfiles), ite_self]
        have hclosed := hi.owned.closed lib (le_refl s.ulFileCount)
        have hbalanced : Balanced (closeFiles lib (List.range s.ulFileCount) s.atFiles) := by
          refine balanced_closeFiles hi.owned.balanced fun h i _ => ?_
          have hzero := hok h hrun (not_not.mp hreached)
          rw [hzero] at hfiles
          exact absurd hfiles (lt_irrefl 0)
        exact ⟨handlesOwned_empty hbalanced hclosed rfl, fun hno => absurd hno (lt_irrefl 0)⟩
      · exact ⟨hi.owned.of_same rfl rfl, hi.current⟩

theorem writeBuffer_inv {fFull : Bool} {s : FileList} (hi : FileInv s)
    (hok : s.fWriteToFile = true → 0 < s.ulFileCount) : FileInv (s.writeBuffer fFull) := by
  rw [FileList.writeBuffer]
  split
  · rename_i hwrite
    have hfirst := hok hwrite
    have hcurrent := hi.current hfirst
    rw [hi.owned.use hcurrent]
    split
    · dsimp only
      split
      · split
        · exact ⟨hi.owned.of_same (hi.owned.use hfirst) rfl, id⟩
        · exact ⟨hi.owned.of_same rfl rfl, hi.current⟩
      · rename_i hnext
        have hlt : s.ulCurrentFile + 1 < s.ulFileCount := not_le.mp hnext
        exact ⟨hi.owned.of_same (hi.owned.use hlt) rfl, fun _ => hlt⟩
    · exact ⟨hi.owned.of_same rfl rfl, hi.current⟩
  · exact hi

theorem rejectBuffer_inv {s : FileList} (hi : FileInv s)
    (hok : s.fWriteToFile = true → 0 < s.ulFileCount) : FileInv s.rejectBuffer := by
  rw [FileList.rejectBuffer]
  split
  · rename_i hwrite
    have hsame := hi.owned.use (hi.current (hok hwrite))
    exact ⟨hi.owned.of_same hsame rfl, hi.current⟩
  · exact hi

theorem fileCall_inv {lib : Bool} {g_ulDMABufferSize : BitVec 32} {s : FileList} (hi : FileInv s)
    {c : FileCall} (hok : FileCallOk lib g_ulDMABufferSize s c) :
    FileInv (fileCall lib g_ulDMABufferSize s c) := by
  cases c with
  | setFilelist n ullFileSize fOpened => exact setFilelist_inv hi hok
  | startCapture fRingBuffer pfnData lRetInfo lRet fStarts => exact startCapture_inv hi
  | stopCapture lRet fStopped => exact stopCapture_inv hi hok
  | writeBuffer fFull => exact writeBuffer_inv hi hok
  | rejectBuffer =>
    cases lib with
    | true => exact hi
    | false => exact rejectBuffer_inv hi (hok rfl)
  | captureState fCaptureRunning => exact ⟨hi.owned.of_same rfl rfl, hi.current⟩

/-- A call that closes an open file in the library. -/
theorem not_owned_of_fault {s : FileList} (h : s.atFiles.fault = true) : ¬ HandlesOwned s := by
  intro howned
  rw [howned.balanced.sound] at h
  cases h

theorem setFilelist_violates {lib : Bool} {g_ulDMABufferSize : BitVec 32} {n : ℕ}
    {ullFileSize : BitVec 64} {fOpened : ℕ → Bool} {s : FileList} (hi : FileInv s)
    (hbad : ¬ FileCallOk lib g_ulDMABufferSize s (.setFilelist n ullFileSize fOpened)) :
    ¬ HandlesOwned (s.netanaSetFilelist lib g_ulDMABufferSize n ullFileSize fOpened).1 := by
  have hboth : s.accepts g_ulDMABufferSize n ullFileSize ∧ ¬ (s.ulFileCount ≤ n ∧
      (lib = true → s.ulFileCount = 0 ∧
        (0 < n → fOpened 0 = true → ∀ k < n, fOpened k = true))) := by
    by_cases haccepts : s.accepts g_ulDMABufferSize n ullFileSize
    · exact ⟨haccepts, fun hyes => hbad fun _ => hyes⟩
    · exact absurd (fun h => absurd h haccepts) hbad
  obtain ⟨haccepts, hwrong⟩ := hboth
  rw [setFilelist_accepted haccepts]
  by_cases hcount : s.ulFileCount ≤ n
  · -- the library uses a handle after it has closed it
    obtain ⟨hlib, hopened⟩ := Classical.not_imp.mp (not_and.mp hwrong hcount)
    subst hlib
    by_cases hzero : s.ulFileCount = 0
    · obtain ⟨hpos, hrest⟩ := Classical.not_imp.mp (not_and.mp hopened hzero)
      obtain ⟨hfirst, hsome⟩ := Classical.not_imp.mp hrest
      have hfail : ¬ (createWhile fOpened (List.range n)
          (closeFiles true (List.range n) s.atFiles)).2 = true := by
        intro hall
        apply hsome
        intro k hk
        exact (createWhile_ok_iff fOpened _ _).mp hall k (List.mem_range.mpr hk)
      obtain ⟨m, rfl⟩ : ∃ m, n = m + 1 := ⟨n - 1, by omega⟩
      have hfilled : (createWhile fOpened (List.range (m + 1))
          (closeFiles true (List.range (m + 1)) s.atFiles)).1.slot 0 ≠ none := by
        rw [List.range_succ_eq_map, createWhile_first fOpened (by simp), if_pos hfirst]
        simp
      rw [if_neg hfail]
      exact not_owned_of_fault (closeFiles_library (List.mem_range.mpr (Nat.succ_pos m)) hfilled)
    · have hfile := hi.owned.filled 0 (Nat.pos_of_ne_zero hzero)
      have hfault : (createWhile fOpened (List.range n)
          (closeFiles true (List.range n) s.atFiles)).1.fault = true := by
        rw [createWhile_fault]
        exact closeFiles_library (List.mem_range.mpr (by omega)) hfile
      split
      · exact not_owned_of_fault hfault
      · exact not_owned_of_fault (closeFiles_fault true _ hfault)
  · -- the last file of the old list is left over
    have hfile := hi.owned.filled (s.ulFileCount - 1) (by omega)
    have hout : s.ulFileCount - 1 ∉ List.range n := by
      rw [List.mem_range]
      omega
    have hkept : (createWhile fOpened (List.range n)
        (closeFiles lib (List.range n) s.atFiles)).1.slot (s.ulFileCount - 1) ≠ none := by
      rw [createWhile_slot hout, closeFiles_slot, if_neg hout]
      exact hfile
    split
    · intro howned
      have hlt : s.ulFileCount - 1 < n := howned.listed _ hkept
      omega
    · intro howned
      have hstill : (closeFiles lib (List.range n) (createWhile fOpened (List.range n)
          (closeFiles lib (List.range n) s.atFiles)).1).slot (s.ulFileCount - 1) ≠ none := by
        rw [closeFiles_slot, if_neg hout]
        exact hkept
      exact absurd (howned.listed _ hstill) (Nat.not_lt_zero _)

theorem stopCapture_violates {lib fStopped : Bool} {g_ulDMABufferSize : BitVec 32}
    {lRet : BitVec 32} {s : FileList} (hi : FileInv s)
    (hbad : ¬ FileCallOk lib g_ulDMABufferSize s (.stopCapture lRet fStopped)) :
    ¬ HandlesOwned (s.netanaStopCapture lib lRet fStopped).1 := by
  obtain ⟨hlib, hrest⟩ := Classical.not_imp.mp hbad
  obtain ⟨hrun, hrest⟩ := Classical.not_imp.mp hrest
  obtain ⟨hreached, hfiles⟩ := Classical.not_imp.mp hrest
  have hpos : s.ulFileCount > 0 := Nat.pos_of_ne_zero hfiles
  subst hlib
  rw [FileList.netanaStopCapture, if_neg (by rw [hrun]; simp), if_neg (not_not.mpr hreached)]
  dsimp only
  rw [if_pos hpos, hi.owned.use (hi.current hpos), ite_self]
  exact not_owned_of_fault
    (closeFiles_library (List.mem_range.mpr hpos) (hi.owned.filled 0 hpos))

/-- Without a file in the list there is no handle to write with. -/
theorem use_current_fault {s : FileList} (hi : FileInv s) (hempty : ¬ 0 < s.ulFileCount) :
    (HandleTable.use s.ulCurrentFile s.atFiles).fault = true := by
  have hnone : s.atFiles.slot s.ulCurrentFile = none := by
    by_contra hopen
    have hlt := hi.owned.listed _ hopen
    omega
  rw [HandleTable.use, hnone]

theorem writeBuffer_violates {fFull : Bool} {s : FileList} (hi : FileInv s)
    (hwrite : s.fWriteToFile = true) (hempty : ¬ 0 < s.ulFileCount) :
    ¬ HandlesOwned (s.writeBuffer fFull) := by
  have hfault := use_current_fault hi hempty
  apply not_owned_of_fault
  rw [FileList.writeBuffer, if_pos hwrite]
  split
  · dsimp only
    split
    · split
      · exact use_fault 0 hfault
      · exact hfault
    · exact use_fault _ hfault
  · exact hfault

theorem rejectBuffer_violates {s : FileList} (hi : FileInv s) (hwrite : s.fWriteToFile = true)
    (hempty : ¬ 0 < s.ulFileCount) : ¬ HandlesOwned s.rejectBuffer := by
  rw [FileList.rejectBuffer, if_pos hwrite]
  exact not_owned_of_fault (use_current_fault hi hempty)

theorem fileCall_violates {lib : Bool} {g_ulDMABufferSize : BitVec 32} {s : FileList}
    (hi : FileInv s) {c : FileCall} (hbad : ¬ FileCallOk lib g_ulDMABufferSize s c) :
    ¬ HandlesOwned (fileCall lib g_ulDMABufferSize s c) := by
  cases c with
  | setFilelist n ullFileSize fOpened => exact setFilelist_violates hi hbad
  | startCapture fRingBuffer pfnData lRetInfo lRet fStarts => exact absurd trivial hbad
  | stopCapture lRet fStopped => exact stopCapture_violates hi hbad
  | writeBuffer fFull =>
    obtain ⟨hwrite, hempty⟩ := Classical.not_imp.mp hbad
    exact writeBuffer_violates hi hwrite hempty
  | rejectBuffer =>
    obtain ⟨hlib, hrest⟩ := Classical.not_imp.mp hbad
    obtain ⟨hwrite, hempty⟩ := Classical.not_imp.mp hrest
    subst hlib
    exact rejectBuffer_violates hi hwrite hempty
  | captureState fCaptureRunning => exact absurd trivial hbad

theorem opened_fileInv : FileInv FileList.opened :=
  ⟨handlesOwned_empty Balanced.empty (fun _ => rfl) rfl, fun h => absurd h (lt_irrefl 0)⟩

/-- The handles belong to the file list in every state of a run exactly where no call shortens the
list, no buffer is to be written while it is empty, and none closes a file in the library. -/
theorem file_handles_owned (lib : Bool) (g_ulDMABufferSize : BitVec 32) (calls : List FileCall) :
    (∀ before, before <+: calls → HandlesOwned (fileRun lib g_ulDMABufferSize before)) ↔
    ∀ before c after, calls = before ++ c :: after →
      FileCallOk lib g_ulDMABufferSize (fileRun lib g_ulDMABufferSize before) c :=
  StepRuns.good_iff_allowed (fileCall lib g_ulDMABufferSize) HandlesOwned
    (FileCallOk lib g_ulDMABufferSize) FileInv.owned (fun hi hok => fileCall_inv hi hok)
    (fun hi hbad => fileCall_violates hi hbad) calls opened_fileInv

/-- Two files and then one; one file twice; and a capture to one file with a last buffer after the
stop has closed it. -/
def shorterList : List FileCall :=
  [.setFilelist 2 64#64 fun _ => true, .setFilelist 1 64#64 fun _ => true]

def listReplaced : List FileCall :=
  [.setFilelist 1 64#64 fun _ => true, .setFilelist 1 64#64 fun _ => true]

def lateBuffer : List FileCall :=
  [.setFilelist 1 64#64 fun _ => true,
    .startCapture false true netanaNoError netanaNoError true,
    .stopCapture netanaNoError false, .writeBuffer false]

theorem file_handles_left_over :
    ((fileRun false 32#32 shorterList).ulFileCount = 1 ∧
      (fileRun false 32#32 shorterList).atFiles.slot 1 = some 1) ∧
    (fileRun true 32#32 listReplaced).atFiles.fault = true ∧
    (fileRun false 32#32 lateBuffer).atFiles.fault = true ∧
    (¬ ∀ calls, HandlesOwned (fileRun false 32#32 calls)) ∧
    ¬ ∀ calls, HandlesOwned (fileRun true 32#32 calls) := by
  have hcount : (fileRun false 32#32 shorterList).ulFileCount = 1 := by decide
  have hslot : (fileRun false 32#32 shorterList).atFiles.slot 1 = some 1 := by decide
  have hfault : (fileRun true 32#32 listReplaced).atFiles.fault = true := by decide
  refine ⟨⟨hcount, hslot⟩, hfault, by decide, fun hall => ?_, fun hall => ?_⟩
  · have hlt := (hall shorterList).listed 1 (by rw [hslot]; simp)
    rw [hcount] at hlt
    exact absurd hlt (lt_irrefl 1)
  · exact not_owned_of_fault hfault (hall listReplaced)

end NetanaDriver
