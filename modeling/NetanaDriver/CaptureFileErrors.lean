import NetanaDriver.CaptureSignals
import NetanaDriver.CaptureFileRun
import NetanaDriver.DeviceSession

/-! What calls on the files that do not complete leave behind after a capture to file: the sizes
in the headers against what has really been stored, and the errors that are reported. -/
namespace NetanaDriver

open GreedyPacking

/-- What `netana_start_capture` and `netana_stop_capture` find outside the files: the result of
the checks before the file header is written, `lRet` as the part behind it leaves it (`none` where
it is left as it is, without event thread or control attribute), and the result of the request to
stop. -/
structure CaptureRequests where
  lRetChecks : BitVec 32
  lRetStarted : Option (BitVec 32)
  lRetStop : BitVec 32
  deriving DecidableEq, Repr

/-- The driver has been asked to capture. -/
def CaptureRequests.running (requests : CaptureRequests) : Bool :=
  decide (requests.lRetChecks = 0#32) && decide (requests.lRetStarted = some 0#32)

/-- A capture to file with its history: the files that have been started, the bytes of payload
that were stored behind the header since then, whether `ullOffset - sizeof(NETANA_FILE_HEADER_T)`
has wrapped, the errors that `netana_write_to_file` returned, which the event thread passes on to
`netana_signal_drv_error`, and the results of start and stop. -/
structure CaptureRecord where
  files : FileCapture
  started : ℕ → Bool
  stored : ℕ → ℕ
  wrapped : Bool
  errors : List (BitVec 32)
  lRetStart : BitVec 32
  lRetStop : BitVec 32

/-- The chunk does not fit into the current file any more. -/
def fileEnds (x : FileCapture) (pvBuffer : List (BitVec 8)) : Bool :=
  decide ((x.atFiles x.ulCurrentFile).ullOffset + BitVec.ofNat 64 pvBuffer.length > x.ullFileSize)

/-- The size that the current file would be closed with is below zero. -/
def sizeWraps (x : FileCapture) : Bool :=
  decide ((x.atFiles x.ulCurrentFile).ullOffset.toNat < fileHeaderSize)

/-- The state in which `netana_write_to_file` comes to write the data, if it does. -/
def beforeData (io : IoOutcome) (pvBuffer : List (BitVec 8)) (x : FileCapture) :
    Option FileCapture :=
  if fileEnds x pvBuffer then
    let x := advanceFile (closeHeader io x)
    -- the result of closing the file is not looked at
    if x.ulCurrentFile ≥ x.ulFileCount then
      if x.fRingBuffer then
        some (netanaWritefileheader io fileHeaderSizeInvalid { x with ulCurrentFile := 0 }).1
      else none
    else some (netanaWritefileheader io fileHeaderSizeInvalid x).1
  else some x

/-- The bytes of a data write that end up behind the header. -/
def storedBytes (io : IoOutcome) (pvBuffer : List (BitVec 8)) (x : FileCapture) : ℕ :=
  let pos := (x.atFiles x.ulCurrentFile).pos
  pos + (fwrite io x.ulCurrentFile pvBuffer x).2 - fileHeaderSize - (pos - fileHeaderSize)

/-- The header of the file tells at most this many bytes. -/
def CaptureFile.SizeWithin (f : CaptureFile) (n : ℕ) : Prop :=
  ∃ h, FileHeader.parse f.content = some h ∧ h.ullDataSize.toNat ≤ n

namespace CaptureRecord

/-- The history of the files after a chunk. -/
def addData (io : IoOutcome) (pvBuffer : List (BitVec 8)) (s : CaptureRecord) : CaptureRecord :=
  (beforeData io pvBuffer s.files).elim s fun x =>
    { s with
      started := Function.update s.started x.ulCurrentFile true
      stored := Function.update s.stored x.ulCurrentFile
        -- a file that is started anew has nothing behind its header yet
        ((if fileEnds s.files pvBuffer then 0 else s.stored x.ulCurrentFile) +
          storedBytes io pvBuffer x) }

/-- What the event thread does with a chunk. -/
def writeChunk (io : IoOutcome) (s : CaptureRecord) (pvBuffer : List (BitVec 8)) : CaptureRecord :=
  if s.files.fWriteToFile then
    { s.addData io pvBuffer with
      files := (netanaWriteToFile io pvBuffer s.files).1
      wrapped := s.wrapped || (fileEnds s.files pvBuffer && sizeWraps s.files)
      errors :=
        if (netanaWriteToFile io pvBuffer s.files).2 ≠ 0#32 then
          s.errors ++ [(netanaWriteToFile io pvBuffer s.files).2]
        else s.errors }
  else s

/-- Before a capture. -/
def idle (x : FileCapture) : CaptureRecord where
  files := x
  started := fun _ => false
  stored := fun _ => 0
  wrapped := false
  errors := []
  lRetStart := 0#32
  lRetStop := 0#32

/-- `netana_start_capture`. The result of the file header stands unless what comes behind it
replaces it. -/
def startCapture (io : IoOutcome) (requests : CaptureRequests) (ulCaptureMode : BitVec 32)
    (ullReferenceTime : BitVec 64) (lTimezoneCorrection : BitVec 32) (x : FileCapture) :
    CaptureRecord :=
  if requests.lRetChecks ≠ 0#32 then { idle x with lRetStart := requests.lRetChecks }
  else
    let x := { x with fRingBuffer := ToggleHandshake.maskTest ulCaptureMode captureModeRingbuffer }
    if x.ulFileCount > 0 then
      let r := netanaWritefileheader io fileHeaderSizeInvalid
        (firstFile ullReferenceTime lTimezoneCorrection x)
      { idle r.1 with
        started := Function.update (fun _ => false) 0 true
        lRetStart := requests.lRetStarted.getD r.2 }
    else
      { idle { x with fWriteToFile := false } with lRetStart := requests.lRetStarted.getD 0#32 }

/-- `netana_stop_capture`. -/
def stopCapture (io : IoOutcome) (requests : CaptureRequests) (s : CaptureRecord) :
    CaptureRecord :=
  if requests.running = false then { s with lRetStop := netanaCaptureNotActive }
  else if requests.lRetStop ≠ 0#32 then { s with lRetStop := requests.lRetStop }
  else
    { s with
      files := netanaStopCapture io s.files
      wrapped := s.wrapped ||
        (decide (s.files.ulFileCount > 0) && s.files.fWriteToFile && sizeWraps s.files)
      lRetStop := 0#32 }

/-- A capture until it is stopped. -/
def writing (io : IoOutcome) (requests : CaptureRequests) (ulCaptureMode : BitVec 32)
    (ullReferenceTime : BitVec 64) (lTimezoneCorrection : BitVec 32)
    (chunks : List (List (BitVec 8))) (x : FileCapture) : CaptureRecord :=
  chunks.foldl (writeChunk io)
    (startCapture io requests ulCaptureMode ullReferenceTime lTimezoneCorrection x)

/-- A whole capture. -/
def capture (io : IoOutcome) (requests : CaptureRequests) (ulCaptureMode : BitVec 32)
    (ullReferenceTime : BitVec 64) (lTimezoneCorrection : BitVec 32)
    (chunks : List (List (BitVec 8))) (x : FileCapture) : CaptureRecord :=
  (writing io requests ulCaptureMode ullReferenceTime lTimezoneCorrection chunks x).stopCapture io
    requests

/-- An error has been returned or reported. -/
def ErrorReported (s : CaptureRecord) : Prop :=
  s.lRetStart ≠ 0#32 ∨ s.lRetStop ≠ 0#32 ∨ s.errors ≠ []

/-- The headers are right and no size has wrapped, or there is an error. -/
def FailuresNoticed (s : CaptureRecord) : Prop :=
  ((∀ i, s.started i = true → (s.files.atFiles i).SizeWithin (s.stored i)) ∧
    s.wrapped = false) ∨ s.ErrorReported

end CaptureRecord

/-- The current file has got `n` bytes behind its header, and the handle is behind them. -/
structure CaptureFile.Filled (f : CaptureFile) (n : ℕ) : Prop where
  pos : f.pos = fileHeaderSize + n
  offset : f.ullOffset = BitVec.ofNat 64 (fileHeaderSize + n)
  le_max : fileHeaderSize + n ≤ offMax

variable {io : IoOutcome} {x : FileCapture} {c : List (BitVec 8)} {n : ℕ}

theorem CaptureFile.Filled.offset_ne_zero {f : CaptureFile} (h : f.Filled n) :
    f.ullOffset ≠ 0#64 := by
  rw [h.offset]
  exact NetanaDriver.offset_ne_zero (Nat.le_add_right _ _) h.le_max

theorem CaptureFile.Filled.not_wraps (h : (x.atFiles x.ulCurrentFile).Filled n) :
    sizeWraps x = false := by
  rw [sizeWraps, h.offset, toNat_offset h.le_max]
  apply decide_eq_false
  omega

/-- Where a chunk goes: behind the others, into the next file, or nowhere. -/
theorem netanaWriteToFile_cases (io : IoOutcome) (c : List (BitVec 8)) (x : FileCapture) :
    (fileEnds x c = false ∧ beforeData io c x = some x ∧
      netanaWriteToFile io c x = (writeData io c x, 0#32)) ∨
    (fileEnds x c = true ∧ ∃ i, (x.ulCurrentFile < x.ulFileCount → i < x.ulFileCount) ∧
      beforeData io c x = some (netanaWritefileheader io fileHeaderSizeInvalid
        { advanceFile (closeHeader io x) with ulCurrentFile := i }).1 ∧
      netanaWriteToFile io c x =
        (openNextFile io c { advanceFile (closeHeader io x) with ulCurrentFile := i }, 0#32)) ∨
    (fileEnds x c = true ∧ beforeData io c x = none ∧
      ∃ i, netanaWriteToFile io c x =
        ({ advanceFile (closeHeader io x) with fWriteToFile := false, ulCurrentFile := i },
          captureErrorDriverFileFull)) := by
  have hcount : (advanceFile (closeHeader io x)).ulFileCount = x.ulFileCount :=
    (header_settings io _ x).2.1
  rw [netanaWriteToFile, beforeData, fileEnds]
  by_cases hfull :
      (x.atFiles x.ulCurrentFile).ullOffset + BitVec.ofNat 64 c.length > x.ullFileSize
  · right
    rw [decide_eq_true hfull, if_pos hfull, if_pos rfl]
    dsimp only
    by_cases hlast : (advanceFile (closeHeader io x)).ulCurrentFile ≥
        (advanceFile (closeHeader io x)).ulFileCount
    · rw [if_pos hlast, if_pos hlast]
      by_cases hring : (advanceFile (closeHeader io x)).fRingBuffer = true
      · left
        rw [if_pos hring, if_pos hring]
        exact ⟨rfl, 0, fun hlt => Nat.zero_lt_of_lt hlt, rfl, rfl⟩
      · right
        rw [if_neg hring, if_neg hring]
        exact ⟨rfl, rfl, _, rfl⟩
    · left
      rw [if_neg hlast, if_neg hlast]
      refine ⟨rfl, (advanceFile (closeHeader io x)).ulCurrentFile, ?_, rfl, rfl⟩
      intro _
      omega
  · left
    rw [decide_eq_false hfull, if_neg hfull]
    exact ⟨rfl, rfl, rfl⟩

/-- A file that is closed gets the number of bytes behind its header. -/
theorem CaptureFile.Filled.close (h : (x.atFiles x.ulCurrentFile).Filled n)
    (hio : (closeHeader io x).ioFailed = false) :
    ∃ hd f k, closeHeader io x = x.commit hd f k ∧ f.SizeWithin n ∧ f.ullOffset ≠ 0#64 := by
  have hsize : (x.atFiles x.ulCurrentFile).ullOffset - BitVec.ofNat 64 fileHeaderSize =
      BitVec.ofNat 64 n := by
    rw [h.offset, BitVec.ofNat_add, add_comm, add_sub_cancel_right]
  rw [closeHeader, hsize] at hio ⊢
  obtain ⟨k, w, hk⟩ := header_complete (fun hzero => absurd hzero h.offset_ne_zero) hio
  refine ⟨_, _, k, congrArg Prod.fst hk, ?_, ?_⟩
  · refine ⟨_, FileHeader.parse_bytes _ _, ?_⟩
    have hle := h.le_max
    exact (toNat_offset (by omega)).le
  · exact NetanaDriver.offset_ne_zero le_rfl (by decide)

/-- A file that is started has got nothing yet. -/
theorem header_filled
    (hpos : (x.atFiles x.ulCurrentFile).ullOffset = 0#64 → (x.atFiles x.ulCurrentFile).pos = 0)
    (hio : (netanaWritefileheader io fileHeaderSizeInvalid x).1.ioFailed = false) :
    ∃ hd f k, (netanaWritefileheader io fileHeaderSizeInvalid x).1 = x.commit hd f k ∧
      f.Filled 0 := by
  obtain ⟨k, w, hk⟩ := header_complete hpos hio
  exact ⟨_, _, k, congrArg Prod.fst hk, rfl, rfl, by decide⟩

/-- The data goes behind what the file has got, and all of it is stored. -/
theorem CaptureFile.Filled.data (h : (x.atFiles x.ulCurrentFile).Filled n)
    (hio : (writeData io c x).ioFailed = false) :
    storedBytes io c x = c.length ∧
      ∃ f k, writeData io c x = x.commit x.tFileHeader f k ∧ f.Filled (n + c.length) := by
  have hwrite : (fwrite io x.ulCurrentFile c x).1.ioFailed = false := hio
  obtain ⟨-, hroom, k, w, hk⟩ := writeData_complete hio
  rw [h.pos] at hroom
  have hmax := h.le_max
  constructor
  · rw [storedBytes, fwrite_complete hwrite, h.pos]
    dsimp only
    omega
  · refine ⟨_, k, hk, ?_, ?_, ?_⟩
    · show (x.atFiles x.ulCurrentFile).pos + c.length = _
      rw [h.pos, Nat.add_assoc]
    · show (x.atFiles x.ulCurrentFile).ullOffset + _ = _
      rw [h.offset, ← BitVec.ofNat_add, Nat.add_assoc]
    · omega

namespace CaptureRecord

/-- While the capture is written to a file, and no call on a file has failed. -/
structure Open (s : CaptureRecord) : Prop where
  on : s.files.fWriteToFile = true
  current : s.files.ulCurrentFile < s.files.ulFileCount
  rewind : ∀ i < s.files.ulFileCount,
    (s.files.atFiles i).ullOffset = 0#64 → (s.files.atFiles i).pos = 0
  closed : ∀ i, s.started i = true → i ≠ s.files.ulCurrentFile →
    (s.files.atFiles i).SizeWithin (s.stored i)
  filled : (s.files.atFiles s.files.ulCurrentFile).Filled (s.stored s.files.ulCurrentFile)
  wrapped : s.wrapped = false

/-- After the last file has been closed. -/
structure Ended (s : CaptureRecord) : Prop where
  off : s.files.fWriteToFile = false
  closed : ∀ i, s.started i = true → (s.files.atFiles i).SizeWithin (s.stored i)
  wrapped : s.wrapped = false

variable {s : CaptureRecord}

/-- The files once the current one is closed. -/
theorem Open.close (hs : s.Open) (hio : (closeHeader io s.files).ioFailed = false) :
    ∃ hd f k, closeHeader io s.files = s.files.commit hd f k ∧
      (∀ i, s.started i = true → ((closeHeader io s.files).atFiles i).SizeWithin (s.stored i)) ∧
      ∀ i < s.files.ulFileCount, ((closeHeader io s.files).atFiles i).ullOffset = 0#64 →
        ((closeHeader io s.files).atFiles i).pos = 0 := by
  obtain ⟨hd, f, k, hk, hsize, hoffset⟩ := hs.filled.close hio
  have hself : (closeHeader io s.files).atFiles s.files.ulCurrentFile = f := by
    rw [hk]
    exact s.files.commit_current hd f k
  have hother {i : ℕ} (hi : i ≠ s.files.ulCurrentFile) :
      (closeHeader io s.files).atFiles i = s.files.atFiles i := by
    rw [hk]
    exact Function.update_of_ne hi _ _
  refine ⟨hd, f, k, hk, ?_, ?_⟩
  · intro i hstarted
    by_cases hi : i = s.files.ulCurrentFile
    · rw [hi, hself]
      exact hsize
    · rw [hother hi]
      exact hs.closed i hstarted hi
  · intro i hlt
    by_cases hi : i = s.files.ulCurrentFile
    · rw [hi, hself]
      intro hzero
      exact absurd hzero hoffset
    · rw [hother hi]
      exact hs.rewind i hlt

/-- A chunk that is written to the current file of `y`, which has got `n` bytes. -/
theorem Open.of_data {y : FileCapture} (hon : s.files.fWriteToFile = true)
    (hbefore : beforeData io c s.files = some y)
    (hwrite : netanaWriteToFile io c s.files = (writeData io c y, 0#32))
    (hwrapped : (s.wrapped || (fileEnds s.files c && sizeWraps s.files)) = false)
    (hn : (if fileEnds s.files c then 0 else s.stored y.ulCurrentFile) = n)
    (hony : y.fWriteToFile = true) (hcurrent : y.ulCurrentFile < y.ulFileCount)
    (hrewind : ∀ i < y.ulFileCount, (y.atFiles i).ullOffset = 0#64 → (y.atFiles i).pos = 0)
    (hclosed : ∀ i, s.started i = true → i ≠ y.ulCurrentFile →
      (y.atFiles i).SizeWithin (s.stored i))
    (hfilled : (y.atFiles y.ulCurrentFile).Filled n)
    (hio : (writeData io c y).ioFailed = false) : (s.writeChunk io c).Open := by
  obtain ⟨hstored, f, k, hk, hmore⟩ := hfilled.data hio
  have hself : (y.commit y.tFileHeader f k).atFiles y.ulCurrentFile = f :=
    y.commit_current _ f k
  have hother {i : ℕ} (hi : i ≠ y.ulCurrentFile) :
      (y.commit y.tFileHeader f k).atFiles i = y.atFiles i := Function.update_of_ne hi _ _
  have hstep : s.writeChunk io c =
      { s with
        files := y.commit y.tFileHeader f k
        started := Function.update s.started y.ulCurrentFile true
        stored := Function.update s.stored y.ulCurrentFile (n + c.length)
        wrapped := false } := by
    rw [writeChunk, if_pos hon, addData, hbefore, hwrite, hk, hwrapped, ← hstored, ← hn]
    rfl
  rw [hstep]
  constructor
  · exact hony
  · exact hcurrent
  · intro i hlt
    show ((y.commit _ f k).atFiles i).ullOffset = 0#64 → ((y.commit _ f k).atFiles i).pos = 0
    by_cases hi : i = y.ulCurrentFile
    · rw [hi, hself]
      intro hzero
      exact absurd hzero hmore.offset_ne_zero
    · rw [hother hi]
      exact hrewind i hlt
  · intro i hstarted hi
    have hi' : i ≠ y.ulCurrentFile := hi
    have hold : s.started i = true := by
      rw [← hstarted]
      exact (Function.update_of_ne hi' _ _).symm
    show ((y.commit _ f k).atFiles i).SizeWithin (Function.update s.stored _ _ i)
    rw [hother hi', Function.update_of_ne hi']
    exact hclosed i hold hi'
  · show ((y.commit _ f k).atFiles y.ulCurrentFile).Filled
      (Function.update s.stored _ _ y.ulCurrentFile)
    rw [hself, Function.update_self]
    exact hmore
  · rfl

/-- A chunk that goes to the next file, which gets its header first. -/
theorem Open.next (hs : s.Open) {i : ℕ} (hi : i < s.files.ulFileCount)
    (hends : fileEnds s.files c = true)
    (hbefore : beforeData io c s.files = some (netanaWritefileheader io fileHeaderSizeInvalid
      { advanceFile (closeHeader io s.files) with ulCurrentFile := i }).1)
    (hwrite : netanaWriteToFile io c s.files =
      (openNextFile io c { advanceFile (closeHeader io s.files) with ulCurrentFile := i }, 0#32))
    (hio : (openNextFile io c
      { advanceFile (closeHeader io s.files) with ulCurrentFile := i }).ioFailed = false) :
    (s.writeChunk io c).Open := by
  -- a call that failed before the data write would show after it
  have hadvanced := ioFailed_of_openNextFile hio
  have hclosedOk : (closeHeader io s.files).ioFailed = false := hadvanced
  obtain ⟨hd, f, k, hk, hsizes, hrewind⟩ := hs.close hclosedOk
  have hcount : (closeHeader io s.files).ulFileCount = s.files.ulFileCount := by
    rw [hk]
    rfl
  have hon : (closeHeader io s.files).fWriteToFile = true := by
    rw [hk]
    exact hs.on
  have hheaderOk : (netanaWritefileheader io fileHeaderSizeInvalid
      { advanceFile (closeHeader io s.files) with ulCurrentFile := i }).1.ioFailed = false :=
    (writeData_complete hio).1
  rw [openNextFile] at hio hwrite
  -- the next file, which may be the one that has just been closed
  obtain ⟨hd₁, f₁, k₁, hk₁, hempty⟩ := header_filled (hrewind i hi) hheaderOk
  have hself : ((netanaWritefileheader io fileHeaderSizeInvalid
      { advanceFile (closeHeader io s.files) with ulCurrentFile := i }).1).atFiles i = f₁ := by
    rw [hk₁]
    exact Function.update_self _ _ _
  have hother {j : ℕ} (hj : j ≠ i) : ((netanaWritefileheader io fileHeaderSizeInvalid
      { advanceFile (closeHeader io s.files) with ulCurrentFile := i }).1).atFiles j =
      (closeHeader io s.files).atFiles j := by
    rw [hk₁]
    exact Function.update_of_ne hj _ _
  obtain ⟨hcur₁, hcount₁, -, hon₁⟩ := header_settings io fileHeaderSizeInvalid
    { advanceFile (closeHeader io s.files) with ulCurrentFile := i }
  have hfiles := hcount₁.trans hcount
  generalize (netanaWritefileheader io fileHeaderSizeInvalid
    { advanceFile (closeHeader io s.files) with ulCurrentFile := i }).1 = y at *
  have hcur : y.ulCurrentFile = i := hcur₁
  apply Open.of_data hs.on hbefore hwrite
  · rw [hs.wrapped, hs.filled.not_wraps, Bool.and_false]
    rfl
  · rw [hends, if_pos rfl]
  · exact hon₁.trans hon
  · rw [hcur, hfiles]
    exact hi
  · intro j hj
    rw [hfiles] at hj
    by_cases hji : j = i
    · rw [hji, hself]
      intro hzero
      exact absurd hzero hempty.offset_ne_zero
    · rw [hother hji]
      exact hrewind j hj
  · intro j hstarted hj
    rw [hcur] at hj
    rw [hother hj]
    exact hsizes j hstarted
  · rw [hcur, hself]
    exact hempty
  · exact hio

/-- One chunk. -/
theorem Open.writeChunk (hs : s.Open) (hio : (s.writeChunk io c).files.ioFailed = false) :
    (s.writeChunk io c).Open ∨ (s.writeChunk io c).Ended := by
  have hfiles : (s.writeChunk io c).files = (netanaWriteToFile io c s.files).1 := by
    rw [CaptureRecord.writeChunk, if_pos hs.on]
  rw [hfiles] at hio
  rcases netanaWriteToFile_cases io c s.files with ⟨hends, hbefore, hwrite⟩ |
      ⟨hends, i, hi, hbefore, hwrite⟩ | ⟨hends, hbefore, i, hwrite⟩
  · left
    rw [hwrite] at hio
    apply Open.of_data hs.on hbefore hwrite
    · rw [hs.wrapped, hends]
      rfl
    · rw [hends]
    · exact hs.on
    · exact hs.current
    · exact hs.rewind
    · exact hs.closed
    · exact hs.filled
    · exact hio
  · left
    rw [hwrite] at hio
    exact hs.next (hi hs.current) hends hbefore hwrite hio
  · right
    rw [hwrite] at hio
    have hclosedOk : (closeHeader io s.files).ioFailed = false := hio
    obtain ⟨-, -, -, -, hsizes, -⟩ := hs.close hclosedOk
    rw [CaptureRecord.writeChunk, if_pos hs.on, addData, hbefore, hwrite]
    refine ⟨rfl, hsizes, ?_⟩
    show (s.wrapped || (fileEnds s.files c && sizeWraps s.files)) = false
    rw [hs.wrapped, hs.filled.not_wraps, Bool.and_false]
    rfl

/-- A chunk is written to the files as before, whatever is recorded beside them. -/
theorem writeChunk_files (io : IoOutcome) (s : CaptureRecord) (c : List (BitVec 8)) :
    (s.writeChunk io c).files = recordChunk io s.files c := by
  rw [CaptureRecord.writeChunk, recordChunk]
  split
  · rfl
  · rfl

theorem run_files (io : IoOutcome) (cs : List (List (BitVec 8))) (s : CaptureRecord) :
    (cs.foldl (CaptureRecord.writeChunk io) s).files = cs.foldl (recordChunk io) s.files := by
  induction cs generalizing s with
  | nil => rfl
  | cons c cs ih =>
    rw [List.foldl_cons, List.foldl_cons, ih, writeChunk_files]

theorem Ended.writeChunk (hs : s.Ended) : s.writeChunk io c = s := by
  rw [CaptureRecord.writeChunk, if_neg]
  rw [hs.off]
  decide

/-- All chunks. -/
theorem Open.run {cs : List (List (BitVec 8))} (hs : s.Open ∨ s.Ended)
    (hio : (cs.foldl (CaptureRecord.writeChunk io) s).files.ioFailed = false) :
    (cs.foldl (CaptureRecord.writeChunk io) s).Open ∨
      (cs.foldl (CaptureRecord.writeChunk io) s).Ended := by
  induction cs using List.reverseRecOn with
  | nil => exact hs
  | append_singleton cs c ih =>
    rw [List.foldl_append] at hio ⊢
    have hbefore : (cs.foldl (CaptureRecord.writeChunk io) s).files.ioFailed = false := by
      apply ioFailed_of_record
      rw [← writeChunk_files]
      exact hio
    rcases ih hbefore with hopen | hended
    · exact hopen.writeChunk hio
    · right
      show (CaptureRecord.writeChunk io _ c).Ended
      rw [hended.writeChunk]
      exact hended

variable {requests : CaptureRequests} {ulCaptureMode : BitVec 32} {ullReferenceTime : BitVec 64}
  {lTimezoneCorrection : BitVec 32} {chunks : List (List (BitVec 8))}

theorem startCapture_ok (hchecks : requests.lRetChecks = 0#32)
    (hopen : ∀ i < x.ulFileCount, (x.atFiles i).ullOffset = 0#64 → (x.atFiles i).pos = 0)
    (hio : (startCapture io requests ulCaptureMode ullReferenceTime lTimezoneCorrection
      x).files.ioFailed = false) :
    (startCapture io requests ulCaptureMode ullReferenceTime lTimezoneCorrection x).Open ∨
      (startCapture io requests ulCaptureMode ullReferenceTime lTimezoneCorrection x).Ended := by
  rw [startCapture, if_neg (not_not.mpr hchecks)] at hio ⊢
  dsimp only at hio ⊢
  by_cases hcount : x.ulFileCount > 0
  · left
    rw [if_pos hcount] at hio ⊢
    let y : FileCapture := firstFile ullReferenceTime lTimezoneCorrection
      { x with fRingBuffer := ToggleHandshake.maskTest ulCaptureMode captureModeRingbuffer }
    have hyio : (netanaWritefileheader io fileHeaderSizeInvalid y).1.ioFailed = false := hio
    have hypos : (y.atFiles y.ulCurrentFile).ullOffset = 0#64 →
        (y.atFiles y.ulCurrentFile).pos = 0 := hopen 0 hcount
    obtain ⟨hd, f, k, hk, hempty⟩ := header_filled hypos hyio
    show CaptureRecord.Open { idle (netanaWritefileheader io fileHeaderSizeInvalid y).1 with
      started := Function.update (fun _ : ℕ => false) 0 true
      lRetStart :=
        requests.lRetStarted.getD (netanaWritefileheader io fileHeaderSizeInvalid y).2 }
    rw [hk]
    constructor
    · rfl
    · exact hcount
    · intro i hi
      show ((y.commit hd f k).atFiles i).ullOffset = 0#64 → ((y.commit hd f k).atFiles i).pos = 0
      by_cases hzero : i = 0
      · have hself : (y.commit hd f k).atFiles i = f := by
          rw [hzero]
          exact y.commit_current hd f k
        rw [hself]
        intro hoffset
        exact absurd hoffset hempty.offset_ne_zero
      · have hother : (y.commit hd f k).atFiles i = x.atFiles i := Function.update_of_ne hzero _ _
        rw [hother]
        exact hopen i hi
    · intro i hstarted hi
      have hno : Function.update (fun _ : ℕ => false) 0 true i = false :=
        Function.update_of_ne hi _ _
      exact absurd (hno.symm.trans hstarted) (by decide)
    · have hself : (y.commit hd f k).atFiles y.ulCurrentFile = f := y.commit_current hd f k
      show ((y.commit hd f k).atFiles y.ulCurrentFile).Filled 0
      rw [hself]
      exact hempty
    · rfl
  · right
    rw [if_neg hcount]
    refine ⟨rfl, ?_, rfl⟩
    intro i hstarted
    cases hstarted

/-- Stopping closes the file that is written to. -/
theorem stopCapture_ok (hs : s.Open ∨ s.Ended) (hrunning : requests.running = true)
    (hstop : requests.lRetStop = 0#32)
    (hio : (s.stopCapture io requests).files.ioFailed = false) :
    (∀ i, (s.stopCapture io requests).started i = true →
      ((s.stopCapture io requests).files.atFiles i).SizeWithin
        ((s.stopCapture io requests).stored i)) ∧
    (s.stopCapture io requests).wrapped = false := by
  rw [stopCapture, hrunning, if_neg (by decide), if_neg (not_not.mpr hstop)] at hio ⊢
  rcases hs with hopen | hended
  · have hpos : s.files.ulFileCount > 0 := Nat.zero_lt_of_lt hopen.current
    rw [netanaStopCapture, if_pos hpos, if_pos hopen.on] at hio ⊢
    have hclosedOk : (closeHeader io s.files).ioFailed = false := hio
    obtain ⟨-, -, -, -, hsizes, -⟩ := hopen.close hclosedOk
    refine ⟨hsizes, ?_⟩
    show (s.wrapped || _) = false
    rw [hopen.wrapped, hopen.filled.not_wraps, Bool.and_false]
    rfl
  · have hsame : (netanaStopCapture io s.files).atFiles = s.files.atFiles := by
      rw [netanaStopCapture, hended.off]
      split
      · rfl
      · rfl
    constructor
    · intro i hstarted
      show ((netanaStopCapture io s.files).atFiles i).SizeWithin _
      rw [hsame]
      exact hended.closed i hstarted
    · show (s.wrapped || _) = false
      rw [hended.wrapped, hended.off, Bool.and_false]
      rfl

/-- What a capture that is started and stopped does to the files is what `captureToFiles` does. -/
theorem capture_files (hrunning : requests.running = true) (hstop : requests.lRetStop = 0#32) :
    (capture io requests ulCaptureMode ullReferenceTime lTimezoneCorrection chunks x).files =
      captureToFiles io ulCaptureMode ullReferenceTime lTimezoneCorrection chunks x := by
  have hchecks : requests.lRetChecks = 0#32 :=
    of_decide_eq_true (Bool.and_eq_true_iff.mp hrunning).1
  have hstart : (startCapture io requests ulCaptureMode ullReferenceTime lTimezoneCorrection
      x).files = netanaStartCapture io ulCaptureMode ullReferenceTime lTimezoneCorrection x := by
    rw [startCapture, netanaStartCapture, if_neg (not_not.mpr hchecks)]
    dsimp only
    split
    · rfl
    · rfl
  rw [capture, stopCapture, hrunning, if_neg (by decide), if_neg (not_not.mpr hstop),
    captureToFiles, ← hstart, ← run_files]
  rfl

/-- Something else than the calls on the files makes the capture end with an error: it is not
started or not stopped, or a chunk comes when the last file is full. -/
def EndsInError (io : IoOutcome) (requests : CaptureRequests) (ulCaptureMode : BitVec 32)
    (ullReferenceTime : BitVec 64) (lTimezoneCorrection : BitVec 32)
    (chunks : List (List (BitVec 8))) (x : FileCapture) : Prop :=
  requests.running = false ∨ requests.lRetStop ≠ 0#32 ∨
  ∃ before c after, chunks = before ++ c :: after ∧
    (writing io requests ulCaptureMode ullReferenceTime lTimezoneCorrection before
      x).files.fWriteToFile = true ∧
    chunkRejected (writing io requests ulCaptureMode ullReferenceTime lTimezoneCorrection before
      x).files c = true

/-- An error that has been reported stays. -/
theorem errors_writeChunk (h : s.errors ≠ []) : (s.writeChunk io c).errors ≠ [] := by
  rw [CaptureRecord.writeChunk]
  split
  · dsimp only
    split
    · exact List.append_ne_nil_of_left_ne_nil h _
    · exact h
  · exact h

theorem errors_run {cs : List (List (BitVec 8))} (h : s.errors ≠ []) :
    (cs.foldl (CaptureRecord.writeChunk io) s).errors ≠ [] := by
  induction cs generalizing s with
  | nil => exact h
  | cons c cs ih => exact ih (errors_writeChunk h)

theorem errors_stopCapture (io : IoOutcome) (requests : CaptureRequests) (s : CaptureRecord) :
    (s.stopCapture io requests).errors = s.errors := by
  rw [stopCapture]
  split
  · rfl
  · split
    · rfl
    · rfl

theorem errors_rejected (hon : s.files.fWriteToFile = true)
    (hreject : chunkRejected s.files c = true) : (s.writeChunk io c).errors ≠ [] := by
  have herror := (netanaWriteToFile_error io c s.files).1
  rw [hreject, if_pos rfl] at herror
  have hne : captureErrorDriverFileFull ≠ 0#32 := by decide
  rw [CaptureRecord.writeChunk, if_pos hon, herror]
  dsimp only
  rw [if_pos hne]
  exact List.concat_ne_nil _ _

theorem reported_of_endsInError
    (h : EndsInError io requests ulCaptureMode ullReferenceTime lTimezoneCorrection chunks x) :
    (capture io requests ulCaptureMode ullReferenceTime lTimezoneCorrection chunks
      x).ErrorReported := by
  rw [capture]
  rcases h with hoff | hstop | ⟨before, c, after, hchunks, hon, hreject⟩
  · right
    left
    rw [stopCapture, if_pos hoff]
    show netanaCaptureNotActive ≠ 0#32
    decide
  · right
    left
    by_cases hoff : requests.running = false
    · rw [stopCapture, if_pos hoff]
      show netanaCaptureNotActive ≠ 0#32
      decide
    · rw [stopCapture, if_neg hoff, if_pos hstop]
      exact hstop
  · right
    right
    rw [errors_stopCapture, hchunks, writing, List.foldl_append, List.foldl_cons]
    apply errors_run
    exact errors_rejected hon hreject

/-- Where every call on a file completes, or the capture ends with an error for another reason, no
failure goes unnoticed. -/
theorem file_failures_noticed (io : IoOutcome) (requests : CaptureRequests)
    (ulCaptureMode : BitVec 32) (ullReferenceTime : BitVec 64) (lTimezoneCorrection : BitVec 32)
    (chunks : List (List (BitVec 8))) (x : FileCapture)
    (hopen : ∀ i < x.ulFileCount, (x.atFiles i).ullOffset = 0#64 → (x.atFiles i).pos = 0)
    (hcalls : (capture io requests ulCaptureMode ullReferenceTime lTimezoneCorrection chunks
        x).files.ioFailed = false ∨
      EndsInError io requests ulCaptureMode ullReferenceTime lTimezoneCorrection chunks x) :
    (capture io requests ulCaptureMode ullReferenceTime lTimezoneCorrection chunks
      x).FailuresNoticed := by
  by_cases hends :
      EndsInError io requests ulCaptureMode ullReferenceTime lTimezoneCorrection chunks x
  · exact Or.inr (reported_of_endsInError hends)
  · left
    have hio := hcalls.resolve_right hends
    rw [EndsInError, not_or, not_or, Bool.not_eq_false, not_not] at hends
    obtain ⟨hrunning, hstop, -⟩ := hends
    have hchecks : requests.lRetChecks = 0#32 :=
      of_decide_eq_true (Bool.and_eq_true_iff.mp hrunning).1
    have hwritten : (writing io requests ulCaptureMode ullReferenceTime lTimezoneCorrection chunks
        x).files.ioFailed = false := by
      rw [capture, stopCapture, hrunning, if_neg (by decide), if_neg (not_not.mpr hstop)] at hio
      exact ioFailed_of_stop hio
    -- no call failed, so the invariant holds up to the stop
    have hstarted : (startCapture io requests ulCaptureMode ullReferenceTime lTimezoneCorrection
        x).files.ioFailed = false := by
      rw [writing, run_files] at hwritten
      exact ioFailed_of_run hwritten
    have hrun := Open.run (startCapture_ok hchecks hopen hstarted) hwritten
    exact stopCapture_ok hrun hrunning hstop hio

/-- The requests of a capture that is started and stopped without an error. -/
def accepted : CaptureRequests where
  lRetChecks := 0#32
  lRetStarted := some 0#32
  lRetStop := 0#32

/-- One new file with room for four bytes of data, which are zero. -/
def newFile : FileCapture where
  fRingBuffer := false
  ulFileCount := 1
  ullFileSize := 36#64
  ulCurrentFile := 0
  fWriteToFile := false
  tFileHeader := captureHeader 0#64 0#32
  atFiles := fun _ => ⟨List.replicate 36 0#8, 0, 0#64, 0#64⟩
  calls := 0
  ioFailed := false

/-- Two chunks into one file, by calls that all complete. -/
theorem file_failures_noticed_two :
    (capture (fun _ => 100) accepted 0#32 5#64 0#32 [[1#8], [2#8, 3#8]] newFile).stored 0 = 3 ∧
    (capture (fun _ => 100) accepted 0#32 5#64 0#32 [[1#8], [2#8, 3#8]]
      newFile).FailuresNoticed := by
  refine ⟨by decide +kernel, ?_⟩
  apply file_failures_noticed
  · intro i _ _
    rfl
  · left
    decide +kernel

/-- The second call on the file, which writes the data, stores one byte only. -/
def shortDataWrite (k : ℕ) : ℕ := if k = 1 then 1 else 100

def shortCapture : CaptureRecord :=
  capture shortDataWrite accepted 0#32 5#64 0#32 [[1#8, 2#8]] newFile

/-- The first call on the file, which writes the header, fails. -/
def failedHeader (k : ℕ) : ℕ := if k = 0 then 0 else 100

def headerlessCapture : CaptureRecord :=
  capture failedHeader accepted 0#32 5#64 0#32 [[1#8, 2#8]] newFile

/-- A short write of data leaves a header with a size that is not there, and a header that is not
written a size below zero, both without an error. -/
theorem file_failures_unnoticed :
    ((FileHeader.parse (shortCapture.files.atFiles 0).content).map (·.ullDataSize) = some 2#64 ∧
      shortCapture.stored 0 = 1 ∧ shortCapture.started 0 = true ∧
      shortCapture.lRetStart = 0#32 ∧ shortCapture.lRetStop = 0#32 ∧ shortCapture.errors = []) ∧
    (headerlessCapture.wrapped = true ∧ headerlessCapture.lRetStart = 0#32 ∧
      headerlessCapture.lRetStop = 0#32 ∧ headerlessCapture.errors = []) ∧
    ¬ ∀ (io : IoOutcome) (requests : CaptureRequests) (ulCaptureMode : BitVec 32)
      (ullReferenceTime : BitVec 64) (lTimezoneCorrection : BitVec 32)
      (chunks : List (List (BitVec 8))) (x : FileCapture),
      (∀ i < x.ulFileCount, (x.atFiles i).ullOffset = 0#64 → (x.atFiles i).pos = 0) →
      (capture io requests ulCaptureMode ullReferenceTime lTimezoneCorrection chunks
        x).FailuresNoticed := by
  have hshort : (FileHeader.parse (shortCapture.files.atFiles 0).content).map (·.ullDataSize) =
        some 2#64 ∧
      shortCapture.stored 0 = 1 ∧ shortCapture.started 0 = true ∧
      shortCapture.lRetStart = 0#32 ∧ shortCapture.lRetStop = 0#32 ∧
      shortCapture.errors = [] := by
    decide +kernel
  refine ⟨hshort, by decide +kernel, ?_⟩
  intro hall
  have hlaw := hall shortDataWrite accepted 0#32 5#64 0#32 [[1#8, 2#8]] newFile fun _ _ _ => rfl
  obtain ⟨hsize, hstored, hstarted, hstart, hstop, herrors⟩ := hshort
  rcases hlaw with ⟨hsizes, -⟩ | hstart' | hstop' | herrors'
  · obtain ⟨h, hparse, hle⟩ := hsizes 0 hstarted
    have hparse' : FileHeader.parse (shortCapture.files.atFiles 0).content = some h := hparse
    rw [hparse', Option.map_some, Option.some_inj] at hsize
    have hle' : h.ullDataSize.toNat ≤ shortCapture.stored 0 := hle
    rw [hsize, hstored] at hle'
    exact absurd hle' (by decide)
  · exact hstart' hstart
  · exact hstop' hstop
  · exact herrors' herrors

end CaptureRecord

end NetanaDriver
