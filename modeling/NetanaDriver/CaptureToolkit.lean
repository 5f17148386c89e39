import NetanaDriver.CaptureFiles

/-! Capture to file in the toolkit: `netana_tkit_writefileheader` and the file branch of
`netana_tkit_process` (toolkit/netana_capture.c), and that it does what the library does. -/
namespace NetanaDriver

/-- `NETANA_CAPTURE_ERROR_DRIVER_INVALID_BUFFERSIZE`. -/
def captureErrorDriverInvalidBuffersize : BitVec 32 := 0xC0770001#32

/-- `OS_FileWrite`, on a system where it writes to the file like `fwrite`. -/
def osFileWrite (io : IoOutcome) (i : ℕ) (pvBuffer : List (BitVec 8)) (x : FileCapture) :
    FileCapture × ℕ := fwrite io i pvBuffer x

/-- `OS_FileSeek` to the start of the file, on a system where it seeks like `fseek`. -/
def osFileSeekStart (io : IoOutcome) (i : ℕ) (x : FileCapture) : FileCapture := fseekStart io i x

/-- `netana_tkit_writefileheader`, with its return value. -/
def netanaTkitWritefileheader (io : IoOutcome) (ullSize : BitVec 64) (x : FileCapture) :
    FileCapture × BitVec 32 :=
  let ulFile := x.ulCurrentFile
  let x :=
    if (x.atFiles ulFile).ullOffset ≠ 0#64 then
      let x := osFileSeekStart io ulFile x
      x.setFile ulFile { x.atFiles ulFile with ullOffset := 0#64 }
    else x
  let x := { x with tFileHeader := { x.tFileHeader with ullDataSize := ullSize } }
  let x :=
    if fileHeaderSizeInvalid = ullSize then
      x.setFile ulFile { x.atFiles ulFile with ullDataWritten := 0#64 }
    else x.setFile ulFile { x.atFiles ulFile with ullDataWritten := ullSize }
  let r := osFileWrite io ulFile x.tFileHeader.bytes x
  let x := r.1
  if fileHeaderSize = r.2 then
    (x.setFile ulFile { x.atFiles ulFile with
      ullOffset := (x.atFiles ulFile).ullOffset + BitVec.ofNat 64 fileHeaderSize }, 0#32)
  else (x, netanaFileWriteFailed)

/-- Write the data to file `ulFile` and count it. -/
def netanaTkitWriteData (io : IoOutcome) (ulFile : ℕ) (pvBufferAddress : List (BitVec 8))
    (x : FileCapture) : FileCapture :=
  let x := (osFileWrite io ulFile pvBufferAddress x).1
  let x := x.setFile ulFile { x.atFiles ulFile with
    ullOffset := (x.atFiles ulFile).ullOffset + BitVec.ofNat 64 pvBufferAddress.length }
  x.setFile ulFile { x.atFiles ulFile with
    ullDataWritten := (x.atFiles ulFile).ullDataWritten + BitVec.ofNat 64 pvBufferAddress.length }

/-- What `netana_tkit_process` does to the files with a used buffer, and the error that it signals
to the firmware. -/
def netanaTkitProcessFile (io : IoOutcome) (ulBufferSize : ℕ) (pvBufferAddress : List (BitVec 8))
    (x : FileCapture) : FileCapture × Option (BitVec 32) :=
  if pvBufferAddress.length > ulBufferSize then
    -- the buffer is rejected, and the capture to file ends
    if x.fWriteToFile then
      let x := (netanaTkitWritefileheader io
        ((x.atFiles x.ulCurrentFile).ullOffset - BitVec.ofNat 64 fileHeaderSize) x).1
      ({ x with fWriteToFile := false }, some captureErrorDriverInvalidBuffersize)
    else (x, some captureErrorDriverInvalidBuffersize)
  else if x.fWriteToFile then
    let ulFile := x.ulCurrentFile
    if (x.atFiles ulFile).ullOffset + BitVec.ofNat 64 pvBufferAddress.length > x.ullFileSize then
      let x := (netanaTkitWritefileheader io
        ((x.atFiles ulFile).ullOffset - BitVec.ofNat 64 fileHeaderSize) x).1
      let x := { x with tFileHeader := { x.tFileHeader with ulIdx := x.tFileHeader.ulIdx + 1#32 } }
      let x := { x with ulCurrentFile := x.ulCurrentFile + 1 }
      if x.ulCurrentFile ≥ x.ulFileCount then
        if x.fRingBuffer then
          let x := { x with ulCurrentFile := 0 }
          let x := (netanaTkitWritefileheader io fileHeaderSizeInvalid x).1
          (netanaTkitWriteData io 0 pvBufferAddress x, none)
        else
          let x := { x with fWriteToFile := false }
          ({ x with ulCurrentFile := x.ulCurrentFile - 1 }, some captureErrorDriverFileFull)
      else
        let ulFile := x.ulCurrentFile
        let x := (netanaTkitWritefileheader io fileHeaderSizeInvalid x).1
        (netanaTkitWriteData io ulFile pvBufferAddress x, none)
    else (netanaTkitWriteData io ulFile pvBufferAddress x, none)
  else (x, none)

/-- What the event thread of the library does to the files with a chunk that it has read, and the
error that `netana_write_to_file` returns. -/
def netanaEventChunk (io : IoOutcome) (pvBuffer : List (BitVec 8)) (x : FileCapture) :
    FileCapture × BitVec 32 :=
  if x.fWriteToFile then netanaWriteToFile io pvBuffer x else (x, 0#32)

/-- A sequence of chunks, with the reports for each of them. -/
def chunkRun {ρ : Type*} (step : List (BitVec 8) → FileCapture → FileCapture × ρ)
    (chunks : List (List (BitVec 8))) (x : FileCapture) : FileCapture × List ρ :=
  chunks.foldl (fun r c => ((step c r.1).1, r.2 ++ [(step c r.1).2])) (x, [])

theorem tkitWritefileheader_eq (io : IoOutcome) (ullSize : BitVec 64) (x : FileCapture) :
    netanaTkitWritefileheader io ullSize x = netanaWritefileheader io ullSize x := by
  have hsize (a : ℕ) : (fileHeaderSize = a) = (a = fileHeaderSize) := propext eq_comm
  simp only [netanaTkitWritefileheader, netanaWritefileheader, prepareHeader, rewindCurrent,
    osFileSeekStart, osFileWrite, hsize]
  by_cases hoffset : (x.atFiles x.ulCurrentFile).ullOffset = 0#64
  · by_cases hinvalid : fileHeaderSizeInvalid = ullSize
    · simp [hoffset, hinvalid]
    · simp [hoffset, hinvalid]
  · by_cases hinvalid : fileHeaderSizeInvalid = ullSize
    · simp [hoffset, hinvalid]
    · simp [hoffset, hinvalid]

theorem tkitWriteData_eq (io : IoOutcome) (pvBufferAddress : List (BitVec 8)) (x : FileCapture) :
    netanaTkitWriteData io x.ulCurrentFile pvBufferAddress x = writeData io pvBufferAddress x := by
  simp [netanaTkitWriteData, writeData, osFileWrite, FileCapture.setFile]

/-- The toolkit opens the next file, and writes the chunk behind its header, as the library does. -/
theorem tkitOpenNextFile_eq (io : IoOutcome) (pvBuffer : List (BitVec 8)) (x : FileCapture) :
    netanaTkitWriteData io x.ulCurrentFile pvBuffer
      (netanaWritefileheader io fileHeaderSizeInvalid x).1 = openNextFile io pvBuffer x := by
  have hcurrent := (header_settings io fileHeaderSizeInvalid x).1
  rw [← hcurrent, tkitWriteData_eq]
  rfl

/-- The error that the toolkit signals for an error code of the library. -/
def signalled (ulRet : BitVec 32) : Option (BitVec 32) := if ulRet = 0#32 then none else some ulRet

/-- One chunk: the toolkit leaves the same state, and signals what the library returns. -/
theorem tkitProcessFile_eq (io : IoOutcome) {ulBufferSize : ℕ} {pvBuffer : List (BitVec 8)}
    (hsize : pvBuffer.length ≤ ulBufferSize) (x : FileCapture) :
    netanaTkitProcessFile io ulBufferSize pvBuffer x =
      ((netanaEventChunk io pvBuffer x).1, signalled (netanaEventChunk io pvBuffer x).2) := by
  have haccepted : ¬ pvBuffer.length > ulBufferSize := not_lt.mpr hsize
  unfold netanaTkitProcessFile netanaEventChunk
  rw [if_neg haccepted]
  by_cases hwrite : x.fWriteToFile = true
  · rw [if_pos hwrite, if_pos hwrite]
    by_cases hfull : (x.atFiles x.ulCurrentFile).ullOffset + BitVec.ofNat 64 pvBuffer.length >
        x.ullFileSize
    · have hlibrary : netanaWriteToFile io pvBuffer x =
          if (advanceFile (closeHeader io x)).ulCurrentFile ≥
              (advanceFile (closeHeader io x)).ulFileCount then
            if (advanceFile (closeHeader io x)).fRingBuffer then
              (openNextFile io pvBuffer
                { advanceFile (closeHeader io x) with ulCurrentFile := 0 }, 0#32)
            else
              ({ advanceFile (closeHeader io x) with
                  fWriteToFile := false
                  ulCurrentFile := (advanceFile (closeHeader io x)).ulCurrentFile - 1 },
                captureErrorDriverFileFull)
          else (openNextFile io pvBuffer (advanceFile (closeHeader io x)), 0#32) := if_pos hfull
      rw [hlibrary]
      refine (if_pos hfull).trans ?_
      rw [tkitWritefileheader_eq]
      -- both have closed the current file, and go on to the same one
      rw [closeHeader]
      generalize (netanaWritefileheader io
        ((x.atFiles x.ulCurrentFile).ullOffset - BitVec.ofNat 64 fileHeaderSize) x).1 = z
      by_cases hlast : (advanceFile z).ulCurrentFile ≥ (advanceFile z).ulFileCount
      · by_cases hring : (advanceFile z).fRingBuffer = true
        · have hfirst := tkitOpenNextFile_eq io pvBuffer { advanceFile z with ulCurrentFile := 0 }
          rw [if_pos hlast, if_pos hring, ← hfirst, ← tkitWritefileheader_eq]
          exact (if_pos hlast).trans (if_pos hring)
        · rw [if_pos hlast, if_neg hring]
          exact (if_pos hlast).trans (if_neg hring)
      · rw [if_neg hlast, ← tkitOpenNextFile_eq, ← tkitWritefileheader_eq]
        exact if_neg hlast
    · have hlibrary : netanaWriteToFile io pvBuffer x = (writeData io pvBuffer x, 0#32) :=
        if_neg hfull
      rw [hlibrary, ← tkitWriteData_eq]
      exact if_neg hfull
  · rw [if_neg hwrite, if_neg hwrite]
    rfl

theorem chunkRun_append {ρ : Type*} (step : List (BitVec 8) → FileCapture → FileCapture × ρ)
    (chunks : List (List (BitVec 8))) (c : List (BitVec 8)) (x : FileCapture) :
    chunkRun step (chunks ++ [c]) x =
      ((step c (chunkRun step chunks x).1).1,
        (chunkRun step chunks x).2 ++ [(step c (chunkRun step chunks x).1).2]) :=
  List.foldl_concat _ _ _ _

/-- The run of the toolkit and that of the library, chunk by chunk. -/
theorem chunkRun_agree (io : IoOutcome) (ulBufferSize : ℕ) (chunks : List (List (BitVec 8)))
    (x : FileCapture) (hsize : ∀ c ∈ chunks, c.length ≤ ulBufferSize) :
    chunkRun (netanaTkitProcessFile io ulBufferSize) chunks x =
      ((chunkRun (netanaEventChunk io) chunks x).1,
        (chunkRun (netanaEventChunk io) chunks x).2.map signalled) := by
  induction chunks using List.reverseRecOn with
  | nil => rfl
  | append_singleton chunks c ih =>
    have hbefore : ∀ c' ∈ chunks, c'.length ≤ ulBufferSize := by
      intro c' hc'
      exact hsize c' (List.mem_append_left _ hc')
    have hlast : c.length ≤ ulBufferSize := hsize c (by simp)
    rw [chunkRun_append, chunkRun_append, ih hbefore, tkitProcessFile_eq io hlast]
    simp

/-- For every outcome of the writes and seeks, and so when all of them complete, the two
implementations write the same files, and report a full file for the same chunks. -/
theorem capture_to_file_agrees (io : IoOutcome) (ulBufferSize : ℕ)
    (chunks : List (List (BitVec 8))) (x : FileCapture)
    (hsize : ∀ c ∈ chunks, c.length ≤ ulBufferSize) :
    (chunkRun (netanaTkitProcessFile io ulBufferSize) chunks x).1 =
        (chunkRun (netanaEventChunk io) chunks x).1 ∧
      (chunkRun (netanaTkitProcessFile io ulBufferSize) chunks x).2.map
          (fun r => decide (r = some captureErrorDriverFileFull)) =
        (chunkRun (netanaEventChunk io) chunks x).2.map
          (fun r => decide (r = captureErrorDriverFileFull)) := by
  have hrun := chunkRun_agree io ulBufferSize chunks x hsize
  refine ⟨congrArg Prod.fst hrun, ?_⟩
  rw [congrArg Prod.snd hrun, List.map_map]
  apply List.map_congr_left
  intro r _
  have hsignal : signalled r = some captureErrorDriverFileFull ↔
      r = captureErrorDriverFileFull := by
    unfold signalled
    split
    · next hzero => simp [hzero, captureErrorDriverFileFull]
    · exact Option.some_inj
  exact decide_eq_decide.mpr hsignal

/-- One file behind its header, which has room for eight more bytes. -/
def oneFileCapture : FileCapture :=
  { fRingBuffer := false
    ulFileCount := 1
    ullFileSize := 40#64
    ulCurrentFile := 0
    fWriteToFile := true
    tFileHeader :=
      { ulCookie := fileHeaderCookie
        ulIdx := 0#32
        ullCaptureStart := 0#64
        ullDataSize := fileHeaderSizeInvalid
        lTimezoneCorrection := 0#32
        ulReserved := 0#32 }
    atFiles := fun _ => { content := [], pos := 0, ullOffset := 32#64, ullDataWritten := 0#64 }
    calls := 0
    ioFailed := false }

/-- Two chunks of eight bytes: the second finds the file full. -/
theorem capture_to_file_agrees_two :
    (chunkRun (netanaTkitProcessFile (fun _ => 2 ^ 32) 8)
        [List.replicate 8 1#8, List.replicate 8 2#8] oneFileCapture).2 =
      [none, some captureErrorDriverFileFull] ∧
    (chunkRun (netanaTkitProcessFile (fun _ => 2 ^ 32) 8)
        [List.replicate 8 1#8, List.replicate 8 2#8] oneFileCapture).1 =
      (chunkRun (netanaEventChunk (fun _ => 2 ^ 32))
        [List.replicate 8 1#8, List.replicate 8 2#8] oneFileCapture).1 :=
  ⟨by rfl, (capture_to_file_agrees (fun _ => 2 ^ 32) 8
    [List.replicate 8 1#8, List.replicate 8 2#8] oneFileCapture (by decide)).1⟩

end NetanaDriver
