import NetanaDriver.LittleEndian
import NetanaDriver.ToggleHandshake

/-! Capture to file in the library: the file header, the calls of the C library on the files,
and `netana_writefileheader` and `netana_write_to_file` (libnetana/netana_capture.c), with what
`netana_start_capture` and `netana_stop_capture` do to the files. -/
namespace NetanaDriver

/-- `NETANA_FILE_HEADER_T`. -/
structure FileHeader where
  ulCookie : BitVec 32
  ulIdx : BitVec 32
  ullCaptureStart : BitVec 64
  ullDataSize : BitVec 64
  lTimezoneCorrection : BitVec 32
  ulReserved : BitVec 32
  deriving DecidableEq, Repr

def fileHeaderCookie : BitVec 32 := 0x4145482e#32

/-- `NETANA_FILE_HEADER_SIZE_INVALID`. -/
def fileHeaderSizeInvalid : BitVec 64 := 0xFFFFFFFFFFFFFFFF#64

/-- `NETANA_CAPTUREMODE_RINGBUFFER`. -/
def captureModeRingbuffer : BitVec 32 := 0x80000000#32

/-- `NETANA_FILE_WRITE_FAILED`. -/
def netanaFileWriteFailed : BitVec 32 := 0x8022000A#32

/-- `NETANA_CAPTURE_ERROR_DRIVER_FILE_FULL`. -/
def captureErrorDriverFileFull : BitVec 32 := 0xC0770000#32

/-- `NETANA_MAX_FILES`. -/
def netanaMaxFiles : ℕ := 256

/-- `sizeof(NETANA_FILE_HEADER_T)`. -/
def fileHeaderSize : ℕ := 32

/-- The fields of the packed header, with their lengths. -/
def FileHeader.fields (h : FileHeader) : List (ℕ × ℕ) :=
  [(4, h.ulCookie.toNat), (4, h.ulIdx.toNat), (8, h.ullCaptureStart.toNat),
    (8, h.ullDataSize.toNat), (4, h.lTimezoneCorrection.toNat), (4, h.ulReserved.toNat)]

/-- The header as a little-endian host writes it. -/
def FileHeader.bytes (h : FileHeader) : List (BitVec 8) := LittleEndian.encode h.fields

/-- The header at the start of a file. -/
def FileHeader.parse (content : List (BitVec 8)) : Option FileHeader :=
  match LittleEndian.decode [4, 4, 8, 8, 4, 4] content with
  | [cookie, idx, start, size, zone, reserved] => some
    { ulCookie := BitVec.ofNat 32 cookie
      ulIdx := BitVec.ofNat 32 idx
      ullCaptureStart := BitVec.ofNat 64 start
      ullDataSize := BitVec.ofNat 64 size
      lTimezoneCorrection := BitVec.ofNat 32 zone
      ulReserved := BitVec.ofNat 32 reserved }
  | _ => none

/-- A file as it is read back: its header, and as many bytes behind it as that says. -/
def readCaptureFile (content : List (BitVec 8)) : Option (FileHeader × List (BitVec 8)) :=
  (FileHeader.parse content).map fun h =>
    (h, (content.drop fileHeaderSize).take h.ullDataSize.toNat)

theorem FileHeader.length_bytes (h : FileHeader) : h.bytes.length = fileHeaderSize :=
  LittleEndian.length_encode h.fields

theorem FileHeader.parse_bytes (h : FileHeader) (rest : List (BitVec 8)) :
    FileHeader.parse (h.bytes ++ rest) = some h := by
  have hbound : ∀ f ∈ h.fields, f.2 < 256 ^ f.1 := by
    have h32 (x : BitVec 32) : x.toNat < 256 ^ 4 := x.isLt
    have h64 (x : BitVec 64) : x.toNat < 256 ^ 8 := x.isLt
    intro f hf
    simp only [FileHeader.fields, List.mem_cons, List.not_mem_nil, or_false] at hf
    rcases hf with rfl | rfl | rfl | rfl | rfl | rfl
    · exact h32 _
    · exact h32 _
    · exact h64 _
    · exact h64 _
    · exact h32 _
    · exact h32 _
  have hdecode : LittleEndian.decode [4, 4, 8, 8, 4, 4] (h.bytes ++ rest) =
      h.fields.map Prod.snd := LittleEndian.decode_encode hbound rest
  rw [FileHeader.parse, hdecode]
  simp [FileHeader.fields]

/-- An open capture file: what it contains, the position of its handle, and the two counters of
`NETANA_FILE_DATA_T`. -/
structure CaptureFile where
  content : List (BitVec 8)
  pos : ℕ
  ullOffset : BitVec 64
  ullDataWritten : BitVec 64
  deriving DecidableEq, Repr

/-- The file part of the library's device instance. `calls` counts the calls on files, and
`ioFailed` records that one of them did not complete. -/
structure FileCapture where
  fRingBuffer : Bool
  ulFileCount : ℕ
  ullFileSize : BitVec 64
  ulCurrentFile : ℕ
  fWriteToFile : Bool
  tFileHeader : FileHeader
  atFiles : ℕ → CaptureFile
  calls : ℕ
  ioFailed : Bool

/-- How far call number `k` on a file gets: bytes that a write writes at most, and whether a seek
succeeds. -/
abbrev IoOutcome := ℕ → ℕ

/-- The largest offset in a file. -/
def offMax : ℕ := 2 ^ 63 - 1

/-- Bytes at the position of the handle are replaced, which moves on behind them. -/
def CaptureFile.overwrite (f : CaptureFile) (data : List (BitVec 8)) : CaptureFile :=
  { f with
    content := f.content.take f.pos ++ data ++ f.content.drop (f.pos + data.length)
    pos := f.pos + data.length }

def FileCapture.setFile (x : FileCapture) (i : ℕ) (f : CaptureFile) : FileCapture :=
  { x with atFiles := Function.update x.atFiles i f }

/-- `fwrite`, with the number of bytes written. -/
def fwrite (io : IoOutcome) (i : ℕ) (data : List (BitVec 8)) (x : FileCapture) :
    FileCapture × ℕ :=
  let f := x.atFiles i
  let count := min (min (io x.calls) data.length) (offMax - f.pos)
  ({ x.setFile i (f.overwrite (data.take count)) with
      calls := x.calls + 1
      ioFailed := x.ioFailed || decide (count < data.length) }, count)

/-- `fseek` to the start of the file. -/
def fseekStart (io : IoOutcome) (i : ℕ) (x : FileCapture) : FileCapture :=
  let f := x.atFiles i
  { x.setFile i { f with pos := if io x.calls = 0 then f.pos else 0 } with
    calls := x.calls + 1
    ioFailed := x.ioFailed || decide (io x.calls = 0) }

/-- `netana_writefileheader` goes back to the start of the current file. -/
def rewindCurrent (io : IoOutcome) (x : FileCapture) : FileCapture :=
  let i := x.ulCurrentFile
  if (x.atFiles i).ullOffset ≠ 0#64 then
    let x := fseekStart io i x
    x.setFile i { x.atFiles i with ullOffset := 0#64 }
  else x

/-- `netana_writefileheader` up to its write. -/
def prepareHeader (io : IoOutcome) (ullSize : BitVec 64) (x : FileCapture) : FileCapture :=
  let i := x.ulCurrentFile
  let x := rewindCurrent io x
  let x := { x with tFileHeader := { x.tFileHeader with ullDataSize := ullSize } }
  x.setFile i { x.atFiles i with
    ullDataWritten := if fileHeaderSizeInvalid = ullSize then 0#64 else ullSize }

/-- `netana_writefileheader`, with its return value. -/
def netanaWritefileheader (io : IoOutcome) (ullSize : BitVec 64) (x : FileCapture) :
    FileCapture × BitVec 32 :=
  let i := x.ulCurrentFile
  let x := prepareHeader io ullSize x
  let r := fwrite io i x.tFileHeader.bytes x
  if r.2 = fileHeaderSize then
    (r.1.setFile i { r.1.atFiles i with
      ullOffset := (r.1.atFiles i).ullOffset + BitVec.ofNat 64 fileHeaderSize }, 0#32)
  else (r.1, netanaFileWriteFailed)

/-- Writing a header changes no setting of the capture. -/
theorem header_settings (io : IoOutcome) (ullSize : BitVec 64) (x : FileCapture) :
    (netanaWritefileheader io ullSize x).1.ulCurrentFile = x.ulCurrentFile ∧
      (netanaWritefileheader io ullSize x).1.ulFileCount = x.ulFileCount ∧
      (netanaWritefileheader io ullSize x).1.fRingBuffer = x.fRingBuffer ∧
      (netanaWritefileheader io ullSize x).1.fWriteToFile = x.fWriteToFile := by
  have hrewind : (rewindCurrent io x).ulCurrentFile = x.ulCurrentFile ∧
      (rewindCurrent io x).ulFileCount = x.ulFileCount ∧
      (rewindCurrent io x).fRingBuffer = x.fRingBuffer ∧
      (rewindCurrent io x).fWriteToFile = x.fWriteToFile := by
    rw [rewindCurrent]
    dsimp only
    split
    · exact ⟨rfl, rfl, rfl, rfl⟩
    · exact ⟨rfl, rfl, rfl, rfl⟩
  have hprepared : (prepareHeader io ullSize x).ulCurrentFile = x.ulCurrentFile ∧
      (prepareHeader io ullSize x).ulFileCount = x.ulFileCount ∧
      (prepareHeader io ullSize x).fRingBuffer = x.fRingBuffer ∧
      (prepareHeader io ullSize x).fWriteToFile = x.fWriteToFile := hrewind
  rw [netanaWritefileheader]
  dsimp only
  generalize prepareHeader io ullSize x = y at hprepared ⊢
  split
  · exact hprepared
  · exact hprepared

/-- Write the data to the current file and count it, whatever `fwrite` returns. -/
def writeData (io : IoOutcome) (pvBuffer : List (BitVec 8)) (x : FileCapture) : FileCapture :=
  let i := x.ulCurrentFile
  let x := (fwrite io i pvBuffer x).1
  x.setFile i { x.atFiles i with
    ullOffset := (x.atFiles i).ullOffset + BitVec.ofNat 64 pvBuffer.length
    ullDataWritten := (x.atFiles i).ullDataWritten + BitVec.ofNat 64 pvBuffer.length }

/-- The header of the current file gets the length of what has been written behind it. -/
def closeHeader (io : IoOutcome) (x : FileCapture) : FileCapture :=
  (netanaWritefileheader io
    ((x.atFiles x.ulCurrentFile).ullOffset - BitVec.ofNat 64 fileHeaderSize) x).1

/-- The header record and the index of the current file go on to the next file. -/
def advanceFile (x : FileCapture) : FileCapture :=
  { x with
    tFileHeader := { x.tFileHeader with ulIdx := x.tFileHeader.ulIdx + 1#32 }
    ulCurrentFile := x.ulCurrentFile + 1 }

/-- Write the header to the new file, and the data behind it. -/
def openNextFile (io : IoOutcome) (pvBuffer : List (BitVec 8)) (x : FileCapture) : FileCapture :=
  writeData io pvBuffer (netanaWritefileheader io fileHeaderSizeInvalid x).1

/-- `netana_write_to_file`, with its return value. -/
def netanaWriteToFile (io : IoOutcome) (pvBuffer : List (BitVec 8)) (x : FileCapture) :
    FileCapture × BitVec 32 :=
  if (x.atFiles x.ulCurrentFile).ullOffset + BitVec.ofNat 64 pvBuffer.length > x.ullFileSize then
    let x := advanceFile (closeHeader io x)
    if x.ulCurrentFile ≥ x.ulFileCount then
      if x.fRingBuffer then (openNextFile io pvBuffer { x with ulCurrentFile := 0 }, 0#32)
      else
        ({ x with fWriteToFile := false, ulCurrentFile := x.ulCurrentFile - 1 },
          captureErrorDriverFileFull)
    else (openNextFile io pvBuffer x, 0#32)
  else (writeData io pvBuffer x, 0#32)

/-- What the event thread does with a chunk that it has read. -/
def recordChunk (io : IoOutcome) (x : FileCapture) (pvBuffer : List (BitVec 8)) : FileCapture :=
  if x.fWriteToFile then (netanaWriteToFile io pvBuffer x).1 else x

/-- The first file becomes the current one, and the header record is filled in. -/
def firstFile (ullReferenceTime : BitVec 64) (lTimezoneCorrection : BitVec 32)
    (x : FileCapture) : FileCapture :=
  { x with
    ulCurrentFile := 0
    fWriteToFile := true
    tFileHeader :=
      { ulCookie := fileHeaderCookie
        ulIdx := 0#32
        ullCaptureStart := ullReferenceTime
        ullDataSize := x.tFileHeader.ullDataSize
        lTimezoneCorrection := lTimezoneCorrection
        ulReserved := 0#32 } }

/-- What `netana_start_capture` does to the files. -/
def netanaStartCapture (io : IoOutcome) (ulCaptureMode : BitVec 32) (ullReferenceTime : BitVec 64)
    (lTimezoneCorrection : BitVec 32) (x : FileCapture) : FileCapture :=
  let x := { x with fRingBuffer := ToggleHandshake.maskTest ulCaptureMode captureModeRingbuffer }
  if x.ulFileCount > 0 then
    (netanaWritefileheader io fileHeaderSizeInvalid
      (firstFile ullReferenceTime lTimezoneCorrection x)).1
  else { x with fWriteToFile := false }

/-- What `netana_stop_capture` does to the files, which are then closed. -/
def netanaStopCapture (io : IoOutcome) (x : FileCapture) : FileCapture :=
  if x.ulFileCount > 0 then
    { if x.fWriteToFile then closeHeader io x else x with ulFileCount := 0 }
  else x

/-- A whole capture to file. -/
def captureToFiles (io : IoOutcome) (ulCaptureMode : BitVec 32) (ullReferenceTime : BitVec 64)
    (lTimezoneCorrection : BitVec 32) (chunks : List (List (BitVec 8))) (x : FileCapture) :
    FileCapture :=
  netanaStopCapture io
    (chunks.foldl (recordChunk io)
      (netanaStartCapture io ulCaptureMode ullReferenceTime lTimezoneCorrection x))

end NetanaDriver
