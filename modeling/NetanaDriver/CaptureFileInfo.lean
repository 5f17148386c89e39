import NetanaDriver.CaptureFileHandles
import NetanaDriver.CaptureFileRun
import NetanaDriver.DeviceSession

/-! The counters of a capture to file: `netana_set_filelist`, which sets them to zero, and
`netana_file_info`, which adds them up (libnetana/netana_functions.c). -/
namespace NetanaDriver

open GreedyPacking RotatingSlots

/-- `NETANA_FILECAPTURE_NOT_ACTIVE`. -/
def netanaFilecaptureNotActive : BitVec 32 := 0x8022000D#32

/-- The loop of `OpenCaptureFiles`; `hFile` is what a file that can be opened contains. -/
def openFiles (hFile : ℕ → Option (List (BitVec 8))) :
    List ℕ → FileCapture → FileCapture × BitVec 32
  | [], x => (x, netanaNoError)
  | ulFile :: files, x =>
    match hFile ulFile with
    | none => (x, netanaFileCreationFailed)
    | some content => openFiles hFile files (x.setFile ulFile ⟨content, 0, 0#64, 0#64⟩)

/-- `netana_set_filelist`. -/
def FileCapture.netanaSetFilelist (g_ulDMABufferSize ulFileCount : BitVec 32)
    (ullFileSize : BitVec 64) (fCaptureRunning : Bool) (hFile : ℕ → Option (List (BitVec 8)))
    (x : FileCapture) : FileCapture × BitVec 32 :=
  if fCaptureRunning then (x, netanaCaptureActive)
  else if ulFileCount.toNat > netanaMaxFiles then (x, netanaInvalidParameter)
  else if ullFileSize.toNat < g_ulDMABufferSize.toNat + fileHeaderSize then
    (x, netanaInvalidParameter)
  else
    let r := openFiles hFile (List.range ulFileCount.toNat)
      { x with
        ulFileCount := ulFileCount.toNat
        ullFileSize := ullFileSize
        ulCurrentFile := 0 }
    if r.2 ≠ netanaNoError then ({ r.1 with ulFileCount := 0 }, r.2) else r

/-- `NETANA_FILE_INFORMATION_T`. -/
structure FileInformation where
  ulActualFileNr : BitVec 32
  ulMaxFileCnt : BitVec 32
  ullTotalBytesWritten : BitVec 64
  ullMaxBytes : BitVec 64
  ulRingBufferMode : BitVec 32
  deriving DecidableEq, Repr

/-- `sizeof(NETANA_FILE_INFORMATION_T)`. -/
def fileInformationSize : ℕ := 28

def FileInformation.fields (t : FileInformation) : List (ℕ × ℕ) :=
  [(4, t.ulActualFileNr.toNat), (4, t.ulMaxFileCnt.toNat), (8, t.ullTotalBytesWritten.toNat),
    (8, t.ullMaxBytes.toNat), (4, t.ulRingBufferMode.toNat)]

def FileInformation.bytes (t : FileInformation) : List (BitVec 8) := LittleEndian.encode t.fields

/-- The record that `netana_file_info` fills in. -/
def tFileInfo (x : FileCapture) : FileInformation where
  ulActualFileNr := BitVec.ofNat 32 x.ulCurrentFile + 1#32
  ulMaxFileCnt := BitVec.ofNat 32 x.ulFileCount
  ullTotalBytesWritten := (List.range x.ulFileCount).foldl
    (fun total ulFile => total + (x.atFiles ulFile).ullDataWritten) 0#64
  ullMaxBytes := x.ullFileSize * BitVec.ofNat 64 x.ulFileCount
  ulRingBufferMode := if x.fRingBuffer then 1#32 else 0#32

/-- `netana_file_info`, with the caller's buffer; `lRetHandle` is what `CheckDeviceHandle`
returns. -/
def netanaFileInfo (lRetHandle : BitVec 32) (fCaptureRunning : Bool) (ulFileInfoSize : BitVec 32)
    (ptFileInfo : List (BitVec 8)) (x : FileCapture) : BitVec 32 × List (BitVec 8) :=
  if lRetHandle ≠ netanaNoError then (lRetHandle, ptFileInfo)
  else if fCaptureRunning = false then (netanaCaptureNotActive, ptFileInfo)
  else if x.ulFileCount = 0 then (netanaFilecaptureNotActive, ptFileInfo)
  else
    let n := min ulFileInfoSize.toNat fileInformationSize
    (netanaNoError, (tFileInfo x).bytes.take n ++ ptFileInfo.drop n)

variable {io : IoOutcome} {ring : Bool} {h : FileHeader} {S n : ℕ} {f₀ : ℕ → CaptureFile}

/-! What the calls do to the counters and to the settings, whether they complete or not. -/

/-- The counters of all files. -/
def FileCapture.dataWritten (x : FileCapture) : ℕ → BitVec 64 :=
  fun i => (x.atFiles i).ullDataWritten

/-- What `netana_set_filelist` and the start of the capture have set. -/
def FileCapture.settings (x : FileCapture) : ℕ × BitVec 64 × Bool :=
  (x.ulFileCount, x.ullFileSize, x.fRingBuffer)

theorem dataWritten_setFile (x : FileCapture) (i : ℕ) (f : CaptureFile) :
    (x.setFile i f).dataWritten = Function.update x.dataWritten i f.ullDataWritten := by
  funext k
  show (Function.update x.atFiles i f k).ullDataWritten = _
  by_cases hk : k = i
  · rw [hk, Function.update_self, Function.update_self]
  · rw [Function.update_of_ne hk, Function.update_of_ne hk]
    rfl

/-- A file whose counter stays as it is. -/
theorem dataWritten_setFile_same (x : FileCapture) (i pos : ℕ) (content : List (BitVec 8))
    (ullOffset : BitVec 64) :
    (x.setFile i ⟨content, pos, ullOffset, (x.atFiles i).ullDataWritten⟩).dataWritten =
      x.dataWritten := by
  rw [dataWritten_setFile]
  exact Function.update_eq_self i x.dataWritten

theorem dataWritten_fwrite (i : ℕ) (data : List (BitVec 8)) (x : FileCapture) :
    (fwrite io i data x).1.dataWritten = x.dataWritten :=
  dataWritten_setFile_same _ _ _ _ _

theorem dataWritten_rewindCurrent (x : FileCapture) :
    (rewindCurrent io x).dataWritten = x.dataWritten := by
  unfold rewindCurrent
  dsimp only
  split
  · have hseek : (fseekStart io x.ulCurrentFile x).dataWritten = x.dataWritten :=
      dataWritten_setFile_same _ _ _ _ _
    exact (dataWritten_setFile_same _ _ _ _ _).trans hseek
  · rfl

theorem settings_rewindCurrent (x : FileCapture) :
    (rewindCurrent io x).settings = x.settings := by
  unfold rewindCurrent
  dsimp only
  split
  · rfl
  · rfl

theorem dataWritten_header (ullSize : BitVec 64) (x : FileCapture) :
    (netanaWritefileheader io ullSize x).1.dataWritten =
      Function.update x.dataWritten x.ulCurrentFile
        (if fileHeaderSizeInvalid = ullSize then 0#64 else ullSize) := by
  have hprepared : (prepareHeader io ullSize x).dataWritten =
      Function.update x.dataWritten x.ulCurrentFile
        (if fileHeaderSizeInvalid = ullSize then 0#64 else ullSize) := by
    have hrewound : (rewindCurrent io x).dataWritten = x.dataWritten := dataWritten_rewindCurrent x
    rw [← hrewound]
    exact dataWritten_setFile _ _ _
  unfold netanaWritefileheader
  dsimp only
  split
  · exact ((dataWritten_setFile_same _ _ _ _ _).trans (dataWritten_fwrite _ _ _)).trans hprepared
  · exact (dataWritten_fwrite _ _ _).trans hprepared

theorem settings_header (ullSize : BitVec 64) (x : FileCapture) :
    (netanaWritefileheader io ullSize x).1.settings = x.settings := by
  have hprepared : (prepareHeader io ullSize x).settings = x.settings :=
    settings_rewindCurrent x
  unfold netanaWritefileheader
  dsimp only
  split
  · exact hprepared
  · exact hprepared

theorem dataWritten_writeData (data : List (BitVec 8)) (x : FileCapture) :
    (writeData io data x).dataWritten = Function.update x.dataWritten x.ulCurrentFile
      (x.dataWritten x.ulCurrentFile + BitVec.ofNat 64 data.length) := by
  have hwrite : (fwrite io x.ulCurrentFile data x).1.dataWritten = x.dataWritten :=
    dataWritten_fwrite _ _ _
  have hcounter : ((fwrite io x.ulCurrentFile data x).1.atFiles x.ulCurrentFile).ullDataWritten =
      x.dataWritten x.ulCurrentFile := congrFun hwrite x.ulCurrentFile
  unfold writeData
  dsimp only
  rw [dataWritten_setFile, hwrite, hcounter]

/-- The counter of a file that has just been started begins with the first chunk. -/
theorem dataWritten_openNextFile (data : List (BitVec 8)) (x : FileCapture) :
    (openNextFile io data x).dataWritten = Function.update x.dataWritten x.ulCurrentFile
      (BitVec.ofNat 64 data.length) := by
  obtain ⟨hcurrent, -⟩ := header_settings io fileHeaderSizeInvalid x
  unfold openNextFile
  rw [dataWritten_writeData, hcurrent, dataWritten_header, if_pos rfl, Function.update_self,
    Function.update_idem, BitVec.zero_add]

theorem settings_writeData (data : List (BitVec 8)) (x : FileCapture) :
    (writeData io data x).settings = x.settings := rfl

theorem settings_openNextFile (data : List (BitVec 8)) (x : FileCapture) :
    (openNextFile io data x).settings = x.settings :=
  (settings_writeData _ _).trans (settings_header _ _)

theorem openNextFile_current (io : IoOutcome) (data : List (BitVec 8)) (x : FileCapture) :
    (openNextFile io data x).ulCurrentFile = x.ulCurrentFile ∧
      (openNextFile io data x).fWriteToFile = x.fWriteToFile := by
  obtain ⟨hcurrent, -, -, hwrite⟩ := header_settings io fileHeaderSizeInvalid x
  have hdata (y : FileCapture) : (writeData io data y).ulCurrentFile = y.ulCurrentFile ∧
      (writeData io data y).fWriteToFile = y.fWriteToFile := ⟨rfl, rfl⟩
  unfold openNextFile
  rw [(hdata _).1, (hdata _).2]
  exact ⟨hcurrent, hwrite⟩

theorem settings_record (x : FileCapture) (c : List (BitVec 8)) :
    (recordChunk io x c).settings = x.settings := by
  have hclose : (closeHeader io x).settings = x.settings := settings_header _ _
  unfold recordChunk netanaWriteToFile
  dsimp only
  split
  · split
    · split
      · split
        · exact (settings_openNextFile _ _).trans hclose
        · exact hclose
      · exact (settings_openNextFile _ _).trans hclose
    · rfl
  · rfl

theorem settings_run (x : FileCapture) (chunks : List (List (BitVec 8))) :
    (chunks.foldl (recordChunk io) x).settings = x.settings := by
  induction chunks generalizing x with
  | nil => rfl
  | cons c chunks ih => exact (ih _).trans (settings_record x c)

/-- The counter of each file is the length of what its last start was given; a file that has not
been started counts nothing. -/
def Counted (n : ℕ) (starts : List (List (List (BitVec 8)))) (x : FileCapture) : Prop :=
  Tally starts.length n (fun j => BitVec.ofNat 64 (size (starts.getD j []))) x.dataWritten

/-- The last start, or a new one, is counted in the current file. -/
theorem Counted.store {starts closed : List (List (List (BitVec 8)))} {g : List (List (BitVec 8))}
    {x y : FileCapture} (hx : Counted n starts x) (hn : 0 < n)
    (hstarts : starts = closed ∨ ∃ g₀, starts = closed ++ [g₀])
    (hcur : x.ulCurrentFile = closed.length % n)
    (hy : y.dataWritten =
      Function.update x.dataWritten x.ulCurrentFile (BitVec.ofNat 64 (size g))) :
    Counted n (closed ++ [g]) y := by
  have hlen : starts.length = closed.length ∨ starts.length = closed.length + 1 := by
    rcases hstarts with rfl | ⟨g₀, rfl⟩
    · exact Or.inl rfl
    · exact Or.inr (by rw [List.length_append, List.length_singleton])
  have hsame : ∀ j < closed.length, (closed ++ [g]).getD j [] = starts.getD j [] := by
    intro j hj
    rw [List.getD_append _ _ _ _ hj]
    rcases hstarts with rfl | ⟨g₀, rfl⟩
    · rfl
    · rw [List.getD_append _ _ _ _ hj]
  have hlast : (closed ++ [g]).getD closed.length [] = g := by
    rw [List.getD_append_right _ _ _ _ le_rfl, Nat.sub_self]
    rfl
  have hnext := hx.update hn hlen
    (fun j => BitVec.ofNat 64 (size ((closed ++ [g]).getD j [])))
    fun j hj => by rw [hsame j hj]
  rw [hlast, ← hcur, ← hy] at hnext
  unfold Counted
  rw [List.length_append, List.length_singleton]
  exact hnext

/-- Only the files matter. -/
theorem Counted.congr {starts : List (List (List (BitVec 8)))} {x y : FileCapture}
    (hx : Counted n starts x) (hy : y.atFiles = x.atFiles) : Counted n starts y := by
  have hcounters : y.dataWritten = x.dataWritten := by
    unfold FileCapture.dataWritten
    rw [hy]
  unfold Counted
  rw [hcounters]
  exact hx

theorem Counted.current {p : Packing (BitVec 8)} {x : FileCapture} (hx : Counted n p.groups x)
    (hn : 0 < n) (hcur : x.ulCurrentFile = p.closed.length % n) :
    x.dataWritten x.ulCurrentFile = BitVec.ofNat 64 (size p.current) := by
  have hlast : p.groups.getD p.closed.length [] = p.current := by
    rw [Packing.groups, List.getD_append_right _ _ _ _ le_rfl, Nat.sub_self]
    rfl
  have hheld := hx.held p.closed.length (mem_held.mpr (by rw [length_groups]; omega))
  rw [hcur, hheld, hlast]

/-- The mark of an open file is no length of a payload. -/
theorem size_ne_invalid {k : ℕ} (hk : fileHeaderSize + k ≤ offMax) :
    fileHeaderSizeInvalid ≠ BitVec.ofNat 64 k := by
  intro heq
  have hnat := congrArg BitVec.toNat heq
  rw [toNat_offset (by omega)] at hnat
  unfold offMax at hk
  have hinvalid : fileHeaderSizeInvalid.toNat = 2 ^ 64 - 1 := rfl
  omega

theorem Writing.counted_data {p : Packing (BitVec 8)} {x : FileCapture} (c : List (BitVec 8))
    (hx : Writing ring h S n f₀ p x) (hn : 0 < n) (hcount : Counted n p.groups x) :
    Counted n (p.closed ++ [p.current ++ [c]]) (writeData io c x) := by
  apply hcount.store hn (Or.inr ⟨p.current, rfl⟩) hx.current
  rw [dataWritten_writeData, hcount.current hn hx.current, size_append_singleton,
    BitVec.ofNat_add]

/-- The header that closes a file leaves its counter as it is. -/
theorem Writing.counted_close {p : Packing (BitVec 8)} {x : FileCapture}
    (hx : Writing ring h S n f₀ p x) (hn : 0 < n) (hcount : Counted n p.groups x) :
    Counted n p.groups (closeHeader io x) := by
  apply hcount.store hn (Or.inr ⟨p.current, rfl⟩) hx.current
  unfold closeHeader
  rw [dataWritten_header, hx.closing_size, if_neg (size_ne_invalid hx.pos_le)]

theorem Counted.openNext {starts : List (List (List (BitVec 8)))} {x : FileCapture}
    (hx : Counted n starts x) (hn : 0 < n) (hcur : x.ulCurrentFile = starts.length % n)
    (c : List (BitVec 8)) : Counted n (starts ++ [[c]]) (openNextFile io c x) := by
  apply hx.store hn (Or.inl rfl) hcur
  rw [dataWritten_openNextFile, size_singleton]

/-- What the last write leaves counted: the chunk, where the capture goes on, and otherwise what
was there before. -/
theorem Writing.record_counted {p : Packing (BitVec 8)} {x : FileCapture} {c : List (BitVec 8)}
    (hx : Writing ring h S n f₀ p x) (hn : 0 < n) (hcount : Counted n p.groups x)
    (hc : c.length < 2 ^ 32) (hio : (recordChunk io x c).ioFailed = false) :
    Counted n (if (recordChunk io x c).fWriteToFile then (p.place (S - fileHeaderSize) c).groups
        else p.groups) (recordChunk io x c) ∧
      (recordChunk io x c).ulCurrentFile < n := by
  by_cases hroom : size p.current + c.length ≤ S - fileHeaderSize
  · have hfull := mt (hx.full_iff hc).mp (not_not.mpr hroom)
    have hcase : recordChunk io x c = writeData io c x := by
      rw [recordChunk, if_pos hx.on, netanaWriteToFile, if_neg hfull]
    have hplace : p.place (S - fileHeaderSize) c = ⟨p.closed, p.current ++ [c]⟩ := if_pos hroom
    have hon : (writeData io c x).fWriteToFile = true := hx.on
    rw [hcase, if_pos hon, hplace]
    exact ⟨hx.counted_data c hn hcount, hx.current_lt hn⟩
  · have hfull := (hx.full_iff hc).mpr hroom
    have hplace : p.place (S - fileHeaderSize) c = ⟨p.groups, [c]⟩ := if_neg hroom
    obtain ⟨-, f, k, hk⟩ := hx.close hn (closed_of_record hx.on hfull hio)
    have hclosed : Counted n p.groups (closeHeader io x) := hx.counted_close hn hcount
    have hcur : (closeHeader io x).ulCurrentFile = x.ulCurrentFile := by
      rw [hk]
      rfl
    have hon : (closeHeader io x).fWriteToFile = true := by
      rw [hk]
      exact hx.on
    have hsucc : p.groups.length % n = if x.ulCurrentFile + 1 ≥ n then 0
        else x.ulCurrentFile + 1 := by
      rw [length_groups, hx.current]
      exact succ_mod_eq hn
    -- the new current file gets the chunk
    have hnext {y : FileCapture} (hy : y.atFiles = (closeHeader io x).atFiles)
        (hyon : y.fWriteToFile = true) (hycur : y.ulCurrentFile = p.groups.length % n) :
        Counted n (if (openNextFile io c y).fWriteToFile then
            (p.place (S - fileHeaderSize) c).groups else p.groups) (openNextFile io c y) ∧
          (openNextFile io c y).ulCurrentFile < n := by
      obtain ⟨hcurrent, hwrite⟩ := openNextFile_current io c y
      rw [if_pos (hwrite.trans hyon), hplace, hcurrent, hycur]
      exact ⟨(hclosed.congr hy).openNext hn hycur c, Nat.mod_lt _ hn⟩
    rw [hx.record_full hfull hk]
    by_cases hlast : x.ulCurrentFile + 1 ≥ n
    · rw [if_pos hlast] at hsucc ⊢
      by_cases hmode : x.fRingBuffer = true
      · rw [if_pos hmode]
        exact hnext rfl hon hsucc.symm
      · rw [if_neg hmode]
        have hlt := hx.current_lt hn
        rw [if_neg Bool.false_ne_true]
        refine ⟨hclosed.congr rfl, ?_⟩
        show x.ulCurrentFile + 1 - 1 < n
        omega
    · rw [if_neg hlast] at hsucc ⊢
      have hnextcur : (advanceFile (closeHeader io x)).ulCurrentFile = p.groups.length % n := by
        rw [hsucc, ← hcur]
        rfl
      exact hnext rfl hon hnextcur

/-- The chunk is stored: the capture writes to its files, and the call returns no error. -/
def FileCapture.stores (io : IoOutcome) (x : FileCapture) (c : List (BitVec 8)) : Bool :=
  x.fWriteToFile && decide ((netanaWriteToFile io c x).2 = netanaNoError)

theorem record_on (x : FileCapture) (c : List (BitVec 8)) :
    (recordChunk io x c).fWriteToFile = x.stores io c := by
  have hopen (y : FileCapture) : (openNextFile io c y).fWriteToFile = y.fWriteToFile :=
    (openNextFile_current io c y).2
  have hclose : (closeHeader io x).fWriteToFile = x.fWriteToFile :=
    (header_settings io _ x).2.2.2
  unfold FileCapture.stores recordChunk
  by_cases hon : x.fWriteToFile = true
  · rw [if_pos hon, hon, Bool.true_and]
    unfold netanaWriteToFile
    dsimp only
    split
    · split
      · split
        · exact (hopen _).trans (hclose.trans hon)
        · rfl
      · exact (hopen _).trans (hclose.trans hon)
    · exact hon
  · rw [if_neg hon, Bool.eq_false_iff.mpr hon, Bool.false_and]

/-- What the files are filled with after one more chunk. -/
theorem Writing.startedFiles_record {x : FileCapture} {chunks : List (List (BitVec 8))}
    {c : List (BitVec 8)} (hx : Writing ring h S n f₀ (pack (S - fileHeaderSize) chunks) x)
    (hn : 0 < n) (hc : c.length < 2 ^ 32) (hfit : fileHeaderSize + c.length ≤ S)
    (hio : (recordChunk io x c).ioFailed = false) :
    startedFiles ring n S (chunks ++ [c]) =
      if (recordChunk io x c).fWriteToFile then (pack (S - fileHeaderSize) (chunks ++ [c])).groups
      else (pack (S - fileHeaderSize) chunks).groups := by
  have hpack : pack (S - fileHeaderSize) (chunks ++ [c]) =
      (pack (S - fileHeaderSize) chunks).place (S - fileHeaderSize) c := pack_append _ _ _
  have hrecord := hx.record hn hc hfit hio
  rw [← hpack] at hrecord
  rcases hrecord with hwriting | hfull
  · rw [if_pos hwriting.on]
    exact hwriting.startedFiles_eq
  · rw [if_neg (by rw [hfull.off]; decide), hfull.startedFiles_eq]
    have hlen := hfull.full
    have hfree := hx.room hfull.noRing
    -- the chunk would have had its place if it fitted the last file
    by_cases hroom : size (pack (S - fileHeaderSize) chunks).current + c.length ≤
        S - fileHeaderSize
    · rw [hpack, Packing.place, if_pos hroom] at hlen
      exact absurd hlen hfree.not_ge
    · rw [hpack, Packing.place, if_neg hroom]
      have hgroups := length_groups (pack (S - fileHeaderSize) chunks)
      exact List.take_of_length_le (hgroups.trans_le hfree)

theorem Full.startedFiles_record {x : FileCapture} {chunks : List (List (BitVec 8))}
    (c : List (BitVec 8)) (hx : Full ring h S n f₀ (pack (S - fileHeaderSize) chunks) x) :
    startedFiles ring n S (chunks ++ [c]) = startedFiles ring n S chunks := by
  have hpack : pack (S - fileHeaderSize) (chunks ++ [c]) =
      (pack (S - fileHeaderSize) chunks).place (S - fileHeaderSize) c := pack_append _ _ _
  have hlen : n ≤ ((pack (S - fileHeaderSize) chunks).place (S - fileHeaderSize) c).closed.length :=
    hx.full.trans (closed_prefix_foldl (S - fileHeaderSize) [c] _).length_le
  rw [hx.startedFiles_eq, ← hx.take_place c]
  unfold startedFiles
  rw [hx.noRing, hpack]
  exact List.take_append_of_le_length hlen

/-- Every chunk is counted where it is stored. -/
theorem run_counted {x : FileCapture} {chunks : List (List (BitVec 8))}
    (hx : Writing ring h S n f₀ .start x) (hn : 0 < n) (hcount : Counted n [[]] x)
    (hchunks : ∀ c ∈ chunks, c.length < 2 ^ 32 ∧ fileHeaderSize + c.length ≤ S)
    (hio : (chunks.foldl (recordChunk io) x).ioFailed = false) :
    Counted n (startedFiles ring n S chunks) (chunks.foldl (recordChunk io) x) ∧
      (chunks.foldl (recordChunk io) x).ulCurrentFile < n := by
  induction chunks using List.reverseRecOn with
  | nil =>
    have hstart : startedFiles ring n S [] = [[]] := by
      have heq : Writing ring h S n f₀ (pack (S - fileHeaderSize) []) x := hx
      exact heq.startedFiles_eq
    rw [hstart]
    exact ⟨hcount, hx.current_lt hn⟩
  | append_singleton chunks c ih =>
    have hinit : ∀ d ∈ chunks, d.length < 2 ^ 32 ∧ fileHeaderSize + d.length ≤ S :=
      fun d hd => hchunks d (List.mem_append_left _ hd)
    obtain ⟨hc, hfit⟩ := hchunks c (by simp)
    rw [List.foldl_append] at hio ⊢
    have hlast : (recordChunk io (chunks.foldl (recordChunk io) x) c).ioFailed = false := hio
    have hbefore := ioFailed_of_record hlast
    obtain ⟨hcounted, hcur⟩ := ih hinit hbefore
    show Counted n _ (recordChunk io (chunks.foldl (recordChunk io) x) c) ∧
      (recordChunk io (chunks.foldl (recordChunk io) x) c).ulCurrentFile < n
    rcases hx.run hn hinit hbefore with hwriting | hfull
    · rw [hwriting.startedFiles_eq] at hcounted
      rw [hwriting.startedFiles_record hn hc hfit hlast, pack_append]
      exact hwriting.record_counted hn hcounted hc hlast
    · have hcase : recordChunk io (chunks.foldl (recordChunk io) x) c =
          chunks.foldl (recordChunk io) x := if_neg (by rw [hfull.off]; decide)
      rw [hfull.startedFiles_record c, hcase]
      exact ⟨hcounted, hcur⟩

/-- How many bytes the files hold that were given to their last starts. -/
def heldBytes (n : ℕ) (starts : List (List (List (BitVec 8)))) : ℕ :=
  ((held starts.length n).map fun j => size (starts.getD j [])).sum

/-- The total is the payload that the files hold, in 64 bits. -/
theorem Counted.total {starts : List (List (List (BitVec 8)))} {x : FileCapture}
    (hx : Counted n starts x) (hn : 0 < n) (hcount : x.ulFileCount = n) :
    (tFileInfo x).ullTotalBytesWritten = BitVec.ofNat 64 (heldBytes n starts) := by
  have hsum : (tFileInfo x).ullTotalBytesWritten = ((List.range n).map x.dataWritten).sum := by
    rw [List.sum_eq_foldl, List.foldl_map, ← hcount]
    rfl
  have hcast (l : List ℕ) : (l.map (BitVec.ofNat 64)).sum = BitVec.ofNat 64 l.sum := by
    induction l with
    | nil => rfl
    | cons a l ih => rw [List.map_cons, List.sum_cons, ih, List.sum_cons, BitVec.ofNat_add]
  rw [hsum, hx.sum hn, heldBytes, ← hcast, List.map_map]
  rfl

/-- Without ring buffer all starts are still there. -/
theorem heldBytes_of_le {starts : List (List (List (BitVec 8)))} (h : starts.length ≤ n) :
    heldBytes n starts = starts.flatten.flatten.length := by
  have hall : (held starts.length n).map (fun j => starts.getD j []) = starts := by
    rw [map_getD_held, Nat.min_eq_left h, Nat.sub_self, List.drop_zero]
  calc heldBytes n starts
      = (((held starts.length n).map fun j => starts.getD j []).map size).sum := by
        rw [List.map_map]
        rfl
    _ = starts.flatten.flatten.length := by
        rw [hall, sum_size]

/-! A capture to a list of new files. -/

/-- The file has just been opened. -/
def CaptureFile.Fresh (f : CaptureFile) : Prop :=
  f.pos = 0 ∧ f.ullOffset = 0#64 ∧ f.ullDataWritten = 0#64

theorem openFiles_fresh {hFile : ℕ → Option (List (BitVec 8))} {files : List ℕ} {x : FileCapture}
    {i : ℕ} (hret : (openFiles hFile files x).2 = netanaNoError)
    (hi : i ∈ files ∨ (x.atFiles i).Fresh) : ((openFiles hFile files x).1.atFiles i).Fresh := by
  induction files generalizing x with
  | nil => exact hi.resolve_left (List.not_mem_nil)
  | cons ulFile files ih =>
    cases hfile : hFile ulFile with
    | none =>
      simp only [openFiles, hfile] at hret
      exact absurd hret (by decide)
    | some content =>
      simp only [openFiles, hfile] at hret ⊢
      apply ih hret
      by_cases heq : i = ulFile
      · right
        have hself : (x.setFile ulFile ⟨content, 0, 0#64, 0#64⟩).atFiles ulFile = _ :=
          Function.update_self _ _ _
        rw [heq, hself]
        exact ⟨rfl, rfl, rfl⟩
      · rcases hi with hi | hi
        · exact Or.inl ((List.mem_cons.mp hi).resolve_left heq)
        · right
          have hother : (x.setFile ulFile ⟨content, 0, 0#64, 0#64⟩).atFiles i = x.atFiles i :=
            Function.update_of_ne heq _ _
          rw [hother]
          exact hi

theorem openFiles_settings (hFile : ℕ → Option (List (BitVec 8))) (files : List ℕ)
    (x : FileCapture) : (openFiles hFile files x).1.settings = x.settings := by
  induction files generalizing x with
  | nil => rfl
  | cons ulFile files ih =>
    unfold openFiles
    split
    · rfl
    · exact ih _

/-- A capture from `netana_set_filelist` on: the arguments of the calls, what the files contain
that can be opened, and the device instance before. -/
structure FilelistCapture where
  io : IoOutcome
  g_ulDMABufferSize : BitVec 32
  ulFileCount : BitVec 32
  ullFileSize : BitVec 64
  fCaptureRunning : Bool
  hFile : ℕ → Option (List (BitVec 8))
  ulCaptureMode : BitVec 32
  ullReferenceTime : BitVec 64
  g_lTimezoneCorrection : BitVec 32
  before : FileCapture

namespace FilelistCapture

variable (c : FilelistCapture) (chunks : List (List (BitVec 8)))

def setFilelist : FileCapture × BitVec 32 :=
  c.before.netanaSetFilelist c.g_ulDMABufferSize c.ulFileCount c.ullFileSize c.fCaptureRunning
    c.hFile

def started : FileCapture :=
  netanaStartCapture c.io c.ulCaptureMode c.ullReferenceTime c.g_lTimezoneCorrection
    c.setFilelist.1

/-- The state after these chunks. -/
def after : FileCapture := chunks.foldl (recordChunk c.io) c.started

def currentFile : CaptureFile := (c.after chunks).atFiles (c.after chunks).ulCurrentFile

def fRingBuffer : Bool := ToggleHandshake.maskTest c.ulCaptureMode captureModeRingbuffer

/-- What the files have been filled with, one list of chunks for each start of a file. -/
def starts : List (List (List (BitVec 8))) :=
  startedFiles c.fRingBuffer c.ulFileCount.toNat c.ullFileSize.toNat chunks

/-- The starts that have not been overwritten. -/
def heldStarts : List ℕ := held (c.starts chunks).length c.ulFileCount.toNat

/-- What a start of a file was given. -/
def payload (j : ℕ) : List (BitVec 8) := ((c.starts chunks).getD j []).flatten

/-- How many bytes of payload the files hold. -/
def heldPayload : ℕ := ((c.heldStarts chunks).map fun j => (c.payload chunks j).length).sum

variable {c chunks}

theorem setFilelist_ok (hset : c.setFilelist.2 = netanaNoError) :
    c.setFilelist.1.ulFileCount = c.ulFileCount.toNat ∧
      c.setFilelist.1.ullFileSize = c.ullFileSize ∧ c.ulFileCount.toNat ≤ netanaMaxFiles ∧
      c.g_ulDMABufferSize.toNat + fileHeaderSize ≤ c.ullFileSize.toNat ∧
      ∀ i < c.ulFileCount.toNat, (c.setFilelist.1.atFiles i).Fresh := by
  unfold setFilelist FileCapture.netanaSetFilelist at hset ⊢
  dsimp only at hset ⊢
  have hactive : netanaCaptureActive ≠ netanaNoError := by decide
  have hparameter : netanaInvalidParameter ≠ netanaNoError := by decide
  split at hset
  · exact absurd hset hactive
  · split at hset
    · exact absurd hset hparameter
    · split at hset
      · exact absurd hset hparameter
      · split at hset
        · rename_i hfailed
          exact absurd hset hfailed
        · rename_i hrunning hcount hsize hopened
          rw [if_neg hrunning, if_neg hcount, if_neg hsize, if_neg hopened]
          have hsettings := openFiles_settings c.hFile (List.range c.ulFileCount.toNat)
            { c.before with
              ulFileCount := c.ulFileCount.toNat
              ullFileSize := c.ullFileSize
              ulCurrentFile := 0 }
          refine ⟨congrArg Prod.fst hsettings, congrArg (fun t => t.2.1) hsettings,
            Nat.le_of_not_gt hcount, Nat.le_of_not_lt hsize, ?_⟩
          intro i hi
          exact openFiles_fresh hset (Or.inl (List.mem_range.mpr hi))

/-- The file list could be set and has files, the chunks are no longer than a DMA buffer, and the
calls on the files complete. -/
structure Completes (c : FilelistCapture) (chunks : List (List (BitVec 8))) : Prop where
  setFilelist : c.setFilelist.2 = netanaNoError
  fileCount : 0 < c.ulFileCount.toNat
  length_le : ∀ d ∈ chunks, d.length ≤ c.g_ulDMABufferSize.toNat
  ioFailed : (c.after chunks).ioFailed = false

/-- How the chunks are packed into files. -/
abbrev packing (c : FilelistCapture) (chunks : List (List (BitVec 8))) : Packing (BitVec 8) :=
  pack (c.ullFileSize.toNat - fileHeaderSize) chunks

abbrev InWriting (c : FilelistCapture) (chunks : List (List (BitVec 8))) : Prop :=
  Writing c.fRingBuffer (captureHeader c.ullReferenceTime c.g_lTimezoneCorrection)
    c.ullFileSize.toNat c.ulFileCount.toNat c.setFilelist.1.atFiles (c.packing chunks)
    (c.after chunks)

abbrev InFull (c : FilelistCapture) (chunks : List (List (BitVec 8))) : Prop :=
  Full c.fRingBuffer (captureHeader c.ullReferenceTime c.g_lTimezoneCorrection)
    c.ullFileSize.toNat c.ulFileCount.toNat c.setFilelist.1.atFiles (c.packing chunks)
    (c.after chunks)

/-- The captured chunks go into the packing, and every one is counted. -/
theorem Completes.invariant (hc : c.Completes chunks) :
    (c.InWriting chunks ∨ c.InFull chunks) ∧
      Counted c.ulFileCount.toNat (c.starts chunks) (c.after chunks) ∧
      (c.after chunks).ulCurrentFile < c.ulFileCount.toNat := by
  obtain ⟨hcount, hsize, -, hroom, hfresh⟩ := setFilelist_ok hc.setFilelist
  have hn := hc.fileCount
  have hfiles : 0 < c.setFilelist.1.ulFileCount := by
    rw [hcount]
    exact hn
  have hstartOk : c.started.ioFailed = false := ioFailed_of_run hc.ioFailed
  have hstart := start_writing hfiles (by rw [hsize]; omega)
    (fun i hi _ => (hfresh i (hcount ▸ hi)).1) hstartOk
  rw [hcount, hsize] at hstart
  have hchunks : ∀ d ∈ chunks, d.length < 2 ^ 32 ∧
      fileHeaderSize + d.length ≤ c.ullFileSize.toNat := by
    intro d hd
    have hle := hc.length_le d hd
    have hlt := c.g_ulDMABufferSize.isLt
    omega
  -- the first file has been started, and counts nothing yet
  have hnone : Counted c.ulFileCount.toNat [] c.setFilelist.1 := by
    constructor
    · intro j hj
      rw [mem_held] at hj
      exact absurd hj.1 (Nat.not_lt_zero j)
    · intro i _ hi
      exact (hfresh i hi).2.2
  have hcounted : Counted c.ulFileCount.toNat [[]] c.started := by
    let y : FileCapture := firstFile c.ullReferenceTime c.g_lTimezoneCorrection
      { c.setFilelist.1 with fRingBuffer := c.fRingBuffer }
    have hcase : c.started = (netanaWritefileheader c.io fileHeaderSizeInvalid y).1 :=
      if_pos hfiles
    have hy : Counted c.ulFileCount.toNat [] y := hnone
    rw [hcase]
    apply hy.store hn (Or.inl rfl) (Nat.zero_mod _).symm
    rw [dataWritten_header, if_pos rfl]
    rfl
  exact ⟨hstart.run hn hchunks hc.ioFailed, run_counted hstart hn hcounted hchunks hc.ioFailed⟩

/-- The settings of the files stay as they were set. -/
theorem Completes.settings (hc : c.Completes chunks) :
    (c.after chunks).ulFileCount = c.ulFileCount.toNat := by
  obtain ⟨hcount, -⟩ := setFilelist_ok hc.setFilelist
  have hfiles : 0 < c.setFilelist.1.ulFileCount := by
    rw [hcount]
    exact hc.fileCount
  have hcase : c.started = (netanaWritefileheader c.io fileHeaderSizeInvalid _).1 := if_pos hfiles
  have hrun : (c.after chunks).settings = c.started.settings := settings_run _ _
  rw [hcase] at hrun
  exact (congrArg Prod.fst (hrun.trans (settings_header _ _))).trans hcount

theorem Completes.size_le (hc : c.Completes chunks) (j : ℕ) :
    fileHeaderSize + (c.payload chunks j).length ≤ c.ullFileSize.toNat := by
  obtain ⟨-, -, -, hroom, -⟩ := setFilelist_ok hc.setFilelist
  have hchunks : ∀ d ∈ chunks, d.length ≤ c.ullFileSize.toNat - fileHeaderSize := by
    intro d hd
    have hle := hc.length_le d hd
    omega
  rcases Nat.lt_or_ge j (c.starts chunks).length with hj | hj
  · have hmem : (c.starts chunks).getD j [] ∈ c.starts chunks := by
      rw [List.getD_eq_getElem _ _ hj]
      exact List.getElem_mem _
    have hle : (c.payload chunks j).length ≤ _ := size_le_of_started hchunks _ hmem
    omega
  · have hnil : (c.payload chunks j).length = 0 := by
      rw [payload, List.getD_eq_default _ _ hj]
      rfl
    omega

/-- The counter of a file that holds what it was given. -/
theorem Completes.counter (hc : c.Completes chunks) {j : ℕ} (hj : j ∈ c.heldStarts chunks) :
    (c.after chunks).dataWritten (j % c.ulFileCount.toNat) =
      BitVec.ofNat 64 (c.payload chunks j).length :=
  hc.invariant.2.1.held j hj

theorem Completes.total (hc : c.Completes chunks) :
    (tFileInfo (c.after chunks)).ullTotalBytesWritten = BitVec.ofNat 64 (c.heldPayload chunks) :=
  hc.invariant.2.1.total hc.fileCount hc.settings

/-- A file that has been closed says in its header how much it holds. -/
theorem Completes.finished_file {m j : ℕ} {closed : List (List (List (BitVec 8)))}
    {x : FileCapture} (hc : c.Completes chunks)
    (hx : Layout (captureHeader c.ullReferenceTime c.g_lTimezoneCorrection) c.ullFileSize.toNat
      c.ulFileCount.toNat c.setFilelist.1.atFiles m closed x)
    (hcounter : x.dataWritten (j % c.ulFileCount.toNat) =
      BitVec.ofNat 64 (c.payload chunks j).length)
    (hj : closed[j]? = some ((c.starts chunks).getD j [])) (hheld : m ≤ j + c.ulFileCount.toNat) :
    ∃ header, readCaptureFile (x.atFiles (j % c.ulFileCount.toNat)).content =
        some (header, c.payload chunks j) ∧
      (x.atFiles (j % c.ulFileCount.toNat)).ullDataWritten = header.ullDataSize := by
  have hle := hc.size_le j
  have hlt := c.ullFileSize.isLt
  refine ⟨_, (hx.finished j _ hj hheld).read ?_, hcounter⟩
  show (BitVec.ofNat 64 (c.payload chunks j).length).toNat = _
  rw [BitVec.toNat_ofNat, Nat.mod_eq_of_lt (by omega)]
  rfl

/-- What the counters say between the calls of a capture. -/
structure Accounted (c : FilelistCapture) (chunks : List (List (BitVec 8))) : Prop where
  /-- The file that is written to, while there is one. -/
  current : (c.after chunks).fWriteToFile = true →
    (c.currentFile chunks).ullOffset.toNat =
        fileHeaderSize + (c.currentFile chunks).ullDataWritten.toNat ∧
      (c.currentFile chunks).ullOffset ≤ c.ullFileSize
  /-- The size that this file would be closed with is the length of its payload. -/
  closing : (c.after chunks).fWriteToFile = true →
    fileHeaderSize ≤ (c.currentFile chunks).ullOffset.toNat ∧
      ((c.currentFile chunks).ullOffset - BitVec.ofNat 64 fileHeaderSize).toNat =
        (c.payload chunks ((c.starts chunks).length - 1)).length ∧
      (c.currentFile chunks).Holds (c.after chunks).tFileHeader
        (c.payload chunks ((c.starts chunks).length - 1))
  /-- The files that have been closed. -/
  finished : ∀ j ∈ c.heldStarts chunks,
    ((c.after chunks).fWriteToFile = true → j + 1 < (c.starts chunks).length) →
    ∃ header, readCaptureFile ((c.after chunks).atFiles (j % c.ulFileCount.toNat)).content =
        some (header, c.payload chunks j) ∧
      ((c.after chunks).atFiles (j % c.ulFileCount.toNat)).ullDataWritten = header.ullDataSize
  counted : ∀ j ∈ c.heldStarts chunks,
    ((c.after chunks).atFiles (j % c.ulFileCount.toNat)).ullDataWritten.toNat =
      (c.payload chunks j).length
  unused : ∀ i, (c.starts chunks).length ≤ i → i < c.ulFileCount.toNat →
    ((c.after chunks).atFiles i).ullDataWritten = 0#64
  currentFile_lt : (c.after chunks).ulCurrentFile < c.ulFileCount.toNat
  fileNr : 1 ≤ (tFileInfo (c.after chunks)).ulActualFileNr.toNat ∧
    (tFileInfo (c.after chunks)).ulActualFileNr.toNat ≤ c.ulFileCount.toNat
  /-- The total is what the files hold, in 64 bits. -/
  total : (tFileInfo (c.after chunks)).ullTotalBytesWritten.toNat = c.heldPayload chunks % 2 ^ 64

/-- The last start is the one of the file that is written to. -/
theorem last_payload (hwriting : c.InWriting chunks) :
    c.payload chunks ((c.starts chunks).length - 1) = (c.packing chunks).current.flatten := by
  have hstarts : c.starts chunks = _ := hwriting.startedFiles_eq
  have hlen : (c.starts chunks).length - 1 = (c.packing chunks).closed.length := by
    rw [hstarts, length_groups, Nat.add_sub_cancel]
  rw [payload, hlen, hstarts, Packing.groups, List.getD_append_right _ _ _ _ le_rfl, Nat.sub_self]
  rfl

/-- The counters of the file that is written to. -/
theorem Completes.current_file (hc : c.Completes chunks) (hwriting : c.InWriting chunks) :
    (c.currentFile chunks).ullOffset.toNat = fileHeaderSize + size (c.packing chunks).current ∧
      (c.currentFile chunks).ullDataWritten.toNat = size (c.packing chunks).current ∧
      ((c.currentFile chunks).ullOffset - BitVec.ofNat 64 fileHeaderSize).toNat =
        size (c.packing chunks).current := by
  obtain ⟨-, hcounted, -⟩ := hc.invariant
  have hstarts : c.starts chunks = _ := hwriting.startedFiles_eq
  have hpos := hwriting.pos_le
  rw [hstarts] at hcounted
  have hcounter : (c.currentFile chunks).ullDataWritten =
      BitVec.ofNat 64 (size (c.packing chunks).current) :=
    hcounted.current hc.fileCount hwriting.current
  refine ⟨?_, ?_, ?_⟩
  · rw [currentFile, hwriting.offset, toNat_offset hpos]
  · rw [hcounter, toNat_offset (by omega)]
  · rw [currentFile, hwriting.closing_size, toNat_offset (by omega)]

theorem Completes.finished (hc : c.Completes chunks) {j : ℕ} (hj : j ∈ c.heldStarts chunks)
    (hclosed : (c.after chunks).fWriteToFile = true → j + 1 < (c.starts chunks).length) :
    ∃ header, readCaptureFile ((c.after chunks).atFiles (j % c.ulFileCount.toNat)).content =
        some (header, c.payload chunks j) ∧
      ((c.after chunks).atFiles (j % c.ulFileCount.toNat)).ullDataWritten =
        header.ullDataSize := by
  obtain ⟨hfiles, -, -⟩ := hc.invariant
  obtain ⟨hlt, hheld⟩ := mem_held.mp hj
  rcases hfiles with hwriting | hfull
  · have hstarts : c.starts chunks = _ := hwriting.startedFiles_eq
    have hbefore := hclosed hwriting.on
    rw [hstarts, length_groups] at hbefore hheld
    apply hc.finished_file hwriting.toLayout (hc.counter hj) ?_ hheld
    rw [hstarts, Packing.groups, List.getD_append _ _ _ _ (by omega),
      List.getD_eq_getElem _ _ (by omega), List.getElem?_eq_getElem]
  · have hstarts : c.starts chunks = _ := hfull.startedFiles_eq
    apply hc.finished_file hfull.toLayout (hc.counter hj) ?_ (Nat.le_add_left _ _)
    rw [← hstarts, List.getD_eq_getElem _ _ hlt, List.getElem?_eq_getElem]

theorem Completes.fileNr (hc : c.Completes chunks) :
    (tFileInfo (c.after chunks)).ulActualFileNr.toNat = (c.after chunks).ulCurrentFile + 1 := by
  obtain ⟨-, -, hcur⟩ := hc.invariant
  obtain ⟨-, -, hmax, -, -⟩ := setFilelist_ok hc.setFilelist
  show (BitVec.ofNat 32 (c.after chunks).ulCurrentFile + 1#32).toNat = _
  unfold netanaMaxFiles at hmax
  rw [← BitVec.ofNat_add, BitVec.toNat_ofNat]
  exact Nat.mod_eq_of_lt (by omega)

theorem Completes.accounted (hc : c.Completes chunks) : c.Accounted chunks := by
  obtain ⟨hfiles, hcounted, hcur⟩ := hc.invariant
  -- a file is only open while the capture writes
  have hopen : (c.after chunks).fWriteToFile = true → c.InWriting chunks := by
    intro hon
    rcases hfiles with hwriting | hfull
    · exact hwriting
    · rw [hfull.off] at hon
      cases hon
  constructor
  · intro hon
    have hwriting := hopen hon
    obtain ⟨hoffset, hcounter, -⟩ := hc.current_file hwriting
    refine ⟨by rw [hoffset, hcounter], ?_⟩
    rw [BitVec.le_def, hoffset]
    exact hwriting.fits
  · intro hon
    have hwriting := hopen hon
    obtain ⟨hoffset, -, hclosing⟩ := hc.current_file hwriting
    rw [hoffset, hclosing, last_payload hwriting]
    exact ⟨Nat.le_add_right _ _, rfl, hwriting.holds⟩
  · intro j hj hclosed
    exact hc.finished hj hclosed
  · intro j hj
    have hcounter : ((c.after chunks).atFiles (j % c.ulFileCount.toNat)).ullDataWritten = _ :=
      hc.counter hj
    have hle := hc.size_le j
    have hlt := c.ullFileSize.isLt
    rw [hcounter, BitVec.toNat_ofNat, Nat.mod_eq_of_lt (by omega)]
  · exact hcounted.unused
  · exact hcur
  · rw [hc.fileNr]
    omega
  · rw [hc.total, BitVec.toNat_ofNat]

theorem after_append (d : List (BitVec 8)) :
    c.after (chunks ++ [d]) = recordChunk c.io (c.after chunks) d := by
  rw [after, List.foldl_append]
  rfl

theorem Completes.before {d : List (BitVec 8)} (hc : c.Completes (chunks ++ [d])) :
    c.Completes chunks where
  setFilelist := hc.setFilelist
  fileCount := hc.fileCount
  length_le e he := hc.length_le e (List.mem_append_left _ he)
  ioFailed := by
    have hio := hc.ioFailed
    rw [after_append] at hio
    exact ioFailed_of_record hio

/-- Without ring buffer the files hold all that has been stored. -/
theorem heldPayload_of_noRing (hring : c.fRingBuffer = false) :
    c.heldPayload chunks = (c.starts chunks).flatten.flatten.length := by
  have hle : (c.starts chunks).length ≤ c.ulFileCount.toNat := by
    rw [starts, hring]
    exact List.length_take_le _ _
  exact heldBytes_of_le hle

/-- Without ring buffer a chunk that is stored is counted, and one that is rejected is not. -/
theorem Completes.heldPayload_append {d : List (BitVec 8)} (hc : c.Completes (chunks ++ [d]))
    (hring : c.fRingBuffer = false) :
    c.heldPayload (chunks ++ [d]) =
      c.heldPayload chunks + if (c.after chunks).stores c.io d then d.length else 0 := by
  obtain ⟨hfiles, -, -⟩ := hc.before.invariant
  obtain ⟨-, -, -, hroom, -⟩ := setFilelist_ok hc.setFilelist
  have hle := hc.length_le d (by simp)
  have hdma := c.g_ulDMABufferSize.isLt
  have hio := hc.ioFailed
  rw [after_append] at hio
  rw [heldPayload_of_noRing hring, heldPayload_of_noRing hring, ← record_on]
  rcases hfiles with hwriting | hfull
  · have hnext : c.starts (chunks ++ [d]) = _ :=
      hwriting.startedFiles_record hc.fileCount (by omega) (by omega) hio
    have hstarts : c.starts chunks = _ := hwriting.startedFiles_eq
    rw [hnext, hstarts, flatten_groups]
    split
    · rw [flatten_groups, List.flatten_append, List.flatten_singleton, List.length_append]
    · rw [flatten_groups, Nat.add_zero]
  · have hnext : c.starts (chunks ++ [d]) = c.starts chunks := hfull.startedFiles_record d
    have hcase : recordChunk c.io (c.after chunks) d = c.after chunks :=
      if_neg (by rw [hfull.off]; decide)
    rw [hnext, hcase, if_neg (by rw [hfull.off]; decide), Nat.add_zero]

/-- After `netana_stop_capture` every file that is left has been closed. -/
theorem Completes.stopped (hc : c.Completes chunks)
    (hio : (netanaStopCapture c.io (c.after chunks)).ioFailed = false) :
    ∀ j ∈ c.heldStarts chunks, ∃ header,
      readCaptureFile ((netanaStopCapture c.io (c.after chunks)).atFiles
          (j % c.ulFileCount.toNat)).content = some (header, c.payload chunks j) ∧
        ((netanaStopCapture c.io (c.after chunks)).atFiles
          (j % c.ulFileCount.toNat)).ullDataWritten = header.ullDataSize := by
  intro j hj
  obtain ⟨hlt, hheld⟩ := mem_held.mp hj
  obtain ⟨hfiles, hcounted, -⟩ := hc.invariant
  have hcount : (c.after chunks).ulFileCount > 0 := by
    rw [hc.settings]
    exact hc.fileCount
  rcases hfiles with hwriting | hfull
  · have hcase : netanaStopCapture c.io (c.after chunks) =
        { closeHeader c.io (c.after chunks) with ulFileCount := 0 } := by
      rw [netanaStopCapture, if_pos hcount, if_pos hwriting.on]
    have hstarts : c.starts chunks = _ := hwriting.startedFiles_eq
    rw [hcase] at hio ⊢
    obtain ⟨hlayout, -⟩ := hwriting.close hc.fileCount hio
    rw [hstarts] at hcounted hlt hheld
    have hclosed : Counted _ _ (closeHeader c.io (c.after chunks)) :=
      hwriting.counted_close hc.fileCount hcounted
    have hcounter := hclosed.held j (mem_held.mpr ⟨hlt, hheld⟩)
    rw [← hstarts] at hcounter
    apply hc.finished_file hlayout hcounter ?_ hheld
    rw [hstarts, List.getD_eq_getElem _ _ hlt, List.getElem?_eq_getElem]
  · have hoff : ¬ (c.after chunks).fWriteToFile = true := by
      rw [hfull.off]
      decide
    have hcase : netanaStopCapture c.io (c.after chunks) =
        { c.after chunks with ulFileCount := 0 } := by
      rw [netanaStopCapture, if_pos hcount, if_neg hoff]
    rw [hcase]
    exact hc.accounted.finished j hj fun hon => absurd hon hoff

end FilelistCapture

/-- The counters of a capture to file say what the files hold, between any two chunks and after
the end; the total does so in 64 bits. -/
theorem capture_file_accounting (c : FilelistCapture) (chunks : List (List (BitVec 8)))
    (hc : c.Completes chunks) :
    c.Accounted chunks ∧
    (∀ ulFileInfoSize ptFileInfo, fileInformationSize ≤ ulFileInfoSize.toNat →
      netanaFileInfo netanaNoError true ulFileInfoSize ptFileInfo (c.after chunks) =
        (netanaNoError,
          (tFileInfo (c.after chunks)).bytes ++ ptFileInfo.drop fileInformationSize)) ∧
    (c.fRingBuffer = false → ∀ d, c.Completes (chunks ++ [d]) →
      c.heldPayload (chunks ++ [d]) =
          c.heldPayload chunks + (if (c.after chunks).stores c.io d then d.length else 0) ∧
        (c.heldPayload (chunks ++ [d]) < 2 ^ 64 →
          (tFileInfo (c.after chunks)).ullTotalBytesWritten ≤
            (tFileInfo (c.after (chunks ++ [d]))).ullTotalBytesWritten)) ∧
    ((netanaStopCapture c.io (c.after chunks)).ioFailed = false →
      ∀ j ∈ c.heldStarts chunks, ∃ header,
        readCaptureFile ((netanaStopCapture c.io (c.after chunks)).atFiles
            (j % c.ulFileCount.toNat)).content = some (header, c.payload chunks j) ∧
          ((netanaStopCapture c.io (c.after chunks)).atFiles
            (j % c.ulFileCount.toNat)).ullDataWritten = header.ullDataSize) := by
  refine ⟨hc.accounted, ?_, ?_, hc.stopped⟩
  · intro ulFileInfoSize ptFileInfo hsize
    have hcount : (c.after chunks).ulFileCount ≠ 0 := by
      rw [hc.settings]
      exact hc.fileCount.ne'
    have hlen : (tFileInfo (c.after chunks)).bytes.length = fileInformationSize :=
      LittleEndian.length_encode _
    rw [netanaFileInfo, if_neg (not_not.mpr rfl), if_neg (by decide), if_neg hcount]
    dsimp only
    rw [Nat.min_eq_right hsize, List.take_of_length_le hlen.le]
  · intro hring d hd
    have hstep := hd.heldPayload_append hring
    refine ⟨hstep, ?_⟩
    intro hbound
    have hafter := hd.accounted.total
    have hbefore := hc.accounted.total
    rw [Nat.mod_eq_of_lt (by omega)] at hafter hbefore
    rw [BitVec.le_def, hafter, hbefore]
    omega

/-- Two files with room for four bytes. -/
def smallCapture : FilelistCapture where
  io := fun _ => 100
  g_ulDMABufferSize := 4#32
  ulFileCount := 2#32
  ullFileSize := 36#64
  fCaptureRunning := false
  hFile := fun _ => some []
  ulCaptureMode := 0#32
  ullReferenceTime := 5#64
  g_lTimezoneCorrection := 0#32
  before := recordedFiles

/-- The third chunk does not fit. -/
theorem capture_file_accounting_three :
    smallCapture.Accounted [[1#8, 2#8, 3#8], [4#8, 5#8], [6#8, 7#8, 8#8]] ∧
      smallCapture.heldPayload [[1#8, 2#8, 3#8], [4#8, 5#8], [6#8, 7#8, 8#8]] = 5 := by
  have hset : smallCapture.setFilelist.2 = netanaNoError := rfl
  have hcompletes : smallCapture.Completes [[1#8, 2#8, 3#8], [4#8, 5#8], [6#8, 7#8, 8#8]] :=
    ⟨hset, by decide, by decide, by decide +kernel⟩
  obtain ⟨haccounted, -⟩ := capture_file_accounting smallCapture _ hcompletes
  exact ⟨haccounted, by decide +kernel⟩

/-! Files that hold more than a number of 64 bits can count. -/

namespace FilelistCapture

theorem completes_of_io {c : FilelistCapture} {chunks : List (List (BitVec 8))}
    (hset : c.setFilelist.2 = netanaNoError) (hn : 0 < c.ulFileCount.toNat)
    (hchunks : ∀ d ∈ chunks, d.length ≤ c.g_ulDMABufferSize.toNat)
    (hbytes : ∀ k, c.ullFileSize.toNat ≤ c.io k) (hoff : c.ullFileSize.toNat ≤ offMax)
    (hok : c.setFilelist.1.ioFailed = false) : c.Completes chunks := by
  obtain ⟨hcount, hsize, -, hroom, hfresh⟩ := setFilelist_ok hset
  have hwhole : (captureToFiles c.io c.ulCaptureMode c.ullReferenceTime c.g_lTimezoneCorrection
      chunks c.setFilelist.1).ioFailed = false := by
    apply capture_succeeds
    · rw [hcount]
      exact hn
    · intro d hd
      have hle := hchunks d hd
      have hlt := c.g_ulDMABufferSize.isLt
      rw [hsize]
      omega
    · rw [hsize]
      omega
    · intro i hi _
      rw [hcount] at hi
      exact (hfresh i hi).1
    · rw [hsize]
      exact hbytes
    · rw [hsize]
      exact hoff
    · exact hok
  exact ⟨hset, hn, hchunks, ioFailed_of_stop hwhole⟩

/-- Without ring buffer all chunks are held, as long as they need no more files than there are. -/
theorem heldPayload_of_room {c : FilelistCapture} {chunks : List (List (BitVec 8))}
    (hring : c.fRingBuffer = false)
    (hchunks : ∀ d ∈ chunks, d.length ≤ c.g_ulDMABufferSize.toNat)
    (hroom : chunks.flatten.length < c.ulFileCount.toNat *
      (c.ullFileSize.toNat - fileHeaderSize + 1 - c.g_ulDMABufferSize.toNat)) :
    c.heldPayload chunks = chunks.flatten.length := by
  have hclosed : (pack (c.ullFileSize.toNat - fileHeaderSize) chunks).closed.length *
      (c.ullFileSize.toNat - fileHeaderSize + 1 - c.g_ulDMABufferSize.toNat) ≤
      chunks.flatten.length := length_closed_mul_le hchunks
  have hlt := Nat.lt_of_mul_lt_mul_right (hclosed.trans_lt hroom)
  have hstarts : c.starts chunks = (pack (c.ullFileSize.toNat - fileHeaderSize) chunks).groups := by
    rw [starts, hring]
    have hlen := length_groups (pack (c.ullFileSize.toNat - fileHeaderSize) chunks)
    exact List.take_of_length_le (hlen.trans_le hlt)
  rw [heldPayload_of_noRing hring, hstarts, flatten_groups]

end FilelistCapture

/-- Three files of the largest size there is. -/
def largestFiles : FilelistCapture where
  io := fun _ => offMax
  g_ulDMABufferSize := 0x80000#32
  ulFileCount := 3#32
  ullFileSize := BitVec.ofNat 64 offMax
  fCaptureRunning := false
  hFile := fun _ => some []
  ulCaptureMode := 0#32
  ullReferenceTime := 0#64
  g_lTimezoneCorrection := 0#32
  before := recordedFiles

/-- That many full DMA buffers. -/
def fullBuffers (k : ℕ) : List (List (BitVec 8)) :=
  List.replicate k (List.replicate (2 ^ 19) 0#8)

theorem length_fullBuffers (k : ℕ) : (fullBuffers k).flatten.length = k * 2 ^ 19 := by
  rw [fullBuffers, List.length_flatten, List.map_replicate, List.length_replicate,
    List.sum_replicate, smul_eq_mul]

theorem largestFiles_total {k : ℕ} (hk : k ≤ 2 ^ 45) :
    largestFiles.Completes (fullBuffers k) ∧
      largestFiles.heldPayload (fullBuffers k) = k * 2 ^ 19 ∧
      (tFileInfo (largestFiles.after (fullBuffers k))).ullTotalBytesWritten =
        BitVec.ofNat 64 (k * 2 ^ 19) := by
  have hset : largestFiles.setFilelist.2 = netanaNoError := rfl
  have hchunks : ∀ d ∈ fullBuffers k, d.length ≤ largestFiles.g_ulDMABufferSize.toNat := by
    intro d hd
    rw [List.eq_of_mem_replicate hd, List.length_replicate]
    exact le_rfl
  have hsize : largestFiles.ullFileSize.toNat = 2 ^ 63 - 1 := rfl
  have hcompletes : largestFiles.Completes (fullBuffers k) := by
    apply FilelistCapture.completes_of_io hset (by decide) hchunks
    · intro _
      exact le_rfl
    · exact le_rfl
    · rfl
  have hheld : largestFiles.heldPayload (fullBuffers k) = k * 2 ^ 19 := by
    rw [← length_fullBuffers]
    apply FilelistCapture.heldPayload_of_room rfl hchunks
    have hcount : largestFiles.ulFileCount.toNat = 3 := rfl
    have hdma : largestFiles.g_ulDMABufferSize.toNat = 2 ^ 19 := rfl
    rw [length_fullBuffers, hsize, hcount, hdma]
    unfold fileHeaderSize
    omega
  refine ⟨hcompletes, hheld, ?_⟩
  rw [hcompletes.total, hheld]

/-- With the last chunk the total goes back to zero, and all bytes are held. -/
theorem largestFiles_wrap :
    largestFiles.Completes (fullBuffers (2 ^ 45)) ∧
      largestFiles.heldPayload (fullBuffers (2 ^ 45)) = 2 ^ 64 ∧
      (tFileInfo (largestFiles.after (fullBuffers (2 ^ 45)))).ullTotalBytesWritten = 0#64 ∧
      (tFileInfo (largestFiles.after (fullBuffers (2 ^ 45 - 1)))).ullTotalBytesWritten =
        0xFFFFFFFFFFF80000#64 := by
  obtain ⟨hcompletes, hheld, htotal⟩ := largestFiles_total (k := 2 ^ 45) le_rfl
  obtain ⟨-, -, hbefore⟩ := largestFiles_total (k := 2 ^ 45 - 1) (Nat.sub_le _ _)
  exact ⟨hcompletes, hheld, htotal, hbefore⟩

end NetanaDriver
