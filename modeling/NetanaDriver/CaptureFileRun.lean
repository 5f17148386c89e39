import NetanaDriver.CaptureFiles
import NetanaDriver.GreedyPacking
import NetanaDriver.RotatingSlots

/-! What a capture to file leaves in its files: the chunks packed one after the other into
containers of the size of a file, each container in the file of its start, read back through the
headers. -/
namespace NetanaDriver

open GreedyPacking RotatingSlots

/-- The state with another header record and another current file, after calls that all
completed. -/
def FileCapture.commit (x : FileCapture) (h : FileHeader) (f : CaptureFile) (k : ℕ) :
    FileCapture :=
  { x with
    tFileHeader := h
    atFiles := Function.update x.atFiles x.ulCurrentFile f
    calls := k
    ioFailed := false }

theorem FileCapture.commit_current (x : FileCapture) (h : FileHeader) (f : CaptureFile) (k : ℕ) :
    (x.commit h f k).atFiles x.ulCurrentFile = f := Function.update_self _ _ _

theorem fwrite_completes_iff {io : IoOutcome} {i : ℕ} {data : List (BitVec 8)}
    {x : FileCapture} :
    (fwrite io i data x).1.ioFailed = false ↔
      x.ioFailed = false ∧ data.length ≤ io x.calls ∧
        data.length ≤ offMax - (x.atFiles i).pos := by
  show (x.ioFailed || decide (min (min (io x.calls) data.length)
    (offMax - (x.atFiles i).pos) < data.length)) = false ↔ _
  rw [Bool.or_eq_false_iff, decide_eq_false_iff_not]
  apply and_congr_right
  intro _
  omega

/-- A write that completes replaces as many bytes as it was given. -/
theorem fwrite_complete {io : IoOutcome} {i : ℕ} {data : List (BitVec 8)} {x : FileCapture}
    (h : (fwrite io i data x).1.ioFailed = false) :
    fwrite io i data x =
      ({ x.setFile i ((x.atFiles i).overwrite data) with
          calls := x.calls + 1
          ioFailed := false }, data.length) := by
  obtain ⟨hfailed, hio, hpos⟩ := fwrite_completes_iff.mp h
  have hcount : min (min (io x.calls) data.length) (offMax - (x.atFiles i).pos) =
      data.length := by omega
  unfold fwrite
  simp only [hcount, List.take_length, hfailed, lt_irrefl, decide_false, Bool.or_false]

theorem ioFailed_of_rewindCurrent {io : IoOutcome} {x : FileCapture}
    (h : (rewindCurrent io x).ioFailed = false) : x.ioFailed = false := by
  unfold rewindCurrent at h
  dsimp only at h
  split at h
  · exact (Bool.or_eq_false_iff.mp h).1
  · exact h

theorem rewindCurrent_complete {io : IoOutcome} {x : FileCapture}
    (hpos : (x.atFiles x.ulCurrentFile).ullOffset = 0#64 → (x.atFiles x.ulCurrentFile).pos = 0)
    (h : (rewindCurrent io x).ioFailed = false) :
    ∃ k, rewindCurrent io x =
      { x.setFile x.ulCurrentFile { x.atFiles x.ulCurrentFile with
          pos := 0
          ullOffset := 0#64 } with calls := k } := by
  have hfailed := ioFailed_of_rewindCurrent h
  by_cases hoffset : (x.atFiles x.ulCurrentFile).ullOffset = 0#64
  · have hcase : rewindCurrent io x = x := if_neg (not_not.mpr hoffset)
    have hsame : ({ x.atFiles x.ulCurrentFile with pos := 0, ullOffset := 0#64 } : CaptureFile) =
        x.atFiles x.ulCurrentFile := by
      rw [← hoffset, ← hpos hoffset]
    refine ⟨x.calls, ?_⟩
    rw [hcase, hsame, FileCapture.setFile, Function.update_eq_self]
  · have hcase : rewindCurrent io x = (fseekStart io x.ulCurrentFile x).setFile x.ulCurrentFile
        { (fseekStart io x.ulCurrentFile x).atFiles x.ulCurrentFile with ullOffset := 0#64 } :=
      if_pos hoffset
    have hio : io x.calls ≠ 0 := by
      rw [hcase] at h
      have h' : (x.ioFailed || decide (io x.calls = 0)) = false := h
      rw [Bool.or_eq_false_iff, decide_eq_false_iff_not] at h'
      exact h'.2
    refine ⟨x.calls + 1, ?_⟩
    rw [hcase]
    simp only [fseekStart, FileCapture.setFile, if_neg hio, Function.update_self,
      Function.update_idem, hfailed, decide_eq_false hio, Bool.or_false]

theorem header_ioFailed (io : IoOutcome) (ullSize : BitVec 64) (x : FileCapture) :
    (netanaWritefileheader io ullSize x).1.ioFailed =
      (fwrite io x.ulCurrentFile (prepareHeader io ullSize x).tFileHeader.bytes
        (prepareHeader io ullSize x)).1.ioFailed := by
  unfold netanaWritefileheader
  dsimp only
  split
  · rfl
  · rfl

theorem rewound_of_header {io : IoOutcome} {ullSize : BitVec 64} {x : FileCapture}
    (h : (netanaWritefileheader io ullSize x).1.ioFailed = false) :
    (rewindCurrent io x).ioFailed = false := by
  rw [header_ioFailed] at h
  exact (fwrite_completes_iff.mp h).1

/-- A header write that completes puts the header in the place of the first bytes of the current
file and leaves the handle behind it. -/
theorem header_complete {io : IoOutcome} {ullSize : BitVec 64} {x : FileCapture}
    (hpos : (x.atFiles x.ulCurrentFile).ullOffset = 0#64 → (x.atFiles x.ulCurrentFile).pos = 0)
    (h : (netanaWritefileheader io ullSize x).1.ioFailed = false) :
    ∃ k w, netanaWritefileheader io ullSize x =
      (x.commit { x.tFileHeader with ullDataSize := ullSize }
        ⟨({ x.tFileHeader with ullDataSize := ullSize } : FileHeader).bytes ++
            (x.atFiles x.ulCurrentFile).content.drop fileHeaderSize,
          fileHeaderSize, BitVec.ofNat 64 fileHeaderSize, w⟩ k, 0#32) := by
  obtain ⟨k, hk⟩ := rewindCurrent_complete hpos (rewound_of_header h)
  rw [header_ioFailed] at h
  have hwrite := fwrite_complete h
  refine ⟨k + 1, if fileHeaderSizeInvalid = ullSize then 0#64 else ullSize, ?_⟩
  unfold netanaWritefileheader
  dsimp only
  rw [hwrite, if_pos (FileHeader.length_bytes _), prepareHeader, hk]
  simp [FileCapture.setFile, FileCapture.commit, CaptureFile.overwrite, FileHeader.length_bytes]

/-- A data write that completes puts the data at the position of the handle. -/
theorem writeData_complete {io : IoOutcome} {data : List (BitVec 8)} {x : FileCapture}
    (h : (writeData io data x).ioFailed = false) :
    x.ioFailed = false ∧ data.length ≤ offMax - (x.atFiles x.ulCurrentFile).pos ∧
    ∃ k w, writeData io data x = x.commit x.tFileHeader
      { (x.atFiles x.ulCurrentFile).overwrite data with
        ullOffset := (x.atFiles x.ulCurrentFile).ullOffset + BitVec.ofNat 64 data.length
        ullDataWritten := w } k := by
  have hfwrite : (fwrite io x.ulCurrentFile data x).1.ioFailed = false := h
  obtain ⟨hfailed, -, hpos⟩ := fwrite_completes_iff.mp hfwrite
  refine ⟨hfailed, hpos, x.calls + 1,
    (x.atFiles x.ulCurrentFile).ullDataWritten + BitVec.ofNat 64 data.length, ?_⟩
  unfold writeData
  dsimp only
  rw [fwrite_complete hfwrite]
  simp [FileCapture.setFile, FileCapture.commit, CaptureFile.overwrite]

/-- The header record in start number `j` of a file. -/
def FileHeader.started (h : FileHeader) (j : ℕ) (ullSize : BitVec 64) : FileHeader :=
  { h with ulIdx := BitVec.ofNat 32 j, ullDataSize := ullSize }

/-- The header that a file is closed with over what it was given in start number `j`. -/
def FileHeader.closed (h : FileHeader) (j : ℕ) (g : List (List (BitVec 8))) : FileHeader :=
  h.started j (BitVec.ofNat 64 (size g))

/-- The file starts with this header and this payload. -/
def CaptureFile.Holds (f : CaptureFile) (h : FileHeader) (payload : List (BitVec 8)) : Prop :=
  ∃ rest, f.content = h.bytes ++ payload ++ rest

/-- After `m` starts of a file, of which those in `closed` have been closed again. `f₀` is how the
files were when the capture started, and `h` what the headers have in common. -/
structure Layout (h : FileHeader) (S n : ℕ) (f₀ : ℕ → CaptureFile) (m : ℕ)
    (closed : List (List (List (BitVec 8)))) (x : FileCapture) : Prop where
  rewind : ∀ i < n, (x.atFiles i).ullOffset = 0#64 → (x.atFiles i).pos = 0
  length_le : ∀ i, (x.atFiles i).content.length ≤ max S (f₀ i).content.length
  untouched : ∀ i, min m n ≤ i → x.atFiles i = f₀ i
  finished : ∀ j g, closed[j]? = some g → m ≤ j + n →
    (x.atFiles (j % n)).Holds (h.closed j g) g.flatten

/-- While the capture is written to a file. -/
structure Writing (ring : Bool) (h : FileHeader) (S n : ℕ) (f₀ : ℕ → CaptureFile)
    (p : Packing (BitVec 8)) (x : FileCapture) : Prop
    extends Layout h S n f₀ (p.closed.length + 1) p.closed x where
  count : x.ulFileCount = n
  fileSize : x.ullFileSize.toNat = S
  on : x.fWriteToFile = true
  current : x.ulCurrentFile = p.closed.length % n
  mode : x.fRingBuffer = ring
  room : ring = false → p.closed.length < n
  header : x.tFileHeader = h.started p.closed.length fileHeaderSizeInvalid
  holds : (x.atFiles x.ulCurrentFile).Holds x.tFileHeader p.current.flatten
  pos : (x.atFiles x.ulCurrentFile).pos = fileHeaderSize + size p.current
  offset : (x.atFiles x.ulCurrentFile).ullOffset =
    BitVec.ofNat 64 (fileHeaderSize + size p.current)
  fits : fileHeaderSize + size p.current ≤ S
  pos_le : fileHeaderSize + size p.current ≤ offMax

/-- After the last file has been closed without ring buffer. -/
structure Full (ring : Bool) (h : FileHeader) (S n : ℕ) (f₀ : ℕ → CaptureFile)
    (p : Packing (BitVec 8)) (x : FileCapture) : Prop
    extends Layout h S n f₀ n (p.closed.take n) x where
  off : x.fWriteToFile = false
  noRing : ring = false
  full : n ≤ p.closed.length

variable {io : IoOutcome} {ring : Bool} {h : FileHeader} {S n : ℕ} {f₀ : ℕ → CaptureFile}

theorem CaptureFile.Holds.read {f : CaptureFile} {h : FileHeader} {payload : List (BitVec 8)}
    (hf : f.Holds h payload) (hsize : h.ullDataSize.toNat = payload.length) :
    readCaptureFile f.content = some (h, payload) := by
  obtain ⟨rest, hrest⟩ := hf
  have hdrop : (h.bytes ++ (payload ++ rest)).drop fileHeaderSize = payload ++ rest :=
    List.drop_left' h.length_bytes
  unfold readCaptureFile
  rw [hrest, List.append_assoc, FileHeader.parse_bytes, Option.map_some, hdrop, hsize,
    List.take_left' rfl]

/-- A header that is written over another one leaves what is behind it. -/
theorem CaptureFile.Holds.drop {f : CaptureFile} {h : FileHeader} {payload : List (BitVec 8)}
    (hf : f.Holds h payload) : ∃ rest, f.content.drop fileHeaderSize = payload ++ rest := by
  obtain ⟨rest, hrest⟩ := hf
  refine ⟨rest, ?_⟩
  rw [hrest, List.append_assoc, List.drop_left' h.length_bytes]

/-- The next file after the one of start `c`, with the last one followed by the first. -/
theorem succ_mod_eq {c n : ℕ} (hn : 0 < n) :
    (c + 1) % n = if c % n + 1 ≥ n then 0 else c % n + 1 := by
  have hlt : c % n < n := Nat.mod_lt c hn
  rw [← Nat.mod_add_mod]
  split
  · rename_i hge
    have heq : c % n + 1 = n := by omega
    rw [heq, Nat.mod_self]
  · rename_i hge
    exact Nat.mod_eq_of_lt (by omega)

/-- What a write to the current file, which is in start number `c`, leaves of the layout. -/
theorem Layout.commit {m c k : ℕ} {closed closed' : List (List (List (BitVec 8)))}
    {x : FileCapture} {hd : FileHeader} {f : CaptureFile} (hx : Layout h S n f₀ m closed x)
    (hn : 0 < n) (hm : m ≤ c + 1) (hcur : x.ulCurrentFile = c % n)
    (hclosed : ∀ j g, closed'[j]? = some g →
      j < c ∧ closed[j]? = some g ∨ j = c ∧ f.Holds (h.closed c g) g.flatten)
    (hrewind : f.ullOffset = 0#64 → f.pos = 0)
    (hlen : f.content.length ≤ max S (x.atFiles x.ulCurrentFile).content.length) :
    Layout h S n f₀ (c + 1) closed' (x.commit hd f k) := by
  have hself : (x.commit hd f k).atFiles (c % n) = f := by
    rw [← hcur]
    exact Function.update_self _ _ _
  have hother {i : ℕ} (hi : i ≠ c % n) : (x.commit hd f k).atFiles i = x.atFiles i := by
    rw [← hcur] at hi
    exact Function.update_of_ne hi _ _
  have hslot : c % n < min (c + 1) n := by
    have hlt : c % n < n := Nat.mod_lt c hn
    have hle : c % n ≤ c := Nat.mod_le c n
    omega
  constructor
  · intro i hi
    by_cases heq : i = c % n
    · rw [heq, hself]
      exact hrewind
    · rw [hother heq]
      exact hx.rewind i hi
  · intro i
    by_cases heq : i = c % n
    · rw [heq, hself]
      have hold := hx.length_le (c % n)
      rw [hcur] at hlen
      omega
    · rw [hother heq]
      exact hx.length_le i
  · intro i hi
    rw [hother (by omega)]
    exact hx.untouched i (by omega)
  · intro j g hj hheld
    rcases hclosed j g hj with ⟨hlt, hg⟩ | ⟨heq, hf⟩
    · rw [hother (mod_ne hlt (by omega))]
      exact hx.finished j g hg (by omega)
    · rw [heq, hself]
      exact hf

theorem toNat_offset {k : ℕ} (h : k ≤ offMax) : (BitVec.ofNat 64 k).toNat = k := by
  unfold offMax at h
  rw [BitVec.toNat_ofNat, Nat.mod_eq_of_lt (by omega)]

theorem offset_ne_zero {k : ℕ} (hk : fileHeaderSize ≤ k) (h : k ≤ offMax) :
    BitVec.ofNat 64 k ≠ 0#64 := by
  intro hzero
  have hnat := congrArg BitVec.toNat hzero
  rw [toNat_offset h] at hnat
  rw [hnat] at hk
  exact absurd hk (by decide)

theorem Writing.current_lt {p : Packing (BitVec 8)} {x : FileCapture}
    (hx : Writing ring h S n f₀ p x) (hn : 0 < n) : x.ulCurrentFile < n := by
  rw [hx.current]
  exact Nat.mod_lt _ hn

/-- The size that the current file is closed with is the length of its payload. -/
theorem Writing.closing_size {p : Packing (BitVec 8)} {x : FileCapture}
    (hx : Writing ring h S n f₀ p x) :
    (x.atFiles x.ulCurrentFile).ullOffset - BitVec.ofNat 64 fileHeaderSize =
      BitVec.ofNat 64 (size p.current) := by
  rw [hx.offset, BitVec.ofNat_add, add_comm, add_sub_cancel_right]

/-- The current file is closed. -/
theorem Writing.close {p : Packing (BitVec 8)} {x : FileCapture} (hx : Writing ring h S n f₀ p x)
    (hn : 0 < n) (hio : (closeHeader io x).ioFailed = false) :
    Layout h S n f₀ p.groups.length p.groups (closeHeader io x) ∧
      ∃ f k, closeHeader io x = x.commit (h.closed p.closed.length p.current) f k := by
  have hheader : ({ x.tFileHeader with ullDataSize := BitVec.ofNat 64 (size p.current) } :
      FileHeader) = h.closed p.closed.length p.current := by
    rw [hx.header]
    rfl
  unfold closeHeader at hio ⊢
  rw [hx.closing_size] at hio ⊢
  obtain ⟨k, w, hk⟩ := header_complete (hx.rewind _ (hx.current_lt hn)) hio
  rw [hheader] at hk
  refine ⟨?_, _, k, by rw [hk]⟩
  obtain ⟨rest, hrest⟩ := hx.holds.drop
  rw [hk, length_groups]
  apply hx.toLayout.commit hn le_rfl hx.current
  · intro j g hj
    rcases Nat.lt_trichotomy j p.closed.length with hlt | heq | hgt
    · left
      rw [Packing.groups, List.getElem?_append_left hlt] at hj
      exact ⟨hlt, hj⟩
    · right
      rw [Packing.groups, heq, List.getElem?_concat_length, Option.some_inj] at hj
      rw [← hj]
      refine ⟨heq, rest, ?_⟩
      show _ ++ (x.atFiles x.ulCurrentFile).content.drop fileHeaderSize = _
      rw [hrest, List.append_assoc]
    · rw [List.getElem?_eq_none (by rw [length_groups]; omega)] at hj
      cases hj
  · intro hzero
    exact absurd hzero (offset_ne_zero le_rfl (by decide))
  · have hle := hx.fits
    rw [List.length_append, FileHeader.length_bytes, List.length_drop]
    omega

/-- The header of the next file is written. -/
theorem Layout.start {closed : List (List (List (BitVec 8)))} {x : FileCapture}
    (hx : Layout h S n f₀ closed.length closed x) (hn : 0 < n) (hS : fileHeaderSize ≤ S)
    (hcount : x.ulFileCount = n) (hsize : x.ullFileSize.toNat = S)
    (hon : x.fWriteToFile = true) (hcur : x.ulCurrentFile = closed.length % n)
    (hmode : x.fRingBuffer = ring) (hroom : ring = false → closed.length < n)
    (hheader : ∃ s, x.tFileHeader = h.started closed.length s)
    (hio : (netanaWritefileheader io fileHeaderSizeInvalid x).1.ioFailed = false) :
    Writing ring h S n f₀ ⟨closed, []⟩ (netanaWritefileheader io fileHeaderSizeInvalid x).1 := by
  have hidx : x.ulCurrentFile < n := by
    rw [hcur]
    exact Nat.mod_lt _ hn
  have hinvalid : ({ x.tFileHeader with ullDataSize := fileHeaderSizeInvalid } : FileHeader) =
      h.started closed.length fileHeaderSizeInvalid := by
    obtain ⟨s, hs⟩ := hheader
    rw [hs]
    rfl
  obtain ⟨k, w, hk⟩ := header_complete (hx.rewind _ hidx) hio
  rw [hinvalid] at hk
  rw [hk]
  have hfile : (x.commit (h.started closed.length fileHeaderSizeInvalid)
      ⟨(h.started closed.length fileHeaderSizeInvalid).bytes ++
        (x.atFiles x.ulCurrentFile).content.drop fileHeaderSize,
        fileHeaderSize, BitVec.ofNat 64 fileHeaderSize, w⟩ k).atFiles x.ulCurrentFile = _ :=
    x.commit_current _ _ _
  refine
    { toLayout := hx.commit hn (Nat.le_succ _) hcur ?_ ?_ ?_
      count := hcount
      fileSize := hsize
      on := hon
      current := hcur
      mode := hmode
      room := hroom
      header := rfl
      holds := ⟨(x.atFiles x.ulCurrentFile).content.drop fileHeaderSize, ?_⟩
      pos := congrArg CaptureFile.pos hfile
      offset := congrArg CaptureFile.ullOffset hfile
      fits := hS
      pos_le := ?_ }
  · intro j g hj
    obtain ⟨hlt, -⟩ := List.getElem?_eq_some_iff.mp hj
    exact Or.inl ⟨hlt, hj⟩
  · intro hzero
    exact absurd hzero (offset_ne_zero le_rfl (by decide))
  · rw [List.length_append, FileHeader.length_bytes, List.length_drop]
    omega
  · rw [List.flatten_nil, List.append_nil]
    exact congrArg CaptureFile.content hfile
  · show fileHeaderSize + 0 ≤ offMax
    decide

/-- A chunk is written to the current file. -/
theorem Writing.data {p : Packing (BitVec 8)} {x : FileCapture} {c : List (BitVec 8)}
    (hx : Writing ring h S n f₀ p x) (hn : 0 < n)
    (hfit : fileHeaderSize + size p.current + c.length ≤ S)
    (hio : (writeData io c x).ioFailed = false) :
    Writing ring h S n f₀ ⟨p.closed, p.current ++ [c]⟩ (writeData io c x) := by
  obtain ⟨-, hroom, k, w, hk⟩ := writeData_complete hio
  rw [hk]
  have hsize : fileHeaderSize + size (p.current ++ [c]) =
      fileHeaderSize + size p.current + c.length := by
    rw [size_append_singleton, add_assoc]
  have hend : fileHeaderSize + size p.current + c.length ≤ offMax := by
    have hle := hx.pos_le
    rw [hx.pos] at hroom
    omega
  have hoffset : (x.atFiles x.ulCurrentFile).ullOffset + BitVec.ofNat 64 c.length =
      BitVec.ofNat 64 (fileHeaderSize + size p.current + c.length) := by
    rw [hx.offset, ← BitVec.ofNat_add]
  obtain ⟨rest, hrest⟩ := hx.holds
  have hbehind : (x.tFileHeader.bytes ++ p.current.flatten).length =
      fileHeaderSize + size p.current := by
    rw [List.length_append, FileHeader.length_bytes]
    rfl
  have hcontent : ((x.atFiles x.ulCurrentFile).overwrite c).content =
      x.tFileHeader.bytes ++ (p.current ++ [c]).flatten ++ rest.drop c.length := by
    show (x.atFiles x.ulCurrentFile).content.take (x.atFiles x.ulCurrentFile).pos ++ c ++
      (x.atFiles x.ulCurrentFile).content.drop ((x.atFiles x.ulCurrentFile).pos + c.length) = _
    rw [hrest, hx.pos, ← hbehind, List.take_left' rfl, ← List.drop_drop, List.drop_left' rfl,
      List.flatten_append, List.flatten_singleton]
    simp only [List.append_assoc]
  have hfile : (x.commit x.tFileHeader
      { (x.atFiles x.ulCurrentFile).overwrite c with
        ullOffset := (x.atFiles x.ulCurrentFile).ullOffset + BitVec.ofNat 64 c.length
        ullDataWritten := w } k).atFiles x.ulCurrentFile = _ := x.commit_current _ _ _
  refine
    { toLayout := hx.toLayout.commit hn le_rfl hx.current ?_ ?_ ?_
      count := hx.count
      fileSize := hx.fileSize
      on := hx.on
      current := hx.current
      mode := hx.mode
      room := hx.room
      header := hx.header
      holds := ⟨rest.drop c.length, ?_⟩
      pos := ?_
      offset := ?_
      fits := ?_
      pos_le := ?_ }
  · intro j g hj
    obtain ⟨hlt, -⟩ := List.getElem?_eq_some_iff.mp hj
    exact Or.inl ⟨hlt, hj⟩
  · intro hzero
    have hsum : (x.atFiles x.ulCurrentFile).ullOffset + BitVec.ofNat 64 c.length = 0#64 := hzero
    rw [hoffset] at hsum
    exact absurd hsum (offset_ne_zero (by omega) hend)
  · rw [hcontent, List.length_append, List.flatten_append, List.flatten_singleton,
      ← List.append_assoc, List.length_append, hbehind, List.length_drop, hrest,
      List.length_append, hbehind]
    omega
  · exact (congrArg CaptureFile.content hfile).trans hcontent
  · have hpos := congrArg CaptureFile.pos hfile
    rw [hsize]
    exact hpos.trans (by rw [← hx.pos]; rfl)
  · rw [hsize, ← hoffset]
    exact congrArg CaptureFile.ullOffset hfile
  · rw [hsize]
    exact hfit
  · rw [hsize]
    exact hend

theorem ioFailed_of_openNextFile {x : FileCapture} {c : List (BitVec 8)}
    (hio : (openNextFile io c x).ioFailed = false) : x.ioFailed = false :=
  ioFailed_of_rewindCurrent (rewound_of_header (writeData_complete hio).1)

/-- The next file gets its header and the first chunk. -/
theorem Layout.openNext {closed : List (List (List (BitVec 8)))} {x : FileCapture}
    {c : List (BitVec 8)} (hx : Layout h S n f₀ closed.length closed x) (hn : 0 < n)
    (hfit : fileHeaderSize + c.length ≤ S) (hcount : x.ulFileCount = n)
    (hsize : x.ullFileSize.toNat = S) (hon : x.fWriteToFile = true)
    (hcur : x.ulCurrentFile = closed.length % n)
    (hmode : x.fRingBuffer = ring) (hroom : ring = false → closed.length < n)
    (hheader : ∃ s, x.tFileHeader = h.started closed.length s)
    (hio : (openNextFile io c x).ioFailed = false) :
    Writing ring h S n f₀ ⟨closed, [c]⟩ (openNextFile io c x) := by
  have hstart := hx.start hn (by omega) hcount hsize hon hcur hmode hroom hheader
    (writeData_complete hio).1
  exact hstart.data hn hfit hio

/-- The test for the end of the file is exact. -/
theorem Writing.full_iff {p : Packing (BitVec 8)} {x : FileCapture} {c : List (BitVec 8)}
    (hx : Writing ring h S n f₀ p x) (hc : c.length < 2 ^ 32) :
    (x.atFiles x.ulCurrentFile).ullOffset + BitVec.ofNat 64 c.length > x.ullFileSize ↔
      ¬ size p.current + c.length ≤ S - fileHeaderSize := by
  have hpos := hx.pos_le
  have hfits := hx.fits
  have hsum : ((x.atFiles x.ulCurrentFile).ullOffset + BitVec.ofNat 64 c.length).toNat =
      fileHeaderSize + size p.current + c.length := by
    rw [hx.offset, ← BitVec.ofNat_add, BitVec.toNat_ofNat]
    unfold offMax at hpos
    exact Nat.mod_eq_of_lt (by omega)
  rw [gt_iff_lt, BitVec.lt_def, hsum, hx.fileSize]
  omega

/-- No file call failed before one that closed a file. -/
theorem closed_of_record {x : FileCapture} {c : List (BitVec 8)} (hon : x.fWriteToFile = true)
    (hfull : (x.atFiles x.ulCurrentFile).ullOffset + BitVec.ofNat 64 c.length > x.ullFileSize)
    (hio : (recordChunk io x c).ioFailed = false) : (closeHeader io x).ioFailed = false := by
  rw [recordChunk, if_pos hon, netanaWriteToFile, if_pos hfull] at hio
  dsimp only at hio
  generalize closeHeader io x = z at hio ⊢
  split at hio
  · split at hio
    · have hnext : (openNextFile io c { advanceFile z with ulCurrentFile := 0 }).ioFailed =
          false := hio
      have hbefore := ioFailed_of_openNextFile hnext
      exact hbefore
    · exact hio
  · have hnext : (openNextFile io c (advanceFile z)).ioFailed = false := hio
    have hbefore := ioFailed_of_openNextFile hnext
    exact hbefore

/-- Nothing that failed is forgotten. -/
theorem ioFailed_of_record {x : FileCapture} {c : List (BitVec 8)}
    (hio : (recordChunk io x c).ioFailed = false) : x.ioFailed = false := by
  by_cases hon : x.fWriteToFile = true
  · by_cases hfull : (x.atFiles x.ulCurrentFile).ullOffset + BitVec.ofNat 64 c.length >
        x.ullFileSize
    · exact ioFailed_of_rewindCurrent (rewound_of_header (closed_of_record hon hfull hio))
    · rw [recordChunk, if_pos hon, netanaWriteToFile, if_neg hfull] at hio
      exact (writeData_complete hio).1
  · rw [recordChunk, if_neg hon] at hio
    exact hio

/-- A chunk that does not fit closes the current file and goes to the next one, if there is
one. -/
theorem Writing.record_full {p : Packing (BitVec 8)} {x : FileCapture} {c : List (BitVec 8)}
    {hd : FileHeader} {f : CaptureFile} {k : ℕ} (hx : Writing ring h S n f₀ p x)
    (hfull : (x.atFiles x.ulCurrentFile).ullOffset + BitVec.ofNat 64 c.length > x.ullFileSize)
    (hk : closeHeader io x = x.commit hd f k) :
    recordChunk io x c =
      if x.ulCurrentFile + 1 ≥ n then
        if x.fRingBuffer then
          openNextFile io c { advanceFile (closeHeader io x) with ulCurrentFile := 0 }
        else { advanceFile (closeHeader io x) with
          fWriteToFile := false
          ulCurrentFile := x.ulCurrentFile + 1 - 1 }
      else openNextFile io c (advanceFile (closeHeader io x)) := by
  rw [recordChunk, if_pos hx.on, netanaWriteToFile, if_pos hfull, hk, ← hx.count]
  dsimp only [advanceFile, FileCapture.commit]
  split
  · split
    · rfl
    · rfl
  · rfl

/-- One chunk goes where the packing puts it, as long as there are files. -/
theorem Writing.record {p : Packing (BitVec 8)} {x : FileCapture} {c : List (BitVec 8)}
    (hx : Writing ring h S n f₀ p x) (hn : 0 < n) (hc : c.length < 2 ^ 32)
    (hfit : fileHeaderSize + c.length ≤ S) (hio : (recordChunk io x c).ioFailed = false) :
    Writing ring h S n f₀ (p.place (S - fileHeaderSize) c) (recordChunk io x c) ∨
      Full ring h S n f₀ (p.place (S - fileHeaderSize) c) (recordChunk io x c) := by
  -- the code's test of the file size and the packing's test of the group are the same test
  by_cases hroom : size p.current + c.length ≤ S - fileHeaderSize
  · have hcase : recordChunk io x c = writeData io c x := by
      have hfull := mt (hx.full_iff hc).mp (not_not.mpr hroom)
      rw [recordChunk, if_pos hx.on, netanaWriteToFile, if_neg hfull]
    have hplace : p.place (S - fileHeaderSize) c = ⟨p.closed, p.current ++ [c]⟩ := if_pos hroom
    have hfits := hx.fits
    left
    rw [hcase] at hio ⊢
    rw [hplace]
    exact hx.data hn (by omega) hio
  · have hfull := (hx.full_iff hc).mpr hroom
    have hplace : p.place (S - fileHeaderSize) c = ⟨p.groups, [c]⟩ := if_neg hroom
    -- no room: the current file is closed, and then there is a next file, the first one again
    -- or no file at all
    obtain ⟨hlayout, f, k, hk⟩ := hx.close hn (closed_of_record hx.on hfull hio)
    have hcase := hx.record_full hfull hk
    have hheader : (advanceFile (closeHeader io x)).tFileHeader =
        h.started p.groups.length (BitVec.ofNat 64 (size p.current)) := by
      rw [hk, length_groups, FileHeader.started, BitVec.ofNat_add]
      rfl
    have hadvanced : Layout h S n f₀ p.groups.length p.groups (advanceFile (closeHeader io x)) :=
      ⟨hlayout.rewind, hlayout.length_le, hlayout.untouched, hlayout.finished⟩
    rw [hcase] at hio ⊢
    rw [hplace]
    have hcurrent := hx.current
    have hsucc : p.groups.length % n = if x.ulCurrentFile + 1 ≥ n then 0
        else x.ulCurrentFile + 1 := by
      rw [length_groups, hcurrent]
      exact succ_mod_eq hn
    have hcommit {α : Type} (field : FileCapture → α)
        (hsame : field (x.commit (h.closed p.closed.length p.current) f k) = field x) :
        field (closeHeader io x) = field x := by
      rw [hk]
      exact hsame
    have hcount := (hcommit FileCapture.ulFileCount rfl).trans hx.count
    have hsize := (congrArg BitVec.toNat (hcommit FileCapture.ullFileSize rfl)).trans hx.fileSize
    have hon := (hcommit FileCapture.fWriteToFile rfl).trans hx.on
    have hring := (hcommit FileCapture.fRingBuffer rfl).trans hx.mode
    have hcur := hcommit FileCapture.ulCurrentFile rfl
    by_cases hlast : x.ulCurrentFile + 1 ≥ n
    · rw [if_pos hlast] at hio hsucc ⊢
      by_cases hmode : x.fRingBuffer = true
      · left
        rw [if_pos hmode] at hio ⊢
        have hnext : Layout h S n f₀ p.groups.length p.groups
            { advanceFile (closeHeader io x) with ulCurrentFile := 0 } :=
          ⟨hlayout.rewind, hlayout.length_le, hlayout.untouched, hlayout.finished⟩
        apply hnext.openNext hn hfit hcount hsize hon hsucc.symm hring ?_ ⟨_, hheader⟩ hio
        intro hoff
        rw [hx.mode, hoff] at hmode
        cases hmode
      · right
        rw [if_neg hmode] at hio ⊢
        have hno : ring = false := by
          rw [hx.mode] at hmode
          exact Bool.eq_false_iff.mpr hmode
        -- without a ring the files are used once, so the last one closes with `n` groups
        have hlen : p.groups.length = n := by
          have hroomLt := hx.room hno
          rw [hcurrent, Nat.mod_eq_of_lt hroomLt] at hlast
          rw [length_groups]
          omega
        have hall : p.groups.take n = p.groups := List.take_of_length_le hlen.le
        refine ⟨⟨hlayout.rewind, hlayout.length_le, ?_, ?_⟩, rfl, hno, hlen.ge⟩
        · intro i hi
          exact hlayout.untouched i (by omega)
        · intro j g hj hheld
          rw [hall] at hj
          exact hlayout.finished j g hj (by omega)
    · rw [if_neg hlast] at hio hsucc ⊢
      left
      have hsuccCur : (advanceFile (closeHeader io x)).ulCurrentFile = p.groups.length % n := by
        rw [hsucc, ← hcur]
        rfl
      apply hadvanced.openNext hn hfit hcount hsize hon hsuccCur hring ?_ ⟨_, hheader⟩ hio
      intro hoff
      have hroomLt := hx.room hoff
      rw [hcurrent, Nat.mod_eq_of_lt hroomLt] at hlast
      rw [length_groups]
      omega

theorem Full.take_place {p : Packing (BitVec 8)} {x : FileCapture} (c : List (BitVec 8))
    (hx : Full ring h S n f₀ p x) :
    (p.place (S - fileHeaderSize) c).closed.take n = p.closed.take n := by
  have hprefix : p.closed <+: (p.place (S - fileHeaderSize) c).closed :=
    closed_prefix_foldl (S - fileHeaderSize) [c] p
  obtain ⟨rest, hrest⟩ := hprefix
  rw [← hrest, List.take_append_of_le_length hx.full]

/-- After the last file nothing is written any more. -/
theorem Full.record {p : Packing (BitVec 8)} {x : FileCapture} (c : List (BitVec 8))
    (hx : Full ring h S n f₀ p x) :
    Full ring h S n f₀ (p.place (S - fileHeaderSize) c) (recordChunk io x c) := by
  have hcase : recordChunk io x c = x := if_neg (by rw [hx.off]; decide)
  have hprefix : p.closed <+: (p.place (S - fileHeaderSize) c).closed :=
    closed_prefix_foldl (S - fileHeaderSize) [c] p
  have hlayout := hx.toLayout
  rw [← hx.take_place c] at hlayout
  rw [hcase]
  exact ⟨hlayout, hx.off, hx.noRing, hx.full.trans hprefix.length_le⟩

theorem ioFailed_of_run {x : FileCapture} {cs : List (List (BitVec 8))}
    (hio : (cs.foldl (recordChunk io) x).ioFailed = false) : x.ioFailed = false := by
  induction cs generalizing x with
  | nil => exact hio
  | cons c cs ih => exact ioFailed_of_record (ih hio)

theorem ioFailed_of_stop {x : FileCapture} (hio : (netanaStopCapture io x).ioFailed = false) :
    x.ioFailed = false := by
  unfold netanaStopCapture at hio
  split at hio
  · split at hio
    · have hclosed : (closeHeader io x).ioFailed = false := hio
      exact ioFailed_of_rewindCurrent (rewound_of_header hclosed)
    · exact hio
  · exact hio

/-- Every chunk goes where the packing puts it, as long as there are files. -/
theorem Writing.run {x : FileCapture} {cs : List (List (BitVec 8))}
    (hx : Writing ring h S n f₀ .start x) (hn : 0 < n)
    (hcs : ∀ c ∈ cs, c.length < 2 ^ 32 ∧ fileHeaderSize + c.length ≤ S)
    (hio : (cs.foldl (recordChunk io) x).ioFailed = false) :
    Writing ring h S n f₀ (pack (S - fileHeaderSize) cs) (cs.foldl (recordChunk io) x) ∨
      Full ring h S n f₀ (pack (S - fileHeaderSize) cs) (cs.foldl (recordChunk io) x) := by
  induction cs using List.reverseRecOn with
  | nil => exact Or.inl hx
  | append_singleton cs c ih =>
    rw [List.foldl_append] at hio ⊢
    rw [pack_append]
    have hbefore : (cs.foldl (recordChunk io) x).ioFailed = false := ioFailed_of_record hio
    obtain ⟨hc, hfit⟩ := hcs c (by simp)
    rcases ih (fun d hd => hcs d (List.mem_append_left _ hd)) hbefore with hwriting | hfull
    · exact hwriting.record hn hc hfit hio
    · exact Or.inr (hfull.record c)

/-- What the files of a capture are filled with, one list of chunks for each start of a file. -/
def startedFiles (ring : Bool) (n S : ℕ) (chunks : List (List (BitVec 8))) :
    List (List (List (BitVec 8))) :=
  let groups := (pack (S - fileHeaderSize) chunks).groups
  if ring then groups else groups.take n

theorem Writing.startedFiles_eq {x : FileCapture} {chunks : List (List (BitVec 8))}
    (hx : Writing ring h S n f₀ (pack (S - fileHeaderSize) chunks) x) :
    startedFiles ring n S chunks = (pack (S - fileHeaderSize) chunks).groups := by
  unfold startedFiles
  dsimp only
  split
  · rfl
  · rename_i hring
    have hroom := hx.room (Bool.eq_false_iff.mpr hring)
    exact List.take_of_length_le (by rw [length_groups]; omega)

theorem Full.startedFiles_eq {x : FileCapture} {chunks : List (List (BitVec 8))}
    (hx : Full ring h S n f₀ (pack (S - fileHeaderSize) chunks) x) :
    startedFiles ring n S chunks = (pack (S - fileHeaderSize) chunks).closed.take n := by
  unfold startedFiles
  rw [hx.noRing]
  exact List.take_append_of_le_length hx.full

/-- The header of a capture, but for the fields that differ between its files. -/
def captureHeader (ullReferenceTime : BitVec 64) (lTimezoneCorrection : BitVec 32) : FileHeader :=
  { ulCookie := fileHeaderCookie
    ulIdx := 0#32
    ullCaptureStart := ullReferenceTime
    ullDataSize := 0#64
    lTimezoneCorrection := lTimezoneCorrection
    ulReserved := 0#32 }

/-- The start of a capture puts the header into the first file. -/
theorem start_writing {x : FileCapture} {ulCaptureMode : BitVec 32} {ullReferenceTime : BitVec 64}
    {lTimezoneCorrection : BitVec 32} (hn : 0 < x.ulFileCount)
    (hS : fileHeaderSize ≤ x.ullFileSize.toNat)
    (hopen : ∀ i < x.ulFileCount, (x.atFiles i).ullOffset = 0#64 → (x.atFiles i).pos = 0)
    (hio : (netanaStartCapture io ulCaptureMode ullReferenceTime lTimezoneCorrection
      x).ioFailed = false) :
    Writing (ToggleHandshake.maskTest ulCaptureMode captureModeRingbuffer)
      (captureHeader ullReferenceTime lTimezoneCorrection) x.ullFileSize.toNat x.ulFileCount
      x.atFiles .start
      (netanaStartCapture io ulCaptureMode ullReferenceTime lTimezoneCorrection x) := by
  let y : FileCapture := firstFile ullReferenceTime lTimezoneCorrection
    { x with fRingBuffer := ToggleHandshake.maskTest ulCaptureMode captureModeRingbuffer }
  have hcase : netanaStartCapture io ulCaptureMode ullReferenceTime lTimezoneCorrection x =
      (netanaWritefileheader io fileHeaderSizeInvalid y).1 := if_pos hn
  have hlayout : Layout (captureHeader ullReferenceTime lTimezoneCorrection)
      x.ullFileSize.toNat x.ulFileCount x.atFiles ([] : List (List (List (BitVec 8)))).length []
      y := by
    constructor
    · exact hopen
    · intro i
      exact le_max_right _ _
    · intro i _
      rfl
    · intro j g hj
      cases hj
  rw [hcase] at hio ⊢
  exact hlayout.start hn hS rfl rfl rfl (Nat.zero_mod _).symm rfl (fun _ => hn) ⟨_, rfl⟩ hio

/-- The files after the whole capture. -/
theorem capture_layout {x : FileCapture} {ulCaptureMode : BitVec 32} {ullReferenceTime : BitVec 64}
    {lTimezoneCorrection : BitVec 32} {chunks : List (List (BitVec 8))}
    (hn : 0 < x.ulFileCount)
    (hchunks : ∀ c ∈ chunks, c.length < 2 ^ 32 ∧ fileHeaderSize + c.length ≤ x.ullFileSize.toNat)
    (hS : fileHeaderSize ≤ x.ullFileSize.toNat)
    (hopen : ∀ i < x.ulFileCount, (x.atFiles i).ullOffset = 0#64 → (x.atFiles i).pos = 0)
    (hio : (captureToFiles io ulCaptureMode ullReferenceTime lTimezoneCorrection chunks
      x).ioFailed = false) :
    Layout (captureHeader ullReferenceTime lTimezoneCorrection) x.ullFileSize.toNat x.ulFileCount
      x.atFiles
      (startedFiles (ToggleHandshake.maskTest ulCaptureMode captureModeRingbuffer) x.ulFileCount
        x.ullFileSize.toNat chunks).length
      (startedFiles (ToggleHandshake.maskTest ulCaptureMode captureModeRingbuffer) x.ulFileCount
        x.ullFileSize.toNat chunks)
      (captureToFiles io ulCaptureMode ullReferenceTime lTimezoneCorrection chunks x) := by
  let s := netanaStartCapture io ulCaptureMode ullReferenceTime lTimezoneCorrection x
  let y := chunks.foldl (recordChunk io) s
  have hstop : captureToFiles io ulCaptureMode ullReferenceTime lTimezoneCorrection chunks x =
      netanaStopCapture io y := rfl
  rw [hstop] at hio ⊢
  have hend : y.ioFailed = false := ioFailed_of_stop hio
  have hstart := start_writing hn hS hopen (ioFailed_of_run hend)
  rcases hstart.run hn hchunks hend with hlast | hfull
  · have hclose : netanaStopCapture io y = { closeHeader io y with ulFileCount := 0 } := by
      rw [netanaStopCapture, if_pos (by rw [hlast.count]; exact hn), if_pos hlast.on]
    rw [hclose] at hio ⊢
    obtain ⟨hlayout, -⟩ := hlast.close hn hio
    rw [hlast.startedFiles_eq]
    exact ⟨hlayout.rewind, hlayout.length_le, hlayout.untouched, hlayout.finished⟩
  · have hstarted := hfull.startedFiles_eq
    have hlen := congrArg List.length hstarted
    rw [List.length_take, Nat.min_eq_left hfull.full] at hlen
    have hatFiles : (netanaStopCapture io y).atFiles = y.atFiles := by
      unfold netanaStopCapture
      split
      · rw [if_neg (by rw [hfull.off]; decide)]
      · rfl
    rw [hlen, hstarted]
    have hlayout := hfull.toLayout
    constructor
    · rw [hatFiles]
      exact hlayout.rewind
    · rw [hatFiles]
      exact hlayout.length_le
    · rw [hatFiles]
      exact hlayout.untouched
    · rw [hatFiles]
      exact hlayout.finished

/-- The files of a capture, sorted by how far their `ulIdx` is behind `first`. -/
def readCaptureFiles (first : BitVec 32) (count : ℕ) (atFiles : ℕ → CaptureFile) :
    List (FileHeader × List (BitVec 8)) :=
  ((List.range count).filterMap fun i => readCaptureFile (atFiles i).content).mergeSort
    fun a b => decide ((a.1.ulIdx - first).toNat ≤ (b.1.ulIdx - first).toNat)

theorem toNat_idx_sub {first k : ℕ} (hle : first ≤ k) (hlt : k < first + 2 ^ 32) :
    (BitVec.ofNat 32 k - BitVec.ofNat 32 first).toNat = k - first := by
  rw [BitVec.toNat_sub, BitVec.toNat_ofNat, BitVec.toNat_ofNat]
  omega

/-- The file of a start that still holds what the start was given is read back as that. -/
theorem Layout.read {starts : List (List (List (BitVec 8)))} {x : FileCapture}
    (hx : Layout h S n f₀ starts.length starts x) (hsize : ∀ g ∈ starts, size g < 2 ^ 64)
    {j : ℕ} (hj : j ∈ held starts.length n) :
    readCaptureFile (x.atFiles (j % n)).content =
      some (h.closed j (starts.getD j []), (starts.getD j []).flatten) := by
  obtain ⟨hlt, hheld⟩ := mem_held.mp hj
  have hg : starts[j]? = some (starts.getD j []) := by
    rw [List.getElem?_eq_getElem hlt, List.getD_eq_getElem _ _ hlt]
  apply (hx.finished j _ hg hheld).read
  show (BitVec.ofNat 64 (size _)).toNat = _
  rw [BitVec.toNat_ofNat, Nat.mod_eq_of_lt (hsize _ (List.mem_of_getElem? hg)), size]

/-- What is read back from the files is what their starts were given, in the order of the
starts. -/
theorem Layout.readback {starts : List (List (List (BitVec 8)))} {x : FileCapture} {first : ℕ}
    (hx : Layout h S n f₀ starts.length starts x) (hn : 0 < n)
    (hsize : ∀ g ∈ starts, size g < 2 ^ 64)
    (hfirst : first ≤ starts.length - min starts.length n)
    (hrange : starts.length ≤ first + 2 ^ 32) :
    readCaptureFiles (BitVec.ofNat 32 first) (min starts.length n) x.atFiles =
      (held starts.length n).map fun j =>
        (h.closed j (starts.getD j []), (starts.getD j []).flatten) := by
  let record (j : ℕ) : FileHeader × List (BitVec 8) :=
    (h.closed j (starts.getD j []), (starts.getD j []).flatten)
  let slot (i : ℕ) : FileHeader × List (BitVec 8) :=
    (readCaptureFile (x.atFiles i).content).getD (record 0)
  have hread : ∀ j ∈ held starts.length n,
      readCaptureFile (x.atFiles (j % n)).content = some (record j) := fun j => hx.read hsize
  have hslots : (List.range (min starts.length n)).filterMap
      (fun i => readCaptureFile (x.atFiles i).content) =
      (List.range (min starts.length n)).map slot := by
    rw [← List.filterMap_eq_map]
    apply List.filterMap_congr
    intro i hi
    rw [← (map_mod_held_perm hn).mem_iff, List.mem_map] at hi
    obtain ⟨j, hj, rfl⟩ := hi
    show _ = some ((readCaptureFile (x.atFiles (j % n)).content).getD (record 0))
    rw [hread j hj, Option.getD_some]
  unfold readCaptureFiles
  rw [hslots]
  apply mergeSort_slots hn
  · intro j hj
    show (readCaptureFile (x.atFiles (j % n)).content).getD (record 0) = record j
    rw [hread j hj, Option.getD_some]
  · intro i hi j hj hij
    show (BitVec.ofNat 32 i - BitVec.ofNat 32 first).toNat <
      (BitVec.ofNat 32 j - BitVec.ofNat 32 first).toNat
    rw [mem_held] at hi hj
    rw [toNat_idx_sub (by omega) (by omega), toNat_idx_sub (by omega) (by omega)]
    omega

theorem size_le_of_started {S n : ℕ} {chunks : List (List (BitVec 8))}
    (hchunks : ∀ c ∈ chunks, c.length ≤ S - fileHeaderSize) :
    ∀ g ∈ startedFiles ring n S chunks, size g ≤ S - fileHeaderSize := by
  have hgroups : ∀ g ∈ (pack (S - fileHeaderSize) chunks).groups, size g ≤ S - fileHeaderSize := by
    apply size_le_foldl chunks ?_ hchunks
    intro g hg
    rw [List.mem_singleton.mp hg]
    exact Nat.zero_le _
  intro g hg
  unfold startedFiles at hg
  dsimp only at hg
  split at hg
  · exact hgroups g hg
  · exact hgroups g (List.mem_of_mem_take hg)

theorem map_getD_held (starts : List (List (List (BitVec 8)))) (n : ℕ) :
    (held starts.length n).map (fun j => starts.getD j []) =
      starts.drop (starts.length - min starts.length n) := by
  apply List.ext_getElem
  · rw [List.length_map, length_held, List.length_drop]
    omega
  · intro k hk _
    rw [List.length_map, length_held] at hk
    simp only [held, List.getElem_map, List.getElem_drop, List.getElem_range', Nat.one_mul]
    exact List.getD_eq_getElem _ _ (by omega)

/-- Read back through their headers and in the order of their `ulIdx`, the files of a capture
give the chunks that they were filled with. The order starts at the `ulIdx` of the oldest file
that is still there, or at zero as long as no `ulIdx` has been used twice. -/
theorem capture_files_decode {x : FileCapture} {ulCaptureMode : BitVec 32}
    {ullReferenceTime : BitVec 64} {lTimezoneCorrection : BitVec 32}
    {ulDMABufferSize : BitVec 32} {chunks : List (List (BitVec 8))}
    (hn : 0 < x.ulFileCount) (hmax : x.ulFileCount ≤ netanaMaxFiles)
    (hS : ulDMABufferSize.toNat + fileHeaderSize ≤ x.ullFileSize.toNat)
    (hchunks : ∀ c ∈ chunks, c.length ≤ ulDMABufferSize.toNat)
    (hopen : ∀ i < x.ulFileCount, (x.atFiles i).ullOffset = 0#64 → (x.atFiles i).pos = 0)
    (hio : (captureToFiles io ulCaptureMode ullReferenceTime lTimezoneCorrection chunks
      x).ioFailed = false) :
    let ring := ToggleHandshake.maskTest ulCaptureMode captureModeRingbuffer
    let y := captureToFiles io ulCaptureMode ullReferenceTime lTimezoneCorrection chunks x
    let starts := startedFiles ring x.ulFileCount x.ullFileSize.toNat chunks
    let count := min starts.length x.ulFileCount
    let oldest := starts.length - count
    (∀ first, first = oldest ∨ first = 0 ∧ starts.length ≤ 2 ^ 32 →
      let files := readCaptureFiles (BitVec.ofNat 32 first) count y.atFiles
      files.flatMap Prod.snd = (starts.drop oldest).flatten.flatten ∧
        files.map (fun f => f.1.ulIdx) = (List.range' oldest count).map (BitVec.ofNat 32) ∧
        ∀ f ∈ files, f.1.ullDataSize ≠ fileHeaderSizeInvalid ∧
          f.1.ullDataSize.toNat = f.2.length ∧
          fileHeaderSize + f.2.length ≤ x.ullFileSize.toNat) ∧
      (∀ i, (y.atFiles i).content.length ≤
        max x.ullFileSize.toNat (x.atFiles i).content.length) ∧
      (∀ i, count ≤ i → y.atFiles i = x.atFiles i) ∧
      (ring = false → oldest = 0) := by
  intro ring y starts count oldest
  have hfits : ∀ c ∈ chunks, c.length < 2 ^ 32 ∧
      fileHeaderSize + c.length ≤ x.ullFileSize.toNat := by
    intro c hc
    have hle := hchunks c hc
    have hlt := ulDMABufferSize.isLt
    omega
  have hlayout := capture_layout hn hfits (by omega) hopen hio
  have hsize : ∀ g ∈ starts, size g ≤ x.ullFileSize.toNat - fileHeaderSize :=
    size_le_of_started fun c hc => by
      have hle := hchunks c hc
      omega
  have hlt64 := x.ullFileSize.isLt
  refine ⟨?_, hlayout.length_le, hlayout.untouched, ?_⟩
  · -- read back from `first` on, each held file gives its own header and its own data
    intro first hfirst files
    unfold netanaMaxFiles at hmax
    have hfiles : files = (held starts.length x.ulFileCount).map fun j =>
        ((captureHeader ullReferenceTime lTimezoneCorrection).closed j (starts.getD j []),
          (starts.getD j []).flatten) := by
      apply hlayout.readback hn
      · intro g hg
        have hle := hsize g hg
        omega
      · show first ≤ oldest
        omega
      · show starts.length ≤ first + 2 ^ 32
        omega
    refine ⟨?_, ?_, ?_⟩
    · rw [hfiles, List.flatMap_map, ← map_getD_held, List.flatten_flatten, List.map_map]
      rfl
    · rw [hfiles, List.map_map]
      rfl
    · intro f hf
      rw [hfiles] at hf
      obtain ⟨j, hj, rfl⟩ := List.mem_map.mp hf
      have hmem : starts.getD j [] ∈ starts := by
        rw [List.getD_eq_getElem _ _ (mem_held.mp hj).1]
        exact List.getElem_mem _
      have hle := hsize _ hmem
      have hnat : (BitVec.ofNat 64 (size (starts.getD j []))).toNat =
          size (starts.getD j []) := by
        rw [BitVec.toNat_ofNat, Nat.mod_eq_of_lt (by omega)]
      refine ⟨?_, hnat, ?_⟩
      · -- the mark of an open file is `2 ^ 64 - 1`, which is no size of a group that fits
        intro hinvalid
        have hinvalidNat : size (starts.getD j []) = 2 ^ 64 - 1 := by
          rw [← hnat]
          exact congrArg BitVec.toNat hinvalid
        unfold fileHeaderSize at hle
        omega
      · show fileHeaderSize + size (starts.getD j []) ≤ _
        omega
  · intro hring
    have hle : starts.length ≤ x.ulFileCount := by
      show (startedFiles ring _ _ _).length ≤ _
      rw [hring]
      exact List.length_take_le _ _
    omega

def recordedFiles : FileCapture :=
  { fRingBuffer := false
    ulFileCount := 2
    ullFileSize := 36#64
    ulCurrentFile := 1
    fWriteToFile := false
    tFileHeader := captureHeader 7#64 0#32
    atFiles := fun _ => ⟨List.replicate 36 0xAA#8, 0, 0#64, 0#64⟩
    calls := 0
    ioFailed := false }

/-- Three chunks into two files with room for four bytes, in ring buffer mode. -/
theorem capture_files_decode_three :
    (captureToFiles (fun _ => 100) captureModeRingbuffer 5#64 0#32
      [[1#8, 2#8, 3#8], [4#8, 5#8], [6#8, 7#8, 8#8, 9#8]] recordedFiles).ioFailed = false ∧
    (readCaptureFiles 0#32 2 (captureToFiles (fun _ => 100) captureModeRingbuffer 5#64 0#32
      [[1#8, 2#8, 3#8], [4#8, 5#8], [6#8, 7#8, 8#8, 9#8]] recordedFiles).atFiles).flatMap
        Prod.snd = [4#8, 5#8, 6#8, 7#8, 8#8, 9#8] := by
  have hio : (captureToFiles (fun _ => 100) captureModeRingbuffer 5#64 0#32
      [[1#8, 2#8, 3#8], [4#8, 5#8], [6#8, 7#8, 8#8, 9#8]] recordedFiles).ioFailed = false := by
    decide +kernel
  have hstart : ∀ i < recordedFiles.ulFileCount, (recordedFiles.atFiles i).ullOffset = 0#64 →
      (recordedFiles.atFiles i).pos = 0 := by
    intro i _ _
    rfl
  have hroom : (4#32).toNat + fileHeaderSize ≤ recordedFiles.ullFileSize.toNat := by decide
  obtain ⟨hread, -⟩ := capture_files_decode (by decide) (by decide) hroom (by decide) hstart hio
  exact ⟨hio, (hread 0 (Or.inr ⟨rfl, by decide⟩)).1.trans (by decide +kernel)⟩

/-! Calls that take enough bytes complete. -/

theorem header_succeeds {x : FileCapture} {ullSize : BitVec 64}
    (hpos : (x.atFiles x.ulCurrentFile).ullOffset = 0#64 → (x.atFiles x.ulCurrentFile).pos = 0)
    (hbytes : ∀ k, fileHeaderSize ≤ io k) (hok : x.ioFailed = false) :
    (netanaWritefileheader io ullSize x).1.ioFailed = false := by
  have hseek (k : ℕ) : io k ≠ 0 := by
    have hk := hbytes k
    unfold fileHeaderSize at hk
    omega
  have hrewound : (rewindCurrent io x).ioFailed = false := by
    unfold rewindCurrent
    dsimp only
    split
    · show (x.ioFailed || decide (io x.calls = 0)) = false
      rw [hok, decide_eq_false (hseek _), Bool.or_false]
    · exact hok
  obtain ⟨k, hk⟩ := rewindCurrent_complete hpos hrewound
  rw [header_ioFailed, fwrite_completes_iff, FileHeader.length_bytes]
  refine ⟨hrewound, hbytes _, ?_⟩
  have hzero : ((prepareHeader io ullSize x).atFiles x.ulCurrentFile).pos = 0 := by
    rw [prepareHeader, hk]
    simp [FileCapture.setFile]
  rw [hzero]
  decide

theorem data_succeeds {x : FileCapture} {c : List (BitVec 8)} (hbytes : c.length ≤ io x.calls)
    (hpos : c.length ≤ offMax - (x.atFiles x.ulCurrentFile).pos) (hok : x.ioFailed = false) :
    (writeData io c x).ioFailed = false := by
  have hwrite := fwrite_completes_iff.mpr ⟨hok, hbytes, hpos⟩
  exact hwrite

theorem openNext_succeeds {x : FileCapture} {c : List (BitVec 8)}
    (hpos : (x.atFiles x.ulCurrentFile).ullOffset = 0#64 → (x.atFiles x.ulCurrentFile).pos = 0)
    (hbytes : ∀ k, S ≤ io k) (hS : fileHeaderSize + c.length ≤ S) (hoff : S ≤ offMax)
    (hok : x.ioFailed = false) : (openNextFile io c x).ioFailed = false := by
  have hheader : (netanaWritefileheader io fileHeaderSizeInvalid x).1.ioFailed = false :=
    header_succeeds hpos (fun k => (Nat.le_of_add_right_le hS).trans (hbytes k)) hok
  obtain ⟨k, w, hk⟩ := header_complete hpos hheader
  unfold openNextFile
  apply data_succeeds ((Nat.le_of_add_left_le hS).trans (hbytes _)) ?_ hheader
  rw [hk]
  show c.length ≤ offMax - ((x.commit _ _ _).atFiles x.ulCurrentFile).pos
  rw [FileCapture.commit_current]
  show c.length ≤ offMax - fileHeaderSize
  omega

/-- Where every call takes as many bytes as a file has, no call fails. -/
theorem Writing.record_succeeds {p : Packing (BitVec 8)} {x : FileCapture}
    {c : List (BitVec 8)} (hx : Writing ring h S n f₀ p x) (hn : 0 < n) (hc : c.length < 2 ^ 32)
    (hfit : fileHeaderSize + c.length ≤ S) (hbytes : ∀ k, S ≤ io k) (hoff : S ≤ offMax)
    (hok : x.ioFailed = false) : (recordChunk io x c).ioFailed = false := by
  have hpos := hx.pos
  have hfits := hx.fits
  by_cases hroom : size p.current + c.length ≤ S - fileHeaderSize
  · have hfull := mt (hx.full_iff hc).mp (not_not.mpr hroom)
    rw [recordChunk, if_pos hx.on, netanaWriteToFile, if_neg hfull]
    apply data_succeeds ((Nat.le_of_add_left_le hfit).trans (hbytes _)) ?_ hok
    rw [hpos]
    omega
  · have hfull := (hx.full_iff hc).mpr hroom
    have hclosed : (closeHeader io x).ioFailed = false :=
      header_succeeds (hx.rewind _ (hx.current_lt hn))
        (fun k => (Nat.le_of_add_right_le hfit).trans (hbytes k)) hok
    obtain ⟨hlayout, f, k, hk⟩ := hx.close hn hclosed
    have hcur : (closeHeader io x).ulCurrentFile = x.ulCurrentFile := by
      rw [hk]
      rfl
    rw [hx.record_full hfull hk]
    split
    · split
      · exact openNext_succeeds (hlayout.rewind 0 hn) hbytes hfit hoff hclosed
      · exact hclosed
    · rename_i hlast
      have hnext : (advanceFile (closeHeader io x)).ulCurrentFile < n := by
        show (closeHeader io x).ulCurrentFile + 1 < n
        rw [hcur]
        omega
      exact openNext_succeeds (hlayout.rewind _ hnext) hbytes hfit hoff hclosed

theorem Writing.run_succeeds {x : FileCapture} {cs : List (List (BitVec 8))}
    (hx : Writing ring h S n f₀ .start x) (hn : 0 < n)
    (hcs : ∀ c ∈ cs, c.length < 2 ^ 32 ∧ fileHeaderSize + c.length ≤ S)
    (hbytes : ∀ k, S ≤ io k) (hoff : S ≤ offMax) (hok : x.ioFailed = false) :
    (cs.foldl (recordChunk io) x).ioFailed = false := by
  induction cs using List.reverseRecOn with
  | nil => exact hok
  | append_singleton cs c ih =>
    have hinit : ∀ d ∈ cs, d.length < 2 ^ 32 ∧ fileHeaderSize + d.length ≤ S :=
      fun d hd => hcs d (List.mem_append_left _ hd)
    have hbefore := ih hinit
    obtain ⟨hc, hfit⟩ := hcs c (by simp)
    rw [List.foldl_append]
    rcases hx.run hn hinit hbefore with hwriting | hfull
    · exact hwriting.record_succeeds hn hc hfit hbytes hoff hbefore
    · have hcase : recordChunk io (cs.foldl (recordChunk io) x) c =
          cs.foldl (recordChunk io) x := if_neg (by rw [hfull.off]; decide)
      show (recordChunk io (cs.foldl (recordChunk io) x) c).ioFailed = false
      rw [hcase]
      exact hbefore

/-- Where every call takes as many bytes as a file has, a whole capture completes. -/
theorem capture_succeeds {x : FileCapture} {ulCaptureMode : BitVec 32}
    {ullReferenceTime : BitVec 64} {lTimezoneCorrection : BitVec 32}
    {chunks : List (List (BitVec 8))} (hn : 0 < x.ulFileCount)
    (hchunks : ∀ c ∈ chunks, c.length < 2 ^ 32 ∧ fileHeaderSize + c.length ≤ x.ullFileSize.toNat)
    (hS : fileHeaderSize ≤ x.ullFileSize.toNat)
    (hopen : ∀ i < x.ulFileCount, (x.atFiles i).ullOffset = 0#64 → (x.atFiles i).pos = 0)
    (hbytes : ∀ k, x.ullFileSize.toNat ≤ io k) (hoff : x.ullFileSize.toNat ≤ offMax)
    (hok : x.ioFailed = false) :
    (captureToFiles io ulCaptureMode ullReferenceTime lTimezoneCorrection chunks x).ioFailed =
      false := by
  have hheader (k : ℕ) : fileHeaderSize ≤ io k := hS.trans (hbytes k)
  let y : FileCapture := firstFile ullReferenceTime lTimezoneCorrection
    { x with fRingBuffer := ToggleHandshake.maskTest ulCaptureMode captureModeRingbuffer }
  have hstartOk : (netanaStartCapture io ulCaptureMode ullReferenceTime lTimezoneCorrection
      x).ioFailed = false := by
    have hcase : netanaStartCapture io ulCaptureMode ullReferenceTime lTimezoneCorrection x =
        (netanaWritefileheader io fileHeaderSizeInvalid y).1 := if_pos hn
    rw [hcase]
    exact header_succeeds (hopen 0 hn) hheader hok
  have hstart := start_writing hn hS hopen hstartOk
  have hend := hstart.run_succeeds hn hchunks hbytes hoff hstartOk
  unfold captureToFiles netanaStopCapture
  split
  · split
    · rename_i hon
      rcases hstart.run hn hchunks hend with hwriting | hfull
      · exact header_succeeds (hwriting.rewind _ (hwriting.current_lt hn)) hheader hend
      · rw [hfull.off] at hon
        cases hon
    · exact hend
  · exact hend

/-! After 2^32 starts of a file, `ulIdx` begins again at zero. -/

/-- Two files with room for one byte. -/
def singleByteFiles : FileCapture := { recordedFiles with ullFileSize := 33#64 }

theorem pack_replicate (k : ℕ) (a b : BitVec 8) :
    (pack 1 (List.replicate (k + 1) [a] ++ [[b]])).groups =
      List.replicate (k + 1) [[a]] ++ [[[b]]] := by
  have hsame : ∀ k, pack 1 (List.replicate (k + 1) [a]) = ⟨List.replicate k [[a]], [[a]]⟩ := by
    intro k
    induction k with
    | zero => rfl
    | succ k ih =>
      rw [List.replicate_succ', pack_append, ih, List.replicate_succ']
      rfl
  rw [pack_append, hsame, List.replicate_succ']
  rfl

/-- In ring buffer mode `k + 1` chunks of one byte, and then another one, go into these files. -/
def singleByteCapture (k : ℕ) (a b : BitVec 8) : FileCapture :=
  captureToFiles (fun _ => 33) captureModeRingbuffer 0#64 0#32
    (List.replicate (k + 1) [a] ++ [[b]]) singleByteFiles

/-- The last two bytes are read back from the two files. -/
theorem single_byte_files {k : ℕ} (hk : k % 2 = 1) (a b : BitVec 8) :
    (singleByteCapture k a b).ioFailed = false ∧
    readCaptureFile ((singleByteCapture k a b).atFiles 0).content =
        some ((captureHeader 0#64 0#32).closed (k + 1) [[b]], [b]) ∧
    readCaptureFile ((singleByteCapture k a b).atFiles 1).content =
        some ((captureHeader 0#64 0#32).closed k [[a]], [a]) := by
  have hchunks : ∀ c ∈ List.replicate (k + 1) [a] ++ [[b]], c.length < 2 ^ 32 ∧
      fileHeaderSize + c.length ≤ singleByteFiles.ullFileSize.toNat := by
    intro c hc
    have hlen : c.length = 1 := by
      rcases List.mem_append.mp hc with hc | hc
      · rw [List.eq_of_mem_replicate hc, List.length_singleton]
      · rw [List.mem_singleton.mp hc, List.length_singleton]
    rw [hlen]
    decide
  have hopen : ∀ i < singleByteFiles.ulFileCount,
      (singleByteFiles.atFiles i).ullOffset = 0#64 → (singleByteFiles.atFiles i).pos = 0 := by
    intro i _ _
    rfl
  have hio : (singleByteCapture k a b).ioFailed = false :=
    capture_succeeds (by decide) hchunks (by decide) hopen (fun _ => by decide) (by decide) rfl
  have hlayout := capture_layout (by decide) hchunks (by decide) hopen hio
  have hstarted : startedFiles (ToggleHandshake.maskTest captureModeRingbuffer
      captureModeRingbuffer) singleByteFiles.ulFileCount singleByteFiles.ullFileSize.toNat
      (List.replicate (k + 1) [a] ++ [[b]]) = List.replicate (k + 1) [[a]] ++ [[[b]]] :=
    pack_replicate k a b
  have hlen : (List.replicate (k + 1) [[a]] ++ [[[b]]]).length = k + 2 := by
    rw [List.length_append, List.length_replicate, List.length_singleton]
  have hsize : ∀ g ∈ List.replicate (k + 1) [[a]] ++ [[[b]]], size g < 2 ^ 64 := by
    intro g hg
    rcases List.mem_append.mp hg with hg | hg
    · rw [List.eq_of_mem_replicate hg, size_singleton, List.length_singleton]
      decide
    · rw [List.mem_singleton.mp hg, size_singleton, List.length_singleton]
      decide
  have hlast : (List.replicate (k + 1) [[a]] ++ [[[b]]]).getD (k + 1) [] = [[b]] := by
    rw [List.getD_append_right _ _ _ _ (by simp), List.length_replicate, Nat.sub_self]
    rfl
  have hprev : (List.replicate (k + 1) [[a]] ++ [[[b]]]).getD k [] = [[a]] := by
    rw [List.getD_append _ _ _ _ (by simp), List.getD_replicate _ (Nat.lt_succ_self k)]
  have hcount : singleByteFiles.ulFileCount = 2 := rfl
  rw [hstarted, hcount] at hlayout
  refine ⟨hio, ?_, ?_⟩
  · have hread := hlayout.read (j := k + 1) hsize (mem_held.mpr (by omega))
    have hfile : (k + 1) % 2 = 0 := by omega
    rw [hlast, hfile] at hread
    exact hread
  · have hread := hlayout.read (j := k) hsize (mem_held.mpr (by omega))
    rw [hprev, hk] at hread
    exact hread

/-- The oldest start of which the file still holds what it was given, and the one after it. -/
theorem held_singleByte (k : ℕ) (a b : BitVec 8) :
    ((startedFiles true 2 33 (List.replicate (k + 1) [a] ++ [[b]])).drop k).flatten.flatten =
      [a, b] := by
  have hstarted : startedFiles true 2 33 (List.replicate (k + 1) [a] ++ [[b]]) =
      List.replicate k [[a]] ++ [[[a]], [[b]]] := by
    show (pack 1 _).groups = _
    rw [pack_replicate, List.replicate_succ', List.append_assoc]
    rfl
  rw [hstarted, List.drop_left' List.length_replicate]
  rfl

/-- With `ulIdx` back at zero, the order of `ulIdx` is not the order of the files. -/
theorem capture_files_out_of_order :
    (singleByteCapture (2 ^ 32 - 1) 0#8 1#8).ioFailed = false ∧
    (readCaptureFiles 0#32 2 (singleByteCapture (2 ^ 32 - 1) 0#8 1#8).atFiles).flatMap Prod.snd =
      [1#8, 0#8] ∧
    ((startedFiles true 2 33 (List.replicate (2 ^ 32 - 1 + 1) [0#8] ++ [[1#8]])).drop
      (2 ^ 32 - 1)).flatten.flatten = [0#8, 1#8] ∧
    (readCaptureFiles 0#32 2 (singleByteCapture (2 ^ 32 - 1) 0#8 1#8).atFiles).map
      (fun f => f.1.ulIdx) = [0#32, 0xFFFFFFFF#32] := by
  obtain ⟨hio, hfirst, hsecond⟩ := single_byte_files (k := 2 ^ 32 - 1) (by decide) 0#8 1#8
  have hread : readCaptureFiles 0#32 2 (singleByteCapture (2 ^ 32 - 1) 0#8 1#8).atFiles =
      [((captureHeader 0#64 0#32).closed (2 ^ 32 - 1 + 1) [[1#8]], [1#8]),
        ((captureHeader 0#64 0#32).closed (2 ^ 32 - 1) [[0#8]], [0#8])] := by
    have hrange : List.range 2 = [0, 1] := rfl
    unfold readCaptureFiles
    rw [hrange]
    simp only [List.filterMap_cons, List.filterMap_nil, hfirst, hsecond]
    apply List.mergeSort_of_pairwise
    decide
  rw [hread]
  exact ⟨hio, rfl, held_singleByte _ _ _, rfl⟩

end NetanaDriver
