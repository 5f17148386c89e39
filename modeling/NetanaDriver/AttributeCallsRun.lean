import NetanaDriver.AttributeCalls
import NetanaDriver.DpmFilters

/-! The calls of the library through the attribute files do what the same calls on the toolkit
do. -/
namespace NetanaDriver
open FormattedText

theorem scanf_error (x : BitVec 32) :
    scanf (format "%X") (printf (format "0x%X\n") [.w32 x]) = [.w32 x] := by
  have hscan : format "%X" = [.conv .X] := by decide
  have hprint : format "0x%X\n" = [.lit '0', .lit 'x', .conv .X, .lit '\n'] := by decide
  obtain ⟨c, cs, hcs, hdigit⟩ : ∃ c cs, printNat 16 x.toNat = c :: cs ∧ isDigit 16 c = true := by
    obtain ⟨c, cs, hcs⟩ := List.exists_cons_of_ne_nil (printNat_ne_nil 16 x.toNat)
    have hmem : c ∈ printNat 16 x.toNat := hcs ▸ List.mem_cons_self
    exact ⟨c, cs, hcs, isDigit_of_mem_printNat (by decide) (by decide) hmem⟩
  have htext : printf (format "0x%X\n") [.w32 x] =
      '0' :: 'x' :: (printNat 16 x.toNat ++ ['\n']) := by
    rw [hprint]
    rfl
  have hskip : skipPrefix ('0' :: 'x' :: (printNat 16 x.toNat ++ ['\n'])) =
      printNat 16 x.toNat ++ ['\n'] := by
    rw [hcs, List.cons_append, skipPrefix, if_pos hdigit]
  have hends : Ends ['\n'] := by
    intro c hc
    cases hc
    decide
  have hread := readNat_printNat (b := 16) (by decide) (by decide) x.toNat hends
  have hspace : ('0' :: 'x' :: (printNat 16 x.toNat ++ ['\n'])).dropWhile isSpace =
      '0' :: 'x' :: (printNat 16 x.toNat ++ ['\n']) := by
    apply List.dropWhile_cons_of_neg
    decide
  rw [htext, hscan, scanf, hspace, Conversion.read, hskip, hread]
  simp [scanf]

theorem scanf_one (x : BitVec 32) :
    scanf (format "%d") (printf (format "%d") [.w32 x]) = [.w32 x] := by
  apply scanf_text
  · decide +kernel
  · exact ⟨trivial, rfl⟩

theorem scanf_one_line (x : BitVec 32) :
    scanf (format "%d") (printf (format "%d\n") [.w32 x]) = [.w32 x] := by
  apply scanf_line
  · decide +kernel
  · exact ⟨trivial, rfl⟩

theorem scanf_two (x y : BitVec 32) :
    scanf (format "%d %d") (printf (format "%d %d") [.w32 x, .w32 y]) = [.w32 x, .w32 y] := by
  apply scanf_text
  · decide +kernel
  · exact ⟨trivial, trivial, rfl⟩

theorem scanf_two_line (x y : BitVec 32) :
    scanf (format "%d %d") (printf (format "%d %d\n") [.w32 x, .w32 y]) = [.w32 x, .w32 y] := by
  apply scanf_line
  · decide +kernel
  · exact ⟨trivial, trivial, rfl⟩

section BinaryFile

variable {σ : Type*} {store : ByteArea → ℕ → σ → σ × Bool} {load : ℕ → σ → σ × Option ByteArea}
  {fileSize n : ℕ} {buf : ByteArea} {s : σ}

theorem fwritePieces_succ (fuel n off : ℕ) (s : σ) :
    fwritePieces store fileSize buf (fuel + 1) n off s =
      if pieceSize fileSize off n = 0 then (s, off)
      else if (store (fun i => buf (off + i)) (pieceSize fileSize off n) s).2 = true then
        fwritePieces store fileSize buf fuel (n - pieceSize fileSize off n)
          (off + pieceSize fileSize off n)
          (store (fun i => buf (off + i)) (pieceSize fileSize off n) s).1
      else ((store (fun i => buf (off + i)) (pieceSize fileSize off n) s).1, off) := rfl

/-- What every piece keeps is kept. -/
theorem fwritePieces_keeps {P : σ → Prop} (hstore : ∀ b k s, P s → P (store b k s).1)
    (fuel n off : ℕ) (hs : P s) : P (fwritePieces store fileSize buf fuel n off s).1 := by
  induction fuel generalizing n off s with
  | zero => exact hs
  | succ fuel ih =>
    rw [fwritePieces_succ]
    split_ifs
    · exact hs
    · exact ih _ _ (hstore _ _ _ hs)
    · exact hstore _ _ _ hs

/-- Nothing is written behind the end of the file. -/
theorem fwritePieces_le (s : σ) (hsize : fileSize ≠ 0) (fuel n : ℕ) {off : ℕ}
    (hoff : off ≤ fileSize) :
    (fwritePieces store fileSize buf fuel n off s).2 ≤ fileSize := by
  induction fuel generalizing n off s with
  | zero => exact hoff
  | succ fuel ih =>
    have hpiece : off + pieceSize fileSize off n ≤ fileSize := by
      have hmin : pieceSize fileSize off n ≤ fileSize - off := by
        unfold pieceSize
        rw [if_neg hsize]
        exact min_le_right _ _
      omega
    rw [fwritePieces_succ]
    split_ifs
    · exact hoff
    · exact ih _ _ hpiece
    · exact hoff

theorem fwriteBin_rejected (hreject : ∀ b k, 0 < k → (store b k s).2 = false) :
    (fwriteBin store fileSize buf n s).2 = 0 := by
  unfold fwriteBin
  cases n with
  | zero => rfl
  | succ n =>
    rw [fwritePieces_succ]
    split_ifs with hzero htaken
    · rfl
    · rw [hreject _ _ (Nat.pos_of_ne_zero hzero)] at htaken
      exact absurd htaken Bool.false_ne_true
    · rfl

/-- What fits a page and the file is written in one piece. -/
theorem pieceSize_single (hpage : n ≤ pageSize) (hfile : n ≤ fileSize) :
    pieceSize fileSize 0 n = n := by
  unfold pieceSize
  rw [min_eq_left hpage]
  split_ifs
  · exact min_self n
  · exact min_eq_left (by omega)

theorem fwriteBin_single (store : ByteArea → ℕ → σ → σ × Bool) (buf : ByteArea) (s : σ)
    (hpos : 0 < n) (hpage : n ≤ pageSize) (hfile : n ≤ fileSize) :
    fwriteBin store fileSize buf n s =
      ((store buf n s).1, if (store buf n s).2 then n else 0) := by
  obtain ⟨k, rfl⟩ : ∃ k, n = k + 1 := ⟨n - 1, by omega⟩
  have hpiece := pieceSize_single hpage hfile
  have hbuf : (fun i => buf (0 + i)) = buf := by
    funext i
    rw [Nat.zero_add]
  have hend (fuel off : ℕ) (s : σ) : fwritePieces store fileSize buf fuel 0 off s = (s, off) := by
    cases fuel with
    | zero => rfl
    | succ fuel =>
      rw [fwritePieces_succ, if_pos]
      simp [pieceSize]
  rw [fwriteBin, fwritePieces_succ, hpiece, if_neg (Nat.succ_ne_zero k), hbuf, Nat.sub_self,
    Nat.zero_add, hend]
  cases (store buf (k + 1) s).2 with
  | false => rfl
  | true => rfl

theorem freadBin_single (load : ℕ → σ → σ × Option ByteArea) (buf : ByteArea) (s : σ) (hpos : 0 < n)
    (hpage : n ≤ pageSize) (hfile : n ≤ fileSize) :
    freadBin load fileSize n buf s =
      match load n s with
      | (s, none) => (s, 0, buf)
      | (s, some b) => (s, n, fun i => if i < n then b i else buf i) := by
  obtain ⟨k, rfl⟩ : ∃ k, n = k + 1 := ⟨n - 1, by omega⟩
  have hpiece := pieceSize_single hpage hfile
  rw [freadBin, freadPieces]
  simp only [hpiece, if_neg (Nat.succ_ne_zero k), Nat.sub_self, Nat.zero_add, Nat.zero_le,
    true_and, Nat.sub_zero]
  obtain ⟨t, r⟩ := load (k + 1) s
  cases r with
  | none => rfl
  | some b =>
    have hend (fuel off : ℕ) (buf : ByteArea) (s : σ) :
        freadPieces load fileSize fuel 0 off buf s = (s, off, buf) := by
      cases fuel with
      | zero => rfl
      | succ fuel => simp [freadPieces, pieceSize]
    exact hend _ _ _ _

end BinaryFile

theorem netanaInvalidHandle_ne : netanaInvalidHandle ≠ netanaNoError := by decide

theorem netanaInvalidBuffersize_ne : netanaInvalidBuffersize ≠ netanaNoError := by decide

theorem netanaCaptureActive_ne : netanaCaptureActive ≠ netanaNoError := by decide

theorem netanaIoctlFailed_ne : netanaIoctlFailed ≠ netanaNoError := by decide

/-- A filter with its pointers is in order if it is not too long. -/
theorem filterError_none_iff {ulFilterSize : BitVec 32} {f : Option NetanaFilter}
    (hptr : lacksPointer f = false) :
    filterError ulFilterSize f = none ↔ (filterSize f).toNat ≤ ulFilterSize.toNat := by
  cases f with
  | none => exact iff_of_true rfl (Nat.zero_le _)
  | some f =>
    by_cases hpos : f.ulFilterSize > 0#32
    · have hnull : ¬ (f.pbMask.isNone ∨ f.pbValue.isNone) := by
        simpa [lacksPointer, hpos, Option.isSome_iff_ne_none] using hptr
      rw [filterError, if_pos hpos, if_neg hnull]
      by_cases hlong : f.ulFilterSize > ulFilterSize
      · rw [if_pos hlong]
        rw [gt_iff_lt, BitVec.lt_def] at hlong
        exact iff_of_false (Option.some_ne_none _) (not_le.mpr hlong)
      · rw [if_neg hlong]
        rw [gt_iff_lt, BitVec.lt_def] at hlong
        exact iff_of_true rfl (not_lt.mp hlong)
    · rw [filterError, if_neg hpos]
      have hzero : f.ulFilterSize.toNat = 0 := toNat_of_not_pos hpos
      exact iff_of_true rfl (hzero.trans_le (Nat.zero_le _))

/-- The toolkit sets filters that are in order only. -/
theorem netanaSetFilter_checked (ulPort : BitVec 32) (fA fB : Option NetanaFilter)
    (ulRelationShip : BitVec 32) (x : DeviceSession)
    (h : ¬ (filterError x.ulFilterSize fA = none ∧ filterError x.ulFilterSize fB = none)) :
    ∃ lRet, lRet ≠ netanaNoError ∧
      x.netanaSetFilter ulPort fA fB ulRelationShip = (x, lRet) := by
  unfold DeviceSession.netanaSetFilter
  by_cases hrun : x.isCaptureRunning = true
  · rw [if_pos hrun]
    exact ⟨_, netanaCaptureActive_ne, rfl⟩
  · rw [if_neg hrun]
    cases hA : filterError x.ulFilterSize fA with
    | some lRet => exact ⟨lRet, filterError_ne hA, rfl⟩
    | none =>
      cases hB : filterError x.ulFilterSize fB with
      | some lRet => exact ⟨lRet, filterError_ne hB, rfl⟩
      | none => exact absurd ⟨hA, hB⟩ h

theorem osMemcpy_zero (pbDst pbSrc : ByteArea) : osMemcpy pbDst pbSrc 0#32 = pbDst := by
  funext i
  rw [osMemcpy, if_neg (by simp)]

/-- What the buffers hold of a filter after it has been written. -/
def Holds (tmpFilter : FilterAttr → ByteArea) (mask val : FilterAttr) (f : Option NetanaFilter) :
    Prop :=
  ∀ n pbMask pbValue, f = some ⟨n, some pbMask, some pbValue⟩ → ∀ i < n.toNat,
    tmpFilter mask i = pbMask i ∧ tmpFilter val i = pbValue i

/-- The driver passes on the buffers with the length of the filter. -/
def sentFilter (tmpFilter : FilterAttr → ByteArea) (mask val : FilterAttr)
    (f : Option NetanaFilter) : Option NetanaFilter :=
  some ⟨filterSize f, some (tmpFilter mask), some (tmpFilter val)⟩

section SentFilter

variable {tmpFilter : FilterAttr → ByteArea} {mask val : FilterAttr} {f : Option NetanaFilter}
  {ulFilterSize : BitVec 32}

theorem load_sent (hptr : lacksPointer f = false) (hholds : Holds tmpFilter mask val f)
    (m : FilterData) :
    m.load ulFilterSize (sentFilter tmpFilter mask val f) = m.load ulFilterSize f := by
  cases f with
  | none => simp only [sentFilter, filterSize, FilterData.load, Option.elim_some, osMemcpy_zero]
  | some f =>
    obtain ⟨n, pbMask, pbValue⟩ := f
    by_cases hpos : n > 0#32
    · have hboth : ∃ pm pv, pbMask = some pm ∧ pbValue = some pv := by
        cases pbMask with
        | none => simp [lacksPointer, hpos] at hptr
        | some pm =>
          cases pbValue with
          | none => simp [lacksPointer, hpos] at hptr
          | some pv => exact ⟨pm, pv, rfl, rfl⟩
      obtain ⟨pm, pv, rfl, rfl⟩ := hboth
      have hbytes := hholds n pm pv rfl
      simp only [sentFilter, filterSize, FilterData.load, Option.elim_some]
      rw [osMemcpy_congr _ fun i hi => (hbytes i hi).1,
        osMemcpy_congr _ fun i hi => (hbytes i hi).2]
    · have hzero : n = 0#32 := BitVec.eq_of_toNat_eq (toNat_of_not_pos hpos)
      subst hzero
      simp only [sentFilter, filterSize, FilterData.load, Option.elim_some, osMemcpy_zero]
      cases pbMask <;> cases pbValue <;> simp

theorem lacksPointer_sent : lacksPointer (sentFilter tmpFilter mask val f) = false := by
  simp [lacksPointer, sentFilter]

end SentFilter

/-- The toolkit does with the buffers what it would do with the filters of the caller. -/
theorem netanaSetFilter_sent {tmpFilter : FilterAttr → ByteArea} {fA fB : Option NetanaFilter}
    {x : DeviceSession} (hptrA : lacksPointer fA = false) (hptrB : lacksPointer fB = false)
    (hA : (filterSize fA).toNat ≤ x.ulFilterSize.toNat)
    (hB : (filterSize fB).toNat ≤ x.ulFilterSize.toNat)
    (hholdsA : Holds tmpFilter .maska .vala fA) (hholdsB : Holds tmpFilter .maskb .valb fB)
    (ulPort ulRelationShip : BitVec 32) :
    x.netanaSetFilter ulPort (sentFilter tmpFilter .maska .vala fA)
        (sentFilter tmpFilter .maskb .valb fB) ulRelationShip =
      x.netanaSetFilter ulPort fA fB ulRelationShip := by
  have hA' := (filterError_none_iff hptrA).mpr hA
  have hB' := (filterError_none_iff hptrB).mpr hB
  have hsentA : filterError x.ulFilterSize (sentFilter tmpFilter .maska .vala fA) = none :=
    (filterError_none_iff lacksPointer_sent).mpr hA
  have hsentB : filterError x.ulFilterSize (sentFilter tmpFilter .maskb .valb fB) = none :=
    (filterError_none_iff lacksPointer_sent).mpr hB
  unfold DeviceSession.netanaSetFilter
  simp only [hA', hB', hsentA, hsentB, load_sent hptrA hholdsA, load_sent hptrB hholdsB]

namespace AttrDevice

variable {t : CallingThread} {s : AttrDevice}

theorem getError_eq : s.getError t = getErr t.pid s.actTaskList := by
  rw [getError, netanaGetLastError, scanf_error]

/-- The error of a refused access comes back to the thread that made it. -/
theorem getError_fail (hmem : t.fAllocated = true) {lerror : BitVec 32}
    (hne : lerror ≠ netanaNoError) : (s.fail t lerror).getError t = lerror := by
  rw [getError_eq]
  change getErr t.pid (storeErr t.fAllocated t.pid lerror s.actTaskList) = lerror
  have hne' : ¬ lerror = 0#32 := hne
  rw [hmem, getErr_storeErr, if_neg hne', Function.update_self]

/-- Only the buffers and the errors have changed. -/
def Beside (s u : AttrDevice) : Prop := u.device = s.device ∧ u.nodes = s.nodes

theorem Beside.trans {u v : AttrDevice} (h : s.Beside u) (h' : u.Beside v) : s.Beside v :=
  ⟨h'.1.trans h.1, h'.2.trans h.2⟩

/-- The files of the filters are as long as the filters, and not longer than a page. -/
structure Sized (s : AttrDevice) : Prop where
  file : s.nodes.filterFileSize = s.device.session.ulFilterSize.toNat
  page : s.device.session.ulFilterSize.toNat ≤ pageSize

theorem Sized.beside {u : AttrDevice} (hs : s.Sized) (h : s.Beside u) : u.Sized := by
  refine ⟨?_, ?_⟩
  · rw [h.2, h.1]
    exact hs.file
  · rw [h.1]
    exact hs.page

theorem storeFilter_beside (attr : FilterAttr) (buf : ByteArea) (count : ℕ) :
    s.Beside (s.storeFilter t attr buf count).1 := by
  unfold storeFilter
  split_ifs <;> exact ⟨rfl, rfl⟩

theorem fwriteBin_beside (attr : FilterAttr) (fileSize : ℕ) (buf : ByteArea) (n : ℕ) :
    s.Beside (fwriteBin (storeFilter t attr) fileSize buf n s).1 := by
  apply fwritePieces_keeps (P := fun u => s.Beside u)
  · exact fun b k u hu => hu.trans (storeFilter_beside attr b k)
  · exact ⟨rfl, rfl⟩

theorem storeFilter_taken (t : CallingThread) (attr : FilterAttr) (buf : ByteArea) {count : ℕ}
    (hopen : s.device.session.hdevice = true) (hpos : 0 < count)
    (hle : count ≤ s.device.session.ulFilterSize.toNat) :
    ∃ pb, (∀ i < count, pb i = buf i) ∧ s.storeFilter t attr buf count =
      ({ s with tmpFilter := Function.update s.tmpFilter attr pb }, true) := by
  have hclosed : ¬ s.device.session.hdevice = false := by simp [hopen]
  have hsize : ¬ (count = 0 ∨ count > s.device.session.ulFilterSize.toNat) := by omega
  rw [storeFilter, if_neg hclosed, if_neg hsize]
  refine ⟨_, ?_, rfl⟩
  intro i hi
  have hlt : count < 2 ^ 32 := lt_of_le_of_lt hle s.device.session.ulFilterSize.isLt
  rw [osMemcpy, BitVec.toNat_ofNat, Nat.mod_eq_of_lt hlt, if_pos hi]

/-- The write of a mask or a value that fits is complete. -/
theorem writeBin_taken (t : CallingThread) (attr : FilterAttr) (buf : ByteArea) {n : ℕ}
    (hs : s.Sized) (hopen : s.device.session.hdevice = true) (hpos : 0 < n)
    (hle : n ≤ s.device.session.ulFilterSize.toNat) :
    ∃ pb, (∀ i < n, pb i = buf i) ∧
      fwriteBin (storeFilter t attr) s.nodes.filterFileSize buf n s =
        ({ s with tmpFilter := Function.update s.tmpFilter attr pb }, n) := by
  obtain ⟨pb, hpb, hstore⟩ := storeFilter_taken t attr buf hopen hpos hle
  refine ⟨pb, hpb, ?_⟩
  rw [fwriteBin_single _ _ _ hpos (hle.trans hs.page) (hs.file ▸ hle), hstore]
  rfl

/-- Any other write is not, and the library finds an error. -/
theorem writeBin_short (attr : FilterAttr) (buf : ByteArea) {ulSize : BitVec 32} (hs : s.Sized)
    (hmem : t.fAllocated = true) (hpos : 0 < ulSize.toNat)
    (hnot : ¬ (s.device.session.hdevice = true ∧
      ulSize.toNat ≤ s.device.session.ulFilterSize.toNat)) :
    let r := fwriteBin (storeFilter t attr) s.nodes.filterFileSize buf ulSize.toNat s
    r.2 ≠ ulSize.toNat ∧ r.1.checkSize t ulSize ≠ netanaNoError := by
  intro r
  have hnodes : r.1.nodes = s.nodes := (fwriteBin_beside attr _ buf _).2
  by_cases hle : ulSize.toNat ≤ s.device.session.ulFilterSize.toNat
  · -- there is no handle
    have hclosed : s.device.session.hdevice = false := by
      apply Bool.eq_false_iff.mpr
      exact fun hopen => hnot ⟨hopen, hle⟩
    have hr : r = (s.fail t netanaInvalidHandle, 0) := by
      have hsingle := fwriteBin_single (storeFilter t attr) buf s hpos
        (hle.trans hs.page) (hs.file ▸ hle)
      refine hsingle.trans ?_
      rw [storeFilter, if_pos hclosed]
      rfl
    rw [hr]
    refine ⟨hpos.ne, ?_⟩
    have hfits : ¬ ulSize.toNat > s.nodes.filterFileSize := by
      rw [hs.file]
      omega
    change (if ulSize.toNat > s.nodes.filterFileSize then netanaInvalidBuffersize
      else (s.fail t netanaInvalidHandle).getError t) ≠ netanaNoError
    rw [if_neg hfits, getError_fail hmem netanaInvalidHandle_ne]
    exact netanaInvalidHandle_ne
  · have hlong : ulSize.toNat > s.nodes.filterFileSize := by
      rw [hs.file]
      omega
    constructor
    · by_cases hzero : s.nodes.filterFileSize = 0
      · have hnone : s.device.session.ulFilterSize.toNat = 0 := hs.file.symm.trans hzero
        have hreject : ∀ b k, 0 < k → (storeFilter t attr b k s).2 = false := by
          intro b k hk
          have hsize : k = 0 ∨ k > s.device.session.ulFilterSize.toNat := Or.inr (by omega)
          unfold storeFilter
          split_ifs <;> rfl
        exact (fwriteBin_rejected hreject).trans_ne hpos.ne
      · have hle : r.2 ≤ s.nodes.filterFileSize :=
          fwritePieces_le s hzero ulSize.toNat ulSize.toNat (Nat.zero_le _)
        exact (lt_of_le_of_lt hle hlong).ne
    · rw [checkSize, hnodes, if_pos hlong]
      exact netanaInvalidBuffersize_ne

/-- The device takes what is to be written of a filter. -/
def Takes (s : AttrDevice) (f : Option NetanaFilter) : Prop :=
  filterSize f > 0#32 → s.device.session.hdevice = true ∧
    (filterSize f).toNat ≤ s.device.session.ulFilterSize.toNat

/-- A filter is in the buffers, or the call has ended with an error. -/
theorem writeFilter_spec {ulPort : BitVec 32} (mask val : FilterAttr) {f : Option NetanaFilter}
    (hs : s.Sized) (hmem : t.fAllocated = true)
    (hnode : hasNode s.nodes.filterNodes ulPort = true) (hne : mask ≠ val)
    (hptr : lacksPointer f = false) :
    ∃ u o, s.writeFilter t ulPort mask val f = (u, o) ∧ s.Beside u ∧
      ((∃ lRet, o = some lRet ∧ lRet ≠ netanaNoError ∧ ¬ s.Takes f) ∨
        o = none ∧ s.Takes f ∧ Holds u.tmpFilter mask val f ∧
          ∀ a, a ≠ mask → a ≠ val → u.tmpFilter a = s.tmpFilter a) := by
  have hempty (h : ¬ filterSize f > 0#32)
      (hnothing : s.writeFilter t ulPort mask val f = (s, none)) :
      ∃ u o, s.writeFilter t ulPort mask val f = (u, o) ∧ s.Beside u ∧
      ((∃ lRet, o = some lRet ∧ lRet ≠ netanaNoError ∧ ¬ s.Takes f) ∨
        o = none ∧ s.Takes f ∧ Holds u.tmpFilter mask val f ∧
          ∀ a, a ≠ mask → a ≠ val → u.tmpFilter a = s.tmpFilter a) := by
    refine ⟨s, none, hnothing, ⟨rfl, rfl⟩, Or.inr ⟨rfl, fun hpos => absurd hpos h, ?_, ?_⟩⟩
    · rintro n pbMask pbValue rfl i hi
      have hzero : n.toNat = 0 := toNat_of_not_pos h
      omega
    · exact fun _ _ _ => rfl
  match f, hptr, hempty with
  | none, _, hempty => exact hempty (by simp [filterSize]) rfl
  | some ⟨n, none, pbValue⟩, hptr, hempty =>
    have hpos : ¬ n > 0#32 := by
      intro hpos
      simp [lacksPointer, hpos] at hptr
    exact hempty hpos rfl
  | some ⟨n, some pbMask, none⟩, hptr, hempty =>
    have hpos : ¬ n > 0#32 := by
      intro hpos
      simp [lacksPointer, hpos] at hptr
    exact hempty hpos rfl
  | some ⟨n, some pbMask, some pbValue⟩, hptr, hempty =>
    by_cases hpos : n > 0#32
    swap
    · exact hempty hpos (if_neg hpos)
    have hlt : 0 < n.toNat := BitVec.lt_def.mp hpos
    have hthere : ¬ hasNode s.nodes.filterNodes ulPort = false := by simp [hnode]
    by_cases htakes : s.device.session.hdevice = true ∧
        n.toNat ≤ s.device.session.ulFilterSize.toNat
    · -- the mask and then the value are taken
      obtain ⟨pm, hpm, hmask⟩ :=
        writeBin_taken t mask pbMask hs htakes.1 hlt htakes.2
      let u : AttrDevice := { s with tmpFilter := Function.update s.tmpFilter mask pm }
      have hu : u.Sized := hs.beside ⟨rfl, rfl⟩
      obtain ⟨pv, hpv, hvalue⟩ :=
        writeBin_taken t val pbValue hu htakes.1 hlt htakes.2
      let v : AttrDevice := { u with tmpFilter := Function.update u.tmpFilter val pv }
      refine ⟨v, none, ?_, ⟨rfl, rfl⟩, Or.inr ⟨rfl, fun _ => htakes, ?_, ?_⟩⟩
      · simp only [writeFilter, if_pos hpos, if_neg hthere, hmask]
        simp only [ne_eq, not_true, if_false]
        have hvalue' : fwriteBin (storeFilter t val)
            (AttrDevice.nodes u).filterFileSize pbValue n.toNat u = (v, n.toNat) := hvalue
        simp only [u] at hvalue'
        rw [hvalue']
        simp
      · rintro n' pbMask' pbValue' heq i hi
        obtain ⟨rfl, rfl, rfl⟩ : n = n' ∧ pbMask = pbMask' ∧ pbValue = pbValue' := by
          simpa using heq
        refine ⟨?_, ?_⟩
        · change Function.update (Function.update s.tmpFilter mask pm) val pv mask i = pbMask i
          rw [Function.update_of_ne hne, Function.update_self]
          exact hpm i hi
        · change Function.update (Function.update s.tmpFilter mask pm) val pv val i = pbValue i
          rw [Function.update_self]
          exact hpv i hi
      · intro a ham hav
        change Function.update (Function.update s.tmpFilter mask pm) val pv a = s.tmpFilter a
        rw [Function.update_of_ne hav, Function.update_of_ne ham]
    · -- the write of the mask ends the call
      obtain ⟨hshort, herror⟩ :=
        writeBin_short mask pbMask hs hmem hlt htakes
      have hbeside := fwriteBin_beside (t := t) (s := s) mask s.nodes.filterFileSize pbMask n.toNat
      refine ⟨_, some _, ?_, hbeside, Or.inl ⟨_, rfl, herror, fun h => htakes (h hpos)⟩⟩
      simp only [writeFilter, if_pos hpos, if_neg hthere, if_pos hshort]

/-- A call has ended as the toolkit function has. -/
structure Ends (s : AttrDevice) (r : AttrDevice × BitVec 32) (q : ToolkitDevice × BitVec 32) :
    Prop where
  device : r.1.device = q.1
  nodes : r.1.nodes = s.nodes
  lRet : r.2 = q.2

theorem written_fail (hmem : t.fAllocated = true) {lerror : BitVec 32}
    (hne : lerror ≠ netanaNoError) :
    s.Ends (written t (s.fail t lerror, false)) (s.device, lerror) :=
  ⟨rfl, rfl, getError_fail hmem hne⟩

theorem written_finish (hmem : t.fAllocated = true) (q : ToolkitDevice × BitVec 32) :
    s.Ends (written t (s.finish t q)) q := by
  by_cases hok : q.2 = netanaNoError
  · rw [finish, if_pos hok]
    exact ⟨rfl, rfl, hok.symm⟩
  · rw [finish, if_neg hok]
    exact ⟨rfl, rfl, getError_fail hmem hok⟩

theorem ofNat_objnum (ulNo : BitVec 32) : BitVec.ofNat 32 ulNo.toNat = ulNo := by
  rw [BitVec.ofNat_toNat, BitVec.setWidth_eq]

theorem filterError_of_lacksPointer {ulFilterSize : BitVec 32} {f : Option NetanaFilter}
    (h : lacksPointer f = true) : filterError ulFilterSize f ≠ none := by
  cases f with
  | none => exact absurd h Bool.false_ne_true
  | some f =>
    rw [lacksPointer, Bool.and_eq_true, decide_eq_true_eq, Bool.or_eq_true] at h
    rw [filterError, if_pos h.1, if_pos h.2]
    exact Option.some_ne_none _

/-- The toolkit sets no filters without a handle, or with a filter that is not in order. -/
theorem call_setFilter_refused {x : ToolkitDevice} {fA fB : Option NetanaFilter}
    (h : x.session.hdevice = true →
      ¬ (filterError x.session.ulFilterSize fA = none ∧
        filterError x.session.ulFilterSize fB = none)) (ulPort ulRelationShip : BitVec 32) :
    ∃ lRet, lRet ≠ netanaNoError ∧
      x.call (.setFilter ulPort fA fB ulRelationShip) = (x, ⟨lRet, .nothing⟩) := by
  cases hopen : x.session.hdevice with
  | false =>
    refine ⟨netanaInvalidHandle, netanaInvalidHandle_ne, ?_⟩
    rw [ToolkitDevice.call, if_pos hopen]
  | true =>
    obtain ⟨lRet, hne, hset⟩ := netanaSetFilter_checked ulPort fA fB ulRelationShip x.session
      (h hopen)
    refine ⟨lRet, hne, ?_⟩
    rw [ToolkitDevice.call, if_neg (by simp [hopen])]
    simp only [hset]

/-- The write of the relation sets what is in the buffers. -/
theorem setFilter_ends (hmem : t.fAllocated = true) (ulPort ulRelationShip : BitVec 32)
    {fA fB : Option NetanaFilter} (hptrA : lacksPointer fA = false)
    (hptrB : lacksPointer fB = false) (htakesA : s.Takes fA) (htakesB : s.Takes fB)
    (hholdsA : Holds s.tmpFilter .maska .vala fA) (hholdsB : Holds s.tmpFilter .maskb .valb fB) :
    let q := s.device.call (.setFilter ulPort fA fB ulRelationShip)
    s.Ends (written t (s.setFilter t ulPort.toNat
      (netanaSetFilterText ulRelationShip (filterSize fA) (filterSize fB)))) (q.1, q.2.lRet) := by
  intro q
  cases hopen : s.device.session.hdevice with
  | false =>
    have hq : q = (s.device, ⟨netanaInvalidHandle, .nothing⟩) := if_pos hopen
    rw [hq, setFilter, if_pos hopen]
    exact written_fail hmem netanaInvalidHandle_ne
  | true =>
    have hclosed : ¬ s.device.session.hdevice = false := by simp [hopen]
    have hsize {f : Option NetanaFilter} (htakes : s.Takes f) :
        (filterSize f).toNat ≤ s.device.session.ulFilterSize.toNat := by
      by_cases hpos : filterSize f > 0#32
      · exact (htakes hpos).2
      · rw [toNat_of_not_pos hpos]
        exact Nat.zero_le _
    have hsent := netanaSetFilter_sent hptrA hptrB (hsize htakesA) (hsize htakesB) hholdsA hholdsB
      ulPort ulRelationShip
    have hq : (q.1, q.2.lRet) = s.withSession
        (s.device.session.netanaSetFilter ulPort fA fB ulRelationShip) := by
      simp only [q, ToolkitDevice.call, if_neg hclosed]
      rfl
    have hscan : NetanaDriver.setFilter
        (netanaSetFilterText ulRelationShip (filterSize fA) (filterSize fB)) =
          some (ulRelationShip, filterSize fA, filterSize fB) := scanTriple_write _ _ _
    rw [hq, ← hsent, setFilter, if_neg hclosed, hscan]
    simp only [ofNat_objnum]
    exact written_finish hmem _

/-- `netana_set_filter` of the library sets the filters that the toolkit would set, and fails where
the toolkit would fail. -/
theorem netanaSetFilter_agrees (hs : s.Sized) (hmem : t.fAllocated = true)
    {ulPort : BitVec 32} (hnode : hasNode s.nodes.filterNodes ulPort = true)
    (fA fB : Option NetanaFilter) (ulRelationShip : BitVec 32) :
    let r := s.netanaSetFilter t false ulPort fA fB ulRelationShip
    let q := s.device.call (.setFilter ulPort fA fB ulRelationShip)
    r.1.device = q.1 ∧ r.1.nodes = s.nodes ∧
      (r.2 = netanaNoError ↔ q.2.lRet = netanaNoError) := by
  intro r q
  -- wherever the library ends on its own, the toolkit refuses as well
  have hrefused {u : AttrDevice} {lRet : BitVec 32} (hr : r = (u, lRet)) (hu : s.Beside u)
      (hne : lRet ≠ netanaNoError) (h : s.device.session.hdevice = true →
        ¬ (filterError s.device.session.ulFilterSize fA = none ∧
          filterError s.device.session.ulFilterSize fB = none)) :
      r.1.device = q.1 ∧ r.1.nodes = s.nodes ∧
        (r.2 = netanaNoError ↔ q.2.lRet = netanaNoError) := by
    obtain ⟨lRet', hne', hq⟩ := call_setFilter_refused h ulPort ulRelationShip
    have hq' : q = (s.device, ⟨lRet', .nothing⟩) := hq
    rw [hr, hq']
    exact ⟨hu.1, hu.2, iff_of_false hne hne'⟩
  have hnottaken {f : Option NetanaFilter} (hptr : lacksPointer f = false) (h : ¬ s.Takes f) :
      s.device.session.hdevice = true → filterError s.device.session.ulFilterSize f ≠ none := by
    intro hopen hnone
    exact h fun _ => ⟨hopen, (filterError_none_iff hptr).mp hnone⟩
  cases hptrA : lacksPointer fA with
  | true =>
    have hr : r = (s, netanaInvalidParameter) := by
      simp [r, netanaSetFilter, hptrA]
    exact hrefused hr ⟨rfl, rfl⟩ netanaInvalidParameter_ne
      fun _ h => filterError_of_lacksPointer hptrA h.1
  | false =>
  cases hptrB : lacksPointer fB with
  | true =>
    have hr : r = (s, netanaInvalidParameter) := by
      simp [r, netanaSetFilter, hptrA, hptrB]
    exact hrefused hr ⟨rfl, rfl⟩ netanaInvalidParameter_ne
      fun _ h => filterError_of_lacksPointer hptrB h.2
  | false =>
  obtain ⟨u, o, hwriteA, hu, houtA⟩ := writeFilter_spec .maska .vala hs hmem hnode (by decide) hptrA
  rcases houtA with ⟨lRet, rfl, hne, hnot⟩ | ⟨rfl, htakesA, hholdsA, -⟩
  · have hr : r = (u, lRet) := by
      simp [r, netanaSetFilter, hptrA, hptrB, hwriteA]
    exact hrefused hr hu hne fun hopen h => hnottaken hptrA hnot hopen h.1
  have hnodeu : hasNode u.nodes.filterNodes ulPort = true := hu.2 ▸ hnode
  obtain ⟨v, o, hwriteB, hv, houtB⟩ := writeFilter_spec .maskb .valb (hs.beside hu) hmem hnodeu
    (by decide) hptrB
  have htakes {f : Option NetanaFilter} {w : AttrDevice} (hw : s.Beside w) :
      w.Takes f ↔ s.Takes f := by
    unfold Takes
    rw [hw.1]
  rcases houtB with ⟨lRet, rfl, hne, hnot⟩ | ⟨rfl, htakesB, hholdsB, hkept⟩
  · have hr : r = (v, lRet) := by
      simp [r, netanaSetFilter, hptrA, hptrB, hwriteA, hwriteB]
    rw [htakes hu] at hnot
    exact hrefused hr (hu.trans hv) hne fun hopen h => hnottaken hptrB hnot hopen h.2
  have hsv : s.Beside v := hu.trans hv
  have hnodev : ¬ hasNode v.nodes.filterNodes ulPort = false := by
    rw [hsv.2, hnode]
    simp
  have hr : r = written t (v.setFilter t ulPort.toNat
      (netanaSetFilterText ulRelationShip (filterSize fA) (filterSize fB))) := by
    simp only [r, netanaSetFilter, hptrA, hptrB, hwriteA, hwriteB, if_neg hnodev,
      Bool.false_eq_true, if_false]
  have hholdsA' : Holds v.tmpFilter .maska .vala fA := by
    intro n pbMask pbValue hf i hi
    rw [hkept _ (by decide) (by decide), hkept _ (by decide) (by decide)]
    exact hholdsA n pbMask pbValue hf i hi
  have hends := setFilter_ends (s := v) hmem ulPort ulRelationShip hptrA hptrB
    ((htakes hsv).mpr htakesA) ((htakes hsv).mpr ((htakes hu).mp htakesB)) hholdsA' hholdsB
  rw [← hr, hsv.1] at hends
  exact ⟨hends.device, hends.nodes.trans hsv.2, by rw [hends.lRet]⟩

/-- The bytes of the device that an attribute of a filter node shows. -/
def deviceBytes (x : DeviceSession) (ulPort : ℕ) (attr : FilterAttr) : ByteArea :=
  let m := (x.atFilters ulPort).atFilter (if attr.isA then filterA else filterB)
  if attr.isMask then m.pbMask else m.pbValue

theorem store_all (ulFilterSize : BitVec 32) (m : FilterData) (pb : ByteArea) :
    ∃ f, m.store ulFilterSize (some ⟨ulFilterSize, some pb, some pb⟩) = some (some f) ∧
      ∃ pbMask pbValue, f.pbMask = some pbMask ∧ f.pbValue = some pbValue ∧
        ∀ i < ulFilterSize.toNat, pbMask i = m.pbMask i ∧ pbValue i = m.pbValue i := by
  by_cases hpos : ulFilterSize > 0#32
  · have hlen : (if ulFilterSize > ulFilterSize then ulFilterSize else ulFilterSize) =
        ulFilterSize := ite_self _
    refine ⟨⟨ulFilterSize, some (osMemcpy pb m.pbMask ulFilterSize),
      some (osMemcpy pb m.pbValue ulFilterSize)⟩, ?_, _, _, rfl, rfl, ?_⟩
    · simp only [FilterData.store, if_pos hpos, hlen]
    · intro i hi
      exact ⟨if_pos hi, if_pos hi⟩
  · refine ⟨⟨ulFilterSize, some pb, some pb⟩, ?_, pb, pb, rfl, rfl, ?_⟩
    · simp only [FilterData.store, if_neg hpos]
    · intro i hi
      rw [toNat_of_not_pos hpos] at hi
      omega

/-- An attribute of a port of an open device shows what the device has. -/
theorem showFilter_ok (hmem : t.fAllocated = true) (hopen : s.device.session.hdevice = true)
    {ulPort : BitVec 32} (hport : ulPort < s.device.session.ulPortCnt) (attr : FilterAttr)
    (count : ℕ) :
    ∃ b, s.showFilter t ulPort.toNat attr count = (s, some b) ∧
      ∀ i < s.device.session.ulFilterSize.toNat,
        b i = deviceBytes s.device.session ulPort.toNat attr i := by
  obtain ⟨f, hstore, pbMask, pbValue, hmask, hvalue, hbytes⟩ := store_all
    s.device.session.ulFilterSize ((s.device.session.atFilters ulPort.toNat).atFilter
      (if attr.isA then filterA else filterB)) (fun _ => 0#8)
  have hclosed : ¬ s.device.session.hdevice = false := by simp [hopen]
  refine ⟨if attr.isMask then pbMask else pbValue, ?_, ?_⟩
  · rw [showFilter, if_neg hclosed, ofNat_objnum, hmem]
    cases attr <;>
      simp_all [DeviceSession.netanaGetFilter, FilterAttr.isA, FilterAttr.isMask, FilterData.store,
        netanaNoError]
  · intro i hi
    have hi' := hbytes i hi
    cases attr with
    | maska => exact hi'.1
    | maskb => exact hi'.1
    | vala => exact hi'.2
    | valb => exact hi'.2

/-- The read of a mask or a value is complete. -/
theorem readBin_ok (hs : s.Sized) (hmem : t.fAllocated = true)
    (hopen : s.device.session.hdevice = true) {ulPort : BitVec 32}
    (hport : ulPort < s.device.session.ulPortCnt) (attr : FilterAttr) (buf : ByteArea)
    {ulLen : BitVec 32} (hle : ulLen.toNat ≤ s.device.session.ulFilterSize.toNat) :
    freadBin (showFilter t ulPort.toNat attr) s.nodes.filterFileSize ulLen.toNat buf s =
      (s, ulLen.toNat,
        osMemcpy buf (deviceBytes s.device.session ulPort.toNat attr) ulLen) := by
  obtain ⟨b, hshow, hbytes⟩ := showFilter_ok hmem hopen hport attr ulLen.toNat
  by_cases hpos : 0 < ulLen.toNat
  · rw [freadBin_single _ _ _ hpos (hle.trans hs.page) (hs.file ▸ hle), hshow]
    refine Prod.ext rfl (Prod.ext rfl ?_)
    funext i
    unfold osMemcpy
    by_cases hi : i < ulLen.toNat
    · simp only [if_pos hi]
      exact hbytes i (hi.trans_le hle)
    · simp only [if_neg hi]
  · have hzero : ulLen = 0#32 := BitVec.eq_of_toNat_eq (Nat.eq_zero_of_not_pos hpos)
    rw [hzero, osMemcpy_zero]
    rfl

/-- The library reads what the toolkit would store. -/
theorem readFilter_ok (hs : s.Sized) (hmem : t.fAllocated = true)
    (hopen : s.device.session.hdevice = true) {ulPort : BitVec 32}
    (hport : ulPort < s.device.session.ulPortCnt) (mask val : FilterAttr)
    (hmask : mask.isMask = true) (hval : val.isMask = false) (hsame : mask.isA = val.isA)
    {f : Option NetanaFilter}
    (hptr : lacksPointer f = false) :
    ∃ g, s.readFilter t ulPort mask val s.device.session.ulFilterSize f = (s, g, none) ∧
      ((s.device.session.atFilters ulPort.toNat).atFilter
        (if mask.isA then filterA else filterB)).store s.device.session.ulFilterSize f =
          some g := by
  let F := s.device.session.ulFilterSize
  let m := (s.device.session.atFilters ulPort.toNat).atFilter
    (if mask.isA then filterA else filterB)
  have hbytesm : deviceBytes s.device.session ulPort.toNat mask = m.pbMask := by
    rw [deviceBytes, if_pos hmask]
  have hbytesv : deviceBytes s.device.session ulPort.toNat val = m.pbValue := by
    rw [deviceBytes, ← hsame, hval]
    rfl
  cases f with
  | none => exact ⟨none, rfl, rfl⟩
  | some f =>
    obtain ⟨n, pbMask, pbValue⟩ := f
    let ulLen := if n > F then F else n
    have hle : ulLen.toNat ≤ F.toNat := by
      by_cases hlong : n > F
      · exact le_of_eq (congrArg _ (if_pos hlong))
      · have hlen : ulLen = n := if_neg hlong
        rw [hlen]
        rw [gt_iff_lt, BitVec.lt_def] at hlong
        omega
    -- an empty filter stays as it is
    have hempty (hpos : ¬ n > 0#32) : ulLen = n ∧
        m.store F (some ⟨n, pbMask, pbValue⟩) = some (some ⟨n, pbMask, pbValue⟩) := by
      have hzero : n.toNat = 0 := toNat_of_not_pos hpos
      have hshort : ¬ n > F := by
        rw [gt_iff_lt, BitVec.lt_def]
        omega
      exact ⟨if_neg hshort, if_neg hpos⟩
    by_cases hboth : pbMask.isSome ∧ pbValue.isSome
    · obtain ⟨⟨pm, rfl⟩, pv, rfl⟩ :=
        hboth.imp Option.isSome_iff_exists.mp Option.isSome_iff_exists.mp
      refine ⟨some ⟨ulLen, some (osMemcpy pm m.pbMask ulLen),
        some (osMemcpy pv m.pbValue ulLen)⟩, ?_, ?_⟩
      · have hreadm := readBin_ok hs hmem hopen hport mask pm hle
        have hreadv := readBin_ok hs hmem hopen hport val pv hle
        rw [hbytesm] at hreadm
        rw [hbytesv] at hreadv
        have hlen : (if n > s.device.session.ulFilterSize then s.device.session.ulFilterSize
          else n) = ulLen := rfl
        simp only [readFilter, hlen, hreadm, hreadv, ne_eq, not_true, if_false]
      · by_cases hpos : n > 0#32
        · exact if_pos hpos
        · obtain ⟨hlen, hstore⟩ := hempty hpos
          have hzero : n = 0#32 := BitVec.eq_of_toNat_eq (toNat_of_not_pos hpos)
          rw [hlen, hzero, osMemcpy_zero, osMemcpy_zero]
          exact hzero ▸ hstore
    · have hpos : ¬ n > 0#32 := by
        intro hpos
        have hnull : ¬ (pbMask = none ∨ pbValue = none) := by
          simpa [lacksPointer, hpos, Option.isSome_iff_ne_none] using hptr
        apply hboth
        rw [not_or] at hnull
        exact hnull.imp Option.isSome_iff_ne_none.mpr Option.isSome_iff_ne_none.mpr
      obtain ⟨hlen, hstore⟩ := hempty hpos
      refine ⟨_, ?_, hstore⟩
      have hlen' : (if n > s.device.session.ulFilterSize then s.device.session.ulFilterSize
          else n) = n := hlen
      cases pbMask with
      | none => simp only [readFilter, hlen']
      | some pm =>
        cases pbValue with
        | none => simp only [readFilter, hlen']
        | some pv => exact absurd ⟨rfl, rfl⟩ hboth

/-- The relation and the sizes that the driver shows, if there is the port. -/
theorem getRelation_cases (hopen : s.device.session.hdevice = true) (ulPort : BitVec 32) :
    (ulPort < s.device.session.ulPortCnt ∧ ∃ buf, s.getRelation t ulPort.toNat = (s, some buf) ∧
        netanaGetFilterRelation buf = some
          ((s.device.session.atFilters ulPort.toNat).ulRelationShip,
            s.device.session.ulFilterSize, s.device.session.ulFilterSize)) ∨
      ¬ ulPort < s.device.session.ulPortCnt ∧
        s.getRelation t ulPort.toNat = (s.fail t netanaInvalidPort, none) := by
  have hclosed : ¬ s.device.session.hdevice = false := by simp [hopen]
  have hne : ¬ netanaInvalidPort = netanaNoError := by decide
  by_cases hport : ulPort < s.device.session.ulPortCnt
  · left
    refine ⟨hport, _, ?_, scanTriple_show _ _ _⟩
    rw [getRelation, if_neg hclosed, ofNat_objnum]
    simp [DeviceSession.netanaGetFilter, hport, FilterData.store, NetanaDriver.getRelation]
  · right
    refine ⟨hport, ?_⟩
    rw [getRelation, if_neg hclosed, ofNat_objnum]
    simp [DeviceSession.netanaGetFilter, hport, hne]

theorem getRelation_closed (hclosed : s.device.session.hdevice = false) (objnum : ℕ) :
    s.getRelation t objnum = (s.fail t netanaInvalidHandle, none) := if_pos hclosed

/-- A request without a pointer is refused by the toolkit, for every port. -/
theorem netanaGetFilter_refused {x : DeviceSession} {ulPort : BitVec 32}
    {fA fB : Option NetanaFilter}
    (h : ulPort < x.ulPortCnt → lacksPointer fA = true ∨ lacksPointer fB = true) :
    (x.netanaGetFilter ulPort fA fB).lRet ≠ netanaNoError := by
  have hnone {m : FilterData} {f : Option NetanaFilter} (hf : lacksPointer f = true) :
      m.store x.ulFilterSize f = none := by
    cases f with
    | none => exact absurd hf Bool.false_ne_true
    | some f =>
      obtain ⟨n, pbMask, pbValue⟩ := f
      rw [lacksPointer, Bool.and_eq_true, decide_eq_true_eq] at hf
      cases pbMask with
      | none => simp [FilterData.store, hf.1]
      | some pm =>
        cases pbValue with
        | none => simp [FilterData.store, hf.1]
        | some pv => simp at hf
  unfold DeviceSession.netanaGetFilter
  by_cases hport : ulPort < x.ulPortCnt
  · rw [if_pos hport]
    simp only
    rcases h hport with hA | hB
    · rw [hnone hA]
      exact netanaInvalidParameter_ne
    · cases ((x.atFilters ulPort.toNat).atFilter 0).store x.ulFilterSize fA with
      | none => exact netanaInvalidParameter_ne
      | some g =>
        simp only [hnone hB]
        exact netanaInvalidParameter_ne
  · rw [if_neg hport]
    have hne : netanaInvalidPort ≠ netanaNoError := by decide
    exact hne

/-- `netana_get_filter` of the library returns what the toolkit would return, and fails where the
toolkit would fail. -/
theorem netanaGetFilter_agrees (hs : s.Sized) (hmem : t.fAllocated = true)
    {ulPort : BitVec 32} (hnode : hasNode s.nodes.filterNodes ulPort = true)
    (fA fB : Option NetanaFilter) :
    let r := s.netanaGetFilter t ulPort fA fB
    let q := s.device.call (.getFilter ulPort fA fB)
    s.Beside r.1 ∧ q.1 = s.device ∧ (r.2.lRet = netanaNoError ↔ q.2.lRet = netanaNoError) ∧
      (r.2.lRet = netanaNoError →
        AttrOutput.filter r.2.pulRelationShip r.2.ptFilterA r.2.ptFilterB = q.2.output) := by
  intro r q
  have hq : q.1 = s.device := by
    simp only [q, ToolkitDevice.call]
    split_ifs <;> rfl
  have hrefused {u : AttrDevice} {lRet : BitVec 32} {fA' fB' : Option NetanaFilter}
      (hr : r = (u, ⟨lRet, none, fA', fB'⟩)) (hu : s.Beside u) (hne : lRet ≠ netanaNoError)
      (h : s.device.session.hdevice = true →
        (s.device.session.netanaGetFilter ulPort fA fB).lRet ≠ netanaNoError) :
      s.Beside r.1 ∧ q.1 = s.device ∧ (r.2.lRet = netanaNoError ↔ q.2.lRet = netanaNoError) ∧
      (r.2.lRet = netanaNoError →
        AttrOutput.filter r.2.pulRelationShip r.2.ptFilterA r.2.ptFilterB = q.2.output) := by
    have hqne : q.2.lRet ≠ netanaNoError := by
      cases hopen : s.device.session.hdevice with
      | false =>
        simp only [q, ToolkitDevice.call, if_pos hopen]
        exact netanaInvalidHandle_ne
      | true =>
        have hclosed : ¬ s.device.session.hdevice = false := by simp [hopen]
        simp only [q, ToolkitDevice.call, if_neg hclosed]
        exact h hopen
    rw [hr]
    exact ⟨hu, hq, iff_of_false hne hqne, fun h => absurd h hne⟩
  have hthere : ¬ hasNode s.nodes.filterNodes ulPort = false := by simp [hnode]
  cases hptrA : lacksPointer fA with
  | true =>
    have hr : r = (s, ⟨netanaInvalidParameter, none, fA, fB⟩) := by
      simp [r, netanaGetFilter, hptrA]
    exact hrefused hr ⟨rfl, rfl⟩ netanaInvalidParameter_ne
      fun _ => netanaGetFilter_refused fun _ => Or.inl hptrA
  | false =>
  cases hptrB : lacksPointer fB with
  | true =>
    have hr : r = (s, ⟨netanaInvalidParameter, none, fA, fB⟩) := by
      simp [r, netanaGetFilter, hptrA, hptrB]
    exact hrefused hr ⟨rfl, rfl⟩ netanaInvalidParameter_ne
      fun _ => netanaGetFilter_refused fun _ => Or.inr hptrB
  | false =>
  cases hopen : s.device.session.hdevice with
  | false =>
    have hr : r = (s.fail t netanaInvalidHandle, ⟨netanaIoctlFailed, none, fA, fB⟩) := by
      simp [r, netanaGetFilter, hptrA, hptrB, hnode, getRelation_closed hopen]
    exact hrefused hr ⟨rfl, rfl⟩ netanaIoctlFailed_ne
      fun h => absurd (hopen.symm.trans h) Bool.false_ne_true
  | true =>
  rcases getRelation_cases (t := t) hopen ulPort with ⟨hport, buf, hshow, hscan⟩ | ⟨hport, hshow⟩
  swap
  · have hr : r = (s.fail t netanaInvalidPort, ⟨netanaIoctlFailed, none, fA, fB⟩) := by
      simp [r, netanaGetFilter, hptrA, hptrB, hnode, hshow]
    exact hrefused hr ⟨rfl, rfl⟩ netanaIoctlFailed_ne
      fun _ => netanaGetFilter_refused fun h => absurd h hport
  obtain ⟨gA, hreadA, hstoreA⟩ := readFilter_ok hs hmem hopen hport .maska .vala rfl rfl rfl hptrA
  obtain ⟨gB, hreadB, hstoreB⟩ := readFilter_ok hs hmem hopen hport .maskb .valb rfl rfl rfl hptrB
  have hr : r = (s, ⟨netanaNoError,
      some (s.device.session.atFilters ulPort.toNat).ulRelationShip, gA, gB⟩) := by
    simp [r, netanaGetFilter, hptrA, hptrB, hnode, hshow, hscan, hreadA, hreadB]
  have hget : s.device.session.netanaGetFilter ulPort fA fB = ⟨netanaNoError,
      some (s.device.session.atFilters ulPort.toNat).ulRelationShip, gA, gB⟩ := by
    rw [DeviceSession.netanaGetFilter, if_pos hport]
    have hA : ((s.device.session.atFilters ulPort.toNat).atFilter 0).store
      s.device.session.ulFilterSize fA = some gA := hstoreA
    have hB : ((s.device.session.atFilters ulPort.toNat).atFilter 1).store
      s.device.session.ulFilterSize fB = some gB := hstoreB
    simp only [hA, hB]
  have hclosed : ¬ s.device.session.hdevice = false := by simp [hopen]
  have hq' : q = (s.device, ⟨netanaNoError, .filter
      (some (s.device.session.atFilters ulPort.toNat).ulRelationShip) gA gB⟩) := by
    simp only [q, ToolkitDevice.call, if_neg hclosed, hget]
  rw [hr, hq']
  exact ⟨⟨rfl, rfl⟩, rfl, Iff.rfl, fun _ => rfl⟩

end AttrDevice

def AttrCall.isFilter : AttrCall → Bool
  | .setFilter .. | .getFilter .. => true
  | _ => false

/-- The replies tell the same of a call. Only the calls for the filters have errors of their own. -/
structure AttrCall.Agrees (c : AttrCall) (r q : AttrReply) : Prop where
  lRet : r.lRet = netanaNoError ↔ q.lRet = netanaNoError
  output : r.lRet = netanaNoError → r.output = q.output
  error : c.isFilter = false → r.lRet = q.lRet

theorem AttrCall.Agrees.of_eq {c : AttrCall} {r q : AttrReply} (h : r = q) : c.Agrees r q :=
  h ▸ ⟨Iff.rfl, fun _ => rfl, fun _ => rfl⟩

theorem AttrCall.Agrees.of_error {c : AttrCall} {r q : AttrReply} (hne : r.lRet ≠ netanaNoError)
    (h : r.lRet = q.lRet) : c.Agrees r q :=
  ⟨by rw [h], fun h' => absurd h' hne, fun _ => h⟩

namespace AttrDevice

variable {t : CallingThread} {s : AttrDevice}

/-- A call through the attributes has ended as the call on the toolkit. -/
structure Answers (s : AttrDevice) (c : AttrCall) (r : AttrDevice × AttrReply)
    (q : ToolkitDevice × AttrReply) : Prop where
  device : r.1.device = q.1
  nodes : r.1.nodes = s.nodes
  reply : c.Agrees r.2 q.2

theorem call_closed {x : ToolkitDevice} (hclosed : x.session.hdevice = false) (c : AttrCall) :
    x.call c = (x, ⟨netanaInvalidHandle, .nothing⟩) := if_pos hclosed

/-- A write that ends with what the toolkit says. -/
theorem answers_written {c : AttrCall} {r : AttrDevice × BitVec 32} {q : ToolkitDevice × AttrReply}
    (h : s.Ends r (q.1, q.2.lRet)) (hout : q.2.output = .nothing) :
    s.Answers c (r.1, ⟨r.2, .nothing⟩) q := by
  refine ⟨h.device, h.nodes, AttrCall.Agrees.of_eq ?_⟩
  obtain ⟨x, lRet, output⟩ := q
  have hlRet : r.2 = lRet := h.lRet
  have hnothing : output = .nothing := hout
  rw [hlRet, hnothing]

/-- A read that fails with the error of the toolkit. -/
theorem answers_fail (hmem : t.fAllocated = true) {c : AttrCall} {lerror : BitVec 32}
    (hne : lerror ≠ netanaNoError) (output output' : AttrOutput) :
    s.Answers c (s.fail t lerror, ⟨(s.fail t lerror).getError t, output⟩)
      (s.device, ⟨lerror, output'⟩) := by
  have herror := getError_fail (s := s) hmem hne
  refine ⟨rfl, rfl, AttrCall.Agrees.of_error ?_ herror⟩
  exact herror.trans_ne hne

theorem setGpioMode_answers (hmem : t.fAllocated = true) {ulGpio : BitVec 32} (tMode : GpioMode)
    (hnode : hasNode s.nodes.gpioNodes ulGpio = true) :
    s.Answers (.setGpioMode ulGpio tMode) (s.call t false (.setGpioMode ulGpio tMode))
      (s.device.call (.setGpioMode ulGpio tMode)) := by
  have hr : s.netanaSetGpioMode t false ulGpio tMode = written t (s.netanaStoreGpioMode t
      ulGpio.toNat (netanaSetGpioModeText tMode.ulMode tMode.ulData0 tMode.ulData1)) := by
    simp [netanaSetGpioMode, hnode]
  have hscan : NetanaDriver.netanaStoreGpioMode
      (netanaSetGpioModeText tMode.ulMode tMode.ulData0 tMode.ulData1) =
        some (tMode.ulMode, tMode.ulData0, tMode.ulData1) := scanTriple_write _ _ _
  cases hopen : s.device.session.hdevice with
  | false =>
    rw [call_closed hopen]
    apply answers_written (q := (_, ⟨_, _⟩)) _ rfl
    rw [hr, netanaStoreGpioMode, if_pos hopen]
    exact written_fail hmem netanaInvalidHandle_ne
  | true =>
    have hclosed : ¬ s.device.session.hdevice = false := by simp [hopen]
    rw [ToolkitDevice.call, if_neg hclosed]
    apply answers_written (q := (_, ⟨_, _⟩)) _ rfl
    rw [hr, netanaStoreGpioMode, if_neg hclosed, hscan]
    simp only [ofNat_objnum]
    exact written_finish hmem _

theorem getGpioMode_answers (hmem : t.fAllocated = true) {ulGpio : BitVec 32}
    (hnode : hasNode s.nodes.gpioNodes ulGpio = true) :
    s.Answers (.getGpioMode ulGpio) (s.call t false (.getGpioMode ulGpio))
      (s.device.call (.getGpioMode ulGpio)) := by
  have hthere : ¬ hasNode s.nodes.gpioNodes ulGpio = false := by simp [hnode]
  cases hopen : s.device.session.hdevice with
  | false =>
    have hr : s.netanaGetGpioMode t false ulGpio = (s.fail t netanaInvalidHandle,
        (s.fail t netanaInvalidHandle).getError t, none) := by
      simp [netanaGetGpioMode, hnode, netanaGpioGetRegVal, hopen]
    rw [call_closed hopen, call, hr]
    exact answers_fail hmem netanaInvalidHandle_ne _ _
  | true =>
    have hclosed : ¬ s.device.session.hdevice = false := by simp [hopen]
    by_cases hgpio : ulGpio < s.device.session.ulGpioCnt
    · obtain ⟨tmode, hget⟩ : ∃ tmode, s.device.session.netanaGetGpioMode ulGpio =
          (netanaNoError, some tmode) := by
        unfold DeviceSession.netanaGetGpioMode
        simp only [if_pos hgpio]
        split_ifs <;> exact ⟨_, rfl⟩
      have hscan : NetanaDriver.netanaGetGpioMode (NetanaDriver.netanaGpioGetRegVal tmode.ulMode
          tmode.ulData0 tmode.ulData1) = some (tmode.ulMode, tmode.ulData0, tmode.ulData1) :=
        scanTriple_show _ _ _
      have hr : s.netanaGetGpioMode t false ulGpio = (s, netanaNoError, some tmode) := by
        simp [netanaGetGpioMode, hnode, netanaGpioGetRegVal, hopen, hget, hscan]
      rw [call, hr, ToolkitDevice.call, if_neg hclosed]
      simp only [hget]
      exact ⟨rfl, rfl, AttrCall.Agrees.of_eq rfl⟩
    · have hget : s.device.session.netanaGetGpioMode ulGpio = (netanaInvalidParameter, none) :=
        if_neg hgpio
      have hr : s.netanaGetGpioMode t false ulGpio = (s.fail t netanaInvalidParameter,
          (s.fail t netanaInvalidParameter).getError t, none) := by
        simp [netanaGetGpioMode, hnode, netanaGpioGetRegVal, hopen, hget]
      rw [call, hr, ToolkitDevice.call, if_neg hclosed]
      simp only [hget]
      exact answers_fail hmem netanaInvalidParameter_ne _ _

/-- The level that the toolkit takes is written in one character. -/
theorem setGpioOutput_answers (hmem : t.fAllocated = true) {ulGpio : BitVec 32}
    (ulLevel : BitVec 32) (hnode : hasNode s.nodes.gpioNodes ulGpio = true) :
    s.Answers (.setGpioOutput ulGpio ulLevel) (s.call t false (.setGpioOutput ulGpio ulLevel))
      (s.device.call (.setGpioOutput ulGpio ulLevel)) := by
  have hthere : ¬ hasNode s.nodes.gpioNodes ulGpio = false := by simp [hnode]
  let access := s.netanaStoreGpioLevel t ulGpio.toNat (printf (format "%d") [.w32 ulLevel])
  have hr : s.netanaSetGpioOutput t ulGpio ulLevel = (access.1,
      if access.2 = true ∧ (printf (format "%d") [.w32 ulLevel]).length = 1 then netanaNoError
      else access.1.getError t) := by
    rw [netanaSetGpioOutput, if_neg hthere]
  cases hopen : s.device.session.hdevice with
  | false =>
    have haccess : access = (s.fail t netanaInvalidHandle, false) := by
      simp only [access, netanaStoreGpioLevel, if_pos hopen]
    rw [call_closed hopen]
    apply answers_written (q := (_, ⟨_, _⟩)) _ rfl
    rw [hr, haccess]
    exact written_fail hmem netanaInvalidHandle_ne
  | true =>
    have hclosed : ¬ s.device.session.hdevice = false := by simp [hopen]
    let q := s.withSession (s.device.session.netanaSetGpioOutput ulGpio ulLevel)
    have haccess : access = s.finish t q := by
      simp only [access, netanaStoreGpioLevel, if_neg hclosed, scanf_one, ofNat_objnum, q]
    rw [ToolkitDevice.call, if_neg hclosed]
    apply answers_written (q := (_, ⟨_, _⟩)) _ rfl
    rw [hr, haccess]
    by_cases hok : q.2 = netanaNoError
    · have hlevel : ulLevel = 0#32 ∨ ulLevel = 1#32 := by
        by_contra hlevel
        rw [not_or] at hlevel
        have hset : q.2 = netanaInvalidParameter := by
          simp only [q, withSession, DeviceSession.netanaSetGpioOutput,
            if_pos (Or.inr hlevel : _ ∨ _)]
        exact netanaInvalidParameter_ne (hset.symm.trans hok)
      have hone : (printf (format "%d") [.w32 ulLevel]).length = 1 := by
        rcases hlevel with rfl | rfl <;> decide +kernel
      have hends := written_finish (s := s) hmem q
      rw [finish, if_pos hok] at hends ⊢
      rw [hone]
      exact hends
    · have hends := written_finish (s := s) hmem q
      rw [finish, if_neg hok] at hends ⊢
      rw [if_neg fun h => Bool.false_ne_true h.1]
      exact hends

theorem setGpioVoltage_answers (hmem : t.fAllocated = true) (ulGpioSelMask ulVoltage : BitVec 32)
    (hnode : s.nodes.gpioNodes ≠ 0) :
    s.Answers (.setGpioVoltage ulGpioSelMask ulVoltage)
      (s.call t false (.setGpioVoltage ulGpioSelMask ulVoltage))
      (s.device.call (.setGpioVoltage ulGpioSelMask ulVoltage)) := by
  have hr : s.netanaSetGpioVoltage t ulGpioSelMask ulVoltage = written t (s.netanaSetGpiovoltage t
      (printf (format "%d %d\n") [.w32 ulGpioSelMask, .w32 ulVoltage])) := if_neg hnode
  cases hopen : s.device.session.hdevice with
  | false =>
    rw [call_closed hopen]
    apply answers_written (q := (_, ⟨_, _⟩)) _ rfl
    rw [hr, netanaSetGpiovoltage, if_pos hopen]
    exact written_fail hmem netanaInvalidHandle_ne
  | true =>
    have hclosed : ¬ s.device.session.hdevice = false := by simp [hopen]
    rw [ToolkitDevice.call, if_neg hclosed]
    apply answers_written (q := (_, ⟨_, _⟩)) _ rfl
    rw [hr, netanaSetGpiovoltage, if_neg hclosed, scanf_two_line]
    by_cases hvoltage : ulVoltage = 0#32 ∨ ulVoltage = 1#32
    · simp only [if_pos hvoltage]
      exact written_finish hmem _
    · -- the toolkit does not know the voltage either
      have hset : s.device.session.netanaSetGpioVoltage ulGpioSelMask ulVoltage =
          (s.device.session, netanaInvalidParameter) := by
        rw [not_or] at hvoltage
        have h3V : ¬ ulVoltage = gpioVoltage3V := hvoltage.2
        have h24V : ¬ ulVoltage = gpioVoltage24V := hvoltage.1
        unfold DeviceSession.netanaSetGpioVoltage
        simp only [if_neg h3V, if_neg h24V, Bool.false_eq_true, if_false]
        split_ifs <;> rfl
      simp only [if_neg hvoltage, hset]
      exact written_fail hmem netanaInvalidParameter_ne

theorem getGpioVoltage_answers (hmem : t.fAllocated = true) {ulGpio : BitVec 32}
    (hnode : hasNode s.nodes.gpioNodes ulGpio = true) :
    s.Answers (.getGpioVoltage ulGpio) (s.call t false (.getGpioVoltage ulGpio))
      (s.device.call (.getGpioVoltage ulGpio)) := by
  cases hopen : s.device.session.hdevice with
  | false =>
    have hr : s.netanaGetGpioVoltage t ulGpio = (s.fail t netanaInvalidHandle,
        (s.fail t netanaInvalidHandle).getError t, none) := by
      simp [netanaGetGpioVoltage, hnode, netanaGetGpiovoltage, hopen]
    rw [call_closed hopen, call, hr]
    exact answers_fail hmem netanaInvalidHandle_ne _ _
  | true =>
    have hclosed : ¬ s.device.session.hdevice = false := by simp [hopen]
    by_cases hgpio : ulGpio ≥ s.device.session.ulGpioCnt
    · have hget : s.device.session.netanaGetGpioVoltage ulGpio = (netanaInvalidParameter, none) :=
        if_pos hgpio
      have hr : s.netanaGetGpioVoltage t ulGpio = (s.fail t netanaInvalidParameter,
          (s.fail t netanaInvalidParameter).getError t, none) := by
        simp [netanaGetGpioVoltage, hnode, netanaGetGpiovoltage, hopen, hget]
      rw [call, hr, ToolkitDevice.call, if_neg hclosed]
      simp only [hget]
      exact answers_fail hmem netanaInvalidParameter_ne _ _
    · have hget : s.device.session.netanaGetGpioVoltage ulGpio =
          (netanaNoError, some (s.device.session.aptGPIOs ulGpio.toNat).ulVoltage) := if_neg hgpio
      have hr : s.netanaGetGpioVoltage t ulGpio =
          (s, netanaNoError, some (s.device.session.aptGPIOs ulGpio.toNat).ulVoltage) := by
        simp [netanaGetGpioVoltage, hnode, netanaGetGpiovoltage, hopen, hget,
          scanf_one_line]
      rw [call, hr, ToolkitDevice.call, if_neg hclosed]
      simp only [hget]
      exact ⟨rfl, rfl, AttrCall.Agrees.of_eq rfl⟩

theorem configPiController_answers (hmem : t.fAllocated = true) (ulP ulI : BitVec 32) :
    s.Answers (.configPiController ulP ulI) (s.call t false (.configPiController ulP ulI))
      (s.device.call (.configPiController ulP ulI)) := by
  have hr : s.netanaConfigPiController t false ulP ulI = written t (s.netanaPiConfig t
      (printf (format "%d %d") [.w32 ulP, .w32 ulI])) := if_neg Bool.false_ne_true
  cases hopen : s.device.session.hdevice with
  | false =>
    rw [call_closed hopen]
    apply answers_written (q := (_, ⟨_, _⟩)) _ rfl
    rw [hr, netanaPiConfig, if_pos hopen]
    exact written_fail hmem netanaInvalidHandle_ne
  | true =>
    have hclosed : ¬ s.device.session.hdevice = false := by simp [hopen]
    rw [ToolkitDevice.call, if_neg hclosed]
    apply answers_written (q := (_, ⟨_, _⟩)) _ rfl
    rw [hr, netanaPiConfig, if_neg hclosed, scanf_two]
    exact written_finish hmem _

/-- A call that opens its attributes ends as the call on the toolkit. -/
theorem call_answers (hs : s.Sized) (hmem : t.fAllocated = true) {fCapture : Bool} {c : AttrCall}
    (hreach : c.reaches s.nodes fCapture = true) :
    s.Answers c (s.call t fCapture c) (s.device.call c) := by
  cases c with
  | setFilter ulPort fA fB ulRelationShip =>
    rw [AttrCall.reaches, Bool.and_eq_true, Bool.not_eq_true'] at hreach
    obtain ⟨rfl, hnode⟩ := hreach
    obtain ⟨hdevice, hnodes, hlRet⟩ := netanaSetFilter_agrees hs hmem hnode fA fB ulRelationShip
    refine ⟨hdevice, hnodes, hlRet, fun _ => ?_, fun h => Bool.noConfusion h⟩
    rw [ToolkitDevice.call]
    split_ifs <;> rfl
  | getFilter ulPort fA fB =>
    obtain ⟨hbeside, hdevice, hlRet, hout⟩ := netanaGetFilter_agrees hs hmem hreach fA fB
    exact ⟨hbeside.1.trans hdevice.symm, hbeside.2, hlRet, hout, fun h => Bool.noConfusion h⟩
  | setGpioMode ulGpio tMode =>
    rw [AttrCall.reaches, Bool.and_eq_true, Bool.not_eq_true'] at hreach
    obtain ⟨rfl, hnode⟩ := hreach
    exact setGpioMode_answers hmem tMode hnode
  | getGpioMode ulGpio =>
    rw [AttrCall.reaches, Bool.and_eq_true, Bool.not_eq_true'] at hreach
    obtain ⟨rfl, hnode⟩ := hreach
    exact getGpioMode_answers hmem hnode
  | setGpioOutput ulGpio ulLevel => exact setGpioOutput_answers hmem ulLevel hreach
  | setGpioVoltage ulGpioSelMask ulVoltage =>
    exact setGpioVoltage_answers hmem ulGpioSelMask ulVoltage (bne_iff_ne.mp hreach)
  | getGpioVoltage ulGpio => exact getGpioVoltage_answers hmem hreach
  | configPiController ulP ulI =>
    rw [AttrCall.reaches, Bool.not_eq_true'] at hreach
    subst hreach
    exact configPiController_answers hmem ulP ulI

theorem writeFilter_stops (t : CallingThread) {ulPort : BitVec 32}
    (hnode : hasNode s.nodes.filterNodes ulPort = false) (mask val : FilterAttr)
    {f : Option NetanaFilter} (hptr : lacksPointer f = false) :
    s.writeFilter t ulPort mask val f =
      (s, if filterSize f > 0#32 then some netanaNoError else none) := by
  match f, hptr with
  | none, _ => rfl
  | some ⟨n, none, pbValue⟩, hptr =>
    have hpos : ¬ n > 0#32 := by
      intro hpos
      simp [lacksPointer, hpos] at hptr
    exact Prod.ext rfl (if_neg hpos).symm
  | some ⟨n, some pbMask, none⟩, hptr =>
    have hpos : ¬ n > 0#32 := by
      intro hpos
      simp [lacksPointer, hpos] at hptr
    exact Prod.ext rfl (if_neg hpos).symm
  | some ⟨n, some pbMask, some pbValue⟩, _ =>
    rw [writeFilter, if_pos hnode]
    change (if n > 0#32 then (s, some netanaNoError) else (s, none)) =
      (s, if n > 0#32 then some netanaNoError else none)
    split_ifs <;> rfl

/-- A call that opens none changes nothing. -/
theorem call_stops {fCapture : Bool} {c : AttrCall} (hreach : c.reaches s.nodes fCapture = false) :
    (s.call t fCapture c).1 = s ∧ c.Agrees (s.call t fCapture c).2 ⟨c.refused fCapture, .nothing⟩ ∧
      (s.call t fCapture c).2.lRet = c.refused fCapture := by
  cases c with
  | setFilter ulPort fA fB ulRelationShip =>
    have hr : s.netanaSetFilter t fCapture ulPort fA fB ulRelationShip =
        (s, (AttrCall.setFilter ulPort fA fB ulRelationShip).refused fCapture) := by
      rw [AttrCall.reaches, Bool.and_eq_false_iff, Bool.not_eq_false'] at hreach
      unfold netanaSetFilter AttrCall.refused
      cases fCapture with
      | true => rfl
      | false =>
        have hnode : hasNode s.nodes.filterNodes ulPort = false := by simpa using hreach
        by_cases hptrA : lacksPointer fA = true
        · simp [hptrA]
        by_cases hptrB : lacksPointer fB = true
        · simp [hptrB]
        rw [Bool.not_eq_true] at hptrA hptrB
        rw [writeFilter_stops t hnode _ _ hptrA]
        by_cases hA : filterSize fA > 0#32
        · simp [hptrA, hptrB, hA]
        · rw [if_neg hA]
          simp only [writeFilter_stops t hnode _ _ hptrB]
          by_cases hB : filterSize fB > 0#32 <;> simp [hptrA, hptrB, hA, hB, hnode]
    rw [call, hr]
    exact ⟨rfl, AttrCall.Agrees.of_eq rfl, rfl⟩
  | getFilter ulPort fA fB =>
    have hr : s.netanaGetFilter t ulPort fA fB = (s, ⟨netanaInvalidParameter, none, fA, fB⟩) := by
      unfold netanaGetFilter
      have hnode : hasNode s.nodes.filterNodes ulPort = false := hreach
      split_ifs <;> rfl
    rw [call, hr]
    exact ⟨rfl, AttrCall.Agrees.of_error netanaInvalidParameter_ne rfl, rfl⟩
  | setGpioMode ulGpio tMode =>
    rw [AttrCall.reaches, Bool.and_eq_false_iff, Bool.not_eq_false'] at hreach
    have hr : s.netanaSetGpioMode t fCapture ulGpio tMode =
        (s, (AttrCall.setGpioMode ulGpio tMode).refused fCapture) := by
      cases fCapture <;> simp_all [netanaSetGpioMode, AttrCall.refused]
    rw [call, hr]
    exact ⟨rfl, AttrCall.Agrees.of_eq rfl, rfl⟩
  | getGpioMode ulGpio =>
    rw [AttrCall.reaches, Bool.and_eq_false_iff, Bool.not_eq_false'] at hreach
    have hr : s.netanaGetGpioMode t fCapture ulGpio =
        (s, (AttrCall.getGpioMode ulGpio).refused fCapture, none) := by
      cases fCapture <;> simp_all [netanaGetGpioMode, AttrCall.refused]
    have hne : (AttrCall.getGpioMode ulGpio).refused fCapture ≠ netanaNoError := by
      cases fCapture
      · exact netanaInvalidParameter_ne
      · exact netanaCaptureActive_ne
    rw [call, hr]
    exact ⟨rfl, AttrCall.Agrees.of_error hne rfl, rfl⟩
  | setGpioOutput ulGpio ulLevel =>
    have hr : s.netanaSetGpioOutput t ulGpio ulLevel = (s, netanaInvalidParameter) := if_pos hreach
    rw [call, hr]
    exact ⟨rfl, AttrCall.Agrees.of_eq rfl, rfl⟩
  | setGpioVoltage ulGpioSelMask ulVoltage =>
    have hnode : s.nodes.gpioNodes = 0 := by simpa [AttrCall.reaches] using hreach
    have hr : s.netanaSetGpioVoltage t ulGpioSelMask ulVoltage = (s, netanaInvalidParameter) :=
      if_pos hnode
    rw [call, hr]
    exact ⟨rfl, AttrCall.Agrees.of_eq rfl, rfl⟩
  | getGpioVoltage ulGpio =>
    have hr : s.netanaGetGpioVoltage t ulGpio = (s, netanaInvalidParameter, none) := if_pos hreach
    rw [call, hr]
    exact ⟨rfl, AttrCall.Agrees.of_error netanaInvalidParameter_ne rfl, rfl⟩
  | configPiController ulP ulI =>
    have hcapture : fCapture = true := by simpa [AttrCall.reaches] using hreach
    have hr : s.netanaConfigPiController t fCapture ulP ulI = (s, netanaCaptureActive) :=
      if_pos hcapture
    rw [call, hr]
    exact ⟨rfl, AttrCall.Agrees.of_eq rfl, rfl⟩

end AttrDevice

/-- The calls are actions of the device; the PI controller is not among its records. -/
theorem ToolkitDevice.call_records (x : ToolkitDevice) (c : AttrCall) :
    (x.call c).1.session.records = x.session.records := by
  cases hopen : x.session.hdevice with
  | false => rw [AttrDevice.call_closed hopen]
  | true =>
    have hclosed : ¬ x.session.hdevice = false := by simp [hopen]
    unfold call
    rw [if_neg hclosed]
    cases c with
    | setFilter ulPort fA fB ulRelationShip =>
      exact deviceStep_records x.session (.setFilter ulPort fA fB ulRelationShip) _ (if_pos hopen)
    | getFilter ulPort fA fB => rfl
    | setGpioMode ulGpio tMode =>
      exact deviceStep_records x.session (.setGpioMode ulGpio tMode) _ (if_pos hopen)
    | getGpioMode ulGpio => rfl
    | setGpioOutput ulGpio ulLevel =>
      exact deviceStep_records x.session (.setGpioOutput ulGpio ulLevel) _ (if_pos hopen)
    | setGpioVoltage ulGpioSelMask ulVoltage =>
      exact deviceStep_records x.session (.setGpioVoltage ulGpioSelMask ulVoltage) _ (if_pos hopen)
    | getGpioVoltage ulGpio => rfl
    | configPiController ulP ulI => rfl

theorem ToolkitDevice.act_records (x : ToolkitDevice) (a : DeviceAction) :
    (x.act a).session.records = x.session.records := by
  unfold act
  cases hstep : deviceStep x.session a with
  | none => rfl
  | some y => exact deviceStep_records x.session a y hstep

theorem AttrDevice.Sized.of_records {s u : AttrDevice} (hs : s.Sized) (hnodes : u.nodes = s.nodes)
    (hrec : u.device.session.records = s.device.session.records) : u.Sized := by
  have hsize : u.device.session.ulFilterSize = s.device.session.ulFilterSize :=
    congrArg DeviceRecords.ulFilterSize hrec
  refine ⟨?_, ?_⟩
  · rw [hnodes, hsize]
    exact hs.file
  · rw [hsize]
    exact hs.page

/-- What the replies to an action have in common. -/
def AttrAction.Agrees (nodes : AttrNodes) : AttrAction → Option AttrReply → Option AttrReply → Prop
  | .call _ fCapture c, r, q => ∃ r' q', r = some r' ∧ q = some q' ∧ c.Agrees r' q' ∧
      (c.reaches nodes fCapture = false → r'.lRet = c.refused fCapture)
  | .device _, r, q => r = none ∧ q = none

def AttrAction.allocates : AttrAction → Prop
  | .call t _ _ => t.fAllocated = true
  | .device _ => True

/-- One action through the attributes does what it does to the toolkit. -/
theorem step_agrees {s : AttrDevice} (hs : s.Sized) {a : AttrAction} (hmem : a.allocates) :
    let r := s.step a
    let q := s.device.step s.nodes a
    r.1.device = q.1 ∧ r.1.nodes = s.nodes ∧ r.1.Sized ∧ a.Agrees s.nodes r.2 q.2 := by
  intro r q
  cases a with
  | call t fCapture c =>
    cases hreach : c.reaches s.nodes fCapture with
    | true =>
      obtain ⟨hdevice, hnodes, hreply⟩ := AttrDevice.call_answers hs hmem hreach
      have hq : q = ((s.device.call c).1, some (s.device.call c).2) := if_pos hreach
      have hrec : r.1.device.session.records = s.device.session.records :=
        (congrArg (fun x : ToolkitDevice => x.session.records) hdevice).trans
          (s.device.call_records c)
      rw [hq]
      exact ⟨hdevice, hnodes, hs.of_records hnodes hrec, _, _, rfl, rfl, hreply,
        fun h => absurd (hreach.symm.trans h) (by decide)⟩
    | false =>
      obtain ⟨hstate, hreply, hlRet⟩ := AttrDevice.call_stops (t := t) hreach
      have hq : q = (s.device, some ⟨c.refused fCapture, .nothing⟩) := by
        simp only [q, ToolkitDevice.step, hreach, Bool.false_eq_true, if_false]
      have hr : r.1 = s := hstate
      rw [hq, hr]
      exact ⟨rfl, rfl, hs, _, _, rfl, rfl, hreply, fun _ => hlRet⟩
  | device a =>
    exact ⟨rfl, rfl, hs.of_records rfl (s.device.act_records a), rfl, rfl⟩

/-- In every run of calls of the library that do not overlap, they leave the device as the calls on
the toolkit would, and return the same: every one succeeds in one of the runs if it does in the
other, with what the toolkit hands over, and it fails with the error of the toolkit if it is not
about the filters. -/
theorem library_calls_are_toolkit_calls (x : ToolkitDevice)
    (hpage : x.session.ulFilterSize.toNat ≤ pageSize) (as : List AttrAction)
    (hmem : ∀ a ∈ as, a.allocates) :
    let s := AttrDevice.registered x
    let r := replies AttrDevice.step s as
    let q := replies (ToolkitDevice.step s.nodes) x as
    r.1.device = q.1 ∧
      List.Forall₂ (fun a rq => a.Agrees s.nodes rq.1 rq.2) as (r.2.zip q.2) := by
  have hrun : ∀ (as : List AttrAction) (s : AttrDevice), s.Sized → (∀ a ∈ as, a.allocates) →
      (replies AttrDevice.step s as).1.device =
          (replies (ToolkitDevice.step s.nodes) s.device as).1 ∧
        List.Forall₂ (fun a rq => a.Agrees s.nodes rq.1 rq.2) as
          ((replies AttrDevice.step s as).2.zip
            (replies (ToolkitDevice.step s.nodes) s.device as).2) := by
    intro as
    induction as with
    | nil => exact fun _ _ _ => ⟨rfl, List.Forall₂.nil⟩
    | cons a as ih =>
      intro s hs hmem
      obtain ⟨hdevice, hnodes, hsized, hreply⟩ := step_agrees hs (hmem a List.mem_cons_self)
      obtain ⟨hlast, hrest⟩ := ih (s.step a).1 hsized fun b hb => hmem b (List.mem_cons_of_mem a hb)
      rw [hdevice, hnodes] at hlast hrest
      exact ⟨hlast, List.Forall₂.cons hreply hrest⟩
  exact hrun as (AttrDevice.registered x) ⟨rfl, hpage⟩ hmem

/-- A filter is set and read back, and a level is set before there is an output. -/
def callsOfSession (t : CallingThread) : List AttrAction :=
  [.device (.openFile 0#32),
    .call t false (.setFilter 1#32
      (some ⟨128#32, some fun _ => 0xFF#8, some fun i => BitVec.ofNat 8 i⟩) none 1#32),
    .call t false (.getFilter 1#32 (some ⟨128#32, some fun _ => 0#8, some fun _ => 0#8⟩) none),
    .call t false (.setGpioOutput 1#32 1#32),
    .call t false (.setFilter 4#32 (some ⟨1#32, some fun _ => 0#8, some fun _ => 0#8⟩) none 0#32)]

def addedDevice : ToolkitDevice := ⟨addedCard, ⟨0#32, 0#32⟩⟩

theorem library_calls_are_toolkit_calls_session :
    (let s := AttrDevice.registered addedDevice
    let r := replies AttrDevice.step s (callsOfSession ⟨7, true⟩)
    let q := replies (ToolkitDevice.step s.nodes) addedDevice (callsOfSession ⟨7, true⟩)
    r.1.device = q.1 ∧
      List.Forall₂ (fun a rq => a.Agrees s.nodes rq.1 rq.2) (callsOfSession ⟨7, true⟩)
        (r.2.zip q.2)) ∧
      (replies AttrDevice.step (AttrDevice.registered addedDevice)
          (callsOfSession ⟨7, true⟩)).2.filterMap (fun o => o.map AttrReply.lRet) =
        [netanaNoError, netanaNoError, netanaFunctionFailed, netanaNoError] := by
  have hmem : ∀ a ∈ callsOfSession ⟨7, true⟩, a.allocates := by
    simp [callsOfSession, AttrAction.allocates]
  have hpage : addedDevice.session.ulFilterSize.toNat ≤ pageSize := by
    have hsize : addedDevice.session.ulFilterSize = 128#32 := rfl
    rw [hsize]
    decide
  refine ⟨library_calls_are_toolkit_calls addedDevice hpage (callsOfSession ⟨7, true⟩) hmem, ?_⟩
  decide +kernel

end NetanaDriver
