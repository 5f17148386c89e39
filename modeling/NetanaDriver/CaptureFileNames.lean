import NetanaDriver.ByteScans
import NetanaDriver.CaptureFileHandles

/-! The names of the capture files: `netana_set_filelist` and `OpenCaptureFiles` in the toolkit and
in the library (netana_functions.c of both). -/
namespace NetanaDriver
open CBuffers ByteScans HandleTable

/-- `sizeof(szFileName)`. -/
def szFileNameSize : ℕ := netanaMaxFilepath * 2

/-- The separator between path and name; in the toolkit `OS_PATH_SEPERATOR`. -/
def pathSeperator (lib : Bool) : List Byte := textBytes (if lib then "/" else "\\")

/-- The name of a file, as it is put together from its parts. -/
def captureFileName (lib : Bool) (szPath szBaseFilename : List Byte) (ulFile : ℕ) : List Byte :=
  szPath ++ pathSeperator lib ++ szBaseFilename ++ textBytes "_" ++ decimal ulFile ++
    textBytes ".hea"

/-- A call of `netana_set_filelist`, with what stands in memory behind the strings of the caller,
and the string that starts behind the base name in the device instance of the library. In the
toolkit the number of the current file stands there, which is zero when the names are built. -/
structure FilelistCall where
  lib : Bool
  s : FileList
  g_ulDMABufferSize : BitVec 32
  szPath : Text
  szBaseFilename : Text
  ulFileCount : ℕ
  ullFileSize : BitVec 64
  behindPath : ℕ → Byte
  behindBaseFilename : ℕ → Byte
  behindInstance : Text
  -- the file can be opened
  fOpens : ℕ → Bool

/-- The copy of a string of the caller: `strncpy` in the library, `OS_Strncpy` in the toolkit, which
is a `memcpy`. -/
def copyName (lib : Bool) (szText : List Byte) (behind : ℕ → Byte) : List Byte :=
  if lib then strncpy szText netanaMaxFilepath
  else (terminated szText ++ (List.range netanaMaxFilepath).map behind).take netanaMaxFilepath

namespace FilelistCall

def behind (c : FilelistCall) : List Byte := if c.lib then c.behindInstance.bytes else []

/-- The device instance from the base name on. -/
def fromBaseFilename (c : FilelistCall) : List Byte :=
  copyName c.lib c.szBaseFilename.bytes c.behindBaseFilename ++ terminated c.behind

/-- The device instance from the path on. -/
def fromPath (c : FilelistCall) : List Byte :=
  copyName c.lib c.szPath.bytes c.behindPath ++ c.fromBaseFilename

/-- The text that `snprintf` has for a file, and whose length it returns. -/
def formatted (c : FilelistCall) (ulFile : ℕ) : List Byte :=
  captureFileName c.lib (stringOf c.fromPath) (stringOf c.fromBaseFilename) ulFile

/-- `szFileName`, which has room for one byte less than its size. -/
def szFileName (c : FilelistCall) (ulFile : ℕ) : List Byte :=
  (c.formatted ulFile).take (szFileNameSize - 1)

/-- The name is not too long, and its file can be opened. -/
def fOpened (c : FilelistCall) (ulFile : ℕ) : Bool :=
  !decide (szFileNameSize < (c.formatted ulFile).length) && c.fOpens ulFile

/-- The return value of `netana_set_filelist`. -/
def lRet (c : FilelistCall) : BitVec 32 :=
  (c.s.netanaSetFilelist c.lib c.g_ulDMABufferSize c.ulFileCount c.ullFileSize c.fOpened).2

/-- The names of the files that its loop opens, up to the first that it cannot open. -/
def opened (c : FilelistCall) : List (List Byte) :=
  ((List.range c.ulFileCount).takeWhile c.fOpened).map c.szFileName

/-- An error is returned, or the files are opened by the names that the caller asked for, which are
different ones. -/
def Lawful (c : FilelistCall) : Prop :=
  c.lRet ≠ netanaNoError ∨
    (c.opened = (List.range c.ulFileCount).map
      (captureFileName c.lib c.szPath.bytes c.szBaseFilename.bytes) ∧ c.opened.Nodup)

/-- The call gets past its checks. -/
def Accepted (c : FilelistCall) : Prop :=
  c.s.accepts c.g_ulDMABufferSize c.ulFileCount c.ullFileSize

/-- Both strings come out of the device instance as they were passed: they are short enough, or
what follows the copy goes on as they do. -/
def Kept (c : FilelistCall) : Prop :=
  (c.szBaseFilename.bytes.length < netanaMaxFilepath ∨
      c.szBaseFilename.bytes.drop netanaMaxFilepath = c.behind) ∧
    (c.szPath.bytes.length < netanaMaxFilepath ∨
      c.szPath.bytes.drop netanaMaxFilepath = c.szBaseFilename.bytes)

/-- The lengths that the strings are read with, in bytes. -/
def baseFilenameLength (c : FilelistCall) : ℕ :=
  if c.szBaseFilename.bytes.length < netanaMaxFilepath then c.szBaseFilename.bytes.length
  else netanaMaxFilepath + c.behind.length

def pathLength (c : FilelistCall) : ℕ :=
  if c.szPath.bytes.length < netanaMaxFilepath then c.szPath.bytes.length
  else netanaMaxFilepath + c.baseFilenameLength

/-- The length of the name of a file, without its terminator. -/
def nameLength (c : FilelistCall) (ulFile : ℕ) : ℕ :=
  c.pathLength + 1 + c.baseFilenameLength + 1 + (decimal ulFile).length + 4

end FilelistCall

/-- What is read of a copy: a long string goes on into what follows. -/
theorem stringOf_copyName (lib : Bool) {s : List Byte} (hs : IsText s) (behind : ℕ → Byte)
    (rest : List Byte) :
    stringOf (copyName lib s behind ++ rest) =
      if s.length < netanaMaxFilepath then s else s.take netanaMaxFilepath ++ stringOf rest := by
  have htake : IsText (s.take netanaMaxFilepath) := fun b hb => hs b (List.mem_of_mem_take hb)
  by_cases hshort : s.length < netanaMaxFilepath
  · rw [if_pos hshort]
    cases lib with
    | true =>
      show stringOf (strncpy s netanaMaxFilepath ++ rest) = s
      rw [strncpy_short hshort, List.append_assoc, stringOf_terminated hs]
    | false =>
      show stringOf ((terminated s ++ _).take netanaMaxFilepath ++ rest) = s
      rw [List.take_append, List.take_of_length_le (by rw [length_terminated]; omega),
        List.append_assoc, stringOf_terminated hs]
  · rw [if_neg hshort, ← stringOf_append htake]
    have hlong : netanaMaxFilepath ≤ s.length := not_lt.mp hshort
    congr 2
    cases lib with
    | true => exact strncpy_long hlong
    | false =>
      show ((s ++ [0#8]) ++ _).take netanaMaxFilepath = _
      rw [List.append_assoc, List.take_append_of_le_length hlong]

theorem captureFileName_injective (lib : Bool) (szPath szBaseFilename : List Byte) :
    Function.Injective (captureFileName lib szPath szBaseFilename) := by
  intro i j h
  apply decimal_injective
  exact List.append_cancel_left (List.append_cancel_right h)

theorem length_captureFileName (lib : Bool) (szPath szBaseFilename : List Byte) (ulFile : ℕ) :
    (captureFileName lib szPath szBaseFilename ulFile).length =
      szPath.length + 1 + szBaseFilename.length + 1 + (decimal ulFile).length + 4 := by
  have hsep : (pathSeperator lib).length = 1 := by
    cases lib with
    | true => decide +kernel
    | false => decide +kernel
  have hunderscore : (textBytes "_").length = 1 := by decide +kernel
  have hsuffix : (textBytes ".hea").length = 4 := by decide +kernel
  simp only [captureFileName, List.length_append, hsep, hunderscore, hsuffix]

namespace FilelistCall

variable (c : FilelistCall)

theorem stringOf_behind : stringOf (terminated c.behind) = c.behind := by
  have htext : IsText c.behind := by
    rw [behind]
    split
    · exact c.behindInstance.isText
    · exact fun b hb => absurd hb List.not_mem_nil
  have h := stringOf_terminated htext []
  rwa [List.append_nil] at h

/-- The base name as it is read from the device instance. -/
theorem stringOf_fromBaseFilename : stringOf c.fromBaseFilename =
    if c.szBaseFilename.bytes.length < netanaMaxFilepath then c.szBaseFilename.bytes
    else c.szBaseFilename.bytes.take netanaMaxFilepath ++ c.behind := by
  rw [fromBaseFilename, stringOf_copyName c.lib c.szBaseFilename.isText, stringOf_behind]

/-- The path as it is read from the device instance. -/
theorem stringOf_fromPath : stringOf c.fromPath =
    if c.szPath.bytes.length < netanaMaxFilepath then c.szPath.bytes
    else c.szPath.bytes.take netanaMaxFilepath ++ stringOf c.fromBaseFilename := by
  rw [fromPath, stringOf_copyName c.lib c.szPath.isText]

theorem length_formatted (i : ℕ) : (c.formatted i).length = c.nameLength i := by
  have hbase : (stringOf c.fromBaseFilename).length = c.baseFilenameLength := by
    rw [stringOf_fromBaseFilename, baseFilenameLength]
    split
    · rfl
    · rename_i hlong
      rw [List.length_append, List.length_take_of_le (not_lt.mp hlong)]
  have hpath : (stringOf c.fromPath).length = c.pathLength := by
    rw [stringOf_fromPath, pathLength]
    split
    · rfl
    · rename_i hlong
      rw [List.length_append, List.length_take_of_le (not_lt.mp hlong), hbase]
  rw [formatted, length_captureFileName, nameLength, hbase, hpath]

theorem kept_iff : c.Kept ↔
    stringOf c.fromBaseFilename = c.szBaseFilename.bytes ∧
      stringOf c.fromPath = c.szPath.bytes := by
  -- a string that is cut in two is whole again with its second part only
  have hwhole (s t : List Byte) :
      (if s.length < netanaMaxFilepath then s else s.take netanaMaxFilepath ++ t) = s ↔
        s.length < netanaMaxFilepath ∨ s.drop netanaMaxFilepath = t := by
    by_cases hshort : s.length < netanaMaxFilepath
    · rw [if_pos hshort]
      exact iff_of_true rfl (Or.inl hshort)
    · rw [if_neg hshort, or_iff_right hshort]
      constructor
      · intro h
        apply (List.append_right_inj (s.take netanaMaxFilepath)).mp
        rw [List.take_append_drop, h]
      · intro h
        rw [← h, List.take_append_drop]
  rw [Kept, ← hwhole, ← stringOf_fromBaseFilename, stringOf_fromPath, hwhole]
  constructor
  · rintro ⟨hbase, hpath⟩
    rw [hbase]
    exact ⟨rfl, hpath⟩
  · rintro ⟨hbase, hpath⟩
    rw [hbase] at hpath
    exact ⟨hbase, hpath⟩

theorem fOpened_iff (i : ℕ) : c.fOpened i = true ↔
    (c.formatted i).length ≤ szFileNameSize ∧ c.fOpens i = true := by
  rw [fOpened, Bool.and_eq_true, Bool.not_eq_true', decide_eq_false_iff_not, not_lt]

/-- A text that fills the buffer loses its last byte, which no name does. -/
theorem szFileName_ne_of_full {i : ℕ} (hfull : (c.formatted i).length = szFileNameSize)
    (szPath szBaseFilename : List Byte) :
    c.szFileName i ≠ captureFileName c.lib szPath szBaseFilename i := by
  intro h
  have hsuffix : textBytes ".hea" = [0x2E#8, 0x68#8, 0x65#8] ++ [0x61#8] := by decide +kernel
  obtain ⟨front, hfront⟩ : ∃ front, c.formatted i = front ++ [0x2E#8, 0x68#8, 0x65#8] ++ [0x61#8] :=
    ⟨_, by rw [formatted, captureFileName, hsuffix, ← List.append_assoc]⟩
  have hcut : c.szFileName i = front ++ [0x2E#8, 0x68#8, 0x65#8] := by
    have hlen := congrArg List.length hfront
    rw [hfull, List.length_append, List.length_singleton] at hlen
    rw [szFileName, hfront]
    exact List.take_left' (by omega)
  have hlast := congrArg List.getLast? h
  rw [hcut, captureFileName, hsuffix, ← List.append_assoc, List.getLast?_append,
    List.getLast?_append] at hlast
  have hbytes : some 0x65#8 = some 0x61#8 := hlast
  exact absurd hbytes (by decide)

/-- A file that is opened has its name where both strings are kept and the terminator fits. -/
theorem szFileName_eq_iff {i : ℕ} (hlen : (c.formatted i).length ≤ szFileNameSize) :
    c.szFileName i = captureFileName c.lib c.szPath.bytes c.szBaseFilename.bytes i ↔
      c.Kept ∧ (c.formatted i).length < szFileNameSize := by
  have hwhole (hfits : (c.formatted i).length < szFileNameSize) :
      c.szFileName i = c.formatted i := List.take_of_length_le (Nat.le_sub_one_of_lt hfits)
  rw [kept_iff]
  constructor
  · intro h
    have hfits : (c.formatted i).length < szFileNameSize := by
      by_contra hlong
      exact c.szFileName_ne_of_full (by omega) _ _ h
    rw [hwhole hfits, formatted] at h
    -- both names end in the same way
    have hfront : stringOf c.fromPath ++ pathSeperator c.lib ++ stringOf c.fromBaseFilename =
        c.szPath.bytes ++ pathSeperator c.lib ++ c.szBaseFilename.bytes :=
      List.append_cancel_right (List.append_cancel_right (List.append_cancel_right h))
    refine ⟨?_, hfits⟩
    by_cases hpath : c.szPath.bytes.length < netanaMaxFilepath
    · have hkept : stringOf c.fromPath = c.szPath.bytes := by
        rw [stringOf_fromPath, if_pos hpath]
      rw [hkept] at hfront
      exact ⟨List.append_cancel_left hfront, hkept⟩
    · -- the long path is followed by the base name, and twice a long base name does not fit
      have hkept : stringOf c.fromBaseFilename = c.szBaseFilename.bytes := by
        rw [stringOf_fromBaseFilename, if_pos]
        by_contra hbase
        have hseen : netanaMaxFilepath ≤ (stringOf c.fromBaseFilename).length := by
          rw [stringOf_fromBaseFilename, if_neg hbase, List.length_append,
            List.length_take_of_le (not_lt.mp hbase)]
          exact Nat.le_add_right _ _
        have hseenPath : netanaMaxFilepath ≤ (stringOf c.fromPath).length := by
          rw [stringOf_fromPath, if_neg hpath, List.length_append,
            List.length_take_of_le (not_lt.mp hpath)]
          exact Nat.le_add_right _ _
        rw [formatted, length_captureFileName, szFileNameSize] at hfits
        omega
      rw [hkept] at hfront
      exact ⟨hkept, List.append_cancel_right (List.append_cancel_right hfront)⟩
  · rintro ⟨⟨hbase, hpath⟩, hfits⟩
    rw [hwhole hfits, formatted, hbase, hpath]

/-- What an accepted call returns. -/
theorem lRet_eq_iff (haccepted : c.Accepted) :
    c.lRet = netanaNoError ↔ ∀ i < c.ulFileCount, c.fOpened i = true := by
  obtain ⟨hidle, hcount, hsize⟩ := haccepted
  have hnotRunning : ¬ c.s.fCaptureRunning = true := by
    rw [hidle]
    exact Bool.false_ne_true
  let r := FileList.openCaptureFiles c.lib c.fOpened { c.s with ulFileCount := c.ulFileCount }
  have hlRet : c.lRet = r.2 := by
    rw [lRet, FileList.netanaSetFilelist, if_neg hnotRunning, if_neg (not_lt.mpr hcount),
      if_neg (not_lt.mpr hsize)]
    dsimp only
    split
    · rfl
    · rfl
  have hopen : r.2 = netanaNoError ↔ (createWhile c.fOpened (List.range c.ulFileCount)
      (closeFiles c.lib (List.range c.ulFileCount) c.s.atFiles)).2 = true := by
    show (if _ then netanaNoError else netanaFileCreationFailed) = netanaNoError ↔ _
    split
    · rename_i h
      exact iff_of_true rfl h
    · rename_i h
      exact iff_of_false (by decide) h
  rw [hlRet, hopen, createWhile_ok_iff]
  exact forall_congr' fun i => by rw [List.mem_range]

theorem lRet_ne_of_not_accepted (h : ¬ c.Accepted) : c.lRet ≠ netanaNoError := by
  rw [lRet, FileList.netanaSetFilelist]
  split
  · exact (by decide : netanaCaptureActive ≠ netanaNoError)
  · rename_i hidle
    split
    · exact netanaInvalidParameter_ne
    · rename_i hcount
      split
      · exact netanaInvalidParameter_ne
      · rename_i hsize
        exact absurd ⟨(Bool.not_eq_true _).mp hidle, not_lt.mp hcount, not_lt.mp hsize⟩ h

/-- The names of a list whose files are all opened. -/
theorem opened_eq_of_all (hall : ∀ i < c.ulFileCount, c.fOpened i = true) :
    c.opened = (List.range c.ulFileCount).map c.szFileName := by
  rw [opened, List.takeWhile_eq_self_iff.mpr fun i hi => hall i (List.mem_range.mp hi)]

/-- The names that were asked for are different ones. -/
theorem captureFileNames_nodup (lib : Bool) (szPath szBaseFilename : List Byte) (n : ℕ) :
    ((List.range n).map (captureFileName lib szPath szBaseFilename)).Nodup :=
  List.nodup_range.map (captureFileName_injective lib szPath szBaseFilename)

/-- The exact condition under which the capture files are lawful. -/
theorem capture_names_lawful_iff : c.Lawful ↔
    ¬ c.Accepted ∨ (∃ i < c.ulFileCount, szFileNameSize < c.nameLength i ∨
        c.fOpens i = false) ∨ c.ulFileCount = 0 ∨
      (c.Kept ∧ ∀ i < c.ulFileCount, c.nameLength i < szFileNameSize) := by
  simp only [← length_formatted]
  rw [Lawful]
  by_cases haccepted : c.Accepted
  swap
  · exact iff_of_true (Or.inl (c.lRet_ne_of_not_accepted haccepted)) (Or.inl haccepted)
  rw [or_iff_right (not_not.mpr haccepted)]
  by_cases hfails : ∃ i < c.ulFileCount, szFileNameSize < (c.formatted i).length ∨
      c.fOpens i = false
  · apply iff_of_true (Or.inl ?_) (Or.inl hfails)
    obtain ⟨i, hi, hfail⟩ := hfails
    intro hret
    obtain ⟨hlen, hopens⟩ := (c.fOpened_iff i).mp ((c.lRet_eq_iff haccepted).mp hret i hi)
    rcases hfail with hlong | hclosed
    · exact absurd hlen (not_le.mpr hlong)
    · rw [hopens] at hclosed
      cases hclosed
  rw [or_iff_right hfails]
  have hopened (i : ℕ) (hi : i < c.ulFileCount) :
      (c.formatted i).length ≤ szFileNameSize ∧ c.fOpens i = true := by
    by_contra hno
    apply hfails
    rw [not_and_or, not_le, Bool.not_eq_true] at hno
    exact ⟨i, hi, hno⟩
  have hall : ∀ i < c.ulFileCount, c.fOpened i = true :=
    fun i hi => (c.fOpened_iff i).mpr (hopened i hi)
  rw [or_iff_right (not_not.mpr ((c.lRet_eq_iff haccepted).mpr hall)), c.opened_eq_of_all hall,
    List.map_inj_left]
  constructor
  · rintro ⟨hnames, -⟩
    by_cases hzero : c.ulFileCount = 0
    · exact Or.inl hzero
    · right
      have hname (i : ℕ) (hi : i < c.ulFileCount) :=
        (c.szFileName_eq_iff (hopened i hi).1).mp (hnames i (List.mem_range.mpr hi))
      exact ⟨(hname 0 (Nat.pos_of_ne_zero hzero)).1, fun i hi => (hname i hi).2⟩
  · intro hgood
    have hnames : ∀ i ∈ List.range c.ulFileCount, c.szFileName i =
        captureFileName c.lib c.szPath.bytes c.szBaseFilename.bytes i := by
      intro i hi
      have hlt := List.mem_range.mp hi
      rcases hgood with hzero | ⟨hkept, hfits⟩
      · omega
      · exact (c.szFileName_eq_iff (hopened i hlt).1).mpr ⟨hkept, hfits i hlt⟩
    refine ⟨hnames, ?_⟩
    rw [List.map_inj_left.mpr hnames]
    exact captureFileNames_nodup _ _ _ _

/-- One file in a directory whose name has 256 bytes. -/
def longPathCall : FilelistCall where
  lib := true
  s := FileList.opened
  g_ulDMABufferSize := 0x100000#32
  szPath := ⟨List.replicate 256 0x61#8, isText_replicate (by decide) 256⟩
  szBaseFilename := ⟨[0x62#8], isText_replicate (by decide) 1⟩
  ulFileCount := 1
  ullFileSize := 0x100020#64
  behindPath := fun _ => 0#8
  behindBaseFilename := fun _ => 0#8
  behindInstance := ⟨[], isText_replicate (b := 1#8) (by decide) 0⟩
  fOpens := fun _ => true

/-- The path loses its terminator, and the name of the file has the base name twice. -/
theorem capture_names_garbled : ¬ ∀ c : FilelistCall, c.Accepted → c.Lawful := by
  intro hall
  have haccepted : longPathCall.Accepted := ⟨rfl, by decide, by decide⟩
  have hlen : (longPathCall.formatted 0).length ≤ szFileNameSize := by
    rw [length_formatted]
    decide +kernel
  have hopened : ∀ i < longPathCall.ulFileCount, longPathCall.fOpened i = true := by
    intro i hi
    rw [Nat.lt_one_iff.mp hi]
    exact (longPathCall.fOpened_iff 0).mpr ⟨hlen, rfl⟩
  rcases hall longPathCall haccepted with hret | ⟨hnames, -⟩
  · exact hret ((longPathCall.lRet_eq_iff haccepted).mpr hopened)
  · rw [longPathCall.opened_eq_of_all hopened, List.map_inj_left] at hnames
    have hname := hnames 0 (List.mem_range.mpr Nat.one_pos)
    have hkept := ((longPathCall.szFileName_eq_iff hlen).mp hname).1.2
    exact absurd hkept (by decide +kernel)

end FilelistCall

end NetanaDriver
