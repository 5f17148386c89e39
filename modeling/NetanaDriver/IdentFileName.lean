import NetanaDriver.ByteScans
import NetanaDriver.DeviceSession

/-! The name of the file with the ident information, from a write of the attribute
(`netana_ident_update`, netana_tk_interface.c) over `netana_set_device_ident`
(toolkit/netana_functions.c) to the loader of the firmware (USER_Linux.c). -/
namespace NetanaDriver
open CBuffers ByteScans

def netanaMaxFileNameLength : ℕ := 256

/-- `OS_Strncpy`. -/
def osStrncpy (szDest szSource : Buffer) (ulLen : ℕ) : Except Fault Buffer :=
  memcpy szDest szSource ulLen

/-- `USER_GetIdentInfoFile`: the name in a file information that has been cleared. -/
def userGetIdentInfoFile (szIdentInfoFileName : Buffer) : Except Fault (List Byte) :=
  (strcpy (filled (List.replicate netanaMaxFileNameLength 0#8)) szIdentInfoFileName).bind readString

/-- What the steps of a restart return. -/
structure IdentRestart where
  -- netana_tkit_deviceremove
  lRemoved : BitVec 32
  -- the lock and the events of the instance
  lCreated : BitVec 32
  ulFlashBased : Bool
  -- the look at the cookie of a flash based device
  lCookie : BitVec 32
  lReset : BitVec 32
  -- the chip is one that there is a boot loader for
  fChipSupported : Bool
  lBootloader : BitVec 32
  usDeviceClass : BitVec 16
  lIdentDownload : BitVec 32
  lFirmware : BitVec 32
  deriving DecidableEq, Repr

/-- The error that is reported in the end, zero for none, and the name that the file with the ident
information was opened by, if it was. -/
structure IdentUpdated where
  lError : BitVec 32
  szFullFileName : Option (List Byte)
  deriving DecidableEq, Repr

/-- A restart that fails. -/
def hwresetFailed (szFullFileName : Option (List Byte)) : IdentUpdated :=
  ⟨netanaHwresetError, szFullFileName⟩

/-- The part of the restart that opens files. `OS_FileOpen` asks for the names of all files, first
for the boot loader and then in `netx_update_ident_info`. -/
def IdentRestart.openFiles (r : IdentRestart) (szIdentInfoFileName : Buffer) :
    Except Fault IdentUpdated :=
  (userGetIdentInfoFile szIdentInfoFileName).bind fun _ =>
    if r.lBootloader ≠ netanaNoError then .ok (hwresetFailed none)
    else if r.usDeviceClass = 0#16 then .ok (hwresetFailed none)
    else
      (userGetIdentInfoFile szIdentInfoFileName).bind fun szFullFileName =>
        .ok (if r.lFirmware ≠ netanaNoError then hwresetFailed (some szFullFileName)
          else ⟨r.lIdentDownload, some szFullFileName⟩)

/-- `netana_restart_device` after a request, and the look at its outcome. -/
def IdentRestart.netanaRestartDevice (r : IdentRestart) (szIdentInfoFileName : Buffer) :
    Except Fault IdentUpdated :=
  if r.lRemoved ≠ netanaNoError then .ok (hwresetFailed none)
  else if r.lCreated ≠ netanaNoError then .ok (hwresetFailed none)
  else if r.ulFlashBased then
    .ok (if r.lCookie ≠ netanaNoError then hwresetFailed none else ⟨netanaNoError, none⟩)
  else if r.lReset ≠ netanaNoError then .ok (hwresetFailed none)
  else if r.fChipSupported = false then .ok (hwresetFailed none)
  else r.openFiles szIdentInfoFileName

/-- What a write of the attribute meets. -/
structure IdentDevice where
  hdevice : Bool
  fAllocated : Bool
  fCaptureRunning : Bool
  szIdentInfoFileName : List Byte
  szIdentInfoFileName_length : szIdentInfoFileName.length = netanaMaxFilepath
  restart : IdentRestart

/-- `netana_set_device_ident`. -/
def IdentDevice.netanaSetDeviceIdent (d : IdentDevice) (szFileName : Buffer) :
    Except Fault (BitVec 32 × Buffer) :=
  if d.fCaptureRunning then .ok (netanaCaptureActive, filled d.szIdentInfoFileName)
  else
    (osStrncpy (filled d.szIdentInfoFileName) szFileName netanaMaxFilepath).map fun name =>
      (netanaNoError, name)

/-- `netana_ident_update` with the bytes of a write, which has a zero byte behind them. -/
def IdentDevice.netanaIdentUpdate (d : IdentDevice) (buf : List Byte) :
    Except Fault IdentUpdated :=
  if d.hdevice = false then .ok ⟨netanaInvalidHandle, none⟩
  else if d.fAllocated = false then .ok ⟨netanaOutOfMemory, none⟩
  else
    match scanWord (stringOf buf) with
    | none => .ok ⟨netanaInvalidParameter, none⟩
    | some word =>
      (write (fresh buf.length) (terminated word)).bind fun identInfoFile =>
        (d.netanaSetDeviceIdent identInfoFile).bind fun r =>
          if r.1 ≠ netanaNoError then .ok ⟨r.1, none⟩
          else d.restart.netanaRestartDevice r.2

/-- No buffer is left, and an error is reported or the file opened by its name. -/
def Delivers (x : Except Fault IdentUpdated) (szFileName : List Byte) : Prop :=
  ∃ u, x = .ok u ∧ (u.lError ≠ netanaNoError ∨ u.szFullFileName = some szFileName)

/-- A write ends with an error or with the first word that was written as the name. -/
def IdentDevice.Lawful (d : IdentDevice) (buf : List Byte) : Prop :=
  Delivers (d.netanaIdentUpdate buf) (firstWord buf)

/-- The restart fails before any file is opened. -/
def IdentRestart.FailsEarly (r : IdentRestart) : Prop :=
  r.lRemoved ≠ netanaNoError ∨ r.lCreated ≠ netanaNoError ∨
    if r.ulFlashBased then r.lCookie ≠ netanaNoError
    else r.lReset ≠ netanaNoError ∨ r.fChipSupported = false

/-- It fails later. -/
def IdentRestart.FailsLate (r : IdentRestart) : Prop :=
  r.lBootloader ≠ netanaNoError ∨ r.usDeviceClass = 0#16 ∨ r.lFirmware ≠ netanaNoError ∨
    r.lIdentDownload ≠ netanaNoError

theorem netanaHwresetError_ne : netanaHwresetError ≠ netanaNoError := by decide

/-- The name is handed over where it ends inside of its buffer. -/
theorem userGetIdentInfoFile_ok_iff {name : Buffer} (hlen : name.length = netanaMaxFilepath)
    (s : List Byte) : userGetIdentInfoFile name = .ok s ↔ readString name = .ok s := by
  rw [userGetIdentInfoFile, bind_ok_iff]
  constructor
  · rintro ⟨d, hcopy, hread⟩
    obtain ⟨t, ht, -, rfl⟩ := (strcpy_ok_iff _ _ _).mp hcopy
    obtain ⟨htext, -⟩ := (readString_ok_iff _ _).mp ht
    rw [readString_terminated htext] at hread
    cases hread
    exact ht
  · intro hread
    obtain ⟨htext, rest, hname⟩ := (readString_ok_iff _ _).mp hread
    have hfits : s.length < netanaMaxFileNameLength := by
      have hcount := congrArg List.length hname
      rw [hlen, List.length_append, length_filled, length_terminated, netanaMaxFilepath] at hcount
      rw [netanaMaxFileNameLength]
      omega
    have hcopy := (strcpy_ok_iff (filled (List.replicate netanaMaxFileNameLength 0#8)) name _).mpr
      ⟨s, hread, by rwa [length_filled, List.length_replicate], rfl⟩
    exact ⟨_, hcopy, readString_terminated htext _⟩

theorem delivers_ok_iff (u : IdentUpdated) (w : List Byte) :
    Delivers (.ok u) w ↔ u.lError ≠ netanaNoError ∨ u.szFullFileName = some w := by
  constructor
  · rintro ⟨v, hv, hlaw⟩
    cases hv
    exact hlaw
  · intro hlaw
    exact ⟨u, rfl, hlaw⟩

theorem delivers_error {lError : BitVec 32} (h : lError ≠ netanaNoError)
    (o : Option (List Byte)) (w : List Byte) : Delivers (.ok ⟨lError, o⟩) w :=
  (delivers_ok_iff _ _).mpr (Or.inl h)

/-- A step that ends with an error is passed, or the property holds. -/
theorem delivers_guard_iff {P : Prop} [Decidable P] {x y : Except Fault IdentUpdated}
    {w : List Byte} (hx : Delivers x w) :
    Delivers (if P then x else y) w ↔ P ∨ Delivers y w := by
  by_cases hP : P
  · rw [if_pos hP]
    exact iff_of_true hx (Or.inl hP)
  · rw [if_neg hP, or_iff_right hP]

/-- The part with the files needs a name that ends. -/
theorem openFiles_delivers_iff (r : IdentRestart) (name : Buffer) (w : List Byte) :
    Delivers (r.openFiles name) w ↔
      ∃ s, userGetIdentInfoFile name = .ok s ∧ (r.FailsLate ∨ s = w) := by
  rw [IdentRestart.openFiles, IdentRestart.FailsLate]
  cases hname : userGetIdentInfoFile name with
  | error e =>
    apply iff_of_false
    · rintro ⟨u, hu, -⟩
      cases hu
    · rintro ⟨s, hs, -⟩
      cases hs
  | ok s =>
    have hfailed : Delivers (.ok (hwresetFailed none)) w :=
      delivers_error netanaHwresetError_ne _ _
    simp only [Except.ok.injEq, exists_eq_left', Except.bind]
    rw [delivers_guard_iff hfailed, delivers_guard_iff hfailed, or_assoc, or_assoc, or_assoc]
    refine or_congr_right (or_congr_right ?_)
    -- the last step, after which the name has been used
    by_cases hfirmware : r.lFirmware ≠ netanaNoError
    · rw [if_pos hfirmware]
      exact iff_of_true (delivers_error netanaHwresetError_ne _ _) (Or.inl hfirmware)
    · rw [if_neg hfirmware, or_iff_right hfirmware, delivers_ok_iff, Option.some.injEq]

/-- What a restart with a name comes to. -/
theorem restart_delivers_iff (r : IdentRestart) (name : Buffer) (w : List Byte) :
    Delivers (r.netanaRestartDevice name) w ↔
      r.FailsEarly ∨ (r.ulFlashBased = false ∧
        ∃ s, userGetIdentInfoFile name = .ok s ∧ (r.FailsLate ∨ s = w)) := by
  have hfailed : Delivers (.ok (hwresetFailed none)) w := delivers_error netanaHwresetError_ne _ _
  rw [IdentRestart.netanaRestartDevice, IdentRestart.FailsEarly, delivers_guard_iff hfailed,
    delivers_guard_iff hfailed, or_assoc, or_assoc]
  refine or_congr_right (or_congr_right ?_)
  cases r.ulFlashBased with
  | true =>
    rw [if_pos rfl, if_pos rfl, delivers_ok_iff]
    by_cases hcookie : r.lCookie ≠ netanaNoError
    · rw [if_pos hcookie]
      exact iff_of_true (Or.inl netanaHwresetError_ne) (Or.inl hcookie)
    · -- the device runs, and nobody has looked for the file
      rw [if_neg hcookie]
      apply iff_of_false
      · rintro (hne | hname)
        · exact hne rfl
        · cases hname
      · rintro (h | ⟨h, -⟩)
        · exact hcookie h
        · cases h
  | false =>
    rw [if_neg Bool.false_ne_true, if_neg Bool.false_ne_true, delivers_guard_iff hfailed,
      delivers_guard_iff hfailed, or_assoc, openFiles_delivers_iff, and_iff_right rfl]

/-- What is left of a word in the buffer for the name. -/
theorem readString_cut_iff {word : List Byte} (hword : IsText word)
    (hlong : 255 ≤ word.length) (s : List Byte) :
    readString (filled ((terminated word).take netanaMaxFilepath)) = .ok s ↔
      word.length = 255 ∧ s = word := by
  have hlen := length_terminated word
  by_cases hfits : word.length = 255
  · have hwhole : (terminated word).take netanaMaxFilepath = terminated word :=
      List.take_of_length_le (by rw [hlen, hfits, netanaMaxFilepath])
    have hread := readString_terminated hword []
    rw [List.append_nil] at hread
    rw [hwhole, hread, Except.ok.injEq]
    exact ⟨fun h => ⟨hfits, h.symm⟩, fun h => h.2.symm⟩
  · -- the terminator has been left out
    have hcut : (terminated word).take netanaMaxFilepath = word.take netanaMaxFilepath :=
      List.take_append_of_le_length (by rw [netanaMaxFilepath]; omega)
    have hread := readString_append (s := word.take netanaMaxFilepath)
      (fun b hb => hword b (List.mem_of_mem_take hb)) []
    rw [List.append_nil] at hread
    rw [hcut, hread]
    apply iff_of_false
    · intro h
      cases h
    · exact fun h => hfits h.1

/-- The copy of the name takes what has been written, and needs all of its bytes. -/
theorem osStrncpy_ok_iff (d : IdentDevice) (word : List Byte) (k : ℕ) (name : Buffer) :
    osStrncpy (filled d.szIdentInfoFileName) (filled (terminated word) ++ fresh k)
        netanaMaxFilepath = .ok name ↔
      255 ≤ word.length ∧ name = filled ((terminated word).take netanaMaxFilepath) := by
  have hlen := length_terminated word
  have hend (n : ℕ) (hn : netanaMaxFilepath ≤ n) :
      (filled d.szIdentInfoFileName).drop n = [] := by
    apply List.drop_of_length_le
    rw [length_filled, d.szIdentInfoFileName_length]
    exact hn
  rw [osStrncpy, memcpy, bind_ok_iff]
  constructor
  · rintro ⟨bs, hread, hwrite⟩
    obtain ⟨hle, rfl⟩ := (read_filled_fresh_ok_iff _ _ _ _).mp hread
    obtain ⟨-, rfl⟩ := (write_ok_iff _ _ _).mp hwrite
    rw [hend _ (List.length_take_of_le hle).ge, List.append_nil]
    rw [hlen, netanaMaxFilepath] at hle
    exact ⟨by omega, rfl⟩
  · rintro ⟨hlong, rfl⟩
    have hle : netanaMaxFilepath ≤ (terminated word).length := by
      rw [hlen, netanaMaxFilepath]
      omega
    refine ⟨_, (read_filled_fresh_ok_iff _ _ _ _).mpr ⟨hle, rfl⟩, (write_ok_iff _ _ _).mpr ?_⟩
    rw [length_filled, d.szIdentInfoFileName_length, List.length_take_of_le hle,
      hend _ (le_refl _), List.append_nil]
    exact ⟨le_refl _, rfl⟩

/-- What is done with a word that has been read into its buffer. -/
theorem word_delivers_iff (d : IdentDevice) {word : List Byte} (hword : IsText word) (k : ℕ)
    (w : List Byte) :
    Delivers ((d.netanaSetDeviceIdent (filled (terminated word) ++ fresh k)).bind fun r =>
        if r.1 ≠ netanaNoError then .ok ⟨r.1, none⟩
        else d.restart.netanaRestartDevice r.2) w ↔
      d.fCaptureRunning = true ∨ (255 ≤ word.length ∧ d.restart.FailsEarly) ∨
        (word.length = 255 ∧ d.restart.ulFlashBased = false ∧
          (d.restart.FailsLate ∨ word = w)) := by
  rw [IdentDevice.netanaSetDeviceIdent]
  by_cases hcapture : d.fCaptureRunning = true
  · have hactive : Delivers (.ok ⟨netanaCaptureActive, none⟩) w :=
      delivers_error (by decide) _ _
    rw [if_pos hcapture]
    exact iff_of_true hactive (Or.inl hcapture)
  rw [if_neg hcapture, or_iff_right hcapture]
  cases hcopy : osStrncpy (filled d.szIdentInfoFileName) (filled (terminated word) ++ fresh k)
      netanaMaxFilepath with
  | error e =>
    have hshort : ¬ 255 ≤ word.length := by
      intro hlong
      have hok := (osStrncpy_ok_iff d word k _).mpr ⟨hlong, rfl⟩
      rw [hcopy] at hok
      cases hok
    apply iff_of_false
    · rintro ⟨u, hu, -⟩
      cases hu
    · rintro (⟨hlong, -⟩ | ⟨hlen, -⟩)
      · exact hshort hlong
      · exact hshort hlen.ge
  | ok name =>
    obtain ⟨hlong, rfl⟩ := (osStrncpy_ok_iff d word k name).mp hcopy
    have hname :
        (filled ((terminated word).take netanaMaxFilepath)).length = netanaMaxFilepath := by
      rw [length_filled, List.length_take_of_le]
      rw [length_terminated, netanaMaxFilepath]
      omega
    show Delivers (d.restart.netanaRestartDevice _) w ↔ _
    rw [restart_delivers_iff]
    constructor
    · rintro (hearly | ⟨hflash, s, hs, hlate⟩)
      · exact Or.inl ⟨hlong, hearly⟩
      · obtain ⟨hlen, rfl⟩ := (readString_cut_iff hword hlong s).mp
          ((userGetIdentInfoFile_ok_iff hname s).mp hs)
        exact Or.inr ⟨hlen, hflash, hlate⟩
    · rintro (⟨-, hearly⟩ | ⟨hlen, hflash, hlate⟩)
      · exact Or.inl hearly
      · have hread := (readString_cut_iff hword hlong word).mpr ⟨hlen, rfl⟩
        exact Or.inr ⟨hflash, word, (userGetIdentInfoFile_ok_iff hname word).mpr hread, hlate⟩

/-- The exact condition under which a write of the attribute is lawful: it is refused before a
name is read, or the name fits the buffer of the write and, where no capture runs, has the one
length that the copies are right for. -/
theorem ident_name_lawful_iff (d : IdentDevice) (buf : List Byte) :
    d.Lawful buf ↔ d.hdevice = false ∨ d.fAllocated = false ∨ stringOf buf = [] ∨
      ((∃ b ∈ buf, isSpace b = true ∨ b = 0#8) ∧
        (d.fCaptureRunning = true ∨
          (255 ≤ (firstWord (stringOf buf)).length ∧ d.restart.FailsEarly) ∨
          ((firstWord (stringOf buf)).length = 255 ∧ d.restart.ulFlashBased = false ∧
            (d.restart.FailsLate ∨ IsText (firstWord buf))))) := by
  have hhandle : netanaInvalidHandle ≠ netanaNoError := by decide
  have hmemory : netanaOutOfMemory ≠ netanaNoError := by decide
  rw [IdentDevice.Lawful, IdentDevice.netanaIdentUpdate,
    delivers_guard_iff (delivers_error hhandle _ _),
    delivers_guard_iff (delivers_error hmemory _ _)]
  refine or_congr_right (or_congr_right ?_)
  rw [scanWord]
  by_cases hempty : stringOf buf = []
  · rw [if_pos hempty]
    exact iff_of_true (delivers_error (by decide) _ _) (Or.inl hempty)
  rw [if_neg hempty, or_iff_right hempty, ← length_scanned_lt_iff]
  have hword : IsText (firstWord (stringOf buf)) := isText_firstWord (isText_stringOf buf)
  have hstrict : firstWord (stringOf buf) = firstWord buf ↔ IsText (firstWord buf) := by
    rw [firstWord_stringOf, stringOf_eq_self_iff]
  dsimp only
  cases hwrite : write (fresh buf.length) (terminated (firstWord (stringOf buf))) with
  | error e =>
    have hlong : ¬ (firstWord (stringOf buf)).length < buf.length := by
      intro hlt
      have hok := (write_fresh_ok_iff _ _ _).mpr ⟨hlt, rfl⟩
      rw [hwrite] at hok
      cases hok
    apply iff_of_false
    · rintro ⟨u, hu, -⟩
      cases hu
    · exact fun h => hlong h.1
  | ok identInfoFile =>
    obtain ⟨hlt, rfl⟩ := (write_fresh_ok_iff _ _ _).mp hwrite
    rw [and_iff_right hlt, ← hstrict]
    exact word_delivers_iff d hword _ _

/-- A device whose restart goes through. -/
def restartingDevice : IdentDevice where
  hdevice := true
  fAllocated := true
  fCaptureRunning := false
  szIdentInfoFileName := List.replicate netanaMaxFilepath 0#8
  szIdentInfoFileName_length := List.length_replicate
  restart :=
    { lRemoved := netanaNoError
      lCreated := netanaNoError
      ulFlashBased := false
      lCookie := netanaNoError
      lReset := netanaNoError
      fChipSupported := true
      lBootloader := netanaNoError
      usDeviceClass := 1#16
      lIdentDownload := netanaNoError
      lFirmware := netanaNoError }

/-- A name without anything behind it fills the buffer of the write, and its terminator is put
behind the buffer. -/
theorem ident_name_overrun :
    ¬ ∀ (d : IdentDevice) (buf : List Byte), buf ≠ [] → d.Lawful buf := by
  intro hall
  let szFileName : List Byte := [0x61#8, 0x2E#8, 0x6E#8, 0x78#8, 0x6C#8]
  obtain ⟨u, hu, -⟩ := hall restartingDevice szFileName (List.cons_ne_nil _ _)
  have hfault : restartingDevice.netanaIdentUpdate szFileName = .error .writeOutside := rfl
  rw [hfault] at hu
  cases hu

end NetanaDriver
