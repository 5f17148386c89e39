import NetanaDriver.ByteScans
import NetanaDriver.DeviceSession

/-! The names of the devices in `netana_open_device` of the library
(libnetana/netana_functions.c). -/
namespace NetanaDriver
open CBuffers ByteScans

/-- The names in front of the number of a device. -/
def deviceNamePrefixes : List (List Byte) :=
  ["netANALYZER_", "netSCOPE_", "cifXANALYZER_"].map textBytes

/-- `strncmp` of two strings finds no difference in `n` bytes. -/
def strncmpEqual (s t : List Byte) (n : ℕ) : Bool := s.take n == t.take n

/-- The errors of `open` that the function tells apart. -/
inductive OpenErrno where
  | ebusy
  | eacces
  | other
  deriving DecidableEq, Repr

def OpenErrno.lRet : OpenErrno → BitVec 32
  | ebusy => netanaDeviceStillOpen
  | eacces => netanaAccessDenied
  | other => netanaFunctionFailed

/-- What an opening meets on its way: the checks of its arguments and of the driver, the buffers
that it gets, the device file with the error of `open` if it fails, its lock and that of the list
of devices. A number that is no `int` may be stored as any. -/
structure OpenEnv where
  lDriver : BitVec 32
  fNameAllocated : Bool
  overflow : ℕ → BitVec 32
  openErrno : Option OpenErrno
  fLocked : Bool
  fInstanceAllocated : Bool
  fListLocked : Bool

/-- The return value, the name of the device file if one is opened, and the name in the new device
instance. -/
structure OpenResult where
  lRet : BitVec 32
  dev_name : Option (List Char)
  szDeviceName : Option Buffer
  deriving DecidableEq, Repr

/-- `szTmpName` after `sscanf`, which stores nothing where the name starts with a digit. -/
def OpenEnv.szTmpName (env : OpenEnv) (szDevice : List Byte) : Except Fault Buffer :=
  let buffer := if env.fNameAllocated then fresh szDevice.length else []
  if beforeDigit szDevice = [] then .ok buffer
  else write buffer (terminated (beforeDigit szDevice))

/-- The string is compared by its own length. -/
def fNameValid (szTmpName : List Byte) : Bool :=
  deviceNamePrefixes.any fun w => strncmpEqual szTmpName w szTmpName.length

/-- `sscanf` of the number, which stays zero without one. -/
def OpenEnv.iDeviceNum (env : OpenEnv) (szDevice : List Byte) : ℤ :=
  if beforeDigit szDevice = [] then 0
  else
    let digits := (fromDigit szDevice).takeWhile isDigit
    if digits = [] then 0
    else if number digits < 2 ^ 31 then number digits
    else (env.overflow (number digits)).toInt

/-- The name of the device file. -/
def devName (iDeviceNum : ℤ) : List Char :=
  "/dev/netanalyzer_".toList ++ FormattedText.printInt iDeviceNum

/-- The device file is opened and locked, and the name kept in a device instance. -/
def OpenEnv.openFile (env : OpenEnv) (szDevice : List Byte) (dev_name : List Char) :
    Except Fault OpenResult :=
  match env.openErrno with
  | some errno => .ok ⟨errno.lRet, some dev_name, none⟩
  | none =>
    if env.fLocked = false then .ok ⟨netanaInvalidParameter, some dev_name, none⟩
    else if env.fInstanceAllocated = false then .error .writeOutside
    else
      (write (filled (List.replicate netanaMaxDevicenamesize 0#8)) szDevice).map fun d =>
        if env.fListLocked = false then ⟨netanaFunctionFailed, some dev_name, none⟩
        else ⟨netanaNoError, some dev_name, some d⟩

/-- `netana_open_device` of the library, up to the list of its devices. -/
def OpenEnv.netanaOpenDevice (env : OpenEnv) (szDevice : List Byte) : Except Fault OpenResult :=
  if env.lDriver ≠ netanaNoError then .ok ⟨env.lDriver, none, none⟩
  else
    ((env.szTmpName szDevice).bind readString).bind fun szTmpName =>
      if fNameValid szTmpName = false then .ok ⟨netanaDeviceNotFound, none, none⟩
      else env.openFile szDevice (devName (env.iDeviceNum szDevice))

/-- The grammar: a prefix, and one or more digits for the number. -/
def IsDeviceName (szDevice : List Byte) (k : ℕ) : Prop :=
  ∃ w ∈ deviceNamePrefixes, ∃ ds, ds ≠ [] ∧ (∀ b ∈ ds, isDigit b = true) ∧ number ds = k ∧
    szDevice = w ++ ds

/-- A name of the grammar gets its device file opened, and no other name does; nothing is read or
written outside of the buffers. -/
def OpenEnv.Lawful (env : OpenEnv) (szDevice : Text) : Prop :=
  env.lDriver = netanaNoError → ∃ r, env.netanaOpenDevice szDevice.bytes = .ok r ∧
    (∀ k : ℕ, r.dev_name = some (devName k) ↔ IsDeviceName szDevice.bytes k) ∧
    ((∀ k, ¬ IsDeviceName szDevice.bytes k) →
      r.dev_name = none ∧ r.lRet = netanaDeviceNotFound)

theorem prefix_no_digit {w : List Byte} (hw : w ∈ deviceNamePrefixes) :
    ∀ b ∈ w, isDigit b = false := by
  have hall : (deviceNamePrefixes.all fun w => w.all fun b => !isDigit b) = true := by
    decide +kernel
  intro b hb
  exact (Bool.not_eq_true' _).mp (List.all_eq_true.mp (List.all_eq_true.mp hall w hw) b hb)

/-- The grammar by the parts that the function looks at. -/
theorem isDeviceName_iff (szDevice : List Byte) (k : ℕ) :
    IsDeviceName szDevice k ↔ beforeDigit szDevice ∈ deviceNamePrefixes ∧
      fromDigit szDevice ≠ [] ∧ (∀ b ∈ fromDigit szDevice, isDigit b = true) ∧
        number (fromDigit szDevice) = k := by
  constructor
  · rintro ⟨w, hw, ds, hne, hds, hk, rfl⟩
    obtain ⟨hbefore, hfrom⟩ := split_at_digits (prefix_no_digit hw) hds
    rw [hbefore, hfrom]
    exact ⟨hw, hne, hds, hk⟩
  · rintro ⟨hw, hne, hds, hk⟩
    exact ⟨_, hw, _, hne, hds, hk, (beforeDigit_append_fromDigit szDevice).symm⟩

theorem devName_eq_iff (i : ℤ) (k : ℕ) : devName i = devName k ↔ i = k := by
  have hk : FormattedText.printInt k = FormattedText.printNat 10 k :=
    (FormattedText.printInt_eq_printNat_iff k k).mpr rfl
  unfold devName
  calc "/dev/netanalyzer_".toList ++ FormattedText.printInt i =
        "/dev/netanalyzer_".toList ++ FormattedText.printInt k
      ↔ FormattedText.printInt i = FormattedText.printInt k := List.append_right_inj _
    _ ↔ FormattedText.printInt i = FormattedText.printNat 10 k := by rw [hk]
    _ ↔ i = k := FormattedText.printInt_eq_printNat_iff i k

theorem fNameValid_iff (szTmpName : List Byte) :
    fNameValid szTmpName = true ↔ ∃ w ∈ deviceNamePrefixes, szTmpName <+: w := by
  rw [fNameValid, List.any_eq_true]
  apply exists_congr
  intro w
  rw [strncmpEqual, List.take_length, beq_iff_eq, ← List.prefix_iff_eq_take]

/-- The bytes in front of the first digit are read back where there are any, and where the digit
leaves room for their terminator. -/
theorem szTmpName_ok_iff (env : OpenEnv) (szDevice : Text) (szTmpName : List Byte) :
    (env.szTmpName szDevice.bytes).bind readString = .ok szTmpName ↔
      env.fNameAllocated = true ∧ beforeDigit szDevice.bytes ≠ [] ∧
        fromDigit szDevice.bytes ≠ [] ∧ szTmpName = beforeDigit szDevice.bytes := by
  have htext : IsText (beforeDigit szDevice.bytes) := fun b hb =>
    szDevice.isText b ((List.takeWhile_sublist _).subset hb)
  rw [OpenEnv.szTmpName, bind_ok_iff]
  by_cases hempty : beforeDigit szDevice.bytes = []
  · -- nothing has been written to the buffer
    rw [if_pos hempty]
    apply iff_of_false
    · rintro ⟨b, hb, hread⟩
      cases hb
      cases halloc : env.fNameAllocated with
      | false =>
        rw [halloc] at hread
        cases hread
      | true =>
        rw [halloc, if_pos rfl] at hread
        cases hs : szDevice.bytes with
        | nil =>
          rw [hs] at hread
          cases hread
        | cons c s =>
          rw [hs] at hread
          cases hread
    · exact fun h => h.2.1 hempty
  · rw [if_neg hempty]
    cases env.fNameAllocated with
    | false =>
      apply iff_of_false
      · rintro ⟨b, hb, -⟩
        obtain ⟨hle, -⟩ := (write_ok_iff _ _ _).mp hb
        rw [length_terminated] at hle
        exact absurd hle (Nat.not_succ_le_zero _)
      · rintro ⟨h, -⟩
        cases h
    | true =>
      rw [if_pos rfl]
      constructor
      · rintro ⟨b, hb, hread⟩
        obtain ⟨hlt, rfl⟩ := (write_fresh_ok_iff _ _ _).mp hb
        rw [readString_terminated htext] at hread
        cases hread
        exact ⟨rfl, hempty, (length_beforeDigit_lt_iff _).mp hlt, rfl⟩
      · rintro ⟨-, -, hdigit, rfl⟩
        have hlt := (length_beforeDigit_lt_iff _).mpr hdigit
        exact ⟨_, (write_fresh_ok_iff _ _ _).mpr ⟨hlt, rfl⟩, readString_terminated htext _⟩

/-- The number that is stored for a name of digits. -/
theorem iDeviceNum_eq_iff (env : OpenEnv) {szDevice : List Byte}
    (hbefore : beforeDigit szDevice ≠ []) (hfrom : fromDigit szDevice ≠ [])
    (hdigits : ∀ b ∈ fromDigit szDevice, isDigit b = true) :
    env.iDeviceNum szDevice = number (fromDigit szDevice) ↔
      number (fromDigit szDevice) < 2 ^ 31 := by
  have hall : (fromDigit szDevice).takeWhile isDigit = fromDigit szDevice :=
    List.takeWhile_eq_self_iff.mpr hdigits
  rw [OpenEnv.iDeviceNum, if_neg hbefore]
  dsimp only
  rw [hall, if_neg hfrom]
  by_cases hlt : number (fromDigit szDevice) < 2 ^ 31
  · rw [if_pos hlt]
    exact iff_of_true rfl hlt
  · rw [if_neg hlt]
    apply iff_of_false
    · intro h
      have hint := (env.overflow (number (fromDigit szDevice))).toInt_lt
      omega
    · exact hlt

theorem openFile_dev_name {env : OpenEnv} {szDevice : List Byte} {dev_name : List Char}
    {r : OpenResult} (h : env.openFile szDevice dev_name = .ok r) : r.dev_name = some dev_name := by
  rw [OpenEnv.openFile] at h
  cases hopen : env.openErrno with
  | some errno =>
    rw [hopen] at h
    cases h
    rfl
  | none =>
    rw [hopen] at h
    dsimp only at h
    split at h
    · cases h
      rfl
    · split at h
      · cases h
      · obtain ⟨d, -, rfl⟩ := (map_ok_iff _ _ _).mp h
        split
        · rfl
        · rfl

/-- What is needed for the device instance, once the file is open and locked. -/
def OpenEnv.Keeps (env : OpenEnv) (szDevice : List Byte) : Prop :=
  env.openErrno = none → env.fLocked = true →
    env.fInstanceAllocated = true ∧ szDevice.length ≤ netanaMaxDevicenamesize

theorem openFile_ok_iff (env : OpenEnv) (szDevice : List Byte) (dev_name : List Char) :
    (∃ r, env.openFile szDevice dev_name = .ok r) ↔ env.Keeps szDevice := by
  rw [OpenEnv.openFile, OpenEnv.Keeps]
  cases env.openErrno with
  | some errno => exact iff_of_true ⟨_, rfl⟩ (fun h => by cases h)
  | none =>
    cases env.fLocked with
    | false => exact iff_of_true ⟨_, rfl⟩ (fun _ h => by cases h)
    | true =>
      cases env.fInstanceAllocated with
      | false =>
        apply iff_of_false
        · rintro ⟨r, hr⟩
          cases hr
        · intro h
          cases (h rfl rfl).1
      | true =>
        constructor
        · rintro ⟨r, hr⟩ - -
          obtain ⟨d, hd, -⟩ := (map_ok_iff _ _ _).mp hr
          obtain ⟨hle, -⟩ := (write_ok_iff _ _ _).mp hd
          rw [length_filled, List.length_replicate] at hle
          exact ⟨rfl, hle⟩
        · intro h
          have hle : szDevice.length ≤
              (filled (List.replicate netanaMaxDevicenamesize 0#8)).length := by
            rw [length_filled, List.length_replicate]
            exact (h rfl rfl).2
          exact ⟨_, (map_ok_iff _ _ _).mpr ⟨_, (write_ok_iff _ _ _).mpr ⟨hle, rfl⟩, rfl⟩⟩

/-- A name with one of the prefixes in full and with a number that is an `int`. -/
def ProperName (szDevice : List Byte) : Prop :=
  beforeDigit szDevice ∈ deviceNamePrefixes ∧ (∀ b ∈ fromDigit szDevice, isDigit b = true) ∧
    number (fromDigit szDevice) < 2 ^ 31

/-- With a name that is accepted, the law holds for the names of the grammar that fit. -/
theorem accepted_lawful_iff (env : OpenEnv) {szDevice : List Byte}
    (hbefore : beforeDigit szDevice ≠ []) (hfrom : fromDigit szDevice ≠ []) :
    (∃ r, env.openFile szDevice (devName (env.iDeviceNum szDevice)) = .ok r ∧
      (∀ k : ℕ, r.dev_name = some (devName k) ↔ IsDeviceName szDevice k) ∧
      ((∀ k, ¬ IsDeviceName szDevice k) →
        r.dev_name = none ∧ r.lRet = netanaDeviceNotFound)) ↔
      ProperName szDevice ∧ env.Keeps szDevice := by
  constructor
  · rintro ⟨r, hr, hopens, hnone⟩
    have hkeeps := (openFile_ok_iff env szDevice _).mp ⟨r, hr⟩
    have hname := openFile_dev_name hr
    -- a file is opened, so there is a number that the grammar gives
    obtain ⟨k, hk⟩ : ∃ k, IsDeviceName szDevice k := by
      by_contra hno
      have hnot := (hnone (not_exists.mp hno)).1
      rw [hname] at hnot
      cases hnot
    obtain ⟨hw, -, hdigits, hnumber⟩ := (isDeviceName_iff szDevice k).mp hk
    have hfile := (hopens k).mpr hk
    rw [hname, Option.some.injEq, devName_eq_iff, ← hnumber] at hfile
    exact ⟨⟨hw, hdigits, (iDeviceNum_eq_iff env hbefore hfrom hdigits).mp hfile⟩, hkeeps⟩
  · rintro ⟨⟨hw, hdigits, hlt⟩, hkeeps⟩
    obtain ⟨r, hr⟩ := (openFile_ok_iff env szDevice (devName (env.iDeviceNum szDevice))).mpr hkeeps
    have hname := openFile_dev_name hr
    have hnum := (iDeviceNum_eq_iff env hbefore hfrom hdigits).mpr hlt
    refine ⟨r, hr, ?_, ?_⟩
    · intro k
      rw [hname, Option.some.injEq, devName_eq_iff, hnum, isDeviceName_iff, Int.natCast_inj]
      exact ⟨fun h => ⟨hw, hfrom, hdigits, h⟩, fun h => h.2.2.2⟩
    · intro hno
      exact absurd ((isDeviceName_iff _ _).mpr ⟨hw, hfrom, hdigits, rfl⟩) (hno _)

/-- The exact condition under which a name is opened as the grammar says. -/
theorem open_device_lawful_iff (env : OpenEnv) (szDevice : Text) :
    env.Lawful szDevice ↔ env.lDriver ≠ netanaNoError ∨
      (env.fNameAllocated = true ∧ beforeDigit szDevice.bytes ≠ [] ∧
        fromDigit szDevice.bytes ≠ [] ∧
          ((∀ w ∈ deviceNamePrefixes, ¬ beforeDigit szDevice.bytes <+: w) ∨
            (ProperName szDevice.bytes ∧ env.Keeps szDevice.bytes))) := by
  by_cases hdriver : env.lDriver = netanaNoError
  swap
  · exact iff_of_true (fun h => absurd h hdriver) (Or.inl hdriver)
  rw [OpenEnv.Lawful, OpenEnv.netanaOpenDevice, if_neg (not_not.mpr hdriver),
    forall_prop_of_true hdriver, or_iff_right (not_not.mpr hdriver)]
  cases hname : (env.szTmpName szDevice.bytes).bind readString with
  | error e =>
    apply iff_of_false
    · rintro ⟨r, hr, -⟩
      cases hr
    · rintro ⟨halloc, hbefore, hfrom, -⟩
      rw [(szTmpName_ok_iff env szDevice _).mpr ⟨halloc, hbefore, hfrom, rfl⟩] at hname
      cases hname
  | ok szTmpName =>
    obtain ⟨halloc, hbefore, hfrom, rfl⟩ := (szTmpName_ok_iff env szDevice szTmpName).mp hname
    rw [and_iff_right halloc, and_iff_right hbefore, and_iff_right hfrom]
    dsimp only [Except.bind]
    by_cases hvalid : fNameValid (beforeDigit szDevice.bytes) = false
    · -- a name that is not found has no prefix of the grammar either
      have hprefix : ∀ w ∈ deviceNamePrefixes, ¬ beforeDigit szDevice.bytes <+: w := by
        intro w hw hpre
        rw [(fNameValid_iff _).mpr ⟨w, hw, hpre⟩] at hvalid
        cases hvalid
      have hno (k : ℕ) : ¬ IsDeviceName szDevice.bytes k := fun hk =>
        hprefix _ ((isDeviceName_iff _ _).mp hk).1 List.prefix_rfl
      rw [if_pos hvalid]
      refine iff_of_true ⟨_, rfl, ?_, fun _ => ⟨rfl, rfl⟩⟩ (Or.inl hprefix)
      exact fun k => iff_of_false (fun h => by cases h) (hno k)
    · have hfound := (fNameValid_iff _).mp ((Bool.not_eq_false _).mp hvalid)
      have hprefix : ¬ ∀ w ∈ deviceNamePrefixes, ¬ beforeDigit szDevice.bytes <+: w := by
        intro hall
        obtain ⟨w, hw, hpre⟩ := hfound
        exact hall w hw hpre
      rw [if_neg hvalid, or_iff_right hprefix]
      exact accepted_lawful_iff env hbefore hfrom

/-- A name without a digit fills the temporary string, and its terminator is put behind it. -/
theorem open_device_overrun : ¬ ∀ (env : OpenEnv) (szDevice : Text), env.Lawful szDevice := by
  intro hall
  have htext : IsText (textBytes "netANALYZER_") := by decide +kernel
  let env : OpenEnv := ⟨netanaNoError, true, fun _ => 0#32, none, true, true, true⟩
  obtain ⟨r, hr, -⟩ := hall env ⟨textBytes "netANALYZER_", htext⟩ rfl
  have hfault : env.netanaOpenDevice (textBytes "netANALYZER_") = .error .writeOutside := by
    decide +kernel
  rw [hfault] at hr
  cases hr

end NetanaDriver
