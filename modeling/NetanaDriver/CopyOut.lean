import NetanaDriver.CBuffers
import NetanaDriver.CaptureFiles
import NetanaDriver.DeviceInfoFile
import NetanaDriver.DeviceSession

/-! The copies into the buffers of the callers: the information functions of the toolkit
(toolkit/netana_functions.c) and of the library (libnetana/netana_functions.c). -/
namespace NetanaDriver
open CBuffers

/-- The functions that return a record into a buffer of a size that the caller gives. -/
inductive InfoFunction where
  | driverInformation
  | enumDevice
  | deviceInfo
  | getPortstat
  | fileInfo
  | getDeviceIdent
  | getDevFeature
  deriving DecidableEq, Repr

/-- The sizes of the packed records. -/
def InfoFunction.recordSize : InfoFunction → ℕ
  | driverInformation => 68
  | enumDevice => deviceInformationSize
  | deviceInfo => deviceInformationSize
  | getPortstat => 104
  | fileInfo => 28
  | getDeviceIdent => 26
  | getDevFeature => 72

/-- A call of one side: the record, the caller's buffer with its size, what the function returns if
a step before the copy fails, and the error that the driver keeps for the process. The library
returns what `get_error` reads, which is no error where the driver keeps none. -/
structure InfoCall where
  record : List Byte
  ulSize : BitVec 32
  buffer : Buffer
  lBefore : Option (BitVec 32)
  lError : BitVec 32

/-- What a side finds for the driver information: the cards and the DMA buffers. -/
structure DriverCounts where
  ulCardCnt : BitVec 32
  ulDMABufferSize : BitVec 32
  ulDMABufferCount : BitVec 32

structure VersionWords where
  ulMajor : ℕ
  ulMinor : ℕ
  ulBuild : ℕ
  ulRevision : ℕ

def netanaDriverVersion : VersionWords := ⟨1, 0, 6, 0⟩

def netanaToolkitVersion : VersionWords := ⟨1, 7, 0, 0⟩

/-- The words of the driver information, on a little-endian host. Nobody fills the last five, the
status and the version of the marshaller. -/
def driverInformationRecord (d : DriverCounts) (driver toolkit : VersionWords) : List Byte :=
  [d.ulCardCnt.toNat,
    driver.ulMajor, driver.ulMinor, driver.ulBuild, driver.ulRevision,
    netanaMaxFiles, d.ulDMABufferSize.toNat, d.ulDMABufferCount.toNat,
    toolkit.ulMajor, toolkit.ulMinor, toolkit.ulBuild, toolkit.ulRevision,
    0, 0, 0, 0, 0].flatMap (LittleEndian.bytes 4)

/-- The toolkit leaves the version of the driver at zero. -/
def toolkitDriverRecord (d : DriverCounts) : List Byte :=
  driverInformationRecord d ⟨0, 0, 0, 0⟩ netanaToolkitVersion

/-- The library reads both versions from the driver, but only for a caller that asks for the whole
record. -/
def libDriverRecord (d : DriverCounts) (ulSize : BitVec 32) : List Byte :=
  if ulSize.toNat = InfoFunction.driverInformation.recordSize then
    driverInformationRecord d netanaDriverVersion netanaToolkitVersion
  else driverInformationRecord d ⟨0, 0, 0, 0⟩ ⟨0, 0, 0, 0⟩

/-- What one side has of its own: what it finds for the driver information, the record of another
function, and whether a step before the copy fails. -/
structure InfoSide where
  counts : DriverCounts
  record : List Byte
  lBefore : Option (BitVec 32)

/-- The same call of both sides. -/
structure InfoRequest where
  ulSize : BitVec 32
  buffer : Buffer
  lError : BitVec 32
  toolkit : InfoSide
  lib : InfoSide

/-- The call in the toolkit, where nothing can fail before the copy of the driver information. -/
def InfoRequest.onToolkit (q : InfoRequest) : InfoFunction → InfoCall
  | .driverInformation =>
    ⟨toolkitDriverRecord q.toolkit.counts, q.ulSize, q.buffer, none, q.lError⟩
  | _ => ⟨q.toolkit.record, q.ulSize, q.buffer, q.toolkit.lBefore, q.lError⟩

/-- The call in the library. -/
def InfoRequest.onLib (q : InfoRequest) : InfoFunction → InfoCall
  | .driverInformation =>
    ⟨libDriverRecord q.lib.counts q.ulSize, q.ulSize, q.buffer, q.lib.lBefore, q.lError⟩
  | _ => ⟨q.lib.record, q.ulSize, q.buffer, q.lib.lBefore, q.lError⟩

/-- The return value, and the caller's buffer afterwards. -/
abbrev InfoResult := Except Fault (BitVec 32 × Buffer)

/-- A copy of `ulCopySize` bytes of the record at the end of a function. -/
def InfoCall.copy (c : InfoCall) (ulCopySize : ℕ) : InfoResult :=
  match c.lBefore with
  | some lRet => .ok (lRet, c.buffer)
  | none => (memcpy c.buffer (filled c.record) ulCopySize).map fun d => (netanaNoError, d)

/-! The toolkit. -/

def toolkitDriverInformation (c : InfoCall) : InfoResult := c.copy c.ulSize.toNat

def generateDeviceInformationCopy (c : InfoCall) : InfoResult := c.copy c.ulSize.toNat

def toolkitEnumDevice (c : InfoCall) : InfoResult := generateDeviceInformationCopy c

def toolkitDeviceInfo (c : InfoCall) : InfoResult := generateDeviceInformationCopy c

def toolkitGetPortstat (c : InfoCall) : InfoResult :=
  c.copy (min c.ulSize.toNat InfoFunction.getPortstat.recordSize)

def toolkitFileInfo (c : InfoCall) : InfoResult :=
  c.copy (min c.ulSize.toNat InfoFunction.fileInfo.recordSize)

def toolkitGetDeviceIdent (c : InfoCall) : InfoResult :=
  if c.ulSize.toNat > InfoFunction.getDeviceIdent.recordSize then
    .ok (netanaInvalidBuffersize, c.buffer)
  else c.copy c.ulSize.toNat

def toolkitGetDevFeature (c : InfoCall) : InfoResult :=
  c.copy (if c.ulSize.toNat > InfoFunction.getDevFeature.recordSize then
    InfoFunction.getDevFeature.recordSize else c.ulSize.toNat)

/-! The library. -/

def libDriverInformation (c : InfoCall) : InfoResult := c.copy c.ulSize.toNat

/-- `fread` of `ulSize` bytes from the file with the record, which has to deliver all of them. -/
def readDeviceInfo (c : InfoCall) : InfoResult :=
  match c.lBefore with
  | some lRet => .ok (lRet, c.buffer)
  | none =>
    let read := c.record.take c.ulSize.toNat
    (write c.buffer read).map fun d =>
      (if read.length ≠ deviceInformationSize then c.lError else netanaNoError, d)

def libEnumDevice (c : InfoCall) : InfoResult := readDeviceInfo c

def libDeviceInfo (c : InfoCall) : InfoResult := readDeviceInfo c

def libGetPortstat (c : InfoCall) : InfoResult := c.copy c.ulSize.toNat

def libFileInfo (c : InfoCall) : InfoResult :=
  c.copy (min c.ulSize.toNat InfoFunction.fileInfo.recordSize)

def libGetDeviceIdent (c : InfoCall) : InfoResult :=
  if c.ulSize.toNat > InfoFunction.getDeviceIdent.recordSize then
    .ok (netanaInvalidBuffersize, c.buffer)
  else c.copy c.ulSize.toNat

/-- A size that is smaller than the record becomes that of the record. -/
def libGetDevFeature (c : InfoCall) : InfoResult :=
  if c.ulSize = 0#32 then .ok (netanaInvalidParameter, c.buffer)
  else
    c.copy (if c.ulSize.toNat < InfoFunction.getDevFeature.recordSize then
      InfoFunction.getDevFeature.recordSize else c.ulSize.toNat)

def toolkitCall : InfoFunction → InfoCall → InfoResult
  | .driverInformation => toolkitDriverInformation
  | .enumDevice => toolkitEnumDevice
  | .deviceInfo => toolkitDeviceInfo
  | .getPortstat => toolkitGetPortstat
  | .fileInfo => toolkitFileInfo
  | .getDeviceIdent => toolkitGetDeviceIdent
  | .getDevFeature => toolkitGetDevFeature

def libCall : InfoFunction → InfoCall → InfoResult
  | .driverInformation => libDriverInformation
  | .enumDevice => libEnumDevice
  | .deviceInfo => libDeviceInfo
  | .getPortstat => libGetPortstat
  | .fileInfo => libFileInfo
  | .getDeviceIdent => libGetDeviceIdent
  | .getDevFeature => libGetDevFeature

/-- The record has the size of the function, and the buffer the size that the caller gives. -/
structure InfoCall.Fits (c : InfoCall) (f : InfoFunction) : Prop where
  record : c.record.length = f.recordSize
  buffer : c.buffer.length = c.ulSize.toNat

/-- The buffer after the first bytes of the record have been copied, as many as fit. -/
def InfoCall.copied (c : InfoCall) : Buffer :=
  filled (c.record.take c.ulSize.toNat) ++ c.buffer.drop c.record.length

/-- No byte is read outside of the record or written outside of the buffer, and on success there
is a record, and the buffer holds what fits of it. -/
def InfoCall.Lawful (c : InfoCall) (r : InfoResult) : Prop :=
  ∃ lRet d, r = .ok (lRet, d) ∧ (lRet = netanaNoError → c.lBefore = none ∧ d = c.copied)

/-- Both calls succeed and leave the same in the buffer, or both fail. -/
def Agree (r s : InfoResult) : Prop :=
  ∃ lRet lRet' d d', r = .ok (lRet, d) ∧ s = .ok (lRet', d') ∧
    (lRet = netanaNoError ↔ lRet' = netanaNoError) ∧ (lRet = netanaNoError → d = d')

/-- Both calls have a record of the size of the function and the caller's buffer. -/
structure InfoRequest.Fits (q : InfoRequest) (f : InfoFunction) : Prop where
  toolkit : (q.onToolkit f).Fits f
  lib : (q.onLib f).Fits f

/-- Both sides are lawful, and agree. -/
def InfoRequest.Law (q : InfoRequest) (f : InfoFunction) : Prop :=
  (q.onToolkit f).Lawful (toolkitCall f (q.onToolkit f)) ∧
    (q.onLib f).Lawful (libCall f (q.onLib f)) ∧
    Agree (toolkitCall f (q.onToolkit f)) (libCall f (q.onLib f))

/-- A step before the copy fails, with an error. -/
def InfoCall.FailsBefore (c : InfoCall) : Prop :=
  ∃ lRet, c.lBefore = some lRet ∧ lRet ≠ netanaNoError

/-- Where the toolkit returns an error. -/
def InfoCall.ToolkitFails (c : InfoCall) (f : InfoFunction) : Prop :=
  c.FailsBefore ∨ (f = .getDeviceIdent ∧ 26 < c.ulSize.toNat)

/-- Where the library returns an error. -/
def InfoCall.LibFails (c : InfoCall) (f : InfoFunction) : Prop :=
  c.FailsBefore ∨
    match f with
    | .enumDevice | .deviceInfo =>
      c.lBefore = none ∧ c.ulSize.toNat < deviceInformationSize ∧ c.lError ≠ netanaNoError
    | .getDeviceIdent => 26 < c.ulSize.toNat
    | .getDevFeature => c.ulSize = 0#32
    | _ => False

/-- The sizes at which a function is lawful on both sides, and both agree. -/
def InfoFunction.GoodSize (ulSize lError : BitVec 32) : InfoFunction → Prop
  | driverInformation => ulSize.toNat ≤ 32
  | enumDevice | deviceInfo =>
    ulSize.toNat = deviceInformationSize ∨
      (ulSize.toNat < deviceInformationSize ∧ lError = netanaNoError)
  | getPortstat => ulSize.toNat ≤ 104
  | fileInfo => True
  | getDeviceIdent => ulSize.toNat ≤ 26
  | getDevFeature => ulSize.toNat = 72

/-- Both sides have the same where the caller reads it. -/
def InfoRequest.SameBytes (q : InfoRequest) (f : InfoFunction) : Prop :=
  (q.onToolkit f).record.take q.ulSize.toNat = (q.onLib f).record.take q.ulSize.toNat

variable {c : InfoCall} {f : InfoFunction}

/-- A copy stays in bounds exactly up to the smaller of record and buffer. -/
theorem copy_ok_iff (hc : c.Fits f) (hbefore : c.lBefore = none) (n : ℕ)
    (r : BitVec 32 × Buffer) : c.copy n = .ok r ↔
      n ≤ c.record.length ∧ n ≤ c.ulSize.toNat ∧
        r = (netanaNoError, filled (c.record.take n) ++ c.buffer.drop n) := by
  rw [InfoCall.copy, hbefore, map_ok_iff]
  constructor
  · rintro ⟨d, hd, rfl⟩
    obtain ⟨hle, bs, rest, hlen, hsrc, rfl⟩ := (memcpy_ok_iff _ _ _ _).mp hd
    rw [hc.buffer] at hle
    have hcount := congrArg List.length hsrc
    rw [length_filled, List.length_append, length_filled, hlen] at hcount
    have hread := (read_ok_iff _ _ _).mpr ⟨hlen, rest, hsrc⟩
    rw [read_filled (by omega)] at hread
    cases hread
    exact ⟨by omega, hle, rfl⟩
  · rintro ⟨hrecord, hsize, rfl⟩
    refine ⟨_, (memcpy_ok_iff _ _ _ _).mpr ⟨hc.buffer.symm ▸ hsize, c.record.take n,
      filled (c.record.drop n), List.length_take_of_le hrecord, ?_, rfl⟩, rfl⟩
    rw [← filled_append, List.take_append_drop]

/-- What the clamped copy leaves is what the law asks for. -/
theorem copied_eq (hc : c.Fits f) {n : ℕ} (hn : n = min c.ulSize.toNat c.record.length) :
    filled (c.record.take n) ++ c.buffer.drop n = c.copied := by
  rw [InfoCall.copied, hn]
  rcases Nat.le_total c.ulSize.toNat c.record.length with hle | hle
  · have hend : c.buffer.drop c.ulSize.toNat = [] := by
      rw [← hc.buffer]
      exact List.drop_length
    have hend' : c.buffer.drop c.record.length = [] := by
      apply List.drop_of_length_le
      rw [hc.buffer]
      exact hle
    rw [Nat.min_eq_left hle, hend, hend']
  · rw [Nat.min_eq_right hle, List.take_length, List.take_of_length_le hle]

/-- A step that fails ends the function, and it is lawful then only if there is an error. -/
theorem failsBefore_of_lawful {lRet : BitVec 32} (hbefore : c.lBefore = some lRet)
    (h : c.Lawful (.ok (lRet, c.buffer))) : c.FailsBefore := by
  refine ⟨lRet, hbefore, fun hzero => ?_⟩
  obtain ⟨lRet', d, hr, hnone⟩ := h
  cases hr
  rw [hbefore] at hnone
  cases (hnone hzero).1

/-- A side either returns an error, or it is lawful where it has a record and at its sizes alone,
and then it succeeds. -/
structure SideSpec (c : InfoCall) (r : InfoResult) (fails size : Prop) : Prop where
  failed : fails → ∃ lRet d, lRet ≠ netanaNoError ∧ r = .ok (lRet, d)
  lawful : ¬ fails → c.Lawful r → c.lBefore = none ∧ size
  succeeds : ¬ fails → c.lBefore = none → size → r = .ok (netanaNoError, c.copied)

/-- The law for both sides comes down to the two specifications. -/
theorem law_iff {t l : InfoCall} {r s : InfoResult} {tFails tSize lFails lSize : Prop}
    (ht : SideSpec t r tFails tSize) (hl : SideSpec l s lFails lSize) :
    (t.Lawful r ∧ l.Lawful s ∧ Agree r s) ↔
      (tFails ∧ lFails) ∨ (¬ tFails ∧ ¬ lFails ∧ (t.lBefore = none ∧ tSize) ∧
        (l.lBefore = none ∧ lSize) ∧ t.copied = l.copied) := by
  by_cases htoolkit : tFails
  · obtain ⟨lRet, d, hne, rfl⟩ := ht.failed htoolkit
    by_cases hlib : lFails
    · obtain ⟨lRet', d', hne', rfl⟩ := hl.failed hlib
      refine ⟨fun _ => Or.inl ⟨htoolkit, hlib⟩, fun _ => ⟨?_, ?_, ?_⟩⟩
      · exact ⟨_, _, rfl, fun h => absurd h hne⟩
      · exact ⟨_, _, rfl, fun h => absurd h hne'⟩
      · exact ⟨_, _, _, _, rfl, rfl, ⟨fun h => absurd h hne, fun h => absurd h hne'⟩,
          fun h => absurd h hne⟩
    · constructor
      · rintro ⟨-, hlawful, lRet', lRet'', d', d'', hr, hs, hret, -⟩
        obtain ⟨hrecord, hsize⟩ := hl.lawful hlib hlawful
        rw [hl.succeeds hlib hrecord hsize] at hs
        cases hr
        cases hs
        exact absurd (hret.mpr rfl) hne
      · rintro (⟨-, h⟩ | ⟨h, -⟩)
        · exact absurd h hlib
        · exact absurd htoolkit h
  · by_cases hlib : lFails
    · obtain ⟨lRet, d, hne, rfl⟩ := hl.failed hlib
      constructor
      · rintro ⟨hlawful, -, lRet', lRet'', d', d'', hr, hs, hret, -⟩
        obtain ⟨hrecord, hsize⟩ := ht.lawful htoolkit hlawful
        rw [ht.succeeds htoolkit hrecord hsize] at hr
        cases hr
        cases hs
        exact absurd (hret.mp rfl) hne
      · rintro (⟨h, -⟩ | ⟨-, h, -⟩)
        · exact absurd h htoolkit
        · exact absurd hlib h
    · constructor
      · rintro ⟨hr, hs, lRet, lRet', d, d', hr', hs', -, hsame⟩
        have htSize := ht.lawful htoolkit hr
        have hlSize := hl.lawful hlib hs
        rw [ht.succeeds htoolkit htSize.1 htSize.2] at hr'
        rw [hl.succeeds hlib hlSize.1 hlSize.2] at hs'
        cases hr'
        cases hs'
        exact Or.inr ⟨htoolkit, hlib, htSize, hlSize, hsame rfl⟩
      · rintro (⟨h, -⟩ | ⟨-, -, htSize, hlSize, hsame⟩)
        · exact absurd h htoolkit
        · have hr := ht.succeeds htoolkit htSize.1 htSize.2
          have hs := hl.succeeds hlib hlSize.1 hlSize.2
          exact ⟨⟨_, _, hr, fun _ => ⟨htSize.1, rfl⟩⟩, ⟨_, _, hs, fun _ => ⟨hlSize.1, rfl⟩⟩,
            _, _, _, _, hr, hs, Iff.rfl, fun _ => hsame⟩

/-- A copy that is not too short is lawful exactly where its length is the smaller of both sizes. -/
theorem copy_spec (hc : c.Fits f) {n : ℕ} (hmin : min c.ulSize.toNat c.record.length ≤ n) :
    SideSpec c (c.copy n) c.FailsBefore (n = min c.ulSize.toNat c.record.length) where
  failed := by
    rintro ⟨lRet, hbefore, hne⟩
    exact ⟨lRet, c.buffer, hne, by rw [InfoCall.copy, hbefore]⟩
  lawful hsucceeds hlawful := by
    cases hbefore : c.lBefore with
    | some lRet =>
      rw [InfoCall.copy, hbefore] at hlawful
      exact absurd (failsBefore_of_lawful hbefore hlawful) hsucceeds
    | none =>
      obtain ⟨lRet, d, hr, -⟩ := hlawful
      obtain ⟨hrecord, hsize, -⟩ := (copy_ok_iff hc hbefore n _).mp hr
      exact ⟨rfl, by omega⟩
  succeeds _ hbefore hn := by
    rw [← copied_eq hc hn]
    exact (copy_ok_iff hc hbefore n _).mpr ⟨by omega, by omega, rfl⟩

/-- The same specification in other words. -/
theorem SideSpec.congr {r : InfoResult} {fails size fails' size' : Prop}
    (h : SideSpec c r fails size) (hfails : fails' ↔ fails) (hsize : ¬ fails' → (size' ↔ size)) :
    SideSpec c r fails' size' where
  failed hf := h.failed (hfails.mp hf)
  lawful hf hr := (h.lawful (mt hfails.mpr hf) hr).imp_right (hsize hf).mpr
  succeeds hf hn hs := h.succeeds (mt hfails.mpr hf) hn ((hsize hf).mp hs)

/-- A function that refuses some calls before it comes to its steps. -/
theorem refuse_spec {r : InfoResult} {refuses fails size : Prop} [Decidable refuses]
    {lRefused : BitVec 32} (hne : lRefused ≠ netanaNoError)
    (h : ¬ refuses → SideSpec c r fails size) :
    SideSpec c (if refuses then .ok (lRefused, c.buffer) else r) (fails ∨ refuses) size := by
  by_cases hrefuses : refuses
  · rw [if_pos hrefuses]
    exact ⟨fun _ => ⟨_, _, hne, rfl⟩, fun hnot => absurd (Or.inr hrefuses) hnot,
      fun hnot => absurd (Or.inr hrefuses) hnot⟩
  · rw [if_neg hrefuses]
    exact (h hrefuses).congr (or_iff_left hrefuses) fun _ => Iff.rfl

/-- A copy of the whole size. -/
theorem unclamped_spec (hc : c.Fits f) :
    SideSpec c (c.copy c.ulSize.toNat) c.FailsBefore (c.ulSize.toNat ≤ f.recordSize) := by
  apply (copy_spec hc (Nat.min_le_left _ _)).congr Iff.rfl
  intro _
  rw [hc.record]
  omega

/-- A copy of the smaller one of both sizes. -/
theorem clamped_spec (hc : c.Fits f) :
    SideSpec c (c.copy (min c.ulSize.toNat f.recordSize)) c.FailsBefore True := by
  rw [← hc.record]
  exact (copy_spec hc (le_refl _)).congr Iff.rfl fun _ => (iff_of_true trivial rfl)

/-- The ident function, the same on both sides. -/
theorem deviceIdent_spec (hc : c.Fits .getDeviceIdent) :
    SideSpec c (toolkitGetDeviceIdent c) (c.FailsBefore ∨ 26 < c.ulSize.toNat) True := by
  apply refuse_spec (by decide)
  intro hsmall
  apply (unclamped_spec hc).congr Iff.rfl
  exact fun _ => ⟨fun _ => not_lt.mp hsmall, fun _ => trivial⟩

/-- The read of the device information stays in bounds, and fails where the size is too small,
unless no error is kept. -/
theorem readDeviceInfo_eq (hc : c.Fits .deviceInfo) (hbefore : c.lBefore = none) :
    readDeviceInfo c = .ok (if c.ulSize.toNat < deviceInformationSize then c.lError
      else netanaNoError, c.copied) := by
  have hrecord : c.record.length = deviceInformationSize := hc.record
  have hlen : (c.record.take c.ulSize.toNat).length =
      min c.ulSize.toNat deviceInformationSize := by
    rw [List.length_take, hrecord]
  have hcode : (if (c.record.take c.ulSize.toNat).length ≠ deviceInformationSize then c.lError
      else netanaNoError) =
      if c.ulSize.toNat < deviceInformationSize then c.lError else netanaNoError := by
    apply if_congr _ rfl rfl
    rw [hlen]
    omega
  rw [readDeviceInfo, hbefore]
  dsimp only
  rw [hcode]
  apply (map_ok_iff _ _ _).mpr
  refine ⟨c.copied, (write_ok_iff _ _ _).mpr ⟨?_, ?_⟩, rfl⟩
  · rw [hlen, hc.buffer]
    exact Nat.min_le_left _ _
  · have hcopied := copied_eq hc (n := min c.ulSize.toNat c.record.length) rfl
    rw [← hcopied, hlen, hrecord]
    congr 2
    rcases Nat.le_total c.ulSize.toNat deviceInformationSize with hle | hle
    · rw [Nat.min_eq_left hle]
    · rw [Nat.min_eq_right hle, List.take_of_length_le (hrecord.trans_le hle), ← hrecord,
        List.take_length]

theorem readDeviceInfo_spec (hc : c.Fits .deviceInfo) :
    SideSpec c (readDeviceInfo c)
      (c.FailsBefore ∨
        (c.lBefore = none ∧ c.ulSize.toNat < deviceInformationSize ∧ c.lError ≠ netanaNoError))
      True where
  failed := by
    rintro (⟨lRet, hbefore, hne⟩ | ⟨hbefore, hsmall, hkept⟩)
    · exact ⟨lRet, c.buffer, hne, by rw [readDeviceInfo, hbefore]⟩
    · refine ⟨c.lError, c.copied, hkept, ?_⟩
      rw [readDeviceInfo_eq hc hbefore, if_pos hsmall]
  lawful hnot hlawful := by
    obtain ⟨hsucceeds, -⟩ := not_or.mp hnot
    cases hbefore : c.lBefore with
    | some lRet =>
      rw [readDeviceInfo, hbefore] at hlawful
      exact absurd (failsBefore_of_lawful hbefore hlawful) hsucceeds
    | none => exact ⟨rfl, trivial⟩
  succeeds hnot hbefore _ := by
    obtain ⟨-, hlarge⟩ := not_or.mp hnot
    rw [readDeviceInfo_eq hc hbefore]
    by_cases hsmall : c.ulSize.toNat < deviceInformationSize
    · have hnone : c.lError = netanaNoError := by
        by_contra hkept
        exact hlarge ⟨hbefore, hsmall, hkept⟩
      rw [if_pos hsmall, hnone]
    · rw [if_neg hsmall]

/-- The library copies the larger one of both sizes. -/
theorem libGetDevFeature_spec (hc : c.Fits .getDevFeature) :
    SideSpec c (libGetDevFeature c) (c.FailsBefore ∨ c.ulSize = 0#32)
      (c.ulSize.toNat = 72) := by
  apply refuse_spec netanaInvalidParameter_ne
  intro _
  have hrecord : c.record.length = 72 := hc.record
  have hsize : InfoFunction.getDevFeature.recordSize = 72 := rfl
  have hmin : min c.ulSize.toNat c.record.length ≤
      if c.ulSize.toNat < InfoFunction.getDevFeature.recordSize then
        InfoFunction.getDevFeature.recordSize else c.ulSize.toNat := by
    split
    · omega
    · omega
  apply (copy_spec hc hmin).congr Iff.rfl
  intro _
  rw [hsize, hrecord]
  split
  · omega
  · omega

/-- The sizes at which the toolkit stays inside record and buffer. -/
def InfoFunction.ToolkitSize (ulSize : BitVec 32) : InfoFunction → Prop
  | driverInformation => ulSize.toNat ≤ 68
  | enumDevice | deviceInfo => ulSize.toNat ≤ deviceInformationSize
  | _ => True

/-- The sizes at which the library does. -/
def InfoFunction.LibSize (ulSize : BitVec 32) : InfoFunction → Prop
  | driverInformation => ulSize.toNat ≤ 68
  | getPortstat => ulSize.toNat ≤ 104
  | getDevFeature => ulSize.toNat = 72
  | _ => True

theorem toolkit_spec (hc : c.Fits f) :
    SideSpec c (toolkitCall f c) (c.ToolkitFails f) (f.ToolkitSize c.ulSize) := by
  have hplain (hf : f ≠ .getDeviceIdent) : c.ToolkitFails f ↔ c.FailsBefore :=
    or_iff_left fun h => hf h.1
  cases f with
  | driverInformation => exact (unclamped_spec hc).congr (hplain (by decide)) fun _ => Iff.rfl
  | enumDevice => exact (unclamped_spec hc).congr (hplain (by decide)) fun _ => Iff.rfl
  | deviceInfo => exact (unclamped_spec hc).congr (hplain (by decide)) fun _ => Iff.rfl
  | getPortstat => exact (clamped_spec hc).congr (hplain (by decide)) fun _ => Iff.rfl
  | fileInfo => exact (clamped_spec hc).congr (hplain (by decide)) fun _ => Iff.rfl
  | getDeviceIdent =>
    exact (deviceIdent_spec hc).congr (or_congr_right (and_iff_right rfl)) fun _ => Iff.rfl
  | getDevFeature =>
    have hclamp : (if c.ulSize.toNat > InfoFunction.getDevFeature.recordSize then
        InfoFunction.getDevFeature.recordSize else c.ulSize.toNat) =
        min c.ulSize.toNat InfoFunction.getDevFeature.recordSize := by
      split
      · omega
      · omega
    have hcall : toolkitCall .getDevFeature c =
        c.copy (min c.ulSize.toNat InfoFunction.getDevFeature.recordSize) :=
      congrArg c.copy hclamp
    rw [hcall]
    exact (clamped_spec hc).congr (hplain (by decide)) fun _ => Iff.rfl

theorem lib_spec (hc : c.Fits f) :
    SideSpec c (libCall f c) (c.LibFails f) (f.LibSize c.ulSize) := by
  cases f with
  | driverInformation => exact (unclamped_spec hc).congr (or_iff_left id) fun _ => Iff.rfl
  | enumDevice => exact readDeviceInfo_spec ⟨hc.record, hc.buffer⟩
  | deviceInfo => exact readDeviceInfo_spec hc
  | getPortstat => exact (unclamped_spec hc).congr (or_iff_left id) fun _ => Iff.rfl
  | fileInfo => exact (clamped_spec hc).congr (or_iff_left id) fun _ => Iff.rfl
  | getDeviceIdent => exact deviceIdent_spec hc
  | getDevFeature => exact libGetDevFeature_spec hc

/-- From the version of the toolkit on, the two sides have different driver information, and from
that of the driver on where the library fills it. -/
theorem driverRecords_differ {d d' : DriverCounts} {ulSize : BitVec 32} (hsize : ulSize.toNat ≤ 68)
    (h : (toolkitDriverRecord d).take ulSize.toNat =
      (libDriverRecord d' ulSize).take ulSize.toNat) : ulSize.toNat ≤ 32 := by
  by_contra hlarge
  have hbyte (i : ℕ) (hi : i < ulSize.toNat) :
      (toolkitDriverRecord d)[i]? = (libDriverRecord d' ulSize)[i]? := by
    rw [← List.getElem?_take_of_lt hi, h, List.getElem?_take_of_lt hi]
  by_cases hwhole : ulSize.toNat = InfoFunction.driverInformation.recordSize
  · have hdriver := hbyte 4 (by omega)
    rw [libDriverRecord, if_pos hwhole] at hdriver
    have hbytes : some 0#8 = some 1#8 := hdriver
    exact absurd hbytes (by decide)
  · have htoolkit := hbyte 32 (by omega)
    rw [libDriverRecord, if_neg hwhole] at htoolkit
    have hbytes : some 1#8 = some 0#8 := htoolkit
    exact absurd hbytes (by decide)

theorem length_libDriverRecord (d : DriverCounts) (ulSize : BitVec 32) :
    (libDriverRecord d ulSize).length = InfoFunction.driverInformation.recordSize := by
  rw [libDriverRecord]
  split
  · rfl
  · rfl

@[simp] theorem onToolkit_ulSize (q : InfoRequest) (f : InfoFunction) :
    (q.onToolkit f).ulSize = q.ulSize := by
  cases f <;> rfl

@[simp] theorem onLib_ulSize (q : InfoRequest) (f : InfoFunction) :
    (q.onLib f).ulSize = q.ulSize := by
  cases f <;> rfl

/-- Two sides with records of one size leave the same where these begin with the same bytes. -/
theorem copied_eq_iff {q : InfoRequest} (hq : q.Fits f) :
    (q.onToolkit f).copied = (q.onLib f).copied ↔ q.SameBytes f := by
  have hlen : (q.onToolkit f).record.length = (q.onLib f).record.length :=
    hq.toolkit.record.trans hq.lib.record.symm
  have hbuffer : (q.onToolkit f).buffer = (q.onLib f).buffer := by cases f <;> rfl
  rw [InfoCall.copied, InfoCall.copied, onToolkit_ulSize, onLib_ulSize, hbuffer, hlen,
    List.append_left_inj]
  exact (List.map_injective_iff.mpr (Option.some_injective Byte)).eq_iff

theorem not_failsBefore (h : c.lBefore = none) : ¬ c.FailsBefore := by
  rintro ⟨lRet, hbefore, -⟩
  rw [h] at hbefore
  cases hbefore

/-- Where no earlier step fails, what is left of both specifications is the size. -/
theorem both_good_iff {t l : InfoCall} {tRefuses lRefuses tSize lSize good same : Prop}
    (h : l.lBefore = none → same → (¬ tRefuses ∧ ¬ lRefuses ∧ tSize ∧ lSize ↔ good)) :
    (¬ (t.FailsBefore ∨ tRefuses) ∧ ¬ (l.FailsBefore ∨ lRefuses) ∧ (t.lBefore = none ∧ tSize) ∧
      (l.lBefore = none ∧ lSize) ∧ same) ↔
      t.lBefore = none ∧ l.lBefore = none ∧ good ∧ same := by
  have ht : t.lBefore = none → ¬ t.FailsBefore := not_failsBefore
  have hl : l.lBefore = none → ¬ l.FailsBefore := not_failsBefore
  tauto

/-- The sizes at which both sides are lawful and have the same bytes. -/
theorem goodSize_iff {q : InfoRequest} :
    (¬ (q.onToolkit f).ToolkitFails f ∧ ¬ (q.onLib f).LibFails f ∧
      ((q.onToolkit f).lBefore = none ∧ f.ToolkitSize q.ulSize) ∧
      ((q.onLib f).lBefore = none ∧ f.LibSize q.ulSize) ∧ q.SameBytes f) ↔
      (q.onToolkit f).lBefore = none ∧ (q.onLib f).lBefore = none ∧
        f.GoodSize q.ulSize q.lError ∧ q.SameBytes f := by
  have hident (hf : f ≠ .getDeviceIdent) : ¬ (f = .getDeviceIdent ∧ 26 < q.ulSize.toNat) :=
    fun h => hf h.1
  have hread (hbefore : q.lib.lBefore = none) : (q.ulSize.toNat ≤ deviceInformationSize ∧
      ¬ (q.lib.lBefore = none ∧ q.ulSize.toNat < deviceInformationSize ∧
        q.lError ≠ netanaNoError)) ↔
      (q.ulSize.toNat = deviceInformationSize ∨
        (q.ulSize.toNat < deviceInformationSize ∧ q.lError = netanaNoError)) := by
    rw [Nat.le_iff_lt_or_eq]
    have hirrefl (h : q.ulSize.toNat = deviceInformationSize) :
        ¬ q.ulSize.toNat < deviceInformationSize := h.not_lt
    tauto
  cases f with
  | driverInformation =>
    refine both_good_iff fun _ hsame => ⟨fun h => driverRecords_differ h.2.2.1 hsame, fun h => ?_⟩
    have hle : q.ulSize.toNat ≤ 68 := le_trans h (by decide)
    exact ⟨hident (by decide), id, hle, hle⟩
  | enumDevice =>
    refine both_good_iff fun hbefore _ =>
      ⟨fun h => (hread hbefore).mp ⟨h.2.2.1, h.2.1⟩, fun h => ?_⟩
    obtain ⟨hle, hkept⟩ := (hread hbefore).mpr h
    exact ⟨hident (by decide), hkept, hle, trivial⟩
  | deviceInfo =>
    refine both_good_iff fun hbefore _ =>
      ⟨fun h => (hread hbefore).mp ⟨h.2.2.1, h.2.1⟩, fun h => ?_⟩
    obtain ⟨hle, hkept⟩ := (hread hbefore).mpr h
    exact ⟨hident (by decide), hkept, hle, trivial⟩
  | getPortstat =>
    exact both_good_iff fun _ _ =>
      ⟨fun h => h.2.2.2, fun h => ⟨hident (by decide), id, trivial, h⟩⟩
  | fileInfo =>
    exact both_good_iff fun _ _ =>
      ⟨fun _ => trivial, fun _ => ⟨hident (by decide), id, trivial, trivial⟩⟩
  | getDeviceIdent =>
    refine both_good_iff fun _ _ => ⟨fun h => not_lt.mp h.2.1, fun h => ?_⟩
    exact ⟨fun hlarge => absurd hlarge.2 (not_lt.mpr h), not_lt.mpr h, trivial, trivial⟩
  | getDevFeature =>
    refine both_good_iff fun _ _ => ⟨fun h => h.2.2.2, fun h => ?_⟩
    have hsize : q.ulSize.toNat = 72 := h
    have hne : ¬ q.ulSize = 0#32 := by
      intro hzero
      rw [hzero] at hsize
      exact absurd hsize (by decide)
    exact ⟨hident (by decide), hne, trivial, h⟩

/-- The law holds exactly where both sides return an error, or where no step fails before the copy,
the size is a good one and both have the same bytes of that size. -/
theorem copy_out_law_iff (f : InfoFunction) (q : InfoRequest) (hq : q.Fits f) :
    q.Law f ↔
      ((q.onToolkit f).ToolkitFails f ∧ (q.onLib f).LibFails f) ∨
      ((q.onToolkit f).lBefore = none ∧ (q.onLib f).lBefore = none ∧
        f.GoodSize q.ulSize q.lError ∧ q.SameBytes f) := by
  rw [InfoRequest.Law, law_iff (toolkit_spec hq.toolkit) (lib_spec hq.lib), copied_eq_iff hq,
    onToolkit_ulSize, onLib_ulSize, goodSize_iff]

/-- A call with an unwritten buffer of the size, eight DMA buffers and records of ones. -/
def plainRequest (f : InfoFunction) (ulSize : BitVec 32) : InfoRequest where
  ulSize := ulSize
  buffer := fresh ulSize.toNat
  lError := netanaNoError
  toolkit := ⟨⟨1#32, 0x10000#32, 8#32⟩, List.replicate f.recordSize 1#8, none⟩
  lib := ⟨⟨1#32, 0x10000#32, 8#32⟩, List.replicate f.recordSize 1#8, none⟩

theorem plainRequest_fits (ulSize : BitVec 32) :
    (plainRequest .getDevFeature ulSize).Fits .getDevFeature :=
  ⟨⟨List.length_replicate, length_fresh _⟩, ⟨List.length_replicate, length_fresh _⟩⟩

theorem plainRequest_fits_driver (ulSize : BitVec 32) :
    (plainRequest .driverInformation ulSize).Fits .driverInformation :=
  ⟨⟨rfl, length_fresh _⟩, ⟨length_libDriverRecord _ _, length_fresh _⟩⟩

theorem copy_out_law_iff_features :
    (plainRequest .getDevFeature 72#32).Law .getDevFeature ∧
      (plainRequest .driverInformation 32#32).Law .driverInformation ∧
      ¬ (plainRequest .driverInformation 68#32).Law .driverInformation := by
  refine ⟨?_, ?_, ?_⟩
  · apply (copy_out_law_iff .getDevFeature _ (plainRequest_fits _)).mpr
    exact Or.inr ⟨rfl, rfl, rfl, rfl⟩
  · apply (copy_out_law_iff .driverInformation _ (plainRequest_fits_driver _)).mpr
    exact Or.inr ⟨rfl, rfl, le_refl 32, rfl⟩
  · intro hlaw
    rcases (copy_out_law_iff .driverInformation _ (plainRequest_fits_driver _)).mp hlaw with
      ⟨hfails, -⟩ | ⟨-, -, hsize, -⟩
    · rcases hfails with hbefore | ⟨h, -⟩
      · exact not_failsBefore rfl hbefore
      · cases h
    · exact absurd hsize (by decide : ¬ 68 ≤ 32)

/-- Four bytes are asked for, and the library writes 72. -/
theorem copy_out_overrun : ¬ ∀ (f : InfoFunction) (q : InfoRequest), q.Fits f → q.Law f := by
  intro hall
  obtain ⟨-, ⟨lRet, d, hok, -⟩, -⟩ :=
    hall .getDevFeature (plainRequest .getDevFeature 4#32) (plainRequest_fits _)
  have hfault : libCall .getDevFeature ((plainRequest .getDevFeature 4#32).onLib .getDevFeature) =
      .error .writeOutside := rfl
  rw [hfault] at hok
  cases hok

end NetanaDriver
