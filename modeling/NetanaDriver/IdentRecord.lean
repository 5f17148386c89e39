import NetanaDriver.CopyOut
import NetanaDriver.FormattedText
import NetanaDriver.PackedRecords

/-! The ident information of a device: printed by `netana_show_ident_info` (netana_tk_interface.c)
and scanned by `netana_get_device_ident` (libnetana/netana_functions.c). -/
namespace NetanaDriver
open CBuffers FormattedText PackedRecords

/-- The part of the system information block that is printed. -/
structure IdentBlock where
  ulDeviceNr : BitVec 32
  ulSerialNr : BitVec 32
  usManufacturer : BitVec 16
  ulLicenseFlags1 : BitVec 32
  ulLicenseFlags2 : BitVec 32
  usNetXLicenseID : BitVec 16
  usNetXLicenseFlags : BitVec 16
  deriving DecidableEq, Repr

/-- `NETANA_DEVICE_IDENT_T`. -/
structure DeviceIdent where
  ulIdentVersion : BitVec 32
  ulDeviceNr : BitVec 32
  ulSerialNr : BitVec 32
  usManufacturer : BitVec 16
  ulFlags1 : BitVec 32
  ulFlags2 : BitVec 32
  usNetXid : BitVec 16
  usNetXflags : BitVec 16
  deriving DecidableEq, Repr

/-- The widths of the fields in the packed record. -/
def identWidths : List ℕ := [4, 4, 4, 2, 4, 4, 2, 2]

def DeviceIdent.fields (t : DeviceIdent) : List ℕ :=
  [t.ulIdentVersion.toNat, t.ulDeviceNr.toNat, t.ulSerialNr.toNat, t.usManufacturer.toNat,
    t.ulFlags1.toNat, t.ulFlags2.toNat, t.usNetXid.toNat, t.usNetXflags.toNat]

/-- The record with the values that are printed; its version is zero. -/
def IdentBlock.shown (b : IdentBlock) : DeviceIdent where
  ulIdentVersion := 0#32
  ulDeviceNr := b.ulDeviceNr
  ulSerialNr := b.ulSerialNr
  usManufacturer := b.usManufacturer
  ulFlags1 := b.ulLicenseFlags1
  ulFlags2 := b.ulLicenseFlags2
  usNetXid := b.usNetXLicenseID
  usNetXflags := b.usNetXLicenseFlags

/-- The arguments of `sprintf`, the short ones as integers. -/
def DeviceIdent.arguments (t : DeviceIdent) : List Value :=
  t.fields.map fun n => .w32 (BitVec.ofNat 32 n)

/-- The format of `fscanf`. That of `sprintf` has `%lu` for the first three values, which prints
32 bits as `%u` does, and an end of line. -/
def identFormat : List Directive := format "%u %u %u %u 0x%X 0x%X %u %u"

/-- `netana_show_ident_info`: the line, where the device is there. -/
def netanaShowIdentInfo (hdevice : Bool) (b : IdentBlock) : Except (BitVec 32) (List Char) :=
  if hdevice = false then .error netanaInvalidHandle
  else .ok (printf (identFormat ++ [.lit '\n']) b.shown.arguments)

/-- What `fscanf` stores for a value. -/
def scannedBytes (o : ByteOrder) : Value → List Byte
  | .w32 x => o.bytes 4 x.toNat
  | .w64 x => o.bytes 8 x.toNat

/-- The values of the line, each for the address of its field. -/
def identStores (o : ByteOrder) (values : List Value) : List Field :=
  List.zipWith (fun w v => ⟨w, scannedBytes o v⟩) identWidths values

/-- `fscanf` into the record: how many values it converts, and the record. -/
def scanDeviceIdent (o : ByteOrder) (tIdentInfo : Buffer) (line : List Char) :
    Except Fault (ℕ × Buffer) :=
  let values := scanf identFormat line
  (storeAll tIdentInfo 0 (identStores o values)).map fun d => (values.length, d)

/-- `tIdentInfo` after `memset`, with the bytes that are kept for it. -/
def clearedIdent (size : ℕ) : Buffer := filled (List.replicate size 0#8)

/-- `netana_get_device_ident`, with what the check of the handle returns, the text of the file
if it is there, and the error that the driver keeps for the process. -/
def netanaGetDeviceIdent (o : ByteOrder) (lHandle : BitVec 32) (file : Option (List Char))
    (lError ulDevIdentInfoSize : BitVec 32) (ptIdentInfo : Option Buffer) :
    Except Fault (BitVec 32 × Option Buffer) :=
  if lHandle ≠ netanaNoError then .ok (lHandle, ptIdentInfo)
  else match ptIdentInfo with
    | none => .ok (netanaInvalidParameter, none)
    | some buffer =>
      if ulDevIdentInfoSize.toNat > InfoFunction.getDeviceIdent.recordSize then
        .ok (netanaInvalidBuffersize, some buffer)
      else match file with
        | none => .ok (netanaInvalidParameter, some buffer)
        | some line =>
          (scanDeviceIdent o (clearedIdent InfoFunction.getDeviceIdent.recordSize) line).bind
            fun r =>
              if r.1 ≠ 8 then .ok (lError, some buffer)
              else (memcpy buffer r.2 ulDevIdentInfoSize.toNat).map fun d =>
                (netanaNoError, some d)

/-- The line of a device is scanned inside of the record, and every field has the printed value. -/
def IdentDecodes (o : ByteOrder) (b : IdentBlock) : Prop :=
  ∃ line record, netanaShowIdentInfo true b = .ok line ∧
    scanDeviceIdent o (clearedIdent InfoFunction.getDeviceIdent.recordSize) line = .ok (8, record) ∧
    readFields o identWidths record = .ok b.shown.fields

theorem arguments_fits (t : DeviceIdent) : Fits identFormat t.arguments := by
  simp [identFormat, format, directives, Fits, Conversion.Fits, DeviceIdent.arguments,
    DeviceIdent.fields]

/-- The printed line gives all of its values back. -/
theorem scanf_shown (t : DeviceIdent) :
    scanf identFormat (printf (identFormat ++ [.lit '\n']) t.arguments) = t.arguments :=
  scanf_line (by decide) (arguments_fits t)

/-- The scan of a shown line is its eight stores. -/
theorem scanDeviceIdent_shown (o : ByteOrder) (tIdentInfo : Buffer) (t : DeviceIdent) :
    scanDeviceIdent o tIdentInfo (printf (identFormat ++ [.lit '\n']) t.arguments) =
      (storeAll tIdentInfo 0 (identStores o t.arguments)).map fun d => (8, d) := by
  rw [scanDeviceIdent, scanf_shown]
  rfl

theorem identStores_arguments (o : ByteOrder) (t : DeviceIdent) :
    identStores o t.arguments =
      List.zipWith (fun w n => ⟨w, o.bytes 4 n⟩) identWidths t.fields := by
  have hnarrow (x : BitVec 16) : x.toNat % 4294967296 = x.toNat := by omega
  simp [identStores, DeviceIdent.arguments, DeviceIdent.fields, identWidths, scannedBytes, hnarrow]

/-- The last store ends two bytes behind the record. -/
theorem identStores_inBounds_iff (o : ByteOrder) (t : DeviceIdent) (n : ℕ) :
    InBounds n 0 (identStores o t.arguments) ↔ 28 ≤ n := by
  rw [identStores_arguments]
  simp only [DeviceIdent.fields, identWidths, List.zipWith_cons_cons, List.zipWith_nil_left,
    InBounds, ByteOrder.length_bytes, and_true]
  omega

/-- So the scan of a line leaves the record that the function has for it. -/
theorem scan_shown_outside (o : ByteOrder) (t : DeviceIdent) :
    scanDeviceIdent o (clearedIdent InfoFunction.getDeviceIdent.recordSize)
      (printf (identFormat ++ [.lit '\n']) t.arguments) = .error .writeOutside := by
  have hout : ¬ InBounds (clearedIdent InfoFunction.getDeviceIdent.recordSize).length 0
      (identStores o t.arguments) := by
    rw [identStores_inBounds_iff]
    decide
  rw [scanDeviceIdent_shown, storeAll_outside hout]
  rfl

/-- No line is decoded inside of the record. -/
theorem ident_never_decodes (o : ByteOrder) (b : IdentBlock) : ¬ IdentDecodes o b := by
  rintro ⟨line, record, hline, hscan, -⟩
  cases hline
  rw [scan_shown_outside] at hscan
  cases hscan

/-- Every call that gets to the file of a device writes behind its own record. -/
theorem netanaGetDeviceIdent_overrun (o : ByteOrder) (b : IdentBlock) {line : List Char}
    (hline : netanaShowIdentInfo true b = .ok line) (lError : BitVec 32)
    {ulDevIdentInfoSize : BitVec 32} (hsize : ulDevIdentInfoSize.toNat ≤ 26) (buffer : Buffer) :
    netanaGetDeviceIdent o netanaNoError (some line) lError ulDevIdentInfoSize (some buffer) =
      .error .writeOutside := by
  have hfits : ¬ ulDevIdentInfoSize.toNat > InfoFunction.getDeviceIdent.recordSize :=
    Nat.not_lt.mpr hsize
  cases hline
  rw [netanaGetDeviceIdent, if_neg (not_not.mpr rfl), if_neg hfits, scan_shown_outside]
  rfl

/-- What the bytes of a field keep of a stored value. -/
theorem kept_wide (o : ByteOrder) (x : BitVec 32) :
    o.value ((o.bytes 4 x.toNat).take 4) = x.toNat := by
  have hlt := x.isLt
  cases o with
  | little =>
    rw [little_value_take (le_refl _)]
    omega
  | big =>
    rw [big_value_take (le_refl _)]
    omega

theorem kept_narrow (o : ByteOrder) (x : BitVec 16) :
    o.value ((o.bytes 4 x.toNat).take 2) = if o = .little then x.toNat else 0 := by
  have hlt := x.isLt
  cases o with
  | little =>
    rw [little_value_take (by decide), if_pos rfl]
    omega
  | big =>
    rw [big_value_take (by decide), if_neg (by decide)]
    omega

/-- What is read of a record that was stored with enough room: on a big-endian host the fields of
two bytes are the high bytes of what was stored. -/
def DeviceIdent.readBack : ByteOrder → DeviceIdent → DeviceIdent
  | .little, t => t
  | .big, t => { t with usManufacturer := 0#16, usNetXid := 0#16, usNetXflags := 0#16 }

theorem fields_injective : Function.Injective DeviceIdent.fields := by
  intro t t' h
  simp only [DeviceIdent.fields, List.cons.injEq, BitVec.toNat_inj, and_true] at h
  obtain ⟨hversion, hdevice, hserial, hmanufacturer, hflags1, hflags2, hxid, hxflags⟩ := h
  cases t
  cases t'
  congr

theorem kept_fields (o : ByteOrder) (t : DeviceIdent) :
    (identStores o t.arguments).map (fun f => o.value (f.stored.take f.width)) =
      (t.readBack o).fields := by
  rw [identStores_arguments]
  cases o with
  | little =>
    simp [DeviceIdent.fields, identWidths, kept_wide, kept_narrow, DeviceIdent.readBack]
  | big =>
    simp [DeviceIdent.fields, identWidths, kept_wide, kept_narrow, DeviceIdent.readBack]

theorem readBack_eq_iff (o : ByteOrder) (t : DeviceIdent) :
    t.readBack o = t ↔ o = .little ∨
      (t.usManufacturer = 0#16 ∧ t.usNetXid = 0#16 ∧ t.usNetXflags = 0#16) := by
  cases o with
  | little => exact ⟨fun _ => Or.inl rfl, fun _ => rfl⟩
  | big =>
    constructor
    · intro h
      right
      rw [← h]
      exact ⟨rfl, rfl, rfl⟩
    · rintro (h | ⟨hmanufacturer, hxid, hxflags⟩)
      · cases h
      · cases t
        cases hmanufacturer
        cases hxid
        cases hxflags
        rfl

/-- Were two bytes kept behind the record, a little-endian host would read every field as printed,
and a big-endian one each field of two bytes as zero. -/
theorem spared_ident_iff (o : ByteOrder) (b : IdentBlock) (spare : ℕ) :
    ∃ record, scanDeviceIdent o (clearedIdent (28 + spare))
        (printf (identFormat ++ [.lit '\n']) b.shown.arguments) = .ok (8, record) ∧
      (readFields o identWidths record = .ok b.shown.fields ↔
        o = .little ∨ (b.usManufacturer = 0#16 ∧ b.usNetXLicenseID = 0#16 ∧
          b.usNetXLicenseFlags = 0#16)) := by
  have hwidth : ∀ f ∈ identStores o b.shown.arguments, f.width ≤ f.stored.length := by
    rw [identStores_arguments]
    simp [DeviceIdent.fields, identWidths]
  have hin : InBounds ([] ++ clearedIdent (28 + spare)).length ([] : Buffer).length
      (identStores o b.shown.arguments) := by
    apply (identStores_inBounds_iff o b.shown _).mpr
    rw [List.nil_append, clearedIdent, length_filled, List.length_replicate]
    omega
  have hstore : storeAll (clearedIdent (28 + spare)) 0 (identStores o b.shown.arguments) =
      .ok (overwritten (clearedIdent (28 + spare)) (identStores o b.shown.arguments)) :=
    storeAll_append [] hwidth hin
  have hwidths : (identStores o b.shown.arguments).map Field.width = identWidths := rfl
  have hread := readFields_overwritten o (clearedIdent (28 + spare)) hwidth
  rw [hwidths, kept_fields] at hread
  refine ⟨_, by rw [scanDeviceIdent_shown, hstore]; rfl, ?_⟩
  calc readFields o identWidths _ = .ok b.shown.fields
      ↔ (b.shown.readBack o).fields = b.shown.fields := by rw [hread, Except.ok.injEq]
    _ ↔ b.shown.readBack o = b.shown := fields_injective.eq_iff
    _ ↔ _ := readBack_eq_iff o b.shown

/-- Even the line of a device without any ident information. -/
theorem ident_overrun : ¬ ∀ (o : ByteOrder) (b : IdentBlock), IdentDecodes o b := by
  intro hall
  obtain ⟨line, record, hline, hscan, -⟩ := hall .little ⟨0, 0, 0, 0, 0, 0, 0⟩
  cases hline
  rw [scan_shown_outside] at hscan
  cases hscan

end NetanaDriver
