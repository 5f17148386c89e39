import NetanaDriver.FormattedText

/-! The texts that the library and the driver exchange through the attribute files: the
capture-control command, the port status, the triples of filter relation and GPIO mode, and the
capture state. -/
namespace NetanaDriver
open FormattedText

/-- The parameters of a capture start. -/
structure ControlStart where
  ulCaptureMode : BitVec 32
  ulPortEnableMask : BitVec 32
  ulMacMode : BitVec 32
  ullReferenceTime : BitVec 64
  fDataCallback : BitVec 32
  fStatusCallback : BitVec 32
  deriving DecidableEq, Repr

/-- What `netana_config_control` does with a text. -/
inductive ControlCommand where
  | start (c : ControlStart)
  | stop
  | ignored
  deriving DecidableEq, Repr

/-- `netana_start_capture` of the library writes the control attribute. -/
def startCaptureText (c : ControlStart) : List Char :=
  printf (format "%d %d %d %llu %i %i") [.w32 c.ulCaptureMode, .w32 c.ulPortEnableMask,
    .w32 c.ulMacMode, .w64 c.ullReferenceTime, .w32 c.fDataCallback, .w32 c.fStatusCallback]

/-- `netana_stop_capture` of the library writes the control attribute. -/
def stopCaptureText : List Char := printf (format "%d") [.w32 1#32]

/-- `netana_config_control`: six fields are a start, a single one is a stop if it is one. -/
def netanaConfigControl (buf : List Char) : ControlCommand :=
  match scanf (format "%d %d %d %llu %i %i") buf with
  | [.w32 ulcapturemode, .w32 ulportmask, .w32 ulmacmode, .w64 ullreftime, .w32 fdatacallback,
      .w32 fstatuscallback] =>
    .start ⟨ulcapturemode, ulportmask, ulmacmode, ullreftime, fdatacallback, fstatuscallback⟩
  | _ =>
    match scanf (format "%d") buf with
    | [.w32 ulcapturedisable] => if ulcapturedisable = 1#32 then .stop else .ignored
    | _ => .ignored

/-- `NETANA_PORT_STATE_T`. -/
structure PortState where
  ulLinkState : BitVec 32
  ullFramesReceivedOk : BitVec 64
  ullRXErrors : BitVec 64
  ullAlignmentErrors : BitVec 64
  ullFrameCheckSequenceErrors : BitVec 64
  ullFrameTooLongErrors : BitVec 64
  ullSFDErrors : BitVec 64
  ullShortFrames : BitVec 64
  ullFramesRejected : BitVec 64
  ullLongPreambleCnt : BitVec 64
  ullShortPreambleCnt : BitVec 64
  ullBytesLineBusy : BitVec 64
  ulMinIFG : BitVec 32
  ullTime : BitVec 64
  deriving DecidableEq, Repr

/-- The fields in the order of the formats. -/
def PortState.values (s : PortState) : List Value :=
  [.w32 s.ulLinkState, .w64 s.ullFramesReceivedOk, .w64 s.ullRXErrors, .w64 s.ullAlignmentErrors,
    .w64 s.ullFrameCheckSequenceErrors, .w64 s.ullFrameTooLongErrors, .w64 s.ullSFDErrors,
    .w64 s.ullShortFrames, .w64 s.ullFramesRejected, .w64 s.ullLongPreambleCnt,
    .w64 s.ullShortPreambleCnt, .w64 s.ullBytesLineBusy, .w32 s.ulMinIFG, .w64 s.ullTime]

/-- `netana_port_get_reg_val` of the driver. -/
def netanaPortGetRegVal (tstatus : PortState) : List Char :=
  printf (format "%d %llu %llu %llu %llu %llu %llu %llu %llu %llu %llu %llu %d %llu\n")
    tstatus.values

/-- `netana_get_portstat` of the library; `none` is an error. -/
def netanaGetPortstat (buf : List Char) : Option PortState :=
  match scanf (format "%d %llu %llu %llu %llu %llu %llu %llu %llu %llu %llu %llu %d %llu") buf with
  | [.w32 ulLinkState, .w64 ullFramesReceivedOk, .w64 ullRXErrors, .w64 ullAlignmentErrors,
      .w64 ullFrameCheckSequenceErrors, .w64 ullFrameTooLongErrors, .w64 ullSFDErrors,
      .w64 ullShortFrames, .w64 ullFramesRejected, .w64 ullLongPreambleCnt,
      .w64 ullShortPreambleCnt, .w64 ullBytesLineBusy, .w32 ulMinIFG, .w64 ullTime] =>
    some ⟨ulLinkState, ullFramesReceivedOk, ullRXErrors, ullAlignmentErrors,
      ullFrameCheckSequenceErrors, ullFrameTooLongErrors, ullSFDErrors, ullShortFrames,
      ullFramesRejected, ullLongPreambleCnt, ullShortPreambleCnt, ullBytesLineBusy, ulMinIFG,
      ullTime⟩
  | _ => none

/-- Three numbers on a line, as the driver shows them. -/
def showTriple (a b c : BitVec 32) : List Char :=
  printf (format "%d %d %d\n") [.w32 a, .w32 b, .w32 c]

/-- Three numbers, as the library writes them. -/
def writeTriple (a b c : BitVec 32) : List Char :=
  printf (format "%d %d %d") [.w32 a, .w32 b, .w32 c]

def scanTriple (buf : List Char) : Option (BitVec 32 × BitVec 32 × BitVec 32) :=
  match scanf (format "%d %d %d") buf with
  | [.w32 a, .w32 b, .w32 c] => some (a, b, c)
  | _ => none

/-- `get_relation` of the driver shows the relation and twice the size of the filters. -/
def getRelation (ulrelationship ulfiltersize : BitVec 32) : List Char :=
  showTriple ulrelationship ulfiltersize ulfiltersize

/-- `netana_get_filter` of the library reads the relation and the sizes. -/
def netanaGetFilterRelation (buf : List Char) : Option (BitVec 32 × BitVec 32 × BitVec 32) :=
  scanTriple buf

/-- `netana_set_filter` of the library writes the relation and the sizes. -/
def netanaSetFilterText (ulRelationShip ulFilterSizeA ulFilterSizeB : BitVec 32) : List Char :=
  writeTriple ulRelationShip ulFilterSizeA ulFilterSizeB

/-- `set_filter` of the driver. -/
def setFilter (buf : List Char) : Option (BitVec 32 × BitVec 32 × BitVec 32) := scanTriple buf

/-- `netana_gpio_get_reg_val` of the driver. -/
def netanaGpioGetRegVal (ulMode ulCaptureTriggers ulEndDelay : BitVec 32) : List Char :=
  showTriple ulMode ulCaptureTriggers ulEndDelay

/-- `netana_get_gpio_mode` of the library. -/
def netanaGetGpioMode (buf : List Char) : Option (BitVec 32 × BitVec 32 × BitVec 32) :=
  scanTriple buf

/-- `netana_set_gpio_mode` of the library. -/
def netanaSetGpioModeText (ulMode ulCaptureTriggers ulEndDelay : BitVec 32) : List Char :=
  writeTriple ulMode ulCaptureTriggers ulEndDelay

/-- `netana_store_gpio_mode` of the driver. -/
def netanaStoreGpioMode (buf : List Char) : Option (BitVec 32 × BitVec 32 × BitVec 32) :=
  scanTriple buf

/-- `devstate_show` and `devstate_show_poll` of the driver. -/
def devstateShow (ulcapturestate ulcaptureerror : BitVec 32) : List Char :=
  printf (format "0x%X 0x%X\n") [.w32 ulcapturestate, .w32 ulcaptureerror]

/-- `netana_get_state` and `netana_get_state_poll` of the library. -/
def netanaGetState (buf : List Char) : Option (BitVec 32 × BitVec 32) :=
  match scanf (format "0x%X 0x%X") buf with
  | [.w32 ulCaptureState, .w32 ulCaptureError] => some (ulCaptureState, ulCaptureError)
  | _ => none

/-- A start is decoded as a start with its values. -/
theorem configControl_start (c : ControlStart) :
    netanaConfigControl (startCaptureText c) = .start c := by
  have hscan : scanf (format "%d %d %d %llu %i %i") (startCaptureText c) =
      [.w32 c.ulCaptureMode, .w32 c.ulPortEnableMask, .w32 c.ulMacMode, .w64 c.ullReferenceTime,
        .w32 c.fDataCallback, .w32 c.fStatusCallback] := by
    apply scanf_text
    · decide +kernel
    · exact ⟨trivial, trivial, trivial, trivial, trivial, trivial, rfl⟩
  rw [netanaConfigControl, hscan]

/-- The stop has one field, so it is not taken for a start. -/
theorem configControl_stop : netanaConfigControl stopCaptureText = .stop := by
  decide +kernel

theorem getPortstat_show (tstatus : PortState) :
    netanaGetPortstat (netanaPortGetRegVal tstatus) = some tstatus := by
  have hscan : scanf (format "%d %llu %llu %llu %llu %llu %llu %llu %llu %llu %llu %llu %d %llu")
      (netanaPortGetRegVal tstatus) = tstatus.values := by
    apply scanf_line
    · decide +kernel
    · exact ⟨trivial, trivial, trivial, trivial, trivial, trivial, trivial, trivial, trivial,
        trivial, trivial, trivial, trivial, trivial, rfl⟩
  rw [netanaGetPortstat, hscan]
  rfl

theorem scanTriple_show (a b c : BitVec 32) : scanTriple (showTriple a b c) = some (a, b, c) := by
  have hscan : scanf (format "%d %d %d") (showTriple a b c) = [.w32 a, .w32 b, .w32 c] := by
    apply scanf_line
    · decide +kernel
    · exact ⟨trivial, trivial, trivial, rfl⟩
  rw [scanTriple, hscan]

theorem scanTriple_write (a b c : BitVec 32) :
    scanTriple (writeTriple a b c) = some (a, b, c) := by
  have hscan : scanf (format "%d %d %d") (writeTriple a b c) = [.w32 a, .w32 b, .w32 c] := by
    apply scanf_text
    · decide +kernel
    · exact ⟨trivial, trivial, trivial, rfl⟩
  rw [scanTriple, hscan]

theorem getState_show (ulcapturestate ulcaptureerror : BitVec 32) :
    netanaGetState (devstateShow ulcapturestate ulcaptureerror) =
      some (ulcapturestate, ulcaptureerror) := by
  have hscan : scanf (format "0x%X 0x%X") (devstateShow ulcapturestate ulcaptureerror) =
      [.w32 ulcapturestate, .w32 ulcaptureerror] := by
    apply scanf_line
    · decide +kernel
    · exact ⟨trivial, trivial, rfl⟩
  rw [netanaGetState, hscan]

/-- Every text of the protocol is decoded to what it was printed from, and the two commands of
the control attribute are never taken for each other. -/
theorem text_protocol_round_trips :
    (∀ c, netanaConfigControl (startCaptureText c) = .start c) ∧
      netanaConfigControl stopCaptureText = .stop ∧
      (∀ tstatus, netanaGetPortstat (netanaPortGetRegVal tstatus) = some tstatus) ∧
      (∀ ulrelationship ulfiltersize,
        netanaGetFilterRelation (getRelation ulrelationship ulfiltersize) =
          some (ulrelationship, ulfiltersize, ulfiltersize)) ∧
      (∀ ulRelationShip ulFilterSizeA ulFilterSizeB,
        setFilter (netanaSetFilterText ulRelationShip ulFilterSizeA ulFilterSizeB) =
          some (ulRelationShip, ulFilterSizeA, ulFilterSizeB)) ∧
      (∀ ulMode ulCaptureTriggers ulEndDelay,
        netanaGetGpioMode (netanaGpioGetRegVal ulMode ulCaptureTriggers ulEndDelay) =
            some (ulMode, ulCaptureTriggers, ulEndDelay) ∧
          netanaStoreGpioMode (netanaSetGpioModeText ulMode ulCaptureTriggers ulEndDelay) =
            some (ulMode, ulCaptureTriggers, ulEndDelay)) ∧
      ∀ ulcapturestate ulcaptureerror,
        netanaGetState (devstateShow ulcapturestate ulcaptureerror) =
          some (ulcapturestate, ulcaptureerror) :=
  ⟨configControl_start, configControl_stop, getPortstat_show,
    fun r s => scanTriple_show r s s, scanTriple_write,
    fun m t d => ⟨scanTriple_show m t d, scanTriple_write m t d⟩, getState_show⟩

end NetanaDriver
