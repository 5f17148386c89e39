import NetanaDriver.CaptureFiles
import NetanaDriver.CardRegistry
import NetanaDriver.DriverState
import NetanaDriver.StepRuns

/-! The loop of `netana_event_thread` (libnetana/netana_functions.c) with what it does to the
capture files, and the errors it signals to the firmware. -/
namespace NetanaDriver

/-- What a `read` of the device file brings: nothing yet, so that it is read again, an error, or
data. -/
inductive ReadOutcome where
  | again
  | failed
  | data (pbReadBuf : List (BitVec 8))
  deriving DecidableEq, Repr

/-- The loop around `read`. -/
def readLoop : List ReadOutcome → Option (List (BitVec 8))
  | [] => none
  | .again :: rest => readLoop rest
  | .failed :: _ => none
  | .data pbReadBuf :: _ => some pbReadBuf

/-- What one round of the loop finds: whether another thread has ended the capture before the
round, the result of `poll`, the events, what the reads bring, and what `netana_get_state_poll`
returns and leaves. -/
structure EventRound where
  fStop : Bool
  iRet : ℤ
  fPollPri : Bool
  fPollRdnorm : Bool
  reads : List ReadOutcome
  lRetState : BitVec 32
  ulCaptureState : BitVec 32
  ulCaptureError : BitVec 32
  deriving DecidableEq, Repr

/-- The device instance and the locals of the event thread. -/
structure EventLoop where
  files : FileCapture
  fRunEventThread : Bool
  iEventError : ℤ
  devCaptureState : BitVec 32
  ulCaptureState : BitVec 32
  ulCaptureError : BitVec 32
  ulWriteError : BitVec 32
  -- history: chunks that did not fit into the last file, errors signalled to the firmware
  rejected : ℕ
  signalled : List (BitVec 32)

/-- The chunk does not fit into the current file, which is the last one and not overwritten. -/
def chunkRejected (x : FileCapture) (pvBuffer : List (BitVec 8)) : Bool :=
  decide ((x.atFiles x.ulCurrentFile).ullOffset + BitVec.ofNat 64 pvBuffer.length >
      x.ullFileSize) &&
    decide (x.ulFileCount ≤ x.ulCurrentFile + 1) && !x.fRingBuffer

/-- What becomes of a chunk of data. -/
def storeChunk (io : IoOutcome) (pbReadBuf : List (BitVec 8)) (s : EventLoop) : EventLoop :=
  if s.files.fWriteToFile then
    { s with
      files := (netanaWriteToFile io pbReadBuf s.files).1
      -- assigned here only, so it keeps an error once nothing is written any more
      ulWriteError := (netanaWriteToFile io pbReadBuf s.files).2
      rejected := if chunkRejected s.files pbReadBuf then s.rejected + 1 else s.rejected }
  else s

def readData (io : IoOutcome) (p : EventRound) (s : EventLoop) : EventLoop :=
  if p.fPollPri then (readLoop p.reads).elim s fun pbReadBuf => storeChunk io pbReadBuf s else s

def readStatus (p : EventRound) (s : EventLoop) : EventLoop :=
  if p.fPollRdnorm then
    { s with
      ulCaptureState := p.ulCaptureState
      ulCaptureError := p.ulCaptureError
      devCaptureState :=
        if p.lRetState = 0#32 then p.ulCaptureState else s.devCaptureState }
  else s

def signalWriteError (s : EventLoop) : EventLoop :=
  if s.ulWriteError ≠ 0#32 then { s with signalled := s.signalled ++ [s.ulWriteError] } else s

/-- The flags at the test of the loop. -/
def EventLoop.beforeTest (p : EventRound) (s : EventLoop) : EventLoop :=
  { s with fRunEventThread := s.fRunEventThread && !p.fStop }

/-- The loop goes on. -/
def EventLoop.running (s : EventLoop) : Bool :=
  s.fRunEventThread || s.ulCaptureState != captureStateOff

/-- One round of the loop; nothing happens once it has ended. -/
def eventRound (io : IoOutcome) (s : EventLoop) (p : EventRound) : EventLoop :=
  let s := s.beforeTest p
  if s.running then
    if 0 ≤ p.iRet then
      if p.iRet ≠ 0 then signalWriteError (readStatus p (readData io p s)) else s
    -- a poll that fails ends the loop
    else { s with fRunEventThread := false, iEventError := p.iRet }
  else s

/-- The event thread at its start; `fAllocated` is whether it gets its buffer. -/
def eventThreadStart (fAllocated : Bool) (devCaptureState : BitVec 32) (x : FileCapture) :
    EventLoop where
  files := x
  fRunEventThread := fAllocated
  iEventError := if fAllocated then 0 else -enomem
  devCaptureState := devCaptureState
  ulCaptureState := captureStateOff
  ulCaptureError := 0#32
  ulWriteError := 0#32
  rejected := 0
  signalled := []

/-- `netana_event_thread` after some rounds of its loop. -/
def netanaEventThread (io : IoOutcome) (fAllocated : Bool) (devCaptureState : BitVec 32)
    (x : FileCapture) (rounds : List EventRound) : EventLoop :=
  rounds.foldl (eventRound io) (eventThreadStart fAllocated devCaptureState x)

/-- A round in which `poll` reports an event to a loop that is running. -/
def EventLoop.hasEvent (s : EventLoop) (p : EventRound) : Bool :=
  (s.beforeTest p).running && decide (0 < p.iRet)

/-- A round in which a chunk of data does not fit into the last file. -/
def EventLoop.rejectsChunk (s : EventLoop) (p : EventRound) : Bool :=
  s.hasEvent p && p.fPollPri && (readLoop p.reads).any fun pbReadBuf =>
    s.files.fWriteToFile && chunkRejected s.files pbReadBuf

/-- `netana_write_to_file` reports a full file exactly for the chunk that it rejects, and stops
writing then. -/
theorem netanaWriteToFile_error (io : IoOutcome) (pvBuffer : List (BitVec 8)) (x : FileCapture) :
    (netanaWriteToFile io pvBuffer x).2 =
        (if chunkRejected x pvBuffer then captureErrorDriverFileFull else 0#32) ∧
      (chunkRejected x pvBuffer = true →
        (netanaWriteToFile io pvBuffer x).1.fWriteToFile = false) := by
  obtain ⟨hcurrent, hcount, hring, -⟩ := header_settings io
    ((x.atFiles x.ulCurrentFile).ullOffset - BitVec.ofNat 64 fileHeaderSize) x
  rw [← closeHeader] at hcurrent hcount hring
  rw [netanaWriteToFile, chunkRejected]
  by_cases hfull :
      (x.atFiles x.ulCurrentFile).ullOffset + BitVec.ofNat 64 pvBuffer.length > x.ullFileSize
  · rw [if_pos hfull, decide_eq_true hfull, Bool.true_and]
    dsimp only [advanceFile]
    rw [hcurrent, hcount, hring]
    by_cases hlast : x.ulFileCount ≤ x.ulCurrentFile + 1
    · rw [if_pos hlast, decide_eq_true hlast, Bool.true_and]
      cases x.fRingBuffer with
      | true => exact ⟨rfl, fun hno => absurd hno (by decide)⟩
      | false => exact ⟨rfl, fun _ => rfl⟩
    · rw [if_neg hlast, decide_eq_false hlast, Bool.false_and]
      exact ⟨rfl, fun hno => absurd hno (by decide)⟩
  · rw [if_neg hfull, decide_eq_false hfull, Bool.false_and, Bool.false_and]
    exact ⟨rfl, fun hno => absurd hno (by decide)⟩

/-- Before any chunk has been rejected, or after the only one. -/
def SignalInv (s : EventLoop) : Prop :=
  (s.ulWriteError = 0#32 ∧ s.rejected = 0) ∨
    (s.ulWriteError = captureErrorDriverFileFull ∧ s.rejected = 1 ∧ s.files.fWriteToFile = false)

/-- A round with an event, in a run that has not rejected a chunk before it or has. -/
def lateEvent (s : EventLoop) (p : EventRound) : Bool :=
  s.hasEvent p && decide (s.ulWriteError ≠ 0#32)

theorem storeChunk_inv {io : IoOutcome} {pbReadBuf : List (BitVec 8)} {s : EventLoop}
    (hi : SignalInv s) :
    SignalInv (storeChunk io pbReadBuf s) ∧ s.rejected ≤ (storeChunk io pbReadBuf s).rejected ∧
      (storeChunk io pbReadBuf s).signalled = s.signalled := by
  rw [storeChunk]
  by_cases hon : s.files.fWriteToFile = true
  · rw [if_pos hon]
    -- while the capture is written to files, nothing has been rejected
    have hfresh : s.rejected = 0 := by
      rcases hi with ⟨-, hzero⟩ | ⟨-, -, hoff⟩
      · exact hzero
      · rw [hoff] at hon
        cases hon
    obtain ⟨herror, hoff⟩ := netanaWriteToFile_error io pbReadBuf s.files
    cases hreject : chunkRejected s.files pbReadBuf with
    | true =>
      rw [hreject, if_pos rfl] at herror
      refine ⟨Or.inr ⟨herror, ?_, hoff hreject⟩, ?_, rfl⟩
      · show s.rejected + 1 = 1
        omega
      · exact Nat.le_succ _
    | false =>
      rw [hreject] at herror
      exact ⟨Or.inl ⟨herror, hfresh⟩, le_refl _, rfl⟩
  · rw [if_neg hon]
    exact ⟨hi, le_refl _, rfl⟩

theorem readData_inv (io : IoOutcome) (p : EventRound) {s : EventLoop} (hi : SignalInv s) :
    SignalInv (readData io p s) ∧ s.rejected ≤ (readData io p s).rejected ∧
      (readData io p s).signalled = s.signalled := by
  rw [readData]
  split
  · cases readLoop p.reads with
    | none => exact ⟨hi, le_refl _, rfl⟩
    | some pbReadBuf => exact storeChunk_inv hi
  · exact ⟨hi, le_refl _, rfl⟩

theorem readStatus_inv (p : EventRound) {s : EventLoop} (hi : SignalInv s) :
    SignalInv (readStatus p s) ∧ (readStatus p s).rejected = s.rejected ∧
      (readStatus p s).signalled = s.signalled := by
  rw [readStatus]
  split
  · exact ⟨hi, rfl, rfl⟩
  · exact ⟨hi, rfl, rfl⟩

theorem signalWriteError_inv {s : EventLoop} (hi : SignalInv s) :
    SignalInv (signalWriteError s) ∧ (signalWriteError s).rejected = s.rejected ∧
      (signalWriteError s).signalled.count captureErrorDriverFileFull =
        s.signalled.count captureErrorDriverFileFull + s.rejected := by
  rw [signalWriteError]
  rcases hi with ⟨hzero, hnone⟩ | ⟨hfull, hone, hoff⟩
  · rw [if_neg (not_not.mpr hzero), hnone]
    exact ⟨Or.inl ⟨hzero, hnone⟩, rfl, rfl⟩
  · have hne : s.ulWriteError ≠ 0#32 := by
      rw [hfull]
      decide
    rw [if_pos hne]
    refine ⟨Or.inr ⟨hfull, hone, hoff⟩, rfl, ?_⟩
    show (s.signalled ++ [s.ulWriteError]).count captureErrorDriverFileFull = _
    rw [List.count_append, hfull, List.count_singleton_self, hone]

/-- One round signals once for the chunk that it rejects, and once more if one has been rejected
before it. -/
theorem eventRound_inv (io : IoOutcome) (p : EventRound) {s : EventLoop} (hi : SignalInv s) :
    SignalInv (eventRound io s p) ∧
      (eventRound io s p).signalled.count captureErrorDriverFileFull + s.rejected =
        s.signalled.count captureErrorDriverFileFull + (eventRound io s p).rejected +
          (lateEvent s p).toNat := by
  -- the variable tells how often a chunk has been rejected, which is once at most
  have hrejected : s.rejected = (decide (s.ulWriteError ≠ 0#32)).toNat := by
    rcases hi with ⟨hzero, hnone⟩ | ⟨hfull, hone, -⟩
    · rw [hnone, hzero]
      rfl
    · rw [hone, hfull]
      rfl
  have htest : SignalInv (s.beforeTest p) := hi
  rw [eventRound, lateEvent, EventLoop.hasEvent]
  by_cases hrun : (s.beforeTest p).running = true
  · rw [if_pos hrun, hrun, Bool.true_and]
    by_cases hpoll : 0 ≤ p.iRet
    · rw [if_pos hpoll]
      by_cases hevent : p.iRet ≠ 0
      · have hpos : 0 < p.iRet := by omega
        rw [if_pos hevent, decide_eq_true hpos, Bool.true_and, ← hrejected]
        obtain ⟨hread, hmore, hsame⟩ := readData_inv io p htest
        obtain ⟨hstatus, hkept, hsame'⟩ := readStatus_inv p hread
        obtain ⟨hsignal, hkept', hcount⟩ := signalWriteError_inv hstatus
        refine ⟨hsignal, ?_⟩
        rw [hcount, hkept', hsame', hsame, hkept]
        have hold : (s.beforeTest p).signalled = s.signalled := rfl
        rw [hold]
      · have hzero : ¬ 0 < p.iRet := by omega
        rw [if_neg hevent, decide_eq_false hzero, Bool.false_and]
        exact ⟨htest, rfl⟩
    · -- no event: the error is not looked at
      have hneg : ¬ 0 < p.iRet := by omega
      rw [if_neg hpoll, decide_eq_false hneg, Bool.false_and]
      exact ⟨htest, rfl⟩
  · rw [if_neg hrun]
    have hended : (s.beforeTest p).running = false := by simpa using hrun
    rw [hended, Bool.false_and, Bool.false_and]
    exact ⟨htest, rfl⟩

/-- The rounds with an event that come after the rejection of a chunk. -/
def lateEvents (io : IoOutcome) (s : EventLoop) : List EventRound → ℕ
  | [] => 0
  | p :: rounds => (lateEvent s p).toNat + lateEvents io (eventRound io s p) rounds

theorem run_inv (io : IoOutcome) (rounds : List EventRound) {s : EventLoop} (hi : SignalInv s) :
    SignalInv (rounds.foldl (eventRound io) s) ∧
      (rounds.foldl (eventRound io) s).signalled.count captureErrorDriverFileFull + s.rejected =
        s.signalled.count captureErrorDriverFileFull +
          (rounds.foldl (eventRound io) s).rejected + lateEvents io s rounds := by
  induction rounds generalizing s with
  | nil => exact ⟨hi, rfl⟩
  | cons p rounds ih =>
    obtain ⟨hround, hcount⟩ := eventRound_inv io p hi
    obtain ⟨hrest, hcount'⟩ := ih hround
    refine ⟨hrest, ?_⟩
    rw [List.foldl_cons, lateEvents]
    omega

theorem lateEvents_eq_zero_iff (io : IoOutcome) (rounds : List EventRound) (s : EventLoop) :
    lateEvents io s rounds = 0 ↔ ∀ before p after, rounds = before ++ p :: after →
      lateEvent (before.foldl (eventRound io) s) p = false := by
  induction rounds generalizing s with
  | nil => exact ⟨fun _ => StepRuns.forall_split_nil fun s p => lateEvent s p = false, fun _ => rfl⟩
  | cons q rounds ih =>
    rw [StepRuns.forall_split_cons fun s p => lateEvent s p = false, lateEvents,
      Nat.add_eq_zero_iff, ih, Bool.toNat_eq_zero]

/-- One round counts the chunk that it rejects. -/
theorem eventRound_rejected (io : IoOutcome) (p : EventRound) (s : EventLoop) :
    (eventRound io s p).rejected = s.rejected + (s.rejectsChunk p).toNat := by
  have hsignal (t : EventLoop) : (signalWriteError t).rejected = t.rejected := by
    rw [signalWriteError]
    split
    · rfl
    · rfl
  have hstatus (t : EventLoop) : (readStatus p t).rejected = t.rejected := by
    rw [readStatus]
    split
    · rfl
    · rfl
  have hstore (pbReadBuf : List (BitVec 8)) : (storeChunk io pbReadBuf (s.beforeTest p)).rejected =
      s.rejected + (s.files.fWriteToFile && chunkRejected s.files pbReadBuf).toNat := by
    have hfiles : (s.beforeTest p).files = s.files := rfl
    rw [storeChunk, hfiles]
    cases s.files.fWriteToFile with
    | false => rfl
    | true =>
      rw [if_pos rfl, Bool.true_and]
      cases chunkRejected s.files pbReadBuf with
      | false => rfl
      | true => rfl
  rw [eventRound, EventLoop.rejectsChunk, EventLoop.hasEvent]
  by_cases hrun : (s.beforeTest p).running = true
  · rw [if_pos hrun, hrun, Bool.true_and]
    by_cases hevent : 0 < p.iRet
    · rw [if_pos (le_of_lt hevent), if_pos (ne_of_gt hevent), hsignal, hstatus, readData,
        decide_eq_true hevent, Bool.true_and]
      cases p.fPollPri with
      | false => rfl
      | true =>
        rw [if_pos rfl, Bool.true_and]
        cases readLoop p.reads with
        | none => rfl
        | some pbReadBuf => exact hstore pbReadBuf
    · rw [decide_eq_false hevent, Bool.false_and, Bool.false_and]
      split
      · rw [if_neg (by omega)]
        rfl
      · rfl
  · rw [if_neg hrun, (Bool.not_eq_true _).mp hrun, Bool.false_and, Bool.false_and, Bool.false_and]
    rfl

/-- Nothing has been rejected as long as no round has rejected a chunk. -/
theorem rejected_eq_zero_iff (io : IoOutcome) (rounds : List EventRound) (s : EventLoop) :
    (rounds.foldl (eventRound io) s).rejected = 0 ↔
      s.rejected = 0 ∧ ∀ before q after, rounds = before ++ q :: after →
        (before.foldl (eventRound io) s).rejectsChunk q = false := by
  induction rounds generalizing s with
  | nil =>
    exact (and_iff_left (StepRuns.forall_split_nil fun s q =>
      EventLoop.rejectsChunk s q = false)).symm
  | cons q rounds ih =>
    rw [StepRuns.forall_split_cons fun s q => EventLoop.rejectsChunk s q = false, List.foldl_cons,
      ih, eventRound_rejected, Nat.add_eq_zero_iff, Bool.toNat_eq_zero, and_assoc]

/-- The error is left of a chunk that has been rejected. -/
theorem SignalInv.ulWriteError_iff {s : EventLoop} (hi : SignalInv s) :
    s.ulWriteError = 0#32 ↔ s.rejected = 0 := by
  rcases hi with ⟨hzero, hnone⟩ | ⟨hfull, hone, -⟩
  · exact iff_of_true hzero hnone
  · rw [hfull, hone]
    exact iff_of_false (by decide) (by decide)

/-- The runs with one signal, by what the error is when an event comes. -/
theorem signalled_once_iff (io : IoOutcome) (fAllocated : Bool)
    (devCaptureState : BitVec 32) (x : FileCapture) (rounds : List EventRound) :
    ((netanaEventThread io fAllocated devCaptureState x rounds).signalled.count
        captureErrorDriverFileFull =
      if 0 < (netanaEventThread io fAllocated devCaptureState x rounds).rejected then 1 else 0) ↔
    ∀ before p after, rounds = before ++ p :: after →
      (netanaEventThread io fAllocated devCaptureState x before).hasEvent p = true →
      (netanaEventThread io fAllocated devCaptureState x before).ulWriteError = 0#32 := by
  have hfresh : SignalInv (eventThreadStart fAllocated devCaptureState x) := Or.inl ⟨rfl, rfl⟩
  obtain ⟨hinv, hcount⟩ := run_inv io rounds hfresh
  have hstart : (eventThreadStart fAllocated devCaptureState x).signalled.count
      captureErrorDriverFileFull = 0 := rfl
  have hnone : (eventThreadStart fAllocated devCaptureState x).rejected = 0 := rfl
  rw [hstart, hnone, ← netanaEventThread] at hcount
  rw [← netanaEventThread] at hinv
  have honce : (if 0 < (netanaEventThread io fAllocated devCaptureState x rounds).rejected then 1
      else 0) = (netanaEventThread io fAllocated devCaptureState x rounds).rejected := by
    rcases hinv with ⟨-, hzero⟩ | ⟨-, hone, -⟩
    · rw [hzero]
      rfl
    · rw [hone]
      rfl
  have hlate := lateEvents_eq_zero_iff io rounds
    (eventThreadStart fAllocated devCaptureState x)
  rw [honce]
  constructor
  · intro heq before p after hsplit hevent
    have hzero := hlate.mp (by omega) before p after hsplit
    rw [← netanaEventThread, lateEvent, hevent, Bool.true_and] at hzero
    simpa using hzero
  · intro hall
    have hzero : lateEvents io (eventThreadStart fAllocated devCaptureState x) rounds = 0 := by
      apply hlate.mpr
      intro before p after hsplit
      rw [← netanaEventThread, lateEvent]
      cases hevent : (netanaEventThread io fAllocated devCaptureState x before).hasEvent p with
      | false => rfl
      | true =>
        rw [hall before p after hsplit hevent]
        rfl
    omega

/-- A full file is signalled once, if a chunk has been rejected, exactly in the runs in which no
round with an event comes after the first chunk that does not fit into the last file. -/
theorem full_file_signalled_once (io : IoOutcome) (fAllocated : Bool)
    (devCaptureState : BitVec 32) (x : FileCapture) (rounds : List EventRound) :
    ((netanaEventThread io fAllocated devCaptureState x rounds).signalled.count
        captureErrorDriverFileFull =
      if 0 < (netanaEventThread io fAllocated devCaptureState x rounds).rejected then 1 else 0) ↔
    ∀ before q middle p after, rounds = before ++ q :: middle ++ p :: after →
      (netanaEventThread io fAllocated devCaptureState x before).rejectsChunk q = true →
      (netanaEventThread io fAllocated devCaptureState x (before ++ q :: middle)).hasEvent p =
        false := by
  have hfresh : SignalInv (eventThreadStart fAllocated devCaptureState x) := Or.inl ⟨rfl, rfl⟩
  -- when an event comes, the error tells whether a round before it has rejected a chunk
  have hset (before : List EventRound) :
      (netanaEventThread io fAllocated devCaptureState x before).ulWriteError = 0#32 ↔
        ∀ start q middle, before = start ++ q :: middle →
          (netanaEventThread io fAllocated devCaptureState x start).rejectsChunk q = false := by
    rw [netanaEventThread, (run_inv io before hfresh).1.ulWriteError_iff, rejected_eq_zero_iff]
    exact and_iff_right rfl
  rw [signalled_once_iff]
  constructor
  · intro hall before q middle p after hsplit hreject
    by_contra hevent
    have hnone := (hset _).mp (hall (before ++ q :: middle) p after hsplit (by simpa using hevent))
      before q middle rfl
    rw [hnone] at hreject
    cases hreject
  · intro hall before p after hsplit hevent
    apply (hset before).mpr
    intro start q middle hbefore
    by_contra hreject
    have hquiet := hall start q middle p after (hbefore ▸ hsplit) (by simpa using hreject)
    rw [← hbefore, hevent] at hquiet
    cases hquiet

/-- One file that has room for its header only. -/
def headerOnlyFile : FileCapture where
  fRingBuffer := false
  ulFileCount := 1
  ullFileSize := 32#64
  ulCurrentFile := 0
  fWriteToFile := true
  tFileHeader := ⟨fileHeaderCookie, 0#32, 0#64, fileHeaderSizeInvalid, 0#32, 0#32⟩
  atFiles := fun _ => ⟨[], 32, 32#64, 0#64⟩
  calls := 0
  ioFailed := false

def dataRound : EventRound where
  fStop := false
  iRet := 1
  fPollPri := true
  fPollRdnorm := false
  reads := [.data [0#8]]
  lRetState := 0#32
  ulCaptureState := captureStateRunning
  ulCaptureError := 0#32

/-- The capture reports that it has ended. -/
def statusRound : EventRound :=
  { dataRound with fPollPri := false, fPollRdnorm := true, ulCaptureState := captureStateOff }

theorem full_file_signalled_twice :
    (netanaEventThread (fun _ => 100) true captureStateRunning headerOnlyFile
        [dataRound, statusRound]).signalled =
      [captureErrorDriverFileFull, captureErrorDriverFileFull] ∧
    ¬ ∀ (io : IoOutcome) (x : FileCapture) (rounds : List EventRound),
      (netanaEventThread io true captureStateRunning x rounds).signalled.count
          captureErrorDriverFileFull =
        if 0 < (netanaEventThread io true captureStateRunning x rounds).rejected then 1
        else 0 := by
  have hrun : (netanaEventThread (fun _ => 100) true captureStateRunning headerOnlyFile
      [dataRound, statusRound]).signalled =
      [captureErrorDriverFileFull, captureErrorDriverFileFull] := by decide
  refine ⟨hrun, fun hall => ?_⟩
  have hcount := hall (fun _ => 100) headerOnlyFile [dataRound, statusRound]
  rw [hrun] at hcount
  revert hcount
  decide

end NetanaDriver
