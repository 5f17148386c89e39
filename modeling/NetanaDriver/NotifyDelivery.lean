import NetanaDriver.NotifyCapture

/-! What is passed to `netana_notify_data` reaches the reader: the invariant over the five shared
fields by the positions of the DSR and of the reader. -/
namespace NetanaDriver

variable {β : Type*}

/-- The reader is outside `netana_read`, or about to find nothing new, or about to return. -/
def ReadPc.quiet (i : NotifyInfo) : ReadPc → Prop
  | .compare _ dataEvent => dataEvent = i.dataReadCounter
  | .idle | .wakeDsr _ => True
  | _ => False

/-- The buffer is offered to the reader. -/
def NotifyInfo.holds (i : NotifyInfo) (b : Handover (List (BitVec 8))) : Prop :=
  i.curDmaBuf.data = some b.buffer ∧ i.curDmaBuf.datalen = b.size ∧
    i.curDmaBuf.buffervalid = true

/-- Nothing is offered; `copied` has been copied out and `done` should have been. -/
def Settled (i : NotifyInfo) (reader : ReadPc) (copied done : List (List (BitVec 8))) : Prop :=
  i.dataQuiet ∧ reader.quiet i ∧ copied = done

/-- The buffer is offered, and the reader has not yet looked at it. -/
def Unread (i : NotifyInfo) (copied done : List (List (BitVec 8)))
    (b : Handover (List (BitVec 8))) : Prop :=
  i.dataReadSig = false ∧ i.dataEventCounter ≠ i.dataReadCounter ∧ i.holds b ∧ copied = done

/-- The reader has copied the buffer out and told so. -/
def Answered (i : NotifyInfo) (copied done : List (List (BitVec 8)))
    (b : Handover (List (BitVec 8))) : Prop :=
  i.dataReadSig = true ∧ i.dataEventCounter = i.dataReadCounter ∧ copied = done ++ [b.payload]

/-- The reader has taken the event, and the DSR waits for it. -/
def Taken (i : NotifyInfo) : Prop :=
  i.dataReadSig = false ∧ i.dataEventCounter = i.dataReadCounter

/-- What holds between the event of buffer `b` and the end of the wait. -/
def Published (i : NotifyInfo) (reader : ReadPc) (copied done : List (List (BitVec 8)))
    (b : Handover (List (BitVec 8))) : Prop :=
  match reader with
  | .idle | .wakeDsr _ => Unread i copied done b ∨ Answered i copied done b
  | .compare _ dataEvent =>
    (Unread i copied done b ∧
      (dataEvent = i.dataEventCounter ∨ dataEvent = i.dataReadCounter)) ∨
    (Answered i copied done b ∧ dataEvent = i.dataReadCounter)
  | .setCounter _ dataEvent =>
    i.dataReadSig = false ∧ dataEvent = i.dataEventCounter ∧ i.holds b ∧ copied = done
  | .testData _ | .testValid _ | .clampSize _ => Taken i ∧ i.holds b ∧ copied = done
  | .copyOut tsize => Taken i ∧ i.holds b ∧ copied = done ∧ tsize = b.size.toNat
  | .clearData _ | .setSig _ => Taken i ∧ copied = done ++ [b.payload]

/-- The same by the position in `netana_notify_data`, called with buffer `b`. -/
def CallPosition (pc : NotifyDataPc) (i : NotifyInfo) (reader : ReadPc)
    (copied done : List (List (BitVec 8))) (b : Handover (List (BitVec 8))) : Prop :=
  match pc with
  | .testCapture | .testNotify | .setData => Settled i reader copied done
  | .setLen => Settled i reader copied done ∧ i.curDmaBuf.data = some b.buffer
  | .setValid => Settled i reader copied done ∧ i.curDmaBuf.data = some b.buffer ∧
      i.curDmaBuf.datalen = b.size
  | .incEvent => Settled i reader copied done ∧ i.holds b
  | .wakeUser | .waitRead => Published i reader copied done b
  | .clearSig => i.dataEventCounter = i.dataReadCounter ∧ reader.quiet i ∧
      copied = done ++ [b.payload]

/-- One statement of `netana_notify_data`, when the capture is marked active. -/
theorem CallPosition.notify {pc : NotifyDataPc} {i : NotifyInfo} {reader : ReadPc}
    {copied done : List (List (BitVec 8))} {b : Handover (List (BitVec 8))}
    {r : NotifyInfo × Option NotifyDataPc} (h : CallPosition pc i reader copied done b)
    (hactive : pc = .testCapture → i.captureactive = true) (hnotify : i.notifyInterrupts = true)
    (hr : notifyDataStep b.buffer b.size pc i = some r) :
    r.1.notifyInterrupts = true ∧
      match r.2 with
      | some next => CallPosition next r.1 reader copied done b
      | none => Settled r.1 reader copied (done ++ [b.payload]) := by
  cases pc with
  | testCapture =>
    cases hr
    rw [hactive rfl]
    exact ⟨hnotify, h⟩
  | testNotify =>
    cases hr
    refine ⟨hnotify, ?_⟩
    dsimp only
    rw [hnotify]
    exact h
  | setData =>
    cases hr
    exact ⟨hnotify, h, rfl⟩
  | setLen =>
    cases hr
    obtain ⟨hset, hdata⟩ := h
    exact ⟨hnotify, hset, hdata, rfl⟩
  | setValid =>
    cases hr
    obtain ⟨hset, hdata, hlen⟩ := h
    exact ⟨hnotify, hset, hdata, hlen, rfl⟩
  | incEvent =>
    cases hr
    obtain ⟨⟨⟨heq, hsig⟩, hquiet, hcopied⟩, hholds⟩ := h
    have hunread : Unread { i with dataEventCounter := i.dataEventCounter + 1 } copied done b := by
      refine ⟨hsig, ?_, hholds, hcopied⟩
      show i.dataEventCounter + 1 ≠ i.dataReadCounter
      rw [heq]
      exact (counter_ne_succ _).symm
    refine ⟨hnotify, ?_⟩
    show Published _ reader copied done b
    cases reader with
    | idle | wakeDsr copied => exact Or.inl hunread
    | compare tsize dataEvent => exact Or.inl ⟨hunread, Or.inr hquiet⟩
    | _ => cases hquiet
  | wakeUser =>
    cases hr
    exact ⟨hnotify, h⟩
  | waitRead =>
    rw [notifyDataStep] at hr
    split at hr
    · rename_i hsig
      cases hr
      refine ⟨hnotify, ?_⟩
      show i.dataEventCounter = i.dataReadCounter ∧ reader.quiet i ∧ copied = done ++ [b.payload]
      -- only a reader that has answered leaves the signal behind
      have hsigned {p : Prop} (hp : i.dataReadSig = false ∧ p) : False := by
        rw [hsig] at hp
        cases hp.1
      cases reader with
      | idle | wakeDsr copied =>
        rcases h with h | ⟨-, heq, hcopied⟩
        · exact (hsigned h).elim
        · exact ⟨heq, trivial, hcopied⟩
      | compare tsize dataEvent =>
        rcases h with ⟨h, -⟩ | ⟨⟨-, heq, hcopied⟩, hlocal⟩
        · exact (hsigned h).elim
        · exact ⟨heq, hlocal, hcopied⟩
      | setCounter tsize dataEvent => exact (hsigned h).elim
      | _ => exact (hsigned h.1).elim
    · cases hr
  | clearSig =>
    cases hr
    obtain ⟨heq, hquiet, hcopied⟩ := h
    refine ⟨hnotify, ⟨heq, rfl⟩, ?_, hcopied⟩
    cases reader
    all_goals exact hquiet

/-- The next statement of a quiet reader ends its call. -/
theorem ReadPc.quiet.next {i : NotifyInfo} {reader : ReadPc} (h : reader.quiet i)
    (pvBufferAddress : ℕ → List (BitVec 8)) (returned : List (List (BitVec 8))) :
    readStep pvBufferAddress (i, reader) = (i, .idle) ∧
      returned ++ reader.returns = returned ++ reader.copied.toList := by
  cases reader with
  | idle => exact ⟨rfl, rfl⟩
  | compare tsize dataEvent =>
    have heq : i.dataReadCounter = dataEvent := Eq.symm h
    refine ⟨?_, rfl⟩
    rw [readStep, if_pos heq]
  | wakeDsr copied => exact ⟨rfl, rfl⟩
  | _ => cases h

/-- One statement of `netana_read` while buffer `b` is offered. -/
theorem Published.reader {i : NotifyInfo} {reader : ReadPc}
    {returned done : List (List (BitVec 8))} {b : Handover (List (BitVec 8))}
    {pvBufferAddress : ℕ → List (BitVec 8)}
    (h : Published i reader (returned ++ reader.copied.toList) done b)
    (hmem : pvBufferAddress b.buffer = b.content)
    (hfits : ∀ tsize, reader.size = some tsize → b.size.toNat ≤ tsize) :
    Published (readStep pvBufferAddress (i, reader)).1 (readStep pvBufferAddress (i, reader)).2
      (returned ++ reader.returns ++
        (readStep pvBufferAddress (i, reader)).2.copied.toList) done b := by
  cases reader with
  | idle =>
    simpa only [readStep, ReadPc.returns, ReadPc.copied, List.append_nil, Option.toList] using h
  | compare tsize dataEvent =>
    -- with equal counters the reader goes on waiting
    by_cases heq : i.dataReadCounter = dataEvent
    · rw [readStep, if_pos heq]
      simp only [ReadPc.returns, List.append_nil, ReadPc.copied, Option.toList] at h ⊢
      rcases h with ⟨hunread, -⟩ | ⟨hans, -⟩
      · exact Or.inl hunread
      · exact Or.inr hans
    · rw [readStep, if_neg heq]
      simp only [ReadPc.returns, List.append_nil, ReadPc.copied, Option.toList] at h ⊢
      rcases h with ⟨⟨hsig, -, hholds, hcopied⟩, hlocal⟩ | ⟨-, hlocal⟩
      · exact ⟨hsig, hlocal.resolve_right (Ne.symm heq), hholds, hcopied⟩
      · exact absurd hlocal.symm heq
  | setCounter tsize dataEvent =>
    obtain ⟨hsig, hlocal, hholds, hcopied⟩ := h
    simp only [ReadPc.copied, Option.toList, List.append_nil] at hcopied
    refine ⟨⟨hsig, hlocal.symm⟩, hholds, ?_⟩
    simpa only [readStep, ReadPc.returns, List.append_nil, ReadPc.copied, Option.toList]
      using hcopied
  | testData tsize =>
    obtain ⟨htaken, hholds, hcopied⟩ := h
    have hdata : ¬ i.curDmaBuf.data = none := by
      rw [hholds.1]
      exact Option.some_ne_none _
    rw [readStep, if_neg hdata]
    refine ⟨htaken, hholds, ?_⟩
    simpa only [ReadPc.returns, List.append_nil, ReadPc.copied, Option.toList] using hcopied
  | testValid tsize =>
    obtain ⟨htaken, hholds, hcopied⟩ := h
    have hvalid : ¬ i.curDmaBuf.buffervalid = false := by
      rw [hholds.2.2]
      exact Bool.noConfusion
    rw [readStep, if_neg hvalid]
    refine ⟨htaken, hholds, ?_⟩
    simpa only [ReadPc.returns, List.append_nil, ReadPc.copied, Option.toList] using hcopied
  | clampSize tsize =>
    obtain ⟨htaken, hholds, hcopied⟩ := h
    -- the caller's buffer is large enough, so nothing is cut off
    have hle := hfits tsize rfl
    refine ⟨htaken, hholds, ?_, ?_⟩
    · simpa only [readStep, ReadPc.returns, List.append_nil, ReadPc.copied, Option.toList]
        using hcopied
    · rw [hholds.2.1]
      split <;> omega
  | copyOut tsize =>
    obtain ⟨htaken, hholds, hcopied, hsize⟩ := h
    refine ⟨htaken, ?_⟩
    simp only [ReadPc.copied, Option.toList, List.append_nil] at hcopied
    simp only [readStep, ReadPc.returns, List.append_nil, ReadPc.copied, Option.toList, hholds.1,
      hmem, hcopied, hsize]
    rfl
  | clearData copied =>
    obtain ⟨htaken, hcopied⟩ := h
    refine ⟨htaken, ?_⟩
    simpa only [readStep, ReadPc.returns, ReadPc.copied, List.append_nil] using hcopied
  | setSig copied =>
    -- the answer is given with both counters equal: the next round finds nothing to read
    obtain ⟨⟨-, heq⟩, hcopied⟩ := h
    refine Or.inr ⟨rfl, heq, ?_⟩
    simpa only [readStep, ReadPc.returns, ReadPc.copied, List.append_nil] using hcopied
  | wakeDsr copied =>
    simp only [readStep, ReadPc.returns, ReadPc.copied, List.append_nil, Option.toList] at h ⊢
    exact h

/-- One statement of `netana_read`, wherever the DSR is in `netana_notify_data`. -/
theorem CallPosition.reader {pc : NotifyDataPc} {i : NotifyInfo} {reader : ReadPc}
    {returned done : List (List (BitVec 8))} {b : Handover (List (BitVec 8))}
    {pvBufferAddress : ℕ → List (BitVec 8)}
    (h : CallPosition pc i reader (returned ++ reader.copied.toList) done b)
    (hmem : pvBufferAddress b.buffer = b.content)
    (hfits : ∀ tsize, reader.size = some tsize → b.size.toNat ≤ tsize) :
    CallPosition pc (readStep pvBufferAddress (i, reader)).1
      (readStep pvBufferAddress (i, reader)).2
      (returned ++ reader.returns ++
        (readStep pvBufferAddress (i, reader)).2.copied.toList) done b := by
  have hsettled (hs : Settled i reader (returned ++ reader.copied.toList) done) :
      (readStep pvBufferAddress (i, reader)).1 = i ∧
      Settled (readStep pvBufferAddress (i, reader)).1 (readStep pvBufferAddress (i, reader)).2
        (returned ++ reader.returns ++
          (readStep pvBufferAddress (i, reader)).2.copied.toList) done := by
    obtain ⟨hdata, hquiet, hcopied⟩ := hs
    obtain ⟨hnext, hreturns⟩ := hquiet.next pvBufferAddress returned
    rw [hnext, hreturns]
    refine ⟨rfl, hdata, trivial, ?_⟩
    simpa only [ReadPc.copied, Option.toList, List.append_nil] using hcopied
  cases pc with
  | testCapture | testNotify | setData => exact (hsettled h).2
  | setLen =>
    obtain ⟨hs, hdata⟩ := h
    obtain ⟨hi, hs'⟩ := hsettled hs
    refine ⟨hs', ?_⟩
    rw [hi]
    exact hdata
  | setValid =>
    obtain ⟨hs, hdata⟩ := h
    obtain ⟨hi, hs'⟩ := hsettled hs
    refine ⟨hs', ?_⟩
    rw [hi]
    exact hdata
  | incEvent =>
    obtain ⟨hs, hdata⟩ := h
    obtain ⟨hi, hs'⟩ := hsettled hs
    refine ⟨hs', ?_⟩
    rw [hi]
    exact hdata
  | wakeUser | waitRead => exact Published.reader h hmem hfits
  | clearSig =>
    obtain ⟨heq, hquiet, hcopied⟩ := h
    obtain ⟨hnext, hreturns⟩ := hquiet.next pvBufferAddress returned
    rw [hnext, hreturns]
    refine ⟨heq, trivial, ?_⟩
    simpa only [ReadPc.copied, Option.toList, List.append_nil] using hcopied

/-- A call of `netana_read` begins. -/
theorem CallPosition.read {pc : NotifyDataPc} {i : NotifyInfo}
    {copied done : List (List (BitVec 8))} {b : Handover (List (BitVec 8))}
    (h : CallPosition pc i .idle copied done b) (tsize : ℕ) :
    CallPosition pc i (.compare tsize i.dataEventCounter) copied done b := by
  have hsettled (hs : Settled i .idle copied done) :
      Settled i (.compare tsize i.dataEventCounter) copied done :=
    ⟨hs.1, hs.1.1, hs.2.2⟩
  cases pc with
  | testCapture | testNotify | setData => exact hsettled h
  | setLen | setValid | incEvent => exact ⟨hsettled h.1, h.2⟩
  | wakeUser | waitRead =>
    rcases h with hunread | hans
    · exact Or.inl ⟨hunread, Or.inl rfl⟩
    · exact Or.inr ⟨hans, hans.2.1⟩
  | clearSig => exact ⟨h.1, h.1, h.2.2⟩

/-- The other statements of a reader do not concern the flags of the session. -/
theorem readStep_flags (pvBufferAddress : ℕ → List (BitVec 8)) (i : NotifyInfo)
    (reader : ReadPc) :
    (readStep pvBufferAddress (i, reader)).1.notifyInterrupts = i.notifyInterrupts ∧
      ∀ tsize, (readStep pvBufferAddress (i, reader)).2.size = some tsize →
        reader.size = some tsize := by
  cases reader
  case compare | testData | testValid =>
    rw [readStep]
    refine ⟨rfl, fun tsize h => ?_⟩
    dsimp only at h
    split at h
    · cases h
    · exact h
  case idle | setCounter => exact ⟨rfl, fun _ h => h⟩
  all_goals exact ⟨rfl, fun _ h => by cases h⟩

def NotifyCapture.position (x : NotifyCapture) : Prop :=
  match x.call with
  | none => x.passed = x.cap.drv.handed ∧
      Settled x.info x.reader x.copiedOut (x.cap.drv.handed.map Handover.payload)
  | some pc => ∃ l, x.cap.drv.dsr = .callData l ∧
      x.passed = x.cap.drv.handed ++ [x.cap.drv.callEntry l] ∧
      CallPosition pc x.info x.reader x.copiedOut (x.cap.drv.handed.map Handover.payload)
        (x.cap.drv.callEntry l)

structure NotifyInv (early : Prop) (x : NotifyCapture) : Prop where
  capture : CaptureInv early x.cap
  notify : x.info.notifyInterrupts = true
  fits : ∀ tsize, x.reader.size = some tsize → x.cap.drv.fits tsize = true
  position : x.position

/-- The callback is called with the next filled buffer, which has a legal size. -/
theorem RingInv.callEntry {s : DrvState β} {filled : List (Handover β)} {r v : ℕ}
    {l : ProcessLocals} (hi : RingInv s filled r v) (hpc : s.dsr = .callData l) :
    s.handed.length = r ∧ filled[r]? = some (s.callEntry l) ∧
      s.ulCurrentBuffer < s.ulDMABufferCount ∧
      l.ulUsedBufferSize ≤ s.ulBufferSize s.ulCurrentBuffer := by
  obtain ⟨hn, -⟩ := hi.count
  obtain ⟨-, hvw, -⟩ := hi.bounds
  have hpos := hi.position
  rw [DrvState.ringPosition, hpc] at hpos
  obtain ⟨⟨hcur, -, -⟩, hlt, hsize⟩ := hpos
  obtain ⟨hslot, hlegal⟩ := hi.slots r le_rfl (by omega)
  refine ⟨?_, ?_, ?_, ?_⟩
  · rw [hi.handed, hpc, List.length_take]
    show min r filled.length = r
    omega
  · rw [hslot, DrvState.slot, DrvState.callEntry, hcur, hsize]
  · rw [hcur]
    exact Nat.mod_lt r hn
  · rw [hsize, hcur]
    exact hlegal

/-- The DSR thread stays where it is while others act, and nothing that is filled changes. -/
theorem captureStep_other {x y : CaptureState β} {a : CaptureAction β}
    (h : captureStep x a = some y) (ha : ∀ c, a ≠ .dsr c) :
    y.drv.dsr = x.drv.dsr ∧ y.drv.handed = x.drv.handed ∧ x.fw.filled <+: y.fw.filled ∧
      y.drv.ulDMABufferCount = x.drv.ulDMABufferCount ∧
      y.drv.ulBufferSize = x.drv.ulBufferSize := by
  cases a with
  | isr w =>
    cases h
    obtain ⟨hsame, -, hdsr⟩ := isr_same w x.drv
    exact ⟨hdsr, hsame.handed, List.prefix_rfl, hsame.count, hsame.limits⟩
  | dsr c => exact absurd rfl (ha c)
  | otherHostBit b =>
    rw [captureStep] at h
    split at h
    · cases h
    · obtain ⟨t, ht, rfl⟩ := Option.map_eq_some_iff.mp h
      have hsame := netanaTkitToggleBit_same ht
      exact ⟨netanaTkitToggleBit_dsr ht, hsame.handed, List.prefix_rfl, hsame.count,
        hsame.limits⟩
  | flipBuffer =>
    rw [captureStep] at h
    split at h
    · cases h
      exact ⟨rfl, rfl, List.prefix_append _ _, rfl, rfl⟩
    · cases h
  | newStatus | otherNetxBit _ =>
    rw [captureStep] at h
    split at h
    · cases h
    · cases h
      exact ⟨rfl, rfl, List.prefix_rfl, rfl, rfl⟩
  | transfer _ | setSize _ | newData | setState _ _ =>
    rw [captureStep] at h
    split at h
    · cases h
      exact ⟨rfl, rfl, List.prefix_rfl, rfl, rfl⟩
    · cases h

/-- While the callback runs, the buffer it was called with does not change. -/
theorem callEntry_other {early : Prop} {x y : CaptureState β} {a : CaptureAction β}
    {l : ProcessLocals} (hx : CaptureInv early x) (hy : CaptureInv early y)
    (h : captureStep x a = some y) (ha : ∀ c, a ≠ .dsr c) (hpc : x.drv.dsr = .callData l) :
    y.drv.callEntry l = x.drv.callEntry l := by
  obtain ⟨hdsr, hhanded, ⟨zs, hfilled⟩, -, -⟩ := captureStep_other h ha
  obtain ⟨-, -, r, v, -, hring, -⟩ := hx
  obtain ⟨-, -, r', v', -, hring', -⟩ := hy
  obtain ⟨hr, hentry, -, -⟩ := hring.callEntry hpc
  obtain ⟨hr', hentry', -, -⟩ := hring'.callEntry (hdsr.trans hpc)
  have hsame : r' = r := by rw [← hr, ← hr', hhanded]
  have hlt : r < x.fw.filled.length := (List.getElem?_eq_some_iff.mp hentry).1
  rw [hsame, ← hfilled, List.getElem?_append_left hlt, hentry] at hentry'
  exact (Option.some.inj hentry').symm

theorem NotifyInv.start {x : NotifyCapture} (h : NotifyCaptureStart x) :
    NotifyInv (x.cap.drv.hStopComplete = some true) x := by
  refine ⟨h.capture.inv, h.notify, fun tsize ht => ?_, ?_⟩
  · rw [h.reader] at ht
    cases ht
  · have hcopied : x.copiedOut = [] := by
      rw [NotifyCapture.copiedOut, h.reader, h.history.2]
      rfl
    rw [NotifyCapture.position, h.call]
    refine ⟨?_, h.quiet, ?_, ?_⟩
    · rw [h.history.1, h.capture.handed]
    · rw [h.reader]
      trivial
    · rw [hcopied, h.capture.handed, List.map_nil]

/-- A step of the firmware, of an interrupt or of another thread. -/
theorem NotifyInv.other {early : Prop} {x : NotifyCapture} (hi : NotifyInv early x)
    {a : CaptureAction (List (BitVec 8))} {cap : CaptureState (List (BitVec 8))}
    (h : captureStep x.cap a = some cap) (ha : ∀ c, a ≠ .dsr c) :
    NotifyInv early { x with cap := cap } := by
  have hcap := captureStep_inv x.cap a cap hi.capture h
  obtain ⟨hdsr, hhanded, -, hcount, hlimits⟩ := captureStep_other h ha
  have hpos := hi.position
  refine ⟨hcap, hi.notify, fun tsize ht => ?_, ?_⟩
  · have hfits := hi.fits tsize ht
    rw [DrvState.fits] at hfits ⊢
    rw [hcount, hlimits]
    exact hfits
  · rw [NotifyCapture.position] at hpos ⊢
    dsimp only
    cases hcall : x.call with
    | none =>
      rw [hcall] at hpos
      rw [hhanded]
      exact hpos
    | some pc =>
      rw [hcall] at hpos
      obtain ⟨l, hpc, hpassed, hposition⟩ := hpos
      refine ⟨l, hdsr.trans hpc, ?_, ?_⟩
      · rw [hhanded, callEntry_other hi.capture hcap h ha hpc]
        exact hpassed
      · rw [hhanded, callEntry_other hi.capture hcap h ha hpc]
        exact hposition

/-- A step of the DSR thread outside the data callback. -/
theorem NotifyInv.outside {early : Prop} {x : NotifyCapture} (hi : NotifyInv early x)
    {c : DsrChoice} {cap : CaptureState (List (BitVec 8))}
    (h : captureStep x.cap (.dsr c) = some cap) (hno : ∀ l, x.cap.drv.dsr ≠ .callData l) :
    NotifyInv early { x with cap := cap } := by
  have hcap := captureStep_inv x.cap (.dsr c) cap hi.capture h
  obtain ⟨t, ht, rfl⟩ := Option.map_eq_some_iff.mp h
  obtain ⟨hhanded, hcount, hlimits⟩ := dsrStep_handed ht
  have hpos := hi.position
  refine ⟨hcap, hi.notify, fun tsize hsize => ?_, ?_⟩
  · have hfits := hi.fits tsize hsize
    rw [DrvState.fits] at hfits ⊢
    rw [hcount, hlimits]
    exact hfits
  · have hsame : t.handed = x.cap.drv.handed := by
      rcases hhanded with hsame | ⟨l, hpc, -⟩
      · exact hsame
      · exact absurd hpc (hno l)
    rw [NotifyCapture.position] at hpos ⊢
    dsimp only
    cases hcall : x.call with
    | none =>
      rw [hcall] at hpos
      rw [hsame]
      exact hpos
    | some pc =>
      rw [hcall] at hpos
      obtain ⟨l, hpc, -⟩ := hpos
      exact absurd hpc (hno l)

/-- The DSR thread in the data callback: its call, one of its statements, or its return. -/
theorem NotifyInv.inside {early : Prop} {x y : NotifyCapture} (hi : NotifyInv early x)
    {c : DsrChoice} {l : ProcessLocals} (hpc : x.cap.drv.dsr = .callData l)
    (hactive : x.call = some .testCapture → x.info.captureactive = true)
    (h : notifyingDsrStep c x = some y) : NotifyInv early y := by
  obtain ⟨-, -, r, v, -, hring, -⟩ := id hi.capture
  have hcallback := hring.callback
  have hpos := hi.position
  rw [NotifyCapture.position] at hpos
  rw [notifyingDsrStep, hpc] at h
  cases hcall : x.call with
  | none =>
    rw [hcall] at hpos h
    dsimp only at h
    rw [if_pos hcallback] at h
    cases h
    obtain ⟨hpassed, hsettled⟩ := hpos
    refine ⟨hi.capture, hi.notify, hi.fits, l, hpc, ?_, hsettled⟩
    show x.passed ++ _ = x.cap.drv.handed ++ _
    rw [hpassed]
  | some pc =>
    rw [hcall] at hpos h
    dsimp only at h
    obtain ⟨l', hpc', hpassed, hposition⟩ := hpos
    rw [hpc] at hpc'
    cases hpc'
    obtain ⟨s, hs, hnext⟩ := Option.bind_eq_some_iff.mp h
    obtain ⟨hnotify, hcases⟩ := hposition.notify
      (fun htest => hactive (by rw [hcall, htest])) hi.notify hs
    cases hresult : s.2 with
    | some next =>
      rw [hresult] at hnext hcases
      cases hnext
      exact ⟨hi.capture, hnotify, hi.fits, l, hpc, hpassed, hcases⟩
    | none =>
      rw [hresult] at hnext hcases
      obtain ⟨cap, hcap, rfl⟩ := Option.map_eq_some_iff.mp hnext
      have hinv := captureStep_inv x.cap (.dsr c) cap hi.capture hcap
      obtain ⟨t, ht, rfl⟩ := Option.map_eq_some_iff.mp hcap
      obtain ⟨-, hcount, hlimits⟩ := dsrStep_handed ht
      rw [dsrStep, hpc] at ht
      dsimp only at ht
      rw [hcallback] at ht
      cases ht
      refine ⟨hinv, hnotify, hi.fits, hpassed, ?_⟩
      show Settled s.1 x.reader x.copiedOut
        ((x.cap.drv.handed ++ [x.cap.drv.callEntry l]).map Handover.payload)
      rw [List.map_append, List.map_singleton]
      exact hcases

/-- A statement of `netana_read`. -/
theorem NotifyInv.reader {early : Prop} {x : NotifyCapture} (hi : NotifyInv early x) :
    NotifyInv early { x with
      info := (readStep x.cap.drv.pvBufferAddress (x.info, x.reader)).1
      reader := (readStep x.cap.drv.pvBufferAddress (x.info, x.reader)).2
      returned := x.returned ++ x.reader.returns } := by
  obtain ⟨hnotify, hsize⟩ := readStep_flags x.cap.drv.pvBufferAddress x.info x.reader
  have hpos := hi.position
  refine ⟨hi.capture, hnotify.trans hi.notify, fun tsize ht => hi.fits tsize (hsize tsize ht),
    ?_⟩
  rw [NotifyCapture.position] at hpos ⊢
  dsimp only
  cases hcall : x.call with
  | none =>
    rw [hcall] at hpos
    obtain ⟨hpassed, hdata, hquiet, hcopied⟩ := hpos
    obtain ⟨hnext, hreturns⟩ := hquiet.next x.cap.drv.pvBufferAddress x.returned
    refine ⟨hpassed, ?_⟩
    rw [NotifyCapture.copiedOut, hnext, hreturns]
    refine ⟨hdata, trivial, ?_⟩
    rw [← hcopied]
    exact List.append_nil _
  | some pc =>
    rw [hcall] at hpos
    obtain ⟨l, hpc, hpassed, hposition⟩ := hpos
    obtain ⟨-, -, r, v, -, hring, -⟩ := id hi.capture
    obtain ⟨-, -, hcur, hlegal⟩ := hring.callEntry hpc
    refine ⟨l, hpc, hpassed, hposition.reader rfl fun tsize ht => ?_⟩
    have hfits := hi.fits tsize ht
    rw [DrvState.fits, List.all_eq_true] at hfits
    have hbuf := hfits x.cap.drv.ulCurrentBuffer (List.mem_range.mpr hcur)
    rw [decide_eq_true_eq] at hbuf
    calc l.ulUsedBufferSize.toNat
        ≤ (x.cap.drv.ulBufferSize x.cap.drv.ulCurrentBuffer).toNat := hlegal
      _ ≤ tsize := hbuf

theorem notifyCaptureStep_inv {early : Prop} (x : NotifyCapture) (a : NotifyCaptureAction)
    (y : NotifyCapture) (hi : NotifyInv early x) (hok : activeWhenTested x a = true)
    (h : notifyCaptureStep x a = some y) : NotifyInv early y := by
  cases a with
  | capture b =>
    by_cases hb : ∃ c, b = .dsr c
    · obtain ⟨c, rfl⟩ := hb
      rw [notifyCaptureStep] at h
      -- at the call of the data function the DSR runs through `netana_notify_data` instead
      by_cases hpc : ∃ l, x.cap.drv.dsr = .callData l
      · obtain ⟨l, hpc⟩ := hpc
        refine hi.inside hpc (fun hcall => ?_) h
        rw [activeWhenTested, hcall] at hok
        simpa using hok
      · have hno : ∀ l, x.cap.drv.dsr ≠ .callData l := fun l hl => hpc ⟨l, hl⟩
        rw [notifyingDsrStep] at h
        split at h
        · rename_i l hl _
          exact absurd hl (hno l)
        · rename_i l _ hl _
          exact absurd hl (hno l)
        · obtain ⟨cap, hcap, rfl⟩ := Option.map_eq_some_iff.mp h
          exact hi.outside hcap hno
    · have ha : ∀ c, b ≠ .dsr c := fun c hc => hb ⟨c, hc⟩
      have hplain : notifyCaptureStep x (.capture b) =
          (captureStep x.cap b).map fun cap => { x with cap := cap } := by
        cases b
        case dsr c => exact absurd rfl (ha c)
        all_goals rfl
      rw [hplain] at h
      obtain ⟨cap, hcap, rfl⟩ := Option.map_eq_some_iff.mp h
      exact hi.other hcap ha
  | config =>
    rw [notifyCaptureStep] at h
    split at h
    · split at h
      · cases h
        exact ⟨hi.capture, hi.notify, hi.fits, hi.position⟩
      · cases h
    · cases h
      exact ⟨hi.capture, hi.notify, hi.fits, hi.position⟩
    · cases h
  | read tsize =>
    rw [notifyCaptureStep] at h
    split at h
    · rename_i hguard
      obtain ⟨hidle, hfits⟩ := hguard
      cases h
      have hpos := hi.position
      refine ⟨hi.capture, hi.notify, fun n hn => ?_, ?_⟩
      · cases hn
        exact hfits
      · rw [NotifyCapture.position, NotifyCapture.copiedOut, hidle] at hpos
        rw [NotifyCapture.position]
        dsimp only
        cases hcall : x.call with
        | none =>
          rw [hcall] at hpos
          obtain ⟨hpassed, hdata, -, hcopied⟩ := hpos
          exact ⟨hpassed, hdata, hdata.1, hcopied⟩
        | some pc =>
          rw [hcall] at hpos
          obtain ⟨l, hpc, hpassed, hposition⟩ := hpos
          exact ⟨l, hpc, hpassed, hposition.read tsize⟩
    · cases h
  | reader =>
    rw [notifyCaptureStep] at h
    split at h
    · cases h
    · cases h
      exact hi.reader

/-- Before it is freed, a buffer has been copied out once or not yet. -/
theorem CallPosition.copied {pc : NotifyDataPc} {i : NotifyInfo} {reader : ReadPc}
    {copied done : List (List (BitVec 8))} {b : Handover (List (BitVec 8))}
    (h : CallPosition pc i reader copied done b) :
    copied = done ∨ copied = done ++ [b.payload] := by
  cases pc with
  | testCapture | testNotify | setData => exact Or.inl h.2.2
  | setLen | setValid | incEvent => exact Or.inl h.1.2.2
  | wakeUser | waitRead =>
    cases reader with
    | idle | wakeDsr _ =>
      rcases h with hunread | hans
      · exact Or.inl hunread.2.2.2
      · exact Or.inr hans.2.2
    | compare _ _ =>
      rcases h with ⟨hunread, -⟩ | ⟨hans, -⟩
      · exact Or.inl hunread.2.2.2
      · exact Or.inr hans.2.2
    | setCounter _ _ => exact Or.inl h.2.2.2
    | testData _ | testValid _ | clampSize _ => exact Or.inl h.2.2
    | copyOut _ => exact Or.inl h.2.2.1
    | clearData _ | setSig _ => exact Or.inr h.2
  | clearSig => exact Or.inr h.2.2

theorem NotifyInv.buffersRead {early : Prop} {x : NotifyCapture} (hi : NotifyInv early x) :
    BuffersRead x := by
  have hpos := hi.position
  rw [NotifyCapture.position] at hpos
  cases hcall : x.call with
  | none =>
    rw [hcall] at hpos
    obtain ⟨hpassed, -, -, hcopied⟩ := hpos
    rw [BuffersRead, hcopied, hpassed]
    exact ⟨List.prefix_rfl, fun l _ => rfl⟩
  | some pc =>
    rw [hcall] at hpos
    obtain ⟨l, hpc, hpassed, hposition⟩ := hpos
    refine ⟨?_, fun l' hpc' => ?_⟩
    · rw [hpassed, List.map_append, List.map_singleton]
      rcases hposition.copied with hcopied | hcopied
      · rw [hcopied]
        exact List.prefix_append _ _
      · rw [hcopied]
    · rw [hpc] at hpc'
      cases hpc'

/-- When the capture is marked active whenever the callback looks, nothing is lost between the
DSR and the reader. -/
theorem buffers_read_of_active (x y : NotifyCapture) (as : List NotifyCaptureAction)
    (h : NotifyCaptureStart x)
    (hactive : StepRuns.Along (fun x a => activeWhenTested x a = true) notifyCaptureStep x as)
    (hrun : StepRuns.run notifyCaptureStep x as = some y) : BuffersRead y :=
  (StepRuns.along_invariant notifyCaptureStep_inv (NotifyInv.start h) hactive hrun).buffersRead

/-- An open device at the start of a capture with two buffers of four bytes. -/
def openedCapture : NotifyCapture where
  cap := ⟨restingDevice 0#16 2 4#32 fun _ => [], ⟨[], 0, false, false⟩⟩
  info := netanaOpen .added
  call := none
  config := .waitAck
  reader := .idle
  passed := []
  returned := []

theorem openedCapture_start : NotifyCaptureStart openedCapture where
  capture := restingDevice_captureStart 0#16 4#32 (fun _ => []) (by decide) (by decide)
  notify := rfl
  quiet := ⟨rfl, rfl⟩
  call := rfl
  config := rfl
  reader := rfl
  history := ⟨rfl, rfl⟩

/-- The firmware fills a buffer with three bytes and indicates it. -/
def fillOne : List NotifyCaptureAction :=
  [.capture (.transfer [1#8, 2#8, 3#8, 0#8]), .capture (.setSize 3#32), .capture .flipBuffer,
    .capture .newData, .capture (.isr mskIntReq)]

/-- The capture is marked active at once; the DSR hands the buffer on and waits until a read has
copied it out. -/
def readOne : List NotifyCaptureAction := List.flatten
  [[.config, .config], fillOne, List.replicate 46 (.capture (.dsr ⟨true, false⟩)), [.read 4],
    List.replicate 8 .reader, List.replicate 2 (.capture (.dsr ⟨true, false⟩))]

theorem buffers_read_of_active_one :
    ∃ y, StepRuns.run notifyCaptureStep openedCapture readOne = some y ∧
      (∃ l, y.cap.drv.dsr = .freeBuffer l) ∧ y.copiedOut = [[1#8, 2#8, 3#8]] ∧
      BuffersRead y := by
  obtain ⟨y, hy, l, hpc, hcopied⟩ : ∃ y, StepRuns.run notifyCaptureStep openedCapture readOne =
      some y ∧ ∃ l, y.cap.drv.dsr = .freeBuffer l ∧ y.copiedOut = [[1#8, 2#8, 3#8]] :=
    ⟨_, rfl, _, by rfl, by rfl⟩
  exact ⟨y, hy, ⟨l, hpc⟩, hcopied, buffers_read_of_active openedCapture y readOne
    openedCapture_start (StepRuns.along_of_check (by rfl)) hy⟩

/-- The first buffer comes before `netana_config_control` marks the capture as active. -/
def earlyBuffer : List NotifyCaptureAction :=
  fillOne ++ List.replicate 40 (.capture (.dsr ⟨true, false⟩))

/-- The callback drops it, and the DSR frees it. -/
theorem buffers_not_read : ¬ ∀ (as : List NotifyCaptureAction) (y : NotifyCapture),
    StepRuns.run notifyCaptureStep openedCapture as = some y → BuffersRead y := by
  intro hall
  obtain ⟨y, hy, l, hpc, hcopied, hpassed⟩ : ∃ y, StepRuns.run notifyCaptureStep openedCapture
      earlyBuffer = some y ∧ ∃ l, y.cap.drv.dsr = .freeBuffer l ∧ y.copiedOut = [] ∧
      y.passed.map Handover.payload = [[1#8, 2#8, 3#8]] :=
    ⟨_, rfl, _, by rfl, by rfl, by rfl⟩
  have hread := (hall earlyBuffer y hy).2 l hpc
  rw [hcopied, hpassed] at hread
  cases hread

end NetanaDriver
