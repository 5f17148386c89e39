import NetanaDriver.HandshakeThreads

/-! The end of `netana_tkit_deviceadd`, from its first read of the handshake flags on: the explicit
call of the interrupt handler and the registration of the interrupt (toolkit/netana_toolkit.c), with
the firmware, the ISR and the DSR thread beside it. -/
namespace NetanaDriver
open ToggleHandshake

variable {β : Type*}

/-- `NETANA_TKIT_ISR_XXX` and `NETANA_TKIT_DSR_XXX`, as the handlers return them. -/
def netanaTkitIsrIrqOtherdevice : ℕ := 0
def netanaTkitIsrIrqDsrRequested : ℕ := 2
def netanaTkitDsrProcessingRequest : ℕ := 1

/-- The statement that the thread which adds the device executes next. -/
inductive AddPc where
  | readCell
  | storeNetx (usNetxFlags usHostFlags : BitVec 16)
  | storeHost (usHostFlags : BitVec 16)
  | testStatus
  | toggleStatus (stage : ToggleStage)
  | readIrqState
  | isrBuffer (buf : Bool)
  | isrCells (buf : Bool)
  | testRet (iRet : ℕ)
  | dsrHandler
  | requestIrq
  | enableIrq
  | returned
  deriving DecidableEq, Repr

/-- `registered`: `request_irq` has succeeded. `usFirst` is what the first read has found. -/
structure AddFlags (β : Type*) where
  drv : DrvState β
  ulIRQState_0 : BitVec 32
  usFirst : BitVec 16
  registered : Bool
  pc : AddPc

/-- `fIrq`: `request_irq` succeeds. The firmware writes its flags and the interrupt status. -/
inductive AddFlagsAction where
  | add (fIrq : Bool)
  | firmware (usNetxFlags : BitVec 16) (ulIRQState_0 : BitVec 32)
  | isr
  | dsr (c : DsrChoice)
  deriving DecidableEq, Repr

/-- `netana_tkit_dsr_handler`, called from another thread than the DSR. -/
def netanaTkitDsrHandler (s : DrvState β) : DrvState β :=
  let buf := s.iIrq2DsrBuffer
  if (s.atIrq2DsrBuffer buf).fValid then
    let usNetxFlags := (s.atIrq2DsrBuffer buf).usNetxFlags
    let ulChangedBits := s.ulNetxFlags ^^^ usNetxFlags.setWidth 32
    (List.range 16).foldl
      (fun s b => if maskTest ulChangedBits (1#32 <<< b) then osSetBitEvent b s else s)
      { s with
        iIrq2DsrBuffer := !buf
        atIrq2DsrBuffer := Function.update s.atIrq2DsrBuffer buf
          { s.atIrq2DsrBuffer buf with fValid := false }
        ulNetxFlags := usNetxFlags.setWidth 32 }
  else s

/-- The next statement of `netana_tkit_deviceadd`. -/
def addStep (fIrq : Bool) (x : AddFlags β) : Option (AddFlags β) :=
  match x.pc with
  | .readCell => some { x with
      usFirst := x.drv.usNetxFlags
      pc := .storeNetx x.drv.usNetxFlags x.drv.usHostFlags }
  | .storeNetx usNetxFlags usHostFlags => some { x with
      drv := { x.drv with ulNetxFlags := usNetxFlags.setWidth 32 }
      pc := .storeHost usHostFlags }
  | .storeHost usHostFlags => some { x with
      drv := { x.drv with ulHostFlags := usHostFlags.setWidth 32 }
      pc := .testStatus }
  | .testStatus => some { x with
      pc := if maskTest (x.drv.ulNetxFlags ^^^ x.drv.ulHostFlags) (1#32 <<< newstatusBit)
        then .toggleStatus .enterLock else .readIrqState }
  | .toggleStatus stage => (toggleStep newstatusBit stage x.drv).map fun r => { x with
      drv := r.1
      pc := match r.2 with
        | some next => .toggleStatus next
        | none => .readIrqState }
  -- netana_tkit_isr_handler
  | .readIrqState => some { x with
      pc := if maskTest x.ulIRQState_0 mskIntReq then .isrBuffer x.drv.iIrq2DsrBuffer
        else .testRet netanaTkitIsrIrqOtherdevice }
  | .isrBuffer buf => some { x with
      drv := { x.drv with
        atIrq2DsrBuffer := Function.update x.drv.atIrq2DsrBuffer buf
          { x.drv.atIrq2DsrBuffer buf with fValid := true }
        ulIrqCounter := x.drv.ulIrqCounter + 1 }
      pc := .isrCells buf }
  | .isrCells buf => some { x with
      drv := { x.drv with
        atIrq2DsrBuffer := Function.update x.drv.atIrq2DsrBuffer buf
          { x.drv.atIrq2DsrBuffer buf with
            usNetxFlags := x.drv.usNetxFlags
            snapshotNr := x.drv.snapshots.length }
        snapshots := x.drv.snapshots ++ [x.drv.usNetxFlags] }
      pc := .testRet netanaTkitIsrIrqDsrRequested }
  -- a result of the ISR is compared with one of the DSR
  | .testRet iRet => some { x with
      pc := if netanaTkitDsrProcessingRequest = iRet then .dsrHandler else .requestIrq }
  | .dsrHandler => some { x with drv := netanaTkitDsrHandler x.drv, pc := .requestIrq }
  -- OS_EnableDeviceInterrupts
  | .requestIrq => some { x with
      registered := fIrq
      pc := if fIrq then .enableIrq else .returned }
  | .enableIrq => some { x with
      drv := { x.drv with ulIRQEnable_0 := mskIntReq ||| 1#32 }
      pc := .returned }
  | .returned => none

def addFlagsStep (x : AddFlags β) : AddFlagsAction → Option (AddFlags β)
  | .add fIrq => addStep fIrq x
  | .firmware usNetxFlags ulIRQState_0 => some { x with
      drv := { x.drv with usNetxFlags := usNetxFlags }
      ulIRQState_0 := ulIRQState_0 }
  | .isr =>
    if x.registered then some { x with drv := netanaIsr x.ulIRQState_0 x.drv } else none
  | .dsr c => (dsrStep c x.drv).map fun s => { x with drv := s }

/-- The DSR thread sleeps and no snapshot waits for it. -/
structure AddStart (x : AddFlags β) : Prop where
  pc : x.pc = .readCell
  registered : x.registered = false
  rest : AtRest x.drv
  asleep : x.drv.dsr = .waitSig

/-- The flags that were read last, by a snapshot or by the first read. -/
def AddFlags.lastRead (x : AddFlags β) : BitVec 16 := x.drv.snapshots.getLast?.getD x.usFirst

/-- A DSR thread that sleeps without a request has nothing left to take over. -/
def AddSettled (x : AddFlags β) : Prop :=
  x.drv.dsr = .waitSig → x.drv.dsrSig = false →
    (∀ buf, (x.drv.atIrq2DsrBuffer buf).fValid = false) ∧
      x.drv.ulNetxFlags = x.lastRead.setWidth 32

/-- The condition on a step: the explicit call does not find an interrupt of the device. -/
def noIntReq (x : AddFlags β) : AddFlagsAction → Bool
  | .add _ => !(x.pc == .readIrqState && maskTest x.ulIRQState_0 mskIntReq)
  | _ => true

/-- Positions that are reached without a snapshot of the explicit call. -/
def AddPc.calm : AddPc → Bool
  | .isrBuffer _ | .isrCells _ | .dsrHandler => false
  | .testRet iRet => iRet == netanaTkitIsrIrqOtherdevice
  | _ => true

/-- The first read has been stored. -/
def AddPc.stored : AddPc → Bool
  | .readCell | .storeNetx _ _ => false
  | _ => true

/-- Positions with a registered interrupt. -/
def AddPc.late : AddPc → Bool
  | .enableIrq | .returned => true
  | _ => false

/-- Up to the registration nothing but the add itself touches the double buffer; from there on it
is in the order that the ISR and the DSR keep. -/
structure AddInv (x : AddFlags β) : Prop where
  calm : x.pc.calm = true
  first : ∀ n h, x.pc = .storeNetx n h → n = x.usFirst
  early : x.registered = false → AtRest x.drv ∧ x.drv.dsr = .waitSig ∧
    (x.pc.stored = true → x.drv.ulNetxFlags = x.usFirst.setWidth 32)
  late : x.registered = true → x.pc.late = true ∧ DoubleBufferInv x.drv ∧
    PassInv (x.usFirst.setWidth 32) x.drv

theorem AddStart.inv {x : AddFlags β} (h : AddStart x) : AddInv x := by
  refine ⟨?_, ?_, fun _ => ⟨h.rest, h.asleep, ?_⟩, fun hreg => ?_⟩
  · rw [h.pc]
    rfl
  · intro n v hpc
    rw [h.pc] at hpc
    cases hpc
  · intro hstored
    rw [h.pc] at hstored
    cases hstored
  · rw [h.registered] at hreg
    cases hreg

theorem AtRest.of_same {s t : DrvState β} (h : AtRest s) (hflags : SameFlags s t)
    (hdsr : t.dsr = s.dsr) : AtRest t := by
  refine ⟨?_, hflags.sig.trans h.sig, ?_, hflags.snapshots.trans h.snapshots,
    hflags.passes.trans h.passes⟩
  · rw [hflags.buffers]
    exact h.invalid
  · rw [hdsr]
    exact h.idle

/-- A statement before the registration that leaves the double buffer and its history. -/
theorem AddInv.moves {x y : AddFlags β} (h : AddInv x) (hreg : x.registered = false)
    (hrest : AtRest x.drv → AtRest y.drv) (hdsr : y.drv.dsr = x.drv.dsr)
    (hcalm : y.pc.calm = true) (hfirst : ∀ n v, y.pc = .storeNetx n v → n = y.usFirst)
    (hstored : y.pc.stored = true → y.drv.ulNetxFlags = y.usFirst.setWidth 32)
    (hyreg : y.registered = false) : AddInv y := by
  obtain ⟨hrestx, hasleep, -⟩ := h.early hreg
  refine ⟨hcalm, hfirst, fun _ => ⟨hrest hrestx, hdsr.trans hasleep, hstored⟩, fun hno => ?_⟩
  rw [hyreg] at hno
  cases hno

/-- An add statement after the registration is the last one. -/
theorem addStep_late {x y : AddFlags β} {fIrq : Bool} (h : AddInv x) (hreg : x.registered = true)
    (hstep : addStep fIrq x = some y) : AddInv y := by
  obtain ⟨hlate, hbuffers, hpasses⟩ := h.late hreg
  cases hpc : x.pc with
  | enableIrq =>
    rw [addStep, hpc] at hstep
    cases hstep
    refine ⟨rfl, fun n v hno => (by cases hno), fun hno => ?_, fun _ => ⟨rfl, ?_, ?_⟩⟩
    · have hno' : x.registered = false := hno
      rw [hreg] at hno'
      cases hno'
    · exact hbuffers.congr rfl rfl rfl rfl rfl rfl id
    · exact ⟨hpasses.cached, hpasses.chained, hpasses.ordered, hpasses.signalling⟩
  | returned =>
    rw [addStep, hpc] at hstep
    cases hstep
  | _ =>
    rw [hpc] at hlate
    cases hlate

theorem addStep_early {x y : AddFlags β} {fIrq : Bool} (h : AddInv x)
    (hreg : x.registered = false) (hquiet : noIntReq x (.add fIrq) = true)
    (hstep : addStep fIrq x = some y) : AddInv y := by
  obtain ⟨hrest, hasleep, hnetx⟩ := h.early hreg
  have hcalm := h.calm
  rw [addStep] at hstep
  cases hpc : x.pc with
  | readCell =>
    rw [hpc] at hstep
    cases hstep
    refine h.moves hreg id rfl rfl (fun n v hno => ?_) nofun hreg
    cases hno
    rfl
  | storeNetx n v =>
    have hn := h.first n v hpc
    rw [hpc] at hstep
    cases hstep
    refine h.moves hreg (fun hr => ⟨hr.invalid, hr.sig, hr.idle, hr.snapshots, hr.passes⟩) rfl rfl
      nofun (fun _ => ?_) hreg
    rw [hn]
  | storeHost v =>
    have hn := hnetx (by rw [hpc]; rfl)
    rw [hpc] at hstep
    cases hstep
    exact h.moves hreg (fun hr => ⟨hr.invalid, hr.sig, hr.idle, hr.snapshots, hr.passes⟩) rfl rfl
      nofun (fun _ => hn) hreg
  | testStatus =>
    have hn := hnetx (by rw [hpc]; rfl)
    rw [hpc] at hstep
    cases hstep
    split
    · exact h.moves hreg id rfl rfl nofun (fun _ => hn) hreg
    · exact h.moves hreg id rfl rfl nofun (fun _ => hn) hreg
  | toggleStatus stage =>
    have hn := hnetx (by rw [hpc]; rfl)
    rw [hpc] at hstep
    obtain ⟨r, hr, rfl⟩ := Option.map_eq_some_iff.mp hstep
    have hflags := toggleStep_sameFlags hr
    have hdsr := toggleStep_dsr hr
    have hn' : r.1.ulNetxFlags = x.usFirst.setWidth 32 := hflags.cached.trans hn
    cases hnext : r.2 with
    | none =>
      exact h.moves hreg (fun hrest => hrest.of_same hflags hdsr) hdsr rfl nofun (fun _ => hn') hreg
    | some next =>
      exact h.moves hreg (fun hrest => hrest.of_same hflags hdsr) hdsr rfl nofun (fun _ => hn') hreg
  | readIrqState =>
    have hn := hnetx (by rw [hpc]; rfl)
    have hclear : maskTest x.ulIRQState_0 mskIntReq = false := by
      simpa [noIntReq, hpc] using hquiet
    rw [hpc] at hstep
    cases hstep
    rw [hclear]
    exact h.moves hreg id rfl rfl nofun (fun _ => hn) hreg
  | isrBuffer buf =>
    rw [hpc] at hcalm
    cases hcalm
  | isrCells buf =>
    rw [hpc] at hcalm
    cases hcalm
  | testRet iRet =>
    have hn := hnetx (by rw [hpc]; rfl)
    have hother : iRet = netanaTkitIsrIrqOtherdevice := by
      rw [hpc] at hcalm
      simpa [AddPc.calm] using hcalm
    rw [hpc, hother] at hstep
    cases hstep
    exact h.moves hreg id rfl rfl nofun (fun _ => hn) hreg
  | dsrHandler =>
    rw [hpc] at hcalm
    cases hcalm
  | requestIrq =>
    have hn := hnetx (by rw [hpc]; rfl)
    rw [hpc] at hstep
    cases hstep
    cases fIrq with
    | false => exact h.moves hreg id rfl rfl nofun (fun _ => hn) rfl
    | true =>
      -- from here on the ISR and the DSR may run: their invariants hold of the device at rest
      have hpasses := hrest.passInv
      rw [hn] at hpasses
      exact ⟨rfl, nofun, nofun, fun _ => ⟨rfl, hrest.doubleBuffer, hpasses⟩⟩
  | enableIrq =>
    have hn := hnetx (by rw [hpc]; rfl)
    rw [hpc] at hstep
    cases hstep
    exact h.moves hreg (fun hr => ⟨hr.invalid, hr.sig, hr.idle, hr.snapshots, hr.passes⟩) rfl rfl
      nofun (fun _ => hn) hreg
  | returned =>
    rw [hpc] at hstep
    cases hstep

/-- A DSR thread that sleeps without a request makes no step. -/
theorem dsrStep_asleep {c : DsrChoice} {s : DrvState β} (hpc : s.dsr = .waitSig)
    (hsig : s.dsrSig = false) : dsrStep c s = none := by
  rw [dsrStep, hpc]
  dsimp only
  rw [hsig]
  rfl

theorem addFlagsStep_inv (x : AddFlags β) (a : AddFlagsAction) (y : AddFlags β) (h : AddInv x)
    (hquiet : noIntReq x a = true) (hstep : addFlagsStep x a = some y) : AddInv y := by
  cases a with
  | add fIrq =>
    cases hreg : x.registered with
    | false => exact addStep_early h hreg hquiet hstep
    | true => exact addStep_late h hreg hstep
  | firmware usNetxFlags ulIRQState_0 =>
    cases hstep
    refine ⟨h.calm, h.first, fun hreg => ?_, fun hreg => ?_⟩
    · obtain ⟨hr, hasleep, hnetx⟩ := h.early hreg
      exact ⟨⟨hr.invalid, hr.sig, hr.idle, hr.snapshots, hr.passes⟩, hasleep, hnetx⟩
    · obtain ⟨hlate, hb, hp⟩ := h.late hreg
      exact ⟨hlate, hb.congr rfl rfl rfl rfl rfl rfl id,
        ⟨hp.cached, hp.chained, hp.ordered, hp.signalling⟩⟩
  | isr =>
    rw [addFlagsStep] at hstep
    split at hstep
    · rename_i hreg
      cases hstep
      obtain ⟨hlate, hb, hp⟩ := h.late hreg
      refine ⟨h.calm, h.first, fun hno => ?_, fun _ => ⟨hlate, hb.isr _, hp.isr _⟩⟩
      have hno' : x.registered = false := hno
      rw [hreg] at hno'
      cases hno'
    · cases hstep
  | dsr c =>
    obtain ⟨t, ht, rfl⟩ := Option.map_eq_some_iff.mp hstep
    refine ⟨h.calm, h.first, fun hreg => ?_, fun hreg => ?_⟩
    · obtain ⟨hr, hasleep, -⟩ := h.early hreg
      rw [dsrStep_asleep hasleep hr.sig] at ht
      cases ht
    · obtain ⟨hlate, hb, hp⟩ := h.late hreg
      exact ⟨hlate, hb.dsr ht, hp.dsr hb ht⟩

/-- With the invariant an add that has returned leaves nothing behind. -/
theorem AddInv.settled {x : AddFlags β} (h : AddInv x) (hpc : x.pc = .returned) : AddSettled x := by
  intro hasleep hsig
  cases hreg : x.registered with
  | false =>
    obtain ⟨hrest, -, hnetx⟩ := h.early hreg
    refine ⟨hrest.invalid, ?_⟩
    rw [hnetx (by rw [hpc]; rfl), AddFlags.lastRead, hrest.snapshots]
    rfl
  | true =>
    obtain ⟨-, hb, hp⟩ := h.late hreg
    obtain ⟨hinvalid, hnetx⟩ := asleep_up_to_date hb hp hasleep hsig
    refine ⟨hinvalid, ?_⟩
    rw [hnetx, AddFlags.lastRead]
    cases x.drv.snapshots.getLast? with
    | none => rfl
    | some w => rfl

/-- The explicit call has filled a buffer, and nobody will look at it. -/
structure Stranded (x : AddFlags β) : Prop where
  asleep : x.drv.dsr = .waitSig
  sig : x.drv.dsrSig = false
  filled : (∃ buf, x.pc = .isrBuffer buf) ∨
    ((∃ buf, (x.drv.atIrq2DsrBuffer buf).fValid = true) ∧
      ((∃ buf, x.pc = .isrCells buf) ∨ x.pc = .testRet netanaTkitIsrIrqDsrRequested ∨
        x.pc = .requestIrq ∨ x.pc = .enableIrq ∨ x.pc = .returned))

theorem Stranded.not_settled {x : AddFlags β} (h : Stranded x) (hpc : x.pc = .returned) :
    ¬ AddSettled x := by
  intro hsettled
  obtain ⟨hinvalid, -⟩ := hsettled h.asleep h.sig
  rcases h.filled with ⟨buf, hbuf⟩ | ⟨⟨buf, hvalid⟩, -⟩
  · rw [hpc] at hbuf
    cases hbuf
  · rw [hinvalid buf] at hvalid
    cases hvalid

theorem Stranded.add {x y : AddFlags β} {fIrq : Bool} (h : Stranded x)
    (hstep : addStep fIrq x = some y) : Stranded y := by
  rw [addStep] at hstep
  rcases h.filled with ⟨buf, hpc⟩ | ⟨⟨valid, hvalid⟩, ⟨buf, hpc⟩ | hpc | hpc | hpc | hpc⟩
  · rw [hpc] at hstep
    cases hstep
    refine ⟨h.asleep, h.sig, .inr ⟨⟨buf, ?_⟩, .inl ⟨buf, rfl⟩⟩⟩
    simp
  · rw [hpc] at hstep
    cases hstep
    refine ⟨h.asleep, h.sig, .inr ⟨⟨valid, ?_⟩, .inr (.inl rfl)⟩⟩
    by_cases hsame : valid = buf
    · rw [hsame] at hvalid
      simpa [hsame] using hvalid
    · simpa [hsame] using hvalid
  · -- the result of the ISR is never the one that it is compared with
    rw [hpc] at hstep
    cases hstep
    exact ⟨h.asleep, h.sig, .inr ⟨⟨valid, hvalid⟩, .inr (.inr (.inl rfl))⟩⟩
  · rw [hpc] at hstep
    cases hstep
    refine ⟨h.asleep, h.sig, .inr ⟨⟨valid, hvalid⟩, .inr (.inr (.inr ?_))⟩⟩
    cases fIrq with
    | false => exact .inr rfl
    | true => exact .inl rfl
  · rw [hpc] at hstep
    cases hstep
    exact ⟨h.asleep, h.sig, .inr ⟨⟨valid, hvalid⟩, .inr (.inr (.inr (.inr rfl)))⟩⟩
  · rw [hpc] at hstep
    cases hstep

/-- Only an interrupt after the registration can help. -/
theorem stranded_step (x : AddFlags β) (a : AddFlagsAction) (y : AddFlags β) (h : Stranded x)
    (hisr : a ≠ .isr) (hstep : addFlagsStep x a = some y) : Stranded y := by
  cases a with
  | add fIrq => exact h.add hstep
  | firmware usNetxFlags ulIRQState_0 =>
    cases hstep
    exact ⟨h.asleep, h.sig, h.filled⟩
  | isr => exact absurd rfl hisr
  | dsr c =>
    obtain ⟨t, ht, -⟩ := Option.map_eq_some_iff.mp hstep
    rw [dsrStep_asleep h.asleep h.sig] at ht
    cases ht

/-- The first step against the condition is the one that strands the snapshot. -/
theorem AddInv.strands {x y : AddFlags β} {a : AddFlagsAction} (h : AddInv x)
    (hquiet : noIntReq x a = false) (hstep : addFlagsStep x a = some y) : Stranded y := by
  cases a with
  | add fIrq =>
    obtain ⟨hpc, hint⟩ : x.pc = .readIrqState ∧ maskTest x.ulIRQState_0 mskIntReq = true := by
      simpa [noIntReq] using hquiet
    have hreg : x.registered = false := by
      cases hreg : x.registered with
      | false => rfl
      | true =>
        have hlate := (h.late hreg).1
        rw [hpc] at hlate
        cases hlate
    obtain ⟨hrest, hasleep, -⟩ := h.early hreg
    rw [addFlagsStep, addStep, hpc] at hstep
    cases hstep
    refine ⟨hasleep, hrest.sig, .inl ⟨x.drv.iIrq2DsrBuffer, ?_⟩⟩
    exact if_pos hint
  | firmware _ _ => cases hquiet
  | isr => cases hquiet
  | dsr _ => cases hquiet

theorem not_along_stranded {x y : AddFlags β} {as : List AddFlagsAction} (h : AddInv x)
    (hisr : ∀ a ∈ as, a ≠ .isr) (hrun : StepRuns.run addFlagsStep x as = some y)
    (hno : ¬ StepRuns.Along (fun x a => noIntReq x a = true) addFlagsStep x as) : Stranded y := by
  induction as generalizing x with
  | nil => exact absurd trivial hno
  | cons a as ih =>
    obtain ⟨z, hz, hrest⟩ := StepRuns.run_cons_eq_some.mp hrun
    have htail : ∀ b ∈ as, b ≠ .isr := fun b hb => hisr b (List.mem_cons_of_mem a hb)
    cases hquiet : noIntReq x a with
    | true =>
      refine ih (addFlagsStep_inv x a z h hquiet hz) htail hrest fun halong => hno ⟨hquiet, ?_⟩
      intro t ht
      rw [hz] at ht
      cases ht
      exact halong
    | false =>
      -- none of the other actions is an interrupt
      have hall : ∀ (s : AddFlags β) (bs : List AddFlagsAction), (∀ b ∈ bs, b ≠ .isr) →
          StepRuns.Along (fun _ b => b ≠ .isr) addFlagsStep s bs := by
        intro s bs
        induction bs generalizing s with
        | nil => exact fun _ => trivial
        | cons b bs ihb =>
          intro hbs
          exact ⟨hbs b List.mem_cons_self,
            fun t _ => ihb t fun c hc => hbs c (List.mem_cons_of_mem b hc)⟩
      exact StepRuns.along_invariant stranded_step (h.strands hquiet hz) (hall z as htail) hrest

/-- An add during which the explicit call never finds an interrupt of the device leaves nothing
behind; without an interrupt before its return it does so only then. -/
theorem deviceadd_settled {x y : AddFlags β} {as : List AddFlagsAction} (hstart : AddStart x)
    (hrun : StepRuns.run addFlagsStep x as = some y) (hret : y.pc = .returned) :
    (StepRuns.Along (fun x a => noIntReq x a = true) addFlagsStep x as → AddSettled y) ∧
    ((∀ a ∈ as, a ≠ .isr) →
      (AddSettled y ↔ StepRuns.Along (fun x a => noIntReq x a = true) addFlagsStep x as)) := by
  have hquiet : StepRuns.Along (fun x a => noIntReq x a = true) addFlagsStep x as → AddSettled y :=
    fun halong =>
      (StepRuns.along_invariant addFlagsStep_inv hstart.inv halong hrun).settled hret
  refine ⟨hquiet, fun hisr => ⟨fun hsettled => ?_, hquiet⟩⟩
  by_contra hno
  exact (not_along_stranded hstart.inv hisr hrun hno).not_settled hret hsettled

/-- A device without pending indications that is to be added. -/
def newDevice : AddFlags Unit :=
  { drv := restingDevice 0#16 1 64#32 fun _ => ()
    ulIRQState_0 := 0#32
    usFirst := 0#16
    registered := false
    pc := .readCell }

theorem newDevice_start : AddStart newDevice :=
  ⟨rfl, rfl, restingDevice_atRest _ _ _ _, rfl⟩

/-- The first state change is pending; it is acknowledged by the add itself. -/
def quietAdd : List AddFlagsAction := .firmware 2#16 0#32 :: List.replicate 12 (.add true)

theorem deviceadd_settled_quiet : ∃ y, StepRuns.run addFlagsStep newDevice quietAdd = some y ∧
    y.pc = .returned ∧ y.drv.ulHostFlags = 2#32 ∧ AddSettled y := by
  obtain ⟨y, hy, hret, hhost⟩ : ∃ y, StepRuns.run addFlagsStep newDevice quietAdd = some y ∧
      y.pc = .returned ∧ y.drv.ulHostFlags = 2#32 := ⟨_, rfl, by rfl, by rfl⟩
  have hok : StepRuns.checkAlong noIntReq addFlagsStep newDevice quietAdd = true := by rfl
  exact ⟨y, hy, hret, hhost,
    (deviceadd_settled newDevice_start hy hret).1 (StepRuns.along_of_check hok)⟩

/-- The firmware signals a state change between the first read and the explicit call. -/
theorem deviceadd_leaves_snapshot :
    ¬ ∀ (x y : AddFlags Unit) (as : List AddFlagsAction), AddStart x →
      StepRuns.run addFlagsStep x as = some y → y.pc = .returned → AddSettled y := by
  intro hall
  let as : List AddFlagsAction := List.replicate 4 (.add true) ++
    .firmware 2#16 mskIntReq :: List.replicate 6 (.add true)
  obtain ⟨y, hy, hret, hasleep, hsig, hvalid⟩ : ∃ y,
      StepRuns.run addFlagsStep newDevice as = some y ∧ y.pc = .returned ∧
      y.drv.dsr = .waitSig ∧ y.drv.dsrSig = false ∧
      (y.drv.atIrq2DsrBuffer false).fValid = true :=
    ⟨_, rfl, by rfl, by rfl, by rfl, by rfl⟩
  have hinvalid := (hall newDevice y as newDevice_start hy hret hasleep hsig).1 false
  rw [hvalid] at hinvalid
  cases hinvalid

end NetanaDriver
