import NetanaDriver.PhyAccessRun

/-! What callers of `netana_access_phy_reg` get: answers to their own requests as long as no two
calls are inside at once, and nothing left behind by a call that did not get in. -/
namespace NetanaDriver
open ToggleHandshake LaggingCache

variable {β ι : Type*} [DecidableEq ι]

/-- In every run in which a call passes its entry wait only while no other call is between its
own and its return, each call that finishes was answered, whatever timeouts expire. -/
theorem phy_accesses_answered [Fintype ι] (x y : PhyState ι β) (as : List (PhyAction ι β))
    (hstart : PhyStart x)
    (hok : StepRuns.Along (fun x a => phyAlone x a = true) phyStep x as)
    (hrun : StepRuns.run phyStep x as = some y) : ∀ r ∈ y.results, r.Answered y := by
  have hstep (s : PhyState ι β) (a : PhyAction ι β) (t : PhyState ι β) (hi : ∃ c, PhyInv s c)
      (hok : phyAlone s a = true) (h : phyStep s a = some t) : ∃ d, PhyInv t d := by
    obtain ⟨c, hc⟩ := hi
    apply hc.phyStep _ h
    intro i ch ha call stage hpc hstage hequal
    rw [ha] at hok
    exact phyAlone_entry hok hpc hstage hequal
  obtain ⟨c, hc⟩ := StepRuns.along_invariant hstep hstart.inv hok hrun
  exact hc.results

/-- A device with two ports that has been added, and no call yet. -/
def restingPhy (ι : Type*) : PhyState ι Unit where
  drv := restingDevice 0#16 1 64#32 fun _ => ()
  ulPortCnt := 2#32
  tMdioBlock := ⟨0#32, 0#32, 0#32, 0#32⟩
  pc := fun _ => .idle
  fw := .waitRequest
  started := 0
  requested := []
  served := []
  touched := []
  results := []

theorem restingPhy_start (ι : Type*) : PhyStart (restingPhy ι) where
  buffers := (restingDevice_atRest _ _ _ _).doubleBuffer
  host := ⟨rfl, rfl⟩
  nothingPending := by
    refine ⟨Cache.start 0#16, restingDevice_lags _ _ _ _, ?_⟩
    intro w hw
    rw [view_start, List.mem_singleton] at hw
    rw [hw]
    rfl
  idle := fun _ => rfl
  firmware := rfl
  requested := rfl
  served := rfl
  touched := rfl
  results := rfl

/-- A read by one thread, with the acknowledge seen by the DSR. -/
def oneRead : List (PhyAction Bool Unit) := List.flatten
  [[.call false netanaPhyDirectionRead 0#8 1#8 0#16 100#32],
    List.replicate 10 (.step false ⟨false, false⟩), List.replicate 4 (.firmware 0xBEEF#32),
    [.other (.isr mskIntReq)], List.replicate 9 (.other (.dsr ⟨true, false⟩)),
    List.replicate 3 (.step false ⟨false, false⟩)]

theorem phy_accesses_answered_read :
    ∃ y, StepRuns.run phyStep (restingPhy Bool) oneRead = some y ∧
      y.results.map PhyResult.exit = [.finished 0xBEEF#16] ∧ ∀ r ∈ y.results, r.Answered y := by
  obtain ⟨y, hrun, hexit⟩ : ∃ y, StepRuns.run phyStep (restingPhy Bool) oneRead = some y ∧
      y.results.map PhyResult.exit = [.finished 0xBEEF#16] := ⟨_, rfl, by rfl⟩
  have hok : StepRuns.Along (fun x a => phyAlone x a = true) phyStep (restingPhy Bool) oneRead :=
    StepRuns.along_of_check (by rfl)
  exact ⟨y, hrun, hexit, phy_accesses_answered _ y _ (restingPhy_start Bool) hok hrun⟩

/-- No timeout expires in the step. -/
def PhyAction.inTime : PhyAction ι β → Bool
  | .call _ _ _ _ _ ulTimeout => ulTimeout != 0#32
  | .step _ ch => !ch.fExpired
  | _ => true

/-- Both threads pass their entry wait, and the second toggle takes the first one back. -/
def crossedReads : List (PhyAction Bool Unit) := List.flatten
  [[.call false netanaPhyDirectionRead 0#8 1#8 0#16 100#32,
      .call true netanaPhyDirectionRead 1#8 2#8 0#16 100#32],
    List.replicate 2 (.step false ⟨false, false⟩), List.replicate 2 (.step true ⟨false, false⟩),
    List.replicate 8 (.step false ⟨false, false⟩), List.replicate 8 (.step true ⟨false, false⟩),
    List.replicate 3 (.step false ⟨false, false⟩)]

theorem phy_accesses_not_answered :
    ¬ ∀ (as : List (PhyAction Bool Unit)) (y : PhyState Bool Unit),
      as.all PhyAction.inTime = true → StepRuns.run phyStep (restingPhy Bool) as = some y →
        ∀ r ∈ y.results, r.Answered y := by
  intro hall
  obtain ⟨y, hrun, hresults, hserved⟩ : ∃ y : PhyState Bool Unit,
      StepRuns.run phyStep (restingPhy Bool) crossedReads = some y ∧
      y.results = [⟨⟨0, netanaPhyDirectionRead, 0#8, 1#8, 0#16, 100#32⟩, .finished 0#16⟩] ∧
      y.served = [] := ⟨_, rfl, by rfl, by rfl⟩
  have hanswered := hall crossedReads y (by rfl) hrun _
    (by rw [hresults]; exact List.mem_singleton_self _)
  obtain ⟨k, e, -, he, -⟩ := hanswered 0#16 rfl
  rw [hserved] at he
  cases he

/-- Before the entry wait of a call has succeeded, and after it has failed. -/
def PhyPc.entering : PhyPc → Bool
  | .checkPort _ | .waitEntry _ _ | .ret _ .stillUnequal => true
  | _ => false

/-- The block and the host flags are the same. -/
def SameOutside (x y : PhyState ι β) : Prop :=
  y.tMdioBlock = x.tMdioBlock ∧ y.drv.ulHostFlags = x.drv.ulHostFlags ∧
    y.drv.usHostFlags = x.drv.usHostFlags

/-- Where a statement of a call takes its thread. -/
theorem netanaAccessPhyReg_moves {ch : WaitChoice} {i : ι} {x y : PhyState ι β}
    (h : netanaAccessPhyReg ch i x = some y) :
    ∃ call p, (x.pc i).call = some call ∧ y.pc = Function.update x.pc i p ∧
      y.started = x.started ∧ y.touched = x.touched ∧
      ((p.call = some call ∧ y.results = x.results ∧
          (p.entering = true → (x.pc i).entering = true)) ∨
        (p = .idle ∧ ∃ exit, x.pc i = .ret call exit ∧
          y.results = x.results ++ [⟨call, exit⟩])) ∧
      ((x.pc i).entering = true → SameOutside x y) := by
  rw [netanaAccessPhyReg] at h
  cases hpc : x.pc i with
  | idle =>
    rw [hpc] at h
    cases h
  | checkPort call =>
    rw [hpc] at h
    cases h
    refine ⟨call, _, rfl, rfl, rfl, rfl, Or.inl ⟨?_, rfl, fun _ => rfl⟩,
      fun _ => ⟨rfl, rfl, rfl⟩⟩
    split <;> rfl
  | waitEntry call stage =>
    rw [hpc] at h
    obtain ⟨r, hr, rfl⟩ := Option.map_eq_some_iff.mp h
    have hsame := (waitStep_spec hr).1.host
    refine ⟨call, _, rfl, rfl, rfl, rfl, Or.inl ⟨?_, rfl, fun _ => rfl⟩,
      fun _ => ⟨rfl, hsame.host, hsame.stored⟩⟩
    cases r.2 with
    | goto stage => rfl
    | ret iRet => cases iRet <;> rfl
  | setDirection call | setPhyNum call | setPhyReg call | getValue call =>
    rw [hpc] at h
    cases h
    exact ⟨call, _, rfl, rfl, rfl, rfl, Or.inl ⟨rfl, rfl, fun he => by cases he⟩,
      fun he => by cases he⟩
  | setValue call =>
    rw [hpc] at h
    cases h
    refine ⟨call, .toggle call .enterLock, rfl, ?_⟩
    split
    · exact ⟨rfl, rfl, rfl, Or.inl ⟨rfl, rfl, fun he => by cases he⟩, fun he => by cases he⟩
    · exact ⟨rfl, rfl, rfl, Or.inl ⟨rfl, rfl, fun he => by cases he⟩, fun he => by cases he⟩
  | toggle call stage =>
    rw [hpc] at h
    obtain ⟨u, -, rfl⟩ := Option.map_eq_some_iff.mp h
    refine ⟨call, _, rfl, rfl, rfl, rfl, Or.inl ⟨?_, rfl, ?_⟩, fun he => by cases he⟩
    · cases u.2 <;> rfl
    · cases u.2 <;> exact fun he => by cases he
  | waitDone call stage =>
    rw [hpc] at h
    obtain ⟨r, -, rfl⟩ := Option.map_eq_some_iff.mp h
    refine ⟨call, _, rfl, rfl, rfl, rfl, Or.inl ⟨?_, rfl, ?_⟩, fun he => by cases he⟩
    · cases r.2 with
      | goto stage => rfl
      | ret iRet => cases iRet <;> rfl
    · cases r.2 with
      | goto stage => exact fun he => by cases he
      | ret iRet => cases iRet <;> exact fun he => by cases he
  | ret call exit =>
    rw [hpc] at h
    cases h
    exact ⟨call, .idle, rfl, rfl, rfl, rfl, Or.inr ⟨rfl, exit, rfl, rfl⟩,
      fun _ => ⟨rfl, rfl, rfl⟩⟩

/-- Calls have numbers of their own, and a call that did not get in has touched nothing. -/
structure TouchInv (x : PhyState ι β) : Prop where
  fresh : ∀ i call, (x.pc i).call = some call → call.nr < x.started
  distinct : ∀ i j call call', (x.pc i).call = some call → (x.pc j).call = some call' →
    call.nr = call'.nr → i = j
  returned : ∀ r ∈ x.results, r.call.nr < x.started ∧
    ∀ i call, (x.pc i).call = some call → call.nr ≠ r.call.nr
  touched : ∀ call ∈ x.touched, call.nr < x.started
  entering : ∀ i call, (x.pc i).entering = true → (x.pc i).call = some call → call ∉ x.touched
  results : ∀ r ∈ x.results, r.exit = .stillUnequal → r.call ∉ x.touched

omit [DecidableEq ι] in
/-- A record of the statement of a thread: nothing while it has not got in, at most its own call
after that. -/
theorem noteTouched_spec {x y : PhyState ι β} {i : ι} {call : PhyCall}
    (hcall : (x.pc i).call = some call) (hy : y.touched = x.touched)
    (hsame : (x.pc i).entering = true → SameOutside x y) :
    ((x.noteTouched y i).touched = x.touched ∨
      ((x.pc i).entering = false ∧ (x.noteTouched y i).touched = x.touched ++ [call])) ∧
      (x.noteTouched y i).pc = y.pc ∧ (x.noteTouched y i).started = y.started ∧
      (x.noteTouched y i).results = y.results := by
  rw [PhyState.noteTouched]
  by_cases hout : y.tMdioBlock = x.tMdioBlock ∧ y.drv.ulHostFlags = x.drv.ulHostFlags ∧
      y.drv.usHostFlags = x.drv.usHostFlags
  · rw [if_pos hout]
    exact ⟨Or.inl hy, rfl, rfl, rfl⟩
  · rw [if_neg hout]
    refine ⟨Or.inr ⟨?_, ?_⟩, rfl, rfl, rfl⟩
    · by_contra hne
      exact hout (hsame (by simpa using hne))
    · rw [hy, hcall]
      rfl

theorem TouchInv.step {x y : PhyState ι β} {i : ι} {ch : WaitChoice} (hi : TouchInv x)
    (h : netanaAccessPhyReg ch i x = some y) : TouchInv (x.noteTouched y i) := by
  obtain ⟨call, p, hcall, hpc, hstarted, htouched, hmove, hsame⟩ := netanaAccessPhyReg_moves h
  obtain ⟨hnote, hpcz, hstartedz, hresultsz⟩ := noteTouched_spec hcall htouched hsame
  let z : PhyState ι β := x.noteTouched y i
  have hself : z.pc i = p := by rw [hpcz, hpc, Function.update_self]
  have hother (j : ι) (hj : j ≠ i) : z.pc j = x.pc j := by
    rw [hpcz, hpc, Function.update_of_ne hj]
  have hstart : z.started = x.started := hstartedz.trans hstarted
  -- the call of a thread is the one it was in before
  have hsub (j : ι) (d : PhyCall) (hd : (z.pc j).call = some d) : (x.pc j).call = some d := by
    by_cases hj : j = i
    · rw [hj, hself] at hd
      rw [hj, hcall]
      rcases hmove with ⟨hp, -⟩ | ⟨hp, -⟩
      · rw [← hp, hd]
      · rw [hp] at hd
        cases hd
    · rwa [hother j hj] at hd
  have hmem (d : PhyCall) (hd : d ∈ z.touched) :
      d ∈ x.touched ∨ ((x.pc i).entering = false ∧ d = call) := by
    rcases hnote with hsame | ⟨hin, happ⟩
    · rw [hsame] at hd
      exact Or.inl hd
    · rw [happ] at hd
      exact (List.mem_append.mp hd).imp_right fun hd => ⟨hin, List.mem_singleton.mp hd⟩
  have hresult (r : PhyResult) (hr : r ∈ z.results) : r ∈ x.results ∨
      (p = .idle ∧ r.call = call ∧ x.pc i = .ret call r.exit) := by
    rw [hresultsz] at hr
    rcases hmove with ⟨-, hres, -⟩ | ⟨hp, exit, hret, hres⟩
    · rw [hres] at hr
      exact Or.inl hr
    · rw [hres] at hr
      rcases List.mem_append.mp hr with hr | hr
      · exact Or.inl hr
      · rw [List.mem_singleton.mp hr]
        exact Or.inr ⟨hp, rfl, hret⟩
  refine ⟨?_, ?_, ?_, ?_, ?_, ?_⟩
  · intro j d hd
    rw [hstart]
    exact hi.fresh j d (hsub j d hd)
  · intro j k d d' hd hd'
    exact hi.distinct j k d d' (hsub j d hd) (hsub k d' hd')
  · intro r hr
    rw [hstart]
    rcases hresult r hr with hr | ⟨hp, hrcall, -⟩
    · obtain ⟨hlt, hne⟩ := hi.returned r hr
      exact ⟨hlt, fun j d hd => hne j d (hsub j d hd)⟩
    · rw [hrcall]
      refine ⟨hi.fresh i call hcall, fun j d hd heq => ?_⟩
      have hj := hi.distinct j i d call (hsub j d hd) hcall heq
      rw [hj, hself, hp] at hd
      cases hd
  · intro d hd
    rw [hstart]
    rcases hmem d hd with hd | ⟨-, rfl⟩
    · exact hi.touched d hd
    · exact hi.fresh i d hcall
  · intro j d hent hd hdt
    have hd' := hsub j d hd
    by_cases hj : j = i
    · have hin : (x.pc i).entering = true := by
        rw [hj, hself] at hent
        rcases hmove with ⟨-, -, himp⟩ | ⟨hp, -⟩
        · exact himp hent
        · rw [hp] at hent
          cases hent
      rcases hmem d hdt with hdt | ⟨hout, -⟩
      · rw [hj] at hd'
        exact hi.entering i d hin hd' hdt
      · rw [hin] at hout
        cases hout
    · rcases hmem d hdt with hdt | ⟨-, hdc⟩
      · rw [hother j hj] at hent
        exact hi.entering j d hent hd' hdt
      · rw [hdc] at hd'
        exact hj (hi.distinct j i call call hd' hcall rfl)
  · intro r hr hexit hrt
    rcases hresult r hr with hr | ⟨-, hrcall, hret⟩
    · rcases hmem _ hrt with hrt | ⟨-, hrc⟩
      · exact hi.results r hr hexit hrt
      · exact (hi.returned r hr).2 i call hcall (congrArg PhyCall.nr hrc.symm)
    · have hin : (x.pc i).entering = true := by
        rw [hret, hexit]
        rfl
      rcases hmem _ hrt with hrt | ⟨hout, -⟩
      · rw [hrcall] at hrt
        exact hi.entering i call hin hcall hrt
      · rw [hin] at hout
        cases hout

theorem phyStep_touch (x : PhyState ι β) (a : PhyAction ι β) (y : PhyState ι β)
    (hi : TouchInv x) (h : phyStep x a = some y) : TouchInv y := by
  cases a with
  | call i ulDirection ulPhyNum ulPhyReg usValue ulTimeout =>
    obtain ⟨hpc, heq⟩ := Option.ite_none_right_eq_some.mp h
    cases heq
    -- a new call gets the next number, which no call, result or write of the block has yet
    have hcase (j : ι) (d : PhyCall)
        (hd : (Function.update x.pc i (.checkPort ⟨x.started, ulDirection, ulPhyNum, ulPhyReg,
          usValue, ulTimeout⟩) j).call = some d) :
        (j = i ∧ d.nr = x.started) ∨ (j ≠ i ∧ (x.pc j).call = some d) := by
      by_cases hj : j = i
      · rw [hj, Function.update_self] at hd
        cases hd
        exact Or.inl ⟨hj, rfl⟩
      · rw [Function.update_of_ne hj] at hd
        exact Or.inr ⟨hj, hd⟩
    refine ⟨?_, ?_, ?_, ?_, ?_, hi.results⟩
    · intro j d hd
      rcases hcase j d hd with ⟨-, hnr⟩ | ⟨-, hd⟩
      · rw [hnr]
        exact Nat.lt_succ_self _
      · exact Nat.lt_succ_of_lt (hi.fresh j d hd)
    · intro j k d d' hd hd' heq
      rcases hcase j d hd with ⟨hj, hnr⟩ | ⟨-, hd⟩ <;>
        rcases hcase k d' hd' with ⟨hk, hnr'⟩ | ⟨-, hd'⟩
      · rw [hj, hk]
      · have hlt := hi.fresh k d' hd'
        omega
      · have hlt := hi.fresh j d hd
        omega
      · exact hi.distinct j k d d' hd hd' heq
    · intro r hr
      obtain ⟨hlt, hne⟩ := hi.returned r hr
      refine ⟨Nat.lt_succ_of_lt hlt, fun j d hd => ?_⟩
      rcases hcase j d hd with ⟨-, hnr⟩ | ⟨-, hd⟩
      · omega
      · exact hne j d hd
    · intro d hd
      exact Nat.lt_succ_of_lt (hi.touched d hd)
    · intro j d hent hd hdt
      rcases hcase j d hd with ⟨-, hnr⟩ | ⟨hj, hd⟩
      · have hlt := hi.touched d hdt
        omega
      · dsimp only at hent
        rw [Function.update_of_ne hj] at hent
        exact hi.entering j d hent hd hdt
  | step i ch =>
    obtain ⟨u, hu, rfl⟩ := Option.map_eq_some_iff.mp h
    exact hi.step hu
  | firmware ulResult =>
    -- the firmware answers a request but moves no caller
    have hkept : y.pc = x.pc ∧ y.started = x.started ∧ y.touched = x.touched ∧
        y.results = x.results := by
      have h' : mdioFirmware ulResult x = some y := h
      rw [mdioFirmware] at h'
      split at h'
      · obtain ⟨-, heq⟩ := Option.ite_none_right_eq_some.mp h'
        cases heq
        exact ⟨rfl, rfl, rfl, rfl⟩
      all_goals
        cases h'
        exact ⟨rfl, rfl, rfl, rfl⟩
    obtain ⟨hpc, hstarted, htouched, hresults⟩ := hkept
    refine ⟨?_, ?_, ?_, ?_, ?_, ?_⟩
    · rw [hpc, hstarted]
      exact hi.fresh
    · rw [hpc]
      exact hi.distinct
    · rw [hpc, hstarted, hresults]
      exact hi.returned
    · rw [hstarted, htouched]
      exact hi.touched
    · rw [hpc, htouched]
      exact hi.entering
    · rw [hresults, htouched]
      exact hi.results
  | other a =>
    obtain ⟨-, heq⟩ := Option.ite_none_right_eq_some.mp h
    obtain ⟨t, -, rfl⟩ := Option.map_eq_some_iff.mp heq
    exact ⟨hi.fresh, hi.distinct, hi.returned, hi.touched, hi.entering, hi.results⟩

/-- Only a call that has found every request acknowledged writes the block. -/
theorem PhyInv.block_written {x y : PhyState ι β} {c : Cache (BitVec 16)} (hi : PhyInv x c)
    {i : ι} {ch : WaitChoice} (h : netanaAccessPhyReg ch i x = some y)
    (hne : y.tMdioBlock ≠ x.tMdioBlock) : x.settled c := by
  have hposition := hi.position i
  rw [netanaAccessPhyReg] at h
  cases hpc : x.pc i with
  | idle =>
    rw [hpc] at h
    cases h
  | setDirection call =>
    rw [hpc] at hposition
    exact hposition
  | setPhyNum call | setPhyReg call | setValue call =>
    rw [hpc] at hposition
    exact hposition.1
  | checkPort call | getValue call | ret call exit =>
    rw [hpc] at h
    cases h
    exact absurd rfl hne
  | waitEntry call stage | toggle call stage | waitDone call stage =>
    rw [hpc] at h
    obtain ⟨r, -, rfl⟩ := Option.map_eq_some_iff.mp h
    exact absurd rfl hne

/-- One thread, any timeouts, any delay of the firmware and any lag of the cached flags: calls
that finish were answered, the block is not written while an acknowledge is owed, and a call
that found the bits unequal on entry has changed nothing. -/
theorem phy_timeouts_harmless (x y : PhyState Unit β) (as : List (PhyAction Unit β))
    (hstart : PhyStart x) (hrun : StepRuns.run phyStep x as = some y) :
    (∀ r ∈ y.results, r.Answered y) ∧
      (∀ ch z, phyStep y (.step () ch) = some z → z.tMdioBlock ≠ y.tMdioBlock → ¬ y.owes) ∧
      ∀ r ∈ y.results, r.exit = .stillUnequal → r.call ∉ y.touched := by
  have hstep (s : PhyState Unit β) (a : PhyAction Unit β) (t : PhyState Unit β)
      (hi : (∃ c, PhyInv s c) ∧ TouchInv s) (h : phyStep s a = some t) :
      (∃ d, PhyInv t d) ∧ TouchInv t := by
    obtain ⟨⟨c, hc⟩, ht⟩ := hi
    refine ⟨hc.phyStep ?_ h, phyStep_touch s a t ht h⟩
    -- the only thread is the one that waits
    intro i ch _ call stage hpc _ _ j
    rw [show j = i from rfl, hpc]
    rfl
  have htouch : TouchInv x := by
    have hno (i : Unit) (call : PhyCall) (hcall : (x.pc i).call = some call) : False := by
      rw [hstart.idle i] at hcall
      cases hcall
    refine ⟨fun i call hcall => (hno i call hcall).elim,
      fun i _ call _ hcall => (hno i call hcall).elim, ?_, ?_,
      fun i call _ hcall => (hno i call hcall).elim, ?_⟩
    · rw [hstart.results]
      intro r hr
      cases hr
    · rw [hstart.touched]
      intro call hcall
      cases hcall
    · rw [hstart.results]
      intro r hr
      cases hr
  obtain ⟨⟨c, hc⟩, ht⟩ := StepRuns.run_invariant hstep ⟨hstart.inv, htouch⟩ hrun
  refine ⟨hc.results, ?_, ht.results⟩
  intro ch z hz hne howes
  obtain ⟨u, hu, rfl⟩ := Option.map_eq_some_iff.mp hz
  have hblock : (y.noteTouched u ()).tMdioBlock = u.tMdioBlock := by
    rw [PhyState.noteTouched]
    split <;> rfl
  rw [hblock] at hne
  have hsettled := hc.block_written hu hne
  have hbits := (hc.request_seen howes).1
  rw [hsettled.1] at hbits
  simp at hbits

/-- A call that gives up waiting for the acknowledge, one that finds the bits still unequal, the
late acknowledge, and a read that finishes. -/
def lateAcknowledge : List (PhyAction Unit Unit) := List.flatten
  [[.call () netanaPhyDirectionRead 0#8 1#8 0#16 0#32], List.replicate 12 (.step () ⟨true, true⟩),
    [.call () netanaPhyDirectionWrite 1#8 1#8 7#16 0#32],
    List.replicate 3 (.step () ⟨true, true⟩), List.replicate 4 (.firmware 0xBEEF#32),
    [.other (.isr mskIntReq)], List.replicate 28 (.other (.dsr ⟨true, false⟩)),
    [.call () netanaPhyDirectionRead 1#8 3#8 0#16 100#32],
    List.replicate 10 (.step () ⟨true, false⟩), List.replicate 4 (.firmware 0xCAFE#32),
    [.other (.isr mskIntReq)], List.replicate 9 (.other (.dsr ⟨true, false⟩)),
    List.replicate 3 (.step () ⟨true, false⟩)]

theorem phy_timeouts_harmless_late :
    ∃ y, StepRuns.run phyStep (restingPhy Unit) lateAcknowledge = some y ∧
      y.results.map PhyResult.exit = [.notFinished, .stillUnequal, .finished 0xCAFE#16] ∧
      ((∀ r ∈ y.results, r.Answered y) ∧
        (∀ ch z, phyStep y (.step () ch) = some z → z.tMdioBlock ≠ y.tMdioBlock → ¬ y.owes) ∧
        ∀ r ∈ y.results, r.exit = .stillUnequal → r.call ∉ y.touched) := by
  obtain ⟨y, hrun, hexit⟩ : ∃ y, StepRuns.run phyStep (restingPhy Unit) lateAcknowledge = some y ∧
      y.results.map PhyResult.exit = [.notFinished, .stillUnequal, .finished 0xCAFE#16] :=
    ⟨_, rfl, by rfl⟩
  exact ⟨y, hrun, hexit, phy_timeouts_harmless _ y _ (restingPhy_start Unit) hrun⟩

end NetanaDriver
