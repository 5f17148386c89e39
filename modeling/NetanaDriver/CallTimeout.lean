import NetanaDriver.StepRuns

/-! The timeout of a library call on its way into the driver: the per-process task list with
`store_timeout`, `get_timeout` and `store_err` (netana_tk_interface.c), and calls that write the
timeout attribute before they access the attribute of their operation. -/
namespace NetanaDriver

/-- `struct task_info`. -/
structure TaskInfo where
  pid : ℕ
  lasterror : BitVec 32
  timeout : BitVec 32
  deriving DecidableEq, Repr

/-- `get_timeout` of a process: the last entry that matches, zero without one. -/
def getTimeout (pid : ℕ) (tasks : List TaskInfo) : BitVec 32 :=
  tasks.foldl (fun ret tmp => if tmp.pid = pid then tmp.timeout else ret) 0#32

/-- `store_timeout` of a process; `fAlloc` is whether a new entry can be allocated. -/
def storeTimeout (fAlloc : Bool) (pid : ℕ) (ultimeout : BitVec 32) (tasks : List TaskInfo) :
    List TaskInfo :=
  if tasks.any fun tmp => tmp.pid = pid then
    tasks.map fun tmp => if tmp.pid = pid then { tmp with timeout := ultimeout } else tmp
  else if fAlloc then tasks ++ [⟨pid, 0#32, ultimeout⟩]
  else tasks

/-- `store_err` of a thread. -/
def storeErr (fAlloc : Bool) (pid : ℕ) (lerror : BitVec 32) (tasks : List TaskInfo) :
    List TaskInfo :=
  if lerror = 0#32 then tasks
  else if tasks.any fun tmp => tmp.pid = pid then
    tasks.map fun tmp => if tmp.pid = pid then { tmp with lasterror := lerror } else tmp
  else if fAlloc then tasks ++ [⟨pid, lerror, 0#32⟩]
  else tasks

/-- The driver operations that take their timeout from `get_timeout`. -/
inductive TimedOp where
  | accessPhyReg
  | putPacket
  | getPacket
  deriving DecidableEq, Repr

/-- A call of the library: the process it is made from, its operation and its timeout. -/
structure TimedCall where
  pid : ℕ
  op : TimedOp
  ulTimeout : BitVec 32
  deriving DecidableEq, Repr

inductive TimedCallPc where
  | updateTimeout
  | accessAttribute
  | returned
  deriving DecidableEq, Repr

variable {ι : Type*} [Fintype ι] [DecidableEq ι]

/-- `performed`: the operations performed by the driver, with the timeout that each used. -/
structure TimeoutState (ι : Type*) where
  tasks : List TaskInfo
  pc : ι → TimedCallPc
  performed : List (ι × BitVec 32)

/-- `fAttr` is whether the attribute can be opened and its handler finds the device open. -/
inductive TimeoutAction (ι : Type*) where
  | updateTimeout (i : ι) (fAttr fAlloc : Bool)
  | accessAttribute (i : ι) (fAttr : Bool)
  | storeErr (tid : ℕ) (lerror : BitVec 32) (fAlloc : Bool)

/-- One step of a call: `update_timeout`, whose attribute stores the timeout of the process, or
the access that performs the operation. -/
def timeoutStep (calls : ι → TimedCall) (x : TimeoutState ι) :
    TimeoutAction ι → Option (TimeoutState ι)
  | .updateTimeout i fAttr fAlloc =>
    if x.pc i = .updateTimeout then
      if fAttr then some { x with
        tasks := storeTimeout fAlloc (calls i).pid (calls i).ulTimeout x.tasks
        pc := Function.update x.pc i .accessAttribute }
      else some { x with pc := Function.update x.pc i .returned }
    else none
  | .accessAttribute i fAttr =>
    if x.pc i = .accessAttribute then some { x with
      pc := Function.update x.pc i .returned
      performed := if fAttr then x.performed ++ [(i, getTimeout (calls i).pid x.tasks)]
        else x.performed }
    else none
  | .storeErr tid lerror fAlloc => some { x with tasks := storeErr fAlloc tid lerror x.tasks }

/-- Every operation was performed with the timeout of its call. -/
def OwnTimeouts (calls : ι → TimedCall) (x : TimeoutState ι) : Prop :=
  ∀ r ∈ x.performed, r.2 = (calls r.1).ulTimeout

/-- The condition on a step: a timeout is not stored while another call of the process with
another timeout is between its own store and its access, and it finds or gets an entry. -/
def timeoutAlone (calls : ι → TimedCall) (x : TimeoutState ι) : TimeoutAction ι → Bool
  | .updateTimeout i fAttr fAlloc => !fAttr ||
      decide ((∀ j, (calls j).pid = (calls i).pid → x.pc j = .accessAttribute →
        (calls j).ulTimeout = (calls i).ulTimeout) ∧
        (fAlloc = true ∨ (calls i).ulTimeout = 0#32 ∨
          (x.tasks.any fun tmp => tmp.pid = (calls i).pid) = true))
  | _ => true

theorem getTimeout_append (pid : ℕ) (tasks : List TaskInfo) (t : TaskInfo) :
    getTimeout pid (tasks ++ [t]) = if t.pid = pid then t.timeout else getTimeout pid tasks := by
  rw [getTimeout, List.foldl_append]
  rfl

theorem getTimeout_of_none {pid : ℕ} {tasks : List TaskInfo}
    (h : (tasks.any fun tmp => tmp.pid = pid) = false) : getTimeout pid tasks = 0#32 := by
  induction tasks using List.reverseRecOn with
  | nil => rfl
  | append_singleton tasks t ih =>
    rw [List.any_append, Bool.or_eq_false_iff] at h
    have hne : t.pid ≠ pid := by simpa using h.2
    rw [getTimeout_append, if_neg hne]
    exact ih h.1

/-- What is stored for a process is what its next operation reads. -/
theorem getTimeout_storeTimeout {pid : ℕ} {ultimeout : BitVec 32} {fAlloc : Bool}
    {tasks : List TaskInfo} (h : fAlloc = true ∨ ultimeout = 0#32 ∨
      (tasks.any fun tmp => tmp.pid = pid) = true) :
    getTimeout pid (storeTimeout fAlloc pid ultimeout tasks) = ultimeout := by
  unfold storeTimeout
  split
  · rename_i hany
    clear h
    induction tasks using List.reverseRecOn with
    | nil => cases hany
    | append_singleton tasks t ih =>
      rw [List.map_append, List.map_singleton, getTimeout_append]
      by_cases ht : t.pid = pid
      · simp [ht]
      · rw [List.any_append, Bool.or_eq_true] at hany
        rw [if_neg ht, if_neg ht]
        apply ih
        rcases hany with hany | hany
        · exact hany
        · simp [ht] at hany
  · rename_i hany
    split
    · rw [getTimeout_append, if_pos rfl]
    · rename_i hno
      rcases h with h | h | h
      · exact absurd h hno
      · rw [getTimeout_of_none (Bool.eq_false_iff.mpr hany), h]
      · exact absurd h hany

/-- The entries of other processes stay as they are. -/
theorem getTimeout_storeTimeout_of_ne {pid pid' : ℕ} (hne : pid' ≠ pid) (ultimeout : BitVec 32)
    (fAlloc : Bool) (tasks : List TaskInfo) :
    getTimeout pid (storeTimeout fAlloc pid' ultimeout tasks) = getTimeout pid tasks := by
  unfold storeTimeout
  split
  · rename_i hany
    clear hany
    induction tasks using List.reverseRecOn with
    | nil => rfl
    | append_singleton tasks t ih =>
      rw [List.map_append, List.map_singleton, getTimeout_append, getTimeout_append, ih]
      by_cases ht : t.pid = pid'
      · simp [ht, hne]
      · rw [if_neg ht]
  · split
    · rw [getTimeout_append, if_neg hne]
    · rfl

/-- An error never changes a timeout. -/
theorem getTimeout_storeErr (pid tid : ℕ) (lerror : BitVec 32) (fAlloc : Bool)
    (tasks : List TaskInfo) :
    getTimeout pid (storeErr fAlloc tid lerror tasks) = getTimeout pid tasks := by
  unfold storeErr
  split
  · rfl
  · split
    · rename_i hany
      clear hany
      induction tasks using List.reverseRecOn with
      | nil => rfl
      | append_singleton tasks t ih =>
        rw [List.map_append, List.map_singleton, getTimeout_append, getTimeout_append, ih]
        by_cases ht : t.pid = tid
        · rw [if_pos ht]
        · rw [if_neg ht]
    · rename_i hany
      split
      · rw [getTimeout_append]
        split
        · rename_i heq
          have heq' : tid = pid := heq
          rw [← heq', getTimeout_of_none (Bool.eq_false_iff.mpr hany)]
        · rfl
      · rfl

/-- What a call has stored is there until it reads it. -/
structure TimeoutInv (calls : ι → TimedCall) (x : TimeoutState ι) : Prop where
  stored : ∀ i, x.pc i = .accessAttribute →
    getTimeout (calls i).pid x.tasks = (calls i).ulTimeout
  own : OwnTimeouts calls x

theorem timeoutStep_inv (calls : ι → TimedCall) (x : TimeoutState ι) (a : TimeoutAction ι)
    (y : TimeoutState ι) (hi : TimeoutInv calls x) (hok : timeoutAlone calls x a = true)
    (h : timeoutStep calls x a = some y) : TimeoutInv calls y := by
  cases a with
  | updateTimeout i fAttr fAlloc =>
    have h' : (if x.pc i = .updateTimeout then _ else none) = some y := h
    split at h'
    · split at h'
      · rename_i hattr
        cases h'
        obtain ⟨halone, halloc⟩ : _ ∧ _ := by
          simpa [timeoutAlone, hattr] using hok
        refine ⟨?_, hi.own⟩
        intro j hj
        dsimp only at hj
        -- a pending call of the same process has the same timeout, as the guard demands
        by_cases hpid : (calls j).pid = (calls i).pid
        · have hsame : (calls j).ulTimeout = (calls i).ulTimeout := by
            by_cases hji : j = i
            · rw [hji]
            · apply halone j hpid
              rwa [Function.update_of_ne hji] at hj
          rw [hpid, hsame]
          apply getTimeout_storeTimeout
          simpa using halloc
        · have hji : j ≠ i := fun heq => hpid (congrArg (fun k => (calls k).pid) heq)
          show getTimeout _ (storeTimeout _ _ _ _) = _
          rw [getTimeout_storeTimeout_of_ne (Ne.symm hpid)]
          apply hi.stored j
          rwa [Function.update_of_ne hji] at hj
      · cases h'
        refine ⟨?_, hi.own⟩
        intro j hj
        dsimp only at hj
        by_cases hji : j = i
        · rw [hji] at hj
          simp at hj
        · apply hi.stored j
          rwa [Function.update_of_ne hji] at hj
    · cases h'
  | accessAttribute i fAttr =>
    have h' : (if x.pc i = .accessAttribute then _ else none) = some y := h
    split at h'
    · rename_i hpc
      cases h'
      constructor
      · intro j hj
        dsimp only at hj
        by_cases hji : j = i
        · rw [hji] at hj
          simp at hj
        · apply hi.stored j
          rwa [Function.update_of_ne hji] at hj
      · -- the operation runs with what is stored now, and that is still the call's own
        intro r hr
        have hr' : r ∈ (if fAttr then x.performed ++ [(i, getTimeout (calls i).pid x.tasks)]
            else x.performed) := hr
        split at hr'
        · rcases List.mem_append.mp hr' with hr' | hr'
          · exact hi.own r hr'
          · rw [List.mem_singleton.mp hr']
            exact hi.stored i hpc
        · exact hi.own r hr'
    · cases h'
  | storeErr tid lerror fAlloc =>
    cases h
    refine ⟨?_, hi.own⟩
    intro j hj
    show getTimeout _ (storeErr _ _ _ _) = _
    rw [getTimeout_storeErr]
    exact hi.stored j hj

/-- In every run in which no call stores its timeout between the store and the access of another
call of its process with another timeout, every operation runs with the timeout of its call. -/
theorem timeouts_own_of_alone (calls : ι → TimedCall) (x y : TimeoutState ι)
    (as : List (TimeoutAction ι)) (hpc : ∀ i, x.pc i = .updateTimeout) (hnone : x.performed = [])
    (hok : StepRuns.Along (fun x a => timeoutAlone calls x a = true) (timeoutStep calls) x as)
    (hrun : StepRuns.run (timeoutStep calls) x as = some y) : OwnTimeouts calls y := by
  have hstart : TimeoutInv calls x := by
    constructor
    · intro i hi
      rw [hpc i] at hi
      cases hi
    · intro r hr
      rw [hnone] at hr
      cases hr
  exact (StepRuns.along_invariant (timeoutStep_inv calls) hstart hok hrun).own

/-- Two calls from one process. -/
def twoCalls : Bool → TimedCall
  | false => ⟨4711, .accessPhyReg, 10#32⟩
  | true => ⟨4711, .putPacket, 5000#32⟩

def twoCallsStart : TimeoutState Bool := ⟨[], fun _ => .updateTimeout, []⟩

theorem timeouts_own_of_alone_two :
    ∃ y, StepRuns.run (timeoutStep twoCalls) twoCallsStart [.updateTimeout false true true,
        .accessAttribute false true, .updateTimeout true true true,
        .accessAttribute true true] = some y ∧
      y.performed = [(false, 10#32), (true, 5000#32)] ∧ OwnTimeouts twoCalls y := by
  obtain ⟨y, hy, hperf⟩ : ∃ y, StepRuns.run (timeoutStep twoCalls) twoCallsStart
      [.updateTimeout false true true, .accessAttribute false true,
        .updateTimeout true true true, .accessAttribute true true] = some y ∧
      y.performed = [(false, 10#32), (true, 5000#32)] := ⟨_, rfl, by rfl⟩
  have hok : StepRuns.checkAlong (timeoutAlone twoCalls) (timeoutStep twoCalls) twoCallsStart
      [.updateTimeout false true true, .accessAttribute false true,
        .updateTimeout true true true, .accessAttribute true true] = true := by decide
  exact ⟨y, hy, hperf, timeouts_own_of_alone twoCalls twoCallsStart y _ (fun _ => rfl) rfl
    (StepRuns.along_of_check hok) hy⟩

/-- The second call stores its timeout before the first one reads. -/
theorem timeouts_not_own :
    ¬ (∀ (calls : Bool → TimedCall) (as : List (TimeoutAction Bool)) (y : TimeoutState Bool),
      StepRuns.run (timeoutStep calls) twoCallsStart as = some y → OwnTimeouts calls y) := by
  intro hall
  obtain ⟨y, hy, hperf⟩ : ∃ y, StepRuns.run (timeoutStep twoCalls) twoCallsStart
      [.updateTimeout false true true, .updateTimeout true true true,
        .accessAttribute false true] = some y ∧
      y.performed = [(false, 5000#32)] := ⟨_, rfl, by rfl⟩
  have hperformed : (false, 5000#32) ∈ y.performed := by
    rw [hperf]
    exact List.mem_singleton_self _
  have hown := hall twoCalls _ y hy (false, 5000#32) hperformed
  exact absurd hown (by decide)

end NetanaDriver
