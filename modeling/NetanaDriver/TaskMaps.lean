import NetanaDriver.CallTimeout

/-! The task list of a device as two maps: the last error of each thread and the timeout of each
process, which share the entries of one list (netana_tk_interface.c). -/
namespace NetanaDriver

/-- `get_err` of a thread: the first entry that matches, `NETANA_NO_ERROR` without one. -/
def getErr (pid : ℕ) : List TaskInfo → BitVec 32
  | [] => 0#32
  | tmp :: next => if tmp.pid = pid then tmp.lasterror else getErr pid next

/-- `cleanlist` deletes the entries one by one. -/
def cleanlist : List TaskInfo → List TaskInfo
  | [] => []
  | _ :: next => cleanlist next

/-- The thread that makes a call: its own id and that of the first thread of its process. -/
structure Caller where
  pid : ℕ
  tgid : ℕ
  deriving DecidableEq, Repr

/-- A call on the task list of a device. -/
inductive TaskCall where
  | storeErr (curtask : Caller) (lerror : BitVec 32)
  | getErr (curtask : Caller)
  | storeTimeout (curtask : Caller) (ultimeout : BitVec 32)
  | getTimeout (curtask : Caller)
  | cleanlist
  deriving DecidableEq, Repr

/-- What a call leaves; every allocation succeeds. -/
def taskCall (tasks : List TaskInfo) : TaskCall → List TaskInfo
  | .storeErr curtask lerror => NetanaDriver.storeErr true curtask.pid lerror tasks
  | .getErr _ => tasks
  | .storeTimeout curtask ultimeout =>
    NetanaDriver.storeTimeout true curtask.tgid ultimeout tasks
  | .getTimeout _ => tasks
  | .cleanlist => NetanaDriver.cleanlist tasks

/-- The value that a call returns to its caller. -/
def taskResult (tasks : List TaskInfo) : TaskCall → Option (BitVec 32)
  | .getErr curtask => some (NetanaDriver.getErr curtask.pid tasks)
  | .getTimeout curtask => some (NetanaDriver.getTimeout curtask.tgid tasks)
  | _ => none

/-- The list after the calls, from an empty one. -/
def taskRun (calls : List TaskCall) : List TaskInfo := calls.foldl taskCall []

/-- The values that the calls return one after the other. -/
def taskResults (tasks : List TaskInfo) : List TaskCall → List (Option (BitVec 32))
  | [] => []
  | c :: calls => taskResult tasks c :: taskResults (taskCall tasks c) calls

/-- Two maps with keys of their own: threads have errors, processes have timeouts. -/
structure TaskMaps where
  errors : ℕ → BitVec 32
  timeouts : ℕ → BitVec 32

def TaskMaps.empty : TaskMaps := ⟨fun _ => 0#32, fun _ => 0#32⟩

/-- A call on the maps changes one of them at one key, or empties both. -/
def TaskMaps.call (m : TaskMaps) : TaskCall → TaskMaps
  | .storeErr curtask lerror =>
    if lerror = 0#32 then m
    else { m with errors := Function.update m.errors curtask.pid lerror }
  | .getErr _ => m
  | .storeTimeout curtask ultimeout =>
    { m with timeouts := Function.update m.timeouts curtask.tgid ultimeout }
  | .getTimeout _ => m
  | .cleanlist => .empty

def TaskMaps.result (m : TaskMaps) : TaskCall → Option (BitVec 32)
  | .getErr curtask => some (m.errors curtask.pid)
  | .getTimeout curtask => some (m.timeouts curtask.tgid)
  | _ => none

def TaskMaps.results (m : TaskMaps) : List TaskCall → List (Option (BitVec 32))
  | [] => []
  | c :: calls => m.result c :: (m.call c).results calls

/-- The calls since the last `cleanlist`, the latest first. -/
def sinceCleanlist (calls : List TaskCall) : List TaskCall :=
  calls.reverse.takeWhile fun c => c ≠ .cleanlist

/-- The error that a call stores for a thread; zero is not stored. -/
def errorFor (pid : ℕ) : TaskCall → Option (BitVec 32)
  | .storeErr curtask lerror => if curtask.pid = pid ∧ lerror ≠ 0#32 then some lerror else none
  | _ => none

/-- The timeout that a call stores for a process. -/
def timeoutFor (tgid : ℕ) : TaskCall → Option (BitVec 32)
  | .storeTimeout curtask ultimeout => if curtask.tgid = tgid then some ultimeout else none
  | _ => none

/-- The last value that `f` finds since the last `cleanlist`, or zero. -/
def lastStored (f : TaskCall → Option (BitVec 32)) (calls : List TaskCall) : BitVec 32 :=
  ((sinceCleanlist calls).findSome? f).getD 0#32

theorem cleanlist_eq_nil (tasks : List TaskInfo) : cleanlist tasks = [] := by
  induction tasks with
  | nil => rfl
  | cons _ _ ih => exact ih

theorem getErr_append (pid : ℕ) (tasks : List TaskInfo) (t : TaskInfo) :
    getErr pid (tasks ++ [t]) =
      if (tasks.any fun tmp => tmp.pid = pid) = true then getErr pid tasks
      else if t.pid = pid then t.lasterror else 0#32 := by
  induction tasks with
  | nil => rfl
  | cons u tasks ih =>
    rw [List.cons_append, getErr, getErr, ih, List.any_cons]
    by_cases hu : u.pid = pid
    · simp [hu]
    · simp [hu]

theorem getErr_of_none {pid : ℕ} {tasks : List TaskInfo}
    (h : (tasks.any fun tmp => tmp.pid = pid) = false) : getErr pid tasks = 0#32 := by
  induction tasks with
  | nil => rfl
  | cons u tasks ih =>
    rw [List.any_cons, Bool.or_eq_false_iff] at h
    have hne : u.pid ≠ pid := by simpa using h.1
    rw [getErr, if_neg hne]
    exact ih h.2

/-- An entry that is there keeps its place; only its error changes. -/
theorem getErr_map_lasterror (pid tid : ℕ) (lerror : BitVec 32) (tasks : List TaskInfo) :
    getErr pid
        (tasks.map fun tmp => if tmp.pid = tid then { tmp with lasterror := lerror } else tmp) =
      if pid = tid ∧ (tasks.any fun tmp => tmp.pid = tid) = true then lerror
        else getErr pid tasks := by
  induction tasks with
  | nil => simp [getErr]
  | cons u tasks ih =>
    rw [List.map_cons, getErr, getErr, ih, List.any_cons]
    by_cases hu : u.pid = tid
    · by_cases hp : u.pid = pid
      · simp [hu, ← hp]
      · have hne : pid ≠ tid := fun h => hp (hu.trans h.symm)
        simp [hu, hne, Ne.symm hne]
    · by_cases hp : u.pid = pid
      · have hne : pid ≠ tid := fun h => hu (hp.trans h)
        simp [hp, hne]
      · simp [hu, hp]

theorem getErr_storeErr (pid tid : ℕ) (lerror : BitVec 32) (tasks : List TaskInfo) :
    getErr pid (storeErr true tid lerror tasks) =
      if lerror = 0#32 then getErr pid tasks
      else Function.update (fun k => getErr k tasks) tid lerror pid := by
  unfold storeErr
  split
  · rfl
  · split
    · rename_i hany
      rw [getErr_map_lasterror]
      by_cases hp : pid = tid
      · rw [if_pos ⟨hp, hany⟩, hp, Function.update_self]
      · rw [if_neg fun h => hp h.1, Function.update_of_ne hp]
    · rename_i hany
      rw [if_pos rfl, getErr_append]
      have hany' : (tasks.any fun tmp => tmp.pid = tid) = false := Bool.eq_false_iff.mpr hany
      by_cases hp : pid = tid
      · rw [hp, hany', Function.update_self]
        simp
      · rw [Function.update_of_ne hp]
        -- the new entry is another thread's
        split
        · rfl
        · rename_i hno
          rw [if_neg (Ne.symm hp), getErr_of_none (Bool.eq_false_iff.mpr hno)]

/-- A timeout never changes an error, also where both are of the same id. -/
theorem getErr_storeTimeout (pid tgid : ℕ) (ultimeout : BitVec 32) (tasks : List TaskInfo) :
    getErr pid (storeTimeout true tgid ultimeout tasks) = getErr pid tasks := by
  unfold storeTimeout
  split
  · rename_i hany
    clear hany
    induction tasks with
    | nil => rfl
    | cons u tasks ih =>
      rw [List.map_cons, getErr, getErr, ih]
      by_cases hu : u.pid = tgid
      · rw [if_pos hu]
      · rw [if_neg hu]
  · rw [if_pos rfl, getErr_append]
    split
    · rfl
    · rename_i hno
      rw [getErr_of_none (Bool.eq_false_iff.mpr hno)]
      exact ite_self _

theorem getTimeout_storeTimeout_eq (pid tgid : ℕ) (ultimeout : BitVec 32)
    (tasks : List TaskInfo) :
    getTimeout pid (storeTimeout true tgid ultimeout tasks) =
      Function.update (fun k => getTimeout k tasks) tgid ultimeout pid := by
  by_cases hp : pid = tgid
  · rw [hp, Function.update_self]
    exact getTimeout_storeTimeout (.inl rfl)
  · rw [Function.update_of_ne hp]
    exact getTimeout_storeTimeout_of_ne (Ne.symm hp) ultimeout true tasks

/-- Overwriting entries leaves the ids, and a new entry has an id that no other has. -/
theorem nodup_overwrite_or_append {pid : ℕ} {tasks : List TaskInfo} {f : TaskInfo → TaskInfo}
    {t : TaskInfo} (hf : ∀ tmp, (f tmp).pid = tmp.pid) (ht : t.pid = pid)
    (h : (tasks.map TaskInfo.pid).Nodup) :
    ((if (tasks.any fun tmp => tmp.pid = pid) = true then tasks.map f
      else if (true : Bool) = true then tasks ++ [t] else tasks).map TaskInfo.pid).Nodup := by
  split
  · have heq : (tasks.map f).map TaskInfo.pid = tasks.map TaskInfo.pid := by
      rw [List.map_map]
      exact List.map_congr_left fun tmp _ => hf tmp
    rw [heq]
    exact h
  · rename_i hany
    rw [if_pos rfl, List.map_append, List.map_singleton, ht]
    apply List.Nodup.append h (List.nodup_singleton pid)
    intro k hk hk'
    rw [List.mem_singleton.mp hk'] at hk
    obtain ⟨tmp, hmem, htmp⟩ := List.mem_map.mp hk
    exact hany (List.any_eq_true.mpr ⟨tmp, hmem, by simpa using htmp⟩)

/-- The list holds the two maps, with one entry for an id. -/
structure TaskMaps.Held (m : TaskMaps) (tasks : List TaskInfo) : Prop where
  unique : (tasks.map TaskInfo.pid).Nodup
  errors : ∀ pid, getErr pid tasks = m.errors pid
  timeouts : ∀ pid, getTimeout pid tasks = m.timeouts pid

theorem TaskMaps.held_empty : TaskMaps.empty.Held [] :=
  ⟨List.nodup_nil, fun _ => rfl, fun _ => rfl⟩

theorem TaskMaps.Held.storeErr {m : TaskMaps} {tasks : List TaskInfo} (h : m.Held tasks)
    (curtask : Caller) (lerror : BitVec 32) :
    (m.call (.storeErr curtask lerror)).Held
      (NetanaDriver.storeErr true curtask.pid lerror tasks) := by
  have herrors : (fun k => NetanaDriver.getErr k tasks) = m.errors := funext h.errors
  by_cases hzero : lerror = 0#32
  · have hsame : NetanaDriver.storeErr true curtask.pid lerror tasks = tasks := if_pos hzero
    have hmaps : m.call (.storeErr curtask lerror) = m := if_pos hzero
    rw [hsame, hmaps]
    exact h
  · have hmaps : m.call (.storeErr curtask lerror) =
        { m with errors := Function.update m.errors curtask.pid lerror } := if_neg hzero
    rw [hmaps]
    refine ⟨?_, fun pid => ?_, fun pid => ?_⟩
    · unfold NetanaDriver.storeErr
      rw [if_neg hzero]
      refine nodup_overwrite_or_append (t := ⟨curtask.pid, lerror, 0#32⟩) ?_ rfl h.unique
      intro tmp
      split <;> rfl
    · rw [getErr_storeErr, if_neg hzero, herrors]
    · rw [getTimeout_storeErr]
      exact h.timeouts pid

theorem TaskMaps.Held.storeTimeout {m : TaskMaps} {tasks : List TaskInfo} (h : m.Held tasks)
    (curtask : Caller) (ultimeout : BitVec 32) :
    (m.call (.storeTimeout curtask ultimeout)).Held
      (NetanaDriver.storeTimeout true curtask.tgid ultimeout tasks) := by
  have htimeouts : (fun k => NetanaDriver.getTimeout k tasks) = m.timeouts := funext h.timeouts
  refine ⟨?_, fun pid => ?_, fun pid => ?_⟩
  · refine nodup_overwrite_or_append (t := ⟨curtask.tgid, 0#32, ultimeout⟩) ?_ rfl h.unique
    intro tmp
    split <;> rfl
  · rw [getErr_storeTimeout]
    exact h.errors pid
  · rw [getTimeout_storeTimeout_eq, htimeouts]
    rfl

/-- One call on the list is the same call on the maps. -/
theorem TaskMaps.Held.call {m : TaskMaps} {tasks : List TaskInfo} (h : m.Held tasks)
    (c : TaskCall) : (m.call c).Held (taskCall tasks c) := by
  cases c with
  | storeErr curtask lerror => exact h.storeErr curtask lerror
  | getErr curtask => exact h
  | storeTimeout curtask ultimeout => exact h.storeTimeout curtask ultimeout
  | getTimeout curtask => exact h
  | cleanlist =>
    show TaskMaps.empty.Held (NetanaDriver.cleanlist tasks)
    rw [cleanlist_eq_nil]
    exact held_empty

theorem TaskMaps.Held.result {m : TaskMaps} {tasks : List TaskInfo} (h : m.Held tasks)
    (c : TaskCall) : taskResult tasks c = m.result c := by
  cases c with
  | getErr curtask => exact congrArg some (h.errors curtask.pid)
  | getTimeout curtask => exact congrArg some (h.timeouts curtask.tgid)
  | _ => rfl

/-- The maps after the calls are held by the list after the calls. -/
theorem TaskMaps.Held.run {m : TaskMaps} {tasks : List TaskInfo} (h : m.Held tasks)
    (calls : List TaskCall) :
    (calls.foldl TaskMaps.call m).Held (calls.foldl taskCall tasks) := by
  induction calls generalizing m tasks with
  | nil => exact h
  | cons c calls ih => exact ih (h.call c)

theorem TaskMaps.Held.results {m : TaskMaps} {tasks : List TaskInfo} (h : m.Held tasks)
    (calls : List TaskCall) : taskResults tasks calls = m.results calls := by
  induction calls generalizing m tasks with
  | nil => rfl
  | cons c calls ih => rw [taskResults, TaskMaps.results, h.result c, ih (h.call c)]

theorem lastStored_append (f : TaskCall → Option (BitVec 32)) (calls : List TaskCall)
    (c : TaskCall) : lastStored f (calls ++ [c]) =
      if c = .cleanlist then 0#32 else (f c).getD (lastStored f calls) := by
  rw [lastStored, sinceCleanlist, List.reverse_append, List.reverse_singleton,
    List.singleton_append, List.takeWhile_cons]
  by_cases hc : c = .cleanlist
  · simp [hc]
  · rw [if_pos (by simpa using hc), if_neg hc, List.findSome?_cons]
    cases f c with
    | none => rfl
    | some v => rfl

/-- What the maps hold after the calls, as a fact about the calls alone. -/
theorem TaskMaps.run_empty (calls : List TaskCall) :
    (∀ pid, (calls.foldl TaskMaps.call .empty).errors pid = lastStored (errorFor pid) calls) ∧
    ∀ tgid, (calls.foldl TaskMaps.call .empty).timeouts tgid =
      lastStored (timeoutFor tgid) calls := by
  induction calls using List.reverseRecOn with
  | nil => exact ⟨fun _ => rfl, fun _ => rfl⟩
  | append_singleton calls c ih =>
    rw [List.foldl_append, List.foldl_cons, List.foldl_nil]
    generalize calls.foldl TaskMaps.call .empty = m at ih
    obtain ⟨herrors, htimeouts⟩ := ih
    constructor
    · intro pid
      rw [lastStored_append]
      cases c with
      | storeErr curtask lerror =>
        rw [if_neg (by simp)]
        by_cases hzero : lerror = 0#32
        · simp [TaskMaps.call, errorFor, hzero, herrors]
        · by_cases hp : pid = curtask.pid
          · simp [TaskMaps.call, errorFor, hzero, hp]
          · simp [TaskMaps.call, errorFor, hzero, hp, Ne.symm hp, herrors]
      | cleanlist => rfl
      | getErr _ => exact herrors pid
      | storeTimeout _ _ => exact herrors pid
      | getTimeout _ => exact herrors pid
    · intro tgid
      rw [lastStored_append]
      cases c with
      | storeTimeout curtask ultimeout =>
        by_cases hp : tgid = curtask.tgid
        · simp [TaskMaps.call, timeoutFor, hp]
        · simp [TaskMaps.call, timeoutFor, hp, Ne.symm hp, htimeouts]
      | cleanlist => rfl
      | getErr _ => exact htimeouts tgid
      | getTimeout _ => exact htimeouts tgid
      | storeErr curtask lerror =>
        rw [if_neg (by simp)]
        refine Eq.trans ?_ (htimeouts tgid)
        rw [TaskMaps.call]
        split <;> rfl

/-- The task list is two independent maps: the results of its calls are those of the maps, an id
has one entry, and what a thread or a process reads is what was last stored for it. -/
theorem taskList_two_maps (calls : List TaskCall) :
    taskResults [] calls = TaskMaps.empty.results calls ∧
    ((taskRun calls).map TaskInfo.pid).Nodup ∧
    (∀ c : Caller, getErr c.pid (taskRun calls) = lastStored (errorFor c.pid) calls) ∧
    (∀ c : Caller, getTimeout c.tgid (taskRun calls) = lastStored (timeoutFor c.tgid) calls) ∧
    ∀ (c c' : Caller) (v : BitVec 32),
      getErr c'.pid (taskCall (taskRun calls) (.storeTimeout c v)) =
        getErr c'.pid (taskRun calls) ∧
      getTimeout c'.tgid (taskCall (taskRun calls) (.storeErr c v)) =
        getTimeout c'.tgid (taskRun calls) := by
  have hheld : (calls.foldl TaskMaps.call .empty).Held (taskRun calls) :=
    TaskMaps.held_empty.run calls
  obtain ⟨herrors, htimeouts⟩ := TaskMaps.run_empty calls
  refine ⟨TaskMaps.held_empty.results calls, hheld.unique, fun c => ?_, fun c => ?_,
    fun c c' v => ⟨?_, ?_⟩⟩
  · rw [hheld.errors, herrors]
  · rw [hheld.timeouts, htimeouts]
  · exact getErr_storeTimeout c'.pid c.tgid v (taskRun calls)
  · exact getTimeout_storeErr c'.tgid c.pid v true (taskRun calls)

end NetanaDriver
