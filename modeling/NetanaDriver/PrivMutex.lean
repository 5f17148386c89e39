import NetanaDriver.StepRuns
import NetanaDriver.ExclusiveSection

/-! The mutex with a timeout: a flag that is tested outside and inside of an inner lock
(`struct priv_mutex`, OS_Linux.c), under any interleaving of its threads. -/
namespace NetanaDriver

open ExclusiveSection

/-- What a thread does next in `OS_WaitMutex` or in `OS_ReleaseMutex`. -/
inductive MutexPc where
  | idle
  | tryOnce
  | waitEvent (timeout : BitVec 32)
  | tryLock (timeout : BitVec 32)
  | checkFlag (timeout : BitVec 32)
  | unlockLoop (timeout : BitVec 32)
  | testFlag
  | setFlag
  | unlock (ret : Bool)
  | releaseLock
  | clearFlag
  | wakeUp
  | unlockRelease
  deriving DecidableEq, Repr

/-- `holds`: a thread is between a return of `OS_WaitMutex` that was not zero and its
`OS_ReleaseMutex`. -/
structure PrivMutex (ι : Type*) where
  flag : Bool
  lock : Option ι
  pc : ι → MutexPc
  holds : ι → Bool

/-- `fMutex`: the handle is not null. `fGot`: `mutex_trylock` succeeds. `left`: what
`wait_event_timeout` returns. -/
inductive MutexAction (ι : Type*) where
  | osWaitMutex (i : ι) (fMutex : Bool) (ulTimeout : BitVec 32)
  | osReleaseMutex (i : ι)
  | step (i : ι) (fGot : Bool) (left : BitVec 32)

/-- `OS_CreateMutex`. -/
def osCreateMutex (ι : Type*) : PrivMutex ι := ⟨false, none, fun _ => .idle, fun _ => false⟩

/-- The end of the loop: `while (timeout > 0)`. -/
def MutexPc.again (timeout : BitVec 32) : MutexPc :=
  if 0#32 < timeout then .waitEvent timeout else .idle

/-- The thread owns the inner lock. -/
def MutexPc.locked : MutexPc → Bool
  | .checkFlag _ | .unlockLoop _ | .testFlag | .setFlag | .unlock _ => true
  | .clearFlag | .wakeUp | .unlockRelease => true
  | _ => false

/-- The thread has still to clear the flag. -/
def MutexPc.releasing : MutexPc → Bool
  | .releaseLock | .clearFlag => true
  | _ => false

/-- From setting the flag to clearing it. -/
def insideMutex : MutexPc × Bool → Bool
  | (.unlock true, _) => true
  | (_, holds) => holds

variable {ι : Type*} [DecidableEq ι]

def PrivMutex.goto (x : PrivMutex ι) (i : ι) (p : MutexPc) : PrivMutex ι :=
  { x with pc := Function.update x.pc i p }

/-- One step of a thread. -/
def mutexStep (msecsToJiffies : BitVec 32 → ℕ) (x : PrivMutex ι) :
    MutexAction ι → Option (PrivMutex ι)
  | .osWaitMutex i fMutex ulTimeout =>
    if x.pc i = .idle then
      let timeout := BitVec.ofNat 32 (msecsToJiffies ulTimeout)
      if fMutex then some (x.goto i (if timeout = 0#32 then .tryOnce else .waitEvent timeout))
      else some x
    else none
  | .osReleaseMutex i =>
    if x.pc i = .idle ∧ x.holds i = true then some (x.goto i .releaseLock) else none
  | .step i fGot left =>
    match x.pc i with
    | .idle => none
    | .tryOnce =>
      if fGot then
        if x.lock = none then some { x.goto i .testFlag with lock := some i } else none
      else some (x.goto i .idle)
    | .waitEvent timeout =>
      -- zero only if the flag is still set when the time is over
      if (left = 0#32 ∧ x.flag = true) ∨ (0#32 < left ∧ left ≤ timeout ∧ x.flag = false) then
        some (x.goto i (.tryLock left))
      else none
    | .tryLock timeout =>
      if fGot then
        if x.lock = none then some { x.goto i (.checkFlag timeout) with lock := some i } else none
      else some (x.goto i (.again timeout))
    | .checkFlag timeout =>
      some (x.goto i (if x.flag = false then .testFlag else .unlockLoop timeout))
    | .unlockLoop timeout => some { x.goto i (.again timeout) with lock := none }
    | .testFlag => some (x.goto i (if x.flag = false then .setFlag else .unlock false))
    | .setFlag => some { x.goto i (.unlock true) with flag := true }
    | .unlock ret =>
      some { x.goto i .idle with
        lock := none
        holds := Function.update x.holds i (x.holds i || ret) }
    | .releaseLock =>
      if x.lock = none then some { x.goto i .clearFlag with lock := some i } else none
    | .clearFlag =>
      some { x.goto i .wakeUp with
        flag := false
        holds := Function.update x.holds i false }
    | .wakeUp => some (x.goto i .unlockRelease)
    | .unlockRelease => some { x.goto i .idle with lock := none }

/-- The positions of the threads, for their exclusion. -/
def PrivMutex.places (x : PrivMutex ι) (i : ι) : Option (MutexPc × Bool) :=
  some (x.pc i, x.holds i)

/-- What holds in every state: the inner lock is with the thread that is between its lock and its
unlock, and the flag with the one thread that has set and not cleared it. -/
structure MutexInv (x : PrivMutex ι) : Prop where
  owner : ∀ i, x.lock = some i ↔ (x.pc i).locked = true
  exclusive : Exclusive x.places insideMutex x.flag
  taken : x.flag = true → ∃ i, insideMutex (x.pc i, x.holds i) = true
  saw : ∀ i, x.pc i = .setFlag → x.flag = false
  releasing : ∀ i, (x.pc i).releasing = true → x.holds i = true

@[simp] theorem locked_again (timeout : BitVec 32) : (MutexPc.again timeout).locked = false := by
  unfold MutexPc.again
  split <;> rfl

@[simp] theorem releasing_again (timeout : BitVec 32) :
    (MutexPc.again timeout).releasing = false := by
  unfold MutexPc.again
  split <;> rfl

theorem again_ne_setFlag (timeout : BitVec 32) : MutexPc.again timeout ≠ .setFlag := by
  unfold MutexPc.again
  split <;> simp

theorem insideMutex_eq_true {p : MutexPc} {b : Bool} :
    insideMutex (p, b) = true ↔ b = true ∨ p = .unlock true := by
  unfold insideMutex
  split
  · rename_i heq
    cases heq
    simp
  · rename_i hne heq
    cases heq
    refine ⟨.inl, ?_⟩
    rintro (hb | hp)
    · exact hb
    · exact absurd hp hne

theorem insideMutex_again (timeout : BitVec 32) (b : Bool) :
    insideMutex (MutexPc.again timeout, b) = b := by
  unfold MutexPc.again
  split <;> simp [insideMutex]

omit [DecidableEq ι] in
theorem mutexInv_start : MutexInv (osCreateMutex ι) := by
  refine ⟨fun i => ⟨fun h => ?_, fun h => ?_⟩, ⟨?_, ?_⟩, ?_, ?_, ?_⟩
  · cases h
  · cases h
  · intro i j p q hp hq hin
    cases hp
    cases hin
  · intro i p hp hin
    cases hp
    cases hin
  · intro h
    cases h
  · intro i h
    cases h
  · intro i h
    cases h

variable {x : PrivMutex ι} {i : ι}

/-- The owner of the inner lock after a step of one thread. -/
theorem owner_update {p : MutexPc} {l : Option ι}
    (h : ∀ j, x.lock = some j ↔ (x.pc j).locked = true) (hself : l = some i ↔ p.locked = true)
    (hothers : ∀ j, j ≠ i → (l = some j ↔ x.lock = some j)) (j : ι) :
    l = some j ↔ (Function.update x.pc i p j).locked = true := by
  by_cases hj : j = i
  · rw [hj, Function.update_self]
    exact hself
  · rw [Function.update_of_ne hj]
    exact (hothers j hj).trans (h j)

theorem places_update (p : MutexPc) (b : Bool) (l : Option ι) (f : Bool) :
    (⟨f, l, Function.update x.pc i p, Function.update x.holds i b⟩ : PrivMutex ι).places i =
      some (p, b) := by
  simp [PrivMutex.places]

theorem places_update_of_ne (p : MutexPc) (b : Bool) (l : Option ι) (f : Bool) (j : ι)
    (hj : j ≠ i) :
    (⟨f, l, Function.update x.pc i p, Function.update x.holds i b⟩ : PrivMutex ι).places j =
      x.places j := by
  simp [PrivMutex.places, hj]

/-- A step that leaves the flag and the thread where it is to the flag. -/
theorem MutexInv.moves (h : MutexInv x) {p : MutexPc} {b : Bool} {l : Option ι}
    (hin : insideMutex (p, b) = insideMutex (x.pc i, x.holds i))
    (hself : l = some i ↔ p.locked = true) (hothers : ∀ j, j ≠ i → (l = some j ↔ x.lock = some j))
    (hsaw : p = .setFlag → x.flag = false) (hrel : p.releasing = true → b = true) :
    MutexInv ⟨x.flag, l, Function.update x.pc i p, Function.update x.holds i b⟩ := by
  refine ⟨owner_update h.owner hself hothers, ?_, ?_, ?_, ?_⟩
  · cases hwas : insideMutex (x.pc i, x.holds i) with
    | true =>
      exact h.exclusive.stay rfl hwas (places_update p b l x.flag)
        (places_update_of_ne p b l x.flag)
    | false =>
      apply h.exclusive.outside (places_update p b l x.flag) (places_update_of_ne p b l x.flag)
      intro q hq
      cases hq
      rw [hin, hwas]
  · intro hflag
    obtain ⟨j, hj⟩ := h.taken hflag
    refine ⟨j, ?_⟩
    by_cases hji : j = i
    · rw [hji] at hj ⊢
      simpa [hin] using hj
    · simpa [hji] using hj
  · intro j hj
    by_cases hji : j = i
    · rw [hji] at hj
      exact hsaw (by simpa using hj)
    · exact h.saw j (by simpa [hji] using hj)
  · intro j hj
    by_cases hji : j = i
    · rw [hji] at hj ⊢
      simpa using hrel (by simpa using hj)
    · simpa [hji] using h.releasing j (by simpa [hji] using hj)

/-- The same for a step that leaves what the thread holds. -/
theorem MutexInv.goes (h : MutexInv x) {p : MutexPc} {l : Option ι}
    (hin : insideMutex (p, x.holds i) = insideMutex (x.pc i, x.holds i))
    (hself : l = some i ↔ p.locked = true) (hothers : ∀ j, j ≠ i → (l = some j ↔ x.lock = some j))
    (hsaw : p = .setFlag → x.flag = false) (hrel : p.releasing = true → x.holds i = true) :
    MutexInv { x.goto i p with lock := l } := by
  have hmoves := h.moves hin hself hothers hsaw hrel
  rwa [Function.update_eq_self] at hmoves

/-- The inner lock stays with its owner, or with none. -/
theorem MutexInv.keeps (h : MutexInv x) {p : MutexPc}
    (hin : insideMutex (p, x.holds i) = insideMutex (x.pc i, x.holds i))
    (hlocked : p.locked = (x.pc i).locked)
    (hsaw : p = .setFlag → x.flag = false) (hrel : p.releasing = true → x.holds i = true) :
    MutexInv (x.goto i p) := by
  refine h.goes hin ?_ (fun j _ => Iff.rfl) hsaw hrel
  rw [hlocked]
  exact h.owner i

/-- The inner lock is free and goes to the thread. -/
theorem MutexInv.locks (h : MutexInv x) {p : MutexPc} (hfree : x.lock = none)
    (hin : insideMutex (p, x.holds i) = insideMutex (x.pc i, x.holds i))
    (hlocked : p.locked = true)
    (hsaw : p = .setFlag → x.flag = false) (hrel : p.releasing = true → x.holds i = true) :
    MutexInv { x.goto i p with lock := some i } := by
  refine h.goes hin (by simp [hlocked]) (fun j hj => ?_) hsaw hrel
  rw [hfree]
  simp [Ne.symm hj]

omit [DecidableEq ι] in
/-- While one thread owns the inner lock no other does. -/
theorem MutexInv.others_unlocked (h : MutexInv x) (hlocked : (x.pc i).locked = true) (j : ι)
    (hj : j ≠ i) : ((none : Option ι) = some j ↔ x.lock = some j) := by
  rw [(h.owner i).mpr hlocked]
  simp [Ne.symm hj]

theorem MutexInv.unlocks (h : MutexInv x) {p : MutexPc} (hwas : (x.pc i).locked = true)
    (hin : insideMutex (p, x.holds i) = insideMutex (x.pc i, x.holds i))
    (hlocked : p.locked = false)
    (hsaw : p = .setFlag → x.flag = false) (hrel : p.releasing = true → x.holds i = true) :
    MutexInv { x.goto i p with lock := none } :=
  h.goes hin (by simp [hlocked]) (h.others_unlocked hwas) hsaw hrel

/-- The thread that saw the flag clear sets it. -/
theorem MutexInv.sets (h : MutexInv x) (hpc : x.pc i = .setFlag) :
    MutexInv { x.goto i (.unlock true) with flag := true } := by
  have hclear := h.saw i hpc
  have hfree : Exclusive x.places insideMutex false := by
    rw [← hclear]
    exact h.exclusive
  have hself : ({ x.goto i (.unlock true) with flag := true } : PrivMutex ι).places i =
      some (.unlock true, x.holds i) := by
    simp [PrivMutex.places, PrivMutex.goto]
  have hothers : ∀ j, j ≠ i →
      ({ x.goto i (.unlock true) with flag := true } : PrivMutex ι).places j = x.places j := by
    intro j hj
    simp [PrivMutex.places, PrivMutex.goto, hj]
  have howner := owner_update (p := .unlock true) (l := x.lock) (i := i) h.owner
    (by rw [h.owner i, hpc]; rfl) (fun j _ => Iff.rfl)
  refine ⟨howner, hfree.enter hself hothers, ?_, ?_, ?_⟩
  · intro _
    exact ⟨i, by simp [PrivMutex.goto, insideMutex]⟩
  · intro j hj
    -- another thread at the same place would own the inner lock too
    by_cases hji : j = i
    · rw [hji] at hj
      simp [PrivMutex.goto] at hj
    · have hj' : x.pc j = .setFlag := by simpa [PrivMutex.goto, hji] using hj
      have hlocki : x.lock = some i := (h.owner i).mpr (by rw [hpc]; rfl)
      have hlockj : x.lock = some j := (h.owner j).mpr (by rw [hj']; rfl)
      rw [hlocki] at hlockj
      exact absurd (Option.some.inj hlockj).symm hji
  · intro j hj
    by_cases hji : j = i
    · rw [hji] at hj
      simp [PrivMutex.goto, MutexPc.releasing] at hj
    · exact h.releasing j (by simpa [PrivMutex.goto, hji] using hj)

/-- The holder clears the flag. -/
theorem MutexInv.clears (h : MutexInv x) (hpc : x.pc i = .clearFlag) :
    MutexInv ⟨false, x.lock, Function.update x.pc i .wakeUp, Function.update x.holds i false⟩ := by
  have hholds : x.holds i = true := h.releasing i (by rw [hpc]; rfl)
  have hin : insideMutex (x.pc i, x.holds i) = true := insideMutex_eq_true.mpr (.inl hholds)
  refine ⟨owner_update h.owner ?_ (fun j _ => Iff.rfl), ?_, ?_, fun j _ => rfl, ?_⟩
  · rw [h.owner i, hpc]
    rfl
  · apply h.exclusive.leave rfl hin (places_update .wakeUp false x.lock false)
      (places_update_of_ne .wakeUp false x.lock false)
    intro q hq
    cases hq
    rfl
  · intro hflag
    cases hflag
  · intro j hj
    by_cases hji : j = i
    · rw [hji] at hj
      simp [MutexPc.releasing] at hj
    · simpa [hji] using h.releasing j (by simpa [hji] using hj)

/-- The next step of the thread in its function. -/
theorem mutexStep_thread_inv (msecsToJiffies : BitVec 32 → ℕ) (fGot : Bool) (left : BitVec 32)
    {y : PrivMutex ι} (hinv : MutexInv x)
    (h : mutexStep msecsToJiffies x (.step i fGot left) = some y) : MutexInv y := by
  cases hpc : x.pc i with
  | idle =>
    rw [mutexStep, hpc] at h
    cases h
  | tryOnce =>
    simp only [mutexStep, hpc] at h
    split at h
    · split at h
      · rename_i hfree
        cases h
        exact hinv.locks hfree (by rw [hpc]; rfl) rfl (by simp) (by simp [MutexPc.releasing])
      · cases h
    · cases h
      exact hinv.keeps (by rw [hpc]; rfl) (by rw [hpc]; rfl) (by simp)
        (by simp [MutexPc.releasing])
  | waitEvent timeout =>
    simp only [mutexStep, hpc] at h
    split at h
    · cases h
      exact hinv.keeps (by rw [hpc]; rfl) (by rw [hpc]; rfl) (by simp)
        (by simp [MutexPc.releasing])
    · cases h
  | tryLock timeout =>
    simp only [mutexStep, hpc] at h
    split at h
    · split at h
      · rename_i hfree
        cases h
        exact hinv.locks hfree (by rw [hpc]; rfl) rfl (by simp) (by simp [MutexPc.releasing])
      · cases h
    · cases h
      exact hinv.keeps (by rw [hpc, insideMutex_again]; simp [insideMutex])
        (by rw [hpc, locked_again]; rfl) (fun hset => absurd hset (again_ne_setFlag timeout))
        (by simp)
  | checkFlag timeout =>
    simp only [mutexStep, hpc] at h
    cases h
    split
    · exact hinv.keeps (by rw [hpc]; rfl) (by rw [hpc]; rfl) (by simp)
        (by simp [MutexPc.releasing])
    · exact hinv.keeps (by rw [hpc]; rfl) (by rw [hpc]; rfl) (by simp)
        (by simp [MutexPc.releasing])
  | unlockLoop timeout =>
    simp only [mutexStep, hpc] at h
    cases h
    exact hinv.unlocks (by rw [hpc]; rfl) (by rw [hpc, insideMutex_again]; simp [insideMutex])
      (locked_again timeout) (fun hset => absurd hset (again_ne_setFlag timeout)) (by simp)
  | testFlag =>
    simp only [mutexStep, hpc] at h
    cases h
    split
    · rename_i hclear
      exact hinv.keeps (by rw [hpc]; rfl) (by rw [hpc]; rfl) (fun _ => hclear)
        (by simp [MutexPc.releasing])
    · exact hinv.keeps (by rw [hpc]; rfl) (by rw [hpc]; rfl) (by simp)
        (by simp [MutexPc.releasing])
  | setFlag =>
    simp only [mutexStep, hpc] at h
    cases h
    exact hinv.sets hpc
  | unlock ret =>
    simp only [mutexStep, hpc] at h
    cases h
    have hlocked : (x.pc i).locked = true := by
      rw [hpc]
      rfl
    -- what the thread returns is what it holds from here on
    have hin : insideMutex (.idle, x.holds i || ret) = insideMutex (x.pc i, x.holds i) := by
      rw [hpc]
      cases ret with
      | false => exact Bool.or_false _
      | true => exact Bool.or_true _
    exact hinv.moves hin ⟨nofun, nofun⟩ (hinv.others_unlocked hlocked) nofun nofun
  | releaseLock =>
    simp only [mutexStep, hpc] at h
    split at h
    · rename_i hfree
      cases h
      exact hinv.locks hfree (by rw [hpc]; rfl) rfl (by simp)
        (fun _ => hinv.releasing i (by rw [hpc]; rfl))
    · cases h
  | clearFlag =>
    simp only [mutexStep, hpc] at h
    cases h
    exact hinv.clears hpc
  | wakeUp =>
    simp only [mutexStep, hpc] at h
    cases h
    exact hinv.keeps (by rw [hpc]; rfl) (by rw [hpc]; rfl) (by simp)
      (by simp [MutexPc.releasing])
  | unlockRelease =>
    simp only [mutexStep, hpc] at h
    cases h
    exact hinv.unlocks (by rw [hpc]; rfl) (by rw [hpc]; rfl) rfl (by simp)
      (by simp [MutexPc.releasing])

theorem mutexStep_inv (msecsToJiffies : BitVec 32 → ℕ) (x : PrivMutex ι) (a : MutexAction ι)
    (y : PrivMutex ι) (hinv : MutexInv x) (h : mutexStep msecsToJiffies x a = some y) :
    MutexInv y := by
  cases a with
  | osWaitMutex i fMutex ulTimeout =>
    simp only [mutexStep] at h
    split at h
    · rename_i hpc
      split at h
      · cases h
        split
        · exact hinv.keeps (by rw [hpc]; rfl) (by rw [hpc]; rfl) (by simp)
            (by simp [MutexPc.releasing])
        · exact hinv.keeps (by rw [hpc]; rfl) (by rw [hpc]; rfl) (by simp)
            (by simp [MutexPc.releasing])
      · cases h
        exact hinv
    · cases h
  | osReleaseMutex i =>
    simp only [mutexStep] at h
    split at h
    · rename_i hcall
      cases h
      exact hinv.keeps (by rw [hcall.1]; rfl) (by rw [hcall.1]; rfl) (by simp)
        (fun _ => hcall.2)
    · cases h
  | step i fGot left => exact mutexStep_thread_inv msecsToJiffies fGot left hinv h

/-- In every interleaving at most one thread holds the mutex; while nobody owns the inner lock
the flag is set exactly if a thread holds it; and no thread owns the inner lock outside of both
functions. -/
theorem privMutex_exclusion (msecsToJiffies : BitVec 32 → ℕ) (as : List (MutexAction ι))
    (x : PrivMutex ι)
    (hrun : StepRuns.run (mutexStep msecsToJiffies) (osCreateMutex ι) as = some x) :
    (∀ i j, x.holds i = true → x.holds j = true → i = j) ∧
    (x.lock = none → (x.flag = true ↔ ∃ i, x.holds i = true)) ∧
    ∀ i, x.pc i = .idle → x.lock ≠ some i := by
  have hinv : MutexInv x :=
    StepRuns.run_invariant (mutexStep_inv msecsToJiffies) mutexInv_start hrun
  have hinside : ∀ i, x.holds i = true → insideMutex (x.pc i, x.holds i) = true := fun i hi =>
    insideMutex_eq_true.mpr (.inl hi)
  refine ⟨fun i j hi hj => ?_, fun hfree => ⟨fun hflag => ?_, fun hheld => ?_⟩, fun i hi => ?_⟩
  · exact hinv.exclusive.alone i j _ _ rfl rfl (hinside i hi) (hinside j hj)
  · obtain ⟨i, hi⟩ := hinv.taken hflag
    rcases insideMutex_eq_true.mp hi with hi | hpc
    · exact ⟨i, hi⟩
    · -- the thread that has set the flag but not returned owns the inner lock
      have howner := (hinv.owner i).mpr (by rw [hpc]; rfl)
      rw [hfree] at howner
      cases howner
  · obtain ⟨i, hi⟩ := hheld
    exact hinv.exclusive.held i _ rfl (hinside i hi)
  · intro howner
    have hlocked := (hinv.owner i).mp howner
    rw [hi] at hlocked
    cases hlocked

/-- One thread takes the mutex in the loop; another one with no time for it gets the inner lock and
finds the flag set. -/
theorem privMutex_exclusion_two :
    ∃ x : PrivMutex Bool, StepRuns.run (mutexStep BitVec.toNat) (osCreateMutex Bool)
        [.osWaitMutex false true 5#32, .step false true 5#32, .step false true 0#32,
          .step false true 0#32, .step false true 0#32, .step false true 0#32,
          .step false true 0#32, .osWaitMutex true true 0#32, .step true true 0#32,
          .step true true 0#32, .step true true 0#32] = some x ∧
      x.holds false = true ∧ x.lock = none ∧
      (x.flag = true ↔ ∃ i, x.holds i = true) := by
  obtain ⟨x, hx, hholds, hlock⟩ : ∃ x : PrivMutex Bool,
      StepRuns.run (mutexStep BitVec.toNat) (osCreateMutex Bool)
        [.osWaitMutex false true 5#32, .step false true 5#32, .step false true 0#32,
          .step false true 0#32, .step false true 0#32, .step false true 0#32,
          .step false true 0#32, .osWaitMutex true true 0#32, .step true true 0#32,
          .step true true 0#32, .step true true 0#32] = some x ∧
      x.holds false = true ∧ x.lock = none := ⟨_, rfl, by rfl, by rfl⟩
  exact ⟨x, hx, hholds, hlock, (privMutex_exclusion BitVec.toNat _ x hx).2.1 hlock⟩

end NetanaDriver
