import NetanaDriver.SysfsResources

/-! Which registrations release all that they have created, exactly once. -/
namespace NetanaDriver

/-- Nothing is taken back that has been created, released or misused. -/
structure Grows (s t : RegState) : Prop where
  created : ∀ o, s.created o = true → t.created o = true
  released : ∀ o, s.released o ≤ t.released o
  misused : s.misused = true → t.misused = true

/-- What happens after the `device_info` directory has been created: its memory is not released. -/
structure Later (s t : RegState) : Prop extends Grows s t where
  devinfo : t.released (.single .devinfo) = s.released (.single .devinfo)

theorem Grows.trans {s t u : RegState} (h : Grows s t) (h' : Grows t u) : Grows s u :=
  ⟨fun o hs => h'.created o (h.created o hs), fun o => (h.released o).trans (h'.released o),
    fun hs => h'.misused (h.misused hs)⟩

theorem Grows.kfree (o : SysfsObj) (s : RegState) : Grows s (s.kfree o) := by
  refine ⟨fun _ h => h, fun p => ?_, fun h => h⟩
  change s.released p ≤ Function.update s.released o (s.released o + 1) p
  by_cases h : p = o
  · rw [h, Function.update_self]
    exact Nat.le_succ _
  · rw [Function.update_of_ne h]

theorem Later.refl (s : RegState) : Later s s :=
  ⟨⟨fun _ h => h, fun _ => le_refl _, fun h => h⟩, rfl⟩

theorem Later.trans {s t u : RegState} (h : Later s t) (h' : Later t u) : Later s u :=
  ⟨h.toGrows.trans h'.toGrows, h'.devinfo.trans h.devinfo⟩

/-- A change of the pointers only. -/
theorem Later.pointers {s t : RegState} (hc : t.created = s.created)
    (hr : t.released = s.released) (hm : t.misused = s.misused) : Later s t := by
  refine ⟨⟨fun o h => ?_, fun o => ?_, fun h => ?_⟩, ?_⟩
  · rwa [hc]
  · rw [hr]
  · rwa [hm]
  · rw [hr]

theorem Later.create (o : SysfsObj) (s : RegState) : Later s (s.create o) := by
  refine ⟨⟨fun p hp => ?_, fun _ => le_refl _, fun h => h⟩, rfl⟩
  change Function.update s.created o true p = true
  by_cases h : p = o
  · rw [h, Function.update_self]
  · rw [Function.update_of_ne h]
    exact hp

theorem Later.use (o : SysfsObj) (s : RegState) : Later s (s.use o) := by
  refine ⟨⟨fun _ h => h, fun _ => le_refl _, fun h => ?_⟩, rfl⟩
  change (s.misused || _) = true
  rw [h, Bool.true_or]

theorem Later.kfree {o : SysfsObj} (ho : o ≠ .single .devinfo) (s : RegState) :
    Later s (s.kfree o) :=
  ⟨Grows.kfree o s, Function.update_of_ne ho.symm _ _⟩

/-- Putting the `device_info` directory does not release its memory. -/
theorem Later.kobjectPut (o : SysfsObj) (s : RegState) : Later s (s.kobjectPut o) := by
  unfold RegState.kobjectPut
  by_cases h : o.hasRelease = true
  · rw [if_pos h]
    exact (Later.use o s).trans (Later.kfree (bne_iff_ne.mp h) _)
  · rw [if_neg h]
    exact Later.use o s

theorem Later.thenPut {s t : RegState} (h : Later s t) (o : SysfsObj) :
    Later s (t.kobjectPut o) :=
  h.trans (Later.kobjectPut o t)

/-- A loop whose rounds are like this is. -/
theorem Later.foldl {α : Type*} {f : RegState → α → RegState} (h : ∀ s a, Later s (f s a))
    (as : List α) (s : RegState) : Later s (as.foldl f s) := by
  induction as generalizing s with
  | nil => exact Later.refl s
  | cons a as ih => exact (h s a).trans (ih (f s a))

theorem Later.putHeld (os : List SysfsObj) (s : RegState) : Later s (s.putHeld os) := by
  apply Later.foldl
  intro t o
  by_cases h : t.holds o = true
  · rw [if_pos h]
    exact Later.kobjectPut o t
  · rw [if_neg h]
    exact Later.refl t

theorem Later.thenHeld {s t : RegState} (h : Later s t) (os : List SysfsObj) :
    Later s (t.putHeld os) :=
  h.trans (Later.putHeld os t)

variable {ok : SysfsStep → Bool}

theorem Later.createBase (b : BaseDir) (s : RegState) :
    Later s (NetanaDriver.createBase ok b s).1 := by
  unfold NetanaDriver.createBase
  by_cases h : ok (.createBase b) = true
  · rw [if_pos h]
    exact (Later.create (.base b) s).trans (Later.pointers rfl rfl rfl)
  · rw [if_neg h]
    exact Later.refl s

theorem Later.createSingle (d : SingleDir) (s : RegState) :
    Later s (NetanaDriver.createSingle ok d s).1 := by
  unfold NetanaDriver.createSingle
  split_ifs
  · exact Later.refl s
  · exact (Later.create _ s).thenPut _
  · exact (Later.create _ s).trans (Later.pointers rfl rfl rfl)

theorem Later.createIdentInfo (s : RegState) : Later s (nasysfsCreateIdentInfo ok s).1 := by
  unfold nasysfsCreateIdentInfo
  simp only
  split_ifs
  · exact Later.createSingle _ s
  · exact Later.createSingle _ s

theorem Later.createMbxDir (s : RegState) : Later s (nasysfsCreateMbxDir ok s).1 := by
  unfold nasysfsCreateMbxDir
  simp only
  split_ifs
  · exact Later.createSingle _ s
  · exact (Later.createSingle .mbx s).thenPut (.single .mbx)
  · exact Later.createSingle _ s

theorem Later.cleanupEntries (g : SysfsGroup) (objcnt : ℕ) (s : RegState) :
    Later s (NetanaDriver.cleanupEntries g objcnt s) := by
  induction objcnt generalizing s with
  | zero => exact Later.refl s
  | succ objcnt ih =>
    unfold NetanaDriver.cleanupEntries
    by_cases h : objcnt = 0
    · rw [if_pos h]
      exact Later.refl s
    · rw [if_neg h]
      exact (Later.putHeld _ s).trans (ih _)

theorem Later.cleanupObjset (g : SysfsGroup) (objcnt : ℕ) (s : RegState) :
    Later s (NetanaDriver.cleanupObjset g objcnt s) := by
  unfold NetanaDriver.cleanupObjset
  simp only
  by_cases h : (s.groups g).attgroup.isSome = true
  · rw [if_pos h]
    exact (Later.cleanupEntries g objcnt s).trans (Later.pointers rfl rfl rfl)
  · rw [if_neg h]
    exact Later.pointers rfl rfl rfl

variable (ok) in
theorem Later.createEntry (g : SysfsGroup) (i attcnt : ℕ) (s : RegState) :
    Later s (NetanaDriver.createEntry ok g i attcnt s).1 := by
  unfold NetanaDriver.createEntry
  by_cases halloc : ok (.allocEntry g i) = false
  · rw [if_pos halloc]
    exact Later.refl s
  · rw [if_neg halloc]
    by_cases hadd : ok (.addEntry g i) = false
    · simp only [if_pos hadd]
      exact (Later.create _ s).trans (Later.kfree (by simp) _)
    · simp only [if_neg hadd]
      apply (Later.create (.groupEntry g i) s).trans
      split
      · exact Later.pointers rfl rfl rfl
      · exact Later.pointers rfl rfl rfl

variable (ok) in
theorem Later.createEntries (g : SysfsGroup) (attcnt : ℕ → ℕ) (n : ℕ) (s : RegState) :
    Later s (NetanaDriver.createEntries ok g attcnt n s).1 := by
  induction n with
  | zero => exact Later.refl s
  | succ n ih =>
    unfold NetanaDriver.createEntries
    simp only
    split_ifs
    · exact ih.trans (Later.createEntry _ g n (attcnt n) _)
    · exact ih

theorem Later.dropGroup (g : SysfsGroup) (s : RegState) :
    Later s (NetanaDriver.dropGroup g s) := by
  apply Later.thenPut
  exact (Later.cleanupObjset g _ s).trans (Later.pointers rfl rfl rfl)

variable (ok) in
theorem Later.createSet (g : SysfsGroup) (attsize : ℕ) (s : RegState) :
    Later s (NetanaDriver.createSet ok g attsize s) :=
  (Later.create (.groupSet g) s).trans (Later.pointers rfl rfl rfl)

theorem Later.createFilterDir (ulGpioCnt : ℕ) (s : RegState) :
    Later s (nasysfsCreateFilterDir ok ulGpioCnt s).1 := by
  have hset := Later.createSet ok .filter ulGpioCnt s
  have hentries := hset.trans (Later.createEntries ok .filter (fun i => i + 1) ulGpioCnt _)
  unfold nasysfsCreateFilterDir
  simp only
  split_ifs
  · exact Later.refl s
  · exact Later.refl s
  · exact (Later.create _ s).thenPut (.groupSet .filter)
  · let t := NetanaDriver.createSet ok .filter ulGpioCnt s
    let u := t.setGroup .filter { t.groups .filter with kobj := false }
    have hdropped : Later t u := Later.pointers rfl rfl rfl
    exact (hset.trans hdropped).thenPut (.groupSet .filter)
  · exact hentries
  · exact hentries.trans (Later.dropGroup _ _)

theorem Later.createGpioDir (ulGpioCnt : ℕ) (s : RegState) :
    Later s (nasysfsCreateGpioDir ok ulGpioCnt s).1 := by
  have hset := Later.createSet ok .gpio (ulGpioCnt + 1) s
  have hentries := hset.trans (Later.createEntries ok .gpio (fun i => i) ulGpioCnt _)
  have hvoltage := hentries.trans
    (Later.createEntry ok .gpio ulGpioCnt (ulGpioCnt + 1) _)
  unfold nasysfsCreateGpioDir
  simp only
  split_ifs
  · exact Later.refl s
  · exact Later.refl s
  · exact hvoltage
  · exact hvoltage.trans (Later.dropGroup _ _)
  · exact hentries.trans (Later.dropGroup _ _)

theorem Later.createPorts (g : SysfsGroup) (ulPortCnt : ℕ) (s : RegState) :
    Later s (NetanaDriver.createPorts ok g ulPortCnt s).1 := by
  have hset := Later.createSet ok g ulPortCnt s
  have hentries := hset.trans (Later.createEntries ok g (fun i => i + 1) ulPortCnt _)
  unfold NetanaDriver.createPorts
  simp only
  split_ifs
  · exact Later.refl s
  · exact Later.refl s
  · exact hentries
  · exact hentries.trans (Later.dropGroup _ _)

/-- What every step of a list relates is related by the run of them. -/
theorem runSteps_rel {R : RegState → RegState → Prop} (hrefl : ∀ s, R s s)
    (htrans : ∀ s t u, R s t → R t u → R s u) {fs : List (RegState → RegState × Bool)}
    (h : ∀ f ∈ fs, ∀ s, R s (f s).1) (s : RegState) : R s (runSteps fs s).1 := by
  induction fs generalizing s with
  | nil => exact hrefl s
  | cons f fs ih =>
    unfold runSteps
    have hf := h f List.mem_cons_self s
    split_ifs
    · exact htrans _ _ _ hf (ih (fun g hg => h g (List.mem_cons_of_mem f hg)) _)
    · exact hf

theorem Later.removeBinFiles (s : RegState) : Later s (NetanaDriver.removeBinFiles s) := by
  unfold NetanaDriver.removeBinFiles
  have hsingles : ∀ t : RegState, Later t ([SingleDir.devinfo, .sysidentinfo, .mbx].foldl
      (fun s d => if s.singleDir d then s.use (.single d) else s) t) := by
    apply Later.foldl
    intro t d
    split_ifs
    · exact Later.use _ t
    · exact Later.refl t
  refine Later.trans ?_ (hsingles _)
  split
  · exact Later.refl s
  · apply Later.foldl
    intro t i
    split_ifs
    · exact Later.use _ t
    · exact Later.refl t
    · exact Later.pointers rfl rfl rfl

theorem Later.removeGroup (s : RegState) (g : SysfsGroup) :
    Later s (NetanaDriver.removeGroup s g) := by
  unfold NetanaDriver.removeGroup
  split_ifs
  · exact (Later.cleanupObjset _ _ s).thenPut _
  · exact Later.refl s

theorem Later.cleanUpAll (s : RegState) : Later s (NetanaDriver.cleanUpAll s) := by
  have hfiles := (Later.removeBinFiles s).trans (Later.putHeld cleanUpOrder _)
  have hgroups := hfiles.trans
    (Later.foldl Later.removeGroup [SysfsGroup.gpio, .port, .phy, .filter] _)
  exact hgroups.trans (Later.putHeld _ _)

theorem Later.netanaFreeDma (n : ℕ) (s : RegState) : Later s (NetanaDriver.netanaFreeDma n s) := by
  apply Later.thenHeld
  let t : RegState := { s with fault := s.fault || s.dmainfoFreed }
  have hrecords : Later s (t.putHeld ((List.range n).map .dma)) :=
    (Later.pointers rfl rfl rfl : Later s t).thenHeld _
  exact hrecords.trans (Later.pointers rfl rfl rfl)

/-- The calls of `netana_create_sysfsentries` before `nasysfs_create_dev_info`. -/
def earlySteps (ok : SysfsStep → Bool) : List (RegState → RegState × Bool) :=
  [nasysfsCreateDrvInfo ok, createBase ok .devInfo, nasysfsCreateDevStateInfo ok]

/-- The calls after it. -/
def lateSteps (ok : SysfsStep → Bool) (ulGpioCnt ulPortCnt : ℕ) :
    List (RegState → RegState × Bool) :=
  (sysfsSteps ok ulGpioCnt ulPortCnt).drop 4

theorem sysfsSteps_eq (ok : SysfsStep → Bool) (ulGpioCnt ulPortCnt : ℕ) :
    sysfsSteps ok ulGpioCnt ulPortCnt =
      earlySteps ok ++ nasysfsCreateDevInfo ok :: lateSteps ok ulGpioCnt ulPortCnt := rfl

theorem runSteps_append (fs gs : List (RegState → RegState × Bool)) (s : RegState) :
    runSteps (fs ++ gs) s =
      if (runSteps fs s).2 then runSteps gs (runSteps fs s).1 else runSteps fs s := by
  induction fs generalizing s with
  | nil => rfl
  | cons f fs ih =>
    rw [List.cons_append, runSteps, runSteps]
    by_cases h : (f s).2 = true
    · rw [if_pos h, if_pos h]
      exact ih _
    · rw [if_neg h, if_neg h, if_neg h]

theorem Later.lateSteps {ulGpioCnt ulPortCnt : ℕ} :
    ∀ f ∈ NetanaDriver.lateSteps ok ulGpioCnt ulPortCnt, ∀ s, Later s (f s).1 := by
  intro f hf s
  simp only [NetanaDriver.lateSteps, sysfsSteps, List.drop_succ_cons, List.drop_zero,
    List.mem_cons, List.not_mem_nil, or_false] at hf
  rcases hf with rfl | rfl | rfl | rfl | rfl | rfl | rfl | rfl | rfl | rfl | rfl | rfl | rfl |
    rfl | rfl | rfl
  · exact Later.createIdentInfo s
  · exact Later.createSingle _ s
  · exact Later.createSingle _ s
  · exact Later.createBase _ s
  · exact Later.createFilterDir _ s
  · exact Later.createGpioDir _ s
  · exact Later.createPorts _ _ s
  · exact Later.createPorts _ _ s
  · exact Later.createBase _ s
  · exact Later.createSingle _ s
  · exact Later.createBase _ s
  · exact Later.createSingle _ s
  · exact Later.createSingle _ s
  · exact Later.createSingle _ s
  · exact Later.createSingle _ s
  · exact Later.createMbxDir s

theorem Later.earlySteps :
    ∀ f ∈ NetanaDriver.earlySteps ok, ∀ s, Later s (f s).1 := by
  intro f hf s
  simp only [NetanaDriver.earlySteps, List.mem_cons, List.not_mem_nil, or_false] at hf
  rcases hf with rfl | rfl | rfl
  · exact Later.createSingle _ s
  · exact Later.createBase _ s
  · exact Later.createSingle _ s

theorem Grows.createDevInfo (s : RegState) : Grows s (nasysfsCreateDevInfo ok s).1 := by
  let t := s.create (.single .devinfo)
  have hpointer : Later t (t.setSingle .devinfo) := Later.pointers rfl rfl rfl
  have hset : Grows s (t.setSingle .devinfo) := ((Later.create _ s).trans hpointer).toGrows
  unfold nasysfsCreateDevInfo
  simp only
  split_ifs
  · exact (Later.refl s).toGrows
  · exact (Later.refl s).toGrows
  · exact hset.trans (Grows.kfree _ _)
  · exact (hset.trans (Later.kobjectPut (.single .devinfo) _).toGrows).trans (Grows.kfree _ _)
  · exact hset

variable (ok) in
theorem Grows.createSysfsentries (ulGpioCnt ulPortCnt : ℕ) (s : RegState) :
    Grows s (netanaCreateSysfsentries ok ulGpioCnt ulPortCnt s).1 := by
  have hsteps : Grows s (runSteps (sysfsSteps ok ulGpioCnt ulPortCnt) s).1 := by
    apply runSteps_rel (fun s => (Later.refl s).toGrows) (fun _ _ _ => Grows.trans)
    intro f hf t
    rw [sysfsSteps_eq, List.mem_append, List.mem_cons] at hf
    rcases hf with hf | rfl | hf
    · exact (Later.earlySteps f hf t).toGrows
    · exact Grows.createDevInfo t
    · exact (Later.lateSteps f hf t).toGrows
  unfold netanaCreateSysfsentries
  by_cases hdir : s.baseDir .drvInfo = true
  · simp only [if_pos hdir]
    split_ifs
    · exact hsteps
    · exact hsteps.trans (Later.cleanUpAll _).toGrows
  · simp only [if_neg hdir]
    exact (Later.cleanUpAll s).toGrows

/-- What comes after `netana_create_dma`, to the end of the registration or un-registration. -/
def afterDma (ok : SysfsStep → Bool) (n ulGpioCnt ulPortCnt : ℕ) (s : RegState) : RegState :=
  let q := netanaCreateSysfsentries ok ulGpioCnt ulPortCnt s
  if q.2 then unregisterSysfs n q.1 else netanaFreeDma n q.1

theorem registration_eq (n ulGpioCnt ulPortCnt : ℕ) :
    registration ok n ulGpioCnt ulPortCnt =
      if (netanaCreateDma ok n .init).2 then
        afterDma ok n ulGpioCnt ulPortCnt (netanaCreateDma ok n .init).1
      else (netanaCreateDma ok n .init).1 := by
  unfold registration registerSysfs afterDma
  by_cases hdma : (netanaCreateDma ok n .init).2 = true
  · simp only [if_pos hdma]
    split_ifs <;> simp_all
  · simp only [if_neg hdma]

theorem Grows.afterDma (n ulGpioCnt ulPortCnt : ℕ) (s : RegState) :
    Grows s (NetanaDriver.afterDma ok n ulGpioCnt ulPortCnt s) := by
  have hentries := Grows.createSysfsentries ok ulGpioCnt ulPortCnt s
  unfold NetanaDriver.afterDma
  simp only
  split_ifs
  · exact hentries.trans ((Later.netanaFreeDma n _).trans (Later.cleanUpAll _)).toGrows
  · exact hentries.trans (Later.netanaFreeDma n _).toGrows

/-- A directory that has been released while there is still a pointer to it is used by
`remove_bin_files`. -/
theorem removeBinFiles_misused {s : RegState} (hptr : s.singleDir .devinfo = true)
    (hrel : 0 < s.released (.single .devinfo)) : (removeBinFiles s).misused = true := by
  -- the loop over the filters leaves the pointers and the memory alone
  have hloop : ∀ (is : List ℕ) (a : ℕ → Bool) (t : RegState), t.singleDir .devinfo = true →
      0 < t.released (.single .devinfo) →
      let u := is.foldl (fun s i =>
        if i < (s.groups .filter).attsize then
          if a i then s.use (.groupEntry .filter i) else s
        else { s with fault := true }) t
      u.singleDir .devinfo = true ∧ 0 < u.released (.single .devinfo) := by
    intro is a
    induction is with
    | nil => exact fun t h h' => ⟨h, h'⟩
    | cons i is ih =>
      intro t h h'
      rw [List.foldl_cons]
      apply ih
      · split_ifs <;> exact h
      · split_ifs <;> exact h'
  have hsingles : ∀ t : RegState, t.singleDir .devinfo = true →
      0 < t.released (.single .devinfo) → ([SingleDir.devinfo, .sysidentinfo, .mbx].foldl
        (fun s d => if s.singleDir d then s.use (.single d) else s) t).misused = true := by
    intro t h h'
    rw [List.foldl_cons, if_pos h]
    refine (Later.foldl ?_ _ _).misused ?_
    · intro u d
      split_ifs
      · exact Later.use _ u
      · exact Later.refl u
    · change (t.misused || decide _) = true
      rw [decide_eq_true h', Bool.or_true]
  unfold removeBinFiles
  cases (s.groups .filter).attgroup with
  | none => exact hsingles s hptr hrel
  | some a => exact hsingles _ (hloop _ a s hptr hrel).1 (hloop _ a s hptr hrel).2

/-- The three ways in which `nasysfs_create_dev_info` goes on once it has its memory: the pointer to
released memory is kept, or the directory is left without a `release`. -/
theorem createDevInfo_spoils {s : RegState} (htype : ok (.allocType .devinfo) = true)
    (halloc : ok (.allocSingle .devinfo) = true) (hrel : s.released (.single .devinfo) = 0) :
    let r := nasysfsCreateDevInfo ok s
    (r.2 = false ∧ r.1.singleDir .devinfo = true ∧ 0 < r.1.released (.single .devinfo)) ∨
      (r.2 = true ∧ r.1.created (.single .devinfo) = true ∧
        r.1.released (.single .devinfo) = 0) := by
  intro r
  let t := (s.create (.single .devinfo)).setSingle .devinfo
  have hcreated : t.created (.single .devinfo) = true := by
    simp [t, RegState.create, RegState.setSingle]
  have hset : t.singleDir .devinfo = true := by simp [t, RegState.setSingle]
  have hr : r = if ok (.addSingle .devinfo) = false then (t.kfree (.single .devinfo), false)
      else if ok (.createBin .devinfo) = false then
        ((t.kobjectPut (.single .devinfo)).kfree (.single .devinfo), false)
      else (t, true) := by
    simp only [r, nasysfsCreateDevInfo, htype, halloc, Bool.true_eq_false, if_false]
    rfl
  have hfreed : ∀ u : RegState, 0 < (u.kfree (.single .devinfo)).released (.single .devinfo) := by
    intro u
    simp [RegState.kfree]
  rw [hr]
  split_ifs
  · exact Or.inl ⟨rfl, hset, hfreed _⟩
  · exact Or.inl ⟨rfl, hset, hfreed _⟩
  · exact Or.inr ⟨rfl, hcreated, hrel⟩

theorem Grows.not_balanced_of_twice {s t : RegState} (h : Grows s t) {o : SysfsObj}
    (htwice : 2 ≤ s.released o) : ¬ t.Balanced := by
  intro hb
  have hle := htwice.trans (h.released o)
  rw [hb.released o] at hle
  split_ifs at hle <;> omega

theorem Grows.not_balanced_of_misused {s t : RegState} (h : Grows s t)
    (hm : s.misused = true) : ¬ t.Balanced := by
  intro hb
  exact absurd ((h.misused hm).symm.trans hb.used) (by decide)

/-- With its memory for `device_info`, a registration never comes to a balanced end. -/
theorem afterDma_not_balanced {n ulGpioCnt ulPortCnt : ℕ} {s : RegState}
    (hdir : s.baseDir .drvInfo = true) (hearly : (runSteps (earlySteps ok) s).2 = true)
    (hrel : s.released (.single .devinfo) = 0) (htype : ok (.allocType .devinfo) = true)
    (halloc : ok (.allocSingle .devinfo) = true) :
    ¬ (afterDma ok n ulGpioCnt ulPortCnt s).Balanced := by
  have hlater : Later s (runSteps (earlySteps ok) s).1 :=
    runSteps_rel Later.refl (fun _ _ _ => Later.trans) Later.earlySteps s
  have hrun : runSteps (sysfsSteps ok ulGpioCnt ulPortCnt) s =
      runSteps (nasysfsCreateDevInfo ok :: lateSteps ok ulGpioCnt ulPortCnt)
        (runSteps (earlySteps ok) s).1 := by
    rw [sysfsSteps_eq, runSteps_append, if_pos hearly]
  generalize (runSteps (earlySteps ok) s).1 = u at hlater hrun
  have hfinal : ∀ r : RegState × Bool, runSteps (sysfsSteps ok ulGpioCnt ulPortCnt) s = r →
      afterDma ok n ulGpioCnt ulPortCnt s =
        if r.2 then unregisterSysfs n r.1 else netanaFreeDma n (cleanUpAll r.1) := by
    intro r hr
    unfold afterDma netanaCreateSysfsentries
    simp only [if_pos hdir, hr]
    by_cases h : r.2 = true
    · simp only [if_pos h]
    · simp only [if_neg h, Bool.false_eq_true, if_false]
  rcases createDevInfo_spoils htype halloc (hlater.devinfo.trans hrel) with
    ⟨hfail, hptr, hfreed⟩ | ⟨hdone, hcreated, hkept⟩
  · -- the clean-up uses what has been released
    have hr : runSteps (sysfsSteps ok ulGpioCnt ulPortCnt) s = nasysfsCreateDevInfo ok u := by
      rw [hrun, runSteps, if_neg (by rw [hfail]; exact Bool.false_ne_true)]
    rw [hfinal _ hr, if_neg (by rw [hfail]; exact Bool.false_ne_true)]
    have hused := removeBinFiles_misused hptr hfreed
    have hclean : Later (removeBinFiles (nasysfsCreateDevInfo ok u).1)
        (cleanUpAll (nasysfsCreateDevInfo ok u).1) :=
      ((Later.putHeld cleanUpOrder _).trans (Later.foldl Later.removeGroup _ _)).thenHeld _
    exact (hclean.trans (Later.netanaFreeDma n _)).toGrows.not_balanced_of_misused hused
  · -- nothing releases the directory
    have hr : runSteps (sysfsSteps ok ulGpioCnt ulPortCnt) s =
        runSteps (lateSteps ok ulGpioCnt ulPortCnt) (nasysfsCreateDevInfo ok u).1 := by
      rw [hrun, runSteps, if_pos hdone]
    have hlate : Later (nasysfsCreateDevInfo ok u).1
        (runSteps (sysfsSteps ok ulGpioCnt ulPortCnt) s).1 := by
      rw [hr]
      exact runSteps_rel Later.refl (fun _ _ _ => Later.trans) Later.lateSteps _
    have hend : Later (nasysfsCreateDevInfo ok u).1 (afterDma ok n ulGpioCnt ulPortCnt s) := by
      rw [hfinal _ rfl]
      split_ifs
      · exact hlate.trans ((Later.netanaFreeDma n _).trans (Later.cleanUpAll _))
      · exact hlate.trans ((Later.cleanUpAll _).trans (Later.netanaFreeDma n _))
    intro hb
    have hone := hb.released (.single .devinfo)
    rw [hend.devinfo, hkept, hend.created _ hcreated, if_pos rfl] at hone
    exact absurd hone (by decide)

/-- Putting objects that are held, each of them once, releases them. -/
theorem putHeld_spec {os : List SysfsObj} {s : RegState} (hnodup : os.Nodup)
    (hlive : ∀ o ∈ os, s.holds o = true → s.released o = 0 ∧ o.hasRelease = true) :
    s.putHeld os = { s with
      released := fun o => s.released o + if o ∈ os ∧ s.holds o = true then 1 else 0 } := by
  induction os generalizing s with
  | nil => simp [RegState.putHeld]
  | cons o os ih =>
    obtain ⟨hno, hnodup⟩ := List.nodup_cons.mp hnodup
    have hrest : ∀ p ∈ os, s.holds p = true → s.released p = 0 ∧ p.hasRelease = true :=
      fun p hp => hlive p (List.mem_cons_of_mem o hp)
    change RegState.putHeld os (if s.holds o then s.kobjectPut o else s) = _
    by_cases hheld : s.holds o = true
    · obtain ⟨hzero, hrelease⟩ := hlive o List.mem_cons_self hheld
      have hput : s.kobjectPut o =
          { s with released := Function.update s.released o (s.released o + 1) } := by
        rw [RegState.kobjectPut, if_pos hrelease]
        simp [RegState.use, RegState.kfree, hzero]
      rw [if_pos hheld, hput, ih hnodup]
      · congr 1
        funext p
        change Function.update s.released o (s.released o + 1) p +
          (if p ∈ os ∧ s.holds p = true then 1 else 0) = _
        by_cases hp : p = o
        · rw [hp, Function.update_self]
          have hin : o ∈ o :: os ∧ s.holds o = true := ⟨List.mem_cons_self, hheld⟩
          rw [if_pos hin, if_neg fun h => hno h.1]
        · rw [Function.update_of_ne hp]
          have hin : (p ∈ o :: os ∧ s.holds p = true) ↔ (p ∈ os ∧ s.holds p = true) := by
            rw [List.mem_cons, or_iff_right hp]
          simp only [hin]
      · intro p hp hpheld
        have hne : p ≠ o := fun h => hno (h ▸ hp)
        obtain ⟨hz, hr⟩ := hrest p hp hpheld
        exact ⟨(Function.update_of_ne hne _ _).trans hz, hr⟩
    · rw [if_neg hheld, ih hnodup hrest]
      congr 1
      funext p
      by_cases hp : p = o
      · rw [hp, if_neg fun h => hheld h.2, if_neg fun h => hheld h.2]
      · have hin : (p ∈ o :: os ∧ s.holds p = true) ↔ (p ∈ os ∧ s.holds p = true) := by
          rw [List.mem_cons, or_iff_right hp]
        simp only [hin]

/-- Up to the `device_info` directory every object is held by its pointer and alive, or released as
often as it has been created; and there are no groups and no binary files. -/
structure Owned (n : ℕ) (s : RegState) : Prop where
  accounted : ∀ o, s.released o + (if s.holds o then 1 else 0) = if s.created o then 1 else 0
  used : s.misused = false
  sound : s.fault = false
  groups : ∀ g, (s.groups g).kobj = false ∧ (s.groups g).attgroup = none
  files : s.singleDir .devinfo = false ∧ s.singleDir .sysidentinfo = false ∧
    s.singleDir .mbx = false
  records : s.dmainfo = some fun i => decide (i < n)
  kept : s.dmainfoFreed = false

theorem Owned.live {n : ℕ} {s : RegState} (h : Owned n s) {o : SysfsObj}
    (ho : s.holds o = true) : s.released o = 0 ∧ o.hasRelease = true := by
  constructor
  · have hacc := h.accounted o
    rw [if_pos ho] at hacc
    split_ifs at hacc
    omega
  · apply bne_iff_ne.mpr
    rintro rfl
    exact absurd (ho.symm.trans h.files.1) (by decide)

/-- Everything that can be held then, in the order in which the error paths put it. -/
def releaseOrder (n : ℕ) : List SysfsObj :=
  cleanUpOrder ++ [.base .ctl, .base .conf, .base .hw, .base .devInfo] ++
    (List.range n).map SysfsObj.dma ++ [.base .dma, .base .drvInfo]

theorem releaseOrder_nodup (n : ℕ) : (releaseOrder n).Nodup := by
  have hrecords : ((List.range n).map SysfsObj.dma).Nodup := by
    apply List.Nodup.map
    · intro i j h
      exact SysfsObj.dma.inj h
    · exact List.nodup_range
  have hfirst : (cleanUpOrder ++ [SysfsObj.base .ctl, .base .conf, .base .hw, .base .devInfo] ++
      (List.range n).map SysfsObj.dma).Nodup := by
    rw [List.nodup_append]
    refine ⟨by decide, hrecords, ?_⟩
    intro a ha b hb
    obtain ⟨i, -, rfl⟩ := List.mem_map.mp hb
    rintro rfl
    simp [cleanUpOrder] at ha
  rw [releaseOrder, List.nodup_append]
  refine ⟨hfirst, by decide, ?_⟩
  intro a ha b hb
  rintro rfl
  simp only [List.mem_cons, List.not_mem_nil, or_false] at hb
  rcases hb with rfl | rfl <;> simp [cleanUpOrder] at ha

theorem Owned.mem_releaseOrder {n : ℕ} {s : RegState} (h : Owned n s) {o : SysfsObj}
    (ho : s.holds o = true) : o ∈ releaseOrder n := by
  cases o with
  | base b => cases b <;> simp [releaseOrder]
  | single d => cases d <;> simp [releaseOrder, cleanUpOrder]
  | groupSet g => exact absurd (ho.symm.trans (h.groups g).1) (by decide)
  | groupEntry g i =>
    change (s.groups g).attgroup.elim false (fun a => a i) = true at ho
    rw [(h.groups g).2] at ho
    exact absurd ho Bool.false_ne_true
  | dma i =>
    change s.dmainfo.elim false (fun a => a i) = true at ho
    rw [h.records] at ho
    have hi : i < n := of_decide_eq_true ho
    simp [releaseOrder, cleanUpOrder, hi]

/-- The error paths release all that is held. -/
theorem Owned.cleanUp {n : ℕ} {s : RegState} (h : Owned n s) :
    (netanaFreeDma n (cleanUpAll s)).Balanced := by
  have hfiles : removeBinFiles s = s := by
    unfold removeBinFiles
    rw [(h.groups .filter).2]
    simp [h.files.1, h.files.2.1, h.files.2.2]
  have hgroup : ∀ (t : RegState) (g : SysfsGroup), t.groups = s.groups → removeGroup t g = t := by
    intro t g ht
    rw [removeGroup, ht, (h.groups g).1]
    rfl
  let os := cleanUpOrder ++ [SysfsObj.base .ctl, .base .conf, .base .hw, .base .devInfo] ++
    (List.range n).map SysfsObj.dma
  have hnodup := releaseOrder_nodup n
  obtain ⟨hos, hlast, hdisjoint⟩ := List.nodup_append.mp hnodup
  -- each object is put once, so the lists of `cleanUpSysfs` and `netana_free_dma` join into one
  have hput : ∀ l : List SysfsObj, l.Nodup → s.putHeld l = { s with
      released := fun o => s.released o + if o ∈ l ∧ s.holds o = true then 1 else 0 } :=
    fun l hl => putHeld_spec hl fun o _ ho => h.live ho
  have hsys : cleanUpSysfs s = s.putHeld cleanUpOrder := by
    have hsame : (s.putHeld cleanUpOrder).groups = s.groups := by
      rw [hput _ (by decide)]
    unfold cleanUpSysfs
    rw [hfiles]
    simp only [List.foldl_cons, List.foldl_nil, hgroup _ _ hsame]
  have hbefore : (cleanUpAll s).putHeld ((List.range n).map .dma) = s.putHeld os := by
    unfold cleanUpAll
    rw [hsys]
    simp only [RegState.putHeld, os, List.foldl_append]
  have hall : (s.putHeld os).freeDmainfo = { s with
      dmainfoFreed := true
      released := fun o => s.released o + if o ∈ os ∧ s.holds o = true then 1 else 0 } := by
    rw [hput os hos]
    simp [RegState.freeDmainfo, h.sound, h.kept]
  have hkept : (cleanUpAll s).fault = s.fault ∧ (cleanUpAll s).dmainfoFreed = s.dmainfoFreed := by
    have hclean : cleanUpAll s = s.putHeld
        (cleanUpOrder ++ [SysfsObj.base .ctl, .base .conf, .base .hw, .base .devInfo]) := by
      unfold cleanUpAll
      rw [hsys]
      simp only [RegState.putHeld, List.foldl_append]
    rw [hclean, hput _ (by decide)]
    exact ⟨rfl, rfl⟩
  have hfree : netanaFreeDma n (cleanUpAll s) =
      (s.putHeld os).freeDmainfo.putHeld [.base .dma, .base .drvInfo] := by
    have hsame : { cleanUpAll s with
        fault := (cleanUpAll s).fault || (cleanUpAll s).dmainfoFreed } = cleanUpAll s := by
      rw [hkept.2, h.kept, Bool.or_false]
    unfold netanaFreeDma
    simp only [hsame, hbefore]
  have hend : netanaFreeDma n (cleanUpAll s) = { s with
      dmainfoFreed := true
      released := fun o => s.released o + if s.holds o = true then 1 else 0 } := by
    rw [hfree, hall, putHeld_spec hlast]
    · congr 1
      funext o
      change s.released o + (if o ∈ os ∧ s.holds o = true then 1 else 0) +
        (if o ∈ [SysfsObj.base .dma, .base .drvInfo] ∧ s.holds o = true then 1 else 0) = _
      -- what is held lies in exactly one of the two parts of the order
      by_cases ho : s.holds o = true
      · have hmem : o ∈ os ∨ o ∈ [SysfsObj.base .dma, .base .drvInfo] :=
          List.mem_append.mp (h.mem_releaseOrder ho)
        rw [if_pos ho]
        rcases hmem with hmem | hmem
        · have hnot : o ∉ [SysfsObj.base .dma, .base .drvInfo] :=
            fun hin => hdisjoint o hmem o hin rfl
          rw [if_pos ⟨hmem, ho⟩, if_neg fun hin => hnot hin.1]
        · have hnot : o ∉ os := fun hin => hdisjoint o hin o hmem rfl
          rw [if_neg fun hin => hnot hin.1, if_pos ⟨hmem, ho⟩, Nat.add_zero]
      · rw [if_neg ho, if_neg fun hin => ho hin.2, if_neg fun hin => ho hin.2]
    · intro o hin ho
      have hnot : o ∉ os := fun hos => hdisjoint o hos o hin rfl
      obtain ⟨hzero, hrelease⟩ := h.live (o := o) ho
      refine ⟨?_, hrelease⟩
      change s.released o + (if o ∈ os ∧ s.holds o = true then 1 else 0) = 0
      rw [hzero, if_neg fun hin => hnot hin.1]
  rw [hend]
  exact ⟨fun o => h.accounted o, h.used, h.sound⟩

/-- A step that keeps the ownership and creates at most the given object, if that is new. -/
def CreatesOnly (n : ℕ) (o : SysfsObj) (f : RegState → RegState × Bool) : Prop :=
  ∀ s, Owned n s → s.created o = false →
    Owned n (f s).1 ∧ ∀ p, p ≠ o → (f s).1.created p = s.created p

theorem Owned.fresh {n : ℕ} {s : RegState} (h : Owned n s) {o : SysfsObj}
    (ho : s.created o = false) : s.released o = 0 ∧ s.holds o = false := by
  have hacc := h.accounted o
  rw [ho] at hacc
  cases hheld : s.holds o with
  | true => simp [hheld] at hacc
  | false => simpa [hheld] using hacc

variable (ok) in
theorem createBase_creates (n : ℕ) (b : BaseDir) : CreatesOnly n (.base b) (createBase ok b) := by
  intro s hs hnew
  unfold createBase
  by_cases hok : ok (.createBase b) = true
  · rw [if_pos hok]
    refine ⟨⟨fun p => ?_, hs.used, hs.sound, hs.groups, hs.files, hs.records, hs.kept⟩,
      fun p hp => Function.update_of_ne hp _ _⟩
    have hzero := (hs.fresh hnew).1
    by_cases hp : p = .base b
    · rw [hp]
      simp [RegState.holds, RegState.create, hzero]
    · have hheld : RegState.holds { s.create (.base b) with
          baseDir := Function.update s.baseDir b true } p = s.holds p := by
        cases p with
        | base c => exact Function.update_of_ne (fun h => hp (by rw [h])) _ _
        | _ => rfl
      rw [hheld]
      simpa [RegState.create, Function.update_of_ne hp] using hs.accounted p
  · rw [if_neg hok]
    exact ⟨hs, fun _ _ => rfl⟩

variable (ok) in
/-- The directories without binary files are either held or released again. -/
theorem createSingle_creates (n : ℕ) {d : SingleDir} (hdev : d ≠ .devinfo)
    (hident : d ≠ .sysidentinfo) (hmbx : d ≠ .mbx) :
    CreatesOnly n (.single d) (createSingle ok d) := by
  intro s hs hnew
  obtain ⟨hzero, hheld⟩ := hs.fresh hnew
  have hrelease : (SysfsObj.single d).hasRelease = true :=
    bne_iff_ne.mpr fun h => hdev (SysfsObj.single.inj h)
  unfold createSingle
  by_cases halloc : ok (.allocSingle d) = false
  · rw [if_pos halloc]
    exact ⟨hs, fun _ _ => rfl⟩
  · rw [if_neg halloc]
    by_cases hadd : ok (.addSingle d) = false
    · simp only [if_pos hadd]
      have hput : (s.create (.single d)).kobjectPut (.single d) = { s with
          created := Function.update s.created (.single d) true
          released := Function.update s.released (.single d) 1 } := by
        rw [RegState.kobjectPut, if_pos hrelease]
        simp [RegState.use, RegState.kfree, RegState.create, hzero]
      rw [hput]
      refine ⟨⟨fun p => ?_, hs.used, hs.sound, hs.groups, hs.files, hs.records, hs.kept⟩,
        fun p hp => Function.update_of_ne hp _ _⟩
      change Function.update s.released _ 1 p + (if s.holds p = true then 1 else 0) =
        if Function.update s.created _ true p = true then 1 else 0
      by_cases hp : p = .single d
      · rw [hp, Function.update_self, Function.update_self, hheld]
        rfl
      · rw [Function.update_of_ne hp, Function.update_of_ne hp]
        exact hs.accounted p
    · simp only [if_neg hadd]
      refine ⟨⟨fun p => ?_, hs.used, hs.sound, hs.groups, ?_, hs.records, hs.kept⟩,
        fun p hp => Function.update_of_ne hp _ _⟩
      · by_cases hp : p = .single d
        · rw [hp]
          simp [RegState.holds, RegState.create, RegState.setSingle, hzero]
        · have hsame : ((s.create (.single d)).setSingle d).holds p = s.holds p := by
            cases p with
            | single e => exact Function.update_of_ne (fun h => hp (by rw [h])) _ _
            | _ => rfl
          rw [hsame]
          simpa [RegState.create, RegState.setSingle, Function.update_of_ne hp] using
            hs.accounted p
      · obtain ⟨h1, h2, h3⟩ := hs.files
        exact ⟨(Function.update_of_ne hdev.symm _ _).trans h1,
          (Function.update_of_ne hident.symm _ _).trans h2,
          (Function.update_of_ne hmbx.symm _ _).trans h3⟩

/-- The steps that come before the `device_info` directory, and whether they succeed. -/
def earlyOk (ok : SysfsStep → Bool) : Bool :=
  ok (.allocSingle .sysdrvinfo) && ok (.addSingle .sysdrvinfo) && ok (.createBase .devInfo) &&
    ok (.allocSingle .sysdevstate) && ok (.addSingle .sysdevstate)

theorem createSingle_snd (d : SingleDir) (s : RegState) :
    (createSingle ok d s).2 = (ok (.allocSingle d) && ok (.addSingle d)) := by
  unfold createSingle
  cases ok (.allocSingle d) <;> cases ok (.addSingle d) <;> rfl

theorem createBase_snd (b : BaseDir) (s : RegState) :
    (createBase ok b s).2 = ok (.createBase b) := by
  unfold createBase
  cases ok (.createBase b) <;> rfl

variable (ok) in
theorem earlySteps_owned {n : ℕ} {s : RegState} (h : Owned n s)
    (hdrv : s.created (.single .sysdrvinfo) = false) (hdir : s.created (.base .devInfo) = false)
    (hstate : s.created (.single .sysdevstate) = false) :
    Owned n (runSteps (earlySteps ok) s).1 ∧ (runSteps (earlySteps ok) s).2 = earlyOk ok := by
  obtain ⟨h1, hnew1⟩ := createSingle_creates ok n (d := .sysdrvinfo) (by decide) (by decide)
    (by decide) s h hdrv
  obtain ⟨h2, hnew2⟩ := createBase_creates ok n .devInfo _ h1
    ((hnew1 _ (by decide)).trans hdir)
  obtain ⟨h3, -⟩ := createSingle_creates ok n (d := .sysdevstate) (by decide) (by decide)
    (by decide) _ h2 ((hnew2 _ (by decide)).trans ((hnew1 _ (by decide)).trans hstate))
  have hrun : runSteps (earlySteps ok) s =
      if (createSingle ok .sysdrvinfo s).2 then
        if (createBase ok .devInfo (createSingle ok .sysdrvinfo s).1).2 then
          if (createSingle ok .sysdevstate
              (createBase ok .devInfo (createSingle ok .sysdrvinfo s).1).1).2 then
            ((createSingle ok .sysdevstate
              (createBase ok .devInfo (createSingle ok .sysdrvinfo s).1).1).1, true)
          else createSingle ok .sysdevstate
            (createBase ok .devInfo (createSingle ok .sysdrvinfo s).1).1
        else createBase ok .devInfo (createSingle ok .sysdrvinfo s).1
      else createSingle ok .sysdrvinfo s := rfl
  rw [hrun]
  unfold earlyOk
  split_ifs with hd hb hst
  · refine ⟨h3, ?_⟩
    rw [createSingle_snd] at hd hst
    rw [createBase_snd] at hb
    rw [hd, hb, Bool.and_assoc, hst]
    rfl
  · refine ⟨h3, ?_⟩
    rw [createSingle_snd] at hd hst ⊢
    rw [createBase_snd] at hb
    rw [hd, hb, Bool.and_assoc]
    rfl
  · refine ⟨h2, ?_⟩
    rw [createBase_snd] at hb ⊢
    rw [Bool.not_eq_true] at hb
    simp [hb]
  · refine ⟨h1, ?_⟩
    rw [createSingle_snd] at hd ⊢
    rw [Bool.not_eq_true] at hd
    simp [hd]

/-- The object is one of the first `k` DMA-info records. -/
def SysfsObj.dmaBelow (k : ℕ) : SysfsObj → Bool
  | .dma i => decide (i < k)
  | _ => false

variable (ok) in
theorem createDmaRecords_spec {s : RegState} (hs : s.dmainfo = some fun _ => false) (n : ℕ) :
    let r := createDmaRecords ok n s
    r.2 ≤ n ∧ (∀ i < r.2, ok (.allocDmaRecord i) = true) ∧
      (r.2 < n → ok (.allocDmaRecord r.2) = false) ∧
      r.1 = { s with
        created := fun o => s.created o || o.dmaBelow r.2
        dmainfo := some fun i => decide (i < r.2) } := by
  induction n with
  | zero =>
    refine ⟨le_refl 0, fun i hi => absurd hi (Nat.not_lt_zero i), fun h => absurd h (lt_irrefl 0),
      ?_⟩
    have hcreated : (fun o => s.created o || o.dmaBelow 0) = s.created := by
      funext o
      cases o <;> simp [SysfsObj.dmaBelow]
    change s = { s with
      created := fun o => s.created o || o.dmaBelow 0
      dmainfo := some fun i => decide (i < 0) }
    rw [hcreated]
    simp only [Nat.not_lt_zero, decide_false]
    rw [← hs]
  | succ n ih =>
    obtain ⟨hle, hok, hstop, hst⟩ := ih
    intro r
    by_cases hnext : (createDmaRecords ok n s).2 = n ∧ ok (.allocDmaRecord n) = true
    · have hr : r = ({ (createDmaRecords ok n s).1.create (.dma n) with
          dmainfo := (createDmaRecords ok n s).1.dmainfo.map fun a => Function.update a n true },
          n + 1) := if_pos hnext
      rw [hr]
      refine ⟨le_refl _, fun i hi => ?_, fun h => absurd h (lt_irrefl _), ?_⟩
      · rcases Nat.lt_succ_iff_lt_or_eq.mp hi with hlt | rfl
        · exact hok i (by rw [hnext.1]; exact hlt)
        · exact hnext.2
      · rw [hst, hnext.1]
        simp only [RegState.create, Option.map_some]
        congr 1
        · congr 1
          funext i
          by_cases hi : i = n
          · rw [hi, Function.update_self]
            simp
          · rw [Function.update_of_ne hi]
            have hlt : i < n + 1 ↔ i < n := by omega
            simp only [hlt]
        · funext o
          by_cases ho : o = .dma n
          · rw [ho, Function.update_self]
            simp [SysfsObj.dmaBelow]
          · rw [Function.update_of_ne ho]
            cases o with
            | dma i =>
              have hne : i ≠ n := fun h => ho (by rw [h])
              have hlt : i < n + 1 ↔ i < n := by omega
              simp only [SysfsObj.dmaBelow, hlt]
            | _ => rfl
    · have hr : r = createDmaRecords ok n s := if_neg hnext
      rw [hr]
      refine ⟨Nat.le_succ_of_le hle, hok, fun _ => ?_, hst⟩
      rcases Nat.lt_or_eq_of_le hle with hlt | heq
      · exact hstop hlt
      · rw [heq]
        exact Bool.eq_false_iff.mpr fun h => hnext ⟨heq, h⟩

/-- The clean-up of the records releases each of them twice. -/
theorem dropDmaRecords_spec {m : ℕ} {s : RegState} (hheld : ∀ i < m, s.holds (.dma i) = true) :
    let t := dropDmaRecords m s
    t.created = s.created ∧ t.released (.base .drvInfo) = s.released (.base .drvInfo) ∧
      s.released (.dma 0) ≤ t.released (.dma 0) ∧ (0 < m → 2 ≤ t.released (.dma 0)) := by
  induction m generalizing s with
  | zero => exact ⟨rfl, rfl, le_refl _, fun h => absurd h (lt_irrefl 0)⟩
  | succ m ih =>
    let u := (s.kobjectPut (.dma m)).kfree (.dma m)
    have hu : u = { s with
        misused := u.misused
        released := Function.update s.released (.dma m) (s.released (.dma m) + 2) } := by
      simp [u, RegState.kobjectPut, RegState.kfree, RegState.use, SysfsObj.hasRelease]
    have hreleased : u.released =
        Function.update s.released (.dma m) (s.released (.dma m) + 2) := congrArg (·.released) hu
    have hpointers : ∀ i < m, u.holds (.dma i) = true := by
      intro i hi
      rw [hu]
      exact hheld i (Nat.lt_succ_of_lt hi)
    have hstep : dropDmaRecords (m + 1) s = dropDmaRecords m u := by
      rw [dropDmaRecords, if_pos (hheld m (Nat.lt_succ_self m))]
    obtain ⟨hcreated, hdrv, hmono, htwice⟩ := ih hpointers
    rw [hstep]
    refine ⟨hcreated.trans (by rw [hu]), hdrv.trans ?_, le_trans ?_ hmono, fun _ => ?_⟩
    · rw [hreleased]
      exact Function.update_of_ne (show SysfsObj.base .drvInfo ≠ .dma m by simp) _ _
    · rw [hreleased]
      by_cases hm : m = 0
      · rw [hm, Function.update_self]
        omega
      · rw [Function.update_of_ne (show SysfsObj.dma 0 ≠ .dma m by simpa using Ne.symm hm)]
    · by_cases hm : m = 0
      · refine le_trans ?_ hmono
        rw [hreleased, hm, Function.update_self]
        omega
      · exact htwice (Nat.pos_of_ne_zero hm)

/-- The directories for DMA are there, and nothing else. -/
def dmaDirs : RegState :=
  { RegState.init with
    dmainfo := some fun _ => false
    baseDir := fun b => b == .drvInfo || b == .dma
    created := fun o => o == .base .drvInfo || o == .base .dma }

theorem dmaDirs_eq (hdrv : ok (.createBase .drvInfo) = true) (hdir : ok (.createBase .dma) = true) :
    createBase ok .dma (createBase ok .drvInfo { RegState.init with
      dmainfo := some fun _ => false }).1 = (dmaDirs, true) := by
  unfold createBase
  rw [if_pos hdir, if_pos hdrv]
  simp only [RegState.create, dmaDirs, RegState.init, Prod.mk.injEq, RegState.mk.injEq, and_true,
    true_and]
  constructor
  · funext b
    cases b <;> rfl
  · funext o
    by_cases h : o = .base .dma
    · rw [h]
      simp
    · rw [Function.update_of_ne h]
      by_cases h' : o = .base .drvInfo
      · rw [h']
        simp
      · rw [Function.update_of_ne h', beq_eq_false_iff_ne.mpr h, beq_eq_false_iff_ne.mpr h']
        rfl

/-- The allocations for DMA succeed. -/
def dmaOk (ok : SysfsStep → Bool) (n : ℕ) : Prop :=
  ok (.createBase .dma) = true ∧
    ∀ i < n, ok (.allocDma i) = true ∧ ok (.allocDmaRecord i) = true

/-- With all allocations `netana_create_dma` leaves everything held and alive. -/
theorem createDma_owned {n : ℕ} (hinfo : ok .allocDmainfo = true)
    (hdrv : ok (.createBase .drvInfo) = true) (hdma : dmaOk ok n) :
    let r := netanaCreateDma ok n .init
    r.2 = true ∧ Owned n r.1 ∧ r.1.baseDir .drvInfo = true ∧
      ∀ o, o.dmaBelow n = false → o ≠ .base .drvInfo → o ≠ .base .dma → r.1.created o = false := by
  intro r
  obtain ⟨hle, -, hstop, hst⟩ := createDmaRecords_spec ok (s := dmaDirs) rfl n
  have hall : (createDmaRecords ok n dmaDirs).2 = n := by
    by_contra hne
    have hlt := Nat.lt_of_le_of_ne hle hne
    exact absurd ((hdma.2 _ hlt).2.symm.trans (hstop hlt)) (by decide)
  have hbuffers : ¬ ∃ i < n, ok (.allocDma i) = false := by
    rintro ⟨i, hi, hfail⟩
    exact absurd ((hdma.2 i hi).1.symm.trans hfail) (by decide)
  have hbase : (createBase ok .drvInfo { RegState.init with
      dmainfo := some fun _ => false }).2 = true := (createBase_snd _ _).trans hdrv
  have hr : r = ((createDmaRecords ok n dmaDirs).1, true) := by
    simp only [r, netanaCreateDma, hinfo, hbase, dmaDirs_eq hdrv hdma.1, hbuffers, hall,
      Bool.true_eq_false, if_false, if_true]
  rw [hall] at hst
  rw [hr, hst]
  refine ⟨rfl, ⟨fun o => ?_, rfl, rfl, fun _ => ⟨rfl, rfl⟩, ⟨rfl, rfl, rfl⟩, rfl, rfl⟩, rfl,
    fun o hbelow hne hne' => ?_⟩
  · cases o with
    | base b => cases b <;> rfl
    | single d => rfl
    | groupSet g => rfl
    | groupEntry g i => rfl
    | dma i => simp [RegState.holds, SysfsObj.dmaBelow, dmaDirs, RegState.init]
  · change ((o == .base .drvInfo || o == .base .dma) || o.dmaBelow n) = false
    rw [beq_eq_false_iff_ne.mpr hne, beq_eq_false_iff_ne.mpr hne', hbelow]
    rfl

/-- Without one of them it leaves `driver_information` behind, or has released records twice. -/
theorem createDma_spoils {n : ℕ} (hinfo : ok .allocDmainfo = true)
    (hdrv : ok (.createBase .drvInfo) = true) (hdma : ¬ dmaOk ok n) :
    let r := netanaCreateDma ok n .init
    (r.2 = false ∧ r.1.created (.base .drvInfo) = true ∧ r.1.released (.base .drvInfo) = 0) ∨
      (r.2 = true ∧ 2 ≤ r.1.released (.dma 0)) := by
  intro r
  have hbase : (createBase ok .drvInfo { RegState.init with
      dmainfo := some fun _ => false }).2 = true := (createBase_snd _ _).trans hdrv
  by_cases hdir : ok (.createBase .dma) = true
  · by_cases hbuffers : ∃ i < n, ok (.allocDma i) = false
    · have hr : r = ((dmaDirs.kobjectPut (.base .dma)).freeDmainfo, false) := by
        simp only [r, netanaCreateDma, hinfo, hbase, dmaDirs_eq hdrv hdir, hbuffers,
          Bool.true_eq_false, if_false, if_true]
      rw [hr]
      exact Or.inl ⟨rfl, rfl, rfl⟩
    · obtain ⟨hle, hok, hstop, hst⟩ := createDmaRecords_spec ok (s := dmaDirs) rfl n
      have hless : (createDmaRecords ok n dmaDirs).2 ≠ n := by
        intro heq
        rw [heq] at hok
        push Not at hbuffers
        exact hdma ⟨hdir, fun i hi => ⟨Bool.eq_true_of_not_eq_false (hbuffers i hi), hok i hi⟩⟩
      generalize hq : createDmaRecords ok n dmaDirs = q at hle hok hstop hst hless
      have hr : r = (((dropDmaRecords q.2 q.1).kobjectPut (.base .dma)).freeDmainfo,
          decide (0 < q.2) && ok (.addDmaRecord (q.2 - 1))) := by
        simp only [r, netanaCreateDma, hinfo, hbase, dmaDirs_eq hdrv hdir, hbuffers, hq, hless,
          Bool.true_eq_false, if_false]
      have hheld : ∀ i < q.2, q.1.holds (.dma i) = true := by
        intro i hi
        rw [hst]
        simpa [RegState.holds] using hi
      obtain ⟨hcreated, hkept, -, htwice⟩ := dropDmaRecords_spec hheld
      have hput : ∀ (t : RegState) (o : SysfsObj), o ≠ .base .dma →
          (t.kobjectPut (.base .dma)).freeDmainfo.released o = t.released o := by
        intro t o ho
        simp [RegState.freeDmainfo, RegState.kobjectPut, RegState.kfree, RegState.use,
          SysfsObj.hasRelease, Function.update_of_ne ho]
      rw [hr]
      by_cases hret : (decide (0 < q.2) && ok (.addDmaRecord (q.2 - 1))) = true
      · right
        refine ⟨hret, ?_⟩
        rw [hput _ _ (by simp)]
        exact htwice (of_decide_eq_true (Bool.and_eq_true_iff.mp hret).1)
      · left
        refine ⟨Bool.eq_false_iff.mpr hret, ?_, ?_⟩
        · have hsame : ((dropDmaRecords q.2 q.1).kobjectPut (.base .dma)).freeDmainfo.created =
              (dropDmaRecords q.2 q.1).created := rfl
          rw [hsame, hcreated, hst]
          rfl
        · rw [hput _ _ (by simp), hkept, hst]
          rfl
  · have hfail : (createBase ok .dma (createBase ok .drvInfo { RegState.init with
        dmainfo := some fun _ => false }).1) = ((createBase ok .drvInfo { RegState.init with
        dmainfo := some fun _ => false }).1, false) := if_neg hdir
    have hr : r = ((createBase ok .drvInfo { RegState.init with
        dmainfo := some fun _ => false }).1.freeDmainfo, false) := by
      simp only [r, netanaCreateDma, hinfo, hbase, hfail, Bool.true_eq_false, if_false, if_true]
    have hpos : createBase ok .drvInfo { RegState.init with dmainfo := some fun _ => false } =
        (_, true) := if_pos hdrv
    rw [hr, hpos]
    exact Or.inl ⟨rfl, rfl, rfl⟩

/-- Where a registration can fail without leaving anything behind or releasing it twice: before
`driver_information` is there, or, with all of the memory for DMA, up to the allocations for
`device_info`. -/
def failsInTime (ok : SysfsStep → Bool) (n : ℕ) : Prop :=
  ok .allocDmainfo = false ∨ ok (.createBase .drvInfo) = false ∨
    (dmaOk ok n ∧ (earlyOk ok && ok (.allocType .devinfo) && ok (.allocSingle .devinfo)) = false)

/-- Every object is released exactly once if and only if the registration fails in time; a
registration that succeeds leaves something behind when it is undone. -/
theorem registration_balanced (ok : SysfsStep → Bool) (ulDMABufferCount ulGpioCnt ulPortCnt : ℕ) :
    (registration ok ulDMABufferCount ulGpioCnt ulPortCnt).Balanced ↔
      failsInTime ok ulDMABufferCount := by
  rw [registration_eq]
  by_cases hinfo : ok .allocDmainfo = false
  · have hdma : netanaCreateDma ok ulDMABufferCount .init = (.init, false) := if_pos hinfo
    rw [hdma]
    exact iff_of_true ⟨fun _ => rfl, rfl, rfl⟩ (Or.inl hinfo)
  have hinfo' := Bool.eq_true_of_not_eq_false hinfo
  by_cases hdrv : ok (.createBase .drvInfo) = false
  · have hdma : netanaCreateDma ok ulDMABufferCount .init =
        (RegState.freeDmainfo { RegState.init with dmainfo := some fun _ => false }, false) := by
      simp [netanaCreateDma, createBase, hinfo', hdrv]
    rw [hdma]
    exact iff_of_true ⟨fun _ => rfl, rfl, rfl⟩ (Or.inr (Or.inl hdrv))
  have hdrv' := Bool.eq_true_of_not_eq_false hdrv
  by_cases hdma : dmaOk ok ulDMABufferCount
  · obtain ⟨hret, howned, hdir, hnew⟩ := createDma_owned hinfo' hdrv' hdma
    rw [if_pos hret]
    generalize (netanaCreateDma ok ulDMABufferCount .init).1 = s at howned hdir hnew
    have hfresh : ∀ d : SingleDir, s.created (.single d) = false := fun d => hnew _ rfl (by simp)
      (by simp)
    obtain ⟨hearly, hearlyOk⟩ := earlySteps_owned ok howned (hfresh _)
      (hnew _ rfl (by simp) (by simp)) (hfresh _)
    by_cases hall : (earlyOk ok && ok (.allocType .devinfo) && ok (.allocSingle .devinfo)) = true
    · rw [Bool.and_eq_true, Bool.and_eq_true] at hall
      obtain ⟨⟨hok, htype⟩, halloc⟩ := hall
      apply iff_of_false
      · exact afterDma_not_balanced hdir (hearlyOk.trans hok) (howned.fresh (hfresh _)).1 htype
          halloc
      · rintro (h | h | ⟨-, h⟩)
        · exact hinfo h
        · exact hdrv h
        · simp [hok, htype, halloc] at h
    · rw [Bool.not_eq_true] at hall
      apply iff_of_true
      · -- the error path finds everything as it has been created
        have hrun : ∃ t, Owned ulDMABufferCount t ∧
            runSteps (sysfsSteps ok ulGpioCnt ulPortCnt) s = (t, false) := by
          refine ⟨(runSteps (earlySteps ok) s).1, hearly, ?_⟩
          rw [sysfsSteps_eq, runSteps_append]
          by_cases hok : (runSteps (earlySteps ok) s).2 = true
          · have hdev : nasysfsCreateDevInfo ok (runSteps (earlySteps ok) s).1 =
                ((runSteps (earlySteps ok) s).1, false) := by
              rw [← hearlyOk, hok, Bool.true_and] at hall
              unfold nasysfsCreateDevInfo
              by_cases htype : ok (.allocType .devinfo) = false
              · rw [if_pos htype]
              · rw [Bool.eq_true_of_not_eq_false htype, Bool.true_and] at hall
                rw [if_neg htype, if_pos hall]
            rw [if_pos hok, runSteps, hdev]
            rfl
          · rw [if_neg hok]
            exact Prod.ext rfl (Bool.eq_false_iff.mpr hok)
        obtain ⟨t, ht, hrun⟩ := hrun
        have hafter : afterDma ok ulDMABufferCount ulGpioCnt ulPortCnt s =
            netanaFreeDma ulDMABufferCount (cleanUpAll t) := by
          unfold afterDma netanaCreateSysfsentries
          simp only [if_pos hdir, hrun, Bool.false_eq_true, if_false]
        rw [hafter]
        exact ht.cleanUp
      · exact Or.inr (Or.inr ⟨hdma, hall⟩)
  · apply iff_of_false
    · rcases createDma_spoils hinfo' hdrv' hdma with ⟨hret, hcreated, hzero⟩ | ⟨hret, htwice⟩
      · rw [if_neg (by rw [hret]; exact Bool.false_ne_true)]
        intro hb
        have hone := hb.released (.base .drvInfo)
        rw [hzero, hcreated, if_pos rfl] at hone
        exact absurd hone (by decide)
      · rw [if_pos hret]
        exact (Grows.afterDma _ _ _ _).not_balanced_of_twice htwice
    · rintro (h | h | ⟨h, -⟩)
      · exact hinfo h
      · exact hdrv h
      · exact hdma h

/-- A registration in which nothing fails, and its un-registration: the first entry of each group
is left, as the loop of `cleanup_objset` ends before it. -/
theorem registration_leaves_entries :
    ¬ ∀ (ok : SysfsStep → Bool) (ulDMABufferCount ulGpioCnt ulPortCnt : ℕ),
      (registration ok ulDMABufferCount ulGpioCnt ulPortCnt).Balanced := by
  intro h
  have hport : (registration (fun _ => true) 2 4 4).created (.groupEntry .port 0) = true ∧
      (registration (fun _ => true) 2 4 4).released (.groupEntry .port 0) = 0 := by
    constructor <;> rfl
  have hone := (h (fun _ => true) 2 4 4).released (.groupEntry .port 0)
  rw [hport.1, hport.2, if_pos rfl] at hone
  exact absurd hone (by decide)

end NetanaDriver
