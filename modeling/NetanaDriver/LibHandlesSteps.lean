import NetanaDriver.LibHandlesInv

/-! Every statement of the library, every end of a process and everything that the driver does keeps
the invariant of the handles. -/
namespace NetanaDriver

open Ownership SlotTable StepRuns

section Steps

variable {π ι : Type*} {s : LibWorld π ι} {t : ι} {th : LibThread π} [DecidableEq ι]
  [DecidableEq π]

theorem closeFd_eq {fd : ℕ} {f : FileTable π} (hf : s.files.close (th.process, fd) = some f)
    {next : LibWorld π ι → LibWorld π ι} :
    s.closeFd t th fd next = next { s with files := f } := by
  unfold LibWorld.closeFd
  rw [hf]

omit [DecidableEq ι] in
/-- An instance gets or loses its log file; it gets none while it is being closed. -/
theorem LibInv.logs (h : LibInv s) {x : π × ℕ} {d : LibDevice} (hd : s.memory x = some d)
    {fLogFile : Bool} (hlog : fLogFile = true → s.unused x.1 LibPc.closes x.2) :
    LibInv { s with
      memory := Function.update s.memory x (some { d with fLogFile := fLogFile }) } where
  files := by
    apply h.files.congr
    intro o
    cases o with
    | thread u => rfl
    | device y =>
      by_cases hy : y = x
      · rw [hy]
        change (Function.update s.memory x _ x).bind _ = (s.memory x).bind _
        rw [Function.update_self, hd]
        rfl
      · change (Function.update s.memory x _ y).bind _ = _
        rw [Function.update_of_ne hy]
        rfl
    | ended y => rfl
  instances := by
    apply h.instances.congr
    · intro o
      cases o <;> rfl
    · intro y
      by_cases hy : y = x
      · simp [hy, hd]
      · simp [hy]
  lists := h.lists
  here := by
    intro u th hu
    apply (h.here u th hu).keeps (fun _ _ hp => hp)
    intro p e hp he
    by_cases hx : (th.process, p) = x
    · -- a thread behind `close_log_file` relies on it that there is no log file
      obtain rfl := hx
      obtain rfl : d = e := Option.some.inj (hd.symm.trans he)
      refine ⟨_, Function.update_self _ _ _, rfl, ?_⟩
      intro hcloses _
      cases fLogFile with
      | false => rfl
      | true => exact absurd hcloses (hlog rfl u th hu rfl)
    · exact ⟨e, (Function.update_of_ne hx _ _).trans he, rfl, fun _ => id⟩
  apart := h.apart
  closing := by
    intro y e he hclosed
    change Function.update s.memory x _ y = some e at he
    by_cases hy : y = x
    · rw [hy, Function.update_self] at he
      cases he
      exact hy ▸ h.closing x d hd hclosed
    · rw [Function.update_of_ne hy] at he
      exact h.closing y e he hclosed
  ended := by
    intro process hexit
    obtain ⟨hthreads, hlist, hmemory⟩ := h.ended process hexit
    refine ⟨hthreads, hlist, ?_⟩
    intro p
    have hx : (process, p) ≠ x := by
      rintro rfl
      rw [hmemory p] at hd
      cases hd
    exact (Function.update_of_ne hx _ _).trans (hmemory p)
  calm := h.calm
  sound := h.sound

/-- `open` of a device, by a thread outside of the library. -/
theorem LibInv.openDevice (h : LibInv s) {process : π} {ulFilter : BitVec 32} {iDeviceNum fd : ℕ}
    (hidle : s.threads t = none) (hrunning : s.exiting process = false)
    (hfree : s.files.fds (process, fd) = none) {r : FileTable π × Bool}
    (hr : s.files.openFile ulFilter iDeviceNum (process, fd) = r) :
    LibInv (if r.2 then ({ s with files := r.1 } : LibWorld π ι).goes t
      ⟨process, .flock fd iDeviceNum⟩ (.flock fd iDeviceNum) else { s with files := r.1 }) := by
  cases hopen : r.2 with
  | false =>
    -- there is no descriptor, but `netana_open` may have left something on the device
    rw [if_neg Bool.false_ne_true]
    apply h.withFiles
    · rw [← hr]
      exact h.files.refused (hr ▸ hopen)
    · rw [← hr] at hopen ⊢
      unfold FileTable.openFile at hopen ⊢
      dsimp only at hopen ⊢
      split_ifs with hret
      · rw [if_pos hret] at hopen
        cases hopen
      · rfl
  | true =>
    rw [if_pos rfl]
    apply h.moves hrunning
    · -- the descriptor is the new thread's
      rw [← hr]
      apply h.files.opens (o := .thread t) hfree
      · change (s.threads t).bind _ = none
        rw [hidle]
        rfl
      · change (Function.update s.threads t _ t).bind _ = _
        rw [Function.update_self]
        rfl
      · intro o ho
        apply LibWorld.descriptors_same
        · rintro u rfl
          apply Function.update_of_ne
          rintro rfl
          exact ho rfl
        · intro x _
          rfl
        · intro x _
          refine ⟨rfl, fun hexit => ?_⟩
          have hx : x ≠ (process, fd) := by
            rintro rfl
            rw [hrunning] at hexit
            cases hexit
          change (s.files.openFile ulFilter iDeviceNum (process, fd)).1.fds x = _
          unfold FileTable.openFile
          dsimp only
          split_ifs
          · exact Function.update_of_ne hx _ _
          · rfl
      · rw [hr]
        exact hopen
    · rw [hidle]
      rfl
    · intro n hn
      cases hn
      exact ⟨rfl, trivial⟩
    · apply h.apart.update
      intro n hn u th hu hth
      cases hn
      refine ⟨?_, ?_⟩
      · intro _ p hp
        cases hp
      · intro _ p _ hp
        cases hp
    · simp [hidle]

/-- `flock` finds the node free. -/
theorem LibInv.flock (h : LibInv s) {process : π} {fd iDeviceNum : ℕ}
    (hth : s.threads t = some ⟨process, .flock fd iDeviceNum⟩) (c : LibChoice) :
    ∃ v, s.statement t ⟨process, .flock fd iDeviceNum⟩ c = some v ∧ LibInv v := by
  have hrunning := h.running hth
  have hheld := descriptors_thread hth rfl
  obtain ⟨p, hp, hknown⟩ := h.files.shows _ _ hheld
  -- whoever has locked the node would have a file of its own, which the driver refuses
  have hlock : s.files.flocks p = none := (hknown iDeviceNum false rfl).2
  have hpasses {pc : LibPc} (huses : pc.uses = none) (hcloses : pc.closes = none) :
      Apart (Function.update s.threads t (some ⟨process, pc⟩)) := by
    apply h.apart.moves hth
    · intro q hq
      rw [huses] at hq
      cases hq
    · intro q hq
      rw [hcloses] at hq
      cases hq
  have hremove (q : π) (p : ℕ) : s.threads t ≠ some ⟨q, .remove p⟩ := by simp [hth]
  unfold LibWorld.statement
  dsimp only at hp ⊢
  rw [hp]
  dsimp only
  rw [hlock, Option.isSome_none, if_neg Bool.false_ne_true]
  cases hlocked : c.fLocked with
  | true =>
    refine ⟨_, if_pos rfl, ?_⟩
    apply h.moves hrunning
    · apply h.files.locked hheld hp
      · change (Function.update s.threads t _ t).bind _ = _
        rw [Function.update_self]
        rfl
      · exact descriptors_others (x := (process, fd)) hrunning fun _ _ => rfl
    · rw [hth]
      rfl
    · intro n hn
      cases hn
      exact ⟨rfl, trivial⟩
    · exact hpasses rfl rfl
    · exact hremove
  | false =>
    refine ⟨_, if_neg Bool.false_ne_true, ?_⟩
    apply h.goes hrunning
    · rw [hth]
      rfl
    · rw [hth]
      rfl
    · intro n hn
      cases hn
      exact ⟨rfl, trivial⟩
    · exact hpasses rfl rfl
    · exact hremove

/-- The thread gives its descriptor back. -/
theorem LibInv.closeUnlocked (h : LibInv s) {process : π} {fd iDeviceNum : ℕ}
    (hth : s.threads t = some ⟨process, .closeUnlocked fd iDeviceNum⟩) (c : LibChoice) :
    ∃ v, s.statement t ⟨process, .closeUnlocked fd iDeviceNum⟩ c = some v ∧ LibInv v := by
  have hrunning := h.running hth
  have hheld := descriptors_thread hth rfl
  obtain ⟨f, hf, hgone, hfds, hinv⟩ := h.files.closes hheld
  refine ⟨_, congrArg some (closeFd_eq hf), ?_⟩
  apply h.moves hrunning
  · apply hinv
    · change (Function.update s.threads t none t).bind _ = none
      rw [Function.update_self]
      rfl
    · exact descriptors_others (x := (process, fd)) hrunning hfds
  · rw [hth]
    rfl
  · intro n hn
    cases hn
  · apply h.apart.update
    intro n hn
    cases hn
  · simp [hth]

/-- The instance gets the descriptor of the thread. -/
theorem LibInv.malloc (h : LibInv s) {process : π} {fd iDeviceNum p : ℕ}
    (hth : s.threads t = some ⟨process, .malloc fd iDeviceNum⟩) (hp : p ≠ 0)
    (hfree : s.memory (process, p) = none) :
    LibInv { s with
      memory := Function.update s.memory (process, p) (some ⟨fd, iDeviceNum, false, false⟩)
      threads := Function.update s.threads t (some ⟨process, .insertTail p⟩) } where
  files := by
    have hempty : s.descriptors (.device (process, p)) = none := by
      change (s.memory (process, p)).bind _ = none
      rw [hfree]
      rfl
    apply h.files.passes (descriptors_thread hth rfl) hempty
    · change (Function.update s.threads t _ t).bind _ = none
      rw [Function.update_self]
      rfl
    · change (Function.update s.memory (process, p) _ (process, p)).bind _ = _
      rw [Function.update_self]
      rfl
    · intro o hthread hdevice
      apply LibWorld.descriptors_same
      · rintro u rfl
        apply Function.update_of_ne
        rintro rfl
        exact hthread rfl
      · rintro x rfl
        apply Function.update_of_ne
        rintro rfl
        exact hdevice rfl
      · intro x _
        exact ⟨rfl, fun _ => rfl⟩
  instances := by
    apply h.instances.acquire (o := .thread t) (r := (process, p))
    · change (s.threads t).bind _ = none
      rw [hth]
      rfl
    · rw [hfree]
      exact Bool.false_ne_true
    · change (Function.update s.threads t _ t).bind _ = _
      rw [Function.update_self]
      rfl
    · intro o ho
      cases o with
      | thread u =>
        have hu : u ≠ t := fun hu => ho (hu ▸ rfl)
        change (Function.update s.threads t _ u).bind _ = _
        rw [Function.update_of_ne hu]
        rfl
      | listed x => rfl
    · intro x
      by_cases hx : x = (process, p)
      · simp [hx]
      · simp [hx]
  lists := h.lists
  here := by
    intro u th hu
    rcases threads_cases hu with ⟨-, hn⟩ | ⟨-, hu⟩
    · cases hn
      exact ⟨hp, _, Function.update_self _ _ _, rfl⟩
    · -- the other threads work on memory that is not free
      apply (h.here u th hu).same (fun _ _ hq => hq)
      intro q hq
      apply Function.update_of_ne
      intro hx
      obtain ⟨d, hd⟩ := h.device hu hq
      rw [hx, hfree] at hd
      cases hd
  apart := by
    apply h.apart.moves hth
    · intro q hq
      cases hq
    · intro q hq
      cases hq
  closing := by
    intro x d hd hclosed
    change Function.update s.memory (process, p) _ x = some d at hd
    by_cases hx : x = (process, p)
    · rw [hx, Function.update_self] at hd
      cases hd
      cases hclosed
    · rw [Function.update_of_ne hx] at hd
      exact h.closing_step rfl (by simp [hth]) hd hclosed
  ended := by
    apply h.ended_step (h.running hth)
    · intro n hn
      cases hn
      rfl
    · intro q _
      rfl
    · intro q r hq
      apply Function.update_of_ne
      intro hx
      exact hq (congrArg Prod.fst hx)
  calm := h.calm
  sound := h.sound

/-- The list gets the instance of the thread. -/
theorem LibInv.insertTail (h : LibInv s) {process : π} {p : ℕ}
    (hth : s.threads t = some ⟨process, .insertTail p⟩) :
    LibInv { s with
      gTCardList := Function.update s.gTCardList process (s.gTCardList process ++ [p])
      threads := Function.update s.threads t (some ⟨process, .createLogFile p⟩) } where
  files := by
    apply h.files.congr
    intro o
    cases o with
    | thread u =>
      apply threads_bind
      rw [hth]
      rfl
    | device x => rfl
    | ended x => rfl
  instances := by
    have hheld : s.instances (.thread t) = some (process, p) := by
      change (s.threads t).bind _ = _
      rw [hth]
      rfl
    have hnew : p ∉ s.gTCardList process := h.unlisted hth rfl
    have hempty : s.instances (.listed (process, p)) = none := if_neg hnew
    -- the thread hands its instance over to the list
    apply h.instances.pass hheld hempty
    · change (Function.update s.threads t _ t).bind _ = none
      rw [Function.update_self]
      rfl
    · apply if_pos
      change p ∈ Function.update s.gTCardList process _ process
      rw [Function.update_self]
      simp
    · intro o hthread hlisted
      cases o with
      | thread u =>
        have hu : u ≠ t := fun hu => hthread (hu ▸ rfl)
        change (Function.update s.threads t _ u).bind _ = _
        rw [Function.update_of_ne hu]
        rfl
      | listed x =>
        have hx : x ≠ (process, p) := fun hx => hlisted (hx ▸ rfl)
        change (if x.2 ∈ Function.update s.gTCardList process _ x.1 then _ else _) =
          if x.2 ∈ s.gTCardList x.1 then _ else _
        by_cases hprocess : x.1 = process
        · have hp : x.2 ≠ p := fun hp => hx (Prod.ext hprocess hp)
          simp [hprocess, hp]
        · rw [Function.update_of_ne hprocess]
    · intro x
      exact Iff.rfl
  lists := by
    have hnew : p ∉ s.gTCardList process := h.unlisted hth rfl
    obtain ⟨hp, -⟩ := h.here t _ hth
    obtain ⟨hnodup, hnull⟩ := h.lists process
    apply (Function.forall_update_iff s.gTCardList fun _ l => l.Nodup ∧ 0 ∉ l).mpr
    refine ⟨⟨?_, by simp [hnull, hp.symm]⟩, fun q _ => h.lists q⟩
    have hconcat := List.Nodup.concat hnew hnodup
    rwa [List.concat_eq_append] at hconcat
  here := by
    intro u th hu
    have hmore (q : π) (r : ℕ) (hr : r ∈ s.gTCardList q) :
        r ∈ Function.update s.gTCardList process (s.gTCardList process ++ [p]) q := by
      by_cases hq : q = process
      · rw [hq, Function.update_self]
        exact List.mem_append_left _ (hq ▸ hr)
      · rw [Function.update_of_ne hq]
        exact hr
    rcases threads_cases hu with ⟨-, hn⟩ | ⟨-, hu⟩
    · cases hn
      obtain ⟨-, hd⟩ := h.here t _ hth
      refine ⟨?_, hd⟩
      change p ∈ Function.update s.gTCardList process _ process
      rw [Function.update_self]
      simp
    · exact (h.here u th hu).same (fun q _ hq => hmore _ q hq) fun _ _ => rfl
  apart := by
    -- nobody has been at the new handle
    have hnew : p ∉ s.gTCardList process := h.unlisted hth rfl
    apply h.apart.update
    intro n hn u th hu hth'
    cases hn
    refine ⟨?_, ?_⟩
    · intro _ q hq
      cases hq
    · intro hprocess q hq hp
      cases hp
      obtain ⟨hlisted, -⟩ := h.listed hth' (LibPc.closes_uses hq)
      have hsame : th.process = process := hprocess
      rw [hsame] at hlisted
      exact hnew hlisted
  closing := fun _ _ hd hclosed => h.closing_step rfl (by simp [hth]) hd hclosed
  ended := by
    apply h.ended_step (h.running hth)
    · intro n hn
      cases hn
      rfl
    · intro q hq
      exact Function.update_of_ne hq _ _
    · intro q r _
      rfl
  calm := h.calm
  sound := h.sound

omit [DecidableEq ι] [DecidableEq π] in
/-- Nobody else works on an instance that is being closed. -/
theorem LibInv.elsewhere (h : LibInv s) {process : π} {pc : LibPc} {p : ℕ}
    (hth : s.threads t = some ⟨process, pc⟩) (hcloses : pc.closes = some p) {u : ι}
    {th' : LibThread π} (hu : u ≠ t) (hth' : s.threads u = some th') {q : ℕ}
    (hq : th'.pc.On q) : (th'.process, q) ≠ (process, p) := by
  intro hx
  have hprocess : process = th'.process := (congrArg Prod.fst hx).symm
  obtain rfl : q = p := congrArg Prod.snd hx
  rcases hq with huses | hallocated
  · exact h.apart t u _ th' hu.symm hth hth' hprocess q hcloses huses
  · -- what is being closed is on the list, and what the other one has allocated is not
    have hlisted : q ∈ s.gTCardList process := (h.listed hth (LibPc.closes_uses hcloses)).1
    rw [hprocess] at hlisted
    exact h.unlisted hth' hallocated hlisted

/-- `netana_close_device` closes the descriptor of the instance. -/
theorem LibInv.closeFile (h : LibInv s) {process : π} {p : ℕ} {d : LibDevice}
    (hth : s.threads t = some ⟨process, .closeFile p⟩) (hd : s.memory (process, p) = some d) :
    ∃ f, s.files.close (process, d.fdDevice) = some f ∧
      LibInv { s with
        files := f
        memory := Function.update s.memory (process, p) (some { d with fClosed := true })
        threads := Function.update s.threads t (some ⟨process, .remove p⟩) } := by
  have hrunning : s.exiting process = false := h.running hth
  obtain ⟨hlisted, d', hd', hclosed, hlog⟩ := h.here t _ hth
  obtain rfl : d' = d := Option.some.inj (hd'.symm.trans hd)
  obtain ⟨f, hf, -, hfds, hinv⟩ := h.files.closes (descriptors_device hd hclosed)
  refine ⟨f, hf, ?_⟩
  exact
    { files := by
        apply hinv
        · change (Function.update s.memory (process, p) _ (process, p)).bind _ = none
          rw [Function.update_self]
          rfl
        · intro o ho
          cases o with
          | thread u =>
            apply threads_bind
            rw [hth]
            rfl
          | device x =>
            have hx : x ≠ (process, p) := fun hx => ho (hx ▸ rfl)
            change (Function.update s.memory (process, p) _ x).bind _ = _
            rw [Function.update_of_ne hx]
            rfl
          | ended x =>
            apply LibWorld.descriptors_same
            · intro u hu
              cases hu
            · intro y hy
              cases hy
            · intro y _
              refine ⟨rfl, fun hexit => hfds y ?_⟩
              rintro rfl
              rw [hrunning] at hexit
              cases hexit
      instances := by
        apply h.instances.congr
        · intro o
          cases o with
          | thread u =>
            apply threads_bind
            rw [hth]
            rfl
          | listed x => rfl
        · intro x
          by_cases hx : x = (process, p)
          · simp [hx, hd]
          · simp [hx]
      lists := h.lists
      here := by
        intro u th hu
        rcases threads_cases hu with ⟨-, hn⟩ | ⟨hut, hu⟩
        · -- the thread has seen before that there is no log file any more
          cases hn
          exact ⟨hlisted, _, Function.update_self _ _ _, rfl, hlog⟩
        · apply (h.here u th hu).same (fun _ _ hq => hq)
          intro q hq
          exact Function.update_of_ne (h.elsewhere hth rfl hut hu hq) _ _
      apart := by
        apply h.apart.moves hth
        · intro q hq
          exact hq
        · intro q hq
          exact hq
      closing := by
        intro x e he hfreed
        change Function.update s.memory (process, p) _ x = some e at he
        by_cases hx : x = (process, p)
        · rw [hx]
          exact ⟨t, Function.update_self _ _ _⟩
        · rw [Function.update_of_ne hx] at he
          exact h.closing_step rfl (by simp [hth]) he hfreed
      ended := by
        apply h.ended_step hrunning
        · intro n hn
          cases hn
          rfl
        · intro q _
          rfl
        · intro q r hq
          apply Function.update_of_ne
          intro hx
          exact hq (congrArg Prod.fst hx)
      calm := h.calm
      sound := h.sound }

/-- The instance is taken off the list and freed. -/
theorem LibInv.remove (h : LibInv s) {process : π} {p : ℕ}
    (hth : s.threads t = some ⟨process, .remove p⟩) :
    LibInv { s with
      gTCardList := Function.update s.gTCardList process ((s.gTCardList process).erase p)
      memory := Function.update s.memory (process, p) none
      threads := Function.update s.threads t none } := by
  have hrunning : s.exiting process = false := h.running hth
  obtain ⟨hlisted, d, hd, hclosed, -⟩ := h.here t _ hth
  obtain ⟨hnodup, hnull⟩ := h.lists process
  have hlists (q : π) (r : ℕ) :
      r ∈ Function.update s.gTCardList process ((s.gTCardList process).erase p) q ↔
        (q, r) ≠ (process, p) ∧ r ∈ s.gTCardList q := by
    by_cases hq : q = process
    · rw [hq, Function.update_self, hnodup.mem_erase_iff]
      simp
    · rw [Function.update_of_ne hq]
      simp [hq]
  exact
    { files := by
        apply h.files.congr
        intro o
        cases o with
        | thread u =>
          apply threads_bind
          rw [hth]
          rfl
        | device x =>
          change (Function.update s.memory (process, p) _ x).bind _ = _
          by_cases hx : x = (process, p)
          · -- its descriptor has been closed before
            rw [hx, Function.update_self]
            change none = (s.memory (process, p)).bind _
            rw [hd]
            exact (if_pos hclosed).symm
          · rw [Function.update_of_ne hx]
            rfl
        | ended x => rfl
      instances := by
        have hheld : s.instances (.listed (process, p)) = some (process, p) := if_pos hlisted
        apply h.instances.release hheld
        · apply if_neg
          intro hp
          exact ((hlists process p).mp hp).1 rfl
        · intro o ho
          cases o with
          | thread u =>
            apply threads_bind
            rw [hth]
            rfl
          | listed x =>
            have hx : x ≠ (process, p) := fun hx => ho (hx ▸ rfl)
            apply if_congr _ rfl rfl
            rw [hlists]
            exact and_iff_right hx
        · intro x
          by_cases hx : x = (process, p)
          · simp [hx]
          · simp [hx]
      lists := by
        apply (Function.forall_update_iff s.gTCardList fun _ l => l.Nodup ∧ 0 ∉ l).mpr
        refine ⟨⟨hnodup.erase p, fun hzero => hnull ?_⟩, fun q _ => h.lists q⟩
        exact List.mem_of_mem_erase hzero
      here := by
        intro u th hu
        rcases threads_cases hu with ⟨-, hn⟩ | ⟨hut, hu⟩
        · cases hn
        · apply (h.here u th hu).same
          · intro q hq hbefore
            exact (hlists _ q).mpr ⟨h.elsewhere hth rfl hut hu (Or.inl hq), hbefore⟩
          · intro q hq
            exact Function.update_of_ne (h.elsewhere hth rfl hut hu hq) _ _
      apart := by
        apply h.apart.update
        intro n hn
        cases hn
      closing := by
        intro x e he hfreed
        change Function.update s.memory (process, p) _ x = some e at he
        have hx : x ≠ (process, p) := by
          rintro rfl
          rw [Function.update_self] at he
          cases he
        rw [Function.update_of_ne hx] at he
        obtain ⟨u, hu⟩ := h.closing x e he hfreed
        -- the thread has freed its own instance only
        have hut : u ≠ t := by
          rintro rfl
          rw [hth] at hu
          cases hu
          exact hx rfl
        exact ⟨u, (Function.update_of_ne hut _ _).trans hu⟩
      ended := by
        apply h.ended_step hrunning
        · intro n hn
          cases hn
        · intro q hq
          exact Function.update_of_ne hq _ _
        · intro q r hq
          apply Function.update_of_ne
          intro hx
          exact hq (congrArg Prod.fst hx)
      calm := h.calm
      sound := h.sound }

omit [DecidableEq ι] in
/-- The kernel closes a file of a process that has ended. -/
theorem LibInv.exitFile (h : LibInv s) {process : π} {fd : ℕ} {f : FileTable π}
    (hexit : s.exiting process = true) (hf : s.files.close (process, fd) = some f) :
    LibInv { s with files := f } := by
  obtain ⟨p, hp, -⟩ := Option.map_eq_some_iff.mp hf
  have hheld : s.descriptors (.ended (process, fd)) = some ⟨(process, fd), none⟩ := by
    apply if_pos
    refine ⟨hexit, ?_⟩
    rw [hp]
    rfl
  obtain ⟨g, hg, hgone, hfds, hinv⟩ := h.files.closes hheld
  obtain rfl : g = f := Option.some.inj (hg.symm.trans hf)
  exact
    { files := by
        apply hinv
        · apply if_neg
          rintro ⟨-, hopen⟩
          have hclosed : g.fds (process, fd) = none := hgone
          change (g.fds (process, fd)).isSome = true at hopen
          rw [hclosed] at hopen
          cases hopen
        · intro o ho
          apply LibWorld.descriptors_same
          · intro u _
            rfl
          · intro x _
            rfl
          · rintro x rfl
            refine ⟨rfl, fun _ => hfds x ?_⟩
            rintro rfl
            exact ho rfl
      instances := by
        apply h.instances.congr
        · intro o
          cases o <;> rfl
        · intro x
          exact Iff.rfl
      lists := h.lists
      here := h.here
      apart := h.apart
      closing := h.closing
      ended := h.ended
      calm := h.calm
      sound := h.sound }

omit [DecidableEq ι] in
/-- The owners of descriptors after the end of a process. -/
theorem exit_descriptors {process : π} (hrunning : s.exiting process = false) (o : FileOwner π ι)
    (d : Descriptor π) :
    (s.exitProcess process).descriptors o = some d ↔
      (d.slot.1 ≠ process ∧ s.descriptors o = some d) ∨
        d.slot.1 = process ∧ o = .ended d.slot ∧ (s.files.fds d.slot).isSome = true ∧
          d.known = none := by
  cases o with
  | thread u =>
    change ((s.threads u).filter _).bind _ = _ ↔ (_ ∧ (s.threads u).bind _ = _) ∨ _
    cases s.threads u with
    | none => simp
    | some n =>
      by_cases hn : n.process = process
      · have hnot : d.slot.1 ≠ process → n.pc.descriptor n.process ≠ some d :=
          fun hd hsome => hd ((LibPc.descriptor_process hsome).trans hn)
        simpa [Option.filter_some, hn] using hnot
      · have hprocess (hsome : n.pc.descriptor n.process = some d) : d.slot.1 ≠ process :=
          fun hd => hn ((LibPc.descriptor_process hsome).symm.trans hd)
        simpa [Option.filter_some, hn] using hprocess
  | device x =>
    change (if x.1 = process then none else s.memory x).bind _ = _ ↔
      (_ ∧ (s.memory x).bind _ = _) ∨ _
    cases s.memory x with
    | none => simp
    | some e =>
      by_cases hx : x.1 = process
      · have hnot : d.slot.1 ≠ process → e.descriptor x.1 ≠ some d :=
          fun hd hsome => hd ((LibDevice.descriptor_process hsome).trans hx)
        simpa [hx] using hnot
      · have hprocess (hsome : e.descriptor x.1 = some d) : d.slot.1 ≠ process :=
          fun hd => hx ((LibDevice.descriptor_process hsome).symm.trans hd)
        simpa [hx] using hprocess
  | ended x =>
    have hexiting : (s.exitProcess process).exiting x.1 = true ↔
        x.1 = process ∨ s.exiting x.1 = true := by
      change Function.update s.exiting process true x.1 = true ↔ _
      by_cases hx : x.1 = process
      · simp [hx]
      · simp [hx]
    have hfds : (s.exitProcess process).files.fds x = s.files.fds x := rfl
    rw [descriptors_ended, descriptors_ended, hexiting, hfds]
    constructor
    · rintro ⟨hx | hexit, hopen, rfl⟩
      · exact Or.inr ⟨hx, rfl, hopen, rfl⟩
      · refine Or.inl ⟨?_, hexit, hopen, rfl⟩
        rintro hx
        rw [hx, hrunning] at hexit
        cases hexit
    · rintro (⟨-, hexit, hopen, hd⟩ | ⟨hslot, hd, hopen, hknown⟩)
      · exact ⟨Or.inr hexit, hopen, hd⟩
      · obtain ⟨slot, known⟩ := d
        cases hd
        cases hknown
        exact ⟨Or.inl hslot, hopen, rfl⟩

omit [DecidableEq ι] in
/-- The owners of instances after the end of a process. -/
theorem exit_instances {process : π} (o : InstanceOwner π ι) (x : π × ℕ) :
    (s.exitProcess process).instances o = some x ↔ x.1 ≠ process ∧ s.instances o = some x := by
  cases o with
  | thread u =>
    change ((s.threads u).filter _).bind _ = _ ↔ _ ∧ (s.threads u).bind _ = _
    cases s.threads u with
    | none => simp
    | some n =>
      have hprocess (hsome : n.pc.allocated.map (n.process, ·) = some x) : x.1 = n.process := by
        obtain ⟨p, -, rfl⟩ := Option.map_eq_some_iff.mp hsome
        rfl
      by_cases hn : n.process = process
      · have hnot : x.1 ≠ process → n.pc.allocated.map (n.process, ·) ≠ some x :=
          fun hx hsome => hx ((hprocess hsome).trans hn)
        rw [Option.filter_some, if_neg (by simpa using hn)]
        constructor
        · intro hx
          cases hx
        · rintro ⟨hx, hsome⟩
          exact absurd hsome (hnot hx)
      · rw [Option.filter_some, if_pos (by simpa using hn)]
        exact ⟨fun hsome => ⟨fun hx => hn ((hprocess hsome).symm.trans hx), hsome⟩, And.right⟩
  | listed y =>
    change (if y.2 ∈ Function.update s.gTCardList process [] y.1 then some y else none) = _ ↔
      _ ∧ (if y.2 ∈ s.gTCardList y.1 then some y else none) = _
    by_cases hy : y.1 = process
    · rw [hy, Function.update_self, if_neg List.not_mem_nil]
      constructor
      · intro hx
        cases hx
      · rintro ⟨hx, hsome⟩
        split_ifs at hsome
        cases hsome
        exact absurd hy hx
    · rw [Function.update_of_ne hy]
      refine ⟨fun hsome => ⟨?_, hsome⟩, And.right⟩
      split_ifs at hsome
      cases hsome
      exact hy

omit [DecidableEq ι] in
/-- A process ends. -/
theorem LibInv.exit (h : LibInv s) {process : π} (hrunning : s.exiting process = false) :
    LibInv (s.exitProcess process) := by
  have hmemory (x : π × ℕ) (d : LibDevice) : (s.exitProcess process).memory x = some d ↔
      x.1 ≠ process ∧ s.memory x = some d := by
    change (if x.1 = process then none else s.memory x) = some d ↔ _
    by_cases hx : x.1 = process
    · simp [hx]
    · simp [hx]
  have hthreads (u : ι) (n : LibThread π) : (s.exitProcess process).threads u = some n ↔
      n.process ≠ process ∧ s.threads u = some n := by
    change (s.threads u).filter _ = some n ↔ _
    rw [Option.filter_eq_some_iff, decide_eq_true_eq]
    exact and_comm
  have hslots (o : FileOwner π ι) (x : π × ℕ) :
      ((s.exitProcess process).descriptors o).map Descriptor.slot = some x ↔
        (x.1 ≠ process ∧ (s.descriptors o).map Descriptor.slot = some x) ∨
          x.1 = process ∧ o = .ended x ∧ (s.files.fds x).isSome = true := by
    simp only [Option.map_eq_some_iff, exit_descriptors hrunning]
    constructor
    · rintro ⟨d, ⟨hd, hheld⟩ | ⟨hd, ho, hopen, -⟩, rfl⟩
      · exact Or.inl ⟨hd, d, hheld, rfl⟩
      · exact Or.inr ⟨hd, ho, hopen⟩
    · rintro (⟨hx, d, hheld, rfl⟩ | ⟨hx, ho, hopen⟩)
      · exact ⟨d, Or.inl ⟨hx, hheld⟩, rfl⟩
      · exact ⟨⟨x, none⟩, Or.inr ⟨hx, ho, hopen, rfl⟩, rfl⟩
  have hlists (q : π) (hq : q ≠ process) :
      (s.exitProcess process).gTCardList q = s.gTCardList q := Function.update_of_ne hq _ _
  have hgone : (s.exitProcess process).gTCardList process = [] := Function.update_self _ _ _
  exact
    { files := by
        refine ⟨h.files.registry, h.files.files, h.files.opened, ⟨?_, ?_⟩, ?_, h.files.locks⟩
        · intro x
          change (s.files.fds x).isSome = true ↔ _
          simp only [hslots, exists_or, exists_and_left, exists_eq_left]
          rw [h.files.held.live_iff]
          by_cases hx : x.1 = process
          · simp [hx]
          · simp [hx]
        · -- what the process has left belongs to the kernel, and the rest to whom it did before
          intro o o' x ho ho'
          rcases (hslots o x).mp ho with ⟨hx, hd⟩ | ⟨hx, rfl, -⟩ <;>
            rcases (hslots o' x).mp ho' with ⟨hx', hd'⟩ | ⟨hx', rfl, -⟩
          · exact h.files.held.unique o o' x hd hd'
          · exact absurd hx' hx
          · exact absurd hx hx'
          · rfl
        · intro o d ho
          rcases (exit_descriptors hrunning o d).mp ho with ⟨-, hd⟩ | ⟨-, -, hopen, hknown⟩
          · exact h.files.shows o d hd
          · obtain ⟨p, hp⟩ := Option.isSome_iff_exists.mp hopen
            refine ⟨p, hp, ?_⟩
            intro n l hn
            rw [hknown] at hn
            cases hn
      instances := by
        constructor
        · intro x
          rw [Option.isSome_iff_exists]
          simp only [hmemory, exit_instances, exists_and_left]
          rw [← Option.isSome_iff_exists, h.instances.live_iff]
        · intro o o' x ho ho'
          exact h.instances.unique o o' x ((exit_instances o x).mp ho).2
            ((exit_instances o' x).mp ho').2
      lists := by
        intro q
        by_cases hq : q = process
        · rw [hq, hgone]
          simp
        · rw [hlists q hq]
          exact h.lists q
      here := by
        intro u n hu
        obtain ⟨hn, hu⟩ := (hthreads u n).mp hu
        apply (h.here u n hu).same
        · intro p _ hp
          rw [hlists _ hn]
          exact hp
        · intro p _
          exact if_neg hn
      apart := by
        intro u v n n' huv hu hv
        exact h.apart u v n n' huv ((hthreads u n).mp hu).2 ((hthreads v n').mp hv).2
      closing := by
        intro x d hd hclosed
        obtain ⟨hx, hd⟩ := (hmemory x d).mp hd
        obtain ⟨u, hu⟩ := h.closing x d hd hclosed
        exact ⟨u, (hthreads u _).mpr ⟨hx, hu⟩⟩
      ended := by
        intro q hexit
        by_cases hq : q = process
        · rw [hq]
          refine ⟨fun u n hu => ((hthreads u n).mp hu).1, hgone, fun p => if_pos rfl⟩
        · change Function.update s.exiting process true q = true at hexit
          rw [Function.update_of_ne hq] at hexit
          obtain ⟨hnone, hlist, hempty⟩ := h.ended q hexit
          refine ⟨?_, (hlists q hq).trans hlist, fun p => (if_neg hq).trans (hempty p)⟩
          intro u n hu
          exact hnone u n ((hthreads u n).mp hu).2
      calm := h.calm
      sound := h.sound }

/-- No statement of a thread breaks the invariant. -/
theorem statement_inv (h : LibInv s) (hth : s.threads t = some th) {c : LibChoice}
    (hmalloc : c.address ≠ none) {v : LibWorld π ι} (hstep : s.statement t th c = some v) :
    LibInv v := by
  obtain ⟨process, pc⟩ := th
  cases pc with
  | flock fd iDeviceNum =>
    obtain ⟨u, hu, hinv⟩ := h.flock hth c
    rw [hu] at hstep
    cases hstep
    exact hinv
  | closeUnlocked fd iDeviceNum =>
    obtain ⟨u, hu, hinv⟩ := h.closeUnlocked hth c
    rw [hu] at hstep
    cases hstep
    exact hinv
  | malloc fd iDeviceNum =>
    obtain ⟨p, hp⟩ := Option.ne_none_iff_exists'.mp hmalloc
    unfold LibWorld.statement at hstep
    dsimp only at hstep
    rw [hp] at hstep
    obtain ⟨hfree, hv⟩ := Option.ite_none_right_eq_some.mp hstep
    cases hv
    exact h.malloc hth hfree.1 hfree.2
  | insertTail p =>
    obtain ⟨d, hd⟩ := h.device hth (Or.inr rfl)
    unfold LibWorld.statement at hstep
    dsimp only at hstep
    rw [deref_eq hd] at hstep
    cases hstep
    exact h.insertTail hth
  | createLogFile p =>
    obtain ⟨d, hd⟩ := h.device hth (Or.inl rfl)
    unfold LibWorld.statement at hstep
    dsimp only at hstep
    rw [deref_eq hd] at hstep
    cases hstep
    -- a log file that comes too late for `close_log_file` would be lost
    have hopen : c.fLogFile = true → s.unused process LibPc.closes p := by
      intro _ u n hu hprocess hcloses
      have hut : u ≠ t := by
        rintro rfl
        rw [hth] at hu
        cases hu
        cases hcloses
      exact h.apart u t n _ hut hu hth hprocess p hcloses rfl
    have hlogs := h.logs hd hopen
    exact hlogs.returns hth rfl (fun hpc => by cases hpc)
  | inside p =>
    obtain ⟨-, d, hd, hclosed⟩ := h.here t _ hth
    obtain ⟨q, hq, -⟩ := h.shown hd hclosed
    unfold LibWorld.statement at hstep
    dsimp only at hstep hq
    rw [deref_eq hd, hq] at hstep
    cases hstep
    exact h
  | getState p =>
    have hhere := h.here t _ hth
    obtain ⟨hlisted, d, hd, -⟩ := h.here t _ hth
    unfold LibWorld.statement at hstep
    dsimp only at hstep
    rw [if_pos ((h.checked process p).mpr hlisted), deref_eq hd] at hstep
    cases hstep
    split_ifs
    · exact h.continues hth rfl (fun hpc => by cases hpc) rfl (fun _ => rfl) hhere
    · exact h.returns hth rfl (fun hpc => by cases hpc)
  | closeLogFile p =>
    obtain ⟨hlisted, d, hd, hclosed⟩ := h.here t _ hth
    unfold LibWorld.statement at hstep
    dsimp only at hstep
    rw [deref_eq hd] at hstep
    cases hstep
    have hlogs := h.logs hd fun hlog => absurd hlog Bool.false_ne_true
    apply hlogs.continues hth rfl (fun hpc => by cases hpc) rfl (fun _ => rfl)
    exact ⟨hlisted, _, Function.update_self _ _ _, hclosed, rfl⟩
  | closeFile p =>
    obtain ⟨d, hd⟩ := h.device hth (Or.inl rfl)
    obtain ⟨f, hf, hinv⟩ := h.closeFile hth hd
    unfold LibWorld.statement at hstep
    dsimp only at hstep
    rw [deref_eq hd, closeFd_eq hf] at hstep
    cases hstep
    exact hinv
  | remove p =>
    obtain ⟨hlisted, d, hd, -, hlog⟩ := h.here t _ hth
    unfold LibWorld.statement at hstep
    dsimp only at hstep
    rw [deref_eq hd, if_neg (not_not.mpr hlisted), hlog, if_neg Bool.false_ne_true] at hstep
    cases hstep
    exact h.remove hth

theorem handleStep_inv (h : LibInv s) {a : HandleAction π ι} (hok : usedProperly s a)
    {v : LibWorld π ι} (hstep : handleStep s a = some v) : LibInv v := by
  cases a with
  | driver a =>
    obtain ⟨ha, hmap⟩ := Option.ite_none_right_eq_some.mp hstep
    obtain ⟨r, hr, rfl⟩ := Option.map_eq_some_iff.mp hmap
    exact h.driver ha hok hr
  | openDevice t process ulFilter iDeviceNum fd =>
    obtain ⟨⟨hidle, hrunning, hfree⟩, hv⟩ := Option.ite_none_right_eq_some.mp hstep
    cases hv
    exact h.openDevice hidle hrunning hfree rfl
  | call t process hDev =>
    obtain ⟨⟨hidle, hrunning⟩, hv⟩ := Option.ite_none_right_eq_some.mp hstep
    split_ifs at hv with hcheck
    · cases hv
      have hlisted := (h.checked process hDev).mp hcheck
      have hat : LibThread.At s.memory s.gTCardList ⟨process, .inside hDev⟩ :=
        ⟨hlisted, h.entered hlisted hok⟩
      apply h.enters hidle hrunning rfl hat hok
      intro hcloses
      cases hcloses
    · cases hv
      exact h
  | closeDevice t process hDev =>
    obtain ⟨⟨hidle, hrunning⟩, hv⟩ := Option.ite_none_right_eq_some.mp hstep
    -- who closes a handle uses it, too
    have hcloses : s.unused process LibPc.closes hDev :=
      fun u n hu hprocess hpc => hok u n hu hprocess (LibPc.closes_uses hpc)
    split_ifs at hv with hcheck
    · cases hv
      have hlisted := (h.checked process hDev).mp hcheck
      have hat : LibThread.At s.memory s.gTCardList ⟨process, .getState hDev⟩ :=
        ⟨hlisted, h.entered hlisted hcloses⟩
      exact h.enters hidle hrunning rfl hat hcloses fun _ => hok
    · cases hv
      exact h
  | startThread t u =>
    unfold handleStep at hstep
    dsimp only at hstep
    split at hstep
    · rename_i process hDev hth hu
      cases hstep
      apply h.enters hu (h.running hth) rfl (h.here t _ hth)
      · -- nobody closes what the first thread uses
        intro w n hw hprocess hcloses
        have hwt : w ≠ t := by
          rintro rfl
          rw [hth] at hw
          cases hw
          cases hcloses
        exact h.apart w t n _ hwt hw hth hprocess hDev hcloses rfl
      · intro hcloses
        cases hcloses
    · cases hstep
  | returns t =>
    unfold handleStep at hstep
    dsimp only at hstep
    split at hstep
    · rename_i process hDev hth
      cases hstep
      exact h.returns hth rfl (fun hpc => by cases hpc)
    · cases hstep
  | step t c =>
    obtain ⟨th, hth, hv⟩ := Option.bind_eq_some_iff.mp hstep
    exact statement_inv h hth hok hv
  | exit process =>
    obtain ⟨hexit, hv⟩ := Option.ite_none_left_eq_some.mp hstep
    cases hv
    exact h.exit (by simpa using hexit)
  | exitFile process fd =>
    obtain ⟨hexit, hmap⟩ := Option.ite_none_right_eq_some.mp hstep
    obtain ⟨f, hf, rfl⟩ := Option.map_eq_some_iff.mp hmap
    exact h.exitFile hexit hf

end Steps

end NetanaDriver
