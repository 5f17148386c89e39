import NetanaDriver.SysfsResources

/-! The filter nodes of a device with their binary attributes, as `nasysfs_create_filter_dir`
creates and `remove_bin_files` removes them (netana_sysfs.c). -/
namespace NetanaDriver

/-- A node `filter%d` with the files that exist in it and their sizes. The files are numbered as in
`filter_bin_attr`: vala, maska, valb, maskb. -/
structure FilterNode where
  objnum : ℕ
  files : List (Fin 4 × BitVec 32)
  deriving DecidableEq, Repr

/-- `sysfiltergroup`, the nodes in sysfs, and which of the four buffers are allocated. An entry of
`attgroup` is the number of its node. -/
structure FilterDir where
  kobj : Bool
  attgroup : Option (List (Option ℕ))
  attcnt : ℕ
  nodes : List FilterNode
  buffers : Fin 4 → Bool

/-- Before the directory is created. -/
def FilterDir.init : FilterDir := ⟨false, none, 0, [], fun _ => false⟩

variable (ok : SysfsStep → Bool) (ulFilterSize : BitVec 32)

/-- The files of a node: what is there afterwards, and the last return value. -/
def createFilterFiles (lidx : ℕ) : List (Fin 4 × BitVec 32) × Bool :=
  (List.finRange 4).foldl (fun r i =>
    if ok (.createFilterBin lidx i) then (r.1 ++ [(i, ulFilterSize)], true) else (r.1, false))
    ([], false)

/-- One round of the loop. `none` is the jump to the error path, and otherwise `ret` says whether
the last call was successful. -/
def createFilterNode (lidx : ℕ) (d : FilterDir) : FilterDir × Option Bool :=
  if ok (.allocEntry .filter lidx) = false then (d, none)
  else if ok (.addEntry .filter lidx) = false then (d, none)
  else
    ({ d with
        nodes := d.nodes ++ [⟨lidx, (createFilterFiles ok ulFilterSize lidx).1⟩]
        attgroup := d.attgroup.map fun a => a.set lidx (some lidx)
        attcnt := lidx + 1 },
      some (createFilterFiles ok ulFilterSize lidx).2)

/-- The first `n` rounds. -/
def createFilterNodes : ℕ → FilterDir → FilterDir × Option Bool
  | 0, d => (d, some false)
  | n + 1, d =>
    match createFilterNodes n d with
    | (d, none) => (d, none)
    | (d, some _) => createFilterNode ok ulFilterSize n d

/-- `err_filter`: `cleanup_objset` puts the nodes after the first one. -/
def FilterDir.drop (d : FilterDir) : FilterDir :=
  { kobj := false
    attgroup := none
    attcnt := 0
    nodes := d.nodes.filter fun node =>
      !(decide (0 < node.objnum) && decide (node.objnum < d.attcnt))
    buffers := fun _ => false }

/-- `nasysfs_create_filter_dir` with its files; whether it returns success. -/
def createFilterDir (ulGpioCnt : ℕ) : FilterDir × Bool :=
  if 0 < ulGpioCnt then
    if ok (.createSet .filter) = false then (.init, false)
    else if ok (.allocGroup .filter) = false then (.init, false)
    else
      let d := { FilterDir.init with attgroup := some (List.replicate ulGpioCnt none) }
      if ∃ k, ok (.allocFilterBuffer k) = false then (d, false)
      else
        match createFilterNodes ok ulFilterSize ulGpioCnt
          { d with kobj := true, buffers := fun _ => true } with
        | (d, none) => (d.drop, false)
        | (d, some ret) => (d, ret)
  else (.init, true)

/-- What `remove_bin_files` does with the filter nodes: the places of the array that it reads, and
the files that it removes, with their nodes. -/
structure FilterRemoval where
  accesses : List ℕ
  removed : List (ℕ × Fin 4)
  deriving DecidableEq, Repr

/-- The loop of `remove_bin_files`: one index for the node and for the file. -/
def removeFilterFiles (d : FilterDir) : FilterRemoval :=
  match d.attgroup with
  | none => ⟨[], []⟩
  | some a =>
    { accesses := (List.finRange 4).map Fin.val
      removed := (List.finRange 4).filterMap fun i =>
        (a.getD i.val none).map fun lidx => (lidx, i) }

/-- There is a node for each port and no other, each with its four files; there are the buffers if
there is a port; and the files will be removed once, inside the array. -/
structure MatchesPorts (ulPortCnt : ℕ) (ulFilterSize : BitVec 32) (d : FilterDir) : Prop where
  nodes : ∀ i, (∃ node ∈ d.nodes, node.objnum = i) ↔ i < ulPortCnt
  files : ∀ node ∈ d.nodes, node.files = (List.finRange 4).map fun i => (i, ulFilterSize)
  buffers : 0 < ulPortCnt → ∀ k, d.buffers k = true
  removed : ∀ node ∈ d.nodes, ∀ f ∈ node.files,
    (removeFilterFiles d).removed.count (node.objnum, f.1) = 1
  inside : ∀ i ∈ (removeFilterFiles d).accesses, i < (d.attgroup.getD []).length

/-- A step of the creation fails; of the files only the last one of the last node counts. -/
def FilterDirFails (ulGpioCnt : ℕ) : Prop :=
  0 < ulGpioCnt ∧ (ok (.createSet .filter) = false ∨ ok (.allocGroup .filter) = false ∨
    (∃ k, ok (.allocFilterBuffer k) = false) ∨
    (∃ i < ulGpioCnt, ok (.allocEntry .filter i) = false ∨ ok (.addEntry .filter i) = false) ∨
    ok (.createFilterBin (ulGpioCnt - 1) (Fin.last 3)) = false)

variable {ok ulFilterSize}

theorem createFilterFiles_snd (lidx : ℕ) :
    (createFilterFiles ok ulFilterSize lidx).2 = ok (.createFilterBin lidx (Fin.last 3)) := by
  have hlast : List.finRange 4 = (List.finRange 3).map Fin.castSucc ++ [Fin.last 3] := by
    rw [List.finRange_succ_last]
  rw [createFilterFiles, hlast, List.foldl_append, List.foldl_cons, List.foldl_nil]
  split
  · rename_i hok
    exact hok.symm
  · rename_i hok
    exact (Bool.eq_false_iff.mpr hok).symm

theorem createFilterNode_none {lidx : ℕ} {d : FilterDir} :
    (createFilterNode ok ulFilterSize lidx d).2 = none ↔
      ok (.allocEntry .filter lidx) = false ∨ ok (.addEntry .filter lidx) = false := by
  rw [createFilterNode]
  split
  · simp_all
  · split
    · simp_all
    · simp_all

/-- The loop leaves early exactly where an allocation or the creation of a node fails. -/
theorem createFilterNodes_none {n : ℕ} {d : FilterDir} :
    (createFilterNodes ok ulFilterSize n d).2 = none ↔
      ∃ i < n, ok (.allocEntry .filter i) = false ∨ ok (.addEntry .filter i) = false := by
  induction n with
  | zero => simp [createFilterNodes]
  | succ n ih =>
    rw [createFilterNodes]
    split
    · rename_i d' heq
      rw [heq] at ih
      obtain ⟨i, hi, hfail⟩ := ih.mp rfl
      exact ⟨fun _ => ⟨i, Nat.lt_succ_of_lt hi, hfail⟩, fun _ => rfl⟩
    · rename_i d' ret heq
      rw [heq] at ih
      have hno := mt ih.mpr (by simp)
      rw [createFilterNode_none]
      constructor
      · exact fun hfail => ⟨n, Nat.lt_succ_self n, hfail⟩
      · rintro ⟨i, hi, hfail⟩
        rcases Nat.lt_succ_iff_lt_or_eq.mp hi with hlt | rfl
        · exact absurd ⟨i, hlt, hfail⟩ hno
        · exact hfail

/-- The directory after `n` rounds, with an array for `m` nodes. -/
structure CreatedNodes (ok : SysfsStep → Bool) (ulFilterSize : BitVec 32) (m n : ℕ)
    (d : FilterDir) : Prop where
  nodes : d.nodes = (List.range n).map fun i => ⟨i, (createFilterFiles ok ulFilterSize i).1⟩
  attgroup : ∃ a, d.attgroup = some a ∧ a.length = m ∧
    ∀ i, a.getD i none = if i < n then some i else none
  attcnt : d.attcnt = n
  buffers : ∀ k, d.buffers k = true

theorem createdNodes_start (m : ℕ) : CreatedNodes ok ulFilterSize m 0 { FilterDir.init with
    attgroup := some (List.replicate m none)
    kobj := true
    buffers := fun _ => true } := by
  refine ⟨rfl, ⟨_, rfl, List.length_replicate, fun i => ?_⟩, rfl, fun _ => rfl⟩
  rw [if_neg (Nat.not_lt_zero i), List.getD_eq_getElem?_getD, List.getElem?_replicate]
  split <;> rfl

theorem createFilterNode_some {m n : ℕ} {d : FilterDir} {ret : Bool}
    (h : CreatedNodes ok ulFilterSize m n d) (hn : n < m)
    (hret : (createFilterNode ok ulFilterSize n d).2 = some ret) :
    CreatedNodes ok ulFilterSize m (n + 1) (createFilterNode ok ulFilterSize n d).1 ∧
      ret = ok (.createFilterBin n (Fin.last 3)) := by
  rw [createFilterNode] at hret ⊢
  split at hret
  · cases hret
  · rename_i halloc
    rw [if_neg halloc]
    split at hret
    · cases hret
    · rename_i hadd
      rw [if_neg hadd]
      cases hret
      refine ⟨⟨?_, ?_, rfl, h.buffers⟩, createFilterFiles_snd n⟩
      · rw [List.range_succ, List.map_append, List.map_singleton, ← h.nodes]
      · obtain ⟨a, ha, hlen, hget⟩ := h.attgroup
        refine ⟨a.set n (some n), by rw [ha]; rfl, by rw [List.length_set, hlen], fun i => ?_⟩
        rw [List.getD_eq_getElem?_getD, List.getElem?_set]
        by_cases hi : n = i
        · rw [if_pos hi, if_pos (by omega), if_pos (by omega), ← hi]
          rfl
        · rw [if_neg hi, ← List.getD_eq_getElem?_getD, hget i]
          have hiff : i < n + 1 ↔ i < n := by omega
          simp only [hiff]

/-- A loop that comes to its end has created a node in every round. -/
theorem createFilterNodes_some {m n : ℕ} {d : FilterDir} {ret : Bool}
    (h : CreatedNodes ok ulFilterSize m 0 d) (hn : n ≤ m)
    (hret : (createFilterNodes ok ulFilterSize n d).2 = some ret) :
    CreatedNodes ok ulFilterSize m n (createFilterNodes ok ulFilterSize n d).1 ∧
      (0 < n → ret = ok (.createFilterBin (n - 1) (Fin.last 3))) := by
  induction n generalizing ret with
  | zero => exact ⟨h, fun hpos => absurd hpos (Nat.lt_irrefl 0)⟩
  | succ n ih =>
    rw [createFilterNodes] at hret ⊢
    split at hret
    · cases hret
    · rename_i d' ret' heq
      obtain ⟨hcreated, -⟩ := ih (by omega) (by rw [heq])
      rw [heq] at hcreated
      obtain ⟨hnext, hlast⟩ := createFilterNode_some hcreated (by omega) hret
      exact ⟨hnext, fun _ => hlast⟩

/-- Where no step fails, the function succeeds and leaves one node for each GPIO. -/
theorem createFilterDir_created {ulGpioCnt : ℕ} (hpos : 0 < ulGpioCnt)
    (h : ¬ FilterDirFails ok ulGpioCnt) :
    (createFilterDir ok ulFilterSize ulGpioCnt).2 = true ∧
      CreatedNodes ok ulFilterSize ulGpioCnt ulGpioCnt
        (createFilterDir ok ulFilterSize ulGpioCnt).1 := by
  have hsteps := fun hfail => h ⟨hpos, hfail⟩
  have hset := fun hfail => hsteps (.inl hfail)
  have hgroup := fun hfail => hsteps (.inr (.inl hfail))
  have hbuffers := fun hfail => hsteps (.inr (.inr (.inl hfail)))
  have hentries := fun hfail => hsteps (.inr (.inr (.inr (.inl hfail))))
  have hlast := fun hfail => hsteps (.inr (.inr (.inr (.inr hfail))))
  rw [createFilterDir, if_pos hpos, if_neg hset, if_neg hgroup]
  dsimp only
  rw [if_neg hbuffers]
  split
  · rename_i d heq
    exact absurd (createFilterNodes_none.mp (congrArg Prod.snd heq)) hentries
  · rename_i d ret heq
    obtain ⟨hcreated, hret⟩ := createFilterNodes_some (createdNodes_start ulGpioCnt) le_rfl
      (congrArg Prod.snd heq)
    rw [heq] at hcreated
    refine ⟨?_, hcreated⟩
    rw [hret hpos]
    exact Bool.eq_true_of_not_eq_false hlast

/-- Of each node only the file with the node's own number is removed. -/
theorem CreatedNodes.removed {m n : ℕ} {d : FilterDir} (h : CreatedNodes ok ulFilterSize m n d)
    {lidx : ℕ} {i : Fin 4} (hmem : (lidx, i) ∈ (removeFilterFiles d).removed) : lidx = i.val := by
  obtain ⟨a, ha, -, hget⟩ := h.attgroup
  rw [removeFilterFiles, ha] at hmem
  obtain ⟨j, -, hj⟩ := List.mem_filterMap.mp hmem
  rw [hget j] at hj
  split at hj
  · cases hj
    rfl
  · cases hj

/-- With a GPIO the second file of the first node stays, if it is there. -/
theorem CreatedNodes.not_matches {m n ulPortCnt : ℕ} {d : FilterDir} (hn : 0 < n)
    (h : CreatedNodes ok ulFilterSize m n d) : ¬ MatchesPorts ulPortCnt ulFilterSize d := by
  intro hmatch
  have hnode : (⟨0, (createFilterFiles ok ulFilterSize 0).1⟩ : FilterNode) ∈ d.nodes := by
    rw [h.nodes]
    exact List.mem_map.mpr ⟨0, List.mem_range.mpr hn, rfl⟩
  have hfile : ((Fin.last 3, ulFilterSize) : Fin 4 × BitVec 32) ∈
      (createFilterFiles ok ulFilterSize 0).1 := by
    have hall : (createFilterFiles ok ulFilterSize 0).1 =
        (List.finRange 4).map fun i => (i, ulFilterSize) := hmatch.files _ hnode
    rw [hall]
    exact List.mem_map.mpr ⟨Fin.last 3, List.mem_finRange _, rfl⟩
  have honce := hmatch.removed _ hnode _ hfile
  have hmem : (0, Fin.last 3) ∈ (removeFilterFiles d).removed := by
    rw [← List.count_pos_iff, honce]
    exact Nat.one_pos
  exact absurd (h.removed hmem) (by decide)

/-- Where a step fails, so does the function. -/
theorem createFilterDir_fails {ulGpioCnt : ℕ} (h : FilterDirFails ok ulGpioCnt) :
    (createFilterDir ok ulFilterSize ulGpioCnt).2 = false := by
  obtain ⟨hpos, hfail⟩ := h
  rw [createFilterDir, if_pos hpos]
  split
  · rfl
  · rename_i hset
    split
    · rfl
    · rename_i hgroup
      dsimp only
      split
      · rfl
      · rename_i hbuffers
        split
        · rfl
        · rename_i d ret heq
          have hentries := mt createFilterNodes_none.mpr (by rw [heq]; simp)
          have hlast : ok (.createFilterBin (ulGpioCnt - 1) (Fin.last 3)) = false := by
            rcases hfail with hfail | hfail | hfail | hfail | hfail
            · exact absurd hfail hset
            · exact absurd hfail hgroup
            · exact absurd hfail hbuffers
            · exact absurd hfail hentries
            · exact hfail
          obtain ⟨-, hret⟩ := createFilterNodes_some (createdNodes_start ulGpioCnt) le_rfl
            (congrArg Prod.snd heq)
          dsimp only
          rw [hret hpos, hlast]

theorem createFilterDir_zero : createFilterDir ok ulFilterSize 0 = (.init, true) := by
  rw [createFilterDir, if_neg (Nat.lt_irrefl 0)]

/-- The nodes match the ports exactly where the creation fails, or where there is neither a GPIO nor
a port. -/
theorem createFilterDir_matches_iff (ok : SysfsStep → Bool) (ulFilterSize : BitVec 32)
    (ulGpioCnt ulPortCnt : ℕ) :
    ((createFilterDir ok ulFilterSize ulGpioCnt).2 = true →
      MatchesPorts ulPortCnt ulFilterSize (createFilterDir ok ulFilterSize ulGpioCnt).1) ↔
    FilterDirFails ok ulGpioCnt ∨ (ulGpioCnt = 0 ∧ ulPortCnt = 0) := by
  constructor
  · intro hmatch
    by_contra hno
    rw [not_or] at hno
    obtain ⟨hsucceeds, hcounts⟩ := hno
    rcases Nat.eq_zero_or_pos ulGpioCnt with hzero | hpos
    · -- ports without nodes
      rw [hzero, createFilterDir_zero] at hmatch
      have hport : 0 < ulPortCnt := by omega
      obtain ⟨node, hnode, -⟩ := ((hmatch rfl).nodes 0).mpr hport
      exact absurd hnode List.not_mem_nil
    · obtain ⟨hret, hcreated⟩ :=
        @createFilterDir_created ok ulFilterSize ulGpioCnt hpos hsucceeds
      exact hcreated.not_matches hpos (hmatch hret)
  · rintro (hfails | ⟨hgpio, hport⟩) hret
    · rw [createFilterDir_fails hfails] at hret
      cases hret
    · rw [hgpio, hport, createFilterDir_zero]
      refine ⟨fun i => ?_, fun node hnode => ?_, fun hpos => ?_, fun node hnode => ?_,
        fun i hi => ?_⟩
      · exact ⟨fun ⟨_, hnode, _⟩ => absurd hnode List.not_mem_nil,
          fun hi => absurd hi (Nat.not_lt_zero i)⟩
      · exact absurd hnode List.not_mem_nil
      · exact absurd hpos (Nat.lt_irrefl 0)
      · exact absurd hnode List.not_mem_nil
      · exact absurd hi List.not_mem_nil

/-- A device with four GPIOs and four ports, for which every step succeeds. -/
theorem createFilterDir_four : ¬ ∀ (ok : SysfsStep → Bool) (ulFilterSize : BitVec 32)
    (ulGpioCnt ulPortCnt : ℕ), (createFilterDir ok ulFilterSize ulGpioCnt).2 = true →
      MatchesPorts ulPortCnt ulFilterSize (createFilterDir ok ulFilterSize ulGpioCnt).1 := by
  intro hall
  have hmatch := hall (fun _ => true) 1024#32 4 4 rfl
  have honce := hmatch.removed ⟨0, [(0, 1024#32), (1, 1024#32), (2, 1024#32), (3, 1024#32)]⟩
    (by decide) (1, 1024#32) (by decide)
  exact absurd honce (by decide)

/-- The rounds of the other account fail where these do. -/
theorem createEntries_filter {n : ℕ} {s : RegState} (attcnt : ℕ → ℕ)
    (h : (s.groups .filter).attgroup.isSome = true) :
    let r := createEntries ok .filter attcnt n s
    (r.2 = true → (r.1.groups .filter).attgroup.isSome = true) ∧
      (r.2 = false ↔
        ∃ i < n, ok (.allocEntry .filter i) = false ∨ ok (.addEntry .filter i) = false) := by
  induction n with
  | zero => simp [createEntries, h]
  | succ n ih =>
    dsimp only at ih
    rw [createEntries]
    dsimp only
    obtain ⟨hsome, hiff⟩ := ih
    split
    · rename_i hprev
      have hno := mt hiff.mpr (by rw [hprev]; simp)
      have hstep : ∀ P : Prop, (P ↔ ok (.allocEntry .filter n) = false ∨
          ok (.addEntry .filter n) = false) →
          (P ↔ ∃ i < n + 1, ok (.allocEntry .filter i) = false ∨
            ok (.addEntry .filter i) = false) := by
        intro P hP
        rw [hP]
        constructor
        · exact fun hfail => ⟨n, Nat.lt_succ_self n, hfail⟩
        · rintro ⟨i, hi, hfail⟩
          rcases Nat.lt_succ_iff_lt_or_eq.mp hi with hlt | rfl
          · exact absurd ⟨i, hlt, hfail⟩ hno
          · exact hfail
      obtain ⟨a, ha⟩ := Option.isSome_iff_exists.mp (hsome hprev)
      rw [createEntry]
      split
      · rename_i halloc
        exact ⟨by simp, hstep _ (by simp [halloc])⟩
      · rename_i halloc
        split
        · rename_i hadd
          exact ⟨by simp, hstep _ (by simp [hadd])⟩
        · rename_i hadd
          have hgroup : (((createEntries ok .filter attcnt n s).1.create
              (.groupEntry .filter n)).groups .filter).attgroup = some a := ha
          dsimp only
          rw [hgroup]
          refine ⟨fun _ => ?_, hstep _ (by simp [halloc, hadd])⟩
          simp [RegState.setGroup]
    · rename_i hprev
      have hfalse : (createEntries ok .filter attcnt n s).2 = false := Bool.eq_false_iff.mpr hprev
      obtain ⟨i, hi, hfail⟩ := hiff.mp hfalse
      refine ⟨fun htrue => absurd htrue hprev, ?_⟩
      rw [hfalse]
      exact ⟨fun _ => ⟨i, Nat.lt_succ_of_lt hi, hfail⟩, fun _ => rfl⟩

theorem nasysfsCreateFilterDir_snd {ulGpioCnt : ℕ} (hpos : 0 < ulGpioCnt) (s : RegState) :
    (nasysfsCreateFilterDir ok ulGpioCnt s).2 = false ↔ FilterDirFails ok ulGpioCnt := by
  rw [nasysfsCreateFilterDir, if_neg (Nat.ne_of_gt hpos), FilterDirFails]
  split
  · rename_i hset
    exact ⟨fun _ => ⟨hpos, .inl hset⟩, fun _ => rfl⟩
  · rename_i hset
    split
    · rename_i hgroup
      exact ⟨fun _ => ⟨hpos, .inr (.inl hgroup)⟩, fun _ => rfl⟩
    · rename_i hgroup
      have hsome : ((createSet ok .filter ulGpioCnt s).groups .filter).attgroup.isSome = true := by
        simp [createSet, RegState.setGroup, hgroup]
      obtain ⟨-, hiff⟩ := @createEntries_filter ok ulGpioCnt _ (fun i => i + 1) hsome
      dsimp only
      split
      · rename_i hbuffers
        exact ⟨fun _ => ⟨hpos, .inr (.inr (.inl hbuffers))⟩, fun _ => rfl⟩
      · rename_i hbuffers
        split
        · rename_i hentries
          have hno := mt hiff.mpr (by rw [hentries]; simp)
          refine ⟨fun hlast => ⟨hpos, .inr (.inr (.inr (.inr hlast)))⟩, ?_⟩
          rintro ⟨-, hfail | hfail | hfail | hfail | hlast⟩
          · exact absurd hfail hset
          · exact absurd hfail hgroup
          · exact absurd hfail hbuffers
          · exact absurd hfail hno
          · exact hlast
        · rename_i hentries
          have hfail := hiff.mp (Bool.eq_false_iff.mpr hentries)
          exact ⟨fun _ => ⟨hpos, .inr (.inr (.inr (.inl hfail)))⟩, fun _ => rfl⟩

/-- Whether the directory is created is as in the account of all that a device registers. -/
theorem createFilterDir_snd (ok : SysfsStep → Bool) (ulFilterSize : BitVec 32) (ulGpioCnt : ℕ)
    (s : RegState) :
    (createFilterDir ok ulFilterSize ulGpioCnt).2 = (nasysfsCreateFilterDir ok ulGpioCnt s).2 := by
  rcases Nat.eq_zero_or_pos ulGpioCnt with hzero | hpos
  · rw [hzero]
    rfl
  · by_cases hfails : FilterDirFails ok ulGpioCnt
    · rw [createFilterDir_fails hfails, (nasysfsCreateFilterDir_snd hpos s).mpr hfails]
    · have hsucceeds := mt (nasysfsCreateFilterDir_snd hpos s).mp hfails
      rw [(createFilterDir_created hpos hfails).1, Bool.eq_true_of_not_eq_false hsucceeds]

end NetanaDriver
