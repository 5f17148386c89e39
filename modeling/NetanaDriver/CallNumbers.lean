import Mathlib

/-! Calls with numbers of their own. Threads make calls, at most one at a time each; a call may
leave one entry in a log before it returns. -/
namespace CallNumbers

variable {ι : Type*}

/-- `n` calls have been started; `cur` gives the call a thread is in, `log` the calls that have
left an entry, `done` those that have returned. -/
structure Numbered (n : ℕ) (cur : ι → Option ℕ) (log done : List ℕ) : Prop where
  fresh : ∀ i k, cur i = some k → k < n
  distinct : ∀ i j k, cur i = some k → cur j = some k → i = j
  logged : ∀ k ∈ log, k < n
  once : log.Nodup
  returned : ∀ k ∈ done, k < n
  left : ∀ i k, cur i = some k → k ∉ done

variable {n : ℕ} {cur cur' : ι → Option ℕ} {log done : List ℕ}

theorem numbered_nil (n : ℕ) : Numbered n (fun _ : ι => none) [] [] := by
  refine ⟨?_, ?_, ?_, List.nodup_nil, ?_, ?_⟩
  · intro i k h
    cases h
  · intro i j k h
    cases h
  · intro k h
    cases h
  · intro k h
    cases h
  · intro i k h
    cases h

/-- A call of another kind is started. -/
theorem Numbered.skip (h : Numbered n cur log done) : Numbered (n + 1) cur log done :=
  ⟨fun i k hk => Nat.lt_succ_of_lt (h.fresh i k hk), h.distinct,
    fun k hk => Nat.lt_succ_of_lt (h.logged k hk), h.once,
    fun k hk => Nat.lt_succ_of_lt (h.returned k hk), h.left⟩

/-- The call that has the next number is in none of the lists. -/
theorem Numbered.next_not_logged (h : Numbered n cur log done) : n ∉ log :=
  fun hn => Nat.lt_irrefl n (h.logged n hn)

theorem Numbered.start (h : Numbered n cur log done) {i : ι} (hi : cur' i = some n)
    (hothers : ∀ j, j ≠ i → cur' j = cur j) : Numbered (n + 1) cur' log done := by
  have hcase (j : ι) (k : ℕ) (hk : cur' j = some k) :
      (j = i ∧ k = n) ∨ (j ≠ i ∧ cur j = some k ∧ k < n) := by
    by_cases hj : j = i
    · rw [hj, hi] at hk
      exact Or.inl ⟨hj, (Option.some.inj hk).symm⟩
    · rw [hothers j hj] at hk
      exact Or.inr ⟨hj, hk, h.fresh j k hk⟩
  refine ⟨?_, ?_, fun k hk => Nat.lt_succ_of_lt (h.logged k hk), h.once,
    fun k hk => Nat.lt_succ_of_lt (h.returned k hk), ?_⟩
  · intro j k hk
    rcases hcase j k hk with ⟨-, hkn⟩ | ⟨-, -, hlt⟩
    · rw [hkn]
      exact Nat.lt_succ_self n
    · exact Nat.lt_succ_of_lt hlt
  · intro j j' k hk hk'
    rcases hcase j k hk with ⟨hj, hkn⟩ | ⟨-, hk, hlt⟩ <;>
      rcases hcase j' k hk' with ⟨hj', hkn'⟩ | ⟨-, hk', hlt'⟩
    · rw [hj, hj']
    · omega
    · omega
    · exact h.distinct j j' k hk hk'
  · intro j k hk hdone
    rcases hcase j k hk with ⟨-, hkn⟩ | ⟨-, hk, -⟩
    · have hlt := h.returned k hdone
      omega
    · exact h.left j k hk hdone

/-- A call leaves its entry. -/
theorem Numbered.append (h : Numbered n cur log done) {i : ι} {k : ℕ} (hi : cur i = some k)
    (hnew : k ∉ log) : Numbered n cur (log ++ [k]) done := by
  refine ⟨h.fresh, h.distinct, ?_, ?_, h.returned, h.left⟩
  · intro k' hk'
    rcases List.mem_append.mp hk' with hk' | hk'
    · exact h.logged k' hk'
    · rw [List.mem_singleton.mp hk']
      exact h.fresh i k hi
  · rw [List.nodup_append]
    refine ⟨h.once, List.nodup_singleton k, ?_⟩
    intro a ha b hb heq
    rw [List.mem_singleton.mp hb] at heq
    exact hnew (heq ▸ ha)

/-- The entry is nobody else's. -/
theorem Numbered.not_logged_append (h : Numbered n cur log done) {i j : ι} {k k' : ℕ}
    (hi : cur i = some k) (hj : cur j = some k') (hne : j ≠ i) (hnot : k' ∉ log) :
    k' ∉ log ++ [k] := by
  intro hmem
  rcases List.mem_append.mp hmem with hmem | hmem
  · exact hnot hmem
  · rw [List.mem_singleton.mp hmem] at hj
    exact hne (h.distinct j i k hj hi)

theorem Numbered.done_not_logged_append (h : Numbered n cur log done) {i : ι} {k k' : ℕ}
    (hi : cur i = some k) (hdone : k' ∈ done) (hnot : k' ∉ log) : k' ∉ log ++ [k] := by
  intro hmem
  rcases List.mem_append.mp hmem with hmem | hmem
  · exact hnot hmem
  · rw [List.mem_singleton.mp hmem] at hdone
    exact h.left i k hi hdone

/-- The number of the call a thread is in stays with it. -/
theorem Numbered.kept {α : Type*} {nr : α → ℕ} {pc pc' : ι → Option α}
    (h : Numbered n (fun i => (pc i).map nr) log done) {i : ι} {p q : α} (hpc : pc i = some p)
    (hself : pc' i = some q) (hcall : nr q = nr p) (hothers : ∀ j, j ≠ i → pc' j = pc j) :
    Numbered n (fun i => (pc' i).map nr) log done := by
  have hsame : (fun i => (pc' i).map nr) = fun i => (pc i).map nr := by
    funext j
    by_cases hj : j = i
    · rw [hj, hself, hpc, Option.map_some, Option.map_some, hcall]
    · rw [hothers j hj]
  rw [hsame]
  exact h

/-- A call returns. -/
theorem Numbered.finish (h : Numbered n cur log done) {i : ι} {k : ℕ} (hi : cur i = some k)
    (hi' : cur' i = none) (hothers : ∀ j, j ≠ i → cur' j = cur j) :
    Numbered n cur' log (done ++ [k]) := by
  have hsub (j : ι) (k' : ℕ) (hk : cur' j = some k') : j ≠ i ∧ cur j = some k' := by
    by_cases hj : j = i
    · rw [hj, hi'] at hk
      cases hk
    · rw [hothers j hj] at hk
      exact ⟨hj, hk⟩
  refine ⟨fun j k' hk => h.fresh j k' (hsub j k' hk).2,
    fun j j' k' hk hk' => h.distinct j j' k' (hsub j k' hk).2 (hsub j' k' hk').2, h.logged,
    h.once, ?_, ?_⟩
  · intro k' hk'
    rcases List.mem_append.mp hk' with hk' | hk'
    · exact h.returned k' hk'
    · rw [List.mem_singleton.mp hk']
      exact h.fresh i k hi
  · intro j k' hk hdone
    obtain ⟨hj, hk⟩ := hsub j k' hk
    rcases List.mem_append.mp hdone with hdone | hdone
    · exact h.left j k' hk hdone
    · rw [List.mem_singleton.mp hdone] at hk
      exact hj (h.distinct j i k hk hi)

end CallNumbers
