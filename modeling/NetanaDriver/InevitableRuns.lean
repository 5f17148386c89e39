import NetanaDriver.StepRuns

/-! What a run reaches whatever is chosen for its steps, with the number of steps that it takes in
states of one kind. -/
namespace InevitableRuns

variable {σ α : Type*}

/-- The steps of a run that are taken in states that count. -/
def turns (step : σ → α → Option σ) (counts : σ → Bool) : σ → List α → ℕ
  | _, [] => 0
  | s, a :: as => (counts s).toNat + (step s a).elim 0 fun t => turns step counts t as

/-- All choices lead to a state with `P`, after `k` steps from states that count. -/
inductive Reaches (step : σ → α → Option σ) (counts : σ → Bool) (P : σ → Prop) : ℕ → σ → Prop
  | here {s : σ} : P s → Reaches step counts P 0 s
  | next {s : σ} {k : ℕ} (f : α → σ) :
      (∀ a, step s a = some (f a)) → (∀ a, Reaches step counts P k (f a)) →
      Reaches step counts P ((counts s).toNat + k) s

variable {step : σ → α → Option σ} {counts : σ → Bool} {P Q : σ → Prop} {s : σ} {j k : ℕ}

/-- A step from a state that does not count. -/
theorem Reaches.uncounted (hs : counts s = false)
    (h : ∀ a, ∃ t, step s a = some t ∧ Reaches step counts P k t) : Reaches step counts P k s := by
  choose f hf hreach using h
  have hnext := Reaches.next f hf hreach
  rwa [hs, Bool.toNat_false, Nat.zero_add] at hnext

theorem Reaches.counted (hs : counts s = true)
    (h : ∀ a, ∃ t, step s a = some t ∧ Reaches step counts P k t) :
    Reaches step counts P (k + 1) s := by
  choose f hf hreach using h
  have hnext := Reaches.next f hf hreach
  rwa [hs, Bool.toNat_true, Nat.add_comm] at hnext

theorem Reaches.trans (h : Reaches step counts P j s)
    (hP : ∀ t, P t → Reaches step counts Q k t) : Reaches step counts Q (j + k) s := by
  induction h with
  | here hs =>
    rw [Nat.zero_add]
    exact hP _ hs
  | next f hf _ ih =>
    rw [Nat.add_assoc]
    exact .next f hf ih

/-- Every sequence of choices has a first part that ends in a state with `P`. -/
theorem Reaches.run (h : Reaches step counts P k s) (c : ℕ → α) :
    ∃ m t, StepRuns.run step s ((List.range m).map c) = some t ∧
      turns step counts s ((List.range m).map c) = k ∧ P t := by
  induction h generalizing c with
  | here hs => exact ⟨0, _, rfl, rfl, hs⟩
  | next f hf _ ih =>
    obtain ⟨m, u, hrun, hturns, hu⟩ := ih (c 0) fun i => c (i + 1)
    have hlist : (List.range (m + 1)).map c = c 0 :: (List.range m).map fun i => c (i + 1) := by
      rw [List.range_succ_eq_map, List.map_cons, List.map_map]
      rfl
    refine ⟨m + 1, u, ?_, ?_, hu⟩
    · rw [hlist, StepRuns.run_cons, hf]
      exact hrun
    · rw [hlist, turns, hf]
      exact congrArg _ hturns

end InevitableRuns
