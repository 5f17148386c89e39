import Mathlib

/-! Finite runs of a partial step function. An action that is disabled in a state has no
successor, so a list of actions is one interleaving of the parties that take them. -/
namespace StepRuns

variable {σ α τ β : Type*}

/-- Take the actions in order; a disabled action ends the run without a state. -/
def run (step : σ → α → Option σ) : σ → List α → Option σ
  | s, [] => some s
  | s, a :: as => (step s a).bind fun t => run step t as

/-- Every action of the run is taken in a state where `ok` allows it. -/
def Along (ok : σ → α → Prop) (step : σ → α → Option σ) : σ → List α → Prop
  | _, [] => True
  | s, a :: as => ok s a ∧ ∀ t, step s a = some t → Along ok step t as

@[simp] theorem run_nil (step : σ → α → Option σ) (s : σ) : run step s [] = some s := rfl

theorem run_cons (step : σ → α → Option σ) (s : σ) (a : α) (as : List α) :
    run step s (a :: as) = (step s a).bind fun t => run step t as := rfl

theorem run_cons_eq_some {step : σ → α → Option σ} {s u : σ} {a : α} {as : List α} :
    run step s (a :: as) = some u ↔ ∃ t, step s a = some t ∧ run step t as = some u := by
  rw [run_cons, Option.bind_eq_some_iff]

theorem run_append (step : σ → α → Option σ) (s : σ) (as bs : List α) :
    run step s (as ++ bs) = (run step s as).bind fun t => run step t bs := by
  induction as generalizing s with
  | nil => rfl
  | cons a as ih =>
    rw [List.cons_append, run_cons, run_cons, Option.bind_assoc]
    congr 1
    funext t
    exact ih t

theorem Along.mono {ok ok' : σ → α → Prop} {step : σ → α → Option σ}
    (h : ∀ s a, ok s a → ok' s a) {s : σ} {as : List α} (hok : Along ok step s as) :
    Along ok' step s as := by
  induction as generalizing s with
  | nil => trivial
  | cons a as ih => exact ⟨h s a hok.1, fun t ht => ih (hok.2 t ht)⟩

/-- Evaluates whether every action of a given run is taken where `ok` allows it. -/
def checkAlong (ok : σ → α → Bool) (step : σ → α → Option σ) : σ → List α → Bool
  | _, [] => true
  | s, a :: as => ok s a && match step s a with
    | none => true
    | some t => checkAlong ok step t as

theorem along_of_check {ok : σ → α → Bool} {step : σ → α → Option σ} {s : σ} {as : List α}
    (h : checkAlong ok step s as = true) : Along (fun s a => ok s a = true) step s as := by
  induction as generalizing s with
  | nil => trivial
  | cons a as ih =>
    rw [checkAlong, Bool.and_eq_true] at h
    obtain ⟨hok, hrest⟩ := h
    refine ⟨hok, fun t ht => ih ?_⟩
    rw [ht] at hrest
    exact hrest

/-- Where the state does not matter, it is enough to look at the actions. -/
theorem along_of_forall {ok : α → Prop} (step : σ → α → Option σ) {as : List α}
    (h : ∀ a ∈ as, ok a) (s : σ) : Along (fun _ a => ok a) step s as := by
  induction as generalizing s with
  | nil => trivial
  | cons a as ih =>
    exact ⟨h a List.mem_cons_self, fun t _ => ih (fun b hb => h b (List.mem_cons_of_mem a hb)) t⟩

/-- What every allowed step preserves holds at the end of every run of allowed steps. -/
theorem along_invariant {step : σ → α → Option σ} {ok : σ → α → Prop} {Inv : σ → Prop}
    (hstep : ∀ s a t, Inv s → ok s a → step s a = some t → Inv t) {s t : σ} {as : List α}
    (hs : Inv s) (hok : Along ok step s as) (h : run step s as = some t) : Inv t := by
  induction as generalizing s with
  | nil =>
    cases h
    exact hs
  | cons a as ih =>
    obtain ⟨u, hu, hrun⟩ := run_cons_eq_some.mp h
    exact ih (hstep s a u hs hok.1 hu) (hok.2 u hu) hrun

/-- The unconditional case: what every step preserves holds at the end of every run. -/
theorem run_invariant {step : σ → α → Option σ} {Inv : σ → Prop}
    (hstep : ∀ s a t, Inv s → step s a = some t → Inv t) {s t : σ} {as : List α}
    (hs : Inv s) (h : run step s as = some t) : Inv t := by
  have hall : ∀ (bs : List α) (u : σ), Along (fun _ _ => True) step u bs := by
    intro bs
    induction bs with
    | nil => exact fun _ => trivial
    | cons b bs ih => exact fun u => ⟨trivial, fun v _ => ih v⟩
  exact along_invariant (fun s a t hi (_ : True) => hstep s a t hi) hs (hall as s) h

/-- If every concrete step is matched by some abstract steps, so is every concrete run. -/
theorem run_simulates {step : σ → α → Option σ} {astep : τ → β → Option τ} {R : σ → τ → Prop}
    (hstep : ∀ s a s' t, R s t → step s a = some s' →
      ∃ bs t', run astep t bs = some t' ∧ R s' t')
    {s s' : σ} {as : List α} {t : τ} (hR : R s t) (h : run step s as = some s') :
    ∃ bs t', run astep t bs = some t' ∧ R s' t' := by
  induction as generalizing s t with
  | nil =>
    cases h
    exact ⟨[], t, rfl, hR⟩
  | cons a as ih =>
    obtain ⟨u, hu, hrun⟩ := run_cons_eq_some.mp h
    obtain ⟨bs, v, hv, hRv⟩ := hstep s a u t hR hu
    obtain ⟨cs, w, hw, hRw⟩ := ih hRv hrun
    refine ⟨bs ++ cs, w, ?_, hRw⟩
    rw [run_append, hv]
    exact hw

/-! Runs of a total step function, which are folds. -/

variable {f : σ → α → σ} {s : σ}

/-- What is so of every action with the state before it, is so of the first and of the rest. -/
theorem forall_split_cons (ok : σ → α → Prop) {a : α} {as : List α} :
    (∀ before c after, a :: as = before ++ c :: after → ok (before.foldl f s) c) ↔
      ok s a ∧ ∀ before c after, as = before ++ c :: after →
        ok (before.foldl f (f s a)) c := by
  constructor
  · intro hall
    refine ⟨hall [] a as rfl, fun before c after hsplit => ?_⟩
    exact hall (a :: before) c after (congrArg (a :: ·) hsplit)
  · rintro ⟨hfirst, hrest⟩ before c after hsplit
    cases before with
    | nil =>
      obtain ⟨rfl, -⟩ := List.cons.inj hsplit
      exact hfirst
    | cons b before =>
      obtain ⟨rfl, htail⟩ := List.cons.inj hsplit
      exact hrest before c after htail

/-- There is no action in an empty run. -/
theorem forall_split_nil (ok : σ → α → Prop) (before : List α) (c : α) (after : List α)
    (hsplit : [] = before ++ c :: after) : ok (before.foldl f s) c :=
  absurd hsplit.symm (List.append_ne_nil_of_right_ne_nil before (List.cons_ne_nil c after))

/-- The same for the states of a run. -/
theorem forall_prefix_cons {P : σ → Prop} {a : α} {as : List α} :
    (∀ before, before <+: a :: as → P (before.foldl f s)) ↔
      P s ∧ ∀ before, before <+: as → P (before.foldl f (f s a)) := by
  constructor
  · intro hall
    refine ⟨hall [] List.nil_prefix, fun before hprefix => ?_⟩
    exact hall (a :: before) (List.cons_prefix_cons.mpr ⟨rfl, hprefix⟩)
  · rintro ⟨hfirst, hrest⟩ before hprefix
    cases before with
    | nil => exact hfirst
    | cons b before =>
      obtain ⟨rfl, htail⟩ := List.cons_prefix_cons.mp hprefix
      exact hrest before htail

/-- Where an allowed action keeps the invariant and any other one leads to a bad state, all states
of a run are good exactly where every action is allowed. -/
theorem good_iff_allowed (f : σ → α → σ) (Good : σ → Prop) (ok : σ → α → Prop)
    {Inv : σ → Prop} {s : σ} (hgood : ∀ {s}, Inv s → Good s)
    (hkeep : ∀ {s a}, Inv s → ok s a → Inv (f s a))
    (hbreak : ∀ {s a}, Inv s → ¬ ok s a → ¬ Good (f s a)) (as : List α) (hs : Inv s) :
    (∀ before, before <+: as → Good (before.foldl f s)) ↔
      ∀ before c after, as = before ++ c :: after → ok (before.foldl f s) c := by
  induction as generalizing s with
  | nil =>
    refine ⟨fun _ => forall_split_nil ok, fun _ before hprefix => ?_⟩
    rw [List.prefix_nil.mp hprefix]
    exact hgood hs
  | cons a as ih =>
    rw [forall_prefix_cons, forall_split_cons ok]
    constructor
    · rintro ⟨-, hrest⟩
      have hfirst : ok s a := by
        by_contra hbad
        exact hbreak hs hbad (hrest [] List.nil_prefix)
      exact ⟨hfirst, (ih (hkeep hs hfirst)).mp hrest⟩
    · rintro ⟨hfirst, hrest⟩
      exact ⟨hgood hs, (ih (hkeep hs hfirst)).mpr hrest⟩

end StepRuns
