import Mathlib

/-! A flag that at most one thread holds. What a thread does, if anything, is a position; some
positions lie between taking the flag and giving it back. -/
namespace ExclusiveSection

variable {ι α : Type*}

structure Exclusive (pc : ι → Option α) (inside : α → Bool) (flag : Bool) : Prop where
  alone : ∀ i j p q, pc i = some p → pc j = some q → inside p = true → inside q = true → i = j
  held : ∀ i p, pc i = some p → inside p = true → flag = true

variable {pc pc' : ι → Option α} {inside : α → Bool} {flag : Bool} {i : ι} {next : Option α}

theorem exclusive_none : Exclusive (fun _ : ι => none) inside flag := by
  constructor
  · intro i j p q hi
    cases hi
  · intro i p hi
    cases hi

/-- After a step of one thread the other threads are where they were. -/
theorem others_of_update (hself : pc' i = next) (hothers : ∀ j, j ≠ i → pc' j = pc j) {j : ι}
    {q : α} (hj : pc' j = some q) : (j = i ∧ next = some q) ∨ (j ≠ i ∧ pc j = some q) := by
  by_cases heq : j = i
  · rw [heq, hself] at hj
    exact Or.inl ⟨heq, hj⟩
  · rw [hothers j heq] at hj
    exact Or.inr ⟨heq, hj⟩

/-- With a thread inside every other thread is outside. -/
theorem Exclusive.others (h : Exclusive pc inside flag) {p : α} (hpc : pc i = some p)
    (hin : inside p = true) (j : ι) (q : α) (hj : j ≠ i) (hq : pc j = some q) :
    inside q = false := by
  by_contra hne
  exact hj (h.alone j i q p hq hpc (by simpa using hne) hin)

/-- While the flag is not held everybody is outside. -/
theorem Exclusive.free (h : Exclusive pc inside false) (j : ι) (q : α) (hq : pc j = some q) :
    inside q = false := by
  by_contra hne
  have hheld := h.held j q hq (by simpa using hne)
  cases hheld

/-- All threads but one are outside. -/
theorem exclusive_of_actor (hself : pc' i = next)
    (hothers : ∀ j q, j ≠ i → pc' j = some q → inside q = false)
    (hheld : ∀ q, next = some q → inside q = true → flag = true) :
    Exclusive pc' inside flag := by
  have honly (j : ι) (q : α) (hj : pc' j = some q) (hin : inside q = true) :
      j = i ∧ next = some q := by
    by_cases heq : j = i
    · rw [heq, hself] at hj
      exact ⟨heq, hj⟩
    · rw [hothers j q heq hj] at hin
      cases hin
  constructor
  · intro j k p q hj hk hp hq
    exact (honly j p hj hp).1.trans (honly k q hk hq).1.symm
  · intro j p hj hp
    exact hheld p (honly j p hj hp).2 hp

/-- A thread that finds the flag free takes it. -/
theorem Exclusive.enter (h : Exclusive pc inside false) (hself : pc' i = next)
    (hothers : ∀ j, j ≠ i → pc' j = pc j) : Exclusive pc' inside true := by
  apply exclusive_of_actor hself
  · intro j q hj hq
    rw [hothers j hj] at hq
    exact h.free j q hq
  · exact fun _ _ _ => rfl

/-- The thread inside goes on, or out of its call altogether. -/
theorem Exclusive.stay (h : Exclusive pc inside flag) {p : α} (hpc : pc i = some p)
    (hin : inside p = true) (hself : pc' i = next) (hothers : ∀ j, j ≠ i → pc' j = pc j) :
    Exclusive pc' inside flag := by
  apply exclusive_of_actor hself
  · intro j q hj hq
    rw [hothers j hj] at hq
    exact h.others hpc hin j q hj hq
  · exact fun _ _ _ => h.held i p hpc hin

/-- The thread inside gives the flag back. -/
theorem Exclusive.leave (h : Exclusive pc inside flag) {p : α} (hpc : pc i = some p)
    (hin : inside p = true) (hself : pc' i = next) (hothers : ∀ j, j ≠ i → pc' j = pc j)
    (hout : ∀ q, next = some q → inside q = false) : Exclusive pc' inside false := by
  apply exclusive_of_actor hself
  · intro j q hj hq
    rw [hothers j hj] at hq
    exact h.others hpc hin j q hj hq
  · intro q hq hqin
    rw [hout q hq] at hqin
    cases hqin

/-- A thread moves outside. -/
theorem Exclusive.outside (h : Exclusive pc inside flag) (hself : pc' i = next)
    (hothers : ∀ j, j ≠ i → pc' j = pc j) (hout : ∀ q, next = some q → inside q = false) :
    Exclusive pc' inside flag := by
  have hsub {j : ι} {q : α} (hj : pc' j = some q) (hin : inside q = true) : pc j = some q := by
    rcases others_of_update hself hothers hj with ⟨-, hq⟩ | ⟨-, hj⟩
    · rw [hout q hq] at hin
      cases hin
    · exact hj
  exact ⟨fun j k p q hj hk hp hq => h.alone j k p q (hsub hj hp) (hsub hk hq) hp hq,
    fun j p hj hp => h.held j p (hsub hj hp) hp⟩

end ExclusiveSection
