import Mathlib

/-! Resources with owners: everything that is live is held by one owner, and nothing else is held.
Every owner holds one resource at most. -/
namespace Ownership

variable {ω ρ : Type*}

structure Owned (hold : ω → Option ρ) (live : ρ → Prop) : Prop where
  live_iff : ∀ r, live r ↔ ∃ o, hold o = some r
  unique : ∀ o o' r, hold o = some r → hold o' = some r → o = o'

variable {hold hold' : ω → Option ρ} {live live' : ρ → Prop} {o o' : ω} {r : ρ}

theorem owned_none : Owned (fun _ : ω => (none : Option ρ)) fun _ => False := by
  constructor
  · simp
  · intro o o' r h
    cases h

theorem Owned.held_live (h : Owned hold live) (ho : hold o = some r) : live r :=
  (h.live_iff r).mpr ⟨o, ho⟩

theorem Owned.congr (h : Owned hold live) (hhold : ∀ o, hold' o = hold o)
    (hlive : ∀ r, live' r ↔ live r) : Owned hold' live' := by
  constructor
  · intro r
    rw [hlive, h.live_iff]
    exact exists_congr fun o => by rw [hhold]
  · intro o o' r ho ho'
    rw [hhold] at ho ho'
    exact h.unique o o' r ho ho'

/-- A new resource is given to an owner that has none. -/
theorem Owned.acquire (h : Owned hold live) (hempty : hold o = none) (hnew : ¬ live r)
    (hself : hold' o = some r) (hothers : ∀ o', o' ≠ o → hold' o' = hold o')
    (hlive : ∀ r', live' r' ↔ r' = r ∨ live r') : Owned hold' live' := by
  -- what the owners hold now
  have hholds (o' : ω) (r' : ρ) : hold' o' = some r' ↔ (o' = o ∧ r' = r) ∨ hold o' = some r' := by
    by_cases ho' : o' = o
    · rw [ho', hself, hempty]
      simp [eq_comm]
    · rw [hothers o' ho']
      simp [ho']
  constructor
  · intro r'
    rw [hlive, h.live_iff]
    simp only [hholds, exists_or, exists_eq_left]
  · intro o₁ o₂ r' h₁ h₂
    rcases (hholds o₁ r').mp h₁ with ⟨rfl, rfl⟩ | h₁ <;>
      rcases (hholds o₂ r').mp h₂ with ⟨rfl, hr⟩ | h₂
    · rfl
    · exact absurd (h.held_live h₂) hnew
    · rw [hr] at h₁
      exact absurd (h.held_live h₁) hnew
    · exact h.unique o₁ o₂ r' h₁ h₂

/-- An owner gives up its resource, which is gone. -/
theorem Owned.release (h : Owned hold live) (hheld : hold o = some r) (hself : hold' o = none)
    (hothers : ∀ o', o' ≠ o → hold' o' = hold o')
    (hlive : ∀ r', live' r' ↔ r' ≠ r ∧ live r') : Owned hold' live' := by
  have hholds (o' : ω) (r' : ρ) : hold' o' = some r' ↔ r' ≠ r ∧ hold o' = some r' := by
    by_cases ho' : o' = o
    · rw [ho', hself, hheld]
      simp [eq_comm]
    · rw [hothers o' ho']
      refine ⟨fun hr' => ⟨?_, hr'⟩, And.right⟩
      rintro rfl
      exact ho' (h.unique o' o r' hr' hheld)
  constructor
  · intro r'
    rw [hlive, h.live_iff]
    simp only [hholds, exists_and_left]
  · intro o₁ o₂ r' h₁ h₂
    exact h.unique o₁ o₂ r' ((hholds o₁ r').mp h₁).2 ((hholds o₂ r').mp h₂).2

/-- One owner hands its resource over to another one. -/
theorem Owned.pass (h : Owned hold live) (hheld : hold o = some r) (hempty : hold o' = none)
    (hself : hold' o = none) (hother : hold' o' = some r)
    (hothers : ∀ u, u ≠ o → u ≠ o' → hold' u = hold u) (hlive : ∀ r', live' r' ↔ live r') :
    Owned hold' live' := by
  classical
  have hne : o' ≠ o := by
    rintro rfl
    rw [hheld] at hempty
    cases hempty
  -- for a moment the resource is gone
  have hreleased : Owned (fun u => if u = o then none else hold u)
      fun r' => r' ≠ r ∧ live r' := by
    apply h.release hheld (if_pos rfl)
    · intro u hu
      exact if_neg hu
    · intro r'
      rfl
  apply hreleased.acquire (o := o') (r := r)
  · rw [if_neg hne, hempty]
  · exact fun hr => hr.1 rfl
  · exact hother
  · intro u hu
    by_cases huo : u = o
    · rw [huo, hself, if_pos rfl]
    · rw [if_neg huo, hothers u huo hu]
  · intro r'
    rw [hlive]
    by_cases hr : r' = r
    · simp [hr, h.held_live hheld]
    · simp [hr]

end Ownership
