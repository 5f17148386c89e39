import Mathlib

/-! A table of numbered slots, in which a new entry takes the free slot of the lowest number. -/
namespace SlotTable

variable {α : Type*}

/-- The slots that have been used so far; every later slot is free. -/
abbrev Table (α : Type*) := List (Option α)

def find (t : Table α) (i : ℕ) : Option α := t[i]?.join

def lowestFree (t : Table α) : ℕ := t.findIdx Option.isNone

/-- Take the lowest free slot, if its number is below the limit. -/
def alloc (limit : ℕ) (t : Table α) (a : α) : Option (Table α × ℕ) :=
  let i := lowestFree t
  if i < limit then some (if i < t.length then t.set i (some a) else t ++ [some a], i) else none

def remove (t : Table α) (i : ℕ) : Table α := t.set i none

@[simp] theorem find_nil (i : ℕ) : find ([] : Table α) i = none := rfl

theorem lowestFree_le (t : Table α) : lowestFree t ≤ t.length := List.findIdx_le_length

theorem find_lowestFree (t : Table α) : find t (lowestFree t) = none := by
  unfold find
  by_cases h : lowestFree t < t.length
  · have hfree : (t[lowestFree t]).isNone = true := List.findIdx_getElem (w := h)
    rw [List.getElem?_eq_getElem h, Option.isNone_iff_eq_none.mp hfree]
    rfl
  · rw [List.getElem?_eq_none (not_lt.mp h)]
    rfl

/-- Every slot below the lowest free one is taken. -/
theorem find_of_lt_lowestFree {t : Table α} {j : ℕ} (h : j < lowestFree t) :
    ∃ a, find t j = some a := by
  have hlength : j < t.length := lt_of_lt_of_le h (lowestFree_le t)
  have htaken : (t[j]).isNone = false := List.not_of_lt_findIdx h
  rw [find, List.getElem?_eq_getElem hlength]
  cases hslot : t[j] with
  | none =>
    rw [hslot] at htaken
    exact absurd htaken (by simp)
  | some a => exact ⟨a, rfl⟩

theorem find_remove (t : Table α) (i j : ℕ) :
    find (remove t i) j = if j = i then none else find t j := by
  unfold find remove
  by_cases h : j = i
  · subst h
    rw [if_pos rfl, List.getElem?_set_self']
    cases t[j]? with
    | none => rfl
    | some a => rfl
  · rw [if_neg h, List.getElem?_set_ne (Ne.symm h)]

theorem alloc_eq_some {limit : ℕ} {t u : Table α} {a : α} {i : ℕ}
    (h : alloc limit t a = some (u, i)) :
    i = lowestFree t ∧ i < limit ∧
      u = if lowestFree t < t.length then t.set (lowestFree t) (some a) else t ++ [some a] := by
  unfold alloc at h
  by_cases hlimit : lowestFree t < limit
  · simp only [if_pos hlimit, Option.some.injEq, Prod.mk.injEq] at h
    exact ⟨h.2.symm, h.2 ▸ hlimit, h.1.symm⟩
  · simp [hlimit] at h

theorem find_alloc {limit : ℕ} {t u : Table α} {a : α} {i : ℕ}
    (h : alloc limit t a = some (u, i)) (j : ℕ) :
    find u j = if j = i then some a else find t j := by
  obtain ⟨rfl, -, rfl⟩ := alloc_eq_some h
  unfold find
  by_cases hlength : lowestFree t < t.length
  · rw [if_pos hlength]
    by_cases hj : j = lowestFree t
    · rw [if_pos hj, hj, List.getElem?_set_self hlength]
      rfl
    · rw [if_neg hj, List.getElem?_set_ne (Ne.symm hj)]
  · rw [if_neg hlength]
    have hend : lowestFree t = t.length := le_antisymm (lowestFree_le t) (not_lt.mp hlength)
    by_cases hj : j = lowestFree t
    · rw [if_pos hj, hj, hend, List.getElem?_concat_length]
      rfl
    · rw [if_neg hj]
      by_cases hbefore : j < t.length
      · rw [List.getElem?_append_left hbefore]
      · have hafter : t.length < j := by omega
        have hlong : (t ++ [some a]).length ≤ j := by
          rw [List.length_append]
          exact hafter
        rw [List.getElem?_eq_none hafter.le, List.getElem?_eq_none hlong]

end SlotTable
