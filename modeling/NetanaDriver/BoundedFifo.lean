import NetanaDriver.StepRuns

/-! A first-in first-out buffer of bounded capacity, with its history: everything that was ever
put in, and how many of these entries have been taken out. -/
namespace BoundedFifo

variable {α : Type*} {n : ℕ}

structure Fifo (α : Type*) (n : ℕ) where
  entries : List α
  taken : ℕ
  taken_le : taken ≤ entries.length
  fits : entries.length ≤ taken + n

def Fifo.empty : Fifo α n := ⟨[], 0, le_rfl, Nat.zero_le _⟩

/-- What has been taken out, oldest first. -/
def Fifo.received (f : Fifo α n) : List α := f.entries.take f.taken

/-- What is in the buffer, oldest first. -/
def Fifo.contents (f : Fifo α n) : List α := f.entries.drop f.taken

/-- Put an entry in, if there is room. -/
def Fifo.put (f : Fifo α n) (x : α) : Option (Fifo α n) :=
  if h : f.entries.length < f.taken + n then some
    { entries := f.entries ++ [x]
      taken := f.taken
      taken_le := by
        rw [List.length_append]
        exact f.taken_le.trans (Nat.le_add_right _ _)
      fits := by
        rw [List.length_append]
        exact h }
  else none

/-- Take the oldest entry out, if there is one. -/
def Fifo.take (f : Fifo α n) : Option (Fifo α n) :=
  if h : f.taken < f.entries.length then some
    { entries := f.entries
      taken := f.taken + 1
      taken_le := h
      fits := by
        have hfits := f.fits
        omega }
  else none

inductive FifoAction (α : Type*) where
  | put (x : α)
  | take

def fifoStep (f : Fifo α n) : FifoAction α → Option (Fifo α n)
  | .put x => f.put x
  | .take => f.take

theorem put_of_room {f : Fifo α n} (x : α) (h : f.entries.length < f.taken + n) :
    ∃ g, f.put x = some g ∧ g.entries = f.entries ++ [x] ∧ g.taken = f.taken :=
  ⟨_, dif_pos h, rfl, rfl⟩

theorem take_of_pending {f : Fifo α n} (h : f.taken < f.entries.length) :
    ∃ g, f.take = some g ∧ g.entries = f.entries ∧ g.taken = f.taken + 1 :=
  ⟨_, dif_pos h, rfl, rfl⟩

end BoundedFifo
