import Mathlib

/-! What a program holds of its resources: every one that has been acquired and not yet released,
as often as it is held. To release what is not held is an error. -/
namespace ResourceLedger

variable {R : Type*}

abbrev Ledger (R : Type*) := Multiset R

def release [DecidableEq R] (r : R) (l : Ledger R) : Except R (Ledger R) :=
  if r ∈ l then .ok (l.erase r) else .error r

/-- Everything else stays. -/
theorem release_add [DecidableEq R] (r : R) (l : Ledger R) : release r ({r} + l) = .ok l := by
  rw [Multiset.singleton_add, release, if_pos (Multiset.mem_cons_self r l),
    Multiset.erase_cons_head]

/-- Each of the holders has its share, and one of them is given up. -/
theorem sum_erase {ι : Type*} [DecidableEq ι] (holds : ι → Ledger R) {is : List ι} {i : ι}
    (hi : i ∈ is) :
    (is.map holds).sum = holds i + ((is.erase i).map holds).sum := by
  have hcons := (List.perm_cons_erase hi).map holds
  rw [hcons.sum_eq, List.map_cons, List.sum_cons]

end ResourceLedger
