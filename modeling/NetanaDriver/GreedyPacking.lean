import Mathlib

/-! Chunks placed one after the other into containers of one capacity: a chunk that does not fit
the current container opens the next one, and nothing is put into a closed container. -/
namespace GreedyPacking

variable {α : Type*}

/-- The closed containers, the oldest first, and the current one. -/
structure Packing (α : Type*) where
  closed : List (List (List α))
  current : List (List α)

/-- How much is in a container. -/
def size (g : List (List α)) : ℕ := g.flatten.length

def Packing.start : Packing α := ⟨[], []⟩

def Packing.place (cap : ℕ) (p : Packing α) (c : List α) : Packing α :=
  if size p.current + c.length ≤ cap then ⟨p.closed, p.current ++ [c]⟩
  else ⟨p.closed ++ [p.current], [c]⟩

def pack (cap : ℕ) (cs : List (List α)) : Packing α := cs.foldl (Packing.place cap) .start

/-- All containers, the oldest first. -/
def Packing.groups (p : Packing α) : List (List (List α)) := p.closed ++ [p.current]

theorem pack_append (cap : ℕ) (cs ds : List (List α)) :
    pack cap (cs ++ ds) = ds.foldl (Packing.place cap) (pack cap cs) := List.foldl_append

theorem size_append_singleton (g : List (List α)) (c : List α) :
    size (g ++ [c]) = size g + c.length := by
  unfold size
  rw [List.flatten_append, List.flatten_singleton, List.length_append]

theorem size_singleton (c : List α) : size [c] = c.length := by
  rw [size, List.flatten_singleton]

theorem sum_size (gs : List (List (List α))) : (gs.map size).sum = gs.flatten.flatten.length := by
  induction gs with
  | nil => rfl
  | cons g gs ih =>
    rw [List.map_cons, List.sum_cons, ih, List.flatten_cons, List.flatten_append,
      List.length_append, size]

theorem length_groups (p : Packing α) : p.groups.length = p.closed.length + 1 := by
  rw [Packing.groups, List.length_append, List.length_singleton]

/-- Nothing is left out and nothing changes its place. -/
theorem flatten_groups_foldl (cap : ℕ) (cs : List (List α)) (p : Packing α) :
    (cs.foldl (Packing.place cap) p).groups.flatten = p.groups.flatten ++ cs := by
  induction cs generalizing p with
  | nil => rw [List.foldl_nil, List.append_nil]
  | cons c cs ih =>
    have hone : (p.place cap c).groups.flatten = p.groups.flatten ++ [c] := by
      unfold Packing.place Packing.groups
      split
      · simp
      · simp
    rw [List.foldl_cons, ih, hone, List.append_assoc, List.singleton_append]

theorem flatten_groups (cap : ℕ) (cs : List (List α)) : (pack cap cs).groups.flatten = cs := by
  rw [pack, flatten_groups_foldl]
  rfl

/-- A closed container stays as it is. -/
theorem closed_prefix_foldl (cap : ℕ) (cs : List (List α)) (p : Packing α) :
    p.closed <+: (cs.foldl (Packing.place cap) p).closed := by
  induction cs generalizing p with
  | nil => exact List.prefix_rfl
  | cons c cs ih =>
    refine List.IsPrefix.trans ?_ (ih (p.place cap c))
    unfold Packing.place
    split
    · exact List.prefix_rfl
    · exact List.prefix_append _ _

/-- No container holds more than its capacity. -/
theorem size_le_foldl {cap : ℕ} (cs : List (List α)) {p : Packing α}
    (hp : ∀ g ∈ p.groups, size g ≤ cap) (hc : ∀ c ∈ cs, c.length ≤ cap) :
    ∀ g ∈ (cs.foldl (Packing.place cap) p).groups, size g ≤ cap := by
  induction cs generalizing p with
  | nil => exact hp
  | cons c cs ih =>
    refine ih ?_ fun d hd => hc d (List.mem_cons_of_mem c hd)
    intro g hg
    unfold Packing.place at hg
    split at hg
    · rename_i hfit
      rcases List.mem_append.mp hg with hg | hg
      · exact hp g (List.mem_append_left _ hg)
      · rw [List.mem_singleton.mp hg, size_append_singleton]
        exact hfit
    · rcases List.mem_append.mp hg with hg | hg
      · exact hp g hg
      · rw [List.mem_singleton.mp hg, size_singleton]
        exact hc c List.mem_cons_self

/-- A container is closed when less than a chunk would fit. -/
theorem lt_size_of_closed {cap l : ℕ} {cs : List (List α)} (hcs : ∀ c ∈ cs, c.length ≤ l) :
    ∀ g ∈ (pack cap cs).closed, cap < size g + l := by
  induction cs using List.reverseRecOn with
  | nil =>
    intro g hg
    cases hg
  | append_singleton cs c ih =>
    have hinit := ih fun d hd => hcs d (List.mem_append_left _ hd)
    have hc : c.length ≤ l := hcs c (by simp)
    intro g hg
    have hplace : pack cap (cs ++ [c]) = (pack cap cs).place cap c := pack_append cap cs [c]
    rw [hplace, Packing.place] at hg
    split at hg
    · exact hinit g hg
    · rename_i hfull
      rcases List.mem_append.mp hg with hg | hg
      · exact hinit g hg
      · rw [List.mem_singleton.mp hg]
        omega

/-- How many containers can be closed. -/
theorem length_closed_mul_le {cap l : ℕ} {cs : List (List α)} (hcs : ∀ c ∈ cs, c.length ≤ l) :
    (pack cap cs).closed.length * (cap + 1 - l) ≤ cs.flatten.length := by
  have hclosed : (pack cap cs).closed.length * (cap + 1 - l) ≤
      ((pack cap cs).closed.map size).sum := by
    have hsum := List.card_nsmul_le_sum ((pack cap cs).closed.map size) (cap + 1 - l)
    rw [List.length_map, smul_eq_mul] at hsum
    apply hsum
    intro k hk
    obtain ⟨g, hg, rfl⟩ := List.mem_map.mp hk
    have hlt := lt_size_of_closed hcs g hg
    omega
  have hall : ((pack cap cs).closed.map size).sum + size (pack cap cs).current =
      cs.flatten.length := by
    have hgroups := sum_size (pack cap cs).groups
    rw [flatten_groups, Packing.groups, List.map_append, List.sum_append, List.map_singleton,
      List.sum_singleton] at hgroups
    exact hgroups
  omega

end GreedyPacking
