import NetanaDriver.ToggleHandshake

/-! A shared word that one party writes and another reads through a cache. The cache holds some
earlier value of the word and may be refreshed to any later one, but never goes back. What the
reader has still to see is the part of the history that starts at the cached value. -/
namespace LaggingCache
open ToggleHandshake

variable {α : Type*}

/-- The values the word has had, oldest first, and which of them is cached. -/
structure Cache (α : Type*) where
  hist : List α
  seen : ℕ
  seen_lt : seen < hist.length

/-- A word that has never been written. -/
def Cache.start (w : α) : Cache α := ⟨[w], 0, Nat.zero_lt_one⟩

/-- The value the reader sees. -/
def Cache.cached (c : Cache α) : α := c.hist.get ⟨c.seen, c.seen_lt⟩

/-- The value the word has now. -/
def Cache.real (c : Cache α) : α :=
  c.hist.getLast (List.ne_nil_of_length_pos (Nat.zero_lt_of_lt c.seen_lt))

/-- The values from the cached one to the present one. -/
def Cache.view (c : Cache α) : List α := c.hist.drop c.seen

/-- The owner of the word writes it. -/
def Cache.write (c : Cache α) (w : α) : Cache α where
  hist := c.hist ++ [w]
  seen := c.seen
  seen_lt := by
    rw [List.length_append]
    exact Nat.lt_add_right _ c.seen_lt

/-- The cache takes over the value number `k`, if that is not an older one. -/
def Cache.refresh (c : Cache α) (k : ℕ) : Option (Cache α) :=
  if h : c.seen ≤ k ∧ k < c.hist.length then some ⟨c.hist, k, h.2⟩ else none

/-- Entries that carry more than the word. -/
def Cache.map {γ : Type*} (g : α → γ) (c : Cache α) : Cache γ where
  hist := c.hist.map g
  seen := c.seen
  seen_lt := by
    rw [List.length_map]
    exact c.seen_lt

inductive CacheAction (α : Type*) where
  | write (w : α)
  | refresh (k : ℕ)

def cacheStep (c : Cache α) : CacheAction α → Option (Cache α)
  | .write w => some (c.write w)
  | .refresh k => c.refresh k

@[simp] theorem cached_start (w : α) : (Cache.start w).cached = w := rfl

@[simp] theorem real_start (w : α) : (Cache.start w).real = w := rfl

@[simp] theorem view_start (w : α) : (Cache.start w).view = [w] := rfl

@[simp] theorem real_write (c : Cache α) (w : α) : (c.write w).real = w := by
  simp [Cache.real, Cache.write]

@[simp] theorem cached_write (c : Cache α) (w : α) : (c.write w).cached = c.cached := by
  simp [Cache.cached, Cache.write, List.getElem_append_left c.seen_lt]

@[simp] theorem cached_map {γ : Type*} (g : α → γ) (c : Cache α) :
    (c.map g).cached = g c.cached := by
  simp [Cache.cached, Cache.map]

@[simp] theorem real_map {γ : Type*} (g : α → γ) (c : Cache α) : (c.map g).real = g c.real := by
  simp [Cache.real, Cache.map]

theorem view_map {γ : Type*} (g : α → γ) (c : Cache α) : (c.map g).view = c.view.map g := by
  rw [Cache.view, Cache.view, Cache.map, List.map_drop]

theorem view_write (c : Cache α) (w : α) : (c.write w).view = c.view ++ [w] := by
  rw [Cache.view, Cache.view, Cache.write, List.drop_append_of_le_length c.seen_lt.le]

theorem cached_mem_view (c : Cache α) : c.cached ∈ c.view := by
  rw [Cache.view, List.drop_eq_getElem_cons c.seen_lt]
  exact List.mem_cons_self

theorem real_mem_view (c : Cache α) : c.real ∈ c.view := by
  have hne : c.view ≠ [] := List.ne_nil_of_mem (cached_mem_view c)
  have hlast : c.view.getLast hne = c.real := by
    simp only [Cache.view, Cache.real, List.getLast_drop]
  rw [← hlast]
  exact List.getLast_mem hne

/-- The view begins with what the reader sees. -/
theorem view_eq_cons (c : Cache α) : ∃ xs, c.view = c.cached :: xs :=
  ⟨_, List.drop_eq_getElem_cons c.seen_lt⟩

/-- The view ends with what is there. -/
theorem view_eq_append (c : Cache α) : ∃ xs, c.view = xs ++ [c.real] := by
  have hne : c.view ≠ [] := List.ne_nil_of_mem (cached_mem_view c)
  refine ⟨c.view.dropLast, ?_⟩
  have hlast : c.view.getLast hne = c.real := by
    simp only [Cache.view, Cache.real, List.getLast_drop]
  rw [← hlast]
  exact (List.dropLast_append_getLast hne).symm

/-- A refresh that finds nothing newer. -/
theorem refresh_seen (c : Cache α) : c.refresh c.seen = some c := by
  rw [Cache.refresh, dif_pos ⟨le_rfl, c.seen_lt⟩]

theorem refresh_of_le {c : Cache α} {k : ℕ} {w : α} (h : c.seen ≤ k) (hk : c.hist[k]? = some w) :
    ∃ d, c.refresh k = some d ∧ d.cached = w := by
  obtain ⟨hlt, hget⟩ := List.getElem?_eq_some_iff.mp hk
  exact ⟨⟨c.hist, k, hlt⟩, by rw [Cache.refresh, dif_pos ⟨h, hlt⟩], hget⟩

theorem refresh_eq_some {c d : Cache α} {k : ℕ} (h : c.refresh k = some d) :
    d.hist = c.hist ∧ d.seen = k ∧ c.seen ≤ k := by
  rw [Cache.refresh] at h
  split at h
  · rename_i hk
    cases h
    exact ⟨rfl, rfl, hk.1⟩
  · cases h

theorem real_refresh {c d : Cache α} {k : ℕ} (h : c.refresh k = some d) :
    d.real = c.real := by
  have hhist := (refresh_eq_some h).1
  simp only [Cache.real, hhist]

theorem view_refresh {c d : Cache α} {k : ℕ} (h : c.refresh k = some d) :
    d.view.Sublist c.view := by
  obtain ⟨hhist, hseen, hle⟩ := refresh_eq_some h
  rw [Cache.view, Cache.view, hhist, hseen]
  exact List.drop_sublist_drop_left _ hle

/-- The successive values of a Boolean part of the word do not leave `v` once they are there. -/
def Cache.LatchedOn (c : Cache α) (f : α → Bool) (v : Bool) : Prop := Latched v (c.view.map f)

theorem Cache.LatchedOn.refresh {c d : Cache α} {f : α → Bool} {v : Bool} {k : ℕ}
    (hl : c.LatchedOn f v) (h : c.refresh k = some d) : d.LatchedOn f v :=
  Latched.sublist hl ((view_refresh h).map f)

/-- The owner brings the part to the latched value. -/
theorem Cache.LatchedOn.write_latch {c : Cache α} {f : α → Bool} {v : Bool} {w : α}
    (hl : c.LatchedOn f v) (hw : f w = v) : (c.write w).LatchedOn f v := by
  rw [Cache.LatchedOn, view_write, List.map_append, List.map_singleton, hw]
  exact Latched.append_self hl

/-- The owner changes another part of the word. -/
theorem Cache.LatchedOn.write_same {c : Cache α} {f : α → Bool} {v : Bool} {w : α}
    (hl : c.LatchedOn f v) (hw : f w = f c.real) : (c.write w).LatchedOn f v := by
  obtain ⟨xs, hxs⟩ := view_eq_append c
  have hl' : Latched v (xs.map f ++ [f c.real]) := by
    have hcopy := hl
    rw [Cache.LatchedOn, hxs] at hcopy
    simpa using hcopy
  rw [Cache.LatchedOn, view_write, hxs, List.map_append, List.map_append, List.map_singleton,
    List.map_singleton, hw, List.append_assoc]
  exact Latched.append_last hl'

/-- When the reader sees the latched value, nothing else is left to see. -/
theorem Cache.LatchedOn.all_of_cached {c : Cache α} {f : α → Bool} {v : Bool} (hl : c.LatchedOn f v)
    (hc : f c.cached = v) : ∀ w ∈ c.view, f w = v := by
  obtain ⟨xs, hxs⟩ := view_eq_cons c
  rw [Cache.LatchedOn, hxs, List.map_cons] at hl
  intro w hw
  rw [hxs] at hw
  exact Latched.all_of_head hl hc (f w) (List.mem_map_of_mem (f := f) hw)

/-- What the reader sees as latched is latched. -/
theorem Cache.LatchedOn.real_of_cached {c : Cache α} {f : α → Bool} {v : Bool}
    (hl : c.LatchedOn f v) (hc : f c.cached = v) : f c.real = v :=
  hl.all_of_cached hc c.real (real_mem_view c)

/-- While the owner has not latched, there is nothing latched to be seen at all. -/
theorem Cache.LatchedOn.none_of_real {c : Cache α} {f : α → Bool} {v : Bool}
    (hl : c.LatchedOn f v) (hr : f c.real = !v) : ∀ w ∈ c.view, f w = !v := by
  obtain ⟨xs, hxs⟩ := view_eq_append c
  rw [Cache.LatchedOn, hxs, List.map_append, List.map_singleton] at hl
  have hnone := Latched.none_of_last hl (by rw [hr]; simp)
  intro w hw
  rw [hxs] at hw
  have hmem : f w ∈ xs.map f ++ [f c.real] := by
    rw [← List.map_singleton, ← List.map_append]
    exact List.mem_map_of_mem hw
  exact Bool.eq_not.mpr (hnone (f w) hmem)

/-- Once all that is left to see is the old value, the next change latches. -/
theorem latchedOn_of_all {c : Cache α} {f : α → Bool} {v : Bool}
    (h : ∀ w ∈ c.view, f w = v) : c.LatchedOn f (!v) := by
  apply latched_of_none
  intro y hy
  obtain ⟨w, hw, rfl⟩ := List.mem_map.mp hy
  rw [h w hw]
  simp

/-- When all that is left to see is the latched value, it is latched. -/
theorem latchedOn_of_latched {c : Cache α} {f : α → Bool} {v : Bool}
    (h : ∀ w ∈ c.view, f w = v) : c.LatchedOn f v := by
  apply List.pairwise_of_forall_mem_list
  intro x _ y hy _
  obtain ⟨w, hw, rfl⟩ := List.mem_map.mp hy
  exact h w hw

end LaggingCache
