import Mathlib

/-! Handles that are kept in slots: they are created into a slot, used through it, and deleted
with it, which makes the slot empty. A fault is the use or the deletion of a handle that does not
exist at that time. -/
namespace HandleTable

variable {ι : Type*}

/-- `live` says which handles have been created and not deleted; `next` is the next new one. -/
structure Table (ι : Type*) where
  slot : ι → Option ℕ
  live : ℕ → Bool
  next : ℕ
  fault : Bool

def Table.empty : Table ι :=
  { slot := fun _ => none, live := fun _ => false, next := 0, fault := false }

def use (i : ι) (t : Table ι) : Table ι :=
  match t.slot i with
  | none => { t with fault := true }
  | some n => { t with fault := t.fault || !t.live n }

def useAll (is : List ι) (t : Table ι) : Table ι := is.foldl (fun t i => use i t) t

/-- Every handle that exists is in exactly one slot, and there has been no fault. -/
structure Balanced (t : Table ι) : Prop where
  owned : ∀ n, t.live n = true ↔ ∃ i, t.slot i = some n
  unique : ∀ i j n, t.slot i = some n → t.slot j = some n → i = j
  fresh : ∀ n, t.live n = true → n < t.next
  sound : t.fault = false

theorem use_slot (i j : ι) (t : Table ι) : (use i t).slot j = t.slot j := by
  unfold use
  split
  · rfl
  · rfl

theorem use_fault (i : ι) {t : Table ι} (h : t.fault = true) : (use i t).fault = true := by
  unfold use
  split
  · rfl
  · rw [h, Bool.true_or]

theorem useAll_slot (is : List ι) (t : Table ι) (j : ι) : (useAll is t).slot j = t.slot j := by
  induction is generalizing t with
  | nil => rfl
  | cons i is ih => exact (ih (use i t)).trans (use_slot i j t)

theorem Balanced.empty : Balanced (Table.empty : Table ι) := by
  refine ⟨?_, ?_, ?_, rfl⟩
  · intro n
    simp [Table.empty]
  · intro i j n h
    exact absurd h (by simp [Table.empty])
  · intro n h
    exact absurd h (by simp [Table.empty])

theorem Balanced.use {t : Table ι} (ht : Balanced t) {i : ι} (hi : t.slot i ≠ none) :
    HandleTable.use i t = t := by
  obtain ⟨n, hn⟩ := Option.ne_none_iff_exists'.mp hi
  have hlive : t.live n = true := (ht.owned n).mpr ⟨i, hn⟩
  simp [HandleTable.use, hn, hlive]

theorem Balanced.useAll {t : Table ι} (ht : Balanced t) {is : List ι}
    (hfilled : ∀ i ∈ is, t.slot i ≠ none) : useAll is t = t := by
  induction is with
  | nil => rfl
  | cons i is ih =>
    have hi := ht.use (hfilled i List.mem_cons_self)
    change HandleTable.useAll is (HandleTable.use i t) = t
    rw [hi]
    exact ih fun j hj => hfilled j (List.mem_cons_of_mem i hj)

variable [DecidableEq ι]

/-- A creation that fails leaves the slot empty. -/
def create (i : ι) (ok : Bool) (t : Table ι) : Table ι :=
  if ok then
    { t with
      slot := Function.update t.slot i (some t.next)
      live := Function.update t.live t.next true
      next := t.next + 1 }
  else { t with slot := Function.update t.slot i none }

/-- Nothing happens where the slot is empty. -/
def delete (i : ι) (t : Table ι) : Table ι :=
  match t.slot i with
  | none => t
  | some n =>
    { t with
      slot := Function.update t.slot i none
      live := Function.update t.live n false
      fault := t.fault || !t.live n }

/-- Create into one slot after the other, whatever happens. -/
def createAll (ok : ι → Bool) (is : List ι) (t : Table ι) : Table ι :=
  is.foldl (fun t i => create i (ok i) t) t

/-- Create into one slot after the other, and stop after the first failure. -/
def createWhile (ok : ι → Bool) : List ι → Table ι → Table ι × Bool
  | [], t => (t, true)
  | i :: is, t => if ok i then createWhile ok is (create i true t) else (create i false t, false)

def deleteAll (is : List ι) (t : Table ι) : Table ι := is.foldl (fun t i => delete i t) t

theorem create_slot_self (i : ι) (ok : Bool) (t : Table ι) :
    (create i ok t).slot i = if ok then some t.next else none := by
  cases ok with
  | true => simp [create]
  | false => simp [create]

theorem create_slot_ne {i j : ι} (h : j ≠ i) (ok : Bool) (t : Table ι) :
    (create i ok t).slot j = t.slot j := by
  cases ok with
  | true => simp [create, h]
  | false => simp [create, h]

theorem delete_slot_self (i : ι) (t : Table ι) : (delete i t).slot i = none := by
  unfold delete
  split
  · assumption
  · simp

theorem delete_slot_ne {i j : ι} (h : j ≠ i) (t : Table ι) :
    (delete i t).slot j = t.slot j := by
  unfold delete
  split
  · rfl
  · simp [h]

theorem Balanced.create {t : Table ι} (ht : Balanced t) {i : ι} (hi : t.slot i = none)
    (ok : Bool) : Balanced (create i ok t) := by
  cases ok with
  | false =>
    have hsame : Function.update t.slot i none = t.slot := by
      rw [← hi, Function.update_eq_self]
    have hresult : HandleTable.create i false t = t := by simp [HandleTable.create, hsame]
    rw [hresult]
    exact ht
  | true =>
    have hslot (j : ι) : (HandleTable.create i true t).slot j =
        if j = i then some t.next else t.slot j := by
      by_cases hj : j = i
      · rw [if_pos hj, hj, create_slot_self, if_pos rfl]
      · rw [if_neg hj, create_slot_ne hj]
    have hlive (n : ℕ) : (HandleTable.create i true t).live n =
        if n = t.next then true else t.live n := by
      simp [HandleTable.create, Function.update_apply]
    -- the new handle is in no other slot
    have hunborn (j : ι) : t.slot j ≠ some t.next := by
      intro hj
      exact lt_irrefl _ (ht.fresh _ ((ht.owned _).mpr ⟨j, hj⟩))
    refine ⟨?_, ?_, ?_, ht.sound⟩
    · intro n
      rw [hlive]
      by_cases hn : n = t.next
      · rw [if_pos hn]
        apply iff_of_true rfl
        exact ⟨i, by rw [hslot, if_pos rfl, hn]⟩
      · rw [if_neg hn, ht.owned]
        apply exists_congr
        intro j
        rw [hslot]
        by_cases hj : j = i
        · rw [if_pos hj, hj, hi]
          apply iff_of_false
          · simp
          · intro h
            exact hn (Option.some.inj h).symm
        · rw [if_neg hj]
    · intro j k n hj hk
      rw [hslot] at hj hk
      by_cases hji : j = i
      · by_cases hki : k = i
        · rw [hji, hki]
        · rw [if_pos hji] at hj
          rw [if_neg hki, ← hj] at hk
          exact absurd hk (hunborn k)
      · rw [if_neg hji] at hj
        by_cases hki : k = i
        · rw [if_pos hki] at hk
          rw [← hk] at hj
          exact absurd hj (hunborn j)
        · rw [if_neg hki] at hk
          exact ht.unique j k n hj hk
    · intro n hn
      rw [hlive] at hn
      change n < t.next + 1
      by_cases hnext : n = t.next
      · omega
      · rw [if_neg hnext] at hn
        exact (ht.fresh n hn).trans (Nat.lt_succ_self _)

theorem Balanced.delete {t : Table ι} (ht : Balanced t) (i : ι) : Balanced (delete i t) := by
  cases hi : t.slot i with
  | none =>
    have hresult : HandleTable.delete i t = t := by simp [HandleTable.delete, hi]
    rw [hresult]
    exact ht
  | some m =>
    have hm : t.live m = true := (ht.owned m).mpr ⟨i, hi⟩
    have hslot (j : ι) : (HandleTable.delete i t).slot j = if j = i then none else t.slot j := by
      by_cases hj : j = i
      · rw [if_pos hj, hj, delete_slot_self]
      · rw [if_neg hj, delete_slot_ne hj]
    have hlive (n : ℕ) : (HandleTable.delete i t).live n =
        if n = m then false else t.live n := by
      simp [HandleTable.delete, hi, Function.update_apply]
    have hnext : (HandleTable.delete i t).next = t.next := by simp [HandleTable.delete, hi]
    refine ⟨?_, ?_, ?_, ?_⟩
    · intro n
      rw [hlive]
      by_cases hn : n = m
      · rw [if_pos hn, hn]
        apply iff_of_false (by simp)
        rintro ⟨j, hj⟩
        rw [hslot] at hj
        by_cases hji : j = i
        · rw [if_pos hji] at hj
          exact absurd hj (by simp)
        · rw [if_neg hji] at hj
          exact hji (ht.unique j i m hj hi)
      · rw [if_neg hn, ht.owned]
        apply exists_congr
        intro j
        rw [hslot]
        by_cases hj : j = i
        · rw [if_pos hj, hj, hi]
          apply iff_of_false
          · intro h
            exact hn (Option.some.inj h).symm
          · simp
        · rw [if_neg hj]
    · intro j k n hj hk
      rw [hslot] at hj hk
      by_cases hji : j = i
      · rw [if_pos hji] at hj
        exact absurd hj (by simp)
      · rw [if_neg hji] at hj
        by_cases hki : k = i
        · rw [if_pos hki] at hk
          exact absurd hk (by simp)
        · rw [if_neg hki] at hk
          exact ht.unique j k n hj hk
    · intro n hn
      rw [hlive] at hn
      rw [hnext]
      by_cases hnm : n = m
      · rw [if_pos hnm] at hn
        exact absurd hn (by simp)
      · rw [if_neg hnm] at hn
        exact ht.fresh n hn
    · simp [HandleTable.delete, hi, hm, ht.sound]

theorem createAll_slot {ok : ι → Bool} {is : List ι} {j : ι} (h : j ∉ is) (t : Table ι) :
    (createAll ok is t).slot j = t.slot j := by
  induction is generalizing t with
  | nil => rfl
  | cons i is ih =>
    rw [List.mem_cons, not_or] at h
    have hrest := ih h.2 (create i (ok i) t)
    exact hrest.trans (create_slot_ne h.1 _ _)

theorem Balanced.createAll {t : Table ι} (ht : Balanced t) (ok : ι → Bool) {is : List ι}
    (hnodup : is.Nodup) (hempty : ∀ i ∈ is, t.slot i = none) :
    Balanced (createAll ok is t) := by
  induction is generalizing t with
  | nil => exact ht
  | cons i is ih =>
    obtain ⟨hi, hrest⟩ := List.nodup_cons.mp hnodup
    apply ih (ht.create (hempty i List.mem_cons_self) (ok i)) hrest
    intro j hj
    have hne : j ≠ i := fun hji => hi (hji ▸ hj)
    rw [create_slot_ne hne]
    exact hempty j (List.mem_cons_of_mem i hj)

theorem createWhile_slot {ok : ι → Bool} {is : List ι} {j : ι} (h : j ∉ is) (t : Table ι) :
    (createWhile ok is t).1.slot j = t.slot j := by
  induction is generalizing t with
  | nil => rfl
  | cons i is ih =>
    rw [List.mem_cons, not_or] at h
    unfold createWhile
    split
    · exact (ih h.2 _).trans (create_slot_ne h.1 _ _)
    · exact create_slot_ne h.1 false t

theorem Balanced.createWhile {t : Table ι} (ht : Balanced t) (ok : ι → Bool) {is : List ι}
    (hnodup : is.Nodup) (hempty : ∀ i ∈ is, t.slot i = none) :
    Balanced (createWhile ok is t).1 := by
  induction is generalizing t with
  | nil => exact ht
  | cons i is ih =>
    obtain ⟨hi, hrest⟩ := List.nodup_cons.mp hnodup
    have hempty_i := hempty i List.mem_cons_self
    unfold HandleTable.createWhile
    split
    · apply ih (ht.create hempty_i true) hrest
      intro j hj
      have hne : j ≠ i := fun hji => hi (hji ▸ hj)
      rw [create_slot_ne hne]
      exact hempty j (List.mem_cons_of_mem i hj)
    · exact ht.create hempty_i false

/-- Where nothing has failed, every slot is filled. -/
theorem createWhile_filled {ok : ι → Bool} {is : List ι} (hnodup : is.Nodup) {t : Table ι}
    (h : (createWhile ok is t).2 = true) {i : ι} (hi : i ∈ is) :
    (createWhile ok is t).1.slot i ≠ none := by
  induction is generalizing t with
  | nil => exact absurd hi (by simp)
  | cons k is ih =>
    obtain ⟨hk, hrest⟩ := List.nodup_cons.mp hnodup
    unfold createWhile at h ⊢
    by_cases hok : ok k = true
    · rw [if_pos hok] at h ⊢
      rcases List.mem_cons.mp hi with rfl | hmem
      · rw [createWhile_slot hk, create_slot_self, if_pos rfl]
        simp
      · exact ih hrest h hmem
    · rw [if_neg hok] at h
      exact absurd h (by simp)

theorem create_fault (i : ι) (ok : Bool) (t : Table ι) : (create i ok t).fault = t.fault := by
  cases ok with
  | true => simp [create]
  | false => simp [create]

/-- Creating is never a fault. -/
theorem createWhile_fault (ok : ι → Bool) (is : List ι) (t : Table ι) :
    (createWhile ok is t).1.fault = t.fault := by
  induction is generalizing t with
  | nil => rfl
  | cons i is ih =>
    unfold createWhile
    split
    · exact (ih _).trans (create_fault i true t)
    · exact create_fault i false t

theorem createWhile_ok_iff (ok : ι → Bool) (is : List ι) (t : Table ι) :
    (createWhile ok is t).2 = true ↔ ∀ i ∈ is, ok i = true := by
  induction is generalizing t with
  | nil => simp [createWhile]
  | cons i is ih =>
    unfold createWhile
    by_cases hi : ok i = true
    · rw [if_pos hi, ih]
      constructor
      · intro hall j hj
        rcases List.mem_cons.mp hj with rfl | hj
        · exact hi
        · exact hall j hj
      · exact fun hall j hj => hall j (List.mem_cons_of_mem i hj)
    · rw [if_neg hi]
      apply iff_of_false (by simp)
      intro hall
      exact hi (hall i List.mem_cons_self)

/-- A slot that is the first one is filled where its creation succeeds, and empty where it
fails. -/
theorem createWhile_first (ok : ι → Bool) {i : ι} {is : List ι} (hi : i ∉ is) (t : Table ι) :
    (createWhile ok (i :: is) t).1.slot i = if ok i then some t.next else none := by
  unfold createWhile
  by_cases hok : ok i = true
  · rw [if_pos hok, if_pos hok]
    exact (createWhile_slot hi _).trans (by rw [create_slot_self, if_pos rfl])
  · rw [if_neg hok, if_neg hok]
    rw [create_slot_self]
    rfl

theorem Balanced.deleteAll {t : Table ι} (ht : Balanced t) (is : List ι) :
    Balanced (deleteAll is t) := by
  induction is generalizing t with
  | nil => exact ht
  | cons i is ih => exact ih (ht.delete i)

theorem deleteAll_slot (is : List ι) (t : Table ι) (j : ι) :
    (deleteAll is t).slot j = if j ∈ is then none else t.slot j := by
  induction is generalizing t with
  | nil => rfl
  | cons i is ih =>
    have hrest := ih (delete i t)
    change (deleteAll is (delete i t)).slot j = _
    rw [hrest]
    by_cases hj : j ∈ is
    · rw [if_pos hj, if_pos (List.mem_cons_of_mem i hj)]
    · rw [if_neg hj]
      by_cases hji : j = i
      · rw [if_pos (hji ▸ List.mem_cons_self), hji, delete_slot_self]
      · have hnot : j ∉ i :: is := by
          rw [List.mem_cons, not_or]
          exact ⟨hji, hj⟩
        rw [if_neg hnot, delete_slot_ne hji]

end HandleTable
