import Mathlib

/-! Linked tail queues as operations on pointers: the singly linked queue `STAILQ` and the doubly
linked queue `TAILQ` (sys/queue.h), and the lists that they stand for. -/
namespace TailQueue

variable {α : Type*}

/-- Where a pointer to an element is kept: in the head of the queue, or in an element. -/
inductive Link (α : Type*) where
  | first
  | next (elm : α)
  deriving DecidableEq, Repr

inductive Fault where
  | nullPointer
  -- a walk that goes round
  | endless
  deriving DecidableEq, Repr

/-- The head of a queue and the fields of the elements; `STAILQ` has no `prev`. -/
structure Queue (α : Type*) where
  first : Option α
  last : Link α
  next : α → Option α
  prev : α → Link α

/-- Read through the address of a pointer. -/
def Queue.load (q : Queue α) : Link α → Option α
  | .first => q.first
  | .next elm => q.next elm

def Queue.setLast (q : Queue α) (l : Link α) : Queue α := { q with last := l }

/-- `STAILQ_INIT` and `TAILQ_INIT`. -/
def Queue.init (q : Queue α) : Queue α := { q with first := none, last := .first }

variable [DecidableEq α]

def Queue.setPrev (q : Queue α) (elm : α) (l : Link α) : Queue α :=
  { q with prev := Function.update q.prev elm l }

/-- Write through the address of a pointer. -/
def Queue.store (q : Queue α) (l : Link α) (v : Option α) : Queue α :=
  match l with
  | .first => { q with first := v }
  | .next elm => { q with next := Function.update q.next elm v }

/-- `STAILQ_INSERT_TAIL`. -/
def Queue.stailqInsertTail (elm : α) (q : Queue α) : Queue α :=
  let q := q.store (.next elm) none
  let q := q.store q.last (some elm)
  q.setLast (.next elm)

/-- `STAILQ_REMOVE_HEAD`. -/
def Queue.stailqRemoveHead (q : Queue α) : Except Fault (Queue α) :=
  match q.first with
  | none => .error .nullPointer
  | some elm =>
    let q := q.store .first (q.next elm)
    .ok (if q.first = none then q.setLast .first else q)

/-- The loop of `STAILQ_REMOVE`, which looks for the element before `elm`. -/
def Queue.before (q : Queue α) (elm : α) : ℕ → Option α → Except Fault α
  | 0, _ => .error .endless
  | _ + 1, none => .error .nullPointer
  | fuel + 1, some curelm =>
    if q.next curelm = some elm then .ok curelm else q.before elm fuel (q.next curelm)

/-- `STAILQ_REMOVE`. -/
def Queue.stailqRemove (fuel : ℕ) (elm : α) (q : Queue α) : Except Fault (Queue α) :=
  if q.first = some elm then q.stailqRemoveHead
  else
    (q.before elm fuel q.first).map fun curelm =>
      let q := q.store (.next curelm) (q.next elm)
      if q.next curelm = none then q.setLast (.next curelm) else q

/-- `TAILQ_INSERT_TAIL`. -/
def Queue.tailqInsertTail (elm : α) (q : Queue α) : Queue α :=
  let q := q.store (.next elm) none
  let q := q.setPrev elm q.last
  let q := q.store q.last (some elm)
  q.setLast (.next elm)

/-- `TAILQ_REMOVE`. -/
def Queue.tailqRemove (elm : α) (q : Queue α) : Queue α :=
  let q := match q.next elm with
    | some n => q.setPrev n (q.prev elm)
    | none => q.setLast (q.prev elm)
  q.store (q.prev elm) (q.next elm)

/-- The link at which an element hangs gets its successor, and is the last one if there is none. -/
def Queue.cut (q : Queue α) (l : Link α) (elm : α) : Queue α :=
  let r := q.store l (q.load (.next elm))
  if q.load (.next elm) = none then r.setLast l else r

omit [DecidableEq α] in
/-- The search of the `FOREACH` loops for the first element with a property. -/
def Queue.search (q : Queue α) (found : α → Bool) : ℕ → Option α → Except Fault (Option α)
  | 0, _ => .error .endless
  | _ + 1, none => .ok none
  | fuel + 1, some elm =>
    if found elm then .ok (some elm) else q.search found fuel (q.next elm)

omit [DecidableEq α]

/-- The link behind a list of elements, if the first of them hangs at `l`. -/
def endLink : Link α → List α → Link α
  | l, [] => l
  | _, elm :: elms => endLink (.next elm) elms

/-- From the link `l` on, the queue runs through the elements. -/
def Segment (q : Queue α) : Link α → List α → Prop
  | _, [] => True
  | l, elm :: elms => q.load l = some elm ∧ Segment q (.next elm) elms

/-- The elements have the addresses of the links at which they hang. -/
def Back (q : Queue α) : Link α → List α → Prop
  | _, [] => True
  | l, elm :: elms => q.prev elm = l ∧ Back q (.next elm) elms

/-- The singly linked queue stands for the list. -/
structure Represents (q : Queue α) (elms : List α) : Prop where
  segment : Segment q .first elms
  last : q.last = endLink .first elms
  stop : q.load q.last = none
  nodup : elms.Nodup

/-- The doubly linked queue stands for the list. -/
structure Doubly (q : Queue α) (elms : List α) : Prop extends Represents q elms where
  back : Back q .first elms

variable {q : Queue α} {l t : Link α} {elm : α} {elms elms' : List α}

@[simp] theorem load_setLast (q : Queue α) (t l : Link α) : (q.setLast t).load l = q.load l := by
  cases l <;> rfl

@[simp] theorem last_setLast (q : Queue α) (t : Link α) : (q.setLast t).last = t := rfl

@[simp] theorem next_setLast (q : Queue α) (t : Link α) : (q.setLast t).next = q.next := rfl

@[simp] theorem prev_setLast (q : Queue α) (t : Link α) : (q.setLast t).prev = q.prev := rfl

theorem endLink_append : endLink l (elms ++ elms') = endLink (endLink l elms) elms' := by
  induction elms generalizing l with
  | nil => rfl
  | cons e elms ih => exact ih

theorem endLink_eq (l : Link α) (elms : List α) :
    endLink l elms = l ∧ elms = [] ∨ ∃ e ∈ elms, endLink l elms = .next e := by
  induction elms generalizing l with
  | nil => exact Or.inl ⟨rfl, rfl⟩
  | cons e elms ih =>
    right
    rcases ih (.next e) with ⟨h, -⟩ | ⟨d, hd, h⟩
    · exact ⟨e, List.mem_cons_self, h⟩
    · exact ⟨d, List.mem_cons_of_mem e hd, h⟩

/-- The end is no link of an element outside the list. -/
theorem endLink_ne (hl : l ≠ .next elm) (h : elm ∉ elms) : endLink l elms ≠ .next elm := by
  rcases endLink_eq l elms with ⟨hend, -⟩ | ⟨e, he, hend⟩
  · rw [hend]
    exact hl
  · rw [hend]
    intro heq
    exact h (Link.next.inj heq ▸ he)

theorem segment_append :
    Segment q l (elms ++ elms') ↔ Segment q l elms ∧ Segment q (endLink l elms) elms' := by
  induction elms generalizing l with
  | nil => exact (iff_of_eq (true_and _)).symm
  | cons e elms ih =>
    rw [List.cons_append]
    exact (and_congr_right fun _ => ih).trans and_assoc.symm

theorem back_append :
    Back q l (elms ++ elms') ↔ Back q l elms ∧ Back q (endLink l elms) elms' := by
  induction elms generalizing l with
  | nil => exact (iff_of_eq (true_and _)).symm
  | cons e elms ih =>
    rw [List.cons_append]
    exact (and_congr_right fun _ => ih).trans and_assoc.symm

theorem init_represents (q : Queue α) : Represents q.init [] :=
  ⟨trivial, rfl, rfl, List.nodup_nil⟩

theorem init_doubly (q : Queue α) : Doubly q.init [] := ⟨init_represents q, trivial⟩

/-- What only looks at the pointers does not see the links back. -/
theorem Segment.congr {r : Queue α} (hload : ∀ l, r.load l = q.load l)
    (h : Segment q l elms) : Segment r l elms := by
  induction elms generalizing l with
  | nil => trivial
  | cons e elms ih => exact ⟨(hload l).trans h.1, ih h.2⟩

/-- What the pointers tell decides what a queue stands for. -/
theorem Represents.congr {r : Queue α} (hload : ∀ l, r.load l = q.load l) (hlast : r.last = q.last)
    (h : Represents q elms) : Represents r elms :=
  ⟨h.segment.congr hload, hlast.trans h.last, by rw [hload, hlast]; exact h.stop, h.nodup⟩

theorem Back.congr {r : Queue α} (hprev : ∀ e ∈ elms, r.prev e = q.prev e)
    (h : Back q l elms) : Back r l elms := by
  induction elms generalizing l with
  | nil => trivial
  | cons e elms ih =>
    refine ⟨(hprev e List.mem_cons_self).trans h.1, ih (fun d hd => ?_) h.2⟩
    exact hprev d (List.mem_cons_of_mem e hd)

/-- An element of the queue splits it. -/
theorem Represents.split {before after : List α} (h : Represents q (before ++ elm :: after)) :
    Segment q .first before ∧ q.load (endLink .first before) = some elm ∧
      Segment q (.next elm) after ∧ elm ∉ before ∧ elm ∉ after ∧ before.Nodup ∧ after.Nodup ∧
      ∀ e ∈ before, e ∉ after := by
  obtain ⟨hbefore, hload, hafter⟩ := segment_append.mp h.segment
  obtain ⟨hnodup, hnodupAfter, hdisjoint⟩ := List.nodup_append.mp h.nodup
  obtain ⟨hnotAfter, hnodupAfter⟩ := List.nodup_cons.mp hnodupAfter
  refine ⟨hbefore, hload, hafter, ?_, hnotAfter, hnodup, hnodupAfter, ?_⟩
  · exact fun hmem => hdisjoint elm hmem elm List.mem_cons_self rfl
  · exact fun e he hmem => hdisjoint e he e (List.mem_cons_of_mem elm hmem) rfl

theorem Represents.next_of_split {before after : List α}
    (h : Represents q (before ++ elm :: after)) : q.next elm = after.head? := by
  cases after with
  | nil =>
    have hend : endLink .first (before ++ [elm]) = .next elm := endLink_append
    have hstop := h.stop
    rwa [h.last, hend] at hstop
  | cons a after => exact h.split.2.2.1.1

/-- The walk over the queue finds what a search in the list finds. -/
theorem search_segment (found : α → Bool) {fuel : ℕ} (hseg : Segment q l elms)
    (hstop : q.load (endLink l elms) = none) (hfuel : elms.length < fuel) :
    q.search found fuel (q.load l) = .ok (elms.find? found) := by
  induction elms generalizing l fuel with
  | nil =>
    obtain ⟨fuel, rfl⟩ : ∃ n, fuel = n + 1 := ⟨fuel - 1, by simp at hfuel; omega⟩
    have hnone : q.load l = none := hstop
    rw [hnone]
    rfl
  | cons e elms ih =>
    obtain ⟨fuel, rfl⟩ : ∃ n, fuel = n + 1 := ⟨fuel - 1, by simp at hfuel; omega⟩
    rw [hseg.1]
    unfold Queue.search
    by_cases hfound : found e = true
    · rw [if_pos hfound, List.find?_cons_of_pos hfound]
    · rw [if_neg hfound, List.find?_cons_of_neg hfound]
      exact ih hseg.2 hstop (by simpa using hfuel)

theorem Represents.search (h : Represents q elms) (found : α → Bool) {fuel : ℕ}
    (hfuel : elms.length < fuel) : q.search found fuel q.first = .ok (elms.find? found) :=
  search_segment found h.segment (h.last ▸ h.stop) hfuel

variable [DecidableEq α]

@[simp] theorem load_store (q : Queue α) (t l : Link α) (v : Option α) :
    (q.store t v).load l = if l = t then v else q.load l := by
  cases t with
  | first => cases l <;> simp [Queue.store, Queue.load]
  | next e =>
    cases l with
    | first => simp [Queue.store, Queue.load]
    | next d => simp [Queue.store, Queue.load, Function.update_apply]

@[simp] theorem last_store (q : Queue α) (t : Link α) (v : Option α) :
    (q.store t v).last = q.last := by
  cases t <;> rfl

@[simp] theorem prev_store (q : Queue α) (t : Link α) (v : Option α) :
    (q.store t v).prev = q.prev := by
  cases t <;> rfl

@[simp] theorem load_setPrev (q : Queue α) (e : α) (s l : Link α) :
    (q.setPrev e s).load l = q.load l := by
  cases l <;> rfl

@[simp] theorem last_setPrev (q : Queue α) (e : α) (s : Link α) :
    (q.setPrev e s).last = q.last := rfl

@[simp] theorem next_setPrev (q : Queue α) (e : α) (s : Link α) :
    (q.setPrev e s).next = q.next := rfl

@[simp] theorem prev_setPrev (q : Queue α) (e : α) (s : Link α) :
    (q.setPrev e s).prev = Function.update q.prev e s := rfl

/-- Writing to a link that the segment does not go through. -/
theorem Segment.store {v : Option α} (hl : t ≠ l) (ht : ∀ e ∈ elms, t ≠ .next e)
    (h : Segment q l elms) : Segment (q.store t v) l elms := by
  induction elms generalizing l with
  | nil => trivial
  | cons e elms ih =>
    refine ⟨?_, ih (ht e List.mem_cons_self) (fun d hd => ht d (List.mem_cons_of_mem e hd)) h.2⟩
    rw [load_store, if_neg hl.symm]
    exact h.1

/-- Writing to the link at the end of a segment. -/
theorem Segment.store_end {v : Option α} (hnodup : elms.Nodup) (hl : ∀ e ∈ elms, l ≠ .next e)
    (h : Segment q l elms) : Segment (q.store (endLink l elms) v) l elms := by
  induction elms generalizing l with
  | nil => trivial
  | cons e elms ih =>
    obtain ⟨hnot, hnodup⟩ := List.nodup_cons.mp hnodup
    have hother : ∀ d ∈ elms, Link.next e ≠ .next d := fun d hd heq =>
      hnot (Link.next.inj heq ▸ hd)
    have hend : l ≠ endLink (.next e) elms := by
      rcases endLink_eq (.next e) elms with ⟨h0, -⟩ | ⟨d, hd, h0⟩
      · rw [h0]
        exact hl e List.mem_cons_self
      · rw [h0]
        exact hl d (List.mem_cons_of_mem e hd)
    refine ⟨?_, ih hnodup hother h.2⟩
    rw [load_store, endLink, if_neg hend]
    exact h.1

theorem Represents.insertTail (h : Represents q elms) (hnew : elm ∉ elms) :
    Represents (q.stailqInsertTail elm) (elms ++ [elm]) := by
  have hlast : q.last ≠ .next elm := by
    rw [h.last]
    exact endLink_ne (by simp) hnew
  have hsegment : Segment (q.store (.next elm) none) .first elms :=
    h.segment.store (by simp) fun e he heq => hnew (Link.next.inj heq ▸ he)
  have hsegment : Segment ((q.store (.next elm) none).store q.last (some elm)) .first elms := by
    rw [h.last]
    exact hsegment.store_end h.nodup (by simp)
  refine ⟨?_, ?_, ?_, ?_⟩
  · apply segment_append.mpr
    refine ⟨hsegment.congr fun l => load_setLast _ _ l, ?_, trivial⟩
    rw [← h.last]
    simp [Queue.stailqInsertTail]
  · rw [endLink_append]
    rfl
  · simp [Queue.stailqInsertTail, hlast.symm]
  · exact List.nodup_append.mpr ⟨h.nodup, List.nodup_singleton elm, fun a ha b hb hab =>
      hnew (List.mem_singleton.mp hb ▸ hab ▸ ha)⟩

@[simp] theorem load_cut (q : Queue α) (t l : Link α) (elm : α) :
    (q.cut t elm).load l = if l = t then q.load (.next elm) else q.load l := by
  unfold Queue.cut
  by_cases hnone : q.load (.next elm) = none
  · simp [hnone]
  · simp [hnone]

@[simp] theorem last_cut (q : Queue α) (t : Link α) (elm : α) :
    (q.cut t elm).last = if q.load (.next elm) = none then t else q.last := by
  unfold Queue.cut
  by_cases hnone : q.load (.next elm) = none
  · simp [hnone]
  · simp [hnone]

theorem stailqRemoveHead_eq (h : q.first = some elm) :
    q.stailqRemoveHead = .ok (q.cut .first elm) := by
  rw [Queue.stailqRemoveHead, h]
  rfl

theorem stailqRemove_eq {fuel : ℕ} (h : q.first ≠ some elm) : q.stailqRemove fuel elm =
    (q.before elm fuel q.first).map fun curelm => q.cut (.next curelm) elm := by
  rw [Queue.stailqRemove, if_neg h]
  congr 1
  funext curelm
  have hnext : (q.store (.next curelm) (q.next elm)).next curelm = q.load (.next elm) := by
    simp [Queue.store, Queue.load]
  by_cases hnone : q.load (.next elm) = none
  · exact (if_pos (hnext.trans hnone)).trans (if_pos hnone).symm
  · exact (if_neg (hnext.trans_ne hnone)).trans (if_neg hnone).symm

theorem Represents.cut {before after : List α} (h : Represents q (before ++ elm :: after)) :
    Represents (q.cut (endLink .first before) elm) (before ++ after) := by
  obtain ⟨hbefore, -, hafter, -, -, hnodupBefore, hnodupAfter, hdisjoint⟩ := h.split
  have hstore : ∀ l, (q.cut (endLink .first before) elm).load l =
      (q.store (endLink .first before) (q.load (.next elm))).load l := by
    intro l
    rw [load_cut, load_store]
  have hlast := last_cut q (endLink .first before) elm
  have hother : ∀ e ∈ after, endLink .first before ≠ .next e := by
    intro e he
    exact endLink_ne (by simp) fun hmem => hdisjoint e hmem he
  have hend : endLink .first (before ++ elm :: after) = endLink (.next elm) after :=
    endLink_append
  have hnodup : (before ++ after).Nodup :=
    List.nodup_append.mpr
      ⟨hnodupBefore, hnodupAfter, fun a ha b hb hab => hdisjoint a ha (hab ▸ hb)⟩
  cases after with
  | nil =>
    have hstop : q.load (.next elm) = none := by
      rw [← h.stop, h.last, hend]
      rfl
    rw [if_pos hstop] at hlast
    rw [List.append_nil] at hnodup ⊢
    refine ⟨(hbefore.store_end hnodupBefore (by simp)).congr hstore, hlast, ?_, hnodup⟩
    rw [load_cut, if_pos hlast, hstop]
  | cons a after =>
    have hnext : q.load (.next elm) = some a := hafter.1
    rw [hnext, if_neg (by simp)] at hlast
    have hlate : Segment (q.store (endLink .first before) (q.load (.next elm))) (.next a) after :=
      hafter.2.store (hother a List.mem_cons_self)
        fun e he => hother e (List.mem_cons_of_mem a he)
    refine ⟨segment_append.mpr ⟨?_, ?_, ?_⟩, ?_, ?_, hnodup⟩
    · exact (hbefore.store_end hnodupBefore (by simp)).congr hstore
    · rw [load_cut, if_pos rfl, hnext]
    · exact hlate.congr hstore
    · rw [hlast, h.last, hend, endLink_append]
      rfl
    · have hne : (q.cut (endLink .first before) elm).last ≠ endLink .first before := by
        rw [hlast, h.last, hend]
        rcases endLink_eq (.next a) after with ⟨h0, -⟩ | ⟨e, he, h0⟩
        · rw [endLink, h0]
          exact (hother a List.mem_cons_self).symm
        · rw [endLink, h0]
          exact (hother e (List.mem_cons_of_mem a he)).symm
      rw [load_cut, if_neg hne, hlast]
      exact h.stop

omit [DecidableEq α] in
theorem erase_middle [BEq α] [LawfulBEq α] {before after : List α} (h : elm ∉ before) :
    (before ++ elm :: after).erase elm = before ++ after := by
  rw [List.erase_append_right _ h, List.erase_cons_head]

theorem before_segment {c : α} {before after : List α} {fuel : ℕ}
    (hseg : Segment q (.next c) (before ++ elm :: after)) (hnot : elm ∉ before)
    (hfuel : before.length < fuel) :
    ∃ d, q.before elm fuel (some c) = .ok d ∧ endLink (.next c) before = .next d := by
  induction before generalizing c fuel with
  | nil =>
    obtain ⟨fuel, rfl⟩ : ∃ n, fuel = n + 1 := ⟨fuel - 1, by simp at hfuel; omega⟩
    have hnext : q.next c = some elm := hseg.1
    exact ⟨c, by rw [Queue.before, if_pos hnext], rfl⟩
  | cons e before ih =>
    obtain ⟨fuel, rfl⟩ : ∃ n, fuel = n + 1 := ⟨fuel - 1, by simp at hfuel; omega⟩
    have hnext : q.next c = some e := hseg.1
    have hne : e ≠ elm := fun h => hnot (h ▸ List.mem_cons_self)
    have hless : before.length < fuel := by simpa using hfuel
    obtain ⟨d, hd, hend⟩ := ih hseg.2 (fun h => hnot (List.mem_cons_of_mem e h)) hless
    refine ⟨d, ?_, hend⟩
    rw [Queue.before, hnext, if_neg (by simpa using hne)]
    exact hd

theorem before_absent {c : α} {fuel : ℕ} (hseg : Segment q (.next c) elms)
    (hstop : q.load (endLink (.next c) elms) = none) (hnot : elm ∉ elms)
    (hfuel : elms.length + 1 < fuel) : q.before elm fuel (some c) = .error .nullPointer := by
  induction elms generalizing c fuel with
  | nil =>
    obtain ⟨fuel, rfl⟩ : ∃ n, fuel = n + 2 := ⟨fuel - 2, by simp at hfuel; omega⟩
    have hnext : q.next c = none := hstop
    rw [Queue.before, hnext, if_neg (by simp)]
    rfl
  | cons e elms ih =>
    obtain ⟨fuel, rfl⟩ : ∃ n, fuel = n + 1 := ⟨fuel - 1, by simp at hfuel; omega⟩
    have hnext : q.next c = some e := hseg.1
    have hne : e ≠ elm := fun h => hnot (h ▸ List.mem_cons_self)
    rw [Queue.before, hnext, if_neg (by simpa using hne)]
    exact ih hseg.2 hstop (fun h => hnot (List.mem_cons_of_mem e h)) (by simpa using hfuel)

theorem Represents.remove {fuel : ℕ} (h : Represents q elms) (hmem : elm ∈ elms)
    (hfuel : elms.length ≤ fuel) :
    ∃ r, q.stailqRemove fuel elm = .ok r ∧ Represents r (elms.erase elm) := by
  obtain ⟨before, after, rfl⟩ := List.append_of_mem hmem
  obtain ⟨-, hload, -, hnot, -⟩ := h.split
  rw [erase_middle hnot]
  cases before with
  | nil =>
    have hfirst : q.first = some elm := hload
    refine ⟨_, ?_, h.cut⟩
    rw [Queue.stailqRemove, if_pos hfirst, stailqRemoveHead_eq hfirst]
    rfl
  | cons c before =>
    have hfirst : q.first = some c := h.segment.1
    have hne : c ≠ elm := fun heq => hnot (heq ▸ List.mem_cons_self)
    have hless : before.length < fuel := by
      rw [List.length_append, List.length_cons] at hfuel
      omega
    obtain ⟨d, hd, hend⟩ := before_segment h.segment.2
      (fun hmem => hnot (List.mem_cons_of_mem c hmem)) hless
    have hlink : endLink .first (c :: before) = .next d := hend
    refine ⟨_, ?_, hlink ▸ h.cut⟩
    rw [stailqRemove_eq (by simpa [hfirst] using hne), hfirst, hd]
    rfl

/-- Taking out what is not in the queue follows the null pointer at its end. -/
theorem Represents.remove_absent {fuel : ℕ} (h : Represents q elms) (hnot : elm ∉ elms)
    (hfuel : elms.length < fuel) : q.stailqRemove fuel elm = .error .nullPointer := by
  have hstop : q.load (endLink .first elms) = none := h.last ▸ h.stop
  cases elms with
  | nil =>
    obtain ⟨fuel, rfl⟩ : ∃ n, fuel = n + 1 := ⟨fuel - 1, by simp at hfuel; omega⟩
    have hfirst : q.first = none := hstop
    rw [Queue.stailqRemove, hfirst, if_neg (by simp)]
    rfl
  | cons c elms =>
    have hfirst : q.first = some c := h.segment.1
    have hne : c ≠ elm := fun heq => hnot (heq ▸ List.mem_cons_self)
    rw [Queue.stailqRemove, hfirst, if_neg (by simpa using hne),
      before_absent h.segment.2 hstop (fun hmem => hnot (List.mem_cons_of_mem c hmem))
        (by simpa using hfuel)]
    rfl

theorem Doubly.insertTail (h : Doubly q elms) (hnew : elm ∉ elms) :
    Doubly (q.tailqInsertTail elm) (elms ++ [elm]) := by
  have hload : ∀ l, (q.tailqInsertTail elm).load l = (q.stailqInsertTail elm).load l := by
    intro l
    simp [Queue.tailqInsertTail, Queue.stailqInsertTail]
  have hprev : (q.tailqInsertTail elm).prev = Function.update q.prev elm q.last := by
    simp [Queue.tailqInsertTail]
  refine ⟨(h.toRepresents.insertTail hnew).congr hload rfl, back_append.mpr ⟨?_, ?_, trivial⟩⟩
  · apply h.back.congr
    intro e he
    have hne : e ≠ elm := fun heq => hnew (heq ▸ he)
    rw [hprev, Function.update_of_ne hne]
  · rw [hprev, Function.update_self, h.last]

theorem Doubly.remove (h : Doubly q elms) (hmem : elm ∈ elms) :
    Doubly (q.tailqRemove elm) (elms.erase elm) := by
  obtain ⟨before, after, rfl⟩ := List.append_of_mem hmem
  obtain ⟨-, -, -, hnot, hnotAfter, -, hnodupAfter, hdisjoint⟩ := h.toRepresents.split
  obtain ⟨hback, hprev, hlate⟩ := back_append.mp h.back
  have hnext := h.toRepresents.next_of_split
  rw [erase_middle hnot]
  have hcut : Represents (q.cut (q.prev elm) elm) (before ++ after) :=
    hprev ▸ h.toRepresents.cut
  cases after with
  | nil =>
    have hnone : q.load (.next elm) = none := hnext
    have hremove : q.tailqRemove elm = (q.setLast (q.prev elm)).store (q.prev elm) none := by
      rw [Queue.tailqRemove, hnext]
      simp [hnext]
    have hprevs : (q.tailqRemove elm).prev = q.prev := by simp [hremove]
    refine ⟨hcut.congr ?_ ?_, back_append.mpr ⟨?_, trivial⟩⟩
    · intro l
      rw [hremove, load_store, load_cut, hnone, load_setLast]
    · rw [hremove, last_store, last_setLast, last_cut, if_pos hnone]
    · exact hback.congr fun e _ => congrFun hprevs e
  | cons a after =>
    have hsome : q.load (.next elm) = some a := hnext
    have hne : elm ≠ a := fun heq => hnotAfter (heq ▸ List.mem_cons_self)
    have hremove : q.tailqRemove elm =
        (q.setPrev a (q.prev elm)).store (q.prev elm) (some a) := by
      rw [Queue.tailqRemove, hnext]
      simp [hnext, hne]
    have hprevs : (q.tailqRemove elm).prev = Function.update q.prev a (q.prev elm) := by
      simp [hremove]
    refine ⟨hcut.congr ?_ ?_, back_append.mpr ⟨?_, ?_, ?_⟩⟩
    · intro l
      rw [hremove, load_store, load_cut, hsome, load_setPrev]
    · rw [hremove, last_store, last_setPrev, last_cut, hsome, if_neg (by simp)]
    · apply hback.congr
      intro e he
      have hne : e ≠ a := fun heq => hdisjoint e he (heq ▸ List.mem_cons_self)
      rw [hprevs, Function.update_of_ne hne]
    · rw [hprevs, Function.update_self]
      exact hprev
    · apply hlate.2.congr
      intro e he
      have hne : e ≠ a := fun heq => (List.nodup_cons.mp hnodupAfter).1 (heq ▸ he)
      rw [hprevs, Function.update_of_ne hne]

end TailQueue
