import Mathlib.Data.List.Basic
import Mathlib.Tactic.Common

/-! Buffers of a C program: bytes that have been written or not, copies that stay inside the
buffers or do not, and strings that end with a zero byte. -/
namespace CBuffers

abbrev Byte := BitVec 8

/-- The bytes of a buffer from its start on; `none` is one that has not been written. -/
abbrev Buffer := List (Option Byte)

/-- What a copy can do wrong. -/
inductive Fault where
  | readOutside
  | writeOutside
  | uninitialised
  deriving DecidableEq, Repr

/-- A buffer that has just been allocated. -/
def fresh (n : ℕ) : Buffer := List.replicate n none

def filled (bs : List Byte) : Buffer := bs.map some

/-- The first `n` bytes. -/
def read : ℕ → Buffer → Except Fault (List Byte)
  | 0, _ => .ok []
  | _ + 1, [] => .error .readOutside
  | _ + 1, none :: _ => .error .uninitialised
  | n + 1, some b :: rest => (read n rest).map (b :: ·)

/-- Bytes are written from an offset on. -/
def writeAt (dst : Buffer) (a : ℕ) (bs : List Byte) : Except Fault Buffer :=
  if a + bs.length ≤ dst.length then
    .ok (dst.take a ++ filled bs ++ dst.drop (a + bs.length))
  else .error .writeOutside

def write (dst : Buffer) (bs : List Byte) : Except Fault Buffer := writeAt dst 0 bs

def memcpy (dst src : Buffer) (n : ℕ) : Except Fault Buffer := (read n src).bind (write dst)

/-- The bytes up to the first zero. -/
def readString : Buffer → Except Fault (List Byte)
  | [] => .error .readOutside
  | none :: _ => .error .uninitialised
  | some b :: rest => if b = 0#8 then .ok [] else (readString rest).map (b :: ·)

/-- A string with its terminator. -/
def terminated (s : List Byte) : List Byte := s ++ [0#8]

def strcpy (dst src : Buffer) : Except Fault Buffer :=
  (readString src).bind fun s => write dst (terminated s)

/-- What `strncpy` writes: without a terminator where the string is too long for one. -/
def strncpy (s : List Byte) (n : ℕ) : List Byte :=
  s.take n ++ List.replicate (n - s.length) 0#8

/-- A string has no zero byte. -/
def IsText (s : List Byte) : Prop := ∀ b ∈ s, b ≠ 0#8

instance (s : List Byte) : Decidable (IsText s) := inferInstanceAs (Decidable (∀ b ∈ s, b ≠ 0#8))

/-- A string that a caller passes. -/
structure Text where
  bytes : List Byte
  isText : IsText bytes

theorem bind_ok_iff {ε α β : Type*} (x : Except ε α) (f : α → Except ε β) (b : β) :
    x.bind f = .ok b ↔ ∃ a, x = .ok a ∧ f a = .ok b := by
  cases x with
  | error e =>
    constructor
    · intro h
      cases h
    · rintro ⟨a, h, -⟩
      cases h
  | ok a =>
    constructor
    · exact fun h => ⟨a, rfl, h⟩
    · rintro ⟨a', h, hb⟩
      cases h
      exact hb

theorem map_ok_iff {ε α β : Type*} (x : Except ε α) (f : α → β) (b : β) :
    x.map f = .ok b ↔ ∃ a, x = .ok a ∧ f a = b := by
  cases x with
  | error e =>
    constructor
    · intro h
      cases h
    · rintro ⟨a, h, -⟩
      cases h
  | ok a =>
    constructor
    · intro h
      cases h
      exact ⟨a, rfl, rfl⟩
    · rintro ⟨a', h, hb⟩
      cases h
      rw [← hb]
      rfl

@[simp] theorem length_fresh (n : ℕ) : (fresh n).length = n := List.length_replicate

@[simp] theorem length_filled (bs : List Byte) : (filled bs).length = bs.length :=
  List.length_map some

@[simp] theorem length_terminated (s : List Byte) : (terminated s).length = s.length + 1 := by
  rw [terminated, List.length_append, List.length_singleton]

theorem filled_append (as bs : List Byte) : filled (as ++ bs) = filled as ++ filled bs :=
  List.map_append

theorem filled_cons (b : Byte) (bs : List Byte) : filled (b :: bs) = some b :: filled bs := rfl

theorem filled_terminated_cons (c : Byte) (s : List Byte) (rest : Buffer) :
    filled (terminated (c :: s)) ++ rest = some c :: (filled (terminated s) ++ rest) := rfl

theorem isText_replicate {b : Byte} (hb : b ≠ 0#8) (n : ℕ) : IsText (List.replicate n b) := by
  intro a ha
  rw [List.eq_of_mem_replicate ha]
  exact hb

/-- What can be read has been written. -/
theorem read_ok_iff (n : ℕ) (b : Buffer) (bs : List Byte) :
    read n b = .ok bs ↔ bs.length = n ∧ ∃ rest, b = filled bs ++ rest := by
  induction n generalizing b bs with
  | zero =>
    constructor
    · intro h
      cases h
      exact ⟨rfl, b, rfl⟩
    · rintro ⟨hlen, -⟩
      rw [List.eq_nil_of_length_eq_zero hlen]
      rfl
  | succ n ih =>
    cases b with
    | nil =>
      constructor
      · intro h
        cases h
      · rintro ⟨hlen, rest, h⟩
        obtain ⟨c, cs, rfl⟩ := List.exists_cons_of_length_eq_add_one hlen
        cases h
    | cons c b =>
      cases c with
      | none =>
        constructor
        · intro h
          cases h
        · rintro ⟨hlen, rest, h⟩
          obtain ⟨c, cs, rfl⟩ := List.exists_cons_of_length_eq_add_one hlen
          cases h
      | some c =>
        rw [read, map_ok_iff]
        constructor
        · rintro ⟨cs, hcs, rfl⟩
          obtain ⟨hlen, rest, rfl⟩ := (ih b cs).mp hcs
          exact ⟨congrArg (· + 1) hlen, rest, rfl⟩
        · rintro ⟨hlen, rest, h⟩
          obtain ⟨d, ds, rfl⟩ := List.exists_cons_of_length_eq_add_one hlen
          rw [filled_cons, List.cons_append, List.cons.injEq] at h
          obtain ⟨hd, hrest⟩ := h
          cases hd
          exact ⟨ds, (ih b ds).mpr ⟨Nat.succ.inj hlen, rest, hrest⟩, rfl⟩

theorem read_filled {bs : List Byte} {n : ℕ} (hn : n ≤ bs.length) :
    read n (filled bs) = .ok (bs.take n) := by
  apply (read_ok_iff _ _ _).mpr
  refine ⟨List.length_take_of_le hn, filled (bs.drop n), ?_⟩
  rw [← filled_append, List.take_append_drop]

/-- Of a buffer that is written in part, no more can be read than has been written. -/
theorem read_filled_fresh_ok_iff (bs cs : List Byte) (k n : ℕ) :
    read n (filled bs ++ fresh k) = .ok cs ↔ n ≤ bs.length ∧ cs = bs.take n := by
  induction n generalizing bs cs with
  | zero =>
    rw [List.take_zero]
    constructor
    · intro h
      cases h
      exact ⟨Nat.zero_le _, rfl⟩
    · rintro ⟨-, rfl⟩
      rfl
  | succ n ih =>
    cases bs with
    | nil =>
      constructor
      · intro h
        cases k with
        | zero => cases h
        | succ k => cases h
      · rintro ⟨hle, -⟩
        exact absurd hle (Nat.not_succ_le_zero n)
    | cons b bs =>
      rw [filled_cons, List.cons_append, read, map_ok_iff, List.take_succ_cons, List.length_cons,
        Nat.succ_le_succ_iff]
      constructor
      · rintro ⟨ds, hds, rfl⟩
        obtain ⟨hle, rfl⟩ := (ih bs ds).mp hds
        exact ⟨hle, rfl⟩
      · rintro ⟨hle, rfl⟩
        exact ⟨bs.take n, (ih bs _).mpr ⟨hle, rfl⟩, rfl⟩

/-- A string that can be read stands in the buffer with its terminator. -/
theorem readString_ok_iff (b : Buffer) (s : List Byte) :
    readString b = .ok s ↔ IsText s ∧ ∃ rest, b = filled (terminated s) ++ rest := by
  induction b generalizing s with
  | nil =>
    constructor
    · intro h
      cases h
    · rintro ⟨-, rest, h⟩
      cases s with
      | nil => cases h
      | cons c s => cases h
  | cons c b ih =>
    cases c with
    | none =>
      constructor
      · intro h
        cases h
      · rintro ⟨-, rest, h⟩
        cases s with
        | nil => cases h
        | cons c s => cases h
    | some c =>
      rw [readString]
      by_cases hc : c = 0#8
      · rw [if_pos hc, hc]
        constructor
        · intro h
          cases h
          exact ⟨fun d hd => absurd hd List.not_mem_nil, b, rfl⟩
        · rintro ⟨htext, rest, h⟩
          cases s with
          | nil => rfl
          | cons d s =>
            rw [filled_terminated_cons, List.cons.injEq] at h
            obtain ⟨hd, -⟩ := h
            cases hd
            exact absurd rfl (htext _ List.mem_cons_self)
      · rw [if_neg hc, map_ok_iff]
        constructor
        · rintro ⟨t, ht, rfl⟩
          obtain ⟨htext, rest, rfl⟩ := (ih t).mp ht
          exact ⟨List.forall_mem_cons.mpr ⟨hc, htext⟩, rest, rfl⟩
        · rintro ⟨htext, rest, h⟩
          cases s with
          | nil =>
            rw [terminated, List.nil_append, filled_cons, List.cons_append, List.cons.injEq] at h
            obtain ⟨hd, -⟩ := h
            cases hd
            exact absurd rfl hc
          | cons d s =>
            rw [filled_terminated_cons, List.cons.injEq] at h
            obtain ⟨hd, hrest⟩ := h
            cases hd
            exact ⟨s, (ih s).mpr ⟨(List.forall_mem_cons.mp htext).2, rest, hrest⟩, rfl⟩

/-- Bytes other than zero in front of a buffer are the start of its string. -/
theorem readString_append {s : List Byte} (hs : IsText s) (rest : Buffer) :
    readString (filled s ++ rest) = (readString rest).map (s ++ ·) := by
  induction s with
  | nil =>
    cases hrest : readString rest with
    | error e => simp only [filled, List.map_nil, List.nil_append, hrest, Except.map]
    | ok t => simp only [filled, List.map_nil, List.nil_append, hrest, Except.map]
  | cons b s ih =>
    obtain ⟨hb, htail⟩ := List.forall_mem_cons.mp hs
    rw [filled_cons, List.cons_append, readString, if_neg hb, ih htail]
    cases readString rest with
    | error e => rfl
    | ok t => rfl

theorem readString_terminated {s : List Byte} (hs : IsText s) (rest : Buffer) :
    readString (filled (terminated s) ++ rest) = .ok s :=
  (readString_ok_iff _ _).mpr ⟨hs, rest, rfl⟩

theorem write_ok_iff (dst : Buffer) (bs : List Byte) (d : Buffer) :
    write dst bs = .ok d ↔ bs.length ≤ dst.length ∧ d = filled bs ++ dst.drop bs.length := by
  rw [write, writeAt, Nat.zero_add]
  by_cases h : bs.length ≤ dst.length
  · rw [if_pos h, List.take_zero, List.nil_append]
    constructor
    · intro hd
      cases hd
      exact ⟨h, rfl⟩
    · rintro ⟨-, rfl⟩
      rfl
  · rw [if_neg h]
    constructor
    · intro hd
      cases hd
    · rintro ⟨hle, -⟩
      exact absurd hle h

/-- A string in a new buffer, and what is behind it. -/
theorem write_fresh_ok_iff (n : ℕ) (s : List Byte) (d : Buffer) :
    write (fresh n) (terminated s) = .ok d ↔
      s.length < n ∧ d = filled (terminated s) ++ fresh (n - (s.length + 1)) := by
  rw [write_ok_iff, length_terminated, length_fresh, fresh, fresh, List.drop_replicate,
    Nat.succ_le_iff]

/-- A copy stays inside both buffers and reads what has been written. -/
theorem memcpy_ok_iff (dst src : Buffer) (n : ℕ) (d : Buffer) :
    memcpy dst src n = .ok d ↔ n ≤ dst.length ∧
      ∃ bs rest, bs.length = n ∧ src = filled bs ++ rest ∧ d = filled bs ++ dst.drop n := by
  rw [memcpy, bind_ok_iff]
  constructor
  · rintro ⟨bs, hread, hwrite⟩
    obtain ⟨hlen, rest, hsrc⟩ := (read_ok_iff _ _ _).mp hread
    obtain ⟨hle, hd⟩ := (write_ok_iff _ _ _).mp hwrite
    rw [hlen] at hle hd
    exact ⟨hle, bs, rest, hlen, hsrc, hd⟩
  · rintro ⟨hle, bs, rest, hlen, hsrc, hd⟩
    refine ⟨bs, (read_ok_iff _ _ _).mpr ⟨hlen, rest, hsrc⟩, (write_ok_iff _ _ _).mpr ?_⟩
    rw [hlen]
    exact ⟨hle, hd⟩

/-- A string is copied where it ends inside of the source and is shorter than the destination. -/
theorem strcpy_ok_iff (dst src d : Buffer) :
    strcpy dst src = .ok d ↔ ∃ s, readString src = .ok s ∧ s.length < dst.length ∧
      d = filled (terminated s) ++ dst.drop (s.length + 1) := by
  rw [strcpy, bind_ok_iff]
  apply exists_congr
  intro s
  rw [write_ok_iff, length_terminated, Nat.succ_le_iff]

/-- A string that is short enough keeps its terminator. -/
theorem strncpy_short {s : List Byte} {n : ℕ} (h : s.length < n) :
    strncpy s n = terminated s ++ List.replicate (n - s.length - 1) 0#8 := by
  obtain ⟨k, hk⟩ : ∃ k, n - s.length = k + 1 := ⟨n - s.length - 1, by omega⟩
  rw [strncpy, List.take_of_length_le (Nat.le_of_lt h), hk, List.replicate_succ, terminated,
    List.append_assoc, Nat.add_sub_cancel]
  rfl

theorem strncpy_long {s : List Byte} {n : ℕ} (h : n ≤ s.length) : strncpy s n = s.take n := by
  rw [strncpy, Nat.sub_eq_zero_of_le h, List.replicate_zero, List.append_nil]

end CBuffers
