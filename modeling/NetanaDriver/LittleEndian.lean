import Mathlib

/-! Numbers as little-endian byte sequences of fixed length. -/
namespace LittleEndian

/-- The `n` low bytes of a number, the lowest first. -/
def bytes (n x : ℕ) : List (BitVec 8) := (List.range n).map fun i => BitVec.ofNat 8 (x / 256 ^ i)

/-- The number with these bytes. -/
def value (bs : List (BitVec 8)) : ℕ := Nat.ofDigits 256 (bs.map BitVec.toNat)

@[simp] theorem length_bytes (n x : ℕ) : (bytes n x).length = n := by
  rw [bytes, List.length_map, List.length_range]

theorem bytes_succ (n x : ℕ) : bytes (n + 1) x = BitVec.ofNat 8 x :: bytes n (x / 256) := by
  have htail (i : ℕ) : x / 256 ^ (i + 1) = x / 256 / 256 ^ i := by
    rw [pow_succ', Nat.div_div_eq_div_mul]
  unfold bytes
  rw [List.range_succ_eq_map, List.map_cons, List.map_map, pow_zero, Nat.div_one]
  congr 1
  apply List.map_congr_left
  intro i _
  show BitVec.ofNat 8 (x / 256 ^ (i + 1)) = _
  rw [htail]

theorem value_bytes (n x : ℕ) : value (bytes n x) = x % 256 ^ n := by
  induction n generalizing x with
  | zero =>
    rw [pow_zero, Nat.mod_one]
    rfl
  | succ n ih =>
    rw [bytes_succ, value, List.map_cons, Nat.ofDigits_cons]
    calc BitVec.toNat (BitVec.ofNat 8 x) + 256 * value (bytes n (x / 256))
        = x % 256 + 256 * (x / 256 % 256 ^ n) := by
          rw [ih, BitVec.toNat_ofNat]
      _ = x % 256 ^ (n + 1) := by
          rw [Nat.pow_succ', Nat.mod_mul (x := x) (a := 256)]

/-- What was written is what is read. -/
theorem value_bytes_of_lt {n x : ℕ} (h : x < 256 ^ n) : value (bytes n x) = x := by
  rw [value_bytes, Nat.mod_eq_of_lt h]

theorem value_lt (bs : List (BitVec 8)) : value bs < 256 ^ bs.length := by
  induction bs with
  | nil => exact Nat.one_pos
  | cons b bs ih =>
    have hb : b.toNat < 256 := b.isLt
    rw [value] at ih
    rw [value, List.map_cons, Nat.ofDigits_cons, List.length_cons, pow_succ']
    omega

/-- A number read from bytes has these bytes. -/
theorem bytes_value (bs : List (BitVec 8)) : bytes bs.length (value bs) = bs := by
  induction bs with
  | nil => rfl
  | cons b bs ih =>
    have hcons : value (b :: bs) = b.toNat + 256 * value bs := by
      rw [value, List.map_cons, Nat.ofDigits_cons]
      rfl
    have hlow : BitVec.ofNat 8 (value (b :: bs)) = b := by
      apply BitVec.eq_of_toNat_eq
      rw [BitVec.toNat_ofNat, hcons, Nat.add_mul_mod_self_left, Nat.mod_eq_of_lt b.isLt]
    have hhigh : value (b :: bs) / 256 = value bs := by
      have hb : b.toNat < 256 := b.isLt
      omega
    rw [List.length_cons, bytes_succ, hlow, hhigh, ih]

/-- A packed record: its fields with their lengths, one after the other. -/
def encode (fields : List (ℕ × ℕ)) : List (BitVec 8) := fields.flatMap fun f => bytes f.1 f.2

/-- The fields of given lengths at the start of a byte sequence. -/
def decode : List ℕ → List (BitVec 8) → List ℕ
  | [], _ => []
  | n :: ns, bs => value (bs.take n) :: decode ns (bs.drop n)

theorem length_encode (fields : List (ℕ × ℕ)) :
    (encode fields).length = (fields.map Prod.fst).sum := by
  induction fields with
  | nil => rfl
  | cons f fs ih =>
    rw [encode, List.flatMap_cons, List.length_append, length_bytes, List.map_cons,
      List.sum_cons, ← ih, encode]

/-- A record is read back as it was written, whatever follows it. -/
theorem decode_encode {fields : List (ℕ × ℕ)} (h : ∀ f ∈ fields, f.2 < 256 ^ f.1)
    (rest : List (BitVec 8)) :
    decode (fields.map Prod.fst) (encode fields ++ rest) = fields.map Prod.snd := by
  induction fields with
  | nil => rfl
  | cons f fs ih =>
    have hlen : (bytes f.1 f.2).length = f.1 := length_bytes f.1 f.2
    rw [encode, List.flatMap_cons, ← encode, List.append_assoc, List.map_cons, decode,
      List.take_left' hlen, List.drop_left' hlen, value_bytes_of_lt (h f List.mem_cons_self),
      ih fun g hg => h g (List.mem_cons_of_mem f hg), List.map_cons]

end LittleEndian
