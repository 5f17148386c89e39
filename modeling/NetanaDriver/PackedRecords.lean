import NetanaDriver.CBuffers
import NetanaDriver.LittleEndian

/-! Packed records whose fields are stored one after the other, each by more bytes than the field
may have, on hosts of either byte order. -/
namespace PackedRecords
open CBuffers

inductive ByteOrder where
  | little
  | big
  deriving DecidableEq, Repr

/-- A number in memory. -/
def ByteOrder.bytes : ByteOrder → ℕ → ℕ → List Byte
  | little, n, x => LittleEndian.bytes n x
  | big, n, x => (LittleEndian.bytes n x).reverse

def ByteOrder.value : ByteOrder → List Byte → ℕ
  | little, bs => LittleEndian.value bs
  | big, bs => LittleEndian.value bs.reverse

/-- A field: the bytes that it has in the record, and those that are stored at its address. -/
structure Field where
  width : ℕ
  stored : List Byte
  deriving DecidableEq, Repr

/-- The fields are stored in order, from an address on. -/
def storeAll : Buffer → ℕ → List Field → Except Fault Buffer
  | dst, _, [] => .ok dst
  | dst, a, f :: fs => (writeAt dst a f.stored).bind fun d => storeAll d (a + f.width) fs

/-- The fields of given widths from the start of a buffer on. -/
def readFields (o : ByteOrder) : List ℕ → Buffer → Except Fault (List ℕ)
  | [], _ => .ok []
  | w :: ws, b => (read w b).bind fun bs => (readFields o ws (b.drop w)).map (o.value bs :: ·)

/-- Every store ends inside of `n` bytes. -/
def InBounds (n : ℕ) : ℕ → List Field → Prop
  | _, [] => True
  | a, f :: fs => a + f.stored.length ≤ n ∧ InBounds n (a + f.width) fs

/-- What is left of a buffer: of each store the bytes of its field, and of the last one all. -/
def overwritten : Buffer → List Field → Buffer
  | dst, [] => dst
  | dst, f :: fs =>
    filled (f.stored.take f.width) ++
      overwritten ((filled f.stored ++ dst.drop f.stored.length).drop f.width) fs

theorem writeAt_append {before dst : Buffer} {bs : List Byte} (h : bs.length ≤ dst.length) :
    writeAt (before ++ dst) before.length bs =
      .ok (before ++ (filled bs ++ dst.drop bs.length)) := by
  have hin : before.length + bs.length ≤ (before ++ dst).length := by
    rw [List.length_append]
    omega
  rw [writeAt, if_pos hin, List.take_left, List.drop_append, List.drop_eq_nil_of_le (by omega),
    List.nil_append, Nat.add_sub_cancel_left, List.append_assoc]

theorem length_writeAt {dst d : Buffer} {a : ℕ} {bs : List Byte}
    (h : writeAt dst a bs = .ok d) : d.length = dst.length := by
  rw [writeAt] at h
  split at h
  · rename_i hin
    cases h
    rw [List.length_append, List.length_append, List.length_take, length_filled,
      List.length_drop]
    omega
  · cases h

/-- A run of stores that leaves the buffer does not go through. -/
theorem storeAll_outside {dst : Buffer} {a : ℕ} {fs : List Field}
    (h : ¬ InBounds dst.length a fs) : storeAll dst a fs = .error .writeOutside := by
  induction fs generalizing dst a with
  | nil => exact absurd trivial h
  | cons f fs ih =>
    rw [storeAll]
    cases hwrite : writeAt dst a f.stored with
    | error e =>
      rw [writeAt] at hwrite
      split at hwrite
      · cases hwrite
      · cases hwrite
        rfl
    | ok d =>
      apply ih
      rw [length_writeAt hwrite]
      intro hrest
      apply h
      refine ⟨?_, hrest⟩
      by_contra hout
      rw [writeAt, if_neg hout] at hwrite
      cases hwrite

/-- Each store leaves the bytes of its field, since the next one begins behind them. -/
theorem storeAll_append (before : Buffer) {dst : Buffer} {fs : List Field}
    (hwidth : ∀ f ∈ fs, f.width ≤ f.stored.length)
    (hin : InBounds (before ++ dst).length before.length fs) :
    storeAll (before ++ dst) before.length fs = .ok (before ++ overwritten dst fs) := by
  induction fs generalizing before dst with
  | nil => rfl
  | cons f fs ih =>
    obtain ⟨hf, hwidth⟩ := List.forall_mem_cons.mp hwidth
    obtain ⟨hstore, hin⟩ := hin
    have hroom : f.stored.length ≤ dst.length := by
      rw [List.length_append] at hstore
      omega
    -- the bytes of the field join what stands in front
    have hfield : (filled (f.stored.take f.width)).length = f.width := by
      rw [length_filled, List.length_take_of_le hf]
    have hnext : (before ++ filled (f.stored.take f.width)).length = before.length + f.width := by
      rw [List.length_append, hfield]
    have hsplit : filled f.stored ++ dst.drop f.stored.length =
        filled (f.stored.take f.width) ++
          (filled f.stored ++ dst.drop f.stored.length).drop f.width := by
      calc filled f.stored ++ dst.drop f.stored.length
          = (filled f.stored ++ dst.drop f.stored.length).take f.width ++
              (filled f.stored ++ dst.drop f.stored.length).drop f.width :=
            (List.take_append_drop _ _).symm
        _ = _ := by
          rw [List.take_append_of_le_length (by rwa [length_filled]), filled, ← List.map_take]
          rfl
    have hlen : (before ++ dst).length = ((before ++ filled (f.stored.take f.width)) ++
        (filled f.stored ++ dst.drop f.stored.length).drop f.width).length := by
      rw [List.append_assoc, ← hsplit, List.length_append, List.length_append,
        List.length_append, length_filled, List.length_drop]
      omega
    rw [storeAll, writeAt_append hroom]
    show storeAll (before ++ (filled f.stored ++ dst.drop f.stored.length))
      (before.length + f.width) fs = _
    rw [hlen, ← hnext] at hin
    rw [hsplit, ← List.append_assoc, ← hnext, ih _ hwidth hin, overwritten, List.append_assoc]

/-- What the fields are read as afterwards. -/
theorem readFields_overwritten (o : ByteOrder) {fs : List Field} (dst : Buffer)
    (hwidth : ∀ f ∈ fs, f.width ≤ f.stored.length) :
    readFields o (fs.map Field.width) (overwritten dst fs) =
      .ok (fs.map fun f => o.value (f.stored.take f.width)) := by
  induction fs generalizing dst with
  | nil => rfl
  | cons f fs ih =>
    obtain ⟨hf, hwidth⟩ := List.forall_mem_cons.mp hwidth
    have hlen : (f.stored.take f.width).length = f.width := List.length_take_of_le hf
    have hread : read f.width (overwritten dst (f :: fs)) = .ok (f.stored.take f.width) :=
      (read_ok_iff _ _ _).mpr ⟨hlen, _, rfl⟩
    have hdrop : (overwritten dst (f :: fs)).drop f.width =
        overwritten ((filled f.stored ++ dst.drop f.stored.length).drop f.width) fs :=
      List.drop_left' (by rw [length_filled, hlen])
    rw [List.map_cons, readFields, hread]
    show (readFields o (fs.map Field.width) ((overwritten dst (f :: fs)).drop f.width)).map _ = _
    rw [hdrop, ih _ hwidth]
    rfl

theorem take_bytes {n w : ℕ} (h : w ≤ n) (x : ℕ) :
    (LittleEndian.bytes n x).take w = LittleEndian.bytes w x := by
  rw [LittleEndian.bytes, LittleEndian.bytes, ← List.map_take, List.take_range, Nat.min_eq_left h]

theorem drop_bytes (k n x : ℕ) :
    (LittleEndian.bytes (k + n) x).drop k = LittleEndian.bytes n (x / 256 ^ k) := by
  induction k generalizing x with
  | zero => rw [Nat.zero_add, List.drop_zero, pow_zero, Nat.div_one]
  | succ k ih =>
    rw [Nat.succ_add, LittleEndian.bytes_succ, List.drop_succ_cons, ih, Nat.div_div_eq_div_mul,
      pow_succ']

@[simp] theorem ByteOrder.length_bytes (o : ByteOrder) (n x : ℕ) : (o.bytes n x).length = n := by
  cases o with
  | little => exact LittleEndian.length_bytes n x
  | big => rw [bytes, List.length_reverse, LittleEndian.length_bytes]

/-- The low bytes stand in front on a little-endian host. -/
theorem little_value_take {n w : ℕ} (h : w ≤ n) (x : ℕ) :
    ByteOrder.little.value ((ByteOrder.little.bytes n x).take w) = x % 256 ^ w := by
  show LittleEndian.value ((LittleEndian.bytes n x).take w) = _
  rw [take_bytes h, LittleEndian.value_bytes]

/-- The high bytes stand in front on a big-endian host. -/
theorem big_value_take {n w : ℕ} (h : w ≤ n) (x : ℕ) :
    ByteOrder.big.value ((ByteOrder.big.bytes n x).take w) = x / 256 ^ (n - w) % 256 ^ w := by
  have hsum : n - w + w = n := by omega
  show LittleEndian.value ((LittleEndian.bytes n x).reverse.take w).reverse = _
  rw [List.take_reverse, List.reverse_reverse, LittleEndian.length_bytes]
  calc LittleEndian.value ((LittleEndian.bytes n x).drop (n - w))
      = LittleEndian.value ((LittleEndian.bytes (n - w + w) x).drop (n - w)) := by rw [hsum]
    _ = x / 256 ^ (n - w) % 256 ^ w := by rw [drop_bytes, LittleEndian.value_bytes]

end PackedRecords
