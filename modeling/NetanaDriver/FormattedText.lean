import Mathlib

/-! Formatted output and input of integers, with the conversions of `printf` and `scanf`. Stored
values are taken modulo the width of the argument. -/
namespace FormattedText

/-- The value of a digit of either case; no digit of any base up to 36 otherwise. -/
def digitValue (c : Char) : ℕ :=
  if 48 ≤ c.toNat ∧ c.toNat ≤ 57 then c.toNat - 48
  else if 65 ≤ c.toNat ∧ c.toNat ≤ 70 then c.toNat - 55
  else if 97 ≤ c.toNat ∧ c.toNat ≤ 102 then c.toNat - 87
  else 255

/-- Digits above nine are printed in upper case. -/
def digitChar (d : ℕ) : Char := if d < 10 then Char.ofNat (48 + d) else Char.ofNat (55 + d)

def isSpace (c : Char) : Bool := (9 ≤ c.toNat && c.toNat ≤ 13) || c.toNat == 32

def isDigit (b : ℕ) (c : Char) : Bool := digitValue c < b

def printNat (b n : ℕ) : List Char :=
  if n = 0 then ['0'] else (Nat.digits b n).reverse.map digitChar

/-- The longest run of digits at the start, if there is one, and what follows it. -/
def readNat (b : ℕ) (cs : List Char) : Option (ℕ × List Char) :=
  let ds := cs.takeWhile (isDigit b)
  if ds = [] then none
  else some (ds.foldl (fun n c => b * n + digitValue c) 0, cs.dropWhile (isDigit b))

def printInt (i : ℤ) : List Char :=
  if i < 0 then '-' :: printNat 10 i.natAbs else printNat 10 i.natAbs

/-- An optional sign: whether it is a minus, and what follows it. -/
def readSign : List Char → Bool × List Char
  | '-' :: cs => (true, cs)
  | '+' :: cs => (false, cs)
  | cs => (false, cs)

/-- A leading `0x` before a hexadecimal digit is left out. -/
def skipPrefix : List Char → List Char
  | '0' :: 'x' :: c :: cs => if isDigit 16 c then c :: cs else '0' :: 'x' :: c :: cs
  | '0' :: 'X' :: c :: cs => if isDigit 16 c then c :: cs else '0' :: 'X' :: c :: cs
  | cs => cs

/-- The base that an integer constant is written in. -/
def constantBase (cs : List Char) : ℕ :=
  if skipPrefix cs ≠ cs then 16 else if cs.head? = some '0' then 8 else 10

inductive Conversion where
  | d
  | u
  | llu
  | i
  | X
  deriving DecidableEq, Repr

inductive Value where
  | w32 (x : BitVec 32)
  | w64 (x : BitVec 64)
  deriving DecidableEq, Repr

/-- The argument has the width of the conversion. -/
def Conversion.Fits : Conversion → Value → Prop
  | .llu, .w64 _ => True
  | .llu, .w32 _ => False
  | _, .w32 _ => True
  | _, .w64 _ => False

def Conversion.print : Conversion → Value → List Char
  | .d, .w32 x => printInt x.toInt
  | .i, .w32 x => printInt x.toInt
  | .u, .w32 x => printNat 10 x.toNat
  | .X, .w32 x => printNat 16 x.toNat
  | .llu, .w64 x => printNat 10 x.toNat
  | _, _ => []

/-- A signed number in a base, stored in 32 bits. -/
def readInt32 (b : ℕ) (fNegative : Bool) (cs : List Char) : Option (Value × List Char) :=
  (readNat b cs).map fun r =>
    (.w32 (BitVec.ofInt 32 (if fNegative then -(r.1 : ℤ) else r.1)), r.2)

def Conversion.read : Conversion → List Char → Option (Value × List Char)
  | .d, cs => readInt32 10 (readSign cs).1 (readSign cs).2
  | .i, cs =>
    readInt32 (constantBase (readSign cs).2) (readSign cs).1 (skipPrefix (readSign cs).2)
  | .u, cs => (readNat 10 cs).map fun r => (.w32 (BitVec.ofNat 32 r.1), r.2)
  | .X, cs => (readNat 16 (skipPrefix cs)).map fun r => (.w32 (BitVec.ofNat 32 r.1), r.2)
  | .llu, cs => (readNat 10 cs).map fun r => (.w64 (BitVec.ofNat 64 r.1), r.2)

inductive Directive where
  | lit (c : Char)
  | conv (k : Conversion)
  deriving DecidableEq, Repr

/-- The directives of a format string. -/
def directives : List Char → List Directive
  | '%' :: 'd' :: cs => .conv .d :: directives cs
  | '%' :: 'i' :: cs => .conv .i :: directives cs
  | '%' :: 'u' :: cs => .conv .u :: directives cs
  | '%' :: 'X' :: cs => .conv .X :: directives cs
  | '%' :: 'l' :: 'l' :: 'u' :: cs => .conv .llu :: directives cs
  | c :: cs => .lit c :: directives cs
  | [] => []

def format (s : String) : List Directive := directives s.toList

def printf : List Directive → List Value → List Char
  | [], _ => []
  | .lit c :: f, vs => c :: printf f vs
  | .conv k :: f, v :: vs => k.print v ++ printf f vs
  | .conv _ :: _, [] => []

/-- The values stored before the first directive that does not match. -/
def scanf : List Directive → List Char → List Value
  | [], _ => []
  | .lit c :: f, cs =>
    if isSpace c then scanf f (cs.dropWhile isSpace)
    else match cs with
      | [] => []
      | c' :: cs => if c' = c then scanf f cs else []
  | .conv k :: f, cs =>
    match k.read (cs.dropWhile isSpace) with
    | none => []
    | some (v, cs) => v :: scanf f cs

/-- The arguments are as many as the conversions and fit them. -/
def Fits : List Directive → List Value → Prop
  | [], vs => vs = []
  | .lit _ :: f, vs => Fits f vs
  | .conv k :: f, v :: vs => k.Fits v ∧ Fits f vs
  | .conv _ :: _, [] => False

/-- The format ends or goes on with white space. -/
def endsOrSpace : List Directive → Bool
  | [] => true
  | .lit c :: _ => isSpace c
  | .conv _ :: _ => false

/-- The format ends or goes on with something else than white space. -/
def endsOrNoSpace : List Directive → Bool
  | .lit c :: _ => !isSpace c
  | _ => true

/-- Every conversion ends the format or is followed by white space, and white space ends the
format or is followed by something else. -/
def Separated : List Directive → Bool
  | [] => true
  | .lit c :: f => (!isSpace c || endsOrNoSpace f) && Separated f
  | .conv _ :: f => endsOrSpace f && Separated f

/-- A text that does not go on with a digit. -/
def Ends (cs : List Char) : Prop := ∀ c ∈ cs.head?, isSpace c = true

theorem digitValue_digitChar {d : ℕ} (hd : d < 16) : digitValue (digitChar d) = d := by
  have hall : ∀ d < 16, digitValue (digitChar d) = d := by decide
  exact hall d hd

theorem isDigit_digitChar {b d : ℕ} (hb : b ≤ 16) (hd : d < b) :
    isDigit b (digitChar d) = true := by
  rw [isDigit, digitValue_digitChar (by omega)]
  exact decide_eq_true hd

theorem isDigit_of_isSpace {b : ℕ} {c : Char} (hb : b ≤ 16) (hc : isSpace c = true) :
    isDigit b c = false := by
  unfold isSpace at hc
  have hspace : 9 ≤ c.toNat ∧ c.toNat ≤ 13 ∨ c.toNat = 32 := by simpa using hc
  have hvalue : digitValue c = 255 := by
    unfold digitValue
    rw [if_neg (by omega), if_neg (by omega), if_neg (by omega)]
  rw [isDigit, hvalue]
  exact decide_eq_false (by omega)

theorem isDigit_of_mem_printNat {b n : ℕ} {c : Char} (hb : 1 < b) (hb' : b ≤ 16)
    (hc : c ∈ printNat b n) : isDigit b c = true := by
  unfold printNat at hc
  split at hc
  · rw [List.mem_singleton.mp hc]
    exact decide_eq_true (by show digitValue '0' < b; rw [show digitValue '0' = 0 by decide]; omega)
  · obtain ⟨d, hd, rfl⟩ := List.mem_map.mp hc
    exact isDigit_digitChar hb' (Nat.digits_lt_base hb (List.mem_reverse.mp hd))

theorem printNat_ne_nil (b n : ℕ) : printNat b n ≠ [] := by
  unfold printNat
  split
  · exact List.cons_ne_nil _ _
  · rename_i hn
    intro hnil
    rw [List.map_eq_nil_iff, List.reverse_eq_nil_iff] at hnil
    exact Nat.digits_ne_nil_iff_ne_zero.mpr hn hnil

/-- The first digit of a positive number is not zero. -/
theorem head_printNat_ne_zero {b n : ℕ} (hb : 1 < b) (hb' : b ≤ 16) (hn : n ≠ 0) :
    (printNat b n).head? ≠ some '0' := by
  have hne : Nat.digits b n ≠ [] := Nat.digits_ne_nil_iff_ne_zero.mpr hn
  have hlast : (Nat.digits b n).getLast hne ≠ 0 := Nat.getLast_digit_ne_zero b hn
  have hlt : (Nat.digits b n).getLast hne < 16 :=
    (Nat.digits_lt_base hb (List.getLast_mem hne)).trans_le hb'
  rw [printNat, if_neg hn, List.head?_map, List.head?_reverse,
    List.getLast?_eq_getLast_of_ne_nil hne, Option.map_some]
  intro heq
  have hvalue := congrArg digitValue (Option.some.inj heq)
  rw [digitValue_digitChar hlt] at hvalue
  exact hlast hvalue

/-- The digits of a number, read from the highest, give the number. -/
theorem foldl_printNat {b n : ℕ} (hb : 1 < b) (hb' : b ≤ 16) :
    (printNat b n).foldl (fun n c => b * n + digitValue c) 0 = n := by
  unfold printNat
  split
  · rename_i hn
    rw [hn]
    rfl
  · rw [List.foldl_map, List.foldl_reverse]
    calc (Nat.digits b n).foldr (fun d m => b * m + digitValue (digitChar d)) 0
        = (Nat.digits b n).foldr (fun d m => d + b * m) 0 := by
          apply List.foldr_ext
          intro d hd m
          have hlt : d < 16 := (Nat.digits_lt_base hb hd).trans_le hb'
          rw [digitValue_digitChar hlt, add_comm]
      _ = Nat.ofDigits b (Nat.digits b n) := (Nat.ofDigits_eq_foldr b _).symm
      _ = n := Nat.ofDigits_digits b n

/-- Different numbers are printed differently. -/
theorem printNat_injective {b : ℕ} (hb : 1 < b) (hb' : b ≤ 16) :
    Function.Injective (printNat b) := by
  intro m n h
  calc m = (printNat b m).foldl (fun n c => b * n + digitValue c) 0 :=
        (foldl_printNat hb hb').symm
    _ = (printNat b n).foldl (fun n c => b * n + digitValue c) 0 := by rw [h]
    _ = n := foldl_printNat hb hb'

theorem printInt_eq_printNat_iff (i : ℤ) (n : ℕ) : printInt i = printNat 10 n ↔ i = n := by
  unfold printInt
  split
  · rename_i hneg
    apply iff_of_false
    · intro h
      have hminus : isDigit 10 '-' = true :=
        isDigit_of_mem_printNat (by decide) (by decide) (h ▸ List.mem_cons_self)
      exact absurd hminus (by decide)
    · omega
  · rw [(printNat_injective (by decide) (by decide)).eq_iff]
    omega

/-- A printed number is read back, up to where the digits end. -/
theorem readNat_printNat {b : ℕ} (hb : 1 < b) (hb' : b ≤ 16) (n : ℕ) {rest : List Char}
    (hrest : Ends rest) : readNat b (printNat b n ++ rest) = some (n, rest) := by
  have hstop : rest.takeWhile (isDigit b) = [] ∧ rest.dropWhile (isDigit b) = rest := by
    cases rest with
    | nil => exact ⟨rfl, rfl⟩
    | cons c cs =>
      have hc : isDigit b c = false := isDigit_of_isSpace hb' (hrest c rfl)
      exact ⟨List.takeWhile_cons_of_neg (by simp [hc]), List.dropWhile_cons_of_neg (by simp [hc])⟩
  have hall : ∀ c ∈ printNat b n, isDigit b c = true :=
    fun c hc => isDigit_of_mem_printNat hb hb' hc
  unfold readNat
  rw [List.takeWhile_append_of_pos hall, List.dropWhile_append_of_pos hall, hstop.1, hstop.2,
    List.append_nil]
  dsimp only
  rw [if_neg (printNat_ne_nil b n), foldl_printNat hb hb']

theorem readSign_of_isDigit {c : Char} {cs : List Char} (hc : isDigit 16 c = true) :
    readSign (c :: cs) = (false, c :: cs) := by
  unfold readSign
  split
  · rename_i heq
    cases heq
    exact absurd hc (by decide)
  · rename_i heq
    cases heq
    exact absurd hc (by decide)
  · rfl

theorem readSign_printNat {b : ℕ} (hb : 1 < b) (hb' : b ≤ 16) (n : ℕ) (rest : List Char) :
    readSign (printNat b n ++ rest) = (false, printNat b n ++ rest) := by
  obtain ⟨c, cs, hcs⟩ := List.exists_cons_of_ne_nil (printNat_ne_nil b n)
  have hmem : c ∈ printNat b n := by
    rw [hcs]
    exact List.mem_cons_self
  have hc : isDigit b c = true := isDigit_of_mem_printNat hb hb' hmem
  rw [hcs, List.cons_append]
  apply readSign_of_isDigit
  rw [isDigit, decide_eq_true_eq] at hc ⊢
  omega

theorem skipPrefix_of_head {cs : List Char} (h : cs.head? ≠ some '0') : skipPrefix cs = cs := by
  unfold skipPrefix
  split
  · exact absurd rfl h
  · exact absurd rfl h
  · rfl

/-- No printed number has a prefix. -/
theorem skipPrefix_printNat {b : ℕ} (hb : 1 < b) (hb' : b ≤ 16) (n : ℕ) {rest : List Char}
    (hrest : Ends rest) : skipPrefix (printNat b n ++ rest) = printNat b n ++ rest := by
  by_cases hn : n = 0
  · have hzero : printNat b n = ['0'] := if_pos hn
    rw [hzero, List.singleton_append]
    cases rest with
    | nil => rfl
    | cons c cs =>
      have hc := hrest c rfl
      unfold skipPrefix
      split
      · rename_i heq
        cases heq
        exact absurd hc (by decide)
      · rename_i heq
        cases heq
        exact absurd hc (by decide)
      · rfl
  · apply skipPrefix_of_head
    rw [List.head?_append_of_ne_nil _ (printNat_ne_nil b n)]
    exact head_printNat_ne_zero hb hb' hn

/-- A number printed in decimal is read back as a constant. -/
theorem readNat_constantBase (n : ℕ) {rest : List Char} (hrest : Ends rest) :
    readNat (constantBase (printNat 10 n ++ rest)) (skipPrefix (printNat 10 n ++ rest)) =
      some (n, rest) := by
  have hskip := skipPrefix_printNat (b := 10) (by decide) (by decide) n hrest
  have hhead : (printNat 10 n ++ rest).head? = (printNat 10 n).head? :=
    List.head?_append_of_ne_nil _ (printNat_ne_nil 10 n)
  rw [constantBase, hskip, if_neg (fun h => h rfl), hhead]
  by_cases hn : n = 0
  · have hzero (b : ℕ) : printNat b n = ['0'] := if_pos hn
    rw [hzero, List.head?_cons, if_pos rfl, ← hzero 8]
    exact readNat_printNat (by decide) (by decide) n hrest
  · rw [if_neg (head_printNat_ne_zero (by decide) (by decide) hn)]
    exact readNat_printNat (by decide) (by decide) n hrest

/-- A signed value is read back, in decimal or as a constant. -/
theorem readInt32_printInt (x : BitVec 32) {rest : List Char} (hrest : Ends rest) :
    readInt32 10 (readSign (printInt x.toInt ++ rest)).1 (readSign (printInt x.toInt ++ rest)).2 =
        some (.w32 x, rest) ∧
      readInt32 (constantBase (readSign (printInt x.toInt ++ rest)).2)
        (readSign (printInt x.toInt ++ rest)).1
        (skipPrefix (readSign (printInt x.toInt ++ rest)).2) = some (.w32 x, rest) := by
  have hdecimal := readNat_printNat (b := 10) (by decide) (by decide) x.toInt.natAbs hrest
  have hconstant := readNat_constantBase x.toInt.natAbs hrest
  have hstore (fNegative : Bool)
      (hval : (if fNegative then -(x.toInt.natAbs : ℤ) else x.toInt.natAbs) = x.toInt) :
      some (Value.w32 (BitVec.ofInt 32
        (if fNegative then -(x.toInt.natAbs : ℤ) else x.toInt.natAbs)), rest) =
        some (Value.w32 x, rest) := by
    rw [hval, BitVec.ofInt_toInt]
  unfold printInt
  split
  · rename_i hneg
    have hval : -(x.toInt.natAbs : ℤ) = x.toInt := by omega
    have hsign : readSign ('-' :: printNat 10 x.toInt.natAbs ++ rest) =
        (true, printNat 10 x.toInt.natAbs ++ rest) := rfl
    rw [hsign, readInt32, readInt32, hdecimal, hconstant, Option.map_some]
    exact ⟨hstore true hval, hstore true hval⟩
  · rename_i hpos
    have hval : (x.toInt.natAbs : ℤ) = x.toInt := by omega
    rw [readSign_printNat (by decide) (by decide), readInt32, readInt32, hdecimal, hconstant,
      Option.map_some]
    exact ⟨hstore false hval, hstore false hval⟩

/-- Every conversion reads back what it printed. -/
theorem Conversion.read_print (k : Conversion) (v : Value) (hfit : k.Fits v) {rest : List Char}
    (hrest : Ends rest) : k.read (k.print v ++ rest) = some (v, rest) := by
  cases k with
  | d =>
    cases v with
    | w32 x => exact (readInt32_printInt x hrest).1
    | w64 x => cases hfit
  | i =>
    cases v with
    | w32 x => exact (readInt32_printInt x hrest).2
    | w64 x => cases hfit
  | u =>
    cases v with
    | w32 x =>
      show (readNat 10 (printNat 10 x.toNat ++ rest)).map _ = _
      rw [readNat_printNat (by decide) (by decide) _ hrest, Option.map_some, BitVec.ofNat_toNat,
        BitVec.setWidth_eq]
    | w64 x => cases hfit
  | X =>
    cases v with
    | w32 x =>
      show (readNat 16 (skipPrefix (printNat 16 x.toNat ++ rest))).map _ = _
      rw [skipPrefix_printNat (by decide) (by decide) _ hrest,
        readNat_printNat (by decide) (by decide) _ hrest, Option.map_some, BitVec.ofNat_toNat,
        BitVec.setWidth_eq]
    | w64 x => cases hfit
  | llu =>
    cases v with
    | w32 x => cases hfit
    | w64 x =>
      show (readNat 10 (printNat 10 x.toNat ++ rest)).map _ = _
      rw [readNat_printNat (by decide) (by decide) _ hrest, Option.map_some, BitVec.ofNat_toNat,
        BitVec.setWidth_eq]

theorem isSpace_of_isDigit {c : Char} (hc : isDigit 16 c = true) : isSpace c = false := by
  cases hspace : isSpace c with
  | false => rfl
  | true =>
    rw [isDigit_of_isSpace le_rfl hspace] at hc
    cases hc

theorem printNat_eq_cons {b : ℕ} (hb : 1 < b) (hb' : b ≤ 16) (n : ℕ) :
    ∃ c cs, printNat b n = c :: cs ∧ isSpace c = false := by
  obtain ⟨c, cs, hcs⟩ := List.exists_cons_of_ne_nil (printNat_ne_nil b n)
  refine ⟨c, cs, hcs, isSpace_of_isDigit ?_⟩
  have hc : isDigit b c = true :=
    isDigit_of_mem_printNat hb hb' (by rw [hcs]; exact List.mem_cons_self)
  rw [isDigit, decide_eq_true_eq] at hc ⊢
  omega

theorem printInt_eq_cons (i : ℤ) : ∃ c cs, printInt i = c :: cs ∧ isSpace c = false := by
  unfold printInt
  split
  · exact ⟨'-', _, rfl, by decide⟩
  · exact printNat_eq_cons (by decide) (by decide) _

theorem Conversion.print_eq_cons (k : Conversion) (v : Value) (hfit : k.Fits v) :
    ∃ c cs, k.print v = c :: cs ∧ isSpace c = false := by
  cases k with
  | d | i =>
    cases v with
    | w32 x => exact printInt_eq_cons _
    | w64 x => cases hfit
  | u | X =>
    cases v with
    | w32 x => exact printNat_eq_cons (by decide) (by decide) _
    | w64 x => cases hfit
  | llu =>
    cases v with
    | w32 x => cases hfit
    | w64 x => exact printNat_eq_cons (by decide) (by decide) _

/-- What a format prints is scanned back by the same format. -/
theorem scanf_printf {f : List Directive} {vs : List Value} {rest : List Char}
    (hsep : Separated f = true) (hfit : Fits f vs) (hrest : Ends rest) :
    scanf f (printf f vs ++ rest) = vs := by
  induction f generalizing vs with
  | nil =>
    have hnil : vs = [] := hfit
    rw [hnil]
    rfl
  | cons directive f ih =>
    cases directive with
    | lit c =>
      rw [Separated, Bool.and_eq_true] at hsep
      obtain ⟨hnext, hsep⟩ := hsep
      have hrun := ih hsep hfit
      show scanf (.lit c :: f) (c :: (printf f vs ++ rest)) = vs
      by_cases hc : isSpace c = true
      · -- the white space that is skipped is only what this directive has printed
        rw [scanf, if_pos hc, List.dropWhile_cons_of_pos hc]
        cases f with
        | nil => exact hrun
        | cons next f =>
          have hhead : ∃ c' cs, printf (next :: f) vs = c' :: cs ∧ isSpace c' = false := by
            cases next with
            | lit c' =>
              refine ⟨c', printf f vs, rfl, ?_⟩
              rw [hc, Bool.not_true, Bool.false_or] at hnext
              exact (Bool.not_eq_true' _).mp hnext
            | conv k =>
              cases vs with
              | nil => cases hfit
              | cons v vs =>
                obtain ⟨c', cs, hcs, hspace⟩ := k.print_eq_cons v hfit.1
                refine ⟨c', cs ++ printf f vs, ?_, hspace⟩
                show k.print v ++ printf f vs = _
                rw [hcs, List.cons_append]
          obtain ⟨c', cs, hcs, hspace⟩ := hhead
          rw [hcs, List.cons_append, List.dropWhile_cons_of_neg (by simp [hspace]),
            ← List.cons_append, ← hcs]
          exact hrun
      · rw [scanf, if_neg hc, if_pos rfl]
        exact hrun
    | conv k =>
      rw [Separated, Bool.and_eq_true] at hsep
      obtain ⟨hnext, hsep⟩ := hsep
      cases vs with
      | nil => cases hfit
      | cons v vs =>
        obtain ⟨hk, hfit⟩ := hfit
        obtain ⟨c, cs, hcs, hspace⟩ := k.print_eq_cons v hk
        have hend : Ends (printf f vs ++ rest) := by
          cases f with
          | nil => exact hrest
          | cons next f =>
            cases next with
            | lit c' =>
              intro d hd
              rw [← Option.some.inj hd]
              exact hnext
            | conv k' => cases hnext
        have hread := k.read_print v hk hend
        have hskip : (k.print v ++ (printf f vs ++ rest)).dropWhile isSpace =
            k.print v ++ (printf f vs ++ rest) := by
          rw [hcs, List.cons_append, List.dropWhile_cons_of_neg (by simp [hspace])]
        show scanf (.conv k :: f) (k.print v ++ printf f vs ++ rest) = v :: vs
        rw [List.append_assoc, scanf, hskip, hread]
        dsimp only
        rw [ih hsep hfit]

theorem printf_append_lit {f : List Directive} {vs : List Value} (hfit : Fits f vs) (c : Char) :
    printf (f ++ [.lit c]) vs = printf f vs ++ [c] := by
  induction f generalizing vs with
  | nil => rfl
  | cons directive f ih =>
    cases directive with
    | lit c' => exact congrArg (c' :: ·) (ih hfit)
    | conv k =>
      cases vs with
      | nil => cases hfit
      | cons v vs =>
        show k.print v ++ printf (f ++ [.lit c]) vs = k.print v ++ printf f vs ++ [c]
        rw [ih hfit.2, List.append_assoc]

/-- A line printed with a format is scanned back by the format without its end of line. -/
theorem scanf_line {f : List Directive} {vs : List Value} (hsep : Separated f = true)
    (hfit : Fits f vs) : scanf f (printf (f ++ [.lit '\n']) vs) = vs := by
  rw [printf_append_lit hfit]
  apply scanf_printf hsep hfit
  intro c hc
  rw [← Option.some.inj hc]
  decide

/-- The same without an end of line. -/
theorem scanf_text {f : List Directive} {vs : List Value} (hsep : Separated f = true)
    (hfit : Fits f vs) : scanf f (printf f vs) = vs := by
  have hscan : scanf f (printf f vs ++ []) = vs :=
    scanf_printf hsep hfit (fun c hc => by cases hc)
  rwa [List.append_nil] at hscan

example : printf (format "%d %X") [.w32 0x80000000#32, .w32 0xC0770000#32] =
    "-2147483648 C0770000".toList := by
  decide +kernel

example : scanf (format "%d %d") "-2147483648".toList =
    [.w32 0x80000000#32] := by
  decide +kernel

end FormattedText
