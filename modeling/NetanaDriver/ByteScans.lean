import NetanaDriver.CBuffers
import NetanaDriver.FormattedText

/-! Texts as bytes and their scans: words between white space, and runs of bytes of a kind. -/
namespace ByteScans
open CBuffers

def textBytes (s : String) : List Byte := s.toList.map fun c => BitVec.ofNat 8 c.toNat

/-- White space in Latin-1, with the space that does not break. -/
def isSpace (b : Byte) : Bool := (9 ≤ b.toNat && b.toNat ≤ 13) || b.toNat == 32 || b.toNat == 160

/-- The first run of bytes other than white space. -/
def firstWord (bs : List Byte) : List Byte := (bs.dropWhile isSpace).takeWhile fun b => !isSpace b

/-- `%s`: a string that is not at its end gives a word, which may be empty. -/
def scanWord (s : List Byte) : Option (List Byte) := if s = [] then none else some (firstWord s)

/-- The string that starts bytes with a terminator behind them. -/
def stringOf (bs : List Byte) : List Byte := bs.takeWhile fun b => b != 0#8

def isDigit (b : Byte) : Bool := 48 ≤ b.toNat && b.toNat ≤ 57

/-- The number with these decimal digits. -/
def number (ds : List Byte) : ℕ := ds.foldl (fun n b => 10 * n + (b.toNat - 48)) 0

/-- `%u`. -/
def decimal (n : ℕ) : List Byte :=
  (FormattedText.printNat 10 n).map fun c => BitVec.ofNat 8 c.toNat

/-- `[^0-9]`: the bytes in front of the first digit. -/
def beforeDigit (s : List Byte) : List Byte := s.takeWhile fun b => !isDigit b

/-- What starts with the first digit. -/
def fromDigit (s : List Byte) : List Byte := s.dropWhile fun b => !isDigit b

theorem isText_stringOf (bs : List Byte) : IsText (stringOf bs) := by
  intro b hb
  have hne := List.mem_takeWhile_imp hb
  exact bne_iff_ne.mp hne

theorem stringOf_eq_self_iff (bs : List Byte) : stringOf bs = bs ↔ IsText bs := by
  rw [stringOf, List.takeWhile_eq_self_iff]
  exact forall₂_congr fun b _ => bne_iff_ne

theorem stringOf_append {s : List Byte} (hs : IsText s) (rest : List Byte) :
    stringOf (s ++ rest) = s ++ stringOf rest :=
  List.takeWhile_append_of_pos fun b hb => bne_iff_ne.mpr (hs b hb)

/-- A terminator ends a string, whatever is behind it. -/
theorem stringOf_terminated {s : List Byte} (hs : IsText s) (rest : List Byte) :
    stringOf (terminated s ++ rest) = s := by
  rw [terminated, List.append_assoc, stringOf_append hs]
  exact List.append_nil s

theorem isText_firstWord {s : List Byte} (hs : IsText s) : IsText (firstWord s) := by
  intro b hb
  apply hs b
  exact (List.dropWhile_sublist isSpace).subset ((List.takeWhile_sublist _).subset hb)

theorem dropWhile_takeWhile {α : Type*} {p q : α → Bool} (hpq : ∀ a, p a = true → q a = true)
    (l : List α) : (l.takeWhile q).dropWhile p = (l.dropWhile p).takeWhile q := by
  induction l with
  | nil => rfl
  | cons a l ih =>
    cases hp : p a with
    | true =>
      rw [List.takeWhile_cons_of_pos (hpq a hp), List.dropWhile_cons_of_pos hp,
        List.dropWhile_cons_of_pos hp, ih]
    | false =>
      have hdrop : (a :: l).dropWhile p = a :: l := List.dropWhile_cons_of_neg (by simp [hp])
      rw [hdrop]
      cases hq : q a with
      | true =>
        rw [List.takeWhile_cons_of_pos hq, List.dropWhile_cons_of_neg (by simp [hp])]
      | false =>
        rw [List.takeWhile_cons_of_neg (by simp [hq])]
        rfl

/-- The first word of a string ends where the string does. -/
theorem firstWord_stringOf (bs : List Byte) :
    firstWord (stringOf bs) = stringOf (firstWord bs) := by
  have hspace : ∀ b, isSpace b = true → (b != 0#8) = true := by
    intro b hb
    apply bne_iff_ne.mpr
    rintro rfl
    exact absurd hb (by decide)
  rw [firstWord, stringOf, dropWhile_takeWhile hspace, stringOf, firstWord,
    List.takeWhile_takeWhile,
    List.takeWhile_takeWhile]
  congr 1
  funext b
  exact decide_eq_decide.mpr and_comm

/-- A word is shorter than the bytes it stands in where these have white space. -/
theorem length_firstWord_lt_iff (bs : List Byte) :
    (firstWord bs).length < bs.length ↔ ∃ b ∈ bs, isSpace b = true := by
  have hsub : (firstWord bs).Sublist bs :=
    (List.takeWhile_sublist _).trans (List.dropWhile_sublist _)
  constructor
  · intro hlt
    by_contra hnone
    push Not at hnone
    have hall : ∀ b ∈ bs, (!isSpace b) = true := fun b hb => by simp [hnone b hb]
    have hdrop : bs.dropWhile isSpace = bs := by
      cases bs with
      | nil => rfl
      | cons b bs => exact List.dropWhile_cons_of_neg (hnone b List.mem_cons_self)
    rw [firstWord, hdrop, List.takeWhile_eq_self_iff.mpr hall] at hlt
    exact absurd hlt (lt_irrefl _)
  · rintro ⟨b, hb, hspace⟩
    apply lt_of_le_of_ne hsub.length_le
    intro hlen
    rw [← hsub.eq_of_length hlen] at hb
    have hnot := List.mem_takeWhile_imp hb
    rw [hspace] at hnot
    cases hnot

/-- The word that is scanned is shorter than the bytes where these have white space or a zero. -/
theorem length_scanned_lt_iff (bs : List Byte) :
    (firstWord (stringOf bs)).length < bs.length ↔
      ∃ b ∈ bs, isSpace b = true ∨ b = 0#8 := by
  have hsub : (stringOf bs).Sublist bs := List.takeWhile_sublist _
  constructor
  · intro hlt
    by_cases htext : IsText bs
    · rw [(stringOf_eq_self_iff bs).mpr htext] at hlt
      obtain ⟨b, hb, hspace⟩ := (length_firstWord_lt_iff bs).mp hlt
      exact ⟨b, hb, Or.inl hspace⟩
    · rw [IsText] at htext
      push Not at htext
      obtain ⟨b, hb, hzero⟩ := htext
      exact ⟨b, hb, Or.inr hzero⟩
  · rintro ⟨b, hb, hkind⟩
    by_cases htext : IsText bs
    · rw [(stringOf_eq_self_iff bs).mpr htext]
      rcases hkind with hspace | hzero
      · exact (length_firstWord_lt_iff bs).mpr ⟨b, hb, hspace⟩
      · exact absurd hzero (htext b hb)
    · -- the string itself is shorter
      have hword : (firstWord (stringOf bs)).length ≤ (stringOf bs).length :=
        ((List.takeWhile_sublist _).trans (List.dropWhile_sublist _)).length_le
      have hstring : (stringOf bs).length < bs.length := by
        apply lt_of_le_of_ne hsub.length_le
        intro hlen
        exact htext ((stringOf_eq_self_iff bs).mp (hsub.eq_of_length hlen))
      exact hword.trans_lt hstring

theorem beforeDigit_append_fromDigit (s : List Byte) : beforeDigit s ++ fromDigit s = s :=
  List.takeWhile_append_dropWhile

/-- A string is taken apart in one way only. -/
theorem split_at_digits {p ds : List Byte} (hp : ∀ b ∈ p, isDigit b = false)
    (hds : ∀ b ∈ ds, isDigit b = true) :
    beforeDigit (p ++ ds) = p ∧ fromDigit (p ++ ds) = ds := by
  have hall : ∀ b ∈ p, (!isDigit b) = true := fun b hb => by rw [hp b hb]; rfl
  have hstop : ds.takeWhile (fun b => !isDigit b) = [] ∧
      ds.dropWhile (fun b => !isDigit b) = ds := by
    cases ds with
    | nil => exact ⟨rfl, rfl⟩
    | cons d ds =>
      have hd : ¬ (!isDigit d) = true := by rw [hds d List.mem_cons_self]; decide
      exact ⟨List.takeWhile_cons_of_neg hd, List.dropWhile_cons_of_neg hd⟩
  rw [beforeDigit, fromDigit, List.takeWhile_append_of_pos hall, List.dropWhile_append_of_pos hall,
    hstop.1, hstop.2, List.append_nil]
  exact ⟨rfl, rfl⟩

/-- There is a byte behind the first run exactly where the string has a digit. -/
theorem length_beforeDigit_lt_iff (s : List Byte) :
    (beforeDigit s).length < s.length ↔ fromDigit s ≠ [] := by
  have hlen := congrArg List.length (beforeDigit_append_fromDigit s)
  rw [List.length_append] at hlen
  rw [← List.length_pos_iff]
  omega

/-- The byte of a digit has its value. -/
theorem digitValue_byte {c : Char} (hc : FormattedText.isDigit 10 c = true) :
    (BitVec.ofNat 8 c.toNat).toNat - 48 = FormattedText.digitValue c := by
  have hlt := of_decide_eq_true hc
  rw [BitVec.toNat_ofNat]
  unfold FormattedText.digitValue at hlt ⊢
  split at hlt
  · rename_i hrange
    rw [if_pos hrange]
    omega
  · split at hlt
    · omega
    · split at hlt
      · omega
      · omega

theorem number_decimal (n : ℕ) : number (decimal n) = n := by
  rw [number, decimal, List.foldl_map]
  calc (FormattedText.printNat 10 n).foldl
        (fun n c => 10 * n + ((BitVec.ofNat 8 c.toNat).toNat - 48)) 0
      = (FormattedText.printNat 10 n).foldl
        (fun n c => 10 * n + FormattedText.digitValue c) 0 := by
        apply List.foldl_ext
        intro m c hc
        rw [digitValue_byte (FormattedText.isDigit_of_mem_printNat (by decide) (by decide) hc)]
    _ = n := FormattedText.foldl_printNat (by decide) (by decide)

theorem decimal_injective : Function.Injective decimal :=
  Function.LeftInverse.injective number_decimal

end ByteScans
