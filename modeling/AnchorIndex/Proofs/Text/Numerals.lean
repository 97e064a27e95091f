import AnchorIndex.Text.Numeral
import Mathlib.Data.List.DropRight
import AnchorIndex.Text.Blank
import Mathlib.Data.Nat.Digits.Defs

/-!
# Reading written numbers

An integer is written as digits, after a minus sign if it is negative (`toList_toString_int`), and
such a text reads back as the integer (`readInt?_toString`).

A number that is written in hexadecimal digits reads back as the number
(`readHex?_hexadecimal`), so different numbers are written differently
(`hexadecimal_injective`). A hexadecimal numeral has no blanks (`isBlank_of_mem_isHexadecimal`).
-/

namespace AnchorIndex.Text

/-! ### Digits -/

/-- Digits are no blanks. -/
theorem isBlank_of_isDigit {c : Char} (h : c.isDigit = true) :
  isBlank c = false
  := by
  have h : 48 ≤ c.toNat ∧ c.toNat ≤ 57 := by
    simpa [Char.isDigit, UInt32.le_iff_toNat_le] using h
  simp only [isBlank]
  have h₁ : (c.toNat == 0x85) = false := by
    rw [beq_eq_false_iff_ne]
    omega
  grind

theorem digitValue?_of_isDigit {c : Char} (h : c.isDigit = true) :
  digitValue? c = some (c.toNat - '0'.toNat)
  := by
  rw [digitValue?, if_pos h]

/-- A text of digits reads as the number that it stands for. -/
theorem readDigits?_of_isDigit {cs : List Char} (h : ∀ c ∈ cs, c.isDigit = true) (value : Nat) :
  readDigits? value cs = some (Nat.ofDigitChars 10 cs value)
  := by
  induction cs generalizing value with
  | nil => simp [readDigits?]
  | cons c cs ih =>
    have hc := h c List.mem_cons_self
    have hne : c ≠ '_' := by
      rintro rfl
      contradiction
    have hstep : readDigits? value (c :: cs) =
        (digitValue? c).bind fun d => readDigits? (10 * value + d) cs := by
      rw [readDigits?.eq_def]
      split
      · contradiction
      next heq =>
        cases heq
        contradiction
      next heq =>
        cases heq
        rfl
    rw [hstep, digitValue?_of_isDigit hc, Option.bind_some, Nat.ofDigitChars_cons]
    apply ih
    intro d hd
    apply h d (List.mem_cons_of_mem c hd)

theorem isDigit_of_mem_toDigits {c : Char} {n : Nat} (h : c ∈ Nat.toDigits 10 n) :
  c.isDigit = true
  := Nat.isDigit_of_mem_toDigits (by decide) (by decide) h

theorem readNat?_toDigits (n : Nat) :
  readNat? (Nat.toDigits 10 n) = some n
  := by
  have hdigits : ∀ c ∈ Nat.toDigits 10 n, c.isDigit = true := fun c hc =>
    isDigit_of_mem_toDigits hc
  have hvalue := Nat.ofDigitChars_ten_toDigits (n := n)
  cases h : Nat.toDigits 10 n with
  | nil => exact absurd h Nat.toDigits_ne_nil
  | cons c cs =>
    rw [h] at hdigits hvalue
    rw [readNat?, digitValue?_of_isDigit (hdigits c List.mem_cons_self), Option.bind_some,
      readDigits?_of_isDigit fun d hd => hdigits d (List.mem_cons_of_mem c hd)]
    rw [Nat.ofDigitChars_cons, Nat.mul_zero, Nat.zero_add] at hvalue
    rw [hvalue]

/-! ### Integers -/

/-- How an integer is written. -/
theorem toList_toString_int (n : Int) :
  (toString n).toList
    = if n < 0 then '-' :: Nat.toDigits 10 n.natAbs else Nat.toDigits 10 n.natAbs
  := by
  cases n with
  | ofNat m =>
    have hm : ¬ Int.ofNat m < 0 := Int.not_lt.2 (Int.natCast_nonneg m)
    rw [if_neg hm]
    apply Nat.toList_repr
  | negSucc m =>
    rw [if_pos (Int.negSucc_lt_zero m)]
    change ("-" ++ Nat.repr (m + 1)).toList = _
    rw [String.toList_append, Nat.toList_repr]
    rfl

/-- The characters of an integer are digits, and a minus sign for a negative one. -/
theorem mem_toString_int {c : Char} {n : Int} (h : c ∈ (toString n).toList) :
  c.isDigit = true ∨ n < 0 ∧ c = '-'
  := by
  rw [toList_toString_int] at h
  split at h
  next hn =>
    obtain rfl | h := List.mem_cons.1 h
    · right
      exact ⟨hn, rfl⟩
    · left
      apply isDigit_of_mem_toDigits h
  · left
    apply isDigit_of_mem_toDigits h

/-- There are no blanks in an integer. -/
theorem isBlank_of_mem_toString_int {c : Char} {n : Int} (h : c ∈ (toString n).toList) :
  isBlank c = false
  := by
  obtain h | ⟨-, rfl⟩ := mem_toString_int h
  · apply isBlank_of_isDigit h
  · rfl

/-- A text without padding is not trimmed. -/
theorem trimPadding_eq_self {cs : List Char} (h : ∀ c ∈ cs, isPadding c = false) :
  ((cs.dropWhile isPadding).reverse.dropWhile isPadding).reverse = cs
  := by
  have hl : cs.dropWhile isPadding = cs := by
    cases cs with
    | nil => rfl
    | cons c cs => simp [h c List.mem_cons_self]
  rw [hl]
  apply List.rdropWhile_eq_self_iff.2
  intro hne
  simp [h _ (List.getLast_mem hne)]

/-- An integer reads back. -/
theorem readInt?_toString (n : Int) :
  readInt? (toString n).toList = some n
  := by
  have htrim : ∀ c ∈ (toString n).toList, isPadding c = false := by
    intro c hc
    simp [isPadding, isBlank_of_mem_toString_int hc]
  rw [readInt?, trimPadding_eq_self htrim, toList_toString_int]
  split
  next r heq =>
    split at heq
    next hn =>
      cases heq
      rw [readNat?_toDigits]
      change some (-(n.natAbs : Int)) = some n
      congr 1
      omega
    · have := isDigit_of_mem_toDigits (heq ▸ List.mem_cons_self : '-' ∈ Nat.toDigits 10 n.natAbs)
      contradiction
  next r heq =>
    split at heq
    · cases heq
    · have := isDigit_of_mem_toDigits (heq ▸ List.mem_cons_self : '+' ∈ Nat.toDigits 10 n.natAbs)
      contradiction
  next hminus hplus =>
    split at hminus
    · exact absurd rfl (hminus _)
    next hn =>
      rw [if_neg hn, readNat?_toDigits]
      change some (n.natAbs : Int) = some n
      congr 1
      omega

/-! ### Hexadecimal numerals -/

/-- The text is a nonempty sequence of hexadecimal digits. -/
def IsHexadecimal (s : String) : Prop :=
  ∃ n, readHex? s.toList = some n

/-- What reading one more hexadecimal digit makes of the number read so far. -/
def readHexDigit (v : Option Nat) (c : Char) : Option Nat :=
  v.bind fun n => (hexValue? c).map (16 * n + ·)

theorem readHex?_of_ne_nil {cs : List Char} (h : cs ≠ []) :
  readHex? cs = cs.foldl readHexDigit (some 0)
  := by
  have hempty : cs.isEmpty = false := by simpa using h
  rw [readHex?, hempty]
  rfl

/-! ### Reading what is written -/

theorem hexValue?_digitChar {d : Nat} (h : d < 16) :
  hexValue? d.digitChar = some d
  := by
  have hall : ∀ d < 16, hexValue? d.digitChar = some d := by decide
  apply hall d h

theorem foldl_readHexDigit_toDigits (n : Nat) :
  (Nat.toDigits 16 n).foldl readHexDigit (some 0) = some n
  := by
  induction n using Nat.strong_induction_on with
  | h n ih =>
    rw [Nat.toDigits_eq_if (by decide)]
    by_cases hn : n < 16
    · rw [if_pos hn, List.foldl_cons, List.foldl_nil, readHexDigit, hexValue?_digitChar hn]
      simp
    · have hlt : n / 16 < n := Nat.div_lt_self (by omega) (by decide)
      have hmod : n % 16 < 16 := Nat.mod_lt n (by decide)
      rw [if_neg hn, List.foldl_append, ih _ hlt, List.foldl_cons, List.foldl_nil, readHexDigit,
        hexValue?_digitChar hmod]
      simp only [Option.bind_some, Option.map_some, Option.some.injEq]
      omega

/-- Zeros in front of a numeral do not count. -/
theorem foldl_readHexDigit_zeros (k : Nat) :
  (List.replicate k '0').foldl readHexDigit (some 0) = some 0
  := by
  induction k with
  | zero => rfl
  | succ k ih =>
    rw [List.replicate_succ, List.foldl_cons]
    apply ih

/-- A number that is written in hexadecimal digits reads back as the number. -/
theorem readHex?_hexadecimal (width n : Nat) :
  readHex? (hexadecimal width n).toList = some n
  := by
  have hne : List.replicate (width - (Nat.toDigits 16 n).length) '0' ++ Nat.toDigits 16 n ≠ [] := by
    intro h
    apply Nat.toDigits_ne_nil (List.append_eq_nil_iff.1 h).2
  rw [hexadecimal, String.toList_ofList, readHex?_of_ne_nil hne, List.foldl_append,
    foldl_readHexDigit_zeros, foldl_readHexDigit_toDigits]

/-- Different numbers are written differently. -/
theorem hexadecimal_injective (width : Nat) :
  Function.Injective (hexadecimal width)
  := by
  intro a b h
  have hread := readHex?_hexadecimal width a
  rw [h, readHex?_hexadecimal] at hread
  exact (Option.some.inj hread).symm

theorem isHexadecimal_hexadecimal (width n : Nat) :
  IsHexadecimal (hexadecimal width n)
  := ⟨n, readHex?_hexadecimal width n⟩

/-! ### What a numeral is made of -/

/-- Reading goes wrong for good at the first character that is no digit. -/
theorem isSome_of_foldl_readHexDigit {cs : List Char} {v : Option Nat} {n : Nat}
    (h : cs.foldl readHexDigit v = some n) :
  v.isSome = true ∧ ∀ c ∈ cs, (hexValue? c).isSome = true
  := by
  induction cs generalizing v with
  | nil =>
    cases h
    exact ⟨rfl, fun _ hc => by contradiction⟩
  | cons c cs ih =>
    obtain ⟨hstep, hrest⟩ := ih h
    obtain ⟨k, hk⟩ := Option.isSome_iff_exists.1 hstep
    obtain ⟨a, rfl, ha⟩ := Option.bind_eq_some_iff.1 hk
    obtain ⟨d, hd, -⟩ := Option.map_eq_some_iff.1 ha
    refine ⟨rfl, ?_⟩
    intro c' hc'
    obtain rfl | hc' := List.mem_cons.1 hc'
    · rw [hd]
      rfl
    · apply hrest c' hc'

/-- Hexadecimal digits are no blanks. -/
theorem isBlank_of_hexValue? {c : Char} (h : (hexValue? c).isSome = true) :
  isBlank c = false
  := by
  have hrange : (48 ≤ c.toNat ∧ c.toNat ≤ 57) ∨ (97 ≤ c.toNat ∧ c.toNat ≤ 102) ∨
      (65 ≤ c.toNat ∧ c.toNat ≤ 70) := by
    rw [hexValue?] at h
    split at h
    next hdigit =>
      left
      simpa [Char.isDigit, UInt32.le_iff_toNat_le] using hdigit
    · split at h
      next hlower =>
        right
        left
        simpa [Char.le_def, UInt32.le_iff_toNat_le] using hlower
      · split at h
        next hupper =>
          right
          right
          simpa [Char.le_def, UInt32.le_iff_toNat_le] using hupper
        · contradiction
  simp only [isBlank]
  have h₁ : (c.toNat == 0x85) = false := by
    rw [beq_eq_false_iff_ne]
    omega
  grind

theorem ne_empty_of_isHexadecimal {s : String} (h : IsHexadecimal s) :
  s ≠ ""
  := by
  rintro rfl
  obtain ⟨n, hn⟩ := h
  contradiction

theorem isBlank_of_mem_isHexadecimal {s : String} (h : IsHexadecimal s) {c : Char}
    (hc : c ∈ s.toList) :
  isBlank c = false
  := by
  obtain ⟨n, hn⟩ := h
  rw [readHex?_of_ne_nil (List.ne_nil_of_mem hc)] at hn
  apply isBlank_of_hexValue? ((isSome_of_foldl_readHexDigit hn).2 c hc)

end AnchorIndex.Text
