import Mathlib.Data.List.TakeDrop
import CommandScript.Number.Numeral

/-!
# Numbers as digits

A whole number that is written within the limit on digits is read again as the same number, and
what is read as a whole number is within the limit.

## Main results

- `CommandScript.Numeral.toDigits_cases` — no zero stands in front of other digits
- `CommandScript.Numeral.withoutUnderscores?_of_notMem` — a text without underscores
- `CommandScript.Numeral.readInt_intChars` — what is written is read again
- `CommandScript.Numeral.exceedsLimit_of_readInt` — what is read is within the limit
-/

namespace CommandScript

namespace Text

variable {c : Char} {p : Char → Bool} {cs : List Char}

theorem toNat_of_isDigit (digit : c.isDigit = true) : 48 ≤ c.toNat ∧ c.toNat ≤ 57 := by
  simp only [Char.isDigit, Bool.and_eq_true, decide_eq_true_eq] at digit
  exact digit

theorem isBlank_of_isDigit (digit : c.isDigit = true) : isBlank c = false := by
  have range := toNat_of_isDigit digit
  simp [isBlank, inRanges, blankRanges]
  omega

theorem isMargin_of_isBlank (solid : isBlank c = false) : isMargin c = false := by
  rw [isMargin, solid]
  rfl

theorem isDecimal_of_isDigit (digit : c.isDigit = true) : isDecimal c = true := by
  rw [isDecimal, Numeral.digitValue?_of_isDigit digit]
  rfl

theorem digitValue?_le {c : Char} {d : Nat} (value : digitValue? c = some d) : d ≤ 9 := by
  unfold digitValue? at value
  split at value
  · rename_i range
    cases value
    have high : c.toNat ≤ '9'.toNat := range.2
    have zero : '0'.toNat = 48 := rfl
    have nine : '9'.toNat = 57 := rfl
    omega
  · split at value
    · cases value
    · obtain ⟨z, found, rfl⟩ := Option.map_eq_some_iff.1 value
      have range := List.find?_some found
      simp only [Bool.and_eq_true, decide_eq_true_eq] at range
      omega

theorem dropWhile_of_forall (none : ∀ c ∈ cs, p c = false) : cs.dropWhile p = cs := by
  cases cs with
  | nil => rfl
  | cons c cs => exact List.dropWhile_cons_of_neg (by simp [none c List.mem_cons_self])

theorem takeWhile_of_forall (all : ∀ c ∈ cs, p c = true) : cs.takeWhile p = cs := by
  induction cs with
  | nil => rfl
  | cons c cs ih =>
    rw [List.takeWhile_cons_of_pos (all c List.mem_cons_self),
      ih fun d mem => all d (List.mem_cons_of_mem c mem)]

theorem withoutMargin_of_forall (solid : ∀ c ∈ cs, isBlank c = false) : withoutMargin cs = cs := by
  have outside (c : Char) (mem : c ∈ cs) : isMargin c = false := isMargin_of_isBlank (solid c mem)
  have backwards (c : Char) (mem : c ∈ cs.reverse) : isMargin c = false :=
    outside c (List.mem_reverse.1 mem)
  rw [withoutMargin, dropEndWhile, dropWhile_of_forall outside, dropWhile_of_forall backwards,
    List.reverse_reverse]

end Text

namespace Numeral

open Text

variable {n : Nat} {cs : List Char} {k : Int}

theorem isDigit_of_mem_toDigits {c : Char} (mem : c ∈ Nat.toDigits 10 n) : c.isDigit = true :=
  Nat.isDigit_of_mem_toDigits (by decide) (by decide) mem

theorem exists_cons_toDigits (n : Nat) :
    ∃ c cs, Nat.toDigits 10 n = c :: cs ∧ c.isDigit = true := by
  obtain ⟨c, cs, first⟩ := List.exists_cons_of_ne_nil (Nat.toDigits_ne_nil (b := 10) (n := n))
  refine ⟨c, cs, first, isDigit_of_mem_toDigits (n := n) ?_⟩
  rw [first]
  exact List.mem_cons_self

theorem digit_ne {c d : Char} (digit : c.isDigit = true) (other : d.isDigit = false) : c ≠ d := by
  rintro rfl
  cases digit.symm.trans other

theorem digitChar_ne_zero (positive : 0 < n) (small : n < 10) : n.digitChar ≠ '0' := by
  have all : ∀ n < 10, 0 < n → n.digitChar ≠ '0' := by decide
  exact all n small positive

/-- No zero stands in front of other digits. -/
theorem toDigits_cases (n : Nat) :
    n = 0 ∧ Nat.toDigits 10 n = ['0'] ∨
      0 < n ∧ ∃ c cs, Nat.toDigits 10 n = c :: cs ∧ c ≠ '0' := by
  induction n using Nat.strongRecOn with
  | ind n ih =>
    rw [Nat.toDigits_eq_if (by decide)]
    by_cases small : n < 10
    · rw [if_pos small]
      obtain rfl | positive := Nat.eq_zero_or_pos n
      · exact .inl ⟨rfl, rfl⟩
      · exact .inr ⟨positive, _, [], rfl, digitChar_ne_zero positive small⟩
    · rw [if_neg small]
      have less : n / 10 < n := by omega
      obtain ⟨none, -⟩ | ⟨-, c, cs, written, first⟩ := ih (n / 10) less
      · omega
      · exact .inr ⟨by omega, c, cs ++ _, by rw [written]; rfl, first⟩

theorem underscoresBetween_of_notMem (afterDigit : Bool) (none : '_' ∉ cs) :
    underscoresBetween afterDigit cs = true := by
  induction cs generalizing afterDigit with
  | nil => rfl
  | cons c cs ih =>
    rw [List.mem_cons, not_or] at none
    rw [underscoresBetween]
    · exact ih _ none.2
    · exact fun here => none.1 here.symm

theorem withoutUnderscores?_of_notMem (none : '_' ∉ cs) : withoutUnderscores? cs = some cs := by
  rw [withoutUnderscores?, if_pos (underscoresBetween_of_notMem _ none), List.filter_eq_self.2]
  intro c mem
  have other : c ≠ '_' := fun here => none (here ▸ mem)
  simpa using other

theorem length_toDigits_le {count : Nat} (positive : 0 < count) (within : n < Nat.pow 10 count) :
    (Nat.toDigits 10 n).length ≤ count :=
  (Nat.length_toDigits_le_iff (by decide) positive).2 within

theorem pow_le_pow {count limit : Nat} (few : count ≤ limit) :
    Nat.pow 10 count ≤ Nat.pow 10 limit :=
  Nat.pow_le_pow_right (by decide) few

theorem exceedsLimit_eq_false (count : Nat) (few : count ≤ digitLimit)
    (small : k.natAbs < Nat.pow 10 count) : exceedsLimit k = false :=
  decide_eq_false (Nat.not_le.2 (Nat.lt_of_lt_of_le small (pow_le_pow few)))

theorem signed_natAbs_of_neg (negative : k < 0) : signed true k.natAbs = k := by
  rw [signed, if_pos rfl, Int.ofNat_natAbs_of_nonpos (Int.le_of_lt negative), Int.neg_neg]

theorem signed_natAbs_of_nonneg (positive : 0 ≤ k) : signed false k.natAbs = k :=
  Int.natAbs_of_nonneg positive

theorem splitSign_of_isDigit (digits : ∀ c ∈ cs, c.isDigit = true) :
    splitSign cs = (false, cs) := by
  unfold splitSign
  split
  · exact absurd (digits '-' List.mem_cons_self) (by decide)
  · exact absurd (digits '+' List.mem_cons_self) (by decide)
  · rfl

/-- The digits of a number within the limit, with or without a sign in front, are read as the number
with that sign. -/
theorem readInt_digits {negative : Bool} (unsigned : splitSign cs = (negative, Nat.toDigits 10 n))
    (solid : ∀ c ∈ cs, isBlank c = false) (within : n < Nat.pow 10 digitLimit) :
    readInt cs = .ok (signed negative n) := by
  have decimal : ∀ c ∈ Nat.toDigits 10 n, (isDecimal c || c = '_') = true := fun c mem => by
    rw [isDecimal_of_isDigit (isDigit_of_mem_toDigits mem), Bool.true_or]
  have short := length_toDigits_le (by decide) within
  rw [readInt, withoutMargin_of_forall solid, unsigned]
  dsimp only
  rw [takeWhile_of_forall decimal, withoutUnderscores?_of_notMem Nat.underscore_not_in_toDigits]
  dsimp only
  rw [if_neg (Nat.not_lt.2 short), if_neg, digitsValue_toDigits]
  simp [Nat.toDigits_ne_nil]

/-- Digits denote a number with no more digits. -/
theorem digitsValue_lt (acc : Nat) (cs : List Char) :
    digitsValue acc cs < (acc + 1) * Nat.pow 10 cs.length := by
  induction cs generalizing acc with
  | nil => exact Nat.lt_of_lt_of_eq (Nat.lt_succ_self acc) (Nat.mul_one _).symm
  | cons c cs ih =>
    have small : (digitValue? c).getD 0 ≤ 9 := by
      cases value : digitValue? c with
      | none => exact Nat.zero_le 9
      | some d => exact digitValue?_le value
    have step : acc * 10 + (digitValue? c).getD 0 + 1 ≤ (acc + 1) * 10 := by omega
    calc digitsValue (acc * 10 + (digitValue? c).getD 0) cs
        < (acc * 10 + (digitValue? c).getD 0 + 1) * Nat.pow 10 cs.length := ih _
      _ ≤ (acc + 1) * 10 * Nat.pow 10 cs.length := Nat.mul_le_mul_right _ step
      _ = (acc + 1) * Nat.pow 10 (c :: cs).length := by
        rw [Nat.mul_assoc, Nat.mul_comm 10]
        rfl

theorem natAbs_signed (negative : Bool) (n : Nat) : (signed negative n).natAbs = n := by
  rw [signed]
  split
  · rw [Int.natAbs_neg, Int.natAbs_natCast]
  · exact Int.natAbs_natCast n

/-- A number that is read is within the limit. -/
theorem exceedsLimit_of_readInt (read : readInt cs = .ok k) : exceedsLimit k = false := by
  unfold readInt at read
  dsimp only at read
  split at read
  · cases read
  · rename_i ds _
    split at read
    · cases read
    · rename_i few
      split at read
      · cases read
      · obtain rfl := Except.ok.inj read
        refine exceedsLimit_eq_false ds.length (Nat.le_of_not_lt few) ?_
        rw [natAbs_signed]
        exact Nat.lt_of_lt_of_eq (digitsValue_lt 0 ds) (Nat.one_mul _)

theorem readInt_intChars (within : exceedsLimit k = false) : readInt (intChars k) = .ok k := by
  have bound : k.natAbs < Nat.pow 10 digitLimit := Nat.lt_of_not_le (of_decide_eq_false within)
  have solid (c : Char) (mem : c ∈ Nat.toDigits 10 k.natAbs) : isBlank c = false :=
    isBlank_of_isDigit (isDigit_of_mem_toDigits mem)
  rw [intChars]
  split
  · next negative =>
    rw [readInt_digits rfl (List.forall_mem_cons.2 ⟨by decide, solid⟩) bound]
    exact congrArg Except.ok (signed_natAbs_of_neg negative)
  · next positive =>
    have unsigned : splitSign (Nat.toDigits 10 k.natAbs) = (false, Nat.toDigits 10 k.natAbs) :=
      splitSign_of_isDigit fun c mem => isDigit_of_mem_toDigits mem
    rw [readInt_digits unsigned solid bound]
    exact congrArg Except.ok (signed_natAbs_of_nonneg (Int.not_lt.1 positive))

end Numeral

end CommandScript
