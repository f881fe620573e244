import Mathlib.Data.List.TakeWhile
import CommandScript.Proofs.Number.Shortest

/-!
# Doubles as digits around a point

A double that is written in place, with its sign, is read again as the same double. The text has
digits on both sides of a point; they denote the shortest decimal, which lies in the interval that
is rounded to the double.

## Main definitions

- `CommandScript.Positional` — digits on both sides of a point

## Main results

- `CommandScript.Positional.readFloat?_signed` — the double that such a text denotes
- `CommandScript.Binary64.ofScaled_of_holds` — a decimal in the interval of a rank denotes it
- `CommandScript.Binary64.readFloat?_shortest` — the shortest decimal, written in place, denotes the
  double
-/

namespace CommandScript

open Text Numeral

/-- Digits on both sides of a point. -/
structure Positional where
  whole : List Char
  fraction : List Char
  whole_ne_nil : whole ≠ []
  fraction_ne_nil : fraction ≠ []
  isDigit : ∀ c ∈ whole ++ fraction, c.isDigit = true

namespace Positional

variable {p : Positional} {c : Char}

/-- The characters of the text. -/
def chars (p : Positional) : List Char := p.whole ++ '.' :: p.fraction

/-- The decimal that the digits denote. -/
def decimal (p : Positional) : Decimal :=
  ⟨digitsValue 0 (p.whole ++ p.fraction), -(p.fraction.length : Int)⟩

/-- The text with a minus sign in front, or without. -/
def signed (negative : Bool) (p : Positional) : List Char :=
  if negative then '-' :: p.chars else p.chars

theorem mem_chars : c ∈ p.chars ↔ c = '.' ∨ c ∈ p.whole ++ p.fraction := by
  simp only [chars, List.mem_append, List.mem_cons]
  tauto

theorem isBlank_of_mem_signed {negative : Bool} (mem : c ∈ p.signed negative) :
    isBlank c = false := by
  have solid (mem : c ∈ p.chars) : isBlank c = false := by
    obtain rfl | mem := mem_chars.1 mem
    · decide
    · exact isBlank_of_isDigit (p.isDigit c mem)
  rw [signed] at mem
  split at mem
  · obtain rfl | mem := List.mem_cons.1 mem
    · decide
    · exact solid mem
  · exact solid mem

theorem exists_cons_chars (p : Positional) : ∃ c cs, p.chars = c :: cs ∧ c.isDigit = true := by
  obtain ⟨c, cs, first⟩ := List.exists_cons_of_ne_nil p.whole_ne_nil
  refine ⟨c, cs ++ '.' :: p.fraction, ?_, p.isDigit c ?_⟩
  · rw [chars, first, List.cons_append]
  · rw [first]
    exact List.mem_cons_self

theorem splitSign_signed (negative : Bool) (p : Positional) :
    splitSign (p.signed negative) = (negative, p.chars) := by
  cases negative with
  | true => rfl
  | false =>
    obtain ⟨c, cs, first, digit⟩ := p.exists_cons_chars
    rw [signed, if_neg Bool.false_ne_true, first, splitSign]
    · exact fun _ same => digit_ne (d := '-') digit (by decide) (List.cons.inj same).1
    · exact fun _ same => digit_ne (d := '+') digit (by decide) (List.cons.inj same).1

theorem isDecimal_of_mem_whole (mem : c ∈ p.whole) : isDecimal c = true :=
  isDecimal_of_isDigit (p.isDigit c (List.mem_append_left _ mem))

theorem isDecimal_of_mem_fraction (mem : c ∈ p.fraction) : isDecimal c = true :=
  isDecimal_of_isDigit (p.isDigit c (List.mem_append_right _ mem))

theorem takeWhile_chars (p : Positional) : p.chars.takeWhile isDecimal = p.whole := by
  rw [chars, List.takeWhile_append_of_pos fun c mem => isDecimal_of_mem_whole mem,
    List.takeWhile_cons_of_neg (by decide), List.append_nil]

theorem dropWhile_chars (p : Positional) : p.chars.dropWhile isDecimal = '.' :: p.fraction := by
  rw [chars, List.dropWhile_append_of_pos fun c mem => isDecimal_of_mem_whole mem,
    List.dropWhile_cons_of_neg (by decide)]

theorem span_fraction (p : Positional) : p.fraction.span isDecimal = (p.fraction, []) := by
  have all (c : Char) (mem : c ∈ p.fraction) : isDecimal c = true := isDecimal_of_mem_fraction mem
  rw [List.span_eq_takeWhile_dropWhile, takeWhile_of_forall all, List.dropWhile_eq_nil_iff.2 all]

theorem readDecimal?_chars (negative : Bool) (p : Positional) :
    readDecimal? negative p.chars =
      some (.ofScaled negative p.decimal.digits p.decimal.exponent) := by
  rw [readDecimal?, List.span_eq_takeWhile_dropWhile, takeWhile_chars, dropWhile_chars]
  dsimp only
  rw [splitFraction, span_fraction]
  dsimp only
  rw [if_neg fun none => p.whole_ne_nil none.1, readExponent?, Option.map_some, Int.zero_sub]
  rfl

theorem specialFloat?_of_mem {negative : Bool} {cs : List Char} (point : '.' ∈ cs) :
    specialFloat? negative cs = none := by
  have other {word : String} (plain : '.' ∉ word.toList) :
      String.ofList (cs.map Char.toLower) ≠ word := by
    rintro rfl
    rw [String.toList_ofList] at plain
    exact plain (List.mem_map_of_mem point)
  rw [specialFloat?, if_neg (not_or.2 ⟨other (by decide), other (by decide)⟩),
    if_neg (other (by decide))]

/-- **The double that the text denotes** is the one nearest to the decimal. -/
theorem readFloat?_signed (negative : Bool) (p : Positional) :
    readFloat? (p.signed negative) =
      some (.ofScaled negative p.decimal.digits p.decimal.exponent) := by
  have plain : '_' ∉ p.chars := fun mem => by
    obtain point | mem := mem_chars.1 mem
    · cases point
    · exact absurd (p.isDigit _ mem) (by decide)
  rw [readFloat?, withoutMargin_of_forall fun c mem => isBlank_of_mem_signed mem, splitSign_signed]
  dsimp only
  rw [withoutUnderscores?_of_notMem plain]
  dsimp only
  rw [specialFloat?_of_mem (mem_chars.2 (.inl rfl)), readDecimal?_chars, Option.none_or]

end Positional

/-! ### Decimals written in place -/

namespace Numeral

theorem digitsValue_zeros (acc k : Nat) :
    digitsValue acc (List.replicate k '0') = acc * 10 ^ k := by
  induction k generalizing acc with
  | zero => simp [digitsValue]
  | succ k ih =>
    have zero : (digitValue? '0').getD 0 = 0 := by decide
    rw [List.replicate_succ, digitsValue, zero, ih, Nat.pow_succ']
    ring

theorem digitsValue_zeros_append (k n : Nat) :
    digitsValue 0 (List.replicate k '0' ++ Nat.toDigits 10 n) = n := by
  rw [digitsValue_append, digitsValue_zeros, Nat.zero_mul, digitsValue_toDigits]

end Numeral

namespace Decimal

variable {d : Decimal}

theorem isDigit_of_mem_replicate {k : Nat} {c : Char} (mem : c ∈ List.replicate k '0') :
    c.isDigit = true := by
  rw [List.eq_of_mem_replicate mem]
  rfl

/-- Digits that are those of a decimal, with the point where it is in the decimal. -/
theorem decimal_eq {p : Positional} (digits : digitsValue 0 (p.whole ++ p.fraction) = d.digits)
    (length : (p.fraction.length : Int) = -d.exponent) : p.decimal = d := by
  rw [Positional.decimal, digits, length, Int.neg_neg]

/-- A decimal without digits after the point, with a zero there. -/
theorem value_mul_ten {k : Nat} (whole : d.exponent = k) :
    (Decimal.mk (d.digits * 10 ^ k * 10) (-1)).value = d.value := by
  rw [value, value, whole, zpow_natCast]
  push_cast
  rw [zpow_neg_one, mul_assoc _ (10 : ℚ), mul_inv_cancel₀ (by norm_num), mul_one]

/-- A whole decimal, written with zeros up to the point and one after it. -/
theorem exists_positional_of_whole {k : Nat} (positive : 0 < d.digits) (whole : d.exponent = k)
    (most : d.place ≤ 16) :
    ∃ p : Positional, Nat.toDigits 10 d.digits ++ List.replicate k '0' ++ ['.', '0'] = p.chars ∧
      p.decimal.value = d.value ∧ p.decimal.digits ≤ 10 ^ 17 ∧ p.decimal.exponent = -1 := by
  let p : Positional :=
    { whole := Nat.toDigits 10 d.digits ++ List.replicate k '0'
      fraction := ['0']
      whole_ne_nil := List.append_ne_nil_of_left_ne_nil Nat.toDigits_ne_nil _
      fraction_ne_nil := List.cons_ne_nil _ _
      isDigit := List.forall_mem_append.2 ⟨List.forall_mem_append.2
        ⟨fun _ => isDigit_of_mem_toDigits, fun _ => isDigit_of_mem_replicate⟩,
        List.forall_mem_singleton.2 rfl⟩ }
  have here : p.decimal = ⟨d.digits * 10 ^ k * 10, -1⟩ := by
    have digits : digitsValue 0 (p.whole ++ p.fraction) = d.digits * 10 ^ k * 10 := by
      rw [digitsValue_append, digitsValue_append, digitsValue_toDigits, digitsValue_zeros]
      rfl
    rw [Positional.decimal, digits]
    rfl
  have bound : d.digits * 10 ^ k ≤ 10 ^ 16 := by
    obtain ⟨l, many, -, high⟩ := length_toDigits_spec positive
    have fits : l + 1 + k ≤ 16 := by
      rw [place, many] at most
      omega
    calc d.digits * 10 ^ k ≤ 10 ^ (l + 1) * 10 ^ k := Nat.mul_le_mul_right _ (Nat.le_of_lt high)
      _ = 10 ^ (l + 1 + k) := (Nat.pow_add 10 (l + 1) k).symm
      _ ≤ 10 ^ 16 := Nat.pow_le_pow_right (by decide) fits
  refine ⟨p, rfl, ?_⟩
  rw [here]
  exact ⟨value_mul_ten whole, Nat.mul_le_mul_right 10 bound, rfl⟩

/-- **A decimal that is written in place** has digits on both sides of the point, which denote
it. -/
theorem exists_positional (positive : 0 < d.digits) (few : d.digits ≤ 10 ^ 17)
    (least : -3 ≤ d.place) (most : d.place ≤ 16) :
    ∃ p : Positional, Binary64.plainStyle.decimalText d = p.chars ∧ p.decimal.value = d.value ∧
      p.decimal.digits ≤ 10 ^ 17 ∧ -21 ≤ p.decimal.exponent ∧ p.decimal.exponent < 0 := by
  have short : (Nat.toDigits 10 d.digits).length ≤ 18 :=
    length_toDigits_le (by decide) (Nat.lt_of_le_of_lt few (by decide))
  have long : 0 < (Nat.toDigits 10 d.digits).length := List.length_pos_iff.2 Nat.toDigits_ne_nil
  have digit (c : Char) (mem : c ∈ Nat.toDigits 10 d.digits) : c.isDigit = true :=
    isDigit_of_mem_toDigits mem
  have length : d.place = (Nat.toDigits 10 d.digits).length + d.exponent := rfl
  have same {p : Positional} (here : p.decimal = d) (inside : d.exponent < 0) :
      p.decimal.value = d.value ∧ p.decimal.digits ≤ 10 ^ 17 ∧ -21 ≤ p.decimal.exponent ∧
        p.decimal.exponent < 0 := by
    rw [here]
    exact ⟨rfl, few, by omega, inside⟩
  rw [FloatStyle.decimalText]
  dsimp only
  rw [← length, if_pos ⟨least, most⟩]
  split
  · next small =>
    let p : Positional :=
      { whole := ['0']
        fraction := List.replicate (-d.place).toNat '0' ++ Nat.toDigits 10 d.digits
        whole_ne_nil := List.cons_ne_nil _ _
        fraction_ne_nil := List.append_ne_nil_of_right_ne_nil _ Nat.toDigits_ne_nil
        isDigit := List.forall_mem_append.2 ⟨List.forall_mem_singleton.2 rfl,
          List.forall_mem_append.2 ⟨fun _ => isDigit_of_mem_replicate, digit⟩⟩ }
    refine ⟨p, rfl, same (decimal_eq ?_ ?_) (by omega)⟩
    · exact digitsValue_zeros_append ((-d.place).toNat + 1) d.digits
    · rw [List.length_append, List.length_replicate]
      omega
  · next large =>
    split
    · next whole =>
      obtain ⟨k, exponent⟩ := Int.eq_ofNat_of_zero_le (a := d.exponent) (by omega)
      obtain ⟨p, text, value, digits, below⟩ := exists_positional_of_whole positive exponent most
      have zeros : (d.place - (Nat.toDigits 10 d.digits).length).toNat = k := by omega
      rw [zeros]
      exact ⟨p, text, value, digits, by omega, by omega⟩
    · next mixed =>
      let p : Positional :=
        { whole := (Nat.toDigits 10 d.digits).take d.place.toNat
          fraction := (Nat.toDigits 10 d.digits).drop d.place.toNat
          whole_ne_nil := List.length_pos_iff.1 (by rw [List.length_take]; omega)
          fraction_ne_nil := List.length_pos_iff.1 (by rw [List.length_drop]; omega)
          isDigit := by rwa [List.take_append_drop] }
      refine ⟨p, rfl, same (decimal_eq ?_ ?_) (by omega)⟩
      · rw [List.take_append_drop, digitsValue_toDigits]
      · rw [List.length_drop]
        omega

end Decimal

/-! ### Reading what is written in place -/

namespace Binary64

theorem ofUnits_of_rankOf {rank : Fin finiteCount} {negative : Bool} {num den : Nat}
    (nearest : rankOf num den = rank) : ofUnits negative num den = .finite negative rank := by
  rw [ofUnits, dif_pos (Nat.lt_of_le_of_lt (Nat.le_of_eq nearest) rank.isLt)]
  congr 1
  exact Fin.ext nearest

/-- **A decimal in the interval of a rank denotes it**, where it has few digits and its point is
near them. -/
theorem ofScaled_of_holds {d : Decimal} {rank : Fin finiteCount} (negative : Bool)
    (positive : 0 < rank.val) (few : d.digits ≤ 10 ^ 17) (low : -21 ≤ d.exponent)
    (high : d.exponent < 0)
    (inside : (intervalOf rank).Holds (d.value * halfUnitsPerOne)) :
    ofScaled negative d.digits d.exponent = .finite negative rank := by
  have nonzero : d.digits ≠ 0 := fun zero => by
    have least := inside.1
    rw [Decimal.value, zero, Nat.cast_zero, zero_mul, zero_mul, ← Nat.cast_zero, Nat.cast_le]
      at least
    have some : 0 < unitsOf rank := Nat.zero_lt_of_lt (strictMono_unitsOf positive)
    have same : (intervalOf rank).low = unitsOf (rank - 1) + unitsOf rank := rfl
    omega
  have size : d.digits.log2 < 57 :=
    (Nat.log2_lt nonzero).2 (Nat.lt_of_le_of_lt few (by decide))
  have units : ((2 * (d.digits * unitsPerOne) : Nat) : ℚ) / ((10 ^ (-d.exponent).toNat : Nat) : ℚ) =
      d.value * halfUnitsPerOne := by
    have power := up_div_down d.exponent
    rw [Int.toNat_of_nonpos (Int.le_of_lt high), Nat.pow_zero, Nat.cast_one] at power
    rw [div_eq_iff (ne_of_gt (pow_ten_pos _)), halfUnitsPerOne_eq, Decimal.value]
    calc ((2 * (d.digits * unitsPerOne) : Nat) : ℚ)
        = ((2 * (d.digits * unitsPerOne) : Nat) : ℚ) *
            ((10 ^ (-d.exponent).toNat : Nat) * 10 ^ d.exponent) := by rw [power, mul_one]
      _ = _ := by push_cast; ring
  have nearest : rankOf (d.digits * unitsPerOne) (10 ^ (-d.exponent).toNat) = rank := by
    refine rankOf_of_contains (Nat.pow_pos (by decide)) positive ?_
    rwa [Interval.contains_iff_holds (Nat.pow_pos (by decide)), units]
  rw [ofScaled, if_neg (by omega), if_neg (by omega), if_neg (by omega)]
  exact ofUnits_of_rankOf nearest

/-- **What is written in place is read again.** A double that is not whole, and not less than one
ten-thousandth, has digits on both sides of a point as its text, which denotes it. -/
theorem exists_positional_text {rank : Fin finiteCount} (negative : Bool)
    (fractional : unitsOf rank % unitsPerOne ≠ 0) (large : unitsPerOne ≤ 10000 * unitsOf rank) :
    ∃ p : Positional, (finite negative rank).text = String.ofList (p.signed negative) ∧
      readFloat? (p.signed negative) = some (.finite negative rank) := by
  have positive : 0 < rank.val := by
    refine Nat.pos_of_ne_zero fun zero => fractional ?_
    rw [zero, unitsOf_of_lt hiddenBit_pos, Nat.zero_mod]
  obtain ⟨inside, -, few⟩ := shortest_spec positive
  obtain ⟨p, text, value, digits, low, high⟩ :=
    Decimal.exists_positional (digits_shortest_pos positive) few
      (le_place_shortest positive large) (place_shortest_le positive fractional)
  refine ⟨p, ?_, ?_⟩
  · rw [Binary64.text, FloatStyle.render, if_neg (Nat.ne_of_gt positive), text]
    rfl
  · rw [p.readFloat?_signed, ofScaled_of_holds negative positive digits low high]
    rwa [value]

end Binary64

end CommandScript
