import Mathlib.Order.Monotone.Basic
import Mathlib.Tactic.Linarith
import Mathlib.Tactic.Ring
import CommandScript.Number.Shortest

/-!
# Rounding to a double

Which numbers are rounded to the magnitude of a rank: those between the midpoints to its neighbours,
and the midpoints themselves for an even rank. A magnitude is a significand times a power of two;
what lies just below the least significand of a power is rounded on the finer grid below it, and
comes out at the same rank.

## Main definitions

- `CommandScript.Binary64.IsSignificand` — the significands of the ranks at a power of two

## Main results

- `CommandScript.roundQuotient_eq` — the natural that is nearest to a quotient
- `CommandScript.Binary64.exists_significand` — every rank has a significand and a power of two
- `CommandScript.Binary64.gap_above`, `gap_below` — how far the neighbours of a magnitude are
- `CommandScript.Binary64.rankOf_of_contains` — what lies in the interval of a rank is rounded to it
-/

namespace CommandScript

/-- A quotient that is not farther than one half from a natural is rounded to it, where it is not
halfway between two, or the natural is even. -/
theorem roundQuotient_eq {n d k : Nat} (low : 2 * (k * d) ≤ 2 * n + d)
    (high : 2 * n ≤ 2 * (k * d) + d)
    (ties : k % 2 = 0 ∨ 2 * (k * d) < 2 * n + d ∧ 2 * n < 2 * (k * d) + d) (positive : 0 < d) :
    roundQuotient n d = k := by
  have whole : d * (n / d) + n % d = n := Nat.div_add_mod n d
  have rest : n % d < d := Nat.mod_lt n positive
  rw [roundQuotient]
  generalize n / d = q, n % d = r at whole rest ⊢
  subst whole
  have above : q ≤ k := by
    by_contra less
    have : (k + 1) * d ≤ q * d := Nat.mul_le_mul_right d (Nat.lt_of_not_le less)
    linarith [Nat.mul_comm d q]
  have below : k ≤ q + 1 := by
    by_contra greater
    have : (q + 2) * d ≤ k * d := Nat.mul_le_mul_right d (Nat.lt_of_not_le greater)
    linarith [Nat.mul_comm d q]
  obtain rfl | rfl : k = q ∨ k = q + 1 := by omega
  · rw [Nat.mul_comm k d] at low high ties
    generalize d * k = p at low high ties
    split
    · rfl
    · split
      · omega
      · rw [if_pos (by omega)]
  · rw [Nat.add_mul, Nat.one_mul, Nat.mul_comm q d] at low high ties
    generalize d * q = p at low high ties
    rw [if_neg (by omega)]
    split
    · rfl
    · rw [if_neg (by omega)]

namespace Binary64

variable {rank e m num den : Nat}

/-! ### Significands -/

theorem hiddenBit_pos : 0 < hiddenBit := by decide

theorem even_hiddenBit : hiddenBit % 2 = 0 := by decide

/-- The significands of the ranks at a power of two: those without the hidden bit are only there at
the least power. -/
def IsSignificand (e m : Nat) : Prop := m < 2 * hiddenBit ∧ (e = 0 ∨ hiddenBit ≤ m)

theorem unitsOf_of_le {b : Nat} (less : b < hiddenBit) :
    unitsOf ((e + 1) * hiddenBit + b) = (hiddenBit + b) * 2 ^ e := by
  have positive := hiddenBit_pos
  rw [unitsOf]
  generalize hiddenBit = h at less positive ⊢
  have rounds : ¬(e + 1) * h + b < h := by
    rw [Nat.add_mul, Nat.one_mul]
    omega
  have quotient : ((e + 1) * h + b) / h = e + 1 := by
    rw [Nat.add_comm, Nat.add_mul_div_right _ _ positive, Nat.div_eq_of_lt less, Nat.zero_add]
  have remainder : ((e + 1) * h + b) % h = b := by
    rw [Nat.add_comm, Nat.add_mul_mod_self_right, Nat.mod_eq_of_lt less]
  rw [if_neg rounds, quotient, remainder]
  rfl

/-- The magnitude of a rank, also where the significand is that of the next power. -/
theorem unitsOf_of_significand (small : m ≤ 2 * hiddenBit) (normal : e = 0 ∨ hiddenBit ≤ m) :
    unitsOf (e * hiddenBit + m) = m * 2 ^ e := by
  by_cases low : m < hiddenBit
  · obtain rfl : e = 0 := normal.resolve_right (Nat.not_le.2 low)
    rw [Nat.zero_mul, Nat.zero_add, unitsOf_of_lt low, Nat.pow_zero, Nat.mul_one]
  · obtain ⟨b, rfl⟩ := Nat.exists_eq_add_of_le (Nat.not_lt.1 low)
    obtain less | rfl : b < hiddenBit ∨ b = hiddenBit := by omega
    · rw [← unitsOf_of_le less, Nat.add_mul, Nat.one_mul, Nat.add_assoc]
    · have next := unitsOf_of_le (e := e + 1) hiddenBit_pos
      rw [Nat.add_zero, Nat.add_zero] at next
      rw [← Nat.two_mul, ← Nat.add_mul, next, Nat.pow_succ]
      ring

theorem exists_significand (rank : Nat) :
    ∃ e m, IsSignificand e m ∧ rank = e * hiddenBit + m := by
  have positive := hiddenBit_pos
  have parts : hiddenBit * (rank / hiddenBit) + rank % hiddenBit = rank := Nat.div_add_mod _ _
  have less : rank % hiddenBit < hiddenBit := Nat.mod_lt _ positive
  cases here : rank / hiddenBit with
  | zero =>
    rw [here, Nat.mul_zero, Nat.zero_add] at parts
    exact ⟨0, rank, ⟨by omega, .inl rfl⟩, by omega⟩
  | succ e =>
    refine ⟨e, hiddenBit + rank % hiddenBit, ⟨by omega, .inr (by omega)⟩, ?_⟩
    rw [here] at parts
    linarith

/-! ### Neighbours -/

theorem unitsOf_lt_succ (rank : Nat) : unitsOf rank < unitsOf (rank + 1) := by
  obtain ⟨e, m, ⟨small, normal⟩, rfl⟩ := exists_significand rank
  rw [Nat.add_assoc, unitsOf_of_significand (Nat.le_of_lt small) normal,
    unitsOf_of_significand (m := m + 1) small (normal.imp_right Nat.le_succ_of_le)]
  exact Nat.mul_lt_mul_of_pos_right (Nat.lt_succ_self m) (Nat.two_pow_pos e)

theorem strictMono_unitsOf : StrictMono unitsOf := strictMono_nat_of_lt_succ unitsOf_lt_succ

/-- A magnitude that is not a multiple of a power of two is less than that many hidden bits, and so
is the next one, or as large. -/
theorem unitsOf_succ_le {k : Nat} (odd : ¬2 ^ (k + 1) ∣ unitsOf rank) :
    unitsOf (rank + 1) ≤ hiddenBit * 2 ^ (k + 1) := by
  obtain ⟨e, m, ⟨small, normal⟩, rfl⟩ := exists_significand rank
  rw [unitsOf_of_significand (Nat.le_of_lt small) normal] at odd
  rw [Nat.add_assoc, unitsOf_of_significand (m := m + 1) small (normal.imp_right Nat.le_succ_of_le)]
  have power : e ≤ k := by
    refine Nat.le_of_not_lt fun more => odd ?_
    exact Dvd.dvd.mul_left (Nat.pow_dvd_pow 2 more) m
  calc (m + 1) * 2 ^ e ≤ 2 * hiddenBit * 2 ^ k :=
        Nat.mul_le_mul small (Nat.pow_le_pow_right (by decide) power)
    _ = hiddenBit * 2 ^ (k + 1) := by ring

/-- The next magnitude is farther away than one part in `2 ^ 53`. -/
theorem gap_above (rank : Nat) :
    2 * unitsOf rank ≤ 2 ^ 54 * (unitsOf (rank + 1) - unitsOf rank) := by
  obtain ⟨e, m, ⟨small, normal⟩, rfl⟩ := exists_significand rank
  rw [Nat.add_assoc, unitsOf_of_significand (Nat.le_of_lt small) normal,
    unitsOf_of_significand (m := m + 1) small (normal.imp_right Nat.le_succ_of_le),
    ← Nat.sub_mul, Nat.add_sub_cancel_left, Nat.one_mul, ← Nat.mul_assoc]
  exact Nat.mul_le_mul_right _ (Nat.mul_le_mul_left 2 (Nat.le_of_lt small))

/-- So is the one before, also where the magnitudes below are closer to each other. -/
theorem gap_below (rank : Nat) :
    2 * unitsOf (rank + 1) ≤ 2 ^ 54 * (unitsOf (rank + 1) - unitsOf rank) := by
  obtain ⟨e, m, ⟨small, normal⟩, rfl⟩ := exists_significand rank
  rw [Nat.add_assoc, unitsOf_of_significand (Nat.le_of_lt small) normal,
    unitsOf_of_significand (m := m + 1) small (normal.imp_right Nat.le_succ_of_le),
    ← Nat.sub_mul, Nat.add_sub_cancel_left, Nat.one_mul, ← Nat.mul_assoc]
  exact Nat.mul_le_mul_right _ (Nat.mul_le_mul_left 2 small)

/-! ### Rounding -/

theorem log2_sub_eq {q : Nat} (below : q < 2 * hiddenBit * 2 ^ (e + 1))
    (above : hiddenBit * 2 ^ (e + 1) ≤ q) : q.log2 - 52 = e + 1 := by
  have least : 2 ^ (53 + e) ≤ q := by
    rw [show 53 + e = 52 + (e + 1) by omega, Nat.pow_add]
    exact above
  have bound : q < 2 ^ (53 + e + 1) := by
    rw [show 53 + e + 1 = 53 + (e + 1) by omega, Nat.pow_add]
    exact below
  have nonzero : q ≠ 0 := Nat.ne_of_gt (Nat.lt_of_lt_of_le (Nat.two_pow_pos _) least)
  rw [(Nat.log2_eq_iff nonzero).2 ⟨least, bound⟩]
  omega

/-- The power of two at which a number is rounded. -/
theorem rankOf_eq (positive : 0 < den) (high : num < 2 * hiddenBit * 2 ^ e * den)
    (low : e = 0 ∨ hiddenBit * 2 ^ e * den ≤ num) :
    rankOf num den = e * hiddenBit + roundQuotient num (den * 2 ^ e) := by
  have below : num / den < 2 * hiddenBit * 2 ^ e := (Nat.div_lt_iff_lt_mul positive).2 high
  have power : (if num / den < 2 * hiddenBit then 0 else (num / den).log2 - 52) = e := by
    cases e with
    | zero =>
      rw [Nat.pow_zero, Nat.mul_one] at below
      exact if_pos below
    | succ e =>
      have above : hiddenBit * 2 ^ (e + 1) ≤ num / den :=
        (Nat.le_div_iff_mul_le positive).2 (low.resolve_left (Nat.succ_ne_zero e))
      have many : hiddenBit * 2 ≤ hiddenBit * 2 ^ (e + 1) := by
        rw [Nat.pow_succ']
        exact Nat.mul_le_mul_left _ (Nat.le_mul_of_pos_right 2 (Nat.two_pow_pos e))
      rw [if_neg (by omega), log2_sub_eq below above]
  rw [rankOf, power]
  rfl

/-- A number at a power of two is rounded to the significand that is not farther than one half. -/
theorem rankOf_of_near (positive : 0 < den) (high : num < 2 * hiddenBit * 2 ^ e * den)
    (low : e = 0 ∨ hiddenBit * 2 ^ e * den ≤ num)
    (near : 2 * (m * (den * 2 ^ e)) ≤ 2 * num + den * 2 ^ e)
    (near' : 2 * num ≤ 2 * (m * (den * 2 ^ e)) + den * 2 ^ e)
    (ties : m % 2 = 0 ∨ 2 * (m * (den * 2 ^ e)) < 2 * num + den * 2 ^ e ∧
      2 * num < 2 * (m * (den * 2 ^ e)) + den * 2 ^ e) :
    rankOf num den = e * hiddenBit + m := by
  rw [rankOf_eq positive high low,
    roundQuotient_eq near near' ties (Nat.mul_pos positive (Nat.two_pow_pos e))]

/-- A point lies in the interval of a rank: between its ends, and inside for an odd rank. -/
theorem contains_iff {n scale : Nat} :
    (intervalOf rank).contains n scale = true ↔
      (unitsOf (rank - 1) + unitsOf rank) * scale ≤ n ∧
      n ≤ (unitsOf rank + unitsOf (rank + 1)) * scale ∧
      (rank % 2 = 0 ∨ (unitsOf (rank - 1) + unitsOf rank) * scale < n ∧
        n < (unitsOf rank + unitsOf (rank + 1)) * scale) := by
  rw [Interval.contains, intervalOf]
  by_cases even : rank % 2 = 0
  · simp [even]
  · simp only [even, decide_false, Bool.false_eq_true, if_false, Bool.and_eq_true,
      decide_eq_true_eq, false_or]
    omega

/-- What lies in the interval of a rank whose neighbours are as far from it on both sides. -/
theorem rankOf_of_regular (positive : 0 < den) (small : m + 1 < 2 * hiddenBit)
    (regular : e = 0 ∨ hiddenBit ≤ m) (low : (m * 2 ^ e + (m + 1) * 2 ^ e) * den ≤ 2 * num)
    (high : 2 * num ≤ ((m + 1) * 2 ^ e + (m + 1 + 1) * 2 ^ e) * den)
    (ties : (m + 1) % 2 = 0 ∨ (m * 2 ^ e + (m + 1) * 2 ^ e) * den < 2 * num ∧
      2 * num < ((m + 1) * 2 ^ e + (m + 1 + 1) * 2 ^ e) * den) :
    rankOf num den = e * hiddenBit + (m + 1) := by
  have step : 0 < den * 2 ^ e := Nat.mul_pos positive (Nat.two_pow_pos e)
  have lower : (m * 2 ^ e + (m + 1) * 2 ^ e) * den + den * 2 ^ e =
      2 * ((m + 1) * (den * 2 ^ e)) := by ring
  have upper : ((m + 1) * 2 ^ e + (m + 1 + 1) * 2 ^ e) * den =
      2 * ((m + 1) * (den * 2 ^ e)) + den * 2 ^ e := by ring
  have last : (m + 1 + 1) * (den * 2 ^ e) ≤ 2 * hiddenBit * (den * 2 ^ e) :=
    Nat.mul_le_mul_right _ small
  refine rankOf_of_near positive ?_ (regular.imp_right fun least => ?_) (by omega) (by omega)
    (by omega)
  · rw [Nat.add_mul, Nat.one_mul] at last
    rw [Nat.mul_assoc, Nat.mul_comm (2 ^ e)]
    omega
  · have first : hiddenBit * (den * 2 ^ e) ≤ m * (den * 2 ^ e) := Nat.mul_le_mul_right _ least
    have one : (m + 1) * (den * 2 ^ e) = m * (den * 2 ^ e) + den * 2 ^ e := Nat.succ_mul _ _
    rw [Nat.mul_assoc, Nat.mul_comm (2 ^ e)]
    omega

/-- What lies in the interval of a rank with the least significand at its power. The part below the
magnitude is rounded at the power before. -/
theorem rankOf_of_least (positive : 0 < den)
    (low : ((2 * hiddenBit - 1) * 2 ^ e + hiddenBit * 2 ^ (e + 1)) * den ≤ 2 * num)
    (high : 2 * num ≤ (hiddenBit * 2 ^ (e + 1) + (hiddenBit + 1) * 2 ^ (e + 1)) * den) :
    rankOf num den = (e + 1) * hiddenBit + hiddenBit := by
  have even : hiddenBit % 2 = 0 := even_hiddenBit
  have step : 0 < den * 2 ^ e := Nat.mul_pos positive (Nat.two_pow_pos e)
  have many : 2 * (den * 2 ^ e) ≤ hiddenBit * (den * 2 ^ e) :=
    Nat.mul_le_mul_right _ (by decide)
  have double : 2 * hiddenBit * (den * 2 ^ e) = 2 * (hiddenBit * (den * 2 ^ e)) :=
    Nat.mul_assoc _ _ _
  have lower : ((2 * hiddenBit - 1) * 2 ^ e + hiddenBit * 2 ^ (e + 1)) * den + den * 2 ^ e =
      4 * (hiddenBit * (den * 2 ^ e)) := by
    obtain ⟨h, same⟩ : ∃ h, 2 * hiddenBit = h + 1 :=
      Nat.exists_eq_succ_of_ne_zero (Nat.mul_ne_zero (by decide) (Nat.ne_of_gt hiddenBit_pos))
    have twice : 4 * (hiddenBit * (den * 2 ^ e)) =
        2 * hiddenBit * (den * 2 ^ e) + 2 * hiddenBit * (den * 2 ^ e) := by ring
    have upper : hiddenBit * 2 ^ (e + 1) = 2 * hiddenBit * 2 ^ e := by ring
    rw [twice, upper, same, Nat.add_sub_cancel]
    ring
  have upper : (hiddenBit * 2 ^ (e + 1) + (hiddenBit + 1) * 2 ^ (e + 1)) * den =
      4 * (hiddenBit * (den * 2 ^ e)) + 2 * (den * 2 ^ e) := by ring
  have next : den * 2 ^ (e + 1) = 2 * (den * 2 ^ e) := by ring
  have same : hiddenBit * 2 ^ (e + 1) * den = 2 * (hiddenBit * (den * 2 ^ e)) := by ring
  by_cases above : hiddenBit * 2 ^ (e + 1) * den ≤ num
  · have product : hiddenBit * (2 * (den * 2 ^ e)) = 2 * (hiddenBit * (den * 2 ^ e)) := by ring
    refine rankOf_of_near positive ?_ (.inr above) ?_ ?_ (.inl even)
    · rw [Nat.mul_assoc, Nat.mul_comm (2 ^ (e + 1)), next, Nat.mul_assoc, product]
      omega
    · rw [next, product]
      omega
    · rw [next, product]
      omega
  · -- Below the magnitude the significand at the power before is twice the hidden bit.
    have place : (e + 1) * hiddenBit + hiddenBit = e * hiddenBit + 2 * hiddenBit := by ring
    rw [place]
    refine rankOf_of_near positive ?_ (.inr ?_) (by omega) (by omega) (.inl (by omega))
    · rw [Nat.mul_assoc, Nat.mul_comm (2 ^ e)]
      omega
    · rw [Nat.mul_assoc, Nat.mul_comm (2 ^ e)]
      omega

/-- **What lies in the interval of a rank is rounded to it.** -/
theorem rankOf_of_contains (positive : 0 < den) (nonzero : 0 < rank)
    (inside : (intervalOf rank).contains (2 * num) den = true) : rankOf num den = rank := by
  obtain ⟨low, high, ties⟩ := contains_iff.1 inside
  obtain ⟨e, m, ⟨small, normal⟩, rfl⟩ := exists_significand rank
  have parity : (e * hiddenBit + m) % 2 = m % 2 := by
    rw [Nat.add_mod, Nat.mul_mod, even_hiddenBit, Nat.mul_zero, Nat.zero_mod, Nat.zero_add,
      Nat.mod_mod]
  rw [parity] at ties
  rw [Nat.add_assoc, unitsOf_of_significand (Nat.le_of_lt small) normal,
    unitsOf_of_significand (m := m + 1) small (normal.imp_right Nat.le_succ_of_le)] at high ties
  rw [unitsOf_of_significand (Nat.le_of_lt small) normal] at low
  obtain ⟨k, rfl⟩ : ∃ k, m = k + 1 := by
    refine Nat.exists_eq_succ_of_ne_zero fun zero => ?_
    obtain rfl | least := normal
    · omega
    · exact absurd hiddenBit_pos (by omega)
  rw [← Nat.add_assoc, Nat.add_sub_cancel] at low ties
  -- The rank before has the significand `k` at the same power, unless that is too small for it.
  by_cases regular : e = 0 ∨ hiddenBit ≤ k
  · rw [unitsOf_of_significand (Nat.le_of_lt (Nat.lt_of_succ_lt small)) regular] at low ties
    exact rankOf_of_regular positive small regular low high ties
  · obtain ⟨power, below⟩ := not_or.1 regular
    obtain ⟨f, rfl⟩ := Nat.exists_eq_succ_of_ne_zero power
    have least : k + 1 = hiddenBit := by
      have := normal.resolve_left power
      omega
    have place : (f + 1) * hiddenBit + k = f * hiddenBit + (2 * hiddenBit - 1) := by
      rw [Nat.add_mul, Nat.one_mul]
      omega
    rw [place, unitsOf_of_significand (by omega) (.inr (by omega))] at low
    rw [least] at low high ⊢
    exact rankOf_of_least positive low high

end Binary64

end CommandScript
