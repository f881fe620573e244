import Mathlib.Algebra.Order.Field.Power
import Mathlib.Tactic.Positivity
import CommandScript.Proofs.Number.Digits
import CommandScript.Proofs.Number.Rounding

/-!
# The shortest decimal of a double

The decimal that is found for a positive double lies in the interval that is rounded to it. One is
always found, since seventeen digits suffice: the grid of so many digits is finer than the distance
of a double from its neighbours. How large the double is says where the point of the decimal is.

## Main definitions

- `CommandScript.Decimal.value`, `place` — the number that a decimal denotes, and where its point is
- `CommandScript.Binary64.Interval.Holds` — a number lies in an interval
- `CommandScript.Binary64.gridFloor`, `gridHit`, `nearAbove` — what is tried on a grid

## Main results

- `CommandScript.Binary64.pointPlace_spec` — the powers of ten around a magnitude
- `CommandScript.Binary64.exists_gridPoint` — seventeen digits suffice
- `CommandScript.Binary64.shortest_spec` — the decimal that is found
- `CommandScript.Binary64.place_shortest_le`, `place_shortest_lt`, `le_place_shortest` — its point
-/

namespace CommandScript

/-! ### Powers of ten -/

theorem ten_zpow_pos (e : Int) : 0 < (10 : ℚ) ^ e := zpow_pos (by norm_num) e

theorem pow_ten_pos (k : Nat) : (0 : ℚ) < (10 ^ k : Nat) := by positivity

/-- Of the two powers of ten that scale a grid, up and down, at least one is one. -/
theorem up_div_down (e : Int) :
    ((10 ^ (-e).toNat : Nat) : ℚ) * (10 : ℚ) ^ e = ((10 ^ e.toNat : Nat) : ℚ) := by
  push_cast
  rw [← zpow_natCast, ← zpow_natCast, ← zpow_add₀ (by norm_num)]
  congr 1
  omega

theorem pow_mul_zpow (k : Nat) (e : Int) :
    ((10 ^ k : Nat) : ℚ) * (10 : ℚ) ^ e = (10 : ℚ) ^ (k + e) := by
  rw [Nat.cast_pow, Nat.cast_ofNat, ← zpow_natCast, ← zpow_add₀ (by norm_num)]

theorem pow_mul_zpow_sub (n : Nat) (e : Int) :
    ((10 ^ n : Nat) : ℚ) * (10 : ℚ) ^ (e - (n + 1 : Nat)) = (10 : ℚ) ^ (e - 1) := by
  rw [pow_mul_zpow]
  congr 1
  omega

namespace Numeral

/-- A positive number has as many digits as it takes. -/
theorem length_toDigits_spec {n : Nat} (positive : 0 < n) :
    ∃ l, (Nat.toDigits 10 n).length = l + 1 ∧ 10 ^ l ≤ n ∧ n < 10 ^ (l + 1) := by
  obtain ⟨l, length⟩ := Nat.exists_eq_succ_of_ne_zero
    (Nat.ne_of_gt (List.length_pos_iff.2 (Nat.toDigits_ne_nil (b := 10) (n := n))))
  refine ⟨l, length, ?_, ?_⟩
  · cases l with
    | zero => exact positive
    | succ l =>
      refine Nat.le_of_not_lt fun less => ?_
      have short := length_toDigits_le (Nat.succ_pos l) less
      omega
  · exact (Nat.length_toDigits_le_iff (by decide) (Nat.succ_pos l)).1 (Nat.le_of_eq length)

end Numeral

namespace Decimal

variable {d : Decimal}

/-- The number that a decimal denotes. -/
def value (d : Decimal) : ℚ := d.digits * (10 : ℚ) ^ d.exponent

/-- Without zeros at its end a decimal is the same number, with fewer digits. -/
theorem stripZeros_spec (fuel : Nat) (d : Decimal) :
    (d.stripZeros fuel).value = d.value ∧ (d.stripZeros fuel).digits ≤ d.digits := by
  induction fuel generalizing d with
  | zero => exact ⟨rfl, Nat.le_refl _⟩
  | succ fuel ih =>
    rw [stripZeros]
    split
    · next zero =>
      obtain ⟨same, less⟩ := ih ⟨d.digits / 10, d.exponent + 1⟩
      refine ⟨same.trans ?_, Nat.le_trans less (Nat.div_le_self _ _)⟩
      have tens : ((d.digits / 10 : Nat) : ℚ) * 10 = d.digits := by
        exact_mod_cast Nat.div_mul_cancel (Nat.dvd_of_mod_eq_zero zero)
      rw [value, value, zpow_add_one₀ (by norm_num), ← tens]
      ring
    · exact ⟨rfl, Nat.le_refl _⟩

/-- The place of the point of a decimal. -/
def place (d : Decimal) : Int := (Nat.toDigits 10 d.digits).length + d.exponent

/-- The powers of ten around a decimal. -/
theorem place_spec (positive : 0 < d.digits) :
    (10 : ℚ) ^ (d.place - 1) ≤ d.value ∧ d.value < (10 : ℚ) ^ d.place := by
  obtain ⟨l, length, low, high⟩ := Numeral.length_toDigits_spec positive
  have before : d.place - 1 = l + d.exponent := by rw [place, length]; omega
  have after : d.place = (l + 1 : Nat) + d.exponent := by rw [place, length]
  rw [before, after, ← pow_mul_zpow, ← pow_mul_zpow, value]
  exact ⟨mul_le_mul_of_nonneg_right (Nat.cast_le.2 low) (le_of_lt (ten_zpow_pos _)),
    mul_lt_mul_of_pos_right (Nat.cast_lt.2 high) (ten_zpow_pos _)⟩

theorem digits_pos_of_value_pos (positive : 0 < d.value) : 0 < d.digits := by
  refine Nat.pos_of_ne_zero fun zero => ne_of_gt positive ?_
  rw [value, zero, Nat.cast_zero, zero_mul]

end Decimal

namespace Binary64

variable {rank n scale : Nat} {place : Int}

/-! ### Intervals -/

namespace Interval

variable {i : Interval}

/-- A number of half units lies in an interval. -/
def Holds (i : Interval) (x : ℚ) : Prop :=
  i.low ≤ x ∧ x ≤ i.high ∧ (i.closed = true ∨ (i.low < x ∧ x < i.high))

theorem contains_iff_holds (positive : 0 < scale) :
    i.contains n scale = true ↔ i.Holds (n / scale) := by
  have scaled : (0 : ℚ) < scale := by exact_mod_cast positive
  rw [Holds, le_div_iff₀ scaled, div_le_iff₀ scaled, lt_div_iff₀ scaled, div_lt_iff₀ scaled,
    contains]
  norm_cast
  cases i.closed with
  | false => simp; omega
  | true => simp

end Interval

/-! ### The place of the point -/

theorem halfUnitsPerOne_pos : 0 < halfUnitsPerOne := by decide +kernel

theorem halfUnitsPerOne_cast_pos : (0 : ℚ) < halfUnitsPerOne := Nat.cast_pos.2 halfUnitsPerOne_pos

/-- So many powers of ten are multiplied on as are needed, and no more. -/
theorem shortfall_spec {bound fuel : Nat} (enough : bound ≤ n * 10 ^ fuel) :
    bound ≤ n * 10 ^ shortfall bound fuel n ∧
      ∀ k, shortfall bound fuel n = k + 1 → n * 10 ^ k < bound := by
  induction fuel generalizing n with
  | zero => exact ⟨enough, fun k none => by cases none⟩
  | succ fuel ih =>
    rw [shortfall]
    split
    · next reached => exact ⟨by omega, fun k none => by cases none⟩
    · next short =>
      rw [Nat.pow_succ', ← Nat.mul_assoc] at enough
      obtain ⟨reached, least⟩ := ih enough
      refine ⟨by rwa [Nat.pow_succ', ← Nat.mul_assoc], fun k more => ?_⟩
      rw [Nat.add_right_cancel more] at least
      cases k with
      | zero => omega
      | succ k =>
        rw [Nat.pow_succ', ← Nat.mul_assoc]
        exact least k rfl

/-- **The powers of ten around a number of half units.** -/
theorem pointPlace_spec {value : Nat} (positive : 0 < value) :
    (10 : ℚ) ^ (pointPlace value - 1) ≤ value / halfUnitsPerOne ∧
      value / halfUnitsPerOne < (10 : ℚ) ^ pointPlace value := by
  have scaled := halfUnitsPerOne_cast_pos
  rw [pointPlace]
  split
  · next many =>
    have whole : 0 < value / halfUnitsPerOne := Nat.div_pos many halfUnitsPerOne_pos
    obtain ⟨l, length, low, high⟩ := Numeral.length_toDigits_spec whole
    rw [Nat.le_div_iff_mul_le halfUnitsPerOne_pos] at low
    rw [Nat.div_lt_iff_lt_mul halfUnitsPerOne_pos] at high
    rw [length, le_div_iff₀ scaled, div_lt_iff₀ scaled, Nat.cast_succ, add_sub_cancel_right]
    exact ⟨by exact_mod_cast low, by exact_mod_cast high⟩
  · next few =>
    have enough : halfUnitsPerOne ≤ value * 10 ^ 400 := by
      have base : halfUnitsPerOne ≤ 10 ^ 400 := by decide +kernel
      exact Nat.le_trans base (Nat.le_mul_of_pos_left _ positive)
    obtain ⟨reached, least⟩ := shortfall_spec enough
    cases here : shortfall halfUnitsPerOne 400 value with
    | zero =>
      rw [here] at reached
      omega
    | succ k =>
      have short := least k here
      rw [here] at reached
      have power : (1 : Int) - ((k + 1 : Nat) : Int) = -(k : Int) := by omega
      have below : -(k : Int) - 1 = -((k + 1 : Nat) : Int) := by omega
      rw [power, below, zpow_neg, zpow_neg, zpow_natCast, zpow_natCast, le_div_iff₀ scaled,
        inv_mul_le_iff₀ (by positivity), div_lt_iff₀ scaled, lt_inv_mul_iff₀ (by positivity)]
      exact ⟨by rw [mul_comm]; exact_mod_cast reached, by rw [mul_comm]; exact_mod_cast short⟩

/-! ### The grids of so many digits -/

section Grid

variable {i : Interval} {d : Decimal}

theorem step_pos (e : Int) : 0 < halfUnitsPerOne * 10 ^ e.toNat :=
  Nat.mul_pos halfUnitsPerOne_pos (Nat.pow_pos (by decide))

/-- The points of a grid in the order of the numbers they stand for. -/
theorem mul_step_le_iff {k v : Nat} (e : Int) :
    k * (halfUnitsPerOne * 10 ^ e.toNat) ≤ v * 10 ^ (-e).toNat ↔
      (k : ℚ) * (10 : ℚ) ^ e ≤ v / halfUnitsPerOne := by
  have scaled := halfUnitsPerOne_cast_pos
  have common : ((k * (halfUnitsPerOne * 10 ^ e.toNat) : Nat) : ℚ) =
      (k : ℚ) * (10 : ℚ) ^ e * halfUnitsPerOne * ((10 ^ (-e).toNat : Nat) : ℚ) := by
    rw [Nat.cast_mul, Nat.cast_mul, ← up_div_down]
    ring
  rw [le_div_iff₀ scaled, ← mul_le_mul_iff_left₀ (pow_ten_pos (-e).toNat), ← common,
    ← Nat.cast_mul, Nat.cast_le]

theorem step_div_up (k : Nat) (e : Int) :
    ((k * (halfUnitsPerOne * 10 ^ e.toNat) : Nat) : ℚ) / ((10 ^ (-e).toNat : Nat) : ℚ) =
      (Decimal.mk k e).value * halfUnitsPerOne := by
  rw [div_eq_iff (ne_of_gt (pow_ten_pos _)), Nat.cast_mul, Nat.cast_mul, ← up_div_down,
    Decimal.value]
  ring

/-- The grid point at or below the magnitude. -/
def gridFloor (i : Interval) (e : Int) : Nat :=
  i.value * 10 ^ (-e).toNat / (halfUnitsPerOne * 10 ^ e.toNat)

/-- Whether a point of the grid is tried with success. -/
def gridHit (i : Interval) (e : Int) (k : Nat) : Bool :=
  k ≠ 0 && i.contains (k * (halfUnitsPerOne * 10 ^ e.toNat)) (10 ^ (-e).toNat)

/-- Whether the neighbour above the magnitude is tried first. -/
def nearAbove (i : Interval) (e : Int) : Bool :=
  let step := halfUnitsPerOne * 10 ^ e.toNat
  let rest := i.value * 10 ^ (-e).toNat % step
  step < 2 * rest || (2 * rest = step && gridFloor i e % 2 = 1)

theorem gridPoint?_eq (i : Interval) (place : Int) (n : Nat) :
    gridPoint? i place n =
      let e := place - n
      let first := if nearAbove i e then gridFloor i e + 1 else gridFloor i e
      let second := if nearAbove i e then gridFloor i e else gridFloor i e + 1
      if gridHit i e first then some ⟨first, e⟩
      else if gridHit i e second then some ⟨second, e⟩
      else none := rfl

theorem holds_of_gridHit {e : Int} {k : Nat} (hit : gridHit i e k = true) :
    i.Holds ((Decimal.mk k e).value * halfUnitsPerOne) := by
  rw [← step_div_up, ← Interval.contains_iff_holds (Nat.pow_pos (by decide))]
  exact (Bool.and_eq_true_iff.1 hit).2

/-- A point that is found is one of the two neighbours of the magnitude, and in the interval. -/
theorem gridPoint?_cases (found : gridPoint? i place n = some d) :
    i.Holds (d.value * halfUnitsPerOne) ∧
      ∃ k, d = ⟨k, place - n⟩ ∧
        (k = gridFloor i (place - n) ∨ k = gridFloor i (place - n) + 1) := by
  rw [gridPoint?_eq] at found
  dsimp only at found
  cases above : nearAbove i (place - n) with
  | _ =>
    simp only [above, Bool.false_eq_true, if_true, if_false] at found
    split at found
    · next hit =>
      cases found
      exact ⟨holds_of_gridHit hit, _, rfl, by simp⟩
    · split at found
      · next hit =>
        cases found
        exact ⟨holds_of_gridHit hit, _, rfl, by simp⟩
      · cases found

theorem le_gridFloor (low : (10 : ℚ) ^ (place - 1) ≤ i.value / halfUnitsPerOne) :
    10 ^ n ≤ gridFloor i (place - (n + 1 : Nat)) := by
  rwa [gridFloor, Nat.le_div_iff_mul_le (step_pos _), mul_step_le_iff, pow_mul_zpow_sub]

theorem gridFloor_lt (high : i.value / halfUnitsPerOne < (10 : ℚ) ^ place) :
    gridFloor i (place - n) < 10 ^ n := by
  rwa [gridFloor, Nat.div_lt_iff_lt_mul (step_pos _), ← Nat.not_le, mul_step_le_iff, not_le,
    pow_mul_zpow, add_sub_cancel]

/-- A point that is found lies in the interval, and between the powers of ten around the
magnitude. -/
theorem gridPoint?_spec (low : (10 : ℚ) ^ (place - 1) ≤ i.value / halfUnitsPerOne)
    (high : i.value / halfUnitsPerOne < (10 : ℚ) ^ place)
    (found : gridPoint? i place (n + 1) = some d) :
    i.Holds (d.value * halfUnitsPerOne) ∧ (10 : ℚ) ^ (place - 1) ≤ d.value ∧
      d.digits ≤ 10 ^ (n + 1) := by
  obtain ⟨inside, k, rfl, near⟩ := gridPoint?_cases found
  have least : 10 ^ n ≤ k := by
    have := le_gridFloor (n := n) low
    omega
  have most : k ≤ 10 ^ (n + 1) := by
    have := gridFloor_lt (n := n + 1) high
    omega
  refine ⟨inside, ?_, most⟩
  rw [← pow_mul_zpow_sub n, Decimal.value]
  exact mul_le_mul_of_nonneg_right (Nat.cast_le.2 least) (le_of_lt (ten_zpow_pos _))

/-- The neighbour that is tried first is not farther than half a step from the magnitude. -/
theorem nearest_spec (e : Int) {k : Nat}
    (first : k = if nearAbove i e then gridFloor i e + 1 else gridFloor i e) :
    2 * (k * (halfUnitsPerOne * 10 ^ e.toNat)) ≤
        2 * (i.value * 10 ^ (-e).toNat) + halfUnitsPerOne * 10 ^ e.toNat ∧
      2 * (i.value * 10 ^ (-e).toNat) ≤
        2 * (k * (halfUnitsPerOne * 10 ^ e.toNat)) + halfUnitsPerOne * 10 ^ e.toNat := by
  have step := step_pos e
  rw [nearAbove, gridFloor] at first
  generalize halfUnitsPerOne * 10 ^ e.toNat = s, i.value * 10 ^ (-e).toNat = v at first step ⊢
  have parts : s * (v / s) + v % s = v := Nat.div_add_mod v s
  have rest : v % s < s := Nat.mod_lt v step
  have next : (v / s + 1) * s = s * (v / s) + s := by ring
  simp only [Bool.or_eq_true, Bool.and_eq_true, decide_eq_true_eq] at first
  split at first
  · next near =>
    rw [first, next]
    omega
  · next far =>
    rw [first, Nat.mul_comm (v / s)]
    omega

end Grid

/-- The steps of a grid of seventeen digits are shorter than the way to the neighbours. -/
theorem step_lt_gap {s v gap up : Nat} (many : 10 ^ 16 * s ≤ v * up) (positive : 0 < s)
    (wide : v ≤ 2 ^ 54 * gap) : s < 2 * (gap * up) := by
  have scaled : v * up ≤ 2 ^ 54 * (gap * up) := by
    rw [← Nat.mul_assoc]
    exact Nat.mul_le_mul_right up wide
  omega

theorem value_intervalOf_pos (positive : 0 < rank) : 0 < (intervalOf rank).value :=
  Nat.mul_pos (by decide) (Nat.zero_lt_of_lt (strictMono_unitsOf positive))

/-- **Seventeen digits suffice** for a decimal in the interval of a rank. -/
theorem exists_gridPoint (positive : 0 < rank) :
    ∃ d, gridPoint? (intervalOf rank) (pointPlace (intervalOf rank).value) 17 = some d := by
  have many := le_gridFloor (n := 16) (pointPlace_spec (value_intervalOf_pos positive)).1
  rw [gridPoint?_eq]
  dsimp only
  generalize pointPlace (intervalOf rank).value - (17 : Nat) = e at many ⊢
  generalize first : (if nearAbove (intervalOf rank) e then gridFloor (intervalOf rank) e + 1
    else gridFloor (intervalOf rank) e) = k
  have step := step_pos e
  have some : k ≠ 0 := by
    rw [← first]
    split <;> omega
  obtain ⟨above, below⟩ := nearest_spec e first.symm
  rw [gridFloor, Nat.le_div_iff_mul_le step] at many
  obtain ⟨r, rfl⟩ := Nat.exists_eq_succ_of_ne_zero (Nat.ne_of_gt positive)
  have lower := step_lt_gap many step (gap_below r)
  have upper := step_lt_gap many step (gap_above (r + 1))
  -- The neighbour that is tried first is hit: it is nearer than the midpoints on both sides.
  have hit : gridHit (intervalOf (r + 1)) e k = true := by
    rw [gridHit, Bool.and_eq_true, decide_eq_true_eq, contains_iff]
    have value : (intervalOf (r + 1)).value * 10 ^ (-e).toNat =
        2 * (unitsOf (r + 1) * 10 ^ (-e).toNat) := Nat.mul_assoc _ _ _
    rw [value] at above below
    rw [Nat.sub_mul] at lower upper
    rw [Nat.add_sub_cancel, Nat.add_mul, Nat.add_mul]
    exact ⟨some, by omega, by omega, .inr ⟨by omega, by omega⟩⟩
  rw [if_pos hit]
  exact ⟨_, rfl⟩

/-- **The decimal that is found** lies in the interval of the rank, and not below the power of ten
below the magnitude. It has at most seventeen digits, or is a power of ten. -/
theorem shortest_spec (positive : 0 < rank) :
    (intervalOf rank).Holds ((shortest rank).value * halfUnitsPerOne) ∧
      (10 : ℚ) ^ (pointPlace (intervalOf rank).value - 1) ≤ (shortest rank).value ∧
      (shortest rank).digits ≤ 10 ^ 17 := by
  obtain ⟨low, high⟩ := pointPlace_spec (value_intervalOf_pos positive)
  obtain ⟨last, here⟩ := exists_gridPoint positive
  cases found : (List.range 17).findSome? fun n =>
      gridPoint? (intervalOf rank) (pointPlace (intervalOf rank).value) (n + 1) with
  | none =>
    have missed := List.findSome?_eq_none_iff.1 found 16 (List.mem_range.2 (by decide))
    rw [here] at missed
    cases missed
  | some d =>
    have whole : shortest rank = d.stripZeros 17 := by rw [shortest, found, Option.getD_some]
    obtain ⟨n, few, point⟩ := List.exists_of_findSome?_eq_some found
    obtain ⟨inside, above, short⟩ := gridPoint?_spec low high point
    obtain ⟨same, less⟩ := d.stripZeros_spec 17
    rw [whole, same]
    refine ⟨inside, above, Nat.le_trans less (Nat.le_trans short ?_)⟩
    exact Nat.pow_le_pow_right (by decide) (List.mem_range.1 few)

/-! ### The place of the point of the shortest decimal -/

theorem halfUnitsPerOne_eq : halfUnitsPerOne = 2 * unitsPerOne := by decide +kernel

theorem digits_shortest_pos (positive : 0 < rank) : 0 < (shortest rank).digits := by
  have low := (shortest_spec positive).2.1
  exact Decimal.digits_pos_of_value_pos (lt_of_lt_of_le (ten_zpow_pos _) low)

/-- The shortest decimal is below a bound on the upper end of the interval. -/
theorem place_shortest_le_of_high {k : Int} (positive : 0 < rank)
    (high : ((intervalOf rank).high : ℚ) < (10 : ℚ) ^ k * halfUnitsPerOne) :
    (shortest rank).place ≤ k := by
  have scaled := halfUnitsPerOne_cast_pos
  have inside := (shortest_spec positive).1.2.1
  have low := (Decimal.place_spec (digits_shortest_pos positive)).1
  have below : (10 : ℚ) ^ ((shortest rank).place - 1) < (10 : ℚ) ^ k :=
    lt_of_le_of_lt low (lt_of_mul_lt_mul_right (lt_of_le_of_lt inside high) (le_of_lt scaled))
  have := (zpow_lt_zpow_iff_right₀ (by norm_num)).1 below
  omega

/-- A magnitude that is not whole has few digits before the point. -/
theorem place_shortest_le (positive : 0 < rank) (fractional : unitsOf rank % unitsPerOne ≠ 0) :
    (shortest rank).place ≤ 16 := by
  have next : unitsOf (rank + 1) ≤ hiddenBit * unitsPerOne := by
    have power : unitsPerOne = 2 ^ (1073 + 1) := by decide +kernel
    rw [power] at fractional ⊢
    exact unitsOf_succ_le (k := 1073) fun whole => fractional (Nat.mod_eq_zero_of_dvd whole)
  have few : hiddenBit * unitsPerOne < 10 ^ 16 * unitsPerOne :=
    Nat.mul_lt_mul_of_pos_right (by decide +kernel) (by decide +kernel)
  have high : unitsOf rank + unitsOf (rank + 1) < 10 ^ 16 * halfUnitsPerOne := by
    have rising := unitsOf_lt_succ rank
    rw [halfUnitsPerOne_eq, Nat.mul_left_comm, Nat.two_mul]
    exact Nat.add_lt_add (by omega) (by omega)
  refine place_shortest_le_of_high positive ?_
  rw [zpow_ofNat]
  exact_mod_cast high

theorem tenThousandth_mul (x : ℚ) : (10 : ℚ) ^ (-4 : Int) * x = x / 10000 := by
  have power : (10 : ℚ) ^ (-4 : Int) = 1 / 10000 := by norm_num
  rw [power, one_div_mul_eq_div]

/-- The least rank from one ten-thousandth on. -/
def tenThousandthRank : Nat := 0x3F1A36E2EB1C432D

/-- A magnitude below one ten-thousandth has more zeros after the point. -/
theorem place_shortest_lt (positive : 0 < rank) (small : 10000 * unitsOf rank < unitsPerOne) :
    (shortest rank).place < -3 := by
  have reached : unitsPerOne ≤ 10000 * unitsOf tenThousandthRank := by decide +kernel
  -- Also the midpoint between the two ranks around one ten-thousandth is below it.
  have short : 10000 * (unitsOf (tenThousandthRank - 1) + unitsOf tenThousandthRank) <
      halfUnitsPerOne := by decide +kernel
  have below : rank < tenThousandthRank := strictMono_unitsOf.lt_iff_lt.1 (by omega)
  have before : unitsOf rank ≤ unitsOf (tenThousandthRank - 1) :=
    strictMono_unitsOf.monotone (by omega)
  have next : unitsOf (rank + 1) ≤ unitsOf tenThousandthRank := strictMono_unitsOf.monotone below
  have high : 10000 * (unitsOf rank + unitsOf (rank + 1)) < halfUnitsPerOne := by omega
  have bound : (shortest rank).place ≤ -4 := by
    refine place_shortest_le_of_high positive ?_
    rw [tenThousandth_mul, lt_div_iff₀ (by norm_num), mul_comm]
    exact_mod_cast high
  omega

/-- A magnitude of one ten-thousandth or more has few zeros after the point. -/
theorem le_place_shortest (positive : 0 < rank) (large : unitsPerOne ≤ 10000 * unitsOf rank) :
    -3 ≤ (shortest rank).place := by
  have scaled := halfUnitsPerOne_cast_pos
  have high := (pointPlace_spec (value_intervalOf_pos positive)).2
  have low := (shortest_spec positive).2.1
  have above := (Decimal.place_spec (digits_shortest_pos positive)).2
  have least : (10 : ℚ) ^ (-4 : Int) ≤ ((intervalOf rank).value : ℚ) / halfUnitsPerOne := by
    have twice : halfUnitsPerOne ≤ 10000 * (intervalOf rank).value := by
      rw [halfUnitsPerOne_eq, intervalOf]
      dsimp only
      omega
    rw [le_div_iff₀ scaled, tenThousandth_mul, div_le_iff₀ (by norm_num), mul_comm]
    exact_mod_cast twice
  have first := (zpow_lt_zpow_iff_right₀ (by norm_num)).1 (lt_of_le_of_lt least high)
  have second := (zpow_lt_zpow_iff_right₀ (by norm_num)).1 (lt_of_le_of_lt low above)
  omega

end Binary64

end CommandScript
