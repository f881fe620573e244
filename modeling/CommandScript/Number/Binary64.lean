/-!
# Binary floating point numbers

The double precision numbers of IEEE 754, with exact arithmetic on naturals behind every
operation. The finite magnitudes are numbered in increasing order: `0` is zero, `1` the least
positive one, and so on. Every finite magnitude is a whole number of *units* of `2 ^ -1074`, so
comparison, sums and products are those of whole numbers, followed by one rounding.

## Main definitions

- `CommandScript.Binary64` — a double: finite (sign and rank), infinite, or not a number
- `CommandScript.Binary64.unitsOf` — the magnitude of a rank, in units
- `CommandScript.Binary64.rankOf` — the rank nearest to a quotient of units, ties to even
- `CommandScript.Binary64.add`, `mul` — arithmetic
- `CommandScript.Binary64.Place.compare` — the order of all that has a place on the line of numbers
- `CommandScript.Binary64.ofInt?`, `ofScaled`, `truncated` — conversions

## Design notes

The rank of a magnitude is its bit pattern without the sign. A rank is kept below
`finiteCount` by its type, and no other rank is ever built.
-/

namespace CommandScript

/-- A quotient rounded to the nearest natural, a tie going to the even neighbour. -/
def roundQuotient (n d : Nat) : Nat :=
  let q := n / d
  let r := n % d
  if 2 * r < d then q else if d < 2 * r then q + 1 else if q % 2 = 0 then q else q + 1

namespace Binary64

/-- The bit that magnitudes have in front of the digits they store, except the least ones. -/
def hiddenBit : Nat := Nat.pow 2 52

/-- The number of finite magnitudes. -/
def finiteCount : Nat := 2047 * hiddenBit

/-- The number of units in one. -/
def unitsPerOne : Nat := Nat.pow 2 1074

/-- The magnitude of a rank, in units. -/
def unitsOf (rank : Nat) : Nat :=
  if rank < hiddenBit then rank
  else (hiddenBit + rank % hiddenBit) * Nat.pow 2 (rank / hiddenBit - 1)

/-- The rank of the magnitude nearest to `num / den` units, a tie going to the even rank; it may
lie past the finite ranks. -/
def rankOf (num den : Nat) : Nat :=
  let q := num / den
  let e := if q < 2 * hiddenBit then 0 else q.log2 - 52
  e * hiddenBit + roundQuotient num (den * Nat.pow 2 e)

end Binary64

/-- A double precision number. -/
inductive Binary64 where
  | finite (negative : Bool) (rank : Fin Binary64.finiteCount)
  | infinite (negative : Bool)
  | nan
  deriving DecidableEq, Repr

namespace Binary64

/-- Positive zero. -/
def zero : Binary64 := .finite false ⟨0, by decide⟩

instance : Inhabited Binary64 := ⟨zero⟩

/-- The double nearest to `num / den` units. -/
def ofUnits (negative : Bool) (num den : Nat) : Binary64 :=
  if h : rankOf num den < finiteCount then .finite negative ⟨rankOf num den, h⟩
  else .infinite negative

/-- The double nearest to `digits * 10 ^ exponent`. Numbers beyond every double are cut off by
their size before the power is built. -/
def ofScaled (negative : Bool) (digits : Nat) (exponent : Int) : Binary64 :=
  -- The logarithm to base ten, up to a unit or two.
  let size := (digits.log2 : Int) * 30103 / 100000 + exponent
  if digits = 0 ∨ size < -400 then .finite negative ⟨0, by decide⟩
  else if 400 < size then .infinite negative
  else if 0 ≤ exponent then ofUnits negative (digits * Nat.pow 10 exponent.toNat * unitsPerOne) 1
  else ofUnits negative (digits * unitsPerOne) (Nat.pow 10 (-exponent).toNat)

/-- A double that is finite. -/
def finite? : Binary64 → Option Binary64
  | .finite s r => some (.finite s r)
  | _ => none

/-- The double nearest to a whole number, unless it is beyond every finite one. -/
def ofInt? (n : Int) : Option Binary64 := (ofUnits (n < 0) (n.natAbs * unitsPerOne) 1).finite?

/-- The signed magnitude of a finite double, in units. -/
def signedUnits (negative : Bool) (rank : Nat) : Int :=
  if negative then -(unitsOf rank : Int) else unitsOf rank

/-- The whole part of a finite double, cut off toward zero. -/
def truncated (negative : Bool) (rank : Nat) : Int :=
  let n : Int := (unitsOf rank / unitsPerOne : Nat)
  if negative then -n else n

/-- Whether a double is a whole number. -/
def isWhole : Binary64 → Bool
  | .finite _ r => unitsOf r % unitsPerOne = 0
  | _ => false

/-- Whether a double is a zero of either sign. -/
def isZero : Binary64 → Bool
  | .finite _ r => r.val = 0
  | _ => false

/-- The negation of a double. -/
def neg : Binary64 → Binary64
  | .finite s r => .finite (!s) r
  | .infinite s => .infinite (!s)
  | .nan => .nan

/-- The rounded sum of two doubles. Opposite summands give positive zero. -/
def add : Binary64 → Binary64 → Binary64
  | .nan, _ => .nan
  | _, .nan => .nan
  | .infinite s, .infinite t => if s = t then .infinite s else .nan
  | .infinite s, .finite .. => .infinite s
  | .finite .., .infinite t => .infinite t
  | .finite s r, .finite t q =>
    let sum := signedUnits s r + signedUnits t q
    ofUnits (if sum = 0 then s && t else sum < 0) sum.natAbs 1

/-- The rounded product of two doubles. -/
def mul : Binary64 → Binary64 → Binary64
  | .nan, _ => .nan
  | _, .nan => .nan
  | .infinite s, .infinite t => .infinite (s != t)
  | .infinite s, .finite t q => if q.val = 0 then .nan else .infinite (s != t)
  | .finite s r, .infinite t => if r.val = 0 then .nan else .infinite (s != t)
  | .finite s r, .finite t q => ofUnits (s != t) (unitsOf r * unitsOf q) unitsPerOne

/-- A place on the line of real numbers with its two ends: an exact number of units. -/
inductive Place where
  | below
  | at (units : Int)
  | above

/-- The place of a double; something that is not a number has none. -/
def place? : Binary64 → Option Place
  | .finite s r => some (.at (signedUnits s r))
  | .infinite true => some .below
  | .infinite false => some .above
  | .nan => none

/-- The place of a whole number. -/
def placeOfInt (n : Int) : Place := .at (n * unitsPerOne)

/-- The order of two places. -/
def Place.compare : Place → Place → Ordering
  | .below, .below => .eq
  | .above, .above => .eq
  | .below, _ => .lt
  | _, .above => .lt
  | .above, _ => .gt
  | _, .below => .gt
  | .at a, .at b => Ord.compare a b

/-- A rank without its hiddenBit bit is its own magnitude. -/
theorem unitsOf_of_lt {r : Nat} (h : r < hiddenBit) : unitsOf r = r := by
  rw [unitsOf, if_pos h]

end Binary64

end CommandScript
