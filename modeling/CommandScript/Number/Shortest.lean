import CommandScript.Number.Binary64

/-!
# Shortest decimal text of a double

Among the decimal numbers that read back as a given double, the ones with fewest digits are
sought, and of these the nearest to it. For one digit, two digits and so on, the two neighbours of
the double on the grid of that many digits are tried; the first grid with a hit wins.

## Main definitions

- `CommandScript.Decimal` — digits and a power of ten
- `CommandScript.Binary64.shortest` — the shortest decimal of a positive finite double
- `CommandScript.FloatStyle` — how a decimal is laid out
- `CommandScript.FloatStyle.render` — the text of a double in a style
-/

namespace CommandScript

/-- The number `digits * 10 ^ exponent`. -/
structure Decimal where
  digits : Nat
  exponent : Int
  deriving DecidableEq, Repr

/-- Digits and exponent without zeros at the end of the digits; at most `fuel` are taken off. -/
def Decimal.stripZeros : (fuel : Nat) → Decimal → Decimal
  | 0, d => d
  | f + 1, d =>
    if d.digits % 10 = 0 then stripZeros f ⟨d.digits / 10, d.exponent + 1⟩ else d

namespace Binary64

/-- The double's magnitude and the ends of the interval that rounds to it, in half units. -/
structure Interval where
  low : Nat
  value : Nat
  high : Nat
  closed : Bool

/-- The interval that rounds to the magnitude of a rank. Its ends belong to it exactly for an even
rank. -/
def intervalOf (rank : Nat) : Interval where
  low := unitsOf (rank - 1) + unitsOf rank
  value := 2 * unitsOf rank
  high := unitsOf rank + unitsOf (rank + 1)
  closed := rank % 2 = 0

/-- Whether a point `n / scale` half units lies in the interval. -/
def Interval.contains (i : Interval) (n scale : Nat) : Bool :=
  if i.closed then i.low * scale ≤ n && n ≤ i.high * scale
  else i.low * scale < n && n < i.high * scale

/-- The number of half units in one. -/
def halfUnitsPerOne : Nat := Nat.pow 2 1075

/-- How many powers of ten must be multiplied on before `n` reaches `bound`, tried `fuel` times. -/
def shortfall (bound : Nat) : (fuel n : Nat) → Nat
  | 0, _ => 0
  | f + 1, n => if bound ≤ n then 0 else shortfall bound f (n * 10) + 1

/-- The place of the decimal point: the least `p` with `value < 10 ^ p`. -/
def pointPlace (value : Nat) : Int :=
  if halfUnitsPerOne ≤ value then ((Nat.toDigits 10 (value / halfUnitsPerOne)).length : Int)
  else 1 - (shortfall halfUnitsPerOne 400 value : Int)

/-- The nearest point of the grid of `n` digits that lies in the interval, where there is one. -/
def gridPoint? (i : Interval) (place : Int) (n : Nat) : Option Decimal :=
  let exponent := place - n
  let up := Nat.pow 10 (-exponent).toNat
  let down := Nat.pow 10 exponent.toNat
  let scaled := i.value * up
  let step := halfUnitsPerOne * down
  let c := scaled / step
  let hit (k : Nat) : Bool := k ≠ 0 && i.contains (k * step) up
  -- The nearer neighbour is tried first; of two equally near ones that is the even one.
  let nearUp := step < 2 * (scaled % step) || (2 * (scaled % step) = step && c % 2 = 1)
  let first := if nearUp then c + 1 else c
  let second := if nearUp then c else c + 1
  if hit first then some ⟨first, exponent⟩
  else if hit second then some ⟨second, exponent⟩
  else none

/-- The shortest decimal that reads back as the magnitude of a positive rank, nearest to it. -/
def shortest (rank : Nat) : Decimal :=
  let i := intervalOf rank
  let p := pointPlace i.value
  let d := ((List.range 17).findSome? fun n => gridPoint? i p (n + 1)).getD ⟨rank, 0⟩
  d.stripZeros 17

end Binary64

/-- How a decimal is laid out: which decimal points are written in place, what follows a whole
number, and the words for infinity and for what is not a number. -/
structure FloatStyle where
  /-- The least place of the decimal point that is written without an exponent. -/
  leastPlace : Int
  /-- The greatest place of the decimal point that is written without an exponent. -/
  greatestPlace : Int
  /-- What is written after a whole number, such as `.0`. -/
  wholeTail : String
  infinity : String
  notANumber : String

namespace FloatStyle

/-- An exponent with its sign and at least two digits. -/
def exponentText (e : Int) : List Char :=
  let ds := Nat.toDigits 10 e.natAbs
  (if e < 0 then '-' else '+') :: (if ds.length < 2 then '0' :: ds else ds)

/-- A positive decimal: in place where the style says so, otherwise one digit before the point and
an exponent. -/
def decimalText (style : FloatStyle) (d : Decimal) : List Char :=
  let ds := Nat.toDigits 10 d.digits
  let place : Int := ds.length + d.exponent
  if style.leastPlace ≤ place ∧ place ≤ style.greatestPlace then
    if place ≤ 0 then
      '0' :: '.' :: List.replicate (-place).toNat '0' ++ ds
    else if (ds.length : Int) ≤ place then
      ds ++ List.replicate (place - ds.length).toNat '0' ++ style.wholeTail.toList
    else
      ds.take place.toNat ++ '.' :: ds.drop place.toNat
  else
    let mantissa :=
      match ds with
      | [] => []
      | [c] => [c]
      | c :: cs => c :: '.' :: cs
    mantissa ++ 'e' :: exponentText (place - 1)

/-- The text of a double. -/
def render (style : FloatStyle) : Binary64 → String
  | .nan => style.notANumber
  | .infinite s => (if s then "-" else "") ++ style.infinity
  | .finite s r =>
    let body :=
      if r.val = 0 then '0' :: style.wholeTail.toList
      else style.decimalText (Binary64.shortest r)
    String.ofList (if s then '-' :: body else body)

end FloatStyle

/-- Doubles in messages and printed results: in place from `0.0001` up to below `10 ^ 16`, a whole
number shown with `.0`. -/
def Binary64.plainStyle : FloatStyle := ⟨-3, 16, ".0", "inf", "nan"⟩

/-- The plain text of a double. -/
def Binary64.text (x : Binary64) : String := plainStyle.render x

end CommandScript
