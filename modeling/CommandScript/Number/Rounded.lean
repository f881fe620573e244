import CommandScript.Number.Shortest

/-!
# Decimal text with a given number of digits

A double is rounded to so many places after the point, or to so many digits in all. The decimal
nearest to its exact value is written; a tie goes to the even digit.

## Main definitions

- `CommandScript.Binary64.multiple` — a magnitude as the multiple of a power of ten
- `CommandScript.Binary64.roundedTo` — the decimal of so many digits nearest to a magnitude
- `CommandScript.RoundedForm` — where the point and the exponent are
- `CommandScript.RoundedForm.render` — the text of a magnitude
-/

namespace CommandScript

namespace Binary64

/-- How often `10 ^ exponent` is in a magnitude, to the nearest whole number. -/
def multiple (rank : Nat) (exponent : Int) : Nat :=
  roundQuotient (unitsOf rank * Nat.pow 10 (-exponent).toNat)
    (unitsPerOne * Nat.pow 10 exponent.toNat)

/-- The decimal of so many digits nearest to a magnitude. Zero has as many digits as any other. -/
def roundedTo (count rank : Nat) : Decimal :=
  let place := if rank = 0 then 1 else pointPlace (2 * unitsOf rank)
  let digits := multiple rank (place - count)
  -- Rounding up may give one digit more, which is a zero.
  if Nat.pow 10 count ≤ digits then ⟨digits / 10, place - count + 1⟩ else ⟨digits, place - count⟩

end Binary64

/-- Where the point and the exponent are. -/
inductive RoundedForm where
  /-- So many digits after the point and no exponent. -/
  | positional
  /-- One digit before the point, so many digits after it, and an exponent. -/
  | scientific
  /-- So many digits in all, with an exponent only where the point would be far away. Zeros at the
  end are left out. -/
  | general
  deriving DecidableEq, Repr

namespace RoundedForm

/-- Digits with the point before the last `places` of them; `always` asks for a point also where no
digit follows it. -/
def pointed (always : Bool) (digits places : Nat) : List Char :=
  let ds := Nat.toDigits 10 digits
  let ds := List.replicate (places + 1 - ds.length) '0' ++ ds
  let whole := ds.length - places
  ds.take whole ++ (if places = 0 ∧ !always then [] else '.' :: ds.drop whole)

/-- A text with a point in it without the zeros at its end, and without the point if it is last
then. -/
def withoutEndZeros (cs : List Char) : List Char :=
  if cs.contains '.' then
    let kept := cs.reverse.dropWhile (· = '0')
    (if kept.head? = some '.' then kept.drop 1 else kept).reverse
  else cs

/-- A magnitude written with one digit before the point and an exponent. -/
def withExponent (always stripped : Bool) (d : Decimal) (places : Nat) : List Char :=
  let mantissa := pointed always d.digits places
  (if stripped then withoutEndZeros mantissa else mantissa) ++
    'e' :: FloatStyle.exponentText (d.exponent + places)

/-- The text of a magnitude with so many digits. If `full` is set, a point is always written and no
zero is left out. -/
def render (form : RoundedForm) (full : Bool) (count rank : Nat) : List Char :=
  match form with
  | .positional => pointed full (Binary64.multiple rank (-(count : Int))) count
  | .scientific => withExponent full false (Binary64.roundedTo (count + 1) rank) count
  | .general =>
    let count := max 1 count
    let d := Binary64.roundedTo count rank
    let power := d.exponent + (count - 1 : Nat)
    if power < -4 ∨ (count : Int) ≤ power then withExponent full (!full) d (count - 1)
    else
      let cs := pointed full d.digits (-d.exponent).toNat
      if full then cs else withoutEndZeros cs

end RoundedForm

end CommandScript
