import CommandScript.Number.Shortest
import CommandScript.Text.CharClass

/-!
# Numerals

Whole numbers and doubles as text. Digits of every script are read, blanks around a numeral do not
count, and single underscores may stand between digits. Whole numbers of more than `digitLimit`
digits are neither read nor written.

## Main definitions

- `CommandScript.Numeral.readInt` — a whole number from its text
- `CommandScript.Numeral.readFloat?` — a double from its text
- `CommandScript.Numeral.intText` — the text of a whole number, refused past the limit
- `CommandScript.Numeral.digitsValue` — the number that decimal digits denote

## Main results

- `CommandScript.Numeral.digitsValue_toDigits` — written digits denote the number they were
  written for
-/

namespace CommandScript.Numeral

open Text

/-- The most digits that a whole number may have where it is read or written. -/
def digitLimit : Nat := 4300

/-- Why a text is no whole number. -/
inductive IntError where
  | tooManyDigits (count : Nat)
  | malformed
  deriving DecidableEq, Repr

/-- The number that a list of decimal digits denotes after the digits of `acc`. -/
def digitsValue (acc : Nat) : List Char → Nat
  | [] => acc
  | c :: cs => digitsValue (acc * 10 + (digitValue? c).getD 0) cs

/-- Whether underscores stand only between two decimal digits; `afterDigit` says that the
character before was one. -/
def underscoresBetween (afterDigit : Bool) : List Char → Bool
  | [] => true
  | '_' :: cs => afterDigit && cs.head?.any isDecimal && underscoresBetween false cs
  | c :: cs => underscoresBetween (isDecimal c) cs

/-- A text without its underscores, where they only stand between digits. -/
def withoutUnderscores? (cs : List Char) : Option (List Char) :=
  if underscoresBetween false cs then some (cs.filter (· ≠ '_')) else none

/-- The sign in front of a text, and the rest. -/
def splitSign : List Char → Bool × List Char
  | '-' :: cs => (true, cs)
  | '+' :: cs => (false, cs)
  | cs => (false, cs)

/-- A number with its sign. -/
def signed (negative : Bool) (n : Nat) : Int := if negative then -(n : Int) else n

/-- The whole number that a text denotes. -/
def readInt (cs : List Char) : Except IntError Int :=
  let (negative, body) := splitSign (withoutMargin cs)
  let run := body.takeWhile fun c => isDecimal c || c = '_'
  match withoutUnderscores? run with
  | none => .error .malformed
  | some ds =>
    -- The limit is looked at before what follows the digits.
    if digitLimit < ds.length then .error (.tooManyDigits ds.length)
    else if ds = [] ∨ run.length < body.length then .error .malformed
    else .ok (signed negative (digitsValue 0 ds))

/-- Whether a whole number has more digits than the limit. -/
def exceedsLimit (n : Int) : Bool := Nat.pow 10 digitLimit ≤ n.natAbs

/-- The decimal digits of a whole number after its sign. -/
def intChars (n : Int) : List Char :=
  if n < 0 then '-' :: Nat.toDigits 10 n.natAbs else Nat.toDigits 10 n.natAbs

/-- The decimal text of a whole number of any size. -/
def intTextUnlimited (n : Int) : String := String.ofList (intChars n)

/-- The decimal text of a whole number within the limit. -/
def intText? (n : Int) : Option String :=
  if exceedsLimit n then none else some (intTextUnlimited n)

/-- The words for infinity and for what is not a number, in lower case without a sign. -/
def specialFloat? (negative : Bool) (body : List Char) : Option Binary64 :=
  let word := String.ofList (body.map Char.toLower)
  if word = "inf" ∨ word = "infinity" then some (.infinite negative)
  else if word = "nan" then some .nan
  else none

/-- The exponent at the end of a numeral, `0` where there is none. -/
def readExponent? : List Char → Option Int
  | [] => some 0
  | c :: cs =>
    if c = 'e' ∨ c = 'E' then
      let (negative, ds) := splitSign cs
      if ds ≠ [] ∧ ds.all isDecimal then some (signed negative (digitsValue 0 ds)) else none
    else none

/-- The digits after a point at the front of a text, and the rest. -/
def splitFraction : List Char → List Char × List Char
  | '.' :: cs => cs.span isDecimal
  | cs => ([], cs)

/-- The double nearest to a decimal numeral without sign. -/
def readDecimal? (negative : Bool) (body : List Char) : Option Binary64 :=
  let (whole, rest) := body.span isDecimal
  let (fraction, rest) := splitFraction rest
  if whole = [] ∧ fraction = [] then none
  else
    (readExponent? rest).map fun e =>
      .ofScaled negative (digitsValue 0 (whole ++ fraction)) (e - fraction.length)

/-- The double that a text denotes. -/
def readFloat? (cs : List Char) : Option Binary64 :=
  let (negative, body) := splitSign (withoutMargin cs)
  match withoutUnderscores? body with
  | none => none
  | some body => (specialFloat? negative body).or (readDecimal? negative body)

/-- Digits are read one after the other. -/
theorem digitsValue_append (acc : Nat) (xs ys : List Char) :
    digitsValue acc (xs ++ ys) = digitsValue (digitsValue acc xs) ys := by
  induction xs generalizing acc with
  | nil => rfl
  | cons x xs ih => simp [digitsValue, ih]

/-- An ASCII digit has its distance from zero as value. -/
theorem digitValue?_of_isDigit {c : Char} (h : c.isDigit = true) :
    digitValue? c = some (c.toNat - '0'.toNat) := by
  have range : '0' ≤ c ∧ c ≤ '9' := by
    simp only [Char.isDigit, Bool.and_eq_true, decide_eq_true_eq] at h
    exact ⟨h.1, h.2⟩
  simp [digitValue?, range]

/-- ASCII digits denote what the core library reads in them. -/
theorem digitsValue_eq_ofDigitChars {cs : List Char} (acc : Nat) (h : ∀ c ∈ cs, c.isDigit = true) :
    digitsValue acc cs = Nat.ofDigitChars 10 cs acc := by
  induction cs generalizing acc with
  | nil => rfl
  | cons c cs ih =>
    rw [Nat.ofDigitChars_cons, digitsValue, digitValue?_of_isDigit (h c (by simp)),
      ih _ fun d hd => h d (by simp [hd])]
    simp [Nat.mul_comm]

/-- The decimal digits of a number denote it. -/
theorem digitsValue_toDigits (n : Nat) : digitsValue 0 (Nat.toDigits 10 n) = n := by
  have all : ∀ c ∈ Nat.toDigits 10 n, c.isDigit = true :=
    fun _ hc => Nat.isDigit_of_mem_toDigits (by decide) (by decide) hc
  rw [digitsValue_eq_ofDigitChars 0 all]
  exact Nat.ofDigitChars_toDigits (by decide) (by decide)

end CommandScript.Numeral
