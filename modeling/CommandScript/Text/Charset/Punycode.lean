import CommandScript.Text.Charset.Wide

/-!
# Punycode

Texts in ASCII: first the characters of ASCII as they are, and after the last hyphen where the
others go in between, in numbers of base 36.

## Main definitions

- `CommandScript.Text.Charset.Punycode.decode` — the text of bytes
-/

namespace CommandScript.Text.Charset.Punycode

/-- The threshold of the digit of a position, below which it is the last one of its number. -/
def threshold (position bias : Nat) : Nat := min 26 (max 1 (36 * (position + 1) - bias))

/-- How far the bias has to be carried on. -/
def carried (delta divisions : Nat) : Nat :=
  if 455 < delta then carried (delta / 35) (divisions + 36)
  else divisions + 36 * delta / (delta + 38)
termination_by delta
decreasing_by omega

/-- The bias after a number, where there are so many characters then. -/
def adapted (delta : Nat) (isFirst : Bool) (count : Nat) : Nat :=
  let d := delta / (if isFirst then 700 else 2)
  carried (d + d / count) 0

/-- The value of a digit. -/
def digit? (b : UInt8) : Option Nat :=
  if 0x41 ≤ b ∧ b ≤ 0x5a then some (b.toNat - 0x41)
  else if 0x61 ≤ b ∧ b ≤ 0x7a then some (b.toNat - 0x61)
  else if 0x30 ≤ b ∧ b ≤ 0x39 then some (b.toNat - 0x30 + 26)
  else none

/-- The number at the front of digits, and what follows it. -/
def number? (bias acc weight position : Nat) : List UInt8 → Option (Nat × List UInt8)
  | [] => none
  | b :: bs =>
    match digit? b with
    | none => none
    | some d =>
      let t := threshold position bias
      let acc := acc + d * weight
      if d < t then some (acc, bs) else number? bias acc (weight * (36 - t)) (position + 1) bs

/-- The characters after those that numbers put in between; `place` is where the next one goes at
the earliest. What follows a number that is none is left out. -/
def inserted (cs : List Char) (code place bias : Nat) (isFirst : Bool) :
    (fuel : Nat) → List UInt8 → List Char
  | 0, _ => cs
  | _ + 1, [] => cs
  | f + 1, bs =>
    match number? bias 0 1 0 bs with
    | none => cs
    | some (delta, rest) =>
      let count := cs.length + 1
      let place := place + delta
      let code := code + place / count
      -- A number past the last code point gives a question mark, and counting goes on from there.
      let code := if 0x10ffff < code then 0x3f else code
      let place := place % count
      let cs := cs.take place ++ charOf code :: cs.drop place
      inserted cs code (place + 1) (adapted delta isFirst count) false f rest

/-- A byte of what follows the last hyphen that is not in ASCII, with its position there. -/
structure Error where
  byte : UInt8
  position : Nat
  deriving DecidableEq, Repr

/-- The text of bytes. -/
def decode (bs : List UInt8) : Except Error (List Char) :=
  let tail := (bs.reverse.takeWhile (· ≠ 0x2d)).reverse
  let front := bs.take (bs.length - tail.length - 1)
  match tail.findIdx? (0x80 ≤ ·) with
  | some i => .error ⟨tail.getD i 0, i⟩
  | none =>
    let cs := front.map fun b => if b < 0x80 then Char.ofNat b.toNat else Utf8.replacement
    .ok (inserted cs 0x80 0 72 true (tail.length + 1) tail)

end CommandScript.Text.Charset.Punycode
