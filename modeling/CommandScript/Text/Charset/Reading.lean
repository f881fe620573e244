import CommandScript.Text.Utf8

/-!
# Reading characters from bytes

Character sets in which several bytes may make up a character are read step by step. A step looks at
the bytes that are left and says what the first of them stand for; what stands for nothing becomes a
replacement character.

## Main definitions

- `CommandScript.Text.Charset.Reading` — what a step says
- `CommandScript.Text.Charset.Reading.run` — the text of bytes, where steps keep a state
- `CommandScript.Text.Charset.Reading.pairs` — steps in which at most two bytes make up a character
-/

namespace CommandScript.Text.Charset

/-- What a step says of the bytes that are left; counts are of the bytes after the first one. -/
inductive Reading where
  /-- The first byte and so many more stand for characters. -/
  | taken (cs : List Char) (more : Nat)
  /-- The first byte and so many more stand for nothing. -/
  | refused (more : Nat)
  /-- The bytes end inside a character. -/
  | cut

namespace Reading

/-- The text of bytes, given the steps. -/
def run {σ : Type} (step : σ → UInt8 → List UInt8 → σ × Reading) :
    σ → List UInt8 → List Char
  | _, [] => []
  | s, b :: bs =>
    match step s b bs with
    | (s, .taken cs n) => cs ++ run step s (bs.drop n)
    | (s, .refused n) => Utf8.replacement :: run step s (bs.drop n)
    | (_, .cut) => [Utf8.replacement]
termination_by _ bs => bs.length
decreasing_by all_goals simp only [List.length_drop, List.length_cons]; omega

/-- The text of bytes, given steps that keep no state. -/
def runPlain (step : UInt8 → List UInt8 → Reading) (bs : List UInt8) : List Char :=
  run (fun (_ : Unit) b rest => ((), step b rest)) () bs

/-- The characters of the first byte and so many more, where there are any. -/
def ofChars? (more : Nat) : Option (List Char) → Reading
  | some cs => .taken cs more
  | none => .refused 0

/-- A step in which one byte or two make up a character. -/
def pairs (single : Nat → Option Char) (pair : Nat → Nat → Option (List Char)) (b : UInt8)
    (rest : List UInt8) : Reading :=
  match single b.toNat, rest with
  | some c, _ => .taken [c] 0
  | none, [] => .cut
  | none, b' :: _ => ofChars? 1 (pair b.toNat b'.toNat)

/-- The character of a byte in ASCII. -/
def ascii? (b : Nat) : Option Char := if b < 0x80 then some (Char.ofNat b) else none

end Reading

end CommandScript.Text.Charset
