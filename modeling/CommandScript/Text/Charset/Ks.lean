import CommandScript.Text.Charset.Ks.Table
import CommandScript.Text.Charset.Reading

/-!
# The character sets of Korea

KS X 1001 has the syllables that are used most. Its extensions have all of them: one numbers the
others in order, and one writes each part of a syllable in five bits.

## Main definitions

- `CommandScript.Text.Charset.Ks.cell?` — a character of KS X 1001, in bytes of seven bits
- `CommandScript.Text.Charset.Ks.step` — a step through KS X 1001, with syllables spelled out
- `CommandScript.Text.Charset.Ks.unified?` — a character where the other syllables follow in order
- `CommandScript.Text.Charset.Ks.combining?` — a character where syllables are made of their parts
-/

namespace CommandScript.Text.Charset.Ks

/-- A character of KS X 1001, in bytes of seven bits. -/
def cell? (a b : Nat) : Option Char := (column94? b).bind fun c => ksx1001.at? a c

/-- A character of KS X 1001, in bytes of eight bits. -/
def pair? (a b : Nat) : Option Char :=
  if 0x80 ≤ a ∧ 0x80 ≤ b then cell? (a - 0x80) (b - 0x80) else none

/-- The letters that begin syllables. -/
def beginnings : List Char :=
  "ㄱㄲㄴㄷㄸㄹㅁㅂㅃㅅㅆㅇㅈㅉㅊㅋㅌㅍㅎ".toList

/-- The letters that end syllables. -/
def endings : List Char :=
  "ㄱㄲㄳㄴㄵㄶㄷㄹㄺㄻㄼㄽㄾㄿㅀㅁㅂㅄㅅㅆㅇㅈㅊㅋㅌㅍㅎ".toList

/-- The syllable of a beginning, a vowel and an ending, by their numbers; there is no ending with
the number zero. -/
def syllable (beginning vowel ending : Nat) : Char :=
  Char.ofNat (0xac00 + (beginning * 21 + vowel) * 28 + ending)

/-- The byte that stands for no letter where a syllable is spelled out. -/
def filler : Nat := 0xd4

/-- The letter of a byte, where that is a consonant. -/
def consonant? (b : Nat) : Option Char := (place? 0xa1 0xbe b).map fun i => Char.ofNat (0x3131 + i)

/-- The syllable that is spelled out by the second bytes of three letters. -/
def spelled? (a b c : Nat) : Option Char :=
  let ending? :=
    if c = filler then some 0
    else (consonant? c).bind fun l => (endings.idxOf? l).map (· + 1)
  match (consonant? a).bind beginnings.idxOf?, place? 0xbf 0xd3 b, ending? with
  | some beginning, some vowel, some ending => some (syllable beginning vowel ending)
  | _, _, _ => none

/-- The first byte of letters. -/
def letterByte : UInt8 := 0xa4

/-- A step through KS X 1001. A filler opens a syllable that is spelled out. -/
def step (b : UInt8) (rest : List UInt8) : Reading :=
  match rest with
  | b' :: rest' =>
    if b = letterByte ∧ b'.toNat = filler then
      match rest' with
      | m₁ :: x :: m₂ :: y :: m₃ :: z :: _ =>
        if m₁ = letterByte ∧ m₂ = letterByte ∧ m₃ = letterByte then
          .ofChars? 7 ((spelled? x.toNat y.toNat z.toNat).map fun c => [c])
        else .refused 0
      | _ => .cut
    else Reading.pairs Reading.ascii? (fun a b => (pair? a b).map fun c => [c]) b rest
  | [] => Reading.pairs Reading.ascii? (fun _ _ => none) b rest

/-- The syllables that KS X 1001 has not. -/
def syllables : Thunk (Array Char) := .mk fun _ => remaining 0xac00 0xd7a3 ksx1001.cells

/-- The column of a second byte. -/
def column? (b : Nat) : Option Nat :=
  (place? 0x41 0x5a b).or (((place? 0x61 0x7a b).map (· + 26)).or
    ((place? 0x81 0xfe b).map (· + 52)))

/-- A syllable that KS X 1001 has not. They fill the rows from 0x81 on and, from the 5697th on, the
left parts of the rows from 0xa1 on. -/
def syllable? (a b : Nat) : Option Char :=
  match column? b, place? 0x81 0xa0 a, place? 0xa1 0xc6 a with
  | some c, some row, _ => syllables.get[row * 178 + c]?
  | some c, none, some row => if c < 84 then syllables.get[5696 + row * 84 + c]? else none
  | _, _, _ => none

/-- A character where the other syllables follow in order. -/
def unified? (a b : Nat) : Option Char := (pair? a b).or (syllable? a b)

/-- The part of a syllable that five bits stand for. -/
inductive Part where
  | empty
  | letter (number : Nat)

/-- The beginning that five bits stand for. -/
def beginningPart? (n : Nat) : Option Part :=
  if n = 1 then some .empty else (place? 2 20 n).map .letter

/-- The vowel that five bits stand for. The first two of each eight numbers stand
for none. -/
def vowelPart? (n : Nat) : Option Part :=
  if n = 2 then some .empty
  else
    ((place? 3 7 n).or (((place? 10 15 n).map (· + 5)).or (((place? 18 23 n).map (· + 11)).or
      ((place? 26 29 n).map (· + 17))))).map .letter

/-- The ending that five bits stand for. -/
def endingPart? (n : Nat) : Option Part :=
  if n = 1 then some .empty
  else (((place? 2 17 n).map (· + 1)).or ((place? 19 29 n).map (· + 17))).map .letter

/-- The character of the parts of a syllable; a letter may also stand alone. -/
def ofParts? : Part → Part → Part → Option Char
  | .empty, .empty, .empty => some '\u3000'
  | .letter b, .empty, .empty => beginnings[b]?
  | .empty, .letter v, .empty => some (Char.ofNat (0x314f + v))
  | .empty, .empty, .letter e => endings[e - 1]?
  | .letter b, .letter v, .empty => some (syllable b v 0)
  | .letter b, .letter v, .letter e => some (syllable b v e)
  | _, _, _ => none

/-- A character that is no syllable. Two rows of ninety-four columns share a first byte. -/
def symbol? (a b : Nat) : Option Char :=
  let place := ((place? 0x31 0x7e b).or ((place? 0x91 0xfe b).map (· + 78)))
  let row := if a < 0xe0 then (place? 0xd9 0xde a).map (2 * · + 0x21)
    else (place? 0xe0 0xf9 a).map (2 * · + 0x4a)
  match place, row with
  | some n, some r =>
    -- The letters of Korean have no second place here.
    if a = 0xda ∧ 0xa1 ≤ b ∧ b ≤ 0xd3 then none
    else cell? (r + n / 94) (0x21 + n % 94)
  | _, _ => none

/-- A character where syllables are made of their parts. -/
def combining? (a b : Nat) : Option Char :=
  if a < 0xd8 then
    match beginningPart? (a / 4 % 32), vowelPart? (a % 4 * 8 + b / 32), endingPart? (b % 32) with
    | some x, some y, some z => ofParts? x y z
    | _, _, _ => none
  else symbol? a b

end CommandScript.Text.Charset.Ks
