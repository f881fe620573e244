import CommandScript.Text.Charset.Grid
import CommandScript.Text.Charset.Reading
import CommandScript.Text.Charset.Wide

/-!
# Escaped texts

Texts in bytes of Latin 1 in which a backslash announces the number of a character, and, where all
escapes are read, also other characters as in the literals of texts.

## Main definitions

- `CommandScript.Text.Charset.escapedStep` — a step where all escapes are read
- `CommandScript.Text.Charset.numberedStep` — a step where only numbers are read
-/

namespace CommandScript.Text.Charset

/-- The value of a hexadecimal digit. -/
def hexDigit? (b : UInt8) : Option Nat :=
  (place? 0x30 0x39 b.toNat).or (((place? 0x61 0x66 b.toNat).map (· + 10)).or
    ((place? 0x41 0x46 b.toNat).map (· + 10)))

/-- A step at a letter that announces so many hexadecimal digits. -/
def hexStep (want : Nat) (rest : List UInt8) : Reading :=
  let digits := ((rest.take want).takeWhile fun b => (hexDigit? b).isSome).filterMap hexDigit?
  let code := digits.foldl (fun n d => n * 16 + d) 0
  if digits.length < want then
    if digits.length = rest.length then .cut else .refused (1 + digits.length)
  else if 0x10ffff < code then .refused (1 + want)
  else .taken [charOf code] (1 + want)

/-- The characters that letters after a backslash stand for. -/
def escapedLetters : List (Char × Char) :=
  [('\\', '\\'), ('\'', '\''), ('"', '"'), ('b', '\x08'), ('f', '\x0c'), ('t', '\t'),
    ('n', '\n'), ('r', '\x0d'), ('v', '\x0b'), ('a', '\x07')]

/-- A step at a character that is given by its number in up to three octal digits. -/
def octalStep (rest : List UInt8) : Reading :=
  let digits := ((rest.take 3).takeWhile fun b => 0x30 ≤ b && b ≤ 0x37).map fun b => b.toNat - 0x30
  .taken [charOf (digits.foldl (fun n d => n * 8 + d) 0)] digits.length

/-- A step at a character that is given by its name, after the letter that announces it. Names are
not read. -/
def namedStep (rest : List UInt8) : Reading :=
  match rest with
  | [] => .cut
  | b :: name =>
    if b ≠ 0x7b then .refused 1
    else
      let length := (name.takeWhile (· ≠ 0x7d)).length
      if length = name.length then .cut
      else if length = 0 then .refused 2
      else .refused (3 + length)

/-- A step where all escapes are read. -/
def escapedStep (b : UInt8) (rest : List UInt8) : Reading :=
  if b ≠ 0x5c then .taken [Char.ofNat b.toNat] 0
  else
    match rest with
    | [] => .cut
    | x :: more =>
      let c := Char.ofNat x.toNat
      match escapedLetters.lookup c with
      | some e => .taken [e] 1
      | none =>
        if c = '\n' then .taken [] 1
        else if 0x30 ≤ x ∧ x ≤ 0x37 then octalStep rest
        else if c = 'x' then hexStep 2 more
        else if c = 'u' then hexStep 4 more
        else if c = 'U' then hexStep 8 more
        else if c = 'N' then namedStep more
        else .taken ['\\', c] 1

/-- A step where only numbers are read. -/
def numberedStep (b : UInt8) (rest : List UInt8) : Reading :=
  let plain := [Char.ofNat b.toNat]
  if b ≠ 0x5c then .taken plain 0
  else
    match rest with
    | [] => .taken plain 0
    | x :: more =>
      let c := Char.ofNat x.toNat
      if c = 'u' then hexStep 4 more
      else if c = 'U' then hexStep 8 more
      else .taken ['\\', c] 1

end CommandScript.Text.Charset
