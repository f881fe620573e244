import CommandScript.Text.CharClass

/-!
# Base 64

Bytes as text in groups of six bits. Reading skips every character outside the alphabet and ends
at a sufficient padding.

## Main definitions

- `CommandScript.Text.Base64.decode?` — the bytes of a text
- `CommandScript.Text.Base64.encodeLines` — the text of bytes, in lines
-/

namespace CommandScript.Text.Base64

/-- The character of a number below sixty-four. -/
def digit (n : Nat) : Char :=
  if n < 26 then Char.ofNat (0x41 + n)
  else if n < 52 then Char.ofNat (0x61 + (n - 26))
  else if n < 62 then Char.ofNat (0x30 + (n - 52))
  else if n = 62 then '+'
  else '/'

/-- The number of a character of the alphabet. -/
def value? (c : Char) : Option Nat :=
  if 'A' ≤ c ∧ c ≤ 'Z' then some (c.toNat - 0x41)
  else if 'a' ≤ c ∧ c ≤ 'z' then some (c.toNat - 0x61 + 26)
  else if '0' ≤ c ∧ c ≤ '9' then some (c.toNat - 0x30 + 52)
  else if c = '+' then some 62
  else if c = '/' then some 63
  else none

/-- The bytes of a text after `place` characters of a group of four, of which `left` are the bits
not yet used, and after `pads` marks of padding; `none` for an incomplete group. -/
def decodeFrom (place left pads : Nat) : List Char → Option (List UInt8)
  | [] => if place = 0 then some [] else none
  | c :: cs =>
    if c = '=' then
      if 2 ≤ place ∧ 4 ≤ place + pads + 1 then some []
      else decodeFrom place left (if 2 ≤ place then pads + 1 else pads) cs
    else
      match value? c with
      | none => decodeFrom place left pads cs
      | some n =>
        match place with
        | 0 => decodeFrom 1 n 0 cs
        | 1 => (decodeFrom 2 (n % 16) 0 cs).map (UInt8.ofNat (left * 4 + n / 16) :: ·)
        | 2 => (decodeFrom 3 (n % 4) 0 cs).map (UInt8.ofNat (left * 16 + n / 4) :: ·)
        | _ => (decodeFrom 0 0 0 cs).map (UInt8.ofNat (left * 64 + n) :: ·)

/-- The bytes of a text. -/
def decode? (cs : List Char) : Option (List UInt8) := decodeFrom 0 0 0 cs

/-- The characters of bytes, with padding. -/
def encode : List UInt8 → List Char
  | [] => []
  | [a] => [digit (a.toNat / 4), digit (a.toNat % 4 * 16), '=', '=']
  | [a, b] =>
    [digit (a.toNat / 4), digit (a.toNat % 4 * 16 + b.toNat / 16), digit (b.toNat % 16 * 4), '=']
  | a :: b :: c :: rest =>
    digit (a.toNat / 4) :: digit (a.toNat % 4 * 16 + b.toNat / 16) ::
      digit (b.toNat % 16 * 4 + c.toNat / 64) :: digit (c.toNat % 64) :: encode rest

/-- A text in lines of at most seventy-six characters, each with its end; `room` characters fit on
the current line. -/
def inLines (room : Nat) : List Char → List Char
  | [] => if room = 76 then [] else ['\n']
  | c :: cs =>
    match room with
    | 0 => '\n' :: c :: inLines 75 cs
    | r + 1 => c :: inLines r cs

/-- The characters of bytes in lines, each with its end. -/
def encodeLines (bs : List UInt8) : List Char := inLines 76 (encode bs)

end CommandScript.Text.Base64
