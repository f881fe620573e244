import CommandScript.Text.Base64
import CommandScript.Text.Charset.Wide

/-!
# UTF-7

Texts in bytes of seven bits. Other characters than those of ASCII stand between a plus sign and a
minus sign, as units of two bytes in base 64.

## Main definitions

- `CommandScript.Text.Charset.Shift` — what has been read of a part in base 64
- `CommandScript.Text.Charset.decodeUtf7` — the text of bytes
-/

namespace CommandScript.Text.Charset

/-- What has been read of a part in base 64: bits that do not make up a unit yet, and a unit that
opens a pair of surrogates. -/
structure Shift where
  count : Nat
  bits : Nat
  high? : Option Nat

namespace Shift

/-- Nothing has been read yet. -/
def start : Shift := ⟨0, 0, none⟩

/-- The characters that a unit completes, and the unit that it opens a pair with. -/
def ofUnit (high? : Option Nat) (u : Nat) : List Char × Option Nat :=
  match high? with
  | some h =>
    if isLowSurrogate u then ([pairChar h u], none)
    else if isHighSurrogate u then ([Utf8.replacement], some u)
    else ([Utf8.replacement, charOf u], none)
  | none => if isHighSurrogate u then ([], some u) else ([charOf u], none)

/-- The characters that six bits complete, and what has been read then. -/
def push (s : Shift) (n : Nat) : List Char × Shift :=
  let count := s.count + 6
  let bits := s.bits * 64 + n
  if count < 16 then ([], ⟨count, bits, s.high?⟩)
  else
    let size := Nat.pow 2 (count - 16)
    let (cs, high?) := ofUnit s.high? (bits / size)
    (cs, ⟨count - 16, bits % size, high?⟩)

/-- Whether bits are left over that are no padding. -/
def isRagged (s : Shift) : Bool := 6 ≤ s.count || s.bits ≠ 0

end Shift

/-- The six bits of a byte in base 64. -/
def sixBits? (b : UInt8) : Option Nat :=
  if b < 0x80 then Base64.value? (Char.ofNat b.toNat) else none

/-- What a byte outside base 64 stands for. -/
def plainByte (b : UInt8) : Char := if b < 0x80 then Char.ofNat b.toNat else Utf8.replacement

/-- The text of bytes, in base 64 if a shift is given. -/
def decodeUtf7From : Option Shift → List UInt8 → List Char
  | none, [] => []
  | some s, [] => if s.isRagged || s.high?.isSome then [Utf8.replacement] else []
  | none, [b] => if b = 0x2b then [] else [plainByte b]
  | none, b :: b' :: bs =>
    if b = 0x2b then
      match sixBits? b' with
      | some n =>
        let (cs, s) := Shift.start.push n
        cs ++ decodeUtf7From (some s) bs
      | none => (if b' = 0x2d then '+' else Utf8.replacement) :: decodeUtf7From none bs
    else plainByte b :: decodeUtf7From none (b' :: bs)
  | some s, b :: bs =>
    match sixBits? b with
    | some n =>
      let (cs, s) := s.push n
      cs ++ decodeUtf7From (some s) bs
    | none =>
      -- A part that ends inside a unit takes the byte after it with it.
      if s.isRagged then Utf8.replacement :: decodeUtf7From none bs
      else
        (if s.high?.isSome && b < 0x80 then [Utf8.replacement] else []) ++
          ((if b = 0x2d then [] else [plainByte b]) ++ decodeUtf7From none bs)

/-- The text of bytes. -/
def decodeUtf7 (bs : List UInt8) : List Char := decodeUtf7From none bs

end CommandScript.Text.Charset
