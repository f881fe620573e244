import CommandScript.Text.Utf8

/-!
# Wide units

Texts in units of two bytes or of four, in either order. A mark at the front may give the order.

## Main definitions

- `CommandScript.Text.Charset.ByteOrder` — the order of the bytes of a unit
- `CommandScript.Text.Charset.decodeUnits16`, `decodeUnits32` — the text of units in a given order
- `CommandScript.Text.Charset.decodeMarked16`, `decodeMarked32` — the text of units that may be
  marked
-/

namespace CommandScript.Text.Charset

/-- The order of the bytes of a unit. -/
inductive ByteOrder where
  | little
  | big
  deriving DecidableEq, Repr

/-- A unit of two bytes. -/
def unit16 (order : ByteOrder) (a b : UInt8) : Nat :=
  match order with
  | .little => b.toNat * 0x100 + a.toNat
  | .big => a.toNat * 0x100 + b.toNat

/-- Whether a unit opens a pair of surrogates. -/
def isHighSurrogate (u : Nat) : Bool := 0xd800 ≤ u && u < 0xdc00

/-- Whether a unit closes a pair of surrogates. -/
def isLowSurrogate (u : Nat) : Bool := 0xdc00 ≤ u && u < 0xe000

/-- The character of a pair of surrogates. -/
def pairChar (high low : Nat) : Char :=
  Char.ofNat (0x10000 + (high - 0xd800) * 0x400 + (low - 0xdc00))

/-- The character of a code point; what is none is replaced. -/
def charOf (code : Nat) : Char := if code.isValidChar then Char.ofNat code else Utf8.replacement

/-- The text of units of two bytes; unpaired surrogates and an odd byte at the end are replaced. -/
def decodeUnits16 (order : ByteOrder) : List UInt8 → List Char
  | [] => []
  | [_] => [Utf8.replacement]
  | a :: b :: rest =>
    let u := unit16 order a b
    if isHighSurrogate u then
      match rest with
      | c :: d :: rest' =>
        let v := unit16 order c d
        -- A unit that does not close the pair is read again on its own.
        if isLowSurrogate v then pairChar u v :: decodeUnits16 order rest'
        else Utf8.replacement :: decodeUnits16 order (c :: d :: rest')
      | _ => [Utf8.replacement]
    else if isLowSurrogate u then Utf8.replacement :: decodeUnits16 order rest
    else Char.ofNat u :: decodeUnits16 order rest

/-- The text of units of four bytes; what is no code point is replaced. -/
def decodeUnits32 (order : ByteOrder) : List UInt8 → List Char
  | [] => []
  | a :: b :: c :: d :: rest =>
    let u :=
      match order with
      | .little => unit16 .little c d * 0x10000 + unit16 .little a b
      | .big => unit16 .big a b * 0x10000 + unit16 .big c d
    charOf u :: decodeUnits32 order rest
  | _ => [Utf8.replacement]

/-- The text of units of two bytes whose order a mark at the front may give. -/
def decodeMarked16 : List UInt8 → List Char
  | 0xff :: 0xfe :: rest => decodeUnits16 .little rest
  | 0xfe :: 0xff :: rest => decodeUnits16 .big rest
  | bs => decodeUnits16 .little bs

/-- The text of units of four bytes whose order a mark at the front may give. -/
def decodeMarked32 : List UInt8 → List Char
  | 0xff :: 0xfe :: 0x00 :: 0x00 :: rest => decodeUnits32 .little rest
  | 0x00 :: 0x00 :: 0xfe :: 0xff :: rest => decodeUnits32 .big rest
  | bs => decodeUnits32 .little bs

end CommandScript.Text.Charset
