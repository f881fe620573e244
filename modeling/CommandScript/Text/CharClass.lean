/-!
# Digits and blanks

Classes of characters, given by closed intervals of code points as the tables of the Unicode
standard state them. Digits are the decimal digits of every script, and the wider class of
characters that stand for a digit (superscripts, circled digits and the like), which have no place
value. Blanks are white space in the sense of the bidirectional class.

## Main definitions

- `CommandScript.Text.CharRange`, `inRanges` — intervals of code points, and membership in them
- `CommandScript.Text.digitValue?` — the value of a decimal digit
- `CommandScript.Text.isDecimal` — whether a character is a decimal digit
- `CommandScript.Text.isDigitLike` — decimal digits and the digits without place value
- `CommandScript.Text.isBlank` — whether a character is white space
- `CommandScript.Text.trim`, `trimLeft`, `trimRight` — a text without the blanks at its ends
- `CommandScript.Text.withoutMargin` — a text without the blanks beside the numeral in it
- `CommandScript.Text.words` — the maximal pieces of a text that hold no blank
-/

namespace CommandScript.Text

/-- A closed interval of code points. -/
abbrev CharRange := Nat × Nat

/-- Whether `c` lies in one of the intervals. -/
def inRanges (ranges : List CharRange) (c : Char) : Bool :=
  ranges.any fun r => r.1 ≤ c.toNat && c.toNat ≤ r.2

/-- A character is in a union of intervals exactly when one of them holds its code point. -/
theorem inRanges_eq_true_iff {ranges : List CharRange} {c : Char} :
    inRanges ranges c = true ↔ ∃ r ∈ ranges, r.1 ≤ c.toNat ∧ c.toNat ≤ r.2 := by
  simp [inRanges]

/-! ### Digits -/

/-- The zero of each run of ten decimal digits in Unicode 14.0. -/
def digitZeros : List Nat :=
  [
    0x30, 0x660, 0x6f0, 0x7c0, 0x966, 0x9e6, 0xa66, 0xae6, 0xb66, 0xbe6, 0xc66, 0xce6, 0xd66,
    0xde6, 0xe50, 0xed0, 0xf20, 0x1040, 0x1090, 0x17e0, 0x1810, 0x1946, 0x19d0, 0x1a80, 0x1a90,
    0x1b50, 0x1bb0, 0x1c40, 0x1c50, 0xa620, 0xa8d0, 0xa900, 0xa9d0, 0xa9f0, 0xaa50, 0xabf0,
    0xff10, 0x104a0, 0x10d30, 0x11066, 0x110f0, 0x11136, 0x111d0, 0x112f0, 0x11450, 0x114d0,
    0x11650, 0x116c0, 0x11730, 0x118e0, 0x11950, 0x11c50, 0x11d50, 0x11da0, 0x16a60, 0x16ac0,
    0x16b50, 0x1d7ce, 0x1d7d8, 0x1d7e2, 0x1d7ec, 0x1d7f6, 0x1e140, 0x1e2f0, 0x1e950, 0x1fbf0]

/-- Digits that cannot be part of a decimal numeral. -/
def placelessDigitRanges : List CharRange :=
  [
    (0xb2, 0xb3), (0xb9, 0xb9), (0x1369, 0x1371), (0x19da, 0x19da), (0x2070, 0x2070),
    (0x2074, 0x2079), (0x2080, 0x2089), (0x2460, 0x2468), (0x2474, 0x247c), (0x2488, 0x2490),
    (0x24ea, 0x24ea), (0x24f5, 0x24fd), (0x24ff, 0x24ff), (0x2776, 0x277e), (0x2780, 0x2788),
    (0x278a, 0x2792), (0x10a40, 0x10a43), (0x10e60, 0x10e68), (0x11052, 0x1105a),
    (0x1f100, 0x1f10a)]

/-- The value of a decimal digit. -/
def digitValue? (c : Char) : Option Nat :=
  if '0' ≤ c ∧ c ≤ '9' then some (c.toNat - '0'.toNat)
  else if c.toNat < 0x80 then none
  else (digitZeros.find? fun z => z ≤ c.toNat && c.toNat ≤ z + 9).map (c.toNat - ·)

/-- Whether the character is a decimal digit. -/
def isDecimal (c : Char) : Bool := (digitValue? c).isSome

/-- Whether the character is a digit, with place value or without. -/
def isDigitLike (c : Char) : Bool := isDecimal c || inRanges placelessDigitRanges c

/-! ### Blanks -/

/-- The white space characters. -/
def blankRanges : List CharRange :=
  [(0x09, 0x0d), (0x1c, 0x20), (0x85, 0x85), (0xa0, 0xa0), (0x1680, 0x1680), (0x2000, 0x200a),
    (0x2028, 0x2029), (0x202f, 0x202f), (0x205f, 0x205f), (0x3000, 0x3000)]

/-- Whether the character is white space. -/
def isBlank (c : Char) : Bool := inRanges blankRanges c

/-- A text without leading blanks. -/
def trimLeft (cs : List Char) : List Char := cs.dropWhile isBlank

/-- A text without its longest end of characters in `p`. -/
def dropEndWhile (p : Char → Bool) (cs : List Char) : List Char :=
  (cs.reverse.dropWhile p).reverse

/-- A text without trailing blanks. -/
def trimRight (cs : List Char) : List Char := dropEndWhile isBlank cs

/-- A text without blanks at either end. -/
def trim (cs : List Char) : List Char := trimRight (trimLeft cs)

/-- Whether a character may stand beside a numeral: a blank that does not separate records. -/
def isMargin (c : Char) : Bool := isBlank c && !(0x1c ≤ c.toNat && c.toNat ≤ 0x1f)

/-- A text without the blanks that may stand beside a numeral. -/
def withoutMargin (cs : List Char) : List Char :=
  dropEndWhile isMargin (cs.dropWhile isMargin)

/-- The pieces of a text between characters in `p`, without the empty ones; `piece` holds the
current piece backwards. -/
def piecesFrom (p : Char → Bool) (piece : List Char) : List Char → List (List Char)
  | [] => if piece.isEmpty then [] else [piece.reverse]
  | c :: cs =>
    if p c then (if piece.isEmpty then [] else [piece.reverse]) ++ piecesFrom p [] cs
    else piecesFrom p (c :: piece) cs

/-- The maximal pieces of a text that hold no blank. -/
def words (cs : List Char) : List (List Char) := piecesFrom isBlank [] cs

end CommandScript.Text
