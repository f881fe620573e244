import CommandScript.Text.Charset.Big5.Table

/-!
# The character sets of Taiwan and Hong Kong

Big5 with its two extensions.

## Main definitions

- `CommandScript.Text.Charset.Big5.pair?` — a character of Big5
- `CommandScript.Text.Charset.Big5.windows?` — a character of its extension by Windows
- `CommandScript.Text.Charset.Big5.hongKong?` — what two bytes stand for in Hong Kong
-/

namespace CommandScript.Text.Charset.Big5

/-- The column of a second byte. -/
def column? (b : Nat) : Option Nat := (place? 0x40 0x7e b).or ((place? 0xa1 0xfe b).map (· + 63))

/-- A character of Big5. -/
def pair? (a b : Nat) : Option Char := (column? b).bind fun c => big5.at? a c

/-- Consecutive cells from two bytes on. -/
def strip (a b : Nat) (texts : List String) : Grid :=
  .ofCell (a * 157 + (column? b).getD 0) 157 texts

/-- What Windows has in other cells than Big5, or instead of it. -/
def windowsStrips : List Grid :=
  [strip 0xa1 0x45 ["‧"],
    strip 0xa1 0x4e ["﹑"],
    strip 0xa1 0xc2 ["\u00af"],
    strip 0xa1 0xe3 ["～"],
    strip 0xa1 0xf2 ["⊕⊙"],
    strip 0xa2 0x41 ["∕﹨"],
    strip 0xa2 0x44 ["￥"],
    strip 0xa2 0x46 ["￠￡"],
    strip 0xa3 0xe1 ["€"],
    strip 0xf9 0xd6 ["碁銹裏墻恒粧嫺╔╦╗╠╬╣╚╩╝╒╤╕╞╪╡╘╧╛╓╥╖╟╫╢╙╨╜║═╭╮╰╯▓"]]

/-- A character of the extension by Windows. -/
def windows? (a b : Nat) : Option Char :=
  (column? b).bind fun c => (windowsStrips.findSome? fun g => g.at? a c).or (pair? a b)

/-- Whether the cell of two bytes belongs to Hong Kong and not to Big5. -/
def isHongKong (a b : Nat) : Bool := 0xc6 ≤ a && a ≤ 0xc8 && !(a == 0xc6 && b < 0xa1)

/-- Letters with two marks, which no single character stands for. -/
def marked : List ((Nat × Nat) × List Char) :=
  [((0x88, 0x62), ['\u00ca', '\u0304']),
    ((0x88, 0x64), ['\u00ca', '\u030c']),
    ((0x88, 0xa3), ['\u00ea', '\u0304']),
    ((0x88, 0xa5), ['\u00ea', '\u030c'])]

/-- What two bytes stand for in Hong Kong. -/
def hongKong? (a b : Nat) : Option (List Char) :=
  let basic := if isHongKong a b then none else pair? a b
  let added := (column? b).bind fun c => hongKong.findSome? fun g => g.at? a c
  ((basic.or added).map fun c => [c]).or (marked.lookup (a, b))

end CommandScript.Text.Charset.Big5
