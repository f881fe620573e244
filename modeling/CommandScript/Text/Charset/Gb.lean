import CommandScript.Text.Charset.Gb.Table
import CommandScript.Text.Charset.Reading

/-!
# The character sets of China

GB 2312, GBK, which has all ideographs that Unicode had first, and GB 18030, which has all of
Unicode: what it has not in two bytes is numbered in order in four.

## Main definitions

- `CommandScript.Text.Charset.Gb.cell?` — a character of GB 2312, in bytes of seven bits
- `CommandScript.Text.Charset.Gb.national?`, `extended?` — the characters of two bytes
- `CommandScript.Text.Charset.Gb.step` — a step through GB 18030
-/

namespace CommandScript.Text.Charset.Gb

/-- A character of GB 2312, in bytes of seven bits. -/
def cell? (a b : Nat) : Option Char := (column94? b).bind fun c => gb2312.at? a c

/-- The column of a second byte. -/
def column? (b : Nat) : Option Nat := (place? 0x40 0x7e b).or ((place? 0x80 0xfe b).map (· + 63))

/-- A character of GB 2312, in bytes of eight bits. -/
def pair? (a b : Nat) : Option Char :=
  if 0x80 ≤ a ∧ 0x80 ≤ b then cell? (a - 0x80) (b - 0x80) else none

/-- Consecutive cells from two bytes on. -/
def strip (a b : Nat) (texts : List String) : Grid :=
  .ofCell (a * 190 + (column? b).getD 0) 190 texts

/-- What GBK has where ideographs do not follow in order. -/
def nationalStrips : List Grid :=
  [strip 0xa1 0xa4 ["·"],
    strip 0xa1 0xaa ["—"],
    strip 0xa2 0xa1 ["ⅰⅱⅲⅳⅴⅵⅶⅷⅸⅹ"],
    strip 0xa6 0xe0 ["︵︶︹︺︿﹀︽︾﹁﹂﹃﹄"],
    strip 0xa6 0xee ["︻︼︷︸︱"],
    strip 0xa6 0xf4 ["︳︴"],
    strip 0xa8 0x40 [
      "\u02ca\u02cb\u02d9–―‥‵℅℉↖↗↘↙∕∟∣≒≦≧⊿═║╒╓╔╕╖╗╘╙╚╛╜╝╞╟╠╡╢╣╤╥╦╧╨╩╪╫╬╭╮╯╰╱╲╳▁▂▃▄▅▆▇█▉▊▋▌▍▎▏▓▔▕▼▽",
      "◢◣◤◥☉⊕〒〝〞"],
    strip 0xa8 0xbb ["ɑ"],
    strip 0xa8 0xbd ["ńň"],
    strip 0xa8 0xc0 ["ɡ"],
    strip 0xa9 0x40 ["〡〢〣〤〥〦〧〨〩㊣㎎㎏㎜㎝㎞㎡㏄㏎㏑㏒㏕︰￢￤"],
    strip 0xa9 0x59 ["℡㈱"],
    strip 0xa9 0x5c ["‐"],
    strip 0xa9 0x60 ["ー゛゜ヽヾ〆ゝゞ﹉﹊﹋﹌﹍﹎﹏﹐﹑﹒﹔﹕﹖﹗﹙﹚﹛﹜﹝﹞﹟﹠﹡﹢﹣﹤﹥﹦﹨﹩﹪﹫"],
    strip 0xa9 0x96 ["〇"],
    strip 0xfd 0x9c ["郎凉秊裏隣"],
    strip 0xfe 0x40 ["兀嗀﨎﨏﨑﨓﨔礼﨟蘒﨡﨣﨤﨧﨨﨩"]]

/-- The ideographs that Unicode had first and GB 2312 has not. -/
def ideographs : Thunk (Array Char) := .mk fun _ => remaining 0x4e00 0x9fa5 gb2312.cells

/-- An ideograph that GB 2312 has not, by its first byte and its column. They fill the rows from
0x81 on and, from the 6081st on, the left parts of the rows from 0xaa on. -/
def ideograph? (a column : Nat) : Option Char :=
  match place? 0x81 0xa0 a, place? 0xaa 0xfd a with
  | some row, _ => ideographs.get[row * 190 + column]?
  | none, some row => if column < 96 then ideographs.get[6080 + row * 96 + column]? else none
  | none, none => none

/-- A character of GBK. -/
def national? (a b : Nat) : Option Char :=
  (column? b).bind fun c =>
    (nationalStrips.findSome? fun g => g.at? a c).or ((pair? a b).or (ideograph? a c))

/-- What GB 18030 has in cells that GBK leaves empty. -/
def extendedStrips : List Grid :=
  [strip 0xa2 0xab ["\ue766\ue767\ue768\ue769\ue76a\ue76b"],
    strip 0xa2 0xe3 ["€\ue76d"],
    strip 0xa2 0xef ["\ue76e\ue76f"],
    strip 0xa2 0xfd ["\ue770\ue771"],
    strip 0xa4 0xf4 ["\ue772\ue773\ue774\ue775\ue776\ue777\ue778\ue779\ue77a\ue77b\ue77c"],
    strip 0xa5 0xf7 ["\ue77d\ue77e\ue77f\ue780\ue781\ue782\ue783\ue784"],
    strip 0xa6 0xb9 ["\ue785\ue786\ue787\ue788\ue789\ue78a\ue78b\ue78c"],
    strip 0xa6 0xd9 ["\ue78d\ue78e\ue78f\ue790\ue791\ue792\ue793"],
    strip 0xa6 0xec ["\ue794\ue795"],
    strip 0xa6 0xf3 ["\ue796"],
    strip 0xa6 0xf6 ["\ue797\ue798\ue799\ue79a\ue79b\ue79c\ue79d\ue79e\ue79f"],
    strip 0xa7 0xc2 [
      "\ue7a0\ue7a1\ue7a2\ue7a3\ue7a4\ue7a5\ue7a6\ue7a7\ue7a8\ue7a9\ue7aa\ue7ab\ue7ac\ue7ad\ue7ae"],
    strip 0xa7 0xf2 [
      "\ue7af\ue7b0\ue7b1\ue7b2\ue7b3\ue7b4\ue7b5\ue7b6\ue7b7\ue7b8\ue7b9\ue7ba\ue7bb"],
    strip 0xa8 0x96 ["\ue7bc\ue7bd\ue7be\ue7bf\ue7c0\ue7c1\ue7c2\ue7c3\ue7c4\ue7c5\ue7c6"],
    strip 0xa8 0xbc ["\ue7c7"],
    strip 0xa8 0xbf ["ǹ"],
    strip 0xa8 0xc1 ["\ue7c9\ue7ca\ue7cb\ue7cc"],
    strip 0xa8 0xea [
      "\ue7cd\ue7ce\ue7cf\ue7d0\ue7d1\ue7d2\ue7d3\ue7d4\ue7d5\ue7d6\ue7d7\ue7d8\ue7d9\ue7da\ue7db",
      "\ue7dc\ue7dd\ue7de\ue7df\ue7e0\ue7e1"],
    strip 0xa9 0x58 ["\ue7e2"],
    strip 0xa9 0x5b ["\ue7e3"],
    strip 0xa9 0x5d ["\ue7e4\ue7e5\ue7e6"],
    strip 0xa9 0x89 ["〾⿰⿱⿲⿳⿴⿵⿶⿷⿸⿹⿺⿻"],
    strip 0xa9 0x97 [
      "\ue7f4\ue7f5\ue7f6\ue7f7\ue7f8\ue7f9\ue7fa\ue7fb\ue7fc\ue7fd\ue7fe\ue7ff\ue800"],
    strip 0xa9 0xf0 [
      "\ue801\ue802\ue803\ue804\ue805\ue806\ue807\ue808\ue809\ue80a\ue80b\ue80c\ue80d\ue80e\ue80f"],
    strip 0xd7 0xfa ["\ue810\ue811\ue812\ue813\ue814"],
    strip 0xfe 0x50 [
      "⺁\ue816\ue817\ue818⺄㑳㑇⺈⺋\ue81e㖞㘚㘎⺌⺗㥮㤘\ue826㧏㧟㩳㧐\ue82b\ue82c㭎㱮㳠⺧\ue831\ue832⺪䁖䅟⺮䌷⺳⺶⺷\ue83b䎱䎬",
      "⺻䏝䓖䙡䙌\ue843䜣䜩䝼䞍⻊䥇䥺䥽䦂䦃䦅䦆䦟䦛䦷䦶\ue854\ue855䲣䲟䲠䲡䱷䲢䴓䴔䴕䴖䴗䴘䴙䶮\ue864"]]

/-- A character for private use, of which there are three areas. -/
def private? (a b column : Nat) : Option Char :=
  if b < 0xa1 then (place? 0xa1 0xa7 a).map fun row => Char.ofNat (0xe4c6 + row * 96 + column)
  else
    -- The rows of the second area follow those of the first one in number.
    let row := (place? 0xaa 0xaf a).or ((place? 0xf8 0xfe a).map (· + 6))
    row.map fun row => Char.ofNat (0xe000 + row * 94 + (b - 0xa1))

/-- A character that GB 18030 has in two bytes. -/
def extended? (a b : Nat) : Option Char :=
  (national? a b).or ((column? b).bind fun c =>
    (extendedStrips.findSome? fun g => g.at? a c).or (private? a b c))

/-- The characters of two bytes. -/
def twoByteChars : Array Char :=
  (Array.range 126).flatMap fun i =>
    (Array.range 191).filterMap fun j => extended? (0x81 + i) (0x40 + j)

/-- The characters of the basic plane that have four bytes. -/
def fourByteChars : Thunk (Array Char) := .mk fun _ => remaining 0x80 0xffff twoByteChars

/-- The number of four bytes, of which the second and the last run through ten values and the others
through 126. -/
def number? (a b c d : Nat) : Option Nat :=
  match place? 0x81 0xfe a, place? 0x30 0x39 b, place? 0x81 0xfe c, place? 0x30 0x39 d with
  | some a, some b, some c, some d => some (((a * 10 + b) * 126 + c) * 10 + d)
  | _, _, _, _ => none

/-- The number of the first character after the basic plane. -/
def planeStart : Nat := 15 * 12600

/-- A character of four bytes. -/
def four? (a b c d : Nat) : Option Char :=
  (number? a b c d).bind fun n =>
    if n < planeStart then fourByteChars.get[n]?
    else
      let code := 0x10000 + (n - planeStart)
      if code ≤ 0x10ffff then some (Char.ofNat code) else none

/-- A step through GB 18030. -/
def step (b : UInt8) (rest : List UInt8) : Reading :=
  match Reading.ascii? b.toNat, rest with
  | some c, _ => .taken [c] 0
  | none, [] => .cut
  | none, b₂ :: rest =>
    if 0x30 ≤ b₂ ∧ b₂ ≤ 0x39 then
      match rest with
      | b₃ :: b₄ :: _ =>
        .ofChars? 3 ((four? b.toNat b₂.toNat b₃.toNat b₄.toNat).map fun c => [c])
      | _ => .cut
    else .ofChars? 1 ((extended? b.toNat b₂.toNat).map fun c => [c])

end CommandScript.Text.Charset.Gb
