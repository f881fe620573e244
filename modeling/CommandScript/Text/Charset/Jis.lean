import CommandScript.Text.Charset.Jis.Table
import CommandScript.Text.Charset.Reading

/-!
# The character sets of Japan

The grids of JIS X 0208, 0212 and 0213 are written in several ways: in bytes of eight bits, with
katakana of half width in one byte of its own, and with two rows sharing a first byte.

## Main definitions

- `CommandScript.Text.Charset.Jis.cell?`, `supplementCell?`, `firstCell?`, `secondCell?` — the
  characters of the grids, by a row and a column of seven bits
- `CommandScript.Text.Charset.Jis.extendedStep`, `planesStep` — steps through bytes of eight bits
- `CommandScript.Text.Charset.Jis.sharedStep`, `sharedPlanesStep`, `windowsStep` — steps where rows
  share a first byte
-/

namespace CommandScript.Text.Charset.Jis

/-- A character of JIS X 0208, by a row and a column of seven bits. -/
def cell? (a b : Nat) : Option Char := (column94? b).bind fun c => jisx0208.at? a c

/-- A character of JIS X 0212. -/
def supplementCell? (a b : Nat) : Option Char := (column94? b).bind fun c => jisx0212.at? a c

/-- The cells of the first plane of JIS X 0213 that were empty in its first edition. -/
def laterCells : List (Nat × Nat) :=
  [(0x2e, 0x21), (0x2f, 0x7e), (0x4f, 0x54), (0x4f, 0x7e), (0x74, 0x27), (0x7e, 0x7a),
    (0x7e, 0x7b), (0x7e, 0x7c), (0x7e, 0x7d), (0x7e, 0x7e)]

/-- What a cell of the first plane of JIS X 0213 holds; `early` asks for its first edition. -/
def firstCell? (early : Bool) (a b : Nat) : Option (List Char) :=
  if early && laterCells.contains (a, b) then none
  else
    let added := (column94? b).bind fun c => firstPlane.findSome? fun g => g.at? a c
    (((cell? a b).or added).map fun c => [c]).or (composed.lookup (a, b))

/-- The cell of the tilde in the first plane of JIS X 0213. -/
def tildeCell : Nat × Nat := (0x22, 0x32)

/-- The cell of the backslash in JIS X 0208. -/
def backslashCell : Nat × Nat := (0x21, 0x40)

/-- What a cell of the first plane holds where the tilde is the one of ASCII. -/
def narrowCell? (early : Bool) (a b : Nat) : Option (List Char) :=
  if (a, b) = tildeCell then some ['~'] else firstCell? early a b

/-- A character of the second plane of JIS X 0213; `early` asks for its first edition. -/
def secondCell? (early : Bool) (a b : Nat) : Option Char :=
  if early && (a, b) == (0x7d, 0x3b) then some '\u9b1d'
  else (column94? b).bind fun c => secondPlane.findSome? fun g => g.at? a c

/-- A katakana of half width. -/
def katakana? (b : Nat) : Option Char := (place? 0xa1 0xdf b).map fun i => Char.ofNat (0xff61 + i)

/-- The byte that announces a katakana of half width. -/
def katakanaByte : Nat := 0x8e

/-- The byte that announces a character of another grid. -/
def otherByte : UInt8 := 0x8f

/-- Seven bits of a byte of eight bits. -/
def low? (b : Nat) : Option Nat := place? 0x80 0xff b

/-- What two bytes of eight bits stand for, given the cells of a grid. -/
def pair? (cell : Nat → Nat → Option (List Char)) (a b : Nat) : Option (List Char) :=
  if a = katakanaByte then (katakana? b).map fun c => [c]
  else (low? a).bind fun a => (low? b).bind fun b => cell a b

/-- A step through bytes of eight bits, given the cells of a grid and of the other grid. -/
def twoGridsStep (cell : Nat → Nat → Option (List Char)) (other : Nat → Nat → Option Char)
    (b : UInt8) (rest : List UInt8) : Reading :=
  if b = otherByte then
    match rest with
    | x :: y :: _ =>
      .ofChars? 2 ((low? x.toNat).bind fun x => (low? y.toNat).bind fun y =>
        (other x y).map fun c => [c])
    | _ => .cut
  else Reading.pairs Reading.ascii? (pair? cell) b rest

/-- A step through JIS X 0208 and its supplement. -/
def extendedStep : UInt8 → List UInt8 → Reading :=
  twoGridsStep (fun a b => (cell? a b).map fun c => [c]) supplementCell?

/-- Refuses the two bytes of a cell at once if it was empty in the first edition of JIS X 0213 and
that is asked for. Other bytes are for the given step. -/
def editionStep (early : Bool) (cell? : Nat → Nat → Option (Nat × Nat))
    (step : UInt8 → List UInt8 → Reading) (b : UInt8) (rest : List UInt8) : Reading :=
  match rest.head?.bind fun b' => cell? b.toNat b'.toNat with
  | some cell => if early && laterCells.contains cell then .refused 1 else step b rest
  | none => step b rest

/-- A step through the planes of JIS X 0213. Rows that the second one has not are those of the
supplement of JIS X 0208. -/
def planesStep (early : Bool) : UInt8 → List UInt8 → Reading :=
  editionStep early (fun a b => (low? a).bind fun a => (low? b).map fun b => (a, b))
    (twoGridsStep (firstCell? early)
      fun a b => (secondCell? early a b).or (supplementCell? a b))

/-- The column of a second byte where two rows share a first one. -/
def column? (b : Nat) : Option Nat := (place? 0x40 0x7e b).or ((place? 0x80 0xfc b).map (· + 63))

/-- The row and the column, in seven bits each, of two bytes where two rows share a first byte. Rows
go on after the ninety-four that there are. -/
def shared? (a b : Nat) : Option (Nat × Nat) :=
  let row := (place? 0x81 0x9f a).or ((place? 0xe0 0xfc a).map (· + 31))
  row.bind fun r => (column? b).map fun c => (0x21 + 2 * r + c / 94, 0x21 + c % 94)

/-- What two bytes stand for where two rows of JIS X 0208 share a first byte. -/
def sharedPair? (a b : Nat) : Option Char := (shared? a b).bind fun p => cell? p.1 p.2

/-- A step where two rows of JIS X 0208 share a first byte. -/
def sharedStep : UInt8 → List UInt8 → Reading :=
  Reading.pairs (fun b => (Reading.ascii? b).or (katakana? b))
    fun a b => (sharedPair? a b).map fun c => [c]

/-- A character of one byte in the Japanese variant of ASCII. -/
def roman? (b : Nat) : Option Char :=
  if b = 0x5c then some '¥' else if b = 0x7e then some '\u203e' else Reading.ascii? b

/-- The rows of the second plane of JIS X 0213 that follow the ninety-four of the first one. -/
def secondRows : List Nat :=
  [0x21, 0x28, 0x23, 0x24, 0x25, 0x2c, 0x2d, 0x2e, 0x2f, 0x6e, 0x6f, 0x70, 0x71, 0x72, 0x73, 0x74,
    0x75, 0x76, 0x77, 0x78, 0x79, 0x7a, 0x7b, 0x7c, 0x7d, 0x7e]

/-- What two bytes stand for where two rows of JIS X 0213 share a first byte. -/
def sharedPlanesPair? (early : Bool) (a b : Nat) : Option (List Char) :=
  (shared? a b).bind fun p =>
    if p = backslashCell then some ['\\']
    else
      match place? 0x7f 0xff p.1 with
      | none => narrowCell? early p.1 p.2
      | some i => (secondRows[i]?).bind fun r => (secondCell? early r p.2).map fun c => [c]

/-- A step where two rows of JIS X 0213 share a first byte. -/
def sharedPlanesStep (early : Bool) : UInt8 → List UInt8 → Reading :=
  editionStep early shared?
    (Reading.pairs (fun b => (roman? b).or (katakana? b)) (sharedPlanesPair? early))

/-- Consecutive cells from two bytes on. -/
def strip (a b : Nat) (texts : List String) : Grid :=
  .ofCell (a * 188 + (column? b).getD 0) 188 texts

/-- What Windows has in other cells than JIS X 0208, or instead of it. -/
def windowsStrips : List Grid :=
  [strip 0x81 0x60 ["～∥"],
    strip 0x81 0x7c ["－"],
    strip 0x81 0x91 ["￠￡"],
    strip 0x81 0xca ["￢"],
    strip 0x87 0x40 ["①②③④⑤⑥⑦⑧⑨⑩⑪⑫⑬⑭⑮⑯⑰⑱⑲⑳ⅠⅡⅢⅣⅤⅥⅦⅧⅨⅩ"],
    strip 0x87 0x5f ["㍉㌔㌢㍍㌘㌧㌃㌶㍑㍗㌍㌦㌣㌫㍊㌻㎜㎝㎞㎎㎏㏄㎡"],
    strip 0x87 0x7e ["㍻〝〟№㏍℡㊤㊥㊦㊧㊨㈱㈲㈹㍾㍽㍼≒≡∫∮∑√⊥∠∟⊿∵∩∪"],
    strip 0xee 0xef ["ⅰⅱⅲⅳⅴⅵⅶⅷⅸⅹ￢￤＇＂"],
    strip 0xfa 0x40 [
      "ⅰⅱⅲⅳⅴⅵⅶⅷⅸⅹⅠⅡⅢⅣⅤⅥⅦⅧⅨⅩ￢￤＇＂㈱№℡∵纊褜鍈銈蓜俉炻昱棈鋹曻彅丨仡仼伀伃伹佖侒侊侚侔俍偀倢俿倞偆偰偂傔僴僘兊兤冝冾凬刕劜劦勀勛匀匇匤卲厓厲叝﨎咜咊咩哿喆坙坥垬埈埇﨏",
      "塚增墲夋奓奛奝奣妤妺孖寀甯寘寬尞岦岺峵崧嵓﨑嵂嵭嶸嶹巐弡弴彧德忞恝悅悊惞惕愠惲愑愷愰憘戓抦揵摠撝擎敎昀昕昻昉昮昞昤晥晗晙晴晳暙暠暲暿曺朎朗杦枻桒柀栁桄棏﨓楨﨔榘槢樰橫橆橳橾櫢櫤毖氿汜",
      "沆汯泚洄涇浯涖涬淏淸淲淼渹湜渧渼溿澈澵濵瀅瀇瀨炅炫焏焄煜煆煇凞燁燾犱犾猤猪獷玽珉珖珣珒琇珵琦琪琩琮瑢璉璟甁畯皂皜皞皛皦益睆劯砡硎硤硺礰礼神祥禔福禛竑竧靖竫箞精絈絜綷綠緖繒罇羡羽茁荢荿",
      "菇菶葈蒴蕓蕙蕫﨟薰蘒﨡蠇裵訒訷詹誧誾諟諸諶譓譿賰賴贒赶﨣軏﨤逸遧郞都鄕鄧釚釗釞釭釮釤釥鈆鈐鈊鈺鉀鈼鉎鉙鉑鈹鉧銧鉷鉸鋧鋗鋙鋐﨧鋕鋠鋓錥錡鋻﨨錞鋿錝錂鍰鍗鎤鏆鏞鏸鐱鑅鑈閒隆﨩隝隯霳霻靃靍",
      "靏靑靕顗顥飯飼餧館馞驎髙髜魵魲鮏鮱鮻鰀鵰鵫鶴鸙黑"]]

/-- A character that Windows has in two places, by its first place. Most of its last rows are there
also before the rows for private use. -/
def repeated? (a column : Nat) : Option Char :=
  (place? 0xed 0xee a).bind fun row =>
    let i := row * 188 + column
    if i < 360 then windowsStrips.findSome? fun g => g.at? (0xfa + (i + 28) / 188) ((i + 28) % 188)
    else none

/-- A character for private use of Windows. -/
def private? (a column : Nat) : Option Char :=
  (place? 0xf0 0xf9 a).map fun row => Char.ofNat (0xe000 + row * 188 + column)

/-- What two bytes stand for in Windows. -/
def windowsPair? (a b : Nat) : Option Char :=
  (column? b).bind fun c =>
    (windowsStrips.findSome? fun g => g.at? a c).or
      ((repeated? a c).or ((sharedPair? a b).or (private? a c)))

/-- What a byte stands for in Windows. -/
def windowsSingle? (b : Nat) : Option Char :=
  if b ≤ 0x80 then some (Char.ofNat b)
  else if b = 0xa0 then some '\uf8f0'
  else (katakana? b).or ((place? 0xfd 0xff b).map fun i => Char.ofNat (0xf8f1 + i))

/-- A step through the character set of Windows. -/
def windowsStep : UInt8 → List UInt8 → Reading :=
  Reading.pairs windowsSingle? fun a b => (windowsPair? a b).map fun c => [c]

end CommandScript.Text.Charset.Jis
