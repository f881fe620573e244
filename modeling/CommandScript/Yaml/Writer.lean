import CommandScript.Text.Base64
import CommandScript.Value.Conversion
import CommandScript.Yaml.Tag

/-!
# Writing YAML

The YAML text of a value in block style, with lines of some eighty characters. A text is written
without quotes where it then reads as itself, between single quotes where these suffice, and
between double quotes otherwise.

## Main definitions

- `CommandScript.Yaml.Shape` — what a text contains that matters for its style
- `CommandScript.Yaml.Style` — plain, single quotes or double quotes
- `CommandScript.Yaml.Pen` — what has been written, and where the next character goes
- `CommandScript.Yaml.write` — the YAML text of a value

## Design notes

Which style a text gets and where lines are broken are the rules of one writer among others, and
assumed. Nothing general is said of what is written as YAML.
-/

namespace CommandScript.Yaml

/-- Why a value is not written: its type has no notation, or a whole number in it is too long. -/
inductive WriteError where
  | unrepresentable (literal : String)
  | conversion (e : ConversionError)
  deriving DecidableEq, Repr

/-- The length that lines should not exceed. -/
def bestWidth : Nat := 80

/-- The number of blanks for each level. -/
def levelIndent : Nat := 2

/-! ## Styles of texts -/

/-- How a text is written. -/
inductive Style where
  | plain
  | single
  | double
  deriving DecidableEq, Repr

/-- What a text contains that matters for its style. -/
structure Shape where
  /-- Characters that mean something in block style. -/
  blockMarks : Bool
  /-- Characters that mean something inside brackets. -/
  flowMarks : Bool
  lineBreaks : Bool
  special : Bool
  blankEnds : Bool
  breakSpace : Bool
  spaceBreak : Bool

/-- Whether a character separates words or ends a line, among the characters of a text. -/
def isSpacing (c : Char) : Bool := c = '\x00' || c = ' ' || c = '\t' || c = '\r' || c = '\n'
  || c = '\x85' || c = '\u2028' || c = '\u2029'

/-- Whether a character breaks a line, among the characters of a text. -/
def breaksLine (c : Char) : Bool := c = '\n' || c = '\x85' || c = '\u2028' || c = '\u2029'

/-- Whether a character can stand without quotes. -/
def isOrdinary (c : Char) : Bool :=
  c = '\n' || (' ' ≤ c && c ≤ '~') ||
    ((c = '\x85' || (0xa0 ≤ c.toNat && c.toNat ≤ 0xd7ff) ||
      (0xe000 ≤ c.toNat && c.toNat ≤ 0xfffd) ||
      (0x10000 ≤ c.toNat && c.toNat < 0x10ffff)) && c ≠ '\uFEFF')

/-- Whether a character means something at the front of a text, in block style and in brackets. -/
def leadingMarks (c : Char) (spaced : Bool) : Bool × Bool :=
  if "#,[]\x7b\x7d&*!|>'\"%@`".toList.contains c then (true, true)
  else if c = '?' ∨ c = ':' then (spaced, true)
  else if c = '-' then (spaced, spaced)
  else (false, false)

/-- Whether a character means something inside a text, in block style and in brackets. -/
def innerMarks (afterSpace : Bool) (c : Char) (spaced : Bool) : Bool × Bool :=
  if ",?[]\x7b\x7d".toList.contains c then (false, true)
  else if c = ':' then (spaced, true)
  else if c = '#' then (afterSpace, afterSpace)
  else (false, false)

/-- The marks in a text whose characters follow a given one. -/
def marksAfter (before : Char) : List Char → Bool × Bool
  | [] => (false, false)
  | c :: cs =>
    let here := innerMarks (isSpacing before) c (cs.head?.all isSpacing)
    let rest := marksAfter c cs
    (here.1 || rest.1, here.2 || rest.2)

/-- The marks in a text. -/
def marks : List Char → Bool × Bool
  | [] => (false, false)
  | c :: cs =>
    -- Three hyphens or points at the front would separate documents.
    let separator : Bool := ["---", "..."].contains (String.ofList ((c :: cs).take 3))
    let here := leadingMarks c (cs.head?.all isSpacing)
    let rest := marksAfter c cs
    (separator || here.1 || rest.1, separator || here.2 || rest.2)

/-- Whether a character of the first kind stands right before one of the second kind. -/
def hasPair (p q : Char → Bool) : List Char → Bool
  | a :: b :: cs => (p a && q b) || hasPair p q (b :: cs)
  | _ => false

/-- The shape of a text. -/
def shapeOf (cs : List Char) : Shape :=
  let m := marks cs
  let blankOrBreak (c : Char) : Bool := c = ' ' || breaksLine c
  { blockMarks := m.1
    flowMarks := m.2
    lineBreaks := cs.any breaksLine
    special := cs.any fun c => !isOrdinary c
    blankEnds := cs.head?.any blankOrBreak || cs.getLast?.any blankOrBreak
    breakSpace := hasPair breaksLine (· = ' ') cs
    spaceBreak := hasPair (· = ' ') breaksLine cs }

namespace Shape

/-- Whether a text of this shape can be written without quotes. -/
def allowsPlain (s : Shape) : Bool :=
  !(s.blankEnds || s.breakSpace || s.spaceBreak || s.special || s.lineBreaks || s.blockMarks)

/-- Whether a text of this shape can be written between single quotes. -/
def allowsSingle (s : Shape) : Bool := !(s.breakSpace || s.spaceBreak || s.special)

end Shape

/-- The style of a text that is to be read with the given tag. -/
def styleOf (tag : String) (cs : List Char) : Style :=
  let s := shapeOf cs
  if plainTag cs = tag && (cs.isEmpty || s.allowsPlain) then .plain
  else if cs.isEmpty || s.allowsSingle then .single
  else .double

/-! ## The pen -/

/-- What has been written (backwards), and where the next character goes: the column, whether
nothing but indicators and blanks stand on the line, whether a blank stands before, and whether the
document needs a mark at its end. -/
structure Pen where
  written : List Char
  column : Nat
  atIndent : Bool
  afterBlank : Bool
  openEnded : Bool

namespace Pen

/-- The pen before a document. -/
def start : Pen := ⟨[], 0, true, true, false⟩

/-- Characters of one line. -/
def put (p : Pen) (cs : List Char) : Pen :=
  { p with written := cs.reverse ++ p.written, column := p.column + cs.length }

/-- A line break. -/
def newLine (p : Pen) (c : Char) : Pen :=
  { p with written := c :: p.written, column := 0, atIndent := true, afterBlank := true }

/-- Several line breaks. -/
def newLines (p : Pen) (cs : List Char) : Pen := cs.foldl newLine p

/-- Moves to an indentation, on a new line where it is needed. -/
def indentTo (p : Pen) (indent : Nat) : Pen :=
  let p :=
    if !p.atIndent || indent < p.column || (p.column = indent && !p.afterBlank) then p.newLine '\n'
    else p
  if p.column < indent then
    { p.put (List.replicate (indent - p.column) ' ') with afterBlank := true }
  else p

/-- An indicator, with a blank before it where it is asked for; `blank` says that what follows
needs no further blank, `indenting` that it counts as indentation. -/
def indicator (p : Pen) (cs : List Char) (needsBlank blank indenting : Bool) : Pen :=
  let q := p.put (if p.afterBlank || !needsBlank then cs else ' ' :: cs)
  { q with afterBlank := blank, atIndent := p.atIndent && indenting, openEnded := false }

/-- Text follows. -/
def inText (p : Pen) : Pen := { p with afterBlank := false, atIndent := false }

end Pen

/-! ## Scalars -/

/-- The runs of a text: characters of the same class among blanks, breaks and others. -/
def runs (cs : List Char) : List (List Char) :=
  cs.splitBy fun a b => (a = ' ') = (b = ' ') && breaksLine a = breaksLine b

/-- The runs of a plain text; a single blank beyond the best width breaks the line. -/
def plainRuns (indent : Nat) (split : Bool) (p : Pen) : List (List Char) → Pen
  | [] => p
  | r :: rs =>
    if r = [' '] ∧ bestWidth < p.column ∧ split = true then
      plainRuns indent split (p.indentTo indent).inText rs
    else plainRuns indent split (p.put r) rs

/-- A text without quotes. -/
def writePlain (indent : Nat) (split root : Bool) (cs : List Char) (p : Pen) : Pen :=
  let p := if root then { p with openEnded := true } else p
  if cs.isEmpty then p
  else
    let p := if p.afterBlank then p else p.put [' ']
    plainRuns indent split p.inText (runs cs)

/-- The runs of a text between single quotes: a single blank beyond the best width breaks the line
inside the text, and a line break is written twice. -/
def singleRuns (indent : Nat) (split first : Bool) (p : Pen) : List (List Char) → Pen
  | [] => p
  | r :: rs =>
    let q :=
      if r = [' '] ∧ bestWidth < p.column ∧ split = true ∧ first = false ∧ rs ≠ [] then
        p.indentTo indent
      else if r.head?.any breaksLine then
        ((if r.head? = some '\n' then p.newLine '\n' else p).newLines r).indentTo indent
      else p.put (r.flatMap fun c => if c = '\'' then ['\'', '\''] else [c])
    singleRuns indent split false q rs

/-- A text between single quotes. -/
def writeSingle (indent : Nat) (split : Bool) (cs : List Char) (p : Pen) : Pen :=
  (singleRuns indent split true (p.indicator ['\''] true false false) (runs cs)).indicator
    ['\''] false false false

/-- The letter of an escape. -/
def escapeLetter? (c : Char) : Option Char :=
  [('\x00', '0'), ('\x07', 'a'), ('\x08', 'b'), ('\t', 't'), ('\n', 'n'), ('\x0b', 'v'),
    ('\x0c', 'f'), ('\r', 'r'), ('\x1b', 'e'), ('"', '"'), ('\\', '\\'), ('\x85', 'N'),
    ('\xa0', '_'), ('\u2028', 'L'), ('\u2029', 'P')].lookup c

/-- Hexadecimal digits with capital letters. -/
def capitalHex (width n : Nat) : List Char := (Text.hexDigits width n).map Char.toUpper

/-- The escape of a character between double quotes, for those that need one. -/
def escaping? (c : Char) : Option (List Char) :=
  let isBare := !(c = '"' || c = '\\' || c = '\x85' || c = '\u2028' || c = '\u2029' || c = '\uFEFF')
    && ((' ' ≤ c && c ≤ '~') || (0xa0 ≤ c.toNat && c.toNat ≤ 0xd7ff) ||
      (0xe000 ≤ c.toNat && c.toNat ≤ 0xfffd))
  if isBare then none
  else
    match escapeLetter? c with
    | some d => some ['\\', d]
    | none =>
      if c.toNat ≤ 0xff then some ('\\' :: 'x' :: capitalHex 2 c.toNat)
      else if c.toNat ≤ 0xffff then some ('\\' :: 'u' :: capitalHex 4 c.toNat)
      else some ('\\' :: 'U' :: capitalHex 8 c.toNat)

/-- Breaks the line inside double quotes. A blank that comes first on the new line is escaped. -/
def breakDouble (indent : Nat) (next : Option Char) (p : Pen) : Pen :=
  let p := ((p.put ['\\']).indentTo indent).inText
  if next = some ' ' then p.put ['\\'] else p

/-- The rest of a text between double quotes. The pen has written all but the characters `waiting`
(backwards), which need no escape. Beyond the best width the line is broken before a blank and
around an escape, but not next to the quotes. -/
def doubleFrom (indent : Nat) (split first : Bool) (waiting : List Char) (p : Pen) :
    List Char → Pen
  | [] => p.put waiting.reverse
  | c :: cs =>
    let mayBreak := split && !first && !cs.isEmpty
    match escaping? c with
    | some e =>
      let p := (p.put waiting.reverse).put e
      let p := if mayBreak && bestWidth + 1 < p.column then breakDouble indent cs.head? p else p
      doubleFrom indent split false [] p cs
    | none =>
      -- An escape has just been written where nothing is waiting.
      if mayBreak && (c = ' ' || waiting.isEmpty) && bestWidth < p.column + waiting.length then
        doubleFrom indent split false [c] (breakDouble indent (some c) (p.put waiting.reverse)) cs
      else doubleFrom indent split false (c :: waiting) p cs

/-- A text between double quotes. -/
def writeDouble (indent : Nat) (split : Bool) (cs : List Char) (p : Pen) : Pen :=
  (doubleFrom indent split true [] (p.indicator ['"'] true false false) cs).indicator
    ['"'] false false false

/-- The lines of a literal scalar, each with its end. -/
def literalLines (indent : Nat) (p : Pen) (lines : List (List Char)) : Pen :=
  lines.foldl (fun p l => ((p.indentTo indent).put l).newLine '\n') p

/-- A literal scalar with the given lines. -/
def writeLiteral (indent : Nat) (lines : List (List Char)) (p : Pen) : Pen :=
  literalLines indent ((p.indicator ['|'] true false false).newLine '\n') lines

/-! ## Values -/

/-- Where a value stands: in which indentation, as a key or value of a mapping or not, as the whole
document or not, and as a key on one line or not. -/
structure Position where
  indent : Option Nat
  inMapping : Bool
  root : Bool
  simpleKey : Bool

namespace Position

/-- The position of a whole document. -/
def document : Position := ⟨none, false, true, false⟩

/-- The indentation of the further lines of a scalar. -/
def textIndent (p : Position) : Nat := p.indent.getD 0 + levelIndent

/-- The indentation of the entries of a mapping. -/
def entryIndent (p : Position) : Nat :=
  match p.indent with
  | none => 0
  | some i => i + levelIndent

/-- The indentation of the items of a sequence; directly after a key they stand below it. -/
def itemIndent (p : Position) (pen : Pen) : Nat :=
  if p.inMapping && !pen.atIndent then p.indent.getD 0 else p.entryIndent

end Position

/-- Doubles in YAML, before a point is added where there is only an exponent. -/
def floatStyle : FloatStyle := ⟨-3, 16, ".0", ".inf", ".nan"⟩

/-- A numeral that has an exponent and no point, with a point. -/
def withPoint (cs : List Char) : List Char :=
  if cs.contains '.' then cs
  else
    match cs.dropWhile (· ≠ 'e') with
    | [] => cs
    | power => cs.takeWhile (· ≠ 'e') ++ '.' :: '0' :: power

/-- The tag and the text of a value that is a scalar. -/
def scalarText? : Value → Except WriteError (Option (String × List Char))
  | .null => .ok (some (standardTag "null", "null".toList))
  | .bool b => .ok (some (standardTag "bool", (if b then "true" else "false").toList))
  | .int n =>
    match Numeral.intText n with
    | .ok s => .ok (some (standardTag "int", s.toList))
    | .error e => .error (.conversion e)
  | .float x => .ok (some (standardTag "float", withPoint (floatStyle.render x).toList))
  | .text s => .ok (some (standardTag "str", s.toList))
  | .date d => .ok (some (standardTag "timestamp", d.chars))
  | .dateTime t => .ok (some (standardTag "timestamp", t.chars ' '))
  | _ => .ok none

/-- A scalar with the given tag. -/
def writeText (place : Position) (tag : String) (cs : List Char) (p : Pen) : Pen :=
  let indent := place.textIndent
  let split := !place.simpleKey
  match styleOf tag cs with
  | .plain => writePlain indent split place.root cs p
  | .single => writeSingle indent split cs p
  | .double => writeDouble indent split cs p

/-- Bytes, in lines of base 64. -/
def writeBytes (place : Position) (bs : List UInt8) (p : Pen) : Pen :=
  let p := p.indicator "!!binary".toList true false false
  if bs.isEmpty then writeDouble place.textIndent true [] p
  else writeLiteral place.textIndent (Text.splitAt '\n' (Text.Base64.encodeLines bs).dropLast) p

/-- Whether a key is written on one line: it is short and neither empty nor of several lines. -/
def isSimpleKey : Value → Bool
  | .list xs => xs.isEmpty
  | .tuple xs => xs.isEmpty
  | .map es => es.isEmpty
  | .set xs => xs.isEmpty
  | v =>
    match scalarText? v with
    | .ok (some (tag, cs)) =>
      let shownTag := tag.length - standardStart.length + 2
      shownTag + cs.length < 128 && !cs.isEmpty && !cs.any breaksLine
    | _ => false

/-- An empty collection in brackets. -/
def writeEmpty (opening closing : Char) (p : Pen) : Pen :=
  (p.indicator [opening] true true false).indicator [closing] false false false

/-- A key, with the indicators around it; `write` writes the key. -/
def writeKey (indent : Nat) (key : Value) (write : Position → Pen → Except WriteError Pen)
    (p : Pen) : Except WriteError Pen :=
  let p := p.indentTo indent
  if isSimpleKey key then
    (write ⟨some indent, true, false, true⟩ p).map (·.indicator [':'] false false false)
  else
    (write ⟨some indent, true, false, false⟩ (p.indicator ['?'] true false true)).map fun p =>
      (p.indentTo indent).indicator [':'] true false true

mutual

/-- A value at a position. -/
def writeValue (place : Position) (v : Value) (p : Pen) : Except WriteError Pen :=
  match v with
  | .list xs =>
    if xs.isEmpty then .ok (writeEmpty '[' ']' p) else writeItems (place.itemIndent p) xs p
  | .tuple xs =>
    if xs.isEmpty then .ok (writeEmpty '[' ']' p) else writeItems (place.itemIndent p) xs p
  | .map es =>
    if es.isEmpty then .ok (writeEmpty '\x7b' '\x7d' p) else writeEntries place.entryIndent es p
  | .set xs =>
    let p := p.indicator "!!set".toList true false false
    if xs.isEmpty then .ok (writeEmpty '\x7b' '\x7d' p) else writeMembers place.entryIndent xs p
  | .bytes bs => .ok (writeBytes place bs p)
  | v =>
    match scalarText? v with
    | .ok (some (tag, cs)) => .ok (writeText place tag cs p)
    | .ok none => .error (.unrepresentable (v.literal?.getD ""))
    | .error e => .error e

/-- The items of a sequence. -/
def writeItems (indent : Nat) (xs : List Value) (p : Pen) : Except WriteError Pen :=
  match xs with
  | [] => .ok p
  | x :: xs =>
    let p := (p.indentTo indent).indicator ['-'] true false true
    match writeValue ⟨some indent, false, false, false⟩ x p with
    | .ok p => writeItems indent xs p
    | .error e => .error e

/-- The entries of a mapping. -/
def writeEntries (indent : Nat) (es : List (Value × Value)) (p : Pen) : Except WriteError Pen :=
  match es with
  | [] => .ok p
  | (k, v) :: es =>
    match writeKey indent k (fun place p => writeValue place k p) p with
    | .error e => .error e
    | .ok p =>
      match writeValue ⟨some indent, true, false, false⟩ v p with
      | .ok p => writeEntries indent es p
      | .error e => .error e

/-- The members of a set, as keys without values. -/
def writeMembers (indent : Nat) (xs : List Value) (p : Pen) : Except WriteError Pen :=
  match xs with
  | [] => .ok p
  | x :: xs =>
    match writeKey indent x (fun place p => writeValue place x p) p with
    | .error e => .error e
    | .ok p =>
      let place : Position := ⟨some indent, true, false, false⟩
      writeMembers indent xs (writeText place (standardTag "null") "null".toList p)

end

/-- The YAML text of a value; a scalar that stands open at the end is closed by a mark. -/
def write (v : Value) : Except WriteError (List Char) := do
  let p ← writeValue Position.document v Pen.start
  let p := p.indentTo 0
  let p := if p.openEnded then (p.indicator ['.', '.', '.'] true false false).indentTo 0 else p
  return p.written.reverse

end CommandScript.Yaml
