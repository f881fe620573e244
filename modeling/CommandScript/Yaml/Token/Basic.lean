import CommandScript.Yaml.Loader

/-!
# Tokens of YAML

A YAML text as a list of characters that know their index, line and column, and the tokens that it
is cut into. Line breaks of all kinds but the two Unicode separators are made one before places are
given, and a null character stands at the end of every text. Indentation shows as tokens that open
and close block collections.

## Main definitions

- `CommandScript.Yaml.Spot` — a character and its place
- `CommandScript.Yaml.spots` — the spots of a text
- `CommandScript.Yaml.isReadable` — whether a text has only characters that YAML admits
- `CommandScript.Yaml.Token` — a token
- `CommandScript.Yaml.Directive` — a line that starts with a percent sign
-/

namespace CommandScript.Yaml

/-- A character and its place. -/
structure Spot where
  char : Char
  index : Nat
  line : Nat
  column : Nat
  deriving DecidableEq, Repr

/-- The character after the last one of a text. -/
def endMark : Char := '\x00'

/-- Whether YAML admits a character. -/
def isAdmitted (c : Char) : Bool :=
  c = '\t' || c = '\n' || c = '\r' || (' ' ≤ c && c ≤ '~') || c = '\x85' ||
    (0xa0 ≤ c.toNat && c.toNat ≤ 0xd7ff) || (0xe000 ≤ c.toNat && c.toNat ≤ 0xfffd) ||
    0x10000 ≤ c.toNat

/-- Whether a text has only characters that YAML admits. -/
def isReadable (cs : List Char) : Bool := cs.all isAdmitted

/-- A text in which every line break is a line feed, but for the two separators of Unicode. -/
def unifyBreaks : List Char → List Char
  | [] => []
  | '\r' :: '\n' :: cs => '\n' :: unifyBreaks cs
  | c :: cs => (if c = '\r' ∨ c = '\x85' then '\n' else c) :: unifyBreaks cs

/-- Whether a character breaks a line. -/
def isBreak (c : Char) : Bool := c = '\n' || c = '\u2028' || c = '\u2029'

/-- Whether a character is a line break or the end. -/
def endsLine (c : Char) : Bool := c = endMark || isBreak c

/-- Whether a character is a blank, a line break or the end. -/
def endsWord (c : Char) : Bool := c = ' ' || c = '\t' || endsLine c

/-- The spots of a text that starts at the given place. A byte order mark takes no column. -/
def spotsFrom (index line column : Nat) : List Char → List Spot
  | [] => [⟨endMark, index, line, column⟩]
  | c :: cs =>
    ⟨c, index, line, column⟩ ::
      (if isBreak c then spotsFrom (index + 1) (line + 1) 0 cs
       else if c = '\uFEFF' then spotsFrom (index + 1) line column cs
       else spotsFrom (index + 1) line (column + 1) cs)

/-- The spots of a text. -/
def spots (cs : List Char) : List Spot := spotsFrom 0 0 0 (unifyBreaks cs)

/-- The first spot of a list. -/
def here (ss : List Spot) : Spot := ss.headD ⟨endMark, 0, 0, 0⟩

/-- The character at the front of a list of spots. -/
def first (ss : List Spot) : Char := (here ss).char

/-- The characters of spots. -/
def chars (ss : List Spot) : List Char := ss.map Spot.char

/-- Whether the mark of three characters that separates documents stands at the front. -/
def isSeparator (mark : Char) (ss : List Spot) : Bool :=
  (chars (ss.take 3)) = [mark, mark, mark] && endsWord (first (ss.drop 3))

/-- Whether one of the two marks that separate documents stands at the front. -/
def atSeparator (ss : List Spot) : Bool := isSeparator '-' ss || isSeparator '.' ss

/-- The rest of spots after all blanks and comments, and whether a line break was among them. -/
def skipGaps (inComment broken : Bool) : List Spot → Bool × List Spot
  | [] => (broken, [])
  | s :: ss =>
    if s.char = endMark then (broken, s :: ss)
    else if isBreak s.char then skipGaps false true ss
    else if inComment then skipGaps true broken ss
    else if s.char = ' ' then skipGaps false broken ss
    else if s.char = '#' then skipGaps true broken ss
    else (broken, s :: ss)

/-- The spots from the end of the line on, where only blanks and a comment stand before it. -/
def restOfLine? (ss : List Spot) : Option (List Spot) :=
  let ss := ss.dropWhile (·.char = ' ')
  let ss := if first ss = '#' then ss.dropWhile fun s => !endsLine s.char else ss
  if endsLine (first ss) then some (if isBreak (first ss) then ss.drop 1 else ss) else none

/-- A line that starts with a percent sign: the version, a short form for tags, or anything else. -/
inductive Directive where
  | version (major : Nat)
  | tag (handle leading : List Char)
  | other
  deriving DecidableEq, Repr

/-- A token of YAML. A tag has a handle and a suffix, or is written out. -/
inductive Token where
  | directive (d : Directive)
  | documentStart
  | documentEnd
  | blockSequence
  | blockMapping
  | blockEnd
  | openSequence
  | closeSequence
  | openMapping
  | closeMapping
  | blockEntry
  | flowEntry
  | key
  | value
  | alias (name : List Char)
  | anchor (name : List Char)
  | tag (handle : Option (List Char)) (suffix : List Char)
  | scalar (text : List Char) (plain : Bool)
  | textEnd
  | bad (e : ReadError)
  deriving DecidableEq, Repr

end CommandScript.Yaml
