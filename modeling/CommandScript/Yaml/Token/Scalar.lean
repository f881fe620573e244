import CommandScript.Json.Token
import CommandScript.Yaml.Token.Basic

/-!
# Scalars of YAML

The texts of plain, quoted and block scalars. A line break inside a plain or quoted scalar is
folded: one alone becomes a blank, and of several the first is dropped.

## Main definitions

- `CommandScript.Yaml.readPlain` — a scalar without quotes
- `CommandScript.Yaml.readQuoted` — a scalar between quotes
- `CommandScript.Yaml.readBlock` — a literal or folded scalar
-/

namespace CommandScript.Yaml

/-- The text that a line break gives which is followed by further breaks. -/
def folded (lineBreak : Char) (further : List Char) : List Char :=
  if lineBreak ≠ '\n' then lineBreak :: further
  else if further.isEmpty then [' ']
  else further

/-! ## Plain scalars -/

/-- Whether a character ends the run of a plain scalar, given the one after it. -/
def stopsPlain (inFlow : Bool) (c next : Char) : Bool :=
  endsWord c
    || (c = ':' && (endsWord next || (inFlow && ",[]\x7b\x7d".toList.contains next)))
    || (inFlow && ",?[]\x7b\x7d".toList.contains c)

/-- The run of a plain scalar at the front of spots, and the rest. -/
def plainRun (inFlow : Bool) : List Spot → List Char × List Spot
  | [] => ([], [])
  | s :: ss =>
    if stopsPlain inFlow s.char (first ss) then ([], s :: ss)
    else
      let (cs, rest) := plainRun inFlow ss
      (s.char :: cs, rest)

/-- The line breaks among the blanks at the front of spots, and the rest; `none` in place of the
breaks where one of them leads to a separator of documents. -/
def plainBreaks : List Spot → Option (List Char) × List Spot
  | [] => (some [], [])
  | s :: ss =>
    if s.char = ' ' then plainBreaks ss
    else if isBreak s.char then
      if atSeparator ss then (none, ss)
      else
        let (bs, rest) := plainBreaks ss
        (bs.map (s.char :: ·), rest)
    else (some [], s :: ss)

/-- The text of the gap after a run of a plain scalar, whether it breaks the line, and the rest. An
empty text ends the scalar. -/
def plainGap (ss : List Spot) : List Char × Bool × List Spot :=
  let blanks := chars (ss.takeWhile (·.char = ' '))
  match ss.dropWhile (·.char = ' ') with
  | s :: rest =>
    if isBreak s.char then
      if atSeparator rest then ([], true, rest)
      else
        match plainBreaks rest with
        | (some bs, rest) => (folded s.char bs, true, rest)
        | (none, rest) => ([], true, rest)
    else (blanks, false, s :: rest)
  | [] => (blanks, false, [])

/-- A plain scalar after the gap `gap`, whose further lines are indented by at least `indent`: its
text, whether a line break was read last, and the rest. -/
def plainFrom (inFlow : Bool) (indent : Int) :
    (fuel : Nat) → (gap : List Char) → (broken : Bool) → List Spot → List Char × Bool × List Spot
  | 0, _, broken, ss => ([], broken, ss)
  | f + 1, gap, broken, ss =>
    match plainRun inFlow ss with
    | ([], _) => ([], broken, ss)
    | (run, rest) =>
      let (next, broken, rest) := plainGap rest
      -- A comment or a line that is not indented enough ends the scalar, without the gap.
      if next.isEmpty || first rest = '#' || (!inFlow && (here rest).column < indent) then
        (gap ++ run, broken, rest)
      else
        let (cs, broken, rest) := plainFrom inFlow indent f next broken rest
        (gap ++ run ++ cs, broken, rest)

/-- A plain scalar: its text, whether a line break was read last, and the rest. -/
def readPlain (inFlow : Bool) (indent : Int) (ss : List Spot) : List Char × Bool × List Spot :=
  plainFrom inFlow indent ss.length [] false ss

/-! ## Quoted scalars -/

/-- The line breaks among the blanks at the front of spots, and the rest; `none` where a line
starts with a separator of documents. -/
def quotedBreaks (lineStart : Bool) : List Spot → Option (List Char × List Spot)
  | [] => some ([], [])
  | s :: ss =>
    if lineStart && atSeparator (s :: ss) then none
    else if s.char = ' ' || s.char = '\t' then quotedBreaks false ss
    else if isBreak s.char then (quotedBreaks true ss).map fun p => (s.char :: p.1, p.2)
    else some ([], s :: ss)

/-- The character that an escape of one letter gives. -/
def escaped? (c : Char) : Option Char :=
  if c = '0' then some '\x00'
  else if c = 'a' then some '\x07'
  else if c = 'b' then some '\x08'
  else if c = 't' ∨ c = '\t' then some '\t'
  else if c = 'n' then some '\n'
  else if c = 'v' then some '\x0b'
  else if c = 'f' then some '\x0c'
  else if c = 'r' then some '\r'
  else if c = 'e' then some '\x1b'
  else if c = ' ' ∨ c = '"' ∨ c = '\\' ∨ c = '/' then some c
  else if c = 'N' then some '\x85'
  else if c = '_' then some '\xa0'
  else if c = 'L' then some '\u2028'
  else if c = 'P' then some '\u2029'
  else none

/-- The number of hexadecimal digits that an escape takes after its letter. -/
def escapeWidth? (c : Char) : Option Nat :=
  if c = 'x' then some 2 else if c = 'u' then some 4 else if c = 'U' then some 8 else none

/-- The number that hexadecimal digits denote after the digits of `acc`. -/
def hexNumber? (acc : Nat) : List Char → Option Nat
  | [] => some acc
  | c :: cs => (Json.hexValue? c).bind fun d => hexNumber? (acc * 16 + d) cs

/-- The character of a numbered escape. -/
def numberedChar (n : Nat) : Except ReadError Char :=
  if n < 0x110000 then .ok (if n.isValidChar then Char.ofNat n else Text.Utf8.replacement)
  else .error (.noCharacter (0x80000000 ≤ n))

/-- The text of an escape, after its backslash. -/
def readEscape (ss : List Spot) : Except ReadError (List Char × List Spot) :=
  let c := first ss
  let rest := ss.drop 1
  match escaped? c, escapeWidth? c with
  | some d, _ => .ok ([d], rest)
  | none, some width =>
    match hexNumber? 0 (chars (rest.take width)) with
    | some n =>
      if (rest.take width).length = width then (numberedChar n).map fun d => ([d], rest.drop width)
      else .error .malformed
    | none => .error .malformed
  | none, none =>
    -- A line that ends with a backslash is continued; empty lines after it remain.
    if isBreak c then
      match quotedBreaks true rest with
      | some p => .ok p
      | none => .error .malformed
    else .error .malformed

/-- The text of blanks inside quotes, which may break the line. -/
def readQuotedGap (ss : List Spot) : Except ReadError (List Char × List Spot) :=
  let isBlank (s : Spot) : Bool := s.char = ' ' || s.char = '\t'
  let blanks := chars (ss.takeWhile isBlank)
  match ss.dropWhile isBlank with
  | s :: rest =>
    if isBreak s.char then
      match quotedBreaks true rest with
      | some (bs, rest) => .ok (folded s.char bs, rest)
      | none => .error .malformed
    else .ok (blanks, s :: rest)
  | [] => .ok (blanks, [])

/-- A quoted scalar from inside its quotes on, up to its closing quote. -/
def quotedFrom (double : Bool) : (fuel : Nat) → List Spot → Except ReadError (List Char × List Spot)
  | 0, _ => .error .malformed
  | f + 1, ss =>
    let c := first ss
    let rest := ss.drop 1
    if c = endMark then .error .malformed
    else if c = (if double then '"' else '\'') then
      -- Between single quotes, a quote is written twice.
      if !double && first rest = '\'' then
        (quotedFrom double f (rest.drop 1)).map fun p => ('\'' :: p.1, p.2)
      else .ok ([], rest)
    else if double && c = '\\' then do
      let (cs, rest) ← readEscape rest
      let (ds, rest) ← quotedFrom double f rest
      return (cs ++ ds, rest)
    else if endsWord c then do
      let (cs, rest) ← readQuotedGap ss
      let (ds, rest) ← quotedFrom double f rest
      return (cs ++ ds, rest)
    else (quotedFrom double f rest).map fun p => (c :: p.1, p.2)

/-- A quoted scalar, after its opening quote. -/
def readQuoted (double : Bool) (ss : List Spot) : Except ReadError (List Char × List Spot) :=
  quotedFrom double (ss.length + 1) ss

/-! ## Block scalars -/

/-- What the header of a block scalar says: whether the line breaks at its end are kept (`none`
for one of them), and the depth of its lines. -/
structure BlockHeader where
  keep : Option Bool
  depth : Option Nat

/-- The sign that says what becomes of the line breaks at the end. -/
def readChomping (ss : List Spot) : Option Bool × List Spot :=
  if first ss = '+' then (some true, ss.drop 1)
  else if first ss = '-' then (some false, ss.drop 1)
  else (none, ss)

/-- The digit that gives the depth of the lines. -/
def readDepth (ss : List Spot) : Except ReadError (Option Nat × List Spot) :=
  let c := first ss
  if c = '0' then .error .malformed
  else if c.isDigit then .ok (some (c.toNat - '0'.toNat), ss.drop 1)
  else .ok (none, ss)

/-- The header of a block scalar with the rest of its line. -/
def readBlockHeader (ss : List Spot) : Except ReadError (BlockHeader × List Spot) := do
  let (keep, rest) := readChomping ss
  let (depth, rest) ← readDepth rest
  let (keep, rest) := if keep.isSome then (keep, rest) else readChomping rest
  if !(first rest = ' ' || endsLine (first rest)) then .error .malformed
  else
    match restOfLine? rest with
    | some rest => return (⟨keep, depth⟩, rest)
    | none => .error .malformed

/-- The line breaks and the greatest indentation of the empty lines at the front of spots, and the
rest. -/
def emptyLines (deepest : Nat) : List Spot → List Char × Nat × List Spot
  | [] => ([], deepest, [])
  | s :: ss =>
    if s.char = ' ' then emptyLines (max deepest (s.column + 1)) ss
    else if isBreak s.char then
      let (bs, d, rest) := emptyLines deepest ss
      (s.char :: bs, d, rest)
    else ([], deepest, s :: ss)

/-- The line breaks at the front of spots, of lines with no more than the indentation of the
scalar, and the rest. -/
def indentedBreaks (indent : Int) : List Spot → List Char × List Spot
  | [] => ([], [])
  | s :: ss =>
    if s.char = ' ' ∧ (s.column : Int) < indent then indentedBreaks indent ss
    else if isBreak s.char then
      let (bs, rest) := indentedBreaks indent ss
      (s.char :: bs, rest)
    else ([], s :: ss)

/-- The lines of a block scalar after the line breaks `breaks`. -/
def blockFrom (fold : Bool) (keep : Option Bool) (indent : Int) :
    (fuel : Nat) → (breaks : List Char) → List Spot → List Char × List Spot
  | 0, _, ss => ([], ss)
  | f + 1, breaks, ss =>
    let isBlank (c : Char) : Bool := c = ' ' || c = '\t'
    let line := chars (ss.takeWhile fun s => !endsLine s.char)
    let rest := ss.dropWhile fun s => !endsLine s.char
    let lineBreak := if isBreak (first rest) then [first rest] else []
    let rest := if isBreak (first rest) then rest.drop 1 else rest
    let (further, rest) := indentedBreaks indent rest
    if ((here rest).column : Int) = indent ∧ first rest ≠ endMark then
      -- Two lines are joined unless one of them begins with a blank.
      let joint :=
        if fold && lineBreak = ['\n'] && !isBlank (first ss) && !isBlank (first rest) then
          if further.isEmpty then [' '] else []
        else lineBreak
      let (cs, rest) := blockFrom fold keep indent f further rest
      (breaks ++ line ++ joint ++ cs, rest)
    else
      let tail := (if keep = some false then [] else lineBreak) ++
        (if keep = some true then further else [])
      (breaks ++ line ++ tail, rest)

/-- A block scalar whose parent is indented by `parent`, after its indicator. -/
def readBlock (fold : Bool) (parent : Int) (ss : List Spot) :
    Except ReadError (List Char × List Spot) := do
  let (header, rest) ← readBlockHeader ss
  let least := max (parent + 1) 1
  let (indent, breaks, rest) :=
    match header.depth with
    | none =>
      let (bs, deepest, rest) := emptyLines 0 rest
      (max least deepest, bs, rest)
    | some d =>
      let indent := least + d - 1
      let (bs, rest) := indentedBreaks indent rest
      (indent, bs, rest)
  if ((here rest).column : Int) = indent ∧ first rest ≠ endMark then
    return blockFrom fold header.keep indent rest.length breaks rest
  else
    return (if header.keep = some true then breaks else [], rest)

end CommandScript.Yaml
