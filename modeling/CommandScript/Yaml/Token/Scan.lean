import CommandScript.Yaml.Token.Name
import CommandScript.Yaml.Token.Scalar

/-!
# Cutting YAML into tokens

The tokens of a YAML text. A reader of the text cannot know that a scalar is a key before it meets
the colon after it; so the places where a key may have begun are remembered, one for each depth of
brackets, and the token of the key is put in later.

## Main definitions

- `CommandScript.Yaml.Scan` — what is known while a text is cut
- `CommandScript.Yaml.tokens` — the tokens of a text
-/

namespace CommandScript.Yaml

/-- A place where a key on one line may have begun. -/
structure KeyStart where
  /-- The number of tokens before the key. -/
  position : Nat
  /-- Whether nothing but a key can begin there. -/
  required : Bool
  spot : Spot

/-- What is known while a text is cut: the tokens so far (backwards) and their number, the
indentations of the open block collections, the depth of brackets, whether a key may begin here, and
where keys may have begun (by depth). -/
structure Scan where
  done : List Token
  count : Nat
  indent : Int
  outer : List Int
  depth : Nat
  keyAllowed : Bool
  keys : List (Nat × KeyStart)

namespace Scan

/-- The state before a text. -/
def start : Scan := ⟨[], 0, -1, [], 0, true, []⟩

/-- A token at the end. -/
def push (s : Scan) (t : Token) : Scan := { s with done := t :: s.done, count := s.count + 1 }

/-- A token after the first `position` ones. -/
def insertAt (s : Scan) (position : Nat) (t : Token) : Scan :=
  let later := s.count - position
  { s with done := s.done.take later ++ t :: s.done.drop later, count := s.count + 1 }

/-- Keys that can no longer be one, because the line has ended or the key is too long, are
forgotten; it is a fault where nothing else could stand there. -/
def dropStale (s : Scan) (now : Spot) : Except ReadError Scan :=
  let isStale (k : KeyStart) : Bool := k.spot.line ≠ now.line || 1024 < now.index - k.spot.index
  if s.keys.any fun k => isStale k.2 && k.2.required then .error .malformed
  else .ok { s with keys := s.keys.filter fun k => !isStale k.2 }

/-- The key that may have begun at the current depth of brackets. -/
def key? (s : Scan) : Option KeyStart := s.keys.lookup s.depth

/-- The key at the current depth is forgotten. -/
def forgetKey (s : Scan) : Except ReadError Scan :=
  match s.key? with
  | some k =>
    if k.required then .error .malformed
    else .ok { s with keys := s.keys.filter (·.1 ≠ s.depth) }
  | none => .ok s

/-- A key may begin at a spot. -/
def rememberKey (s : Scan) (now : Spot) : Except ReadError Scan :=
  if s.keyAllowed then do
    let required := s.depth = 0 && s.indent = now.column
    let s ← s.forgetKey
    return { s with keys := (s.depth, ⟨s.count, required, now⟩) :: s.keys }
  else .ok s

/-- Block collections indented by more than `column` are closed; `stack` holds the indentations
around them. -/
def closeFrom (column : Int) (s : Scan) : (stack : List Int) → Scan
  | [] => { s with outer := [] }
  | i :: stack =>
    if column < s.indent then closeFrom column { s.push .blockEnd with indent := i } stack
    else { s with outer := i :: stack }

/-- Block collections indented by more than `column` are closed. -/
def closeBlocks (s : Scan) (column : Int) : Scan :=
  if s.depth = 0 then closeFrom column s s.outer else s

/-- Opens a block collection at a column where it is deeper than the current one; `place` puts its
token. -/
def openBlock (s : Scan) (column : Nat) (place : Scan → Scan) : Scan :=
  if s.indent < column then
    let s := place s
    { s with indent := column, outer := s.indent :: s.outer }
  else s

/-- Whether a key may begin after what comes next. -/
def allowKey (s : Scan) (b : Bool) : Scan := { s with keyAllowed := b }

end Scan

/-- A separator of documents. -/
def scanSeparator (s : Scan) (t : Token) (ss : List Spot) :
    Except ReadError (Scan × List Spot) := do
  let s ← (s.closeBlocks (-1)).forgetKey
  return ((s.allowKey false).push t, ss.drop 3)

/-- A bracket that opens a collection. -/
def scanOpening (s : Scan) (t : Token) (ss : List Spot) : Except ReadError (Scan × List Spot) := do
  let s ← s.rememberKey (here ss)
  return ({ (s.push t).allowKey true with depth := s.depth + 1 }, ss.drop 1)

/-- A bracket that closes a collection. -/
def scanClosing (s : Scan) (t : Token) (ss : List Spot) : Except ReadError (Scan × List Spot) := do
  let s ← s.forgetKey
  if s.depth = 0 then .error .malformed
  else return ({ (s.push t).allowKey false with depth := s.depth - 1 }, ss.drop 1)

/-- The hyphen before an item. -/
def scanItem (s : Scan) (ss : List Spot) : Except ReadError (Scan × List Spot) := do
  if s.depth = 0 && !s.keyAllowed then .error .malformed
  else
    let s := if s.depth = 0 then s.openBlock (here ss).column (·.push .blockSequence) else s
    let s ← (s.allowKey true).forgetKey
    return (s.push .blockEntry, ss.drop 1)

/-- The question mark before a key. -/
def scanKey (s : Scan) (ss : List Spot) : Except ReadError (Scan × List Spot) := do
  if s.depth = 0 && !s.keyAllowed then .error .malformed
  else
    let s := if s.depth = 0 then s.openBlock (here ss).column (·.push .blockMapping) else s
    let s ← (s.allowKey (s.depth = 0)).forgetKey
    return (s.push .key, ss.drop 1)

/-- The colon before a value. -/
def scanValue (s : Scan) (ss : List Spot) : Except ReadError (Scan × List Spot) :=
  match s.key? with
  | some k =>
    -- What was read since was a key: its token, and that of its mapping, go in front of it.
    let s := { s with keys := s.keys.filter (·.1 ≠ s.depth) }
    let s := s.insertAt k.position .key
    let s :=
      if s.depth = 0 then s.openBlock k.spot.column (·.insertAt k.position .blockMapping) else s
    .ok ((s.allowKey false).push .value, ss.drop 1)
  | none =>
    -- A colon without a key in front stands for an entry with an empty one.
    if s.depth = 0 && !s.keyAllowed then .error .malformed
    else do
      let s := if s.depth = 0 then s.openBlock (here ss).column (·.push .blockMapping) else s
      let s ← (s.allowKey (s.depth = 0)).forgetKey
      return (s.push .value, ss.drop 1)

/-- The comma between the parts of a collection in brackets. -/
def scanComma (s : Scan) (ss : List Spot) : Except ReadError (Scan × List Spot) := do
  let s ← (s.allowKey true).forgetKey
  return (s.push .flowEntry, ss.drop 1)

/-- A token that may be the start of a key. -/
def scanNode (s : Scan) (ss : List Spot)
    (read : List Spot → Except ReadError (Token × List Spot)) :
    Except ReadError (Scan × List Spot) := do
  let s ← s.rememberKey (here ss)
  let (t, rest) ← read ss
  return ((s.allowKey false).push t, rest)

/-- A plain scalar. -/
def scanPlain (s : Scan) (ss : List Spot) : Except ReadError (Scan × List Spot) := do
  let s ← s.rememberKey (here ss)
  let (text, broken, rest) := readPlain (s.depth ≠ 0) (s.indent + 1) ss
  return ((s.allowKey broken).push (.scalar text true), rest)

/-- A block scalar. -/
def scanBlock (s : Scan) (fold : Bool) (ss : List Spot) : Except ReadError (Scan × List Spot) := do
  let s ← (s.allowKey true).forgetKey
  let (text, rest) ← readBlock fold s.indent (ss.drop 1)
  return (s.push (.scalar text false), rest)

/-- Whether a plain scalar may start with a character, given the one after it. -/
def startsPlain (inFlow : Bool) (c next : Char) : Bool :=
  !(endsWord c || "-?:,[]\x7b\x7d#&*!|>'\"%@`".toList.contains c)
    || (!endsWord next && (c = '-' || (!inFlow && (c = '?' || c = ':'))))

/-- The next token of spots that do not start with a gap. -/
def scanToken (s : Scan) (ss : List Spot) : Except ReadError (Scan × List Spot) :=
  let c := first ss
  let next := first (ss.drop 1)
  let inFlow : Bool := s.depth ≠ 0
  let lineStart : Bool := (here ss).column = 0
  if c = '%' && lineStart then do
    let s ← (s.closeBlocks (-1)).forgetKey
    let (t, rest) ← readDirective (ss.drop 1)
    return ((s.allowKey false).push t, rest)
  else if lineStart && isSeparator '-' ss then scanSeparator s .documentStart ss
  else if lineStart && isSeparator '.' ss then scanSeparator s .documentEnd ss
  else if c = '[' then scanOpening s .openSequence ss
  else if c = '\x7b' then scanOpening s .openMapping ss
  else if c = ']' then scanClosing s .closeSequence ss
  else if c = '\x7d' then scanClosing s .closeMapping ss
  else if c = ',' then scanComma s ss
  else if c = '-' && endsWord next then scanItem s ss
  else if c = '?' && (inFlow || endsWord next) then scanKey s ss
  else if c = ':' && (inFlow || endsWord next) then scanValue s ss
  else if c = '*' then
    scanNode s ss fun ss => (readAnchorName (ss.drop 1)).map fun p => (.alias p.1, p.2)
  else if c = '&' then
    scanNode s ss fun ss => (readAnchorName (ss.drop 1)).map fun p => (.anchor p.1, p.2)
  else if c = '!' then scanNode s ss readTag
  else if c = '|' && !inFlow then scanBlock s false ss
  else if c = '>' && !inFlow then scanBlock s true ss
  else if c = '\'' || c = '"' then
    scanNode s ss fun ss =>
      (readQuoted (c = '"') (ss.drop 1)).map fun p => (.scalar p.1 false, p.2)
  else if startsPlain inFlow c next then scanPlain s ss
  else .error .malformed

/-- The tokens of the spots that are left, up to a fault; each step reads at least one spot. -/
def scanFrom : (fuel : Nat) → Scan → List Spot → Scan
  | 0, s, _ => s.push (.bad .malformed)
  | f + 1, s, ss =>
    let (broken, ss) := skipGaps false false ss
    -- Outside of brackets a new line may begin with a key.
    let s := if broken && s.depth = 0 then s.allowKey true else s
    match s.dropStale (here ss) with
    | .error e => s.push (.bad e)
    | .ok s =>
      let s := s.closeBlocks (here ss).column
      if first ss = endMark then
        match (s.closeBlocks (-1)).forgetKey with
        | .ok s => s.push .textEnd
        | .error e => s.push (.bad e)
      else
        match scanToken s ss with
        | .ok (s, rest) => scanFrom f s rest
        | .error e => s.push (.bad e)

/-- The tokens of a text, the last of them its end or a fault. -/
def tokens (cs : List Char) : List Token :=
  if isReadable cs then
    let ss := spots cs
    let ss := if first ss = '\uFEFF' then ss.drop 1 else ss
    (scanFrom (ss.length + 1) Scan.start ss).done.reverse
  else [.bad .malformed]

end CommandScript.Yaml
