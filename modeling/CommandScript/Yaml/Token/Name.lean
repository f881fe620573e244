import CommandScript.Json.Token
import CommandScript.Yaml.Token.Basic

/-!
# Names, tags and directives of YAML

## Main definitions

- `CommandScript.Yaml.readAnchorName` — the name of an anchor or alias
- `CommandScript.Yaml.readTag` — a tag
- `CommandScript.Yaml.readDirective` — a directive
-/

namespace CommandScript.Yaml

/-- Whether a character may be part of an anchor, a handle or the name of a directive. -/
def isWordChar (c : Char) : Bool := c.isAlphanum || c = '-' || c = '_'

/-- Whether a character may be part of a tag. -/
def isTagChar (c : Char) : Bool :=
  c.isAlphanum || "-;/?:@&=+$,_.!~*'()[]%".toList.contains c

/-- The longest run of spots at the front whose characters are in `p`, and the rest. -/
def spanChars (p : Char → Bool) (ss : List Spot) : List Char × List Spot :=
  (chars (ss.takeWhile fun s => p s.char), ss.dropWhile fun s => p s.char)

/-- Spots after the spaces at their front. -/
def skipSpaces (ss : List Spot) : List Spot := ss.dropWhile (·.char = ' ')

/-- The name of an anchor or alias, after its indicator. -/
def readAnchorName (ss : List Spot) : Except ReadError (List Char × List Spot) :=
  let (name, rest) := spanChars isWordChar ss
  let after := first rest
  if name.isEmpty then .error .malformed
  else if endsWord after || "?:,]\x7d%@`".toList.contains after then .ok (name, rest)
  else .error .malformed

/-- The bytes of the percent escapes at the front of spots, and the rest; an escape of less than two
digits is refused. -/
def percentBytes : List Spot → Option (List UInt8 × List Spot)
  | p :: a :: b :: ss =>
    if p.char = '%' then
      match Json.hexValue? a.char, Json.hexValue? b.char with
      | some x, some y => (percentBytes ss).map fun r => (UInt8.ofNat (x * 16 + y) :: r.1, r.2)
      | _, _ => none
    else some ([], p :: a :: b :: ss)
  | ss => if first ss = '%' then none else some ([], ss)

/-- The text of percent escapes at the front of spots. -/
def readPercent (ss : List Spot) : Except ReadError (List Char × List Spot) :=
  match percentBytes ss with
  | none => .error .malformed
  | some (bytes, rest) =>
    match Text.Utf8.decode bytes with
    | .ok cs => .ok (cs, rest)
    | .error _ => .error .malformed

/-- The characters of a tag, with at most `fuel` runs of them. -/
def readTagChars : (fuel : Nat) → List Spot → Except ReadError (List Char × List Spot)
  | 0, ss => .ok ([], ss)
  | f + 1, ss =>
    if first ss = '%' then do
      let (cs, rest) ← readPercent ss
      let (ds, rest) ← readTagChars f rest
      return (cs ++ ds, rest)
    else if isTagChar (first ss) then do
      let (cs, rest) := spanChars (fun c => isTagChar c && c ≠ '%') ss
      let (ds, rest) ← readTagChars f rest
      return (cs ++ ds, rest)
    else .ok ([], ss)

/-- The characters of a tag, of which there is at least one. -/
def readTagText (ss : List Spot) : Except ReadError (List Char × List Spot) := do
  if isTagChar (first ss) then readTagChars ss.length ss else .error .malformed

/-- A handle: an exclamation mark, or a word between two. -/
def readHandle (ss : List Spot) : Except ReadError (List Char × List Spot) :=
  if first ss ≠ '!' then .error .malformed
  else
    let rest := ss.drop 1
    if first rest = ' ' then .ok (['!'], rest)
    else
      let (word, rest) := spanChars isWordChar rest
      if first rest = '!' then .ok ('!' :: word ++ ['!'], rest.drop 1) else .error .malformed

/-- The parts of a tag, its first exclamation mark at the front. -/
def readTagParts (ss : List Spot) :
    Except ReadError ((Option (List Char) × List Char) × List Spot) :=
  let next := first (ss.drop 1)
  if next = '<' then do
    let (suffix, rest) ← readTagText (ss.drop 2)
    if first rest = '>' then return ((none, suffix), rest.drop 1) else .error .malformed
  else if endsWord next then .ok ((none, ['!']), ss.drop 1)
  else do
    let word := (ss.drop 1).takeWhile fun s => !(s.char = ' ' || endsLine s.char)
    let (handle, rest) ← if word.any (·.char = '!') then readHandle ss else .ok (['!'], ss.drop 1)
    let (suffix, rest) ← readTagText rest
    return ((some handle, suffix), rest)

/-- A tag, its first exclamation mark at the front. -/
def readTag (ss : List Spot) : Except ReadError (Token × List Spot) := do
  let ((handle, suffix), rest) ← readTagParts ss
  if first rest = ' ' ∨ endsLine (first rest) then return (.tag handle suffix, rest)
  else .error .malformed

/-- A number of a version, which is a whole number like any other and has its limit. -/
def readVersionPart (ss : List Spot) : Except ReadError (Nat × List Spot) :=
  let (ds, rest) := spanChars Char.isDigit ss
  if ds.isEmpty then .error .malformed
  else if Numeral.digitLimit < ds.length then
    .error (.conversion (.tooManyDigits ds.length))
  else .ok (Numeral.digitsValue 0 ds, rest)

/-- The content of a directive, after its name. -/
def readDirectiveBody (name : List Char) (ss : List Spot) :
    Except ReadError (Directive × List Spot) :=
  let isEnd (c : Char) : Bool := c = ' ' || endsLine c
  if name = "YAML".toList then do
    let (major, rest) ← readVersionPart (skipSpaces ss)
    if first rest ≠ '.' then .error .malformed
    else
      let (_, rest) ← readVersionPart (rest.drop 1)
      if isEnd (first rest) then return (.version major, rest) else .error .malformed
  else if name = "TAG".toList then do
    let (handle, rest) ← readHandle (skipSpaces ss)
    if first rest ≠ ' ' then .error .malformed
    else
      let (leading, rest) ← readTagText (skipSpaces rest)
      if isEnd (first rest) then return (.tag handle leading, rest) else .error .malformed
  else .ok (.other, ss.dropWhile fun s => !endsLine s.char)

/-- A directive, after its percent sign. -/
def readDirective (ss : List Spot) : Except ReadError (Token × List Spot) := do
  let (name, rest) := spanChars isWordChar ss
  if name.isEmpty || !(first rest = ' ' || endsLine (first rest)) then .error .malformed
  else
    let (d, rest) ← readDirectiveBody name rest
    match restOfLine? rest with
    | some rest => return (.directive d, rest)
    | none => .error .malformed

end CommandScript.Yaml
