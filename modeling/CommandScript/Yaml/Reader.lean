import CommandScript.Text.Base64
import CommandScript.Text.Case
import CommandScript.Value.Table
import CommandScript.Yaml.Node

/-!
# Reading YAML

The value that a YAML text denotes. Each tag of the standard schema has a rule for the value of its
nodes; other tags have none.

## Main definitions

- `CommandScript.Yaml.intOf`, `floatOf`, `truthOf`, `timestampOf` — the values of tagged scalars
- `CommandScript.Yaml.valueOf` — the value of a node
- `CommandScript.Yaml.read` — the value of a text

## Design notes

Entries merged into a mapping come before its own entries, and its own entries win.

The tokens, nodes and values of a text are those of one loader among others, which is assumed to be
the one that documents are written for. No general statement rests on that: whatever is said of what
is read is said of every `Loader`, and this one reads only the fixed texts by which such statements
are shown to apply. It falls short of other loaders where a collection is part of itself, for which
it has no value.
-/

namespace CommandScript.Yaml

/-- The value of a digit in bases up to sixteen. -/
def baseDigit? (base : Nat) (c : Char) : Option Nat :=
  ((Text.digitValue? c).or (Json.hexValue? c)).filter (· < base)

/-- The number that digits in a base denote after the digits of `acc`. -/
def baseNumber? (base acc : Nat) : List Char → Option Nat
  | [] => some acc
  | c :: cs => (baseDigit? base c).bind fun d => baseNumber? base (acc * base + d) cs

/-- A text without the mark of its base in front. -/
def dropBaseMark (base : Nat) (cs : List Char) : List Char :=
  match cs with
  | '0' :: c :: rest =>
    let mark := c.toLower
    if (base = 2 ∧ mark = 'b') ∨ (base = 8 ∧ mark = 'o') ∨ (base = 16 ∧ mark = 'x') then rest
    else cs
  | _ => cs

/-- The whole number that a text denotes in base two, eight or sixteen. -/
def intInBase (base : Nat) (cs : List Char) : Except ReadError Int :=
  let (negative, body) := Numeral.splitSign (Text.withoutMargin cs)
  let ds := dropBaseMark base body
  match baseNumber? base 0 ds with
  | some n =>
    if ds.isEmpty then
      .error (.conversion (.noInteger base (Text.quoted (String.ofList cs))))
    else .ok (Numeral.signed negative n)
  | none => .error (.conversion (.noInteger base (Text.quoted (String.ofList cs))))

/-- The decimal whole number that a text denotes. -/
def decimalInt (cs : List Char) : Except ReadError Int :=
  (Numeral.toInt cs (Text.quoted (String.ofList cs))).mapError .conversion

/-- The decimal double that a text denotes. -/
def decimalFloat (cs : List Char) : Except ReadError Binary64 :=
  (Numeral.toFloat cs (Text.quoted (String.ofList cs))).mapError .conversion

/-- The whole number that parts denote as digits of base sixty, after the digits of `acc`. -/
def sixtyInt (acc : Int) : List (List Char) → Except ReadError Int
  | [] => .ok acc
  | p :: ps => do
    let d ← decimalInt p
    sixtyInt (acc * 60 + d) ps

/-- The values of parts as doubles. -/
def floatParts : List (List Char) → Except ReadError (List Binary64)
  | [] => .ok []
  | p :: ps => do
    let x ← decimalFloat p
    return x :: (← floatParts ps)

/-- The sum of doubles, the last of them first, times the powers of sixty from `base` on. -/
def sixtySum (base : Nat) (acc : Binary64) : List Binary64 → Except ReadError Binary64
  | [] => .ok acc
  | x :: xs => do
    let b ← (Binary64.ofInt base).mapError .conversion
    sixtySum (base * 60) (acc.add (x.mul b)) xs

/-- The whole number that a text without sign and underscores denotes. -/
def magnitude (body : List Char) : Except ReadError Int :=
  match body with
  -- The bases are told apart by what the numeral begins with.
  | [] => .error .emptyNumber
  | ['0'] => .ok 0
  | '0' :: 'b' :: ds => intInBase 2 ds
  | '0' :: 'x' :: ds => intInBase 16 ds
  | '0' :: _ => intInBase 8 body
  | _ => if body.contains ':' then sixtyInt 0 (Text.splitAt ':' body) else decimalInt body

/-- The number that a text tagged as a whole number denotes. -/
def intOf (text : List Char) : Except ReadError Int := do
  let cs := text.filter (· ≠ '_')
  let negative := cs.head? = some '-'
  let n ← magnitude (dropSign cs)
  return if negative then -n else n

/-- The double that a text without sign and underscores denotes. -/
def floatMagnitude (body : List Char) : Except ReadError Binary64 :=
  if body = ".inf".toList then .ok (.infinite false)
  else if body = ".nan".toList then .ok .nan
  else if body.contains ':' then do
    let parts ← floatParts (Text.splitAt ':' body)
    sixtySum 1 Binary64.zero parts.reverse
  else decimalFloat body

/-- The double that a text tagged as one denotes. -/
def floatOf (text : List Char) : Except ReadError Binary64 := do
  let cs := Text.lower (text.filter (· ≠ '_'))
  let negative := cs.head? = some '-'
  let x ← if cs.isEmpty then .error .emptyNumber else floatMagnitude (dropSign cs)
  return if negative then x.neg else x

/-- The truth value that a text tagged as one denotes. -/
def truthOf (text : List Char) : Except ReadError Bool :=
  let word := String.ofList (Text.lower text)
  match truthWords.lookup word with
  | some b => .ok b
  | none => .error (.noTruthValue word)

/-- The value of a text tagged as a timestamp. -/
def timestampOf (text : List Char) : Except ReadError Value :=
  match Timestamp.read? (dropFinalBreak text) with
  | some t => t.value.mapError .calendar
  | none => .error .noTimestamp

/-- The bytes of a text tagged as bytes. -/
def bytesOf (text : List Char) : Except ReadError Value :=
  if text.all (·.toNat < 0x80) then
    match Text.Base64.decode? text with
    | some bs => .ok (.bytes bs)
    | none => .error .malformed
  else .error .malformed

/-- The value of a text with a tag of the standard schema. -/
def scalarOf (tag : String) (text : List Char) : Except ReadError Value :=
  if tag = standardTag "str" then .ok (.text (String.ofList text))
  else if tag = standardTag "null" then .ok .null
  else if tag = standardTag "bool" then (truthOf text).map .bool
  else if tag = standardTag "int" then (intOf text).map .int
  else if tag = standardTag "float" then (floatOf text).map .float
  else if tag = standardTag "timestamp" then timestampOf text
  else if tag = standardTag "binary" then bytesOf text
  else .error .malformed

/-- The text of a mapping that stands for a text: that of its default entry. -/
def defaultText? : List (Node × Node) → Option (List Char)
  | [] => none
  | (k, v) :: rest =>
    if k.tag = standardTag "value" then
      match v with
      | .scalar _ text => some text
      | .mapping _ entries => defaultText? entries
      | .sequence .. => none
    else defaultText? rest

/-- The value of a key: a default mark is a text. -/
def keyTag (tag : String) : String :=
  if tag = standardTag "value" then standardTag "str" else tag

/-- A key must be a value that can be one. -/
def checkedKey (v : Value) : Except ReadError Value :=
  if v.isHashable then .ok v else .error .malformed

/-- Whether a key is what is not a number. -/
def isNoNumber (key : Value) : Bool :=
  match key with
  | .float .nan => true
  | _ => false

/-- Entries in which what is not a number is one key, although it equals no key: the first has the
value of the last. -/
def uniteNoNumbers (es : List (Value × Value)) : List (Value × Value) :=
  match es.reverse.find? fun e => isNoNumber e.1 with
  | none => es
  | some last =>
    let others := es.dropWhile fun e => !isNoNumber e.1
    es.takeWhile (fun e => !isNoNumber e.1) ++ last :: others.filter fun e => !isNoNumber e.1

mutual

/-- The value of a node. -/
def valueOf : Node → Except ReadError Value
  | .scalar tag text => scalarOf tag text
  | .sequence tag items =>
    if tag = standardTag "seq" then (itemValues items).map .list
    else if tag = standardTag "omap" ∨ tag = standardTag "pairs" then (pairValues items).map .list
    else .error .malformed
  | .mapping tag entries =>
    if tag = standardTag "map" then
      (entryValues entries).map fun p => .map (Value.ofEntries (uniteNoNumbers (p.1 ++ p.2)))
    else if tag = standardTag "set" then
      (entryValues entries).map fun p =>
        .set (Value.ofItems ((uniteNoNumbers (p.1 ++ p.2)).map (·.1)))
    else
      -- A mapping under the tag of a scalar stands for its default entry, but not for a point in
      -- time.
      match defaultText? entries with
      | some text =>
        if tag = standardTag "timestamp" then .error .noTimestampText else scalarOf tag text
      | none => .error .malformed

/-- The values of nodes. -/
def itemValues : List Node → Except ReadError (List Value)
  | [] => .ok []
  | n :: ns => do
    let v ← valueOf n
    return v :: (← itemValues ns)

/-- The pairs of nodes that are mappings of one entry each. -/
def pairValues : List Node → Except ReadError (List Value)
  | [] => .ok []
  | n :: ns => do
    let v ← pairValue n
    return v :: (← pairValues ns)

/-- The pair of a node that is a mapping of one entry. -/
def pairValue : Node → Except ReadError Value
  | .mapping _ [(k, v)] => do
    let a ← valueOf k
    let b ← valueOf v
    return .tuple [a, b]
  | _ => .error .malformed

/-- The value of a node as a key. -/
def keyValue : Node → Except ReadError Value
  | .scalar tag text => do checkedKey (← scalarOf (keyTag tag) text)
  | .sequence tag items => do checkedKey (← valueOf (.sequence tag items))
  | .mapping tag entries => do checkedKey (← valueOf (.mapping tag entries))

/-- The entries that a mapping takes over from others, and its own. -/
def entryValues :
    List (Node × Node) → Except ReadError (List (Value × Value) × List (Value × Value))
  | [] => .ok ([], [])
  | (k, v) :: rest => do
    if k.tag = standardTag "merge" then
      let taken ← mergedEntries v
      let (others, own) ← entryValues rest
      return (taken ++ others, own)
    else
      let a ← keyValue k
      let b ← valueOf v
      let (others, own) ← entryValues rest
      return (others, (a, b) :: own)

/-- The entries that a mapping takes over from a node: a mapping, or mappings of which the earlier
win. -/
def mergedEntries : Node → Except ReadError (List (Value × Value))
  | .mapping _ entries => (entryValues entries).map fun p => p.1 ++ p.2
  | .sequence _ items => mergedLists items
  | .scalar .. => .error .malformed

/-- The entries of mappings, those of the later ones in front. -/
def mergedLists : List Node → Except ReadError (List (Value × Value))
  | [] => .ok []
  | n :: ns => do
    let es ← mappingEntries n
    return (← mergedLists ns) ++ es

/-- The entries of a node that is a mapping. -/
def mappingEntries : Node → Except ReadError (List (Value × Value))
  | .mapping _ entries => (entryValues entries).map fun p => p.1 ++ p.2
  | _ => .error .malformed

end

/-- The value of a text; an empty text has the value null. -/
def read (cs : List Char) : Except ReadError Value := do
  match ← document cs with
  | some n => valueOf n
  | none => return .null

theorem read_of_document {cs : List Char} {n : Node} (describes : document cs = .ok (some n)) :
    read cs = valueOf n := by
  rw [read, describes]
  rfl

/-- The loader that is used where no other is given. -/
instance : Loader := ⟨read⟩

end CommandScript.Yaml
