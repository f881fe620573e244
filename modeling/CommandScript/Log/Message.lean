import CommandScript.Number.Rounded
import CommandScript.Value.Conversion
import CommandScript.Value.Table

/-!
# Messages with places

A message may have places for arguments. A place begins with a percent sign and ends with a letter
that says how its argument is written; in between may stand the name of the argument and how the
text is laid out. Two percent signs stand for one.

## Main definitions

- `CommandScript.Log.Place` — a place for an argument
- `CommandScript.Log.parts?` — the characters and the places of a message
- `CommandScript.Log.Layout.write?` — an argument as a place shows it
- `CommandScript.Log.fill` — a message with its arguments

## Design notes

A message and arguments that do not fit give nothing, whatever is wrong with them.
-/

namespace CommandScript.Log

/-- A number in a place, which is written there or is an argument of its own. -/
inductive Measure where
  | given (n : Nat)
  | asked
  deriving DecidableEq, Repr

/-- A place for an argument. -/
structure Place where
  name? : Option (List Char)
  flags : List Char
  width? : Option Measure
  precision? : Option Measure
  letter : Char
  deriving DecidableEq, Repr

/-- The name in front of a closing parenthesis, and what follows it. Inside of a name parentheses
come in pairs, of which `depth` are open. -/
def nameBefore? (depth : Nat) : List Char → Option (List Char × List Char)
  | [] => none
  | c :: cs =>
    if c = ')' ∧ depth = 0 then some ([], cs)
    else
      let depth := if c = '(' then depth + 1 else if c = ')' then depth - 1 else depth
      (nameBefore? depth cs).map fun p => (c :: p.1, p.2)

/-- The number at the front of a text, if there is one, and the rest. -/
def measureAt (cs : List Char) : Option Measure × List Char :=
  match cs with
  | '*' :: rest => (some .asked, rest)
  | cs =>
    let digits := cs.takeWhile Char.isDigit
    (if digits.isEmpty then none else some (.given (Numeral.digitsValue 0 digits)),
      cs.drop digits.length)

/-- The number after a point at the front of a text, if there is a point, and the rest. -/
def precisionAt (cs : List Char) : Option Measure × List Char :=
  match cs with
  | '.' :: rest =>
    let (measure?, rest) := measureAt rest
    (some (measure?.getD (.given 0)), rest)
  | cs => (none, cs)

/-- The characters that say how a text is laid out. -/
def flagChars : List Char := ['-', '+', ' ', '#', '0']

/-- Letters that may stand before the last letter of a place and mean nothing. -/
def silentLetters : List Char := ['h', 'l', 'L']

/-- The place after a percent sign, and the rest of the text. -/
def placeAt? (cs : List Char) : Option (Place × List Char) := do
  let (name?, cs) ← match cs with
    | '(' :: rest => (nameBefore? 0 rest).map fun p => (some p.1, p.2)
    | cs => some (none, cs)
  let flags := cs.takeWhile flagChars.contains
  let (width?, cs) := measureAt (cs.drop flags.length)
  let (precision?, cs) := precisionAt cs
  let cs := if cs.head?.any silentLetters.contains then cs.drop 1 else cs
  match cs with
  | letter :: rest => some (⟨name?, flags, width?, precision?, letter⟩, rest)
  | [] => none

/-- A part of a message. -/
inductive Part where
  | char (c : Char)
  | place (p : Place)
  deriving DecidableEq, Repr

/-- The parts of a text, at most `fuel` of them. -/
def partsWithin? : (fuel : Nat) → List Char → Option (List Part)
  | _, [] => some []
  | 0, _ => none
  | f + 1, '%' :: '%' :: cs => (partsWithin? f cs).map (.char '%' :: ·)
  | f + 1, '%' :: cs => do
    let (p, rest) ← placeAt? cs
    return .place p :: (← partsWithin? f rest)
  | f + 1, c :: cs => (partsWithin? f cs).map (.char c :: ·)

/-- The characters and the places of a message. -/
def parts? (cs : List Char) : Option (List Part) := partsWithin? cs.length cs

/-- How the text of an argument is laid out. -/
structure Layout where
  /-- Whether the text stands at the left end of its width. -/
  left : Bool
  /-- Whether a number that is not negative has a plus sign. -/
  plus : Bool
  /-- Whether a number that is not negative has a blank in place of a sign. -/
  blank : Bool
  /-- Whether a number shows its base, or its point. -/
  full : Bool
  /-- Whether a number is filled up with zeros. -/
  zeros : Bool
  width : Nat
  precision? : Option Nat
  deriving DecidableEq, Repr

namespace Layout

/-- A text in the middle of its width. What is in `head` stands before zeros that fill the width,
and after blanks that do. -/
def place (l : Layout) (zeros : Bool) (head body : List Char) : List Char :=
  let missing := l.width - (head.length + body.length)
  if l.left then head ++ body ++ List.replicate missing ' '
  else if zeros then head ++ List.replicate missing '0' ++ body
  else List.replicate missing ' ' ++ head ++ body

/-- A text in its width, cut off after as many characters as the precision says. -/
def text (l : Layout) (cs : List Char) : List Char :=
  l.place false [] ((l.precision?.map cs.take).getD cs)

/-- A number in its width; `start` is what stands between the sign and the digits. -/
def number (l : Layout) (negative : Bool) (start digits : List Char) : List Char :=
  let sign := if negative then ['-'] else if l.plus then ['+'] else if l.blank then [' '] else []
  l.place l.zeros (sign ++ start) digits

/-- A whole number in a base, with as many digits as the precision says at the least. -/
def whole (l : Layout) (base : Nat) (start : List Char) (n : Int) : List Char :=
  let digits := Nat.toDigits base n.natAbs
  let missing := l.precision?.getD 0 - digits.length
  l.number (n < 0) (if l.full then start else []) (List.replicate missing '0' ++ digits)

/-- A double, with six digits unless the precision says otherwise. -/
def double (l : Layout) (form : RoundedForm) (x : Binary64) : List Char :=
  match x with
  | .nan => l.number false [] "nan".toList
  | .infinite s => l.number s [] "inf".toList
  | .finite s r => l.number s [] (form.render l.full (l.precision?.getD 6) r)

/-- A value as a number that has no fraction by itself. -/
def integer? : Value → Option Int
  | .bool b => some (if b then 1 else 0)
  | .int n => some n
  | .derivedInt n => some n
  | _ => none

/-- A value as a whole number; a double is cut off. -/
def integral? : Value → Option Int
  | .float x => x.toInt.toOption
  | v => integer? v

/-- A value as a double, if it is a number. -/
def real? : Value → Option Binary64
  | .float x => some x
  | v => (integer? v).bind Binary64.ofInt?

/-- A value as a single character, which may be given by its number. -/
def char? (v : Value) : Option Char :=
  match v.text?, integer? v with
  | some s, _ => if s.length = 1 then s.toList.head? else none
  | none, some n => if 0 ≤ n ∧ n.toNat.isValidChar then some (Char.ofNat n.toNat) else none
  | none, none => none

/-- The literal of a value in ASCII. -/
def asciiLiteral? (v : Value) : Option (List Char) :=
  v.literal?.map fun s =>
    s.toList.flatMap fun c => if c.toNat < 0x80 then [c] else Text.numberedChar c

/-- An argument as a place with the given letter shows it. -/
def write? (l : Layout) (letter : Char) (v : Value) : Option (List Char) :=
  let capitals := fun (cs : List Char) => cs.map Char.toUpper
  match letter with
  | 's' => v.plain?.map fun s => l.text s.toList
  | 'r' => v.literal?.map fun s => l.text s.toList
  | 'a' => (asciiLiteral? v).map l.text
  | 'c' => (char? v).map fun c => l.place false [] [c]
  | 'o' => (integer? v).map (l.whole 8 ['0', 'o'])
  | 'x' => (integer? v).map (l.whole 16 ['0', 'x'])
  | 'X' => (integer? v).map fun n => capitals (l.whole 16 ['0', 'x'] n)
  | 'f' => (real? v).map (l.double .positional)
  | 'F' => (real? v).map fun x => capitals (l.double .positional x)
  | 'e' => (real? v).map (l.double .scientific)
  | 'E' => (real? v).map fun x => capitals (l.double .scientific x)
  | 'g' => (real? v).map (l.double .general)
  | 'G' => (real? v).map fun x => capitals (l.double .general x)
  | c =>
    if c = 'd' ∨ c = 'i' ∨ c = 'u' then
      ((integral? v).filter fun n => !Numeral.exceedsLimit n).map (l.whole 10 [])
    else none

end Layout

/-- The arguments that are left. -/
structure Arguments where
  items : List Value
  /-- The entries of the only argument, if that is a mapping. -/
  entries? : Option (List (Value × Value))

namespace Arguments

/-- The arguments of a message. A mapping that is the only one also gives its entries by name. -/
def ofList (vs : List Value) : Arguments :=
  match vs with
  | [v] => ⟨vs, v.entries?.filter fun es => !es.isEmpty⟩
  | vs => ⟨vs, none⟩

/-- The next argument, and the arguments after it. -/
def next? (a : Arguments) : Option (Value × Arguments) :=
  match a.items with
  | v :: vs => some (v, { a with items := vs })
  | [] => none

/-- The arguments of a place, which has only one if it names that. -/
def named? (a : Arguments) : Option (List Char) → Option Arguments
  | none => some a
  | some name => do
    let v ← Value.lookupText? (← a.entries?) (String.ofList name)
    return { a with items := [v] }

/-- The number that a place asks for, and the arguments after it. -/
def measure? (a : Arguments) : Option Measure → Option (Option Int × Arguments)
  | none => some (none, a)
  | some (.given n) => some (some n, a)
  | some .asked => do
    let (v, a) ← a.next?
    return (some (← Layout.integer? v), a)

/-- Whether everything has been used that has to be. The argument that gives entries does not. -/
def isDone (a : Arguments) : Bool := a.items.isEmpty || a.entries?.isSome

end Arguments

/-- The greatest width and precision of a place. -/
def widest : Nat := 0x7fffffff

/-- A place filled with its argument, and the arguments after it. -/
def Place.fill (p : Place) (a : Arguments) : Option (List Char × Arguments) := do
  let a ← a.named? p.name?
  let (width?, a) ← a.measure? p.width?
  let (precision?, a) ← a.measure? p.precision?
  let width := width?.getD 0
  if widest < width.natAbs ∨ precision?.any (widest < ·.natAbs) then none
  else
    let (v, a) ← a.next?
    let has := p.flags.contains
    let layout : Layout :=
      ⟨has '-' || width < 0, has '+', has ' ', has '#', has '0', width.natAbs,
        precision?.map Int.toNat⟩
    return (← layout.write? p.letter v, a)

/-- The parts of a message with arguments put in their places. -/
def fillParts (a : Arguments) : List Part → Option (List Char)
  | [] => if a.isDone then some [] else none
  | .char c :: ps => (fillParts a ps).map (c :: ·)
  | .place p :: ps => do
    let (cs, a) ← p.fill a
    return cs ++ (← fillParts a ps)

/-- A message with its arguments. A message without arguments has no places. -/
def fill (message : String) (arguments : List Value) : Option String :=
  if arguments.isEmpty then some message
  else do
    let parts ← parts? message.toList
    return String.ofList (← fillParts (.ofList arguments) parts)

end CommandScript.Log
