import CommandScript.Text.Case
import CommandScript.Text.CharClass
import CommandScript.Text.Split
import CommandScript.Text.Utf8
import CommandScript.Value.Conversion

/-!
# Settings

What the one who runs command strings decides for all of them. Settings are read leniently from
values: a truth value may also be a number or a word, a number may also be a text or a whole double,
and names may also be given as one text with commas.

## Main definitions

- `CommandScript.Settings` — the settings
- `CommandScript.Settings.usual` — the settings where nothing is decided
- `CommandScript.Settings.FaultKind`, `CommandScript.Settings.Fault` — what is wrong with a value
- `CommandScript.Settings.readTruth`, `readWhole`, `readNames` — reading a value
- `CommandScript.Settings.readDepth` — reading the limit on calls

## Design notes

Which values are read leniently, and the kinds of faults there are, are rules of what checks the
settings. They are assumed here: a statement about settings that are read is one about these rules.
-/

namespace CommandScript

/-- The settings of an interpreter. At least one call is always allowed. -/
structure Settings where
  /-- Whether diagnostics are put into the output; otherwise they are kept apart from it. -/
  textErrors : Bool
  /-- How many calls may be inside one another. -/
  maxDepth : Nat
  one_le_maxDepth : 1 ≤ maxDepth
  /-- The names of built-in functions that are left out. -/
  disabledFunctions : List String
  debug : Bool
  logJson : Bool

/-- The settings where nothing is decided. -/
def Settings.usual : Settings where
  textErrors := true
  maxDepth := 100
  one_le_maxDepth := by decide
  disabledFunctions := []
  debug := false
  logJson := false

namespace Settings

open Text

/-- What is wrong with a value. -/
inductive FaultKind where
  | noTruthType
  | noTruthWord
  | noWholeType
  | noWholeText
  | tooLong
  | fraction
  | notFinite
  | tooSmall
  | noNames
  | noName
  | noNameEncoding
  | unknownField
  | frozen
  deriving DecidableEq, Repr

/-- The word for what is wrong with a value. -/
def FaultKind.word : FaultKind → String
  | .noTruthType => "bool_type"
  | .noTruthWord => "bool_parsing"
  | .noWholeType => "int_type"
  | .noWholeText => "int_parsing"
  | .tooLong => "int_parsing_size"
  | .fraction => "int_from_float"
  | .notFinite => "finite_number"
  | .tooSmall => "greater_than_equal"
  | .noNames => "tuple_type"
  | .noName => "string_type"
  | .noNameEncoding => "string_unicode"
  | .unknownField => "extra_forbidden"
  | .frozen => "frozen_instance"

/-- What is wrong, and with which part of the settings. -/
structure Fault where
  location : List String
  kind : FaultKind
  deriving DecidableEq, Repr

/-- The words for no. -/
def wordsForNo : List String := ["0", "f", "n", "no", "off", "false"]

/-- The words for yes. -/
def wordsForYes : List String := ["1", "t", "y", "on", "yes", "true"]

/-- The truth value of a word in any letter case. -/
def truthOfWord (s : String) : Except FaultKind Bool :=
  let w := String.ofList (s.toList.map Char.toLower)
  if wordsForNo.contains w then .ok false
  else if wordsForYes.contains w then .ok true
  else .error .noTruthWord

/-- Whether a whole number fits in a signed word of 64 bits. -/
def fitsWord (n : Int) : Bool := -0x8000000000000000 ≤ n && n < 0x8000000000000000

/-- The truth value of a whole number, which has to fit in a word. -/
def truthOfInt (n : Int) : Except FaultKind Bool :=
  if !fitsWord n then .error .noTruthType
  else if n = 0 then .ok false
  else if n = 1 then .ok true
  else .error .noTruthWord

/-- The whole number that a finite double is, if it lies strictly between the bounds of a word;
otherwise a fault of one of two kinds. -/
def wholeOfFloat (unfit tooBig : FaultKind) (negative : Bool) (rank : Fin Binary64.finiteCount) :
    Except FaultKind Int :=
  let n := Binary64.truncated negative rank
  if !(Binary64.finite negative rank).isWhole then .error unfit
  else if fitsWord n && n ≠ -0x8000000000000000 then .ok n
  else .error tooBig

/-- Reads a truth value. -/
def readTruth (v : Value) : Except FaultKind Bool :=
  match v with
  | .bool b => .ok b
  | .text s => truthOfWord s
  | .derivedText s => truthOfWord s
  | .bytes bs =>
    match Utf8.decode bs with
    | .ok cs => truthOfWord (String.ofList cs)
    | .error _ => .error .noTruthWord
  | .int n => truthOfInt n
  | .derivedInt n => truthOfInt n
  | .float (.finite s r) => do truthOfInt (← wholeOfFloat .noTruthType .noTruthType s r)
  | _ => .error .noTruthType

/-- The whole number that a text is in plain form: an optional minus sign, then digits of which the
first is no zero, unless it is the only one. A long run of digits is too long whatever follows. -/
def plainWhole (cs : List Char) : Except FaultKind Int :=
  let body := if cs.head? = some '-' then cs.drop 1 else cs
  let digits := body.takeWhile Char.isDigit
  let sign := cs.length - body.length
  if digits = [] ∨ (digits.head? = some '0' ∧ digits.length ≠ 1) then .error .noWholeText
  else if Numeral.digitLimit < sign + digits.length then .error .tooLong
  else if digits.length < body.length then .error .noWholeText
  else .ok (Numeral.signed (sign = 1) (Numeral.digitsValue 0 digits))

/-- A numeral from its first digit on that is no zero, or from a minus sign on that stands after
zeros; underscores may stand among these. Of nothing but these the last is left, and before a point
one of them. `last` is the character before, which was a zero or an underscore. -/
def afterZeros? (last : Char) : List Char → Option (List Char)
  | [] => some [last]
  | c :: cs =>
    if c = '0' ∨ c = '_' then afterZeros? c cs
    else if c.isDigit ∨ c = '-' then some (c :: cs)
    else if c = '.' then some (last :: c :: cs)
    else none

/-- A numeral without zeros in front; it begins with a digit. -/
def withoutZeros? : List Char → Option (List Char)
  | [] => none
  | c :: cs =>
    if c = '0' then afterZeros? c cs
    else if c.isDigit then some (c :: cs)
    else none

/-- A numeral without a fraction, if that has digits and none but zeros. -/
def withoutFraction (cs : List Char) : List Char :=
  let whole := cs.takeWhile (· ≠ '.')
  let fraction := cs.drop (whole.length + 1)
  if !fraction.isEmpty && fraction.all (· = '0') then whole else cs

/-- Whether underscores stand one by one and inside a text. -/
def underscoresApart (cs : List Char) : Bool :=
  ((splitAt '_' cs).all fun part => !part.isEmpty)

/-- The plain form of a numeral: without blanks around it, a plus sign, zeros in front, a fraction
of zeros and underscores. -/
def tidied? (cs : List Char) : Option (List Char) :=
  let cs := withoutMargin cs
  let (negative, body) := Numeral.splitSign cs
  (withoutZeros? body).map fun body =>
    let body := withoutFraction body
    let body := if underscoresApart body then body.filter (· ≠ '_') else body
    if negative then '-' :: body else body

/-- Reads a whole number from a text. -/
def wholeOfText (s : String) : Except FaultKind Int :=
  match plainWhole s.toList with
  | .error .noWholeText =>
    match tidied? s.toList with
    | some cs => plainWhole cs
    | none => .error .noWholeText
  | r => r

/-- Reads a whole number. -/
def readWhole (v : Value) : Except FaultKind Int :=
  match v with
  | .bool b => .ok (if b then 1 else 0)
  | .int n => .ok n
  | .derivedInt n => .ok n
  | .text s => wholeOfText s
  | .derivedText s => wholeOfText s
  | .bytes bs =>
    match Utf8.decode bs with
    | .ok cs => wholeOfText (String.ofList cs)
    | .error _ => .error .noWholeText
  | .float (.finite s r) => wholeOfFloat .fraction .tooLong s r
  | .float _ => .error .notFinite
  | _ => .error .noWholeType

/-- Reads the limit on calls inside one another. -/
def readDepth (v : Value) : Except FaultKind { n : Nat // 1 ≤ n } := do
  let n ← readWhole v
  if h : 1 ≤ n.toNat then return ⟨n.toNat, h⟩ else throw .tooSmall

/-- The names between the commas of a text. -/
def splitNames (s : String) : List String :=
  ((splitAt ',' s.toList).map trim).filterMap fun n =>
    if n.isEmpty then none else some (String.ofList n)

/-- Reads one name. -/
def readName (v : Value) : Except FaultKind String :=
  match v with
  | .bytes bs => ((Utf8.decode bs).map String.ofList).mapError fun _ => .noNameEncoding
  | .buffer bs => ((Utf8.decode bs).map String.ofList).mapError fun _ => .noNameEncoding
  | v =>
    match v.text? with
    | some s => .ok s
    | none => .error .noName

/-- Reads names, the first of which has the given position; all faults are reported. -/
def readEach (position : Nat) : List Value → Except (List (Nat × FaultKind)) (List String)
  | [] => .ok []
  | v :: vs =>
    match readName v, readEach (position + 1) vs with
    | .ok s, .ok rest => .ok (s :: rest)
    | .ok _, .error faults => .error faults
    | .error k, .ok _ => .error [(position, k)]
    | .error k, .error faults => .error ((position, k) :: faults)

/-- The items of a collection of names. -/
def names? : Value → Option (List Value)
  | .list xs => some xs
  | .tuple xs => some xs
  | .set xs => some xs
  | .frozenSet xs => some xs
  | _ => none

/-- Reads names, as a text with commas or one by one. -/
def readNames (field : String) (v : Value) : Except (List Fault) (List String) :=
  match v.text?, names? v with
  | some s, _ => .ok (splitNames s)
  | none, none => .error [⟨[field], .noNames⟩]
  | none, some vs =>
    (readEach 0 vs).mapError fun faults => faults.map fun f => ⟨[field, toString f.1], f.2⟩

end Settings

end CommandScript
