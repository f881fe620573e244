import CommandScript.Value.Literal

/-!
# Conversion of values to numbers

Values as whole numbers and as doubles: numbers are cut off or rounded, texts and byte texts are
read as numerals, and nothing else converts.

## Main definitions

- `CommandScript.ConversionError` — why a value does not convert
- `CommandScript.Value.toInt` — a value as a whole number
- `CommandScript.Value.toFloat` — a value as a double
-/

namespace CommandScript

/-- Why a value or text does not convert to a number, or a number to a text. -/
inductive ConversionError where
  /-- A numeral has more digits than are read. -/
  | tooManyDigits (count : Nat)
  /-- A whole number has more digits than are written. -/
  | unwritable
  /-- The literal of a text that is no whole number in a base. -/
  | noInteger (base : Nat) (literal : String)
  /-- The literal of a text that is no double. -/
  | noFloat (literal : String)
  | infinityAsInteger
  | nanAsInteger
  | integerAsFloat
  /-- The name of a type whose values are no whole numbers. -/
  | notIntegral (typeName : String)
  /-- The name of a type whose values are no doubles. -/
  | notReal (typeName : String)
  deriving DecidableEq, Repr

namespace ConversionError

/-- The start of the messages about numbers with too many digits. -/
def limitText : String :=
  "Exceeds the limit (" ++ toString Numeral.digitLimit ++ " digits) for integer string conversion"

/-- The advice at the end of the messages about numbers with too many digits. -/
def limitAdvice : String := "; use sys.set_int_max_str_digits() to increase the limit"

/-- The word for the kind of an error. -/
def kind : ConversionError → String
  | .infinityAsInteger => "OverflowError"
  | .integerAsFloat => "OverflowError"
  | .notIntegral _ => "TypeError"
  | .notReal _ => "TypeError"
  | _ => "ValueError"

/-- The wording of an error. -/
def message : ConversionError → String
  | .tooManyDigits n => limitText ++ ": value has " ++ toString n ++ " digits" ++ limitAdvice
  | .unwritable => limitText ++ limitAdvice
  | .noInteger base l =>
    "invalid literal for int() with base " ++ toString base ++ ": " ++
      String.ofList (l.toList.take 200)
  | .noFloat l => "could not convert string to float: " ++ l
  | .infinityAsInteger => "cannot convert float infinity to integer"
  | .nanAsInteger => "cannot convert float NaN to integer"
  | .integerAsFloat => "int too large to convert to float"
  | .notIntegral t =>
    "int() argument must be a string, a bytes-like object or a real number, not '" ++ t ++ "'"
  | .notReal t => "float() argument must be a string or a real number, not '" ++ t ++ "'"

end ConversionError

namespace Numeral

/-- A fault in a numeral as a fault of converting a text with the given literal. -/
def IntError.conversion (literal : String) : IntError → ConversionError
  | .tooManyDigits n => .tooManyDigits n
  | .malformed => .noInteger 10 literal

/-- The whole number that a text denotes; a text that denotes none is reported by its literal. -/
def toInt (cs : List Char) (literal : String) : Except ConversionError Int :=
  (readInt cs).mapError (IntError.conversion literal)

/-- The double that a text denotes; a text that denotes none is reported by its literal. -/
def toFloat (cs : List Char) (literal : String) : Except ConversionError Binary64 :=
  match readFloat? cs with
  | some x => .ok x
  | none => .error (.noFloat literal)

/-- The decimal text of a whole number. -/
def intText (n : Int) : Except ConversionError String :=
  match intText? n with
  | some s => .ok s
  | none => .error .unwritable

end Numeral

namespace Binary64

/-- The whole part of a double. -/
def toInt : Binary64 → Except ConversionError Int
  | .finite s r => .ok (truncated s r)
  | .infinite _ => .error .infinityAsInteger
  | .nan => .error .nanAsInteger

/-- The double nearest to a whole number. -/
def ofInt (n : Int) : Except ConversionError Binary64 :=
  (ofInt? n).elim (.error .integerAsFloat) .ok

end Binary64

namespace Value

/-- A byte text as a text of ASCII characters. Other bytes, which cannot be part of a numeral,
become question marks. -/
def asciiChars (bs : List UInt8) : List Char :=
  bs.map fun b => if 0x80 ≤ b then '?' else Char.ofNat b.toNat

/-- A value as a whole number. -/
def toInt : Value → Except ConversionError Int
  | .bool b => .ok (if b then 1 else 0)
  | .int n => .ok n
  | .derivedInt n => .ok n
  | .float x => x.toInt
  | .text s => Numeral.toInt s.toList (Text.quoted s)
  | .derivedText s => Numeral.toInt s.toList (Text.quoted s)
  | .bytes bs => Numeral.toInt (asciiChars bs) (Text.quotedBytes bs)
  | .buffer bs => Numeral.toInt (asciiChars bs) (Text.quotedBytes bs)
  | v => .error (.notIntegral v.fullTypeName)

/-- A value as a double. -/
def toFloat : Value → Except ConversionError Binary64
  | .bool b => Binary64.ofInt (if b then 1 else 0)
  | .int n => Binary64.ofInt n
  | .derivedInt n => Binary64.ofInt n
  | .float x => .ok x
  | .text s => Numeral.toFloat s.toList (Text.quoted s)
  | .derivedText s => Numeral.toFloat s.toList (Text.quoted s)
  | .bytes bs => Numeral.toFloat (asciiChars bs) (Text.quotedBytes bs)
  | .buffer bs => Numeral.toFloat (asciiChars bs) ("bytearray(" ++ Text.quotedBytes bs ++ ")")
  | v => .error (.notReal v.fullTypeName)

/-- The plain text of a value. -/
def plainText (v : Value) : Except ConversionError String :=
  match v.plain? with
  | some s => .ok s
  | none => .error .unwritable

/-- The literal of a value. -/
def literalText (v : Value) : Except ConversionError String :=
  match v.literal? with
  | some s => .ok s
  | none => .error .unwritable

end Value

end CommandScript
