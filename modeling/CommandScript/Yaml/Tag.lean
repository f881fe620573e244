import CommandScript.Text.Split
import CommandScript.Yaml.Timestamp

/-!
# Tags of YAML

The tags of the standard schema, and the tag that a plain scalar has by its form: words for null
and truth values, numbers (also in bases two, eight, sixteen and sixty), timestamps, and the marks
for merging and for a default value. Everything else is a text.

## Main definitions

- `CommandScript.Yaml.standardTag` — a tag of the standard schema
- `CommandScript.Yaml.plainTag` — the tag that a plain scalar has by its form
-/

namespace CommandScript.Yaml

/-- What all tags of the standard schema start with. -/
def standardStart : String := "tag:yaml.org,2002:"

/-- A tag of the standard schema. -/
def standardTag (name : String) : String := standardStart ++ name

/-- Whether a character may be part of a decimal numeral. -/
def isDecimalChar (c : Char) : Bool := c.isDigit || c = '_'

/-- Whether a character may be part of a numeral in base sixteen. -/
def isHexChar (c : Char) : Bool :=
  c.isDigit || ('a' ≤ c && c ≤ 'f') || ('A' ≤ c && c ≤ 'F') || c = '_'

/-- A text without the sign in front. -/
def dropSign : List Char → List Char
  | '+' :: cs => cs
  | '-' :: cs => cs
  | cs => cs

/-- Whether a text is a digit of base sixty: one digit, or two of which the first is below six. -/
def isSixtyDigit : List Char → Bool
  | [a] => a.isDigit
  | [a, b] => '0' ≤ a && a ≤ '5' && b.isDigit
  | _ => false

/-- Whether a text is a numeral in base sixty that starts with a decimal digit for which `p`
holds. -/
def isSixtyNumeral (p : Char → Bool) (cs : List Char) : Bool :=
  match Text.splitAt ':' cs with
  | head :: next :: rest =>
    head.head?.any (fun c => c.isDigit && p c) && head.all isDecimalChar &&
      (next :: rest).all isSixtyDigit
  | _ => false

/-- Whether a text is empty or an exponent with its sign. -/
def isExponentTail : List Char → Bool
  | [] => true
  | e :: s :: ds =>
    (e = 'e' || e = 'E') && (s = '+' || s = '-') && !ds.isEmpty && ds.all Char.isDigit
  | _ => false

/-- Whether a text is a decimal numeral with a point. -/
def isDecimalFloat (cs : List Char) : Bool :=
  let body := dropSign cs
  let whole := body.takeWhile isDecimalChar
  match body.dropWhile isDecimalChar with
  | '.' :: rest => whole.head?.any Char.isDigit && isExponentTail (rest.dropWhile isDecimalChar)
  | _ => false

/-- Whether a text is a decimal numeral that starts with its point. -/
def isPointFloat : List Char → Bool
  | '.' :: d :: rest => d.isDigit && isExponentTail (rest.dropWhile isDecimalChar)
  | _ => false

/-- Whether a text is a numeral in base sixty with a point. -/
def isSixtyFloat (cs : List Char) : Bool :=
  let body := dropSign cs
  match body.dropWhile (· ≠ '.') with
  | '.' :: rest =>
    isSixtyNumeral (fun _ => true) (body.takeWhile (· ≠ '.')) && rest.all isDecimalChar
  | _ => false

/-- Whether a text is one of the words for infinity and for what is not a number. -/
def isFloatWord (cs : List Char) : Bool :=
  [".inf", ".Inf", ".INF"].contains (String.ofList (dropSign cs)) ||
    [".nan", ".NaN", ".NAN"].contains (String.ofList cs)

/-- Whether a text has the form of a double. -/
def isFloat (cs : List Char) : Bool :=
  isDecimalFloat cs || isPointFloat cs || isSixtyFloat cs || isFloatWord cs

/-- Whether a text without sign is a whole number in base two, eight, ten or sixteen. -/
def isWholeNumeral : List Char → Bool
  | [] => false
  | '0' :: [] => true
  | '0' :: 'b' :: cs => !cs.isEmpty && cs.all fun c => c = '0' || c = '1' || c = '_'
  | '0' :: 'x' :: cs => !cs.isEmpty && cs.all isHexChar
  | '0' :: cs => cs.all fun c => ('0' ≤ c && c ≤ '7') || c = '_'
  | c :: cs => c.isDigit && cs.all isDecimalChar

/-- Whether a text has the form of a whole number. -/
def isInt (cs : List Char) : Bool :=
  isWholeNumeral (dropSign cs) || isSixtyNumeral (· ≠ '0') (dropSign cs)

/-- The words for truth values. -/
def truthWords : List (String × Bool) :=
  [("yes", true), ("no", false), ("true", true), ("false", false), ("on", true), ("off", false)]

/-- A word with a capital in front. -/
def capitalized (w : String) : String :=
  match w.toList with
  | [] => ""
  | c :: cs => String.ofList (c.toUpper :: cs)

/-- A word in the three spellings that are read: small, with a capital, in capitals. -/
def spellings (w : String) : List String :=
  [w, capitalized w, String.ofList (w.toList.map Char.toUpper)]

/-- Whether a text is a word for a truth value. -/
def isTruthWord (s : String) : Bool := truthWords.any fun w => (spellings w.1).contains s

/-- Whether a text stands for null. -/
def isNullWord (s : String) : Bool := s = "" || s = "~" || (spellings "null").contains s

/-- A text without a line feed at its end. -/
def dropFinalBreak (cs : List Char) : List Char :=
  if cs.getLast? = some '\n' then cs.dropLast else cs

/-- The tag that a plain scalar has by its form. -/
def plainTag (text : List Char) : String :=
  let cs := dropFinalBreak text
  let s := String.ofList cs
  standardTag
    (if isTruthWord s then "bool"
     else if isFloat cs then "float"
     else if isInt cs then "int"
     else if s = "<<" then "merge"
     else if isNullWord s && (text.isEmpty || s ≠ "") then "null"
     else if Timestamp.isPlain cs then "timestamp"
     else if s = "=" then "value"
     -- These three cannot stand alone without quotes, but may be given this tag by a lone `!`.
     else if ["!", "&", "*"].contains s then "yaml"
     else "str")

end CommandScript.Yaml
