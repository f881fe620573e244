import CommandScript.Value.Path

/-!
# Usual attributes

The attributes that are looked up where no others are given: the parts of numbers, days and moments,
and whatever things of the host have. Other values have none here.

## Main definitions

- `CommandScript.Value.usualAttribute?` — the attribute of a value with a given name
-/

namespace CommandScript.Value

/-- The attribute of a whole number. -/
def intAttribute? (n : Int) (key : String) : Option Value :=
  if key = "real" ∨ key = "numerator" then some (.int n)
  else if key = "imag" then some (.int 0)
  else if key = "denominator" then some (.int 1)
  else none

/-- The attribute of a day. -/
def dateAttribute? (d : Date) (key : String) : Option Value :=
  if key = "year" then some (.int d.year)
  else if key = "month" then some (.int d.month)
  else if key = "day" then some (.int d.day)
  else none

/-- The attribute of a moment; those that a day has too are the ones of its day. -/
def momentAttribute? (t : DateTime) (key : String) : Option Value :=
  if key = "hour" then some (.int t.hour)
  else if key = "minute" then some (.int t.minute)
  else if key = "second" then some (.int t.second)
  else if key = "microsecond" then some (.int t.microsecond)
  else if key = "fold" then some (.int 0)
  else dateAttribute? t.date key

/-- The attribute of a value with the given name, if it has one. -/
def usualAttribute? (v : Value) (key : String) : Option Value :=
  match v with
  | .bool b => intAttribute? (if b then 1 else 0) key
  | .int n => intAttribute? n key
  | .derivedInt n => intAttribute? n key
  | .float x =>
    if key = "real" then some (.float x)
    else if key = "imag" then some (.float Binary64.zero)
    else none
  | .date d => dateAttribute? d key
  | .dateTime t => momentAttribute? t key
  | .thing _ attributes => Table.get? attributes key
  | _ => none

/-- The attributes that are looked up where no others are given. -/
instance : Attributes := ⟨usualAttribute?⟩

end CommandScript.Value
