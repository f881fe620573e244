import CommandScript.Value.Basic

/-!
# Equality of values

When two values count as equal. Numbers are compared by what they denote, whether they are whole
numbers, doubles or truth values (which count as one and zero), exactly and without rounding.
Mappings are compared without regard to order, unless both are records.

## Main definitions

- `CommandScript.Value.place?` — the place of a number on the line
- `CommandScript.Value.compareNumbers?` — the order of two numbers
- `CommandScript.Value.equal` — equality of values
- `CommandScript.Value.sameKey` — whether two keys are one
-/

namespace CommandScript.Value

/-- The place of a number or truth value on the line of numbers. -/
def place? : Value → Option Binary64.Place
  | .bool b => some (Binary64.placeOfInt (if b then 1 else 0))
  | .int n => some (Binary64.placeOfInt n)
  | .derivedInt n => some (Binary64.placeOfInt n)
  | .float x => x.place?
  | _ => none

/-- The order of two numbers; there is none where one of the values has no place. -/
def compareNumbers? (v w : Value) : Option Ordering :=
  match v.place?, w.place? with
  | some a, some b => some (a.compare b)
  | _, _ => none

/-- Equality of values that have no parts. -/
def equalAtoms : Value → Value → Bool
  | .null, .null => true
  | .date d, .date e => d == e
  | .dateTime t, .dateTime u =>
    t.offset.isSome == u.offset.isSome && t.instant == u.instant
  | v, w =>
    match v.text?, w.text? with
    | some s, some t => s == t
    | none, none => v.compareNumbers? w == some .eq
    | _, _ => false

/-- The bytes of a byte text. -/
def byteContent? : Value → Option (List UInt8)
  | .bytes bs => some bs
  | .buffer bs => some bs
  | _ => none

mutual

/-- Whether two values are equal. -/
def equal : Value → Value → Bool
  | .list xs, w =>
    match w with
    | .list ys => equalItems xs ys
    | _ => false
  | .tuple xs, w =>
    match w with
    | .tuple ys => equalItems xs ys
    | _ => false
  | .set xs, w =>
    match w with
    | .set ys => xs.length == ys.length && containedItems xs ys
    | .frozenSet ys => xs.length == ys.length && containedItems xs ys
    | _ => false
  | .frozenSet xs, w =>
    match w with
    | .set ys => xs.length == ys.length && containedItems xs ys
    | .frozenSet ys => xs.length == ys.length && containedItems xs ys
    | _ => false
  | .map es, w =>
    match w with
    | .map fs => es.length == fs.length && containedEntries es fs
    | .record fs => es.length == fs.length && containedEntries es fs
    | _ => false
  | .record es, w =>
    match w with
    | .map fs => es.length == fs.length && containedEntries es fs
    | .record fs => equalEntries es fs
    | _ => false
  | .bytes bs, w => w.byteContent? == some bs
  | .buffer bs, w => w.byteContent? == some bs
  | .thing .., _ => false
  | v, w => equalAtoms v w

/-- Whether two lists of values are equal item by item. -/
def equalItems : List Value → List Value → Bool
  | [], ys => ys.isEmpty
  | x :: xs, ys =>
    match ys with
    | [] => false
    | y :: ys => equal x y && equalItems xs ys

/-- Whether each of the first values is equal to one of the second. -/
def containedItems : List Value → List Value → Bool
  | [], _ => true
  | x :: xs, ys => ys.any (fun y => equal x y) && containedItems xs ys

/-- Whether two lists of entries are equal entry by entry. -/
def equalEntries : List (Value × Value) → List (Value × Value) → Bool
  | [], fs => fs.isEmpty
  | (k, v) :: es, fs =>
    match fs with
    | [] => false
    | f :: fs => equal k f.1 && equal v f.2 && equalEntries es fs

/-- Whether each of the first entries is equal to one of the second. -/
def containedEntries : List (Value × Value) → List (Value × Value) → Bool
  | [], _ => true
  | (k, v) :: es, fs => fs.any (fun f => equal k f.1 && equal v f.2) && containedEntries es fs

end

/-- Whether two keys are one. -/
def sameKey (v w : Value) : Bool := equal v w

/-- Whether a key is the given text. -/
theorem sameKey_text (s t : String) : sameKey (.text s) (.text t) = (s == t) := by
  simp [sameKey, equal, equalAtoms, text?]

end CommandScript.Value
