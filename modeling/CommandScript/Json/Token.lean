import CommandScript.Number.Numeral
import CommandScript.Text.Utf8

/-!
# Tokens of JSON

A JSON text as a list of tokens. A fault in a token ends the list with `bad`, so that a reader
meets the faults of a text in the order in which they stand in it.

## Main definitions

- `CommandScript.Json.Token` — brackets, separators, words, texts and numbers
- `CommandScript.Json.tokens` — the tokens of a text

## Design notes

The words for infinity and for what is not a number are read as well. Half of a surrogate pair that
stands alone reads as the replacement character.
-/

namespace CommandScript.Json

/-- A token of JSON. -/
inductive Token where
  | openList
  | closeList
  | openMap
  | closeMap
  | comma
  | colon
  | null
  | bool (b : Bool)
  | text (cs : List Char)
  | int (numeral : List Char)
  | float (x : Binary64)
  | bad
  deriving DecidableEq

/-- The blanks of JSON. -/
def isSpace (c : Char) : Bool := c = ' ' || c = '\t' || c = '\n' || c = '\r'

/-- The value of a hexadecimal digit. -/
def hexValue? (c : Char) : Option Nat :=
  if '0' ≤ c ∧ c ≤ '9' then some (c.toNat - '0'.toNat)
  else if 'a' ≤ c ∧ c ≤ 'f' then some (c.toNat - 'a'.toNat + 10)
  else if 'A' ≤ c ∧ c ≤ 'F' then some (c.toNat - 'A'.toNat + 10)
  else none

/-- The number that four hexadecimal digits at the front of a text denote. -/
def hexFour? : List Char → Option Nat
  | a :: b :: c :: d :: _ =>
    match hexValue? a, hexValue? b, hexValue? c, hexValue? d with
    | some w, some x, some y, some z => some (((w * 16 + x) * 16 + y) * 16 + z)
    | _, _, _, _ => none
  | _ => none

/-- The low half of a surrogate pair, where its escape stands at the front of a text. -/
def lowHalf? : List Char → Option Nat
  | '\\' :: 'u' :: cs => (hexFour? cs).filter fun n => 0xdc00 ≤ n && n < 0xe000
  | _ => none

/-- The character that a numbered escape gives after its `u`, and how many characters it takes. -/
def numbered? (cs : List Char) : Option (Char × Nat) :=
  match hexFour? cs with
  | none => none
  | some n =>
    if 0xd800 ≤ n ∧ n < 0xdc00 then
      match lowHalf? (cs.drop 4) with
      | some m => some (Char.ofNat (0x10000 + (n - 0xd800) * 0x400 + (m - 0xdc00)), 10)
      | none => some (Text.Utf8.replacement, 4)
    else if 0xdc00 ≤ n ∧ n < 0xe000 then some (Text.Utf8.replacement, 4)
    else some (Char.ofNat n, 4)

/-- The character that an escape of one letter gives. -/
def named? (c : Char) : Option Char :=
  if c = '"' ∨ c = '\\' ∨ c = '/' then some c
  else if c = 'b' then some '\x08'
  else if c = 'f' then some '\x0c'
  else if c = 'n' then some '\n'
  else if c = 'r' then some '\r'
  else if c = 't' then some '\t'
  else none

/-- The character that an escape gives after its backslash, and how many characters it takes. -/
def escape? : List Char → Option (Char × Nat)
  | [] => none
  | c :: cs =>
    if c = 'u' then (numbered? cs).map fun p => (p.1, p.2 + 1)
    else (named? c).map fun d => (d, 1)

/-- The text up to the closing quote, and what follows the quote. -/
def body? : List Char → Option (List Char × List Char)
  | [] => none
  | c :: cs =>
    if c = '"' then some ([], cs)
    else if c = '\\' then
      match escape? cs with
      | none => none
      | some (d, n) => (body? (cs.drop n)).map fun p => (d :: p.1, p.2)
    else if c < ' ' then none
    else (body? cs).map fun p => (c :: p.1, p.2)
termination_by cs => cs.length
decreasing_by all_goals simp only [List.length_drop, List.length_cons]; omega

/-- The digits before the point of a number, and the rest: a zero, or digits with no zero in
front. -/
def whole? (cs : List Char) : Option (List Char × List Char) :=
  match cs with
  | '0' :: rest => some (['0'], rest)
  | c :: _ =>
    if c.isDigit then some (cs.takeWhile Char.isDigit, cs.dropWhile Char.isDigit) else none
  | [] => none

/-- The point and the digits after it, and the rest. -/
def fraction (cs : List Char) : List Char × List Char :=
  match cs with
  | '.' :: rest =>
    let ds := rest.takeWhile Char.isDigit
    if ds.isEmpty then ([], cs) else ('.' :: ds, rest.dropWhile Char.isDigit)
  | _ => ([], cs)

/-- The sign at the front of an exponent. -/
def exponentSign : List Char → List Char
  | '-' :: _ => ['-']
  | '+' :: _ => ['+']
  | _ => []

/-- The exponent of a number, and the rest. -/
def exponent (cs : List Char) : List Char × List Char :=
  match cs with
  | e :: rest =>
    let sign := exponentSign rest
    let body := rest.drop sign.length
    let ds := body.takeWhile Char.isDigit
    if (e = 'e' ∨ e = 'E') ∧ ds ≠ [] then (e :: sign ++ ds, body.dropWhile Char.isDigit)
    else ([], cs)
  | [] => ([], cs)

/-- The number at the front of a text after its sign, and what follows it. -/
def number? (sign cs : List Char) : Option (Token × List Char) :=
  (whole? cs).map fun (ds, rest) =>
    let (point, rest) := fraction rest
    let (power, rest) := exponent rest
    let numeral := sign ++ ds ++ point ++ power
    if point.isEmpty && power.isEmpty then (.int numeral, rest)
    else (.float ((Numeral.readFloat? numeral).getD .nan), rest)

/-- The words of JSON, with the words for numbers that are not finite. -/
def words : List (List Char × Token) :=
  [("null".toList, .null), ("true".toList, .bool true), ("false".toList, .bool false),
    ("NaN".toList, .float .nan), ("Infinity".toList, .float (.infinite false)),
    ("-Infinity".toList, .float (.infinite true))]

/-- The word at the front of a text, and what follows it. -/
def word? (cs : List Char) : Option (Token × List Char) :=
  words.findSome? fun (w, t) => if w.isPrefixOf cs then some (t, cs.drop w.length) else none

/-- The token of a bracket or separator. -/
def punctuation? (c : Char) : Option Token :=
  if c = '[' then some .openList
  else if c = ']' then some .closeList
  else if c = '\x7b' then some .openMap
  else if c = '\x7d' then some .closeMap
  else if c = ',' then some .comma
  else if c = ':' then some .colon
  else none

/-- The token at the front of a text that is no bracket or separator, and what follows it. -/
def scalar? (c : Char) (cs : List Char) : Option (Token × List Char) :=
  if c = '"' then (body? cs).map fun p => (.text p.1, p.2)
  else
    match word? (c :: cs) with
    | some p => some p
    | none => if c = '-' then number? ['-'] cs else number? [] (c :: cs)

/-- What follows a text is no longer than what it was read from. -/
theorem length_of_body? {cs b rest : List Char} (h : body? cs = some (b, rest)) :
    rest.length < cs.length := by
  fun_induction body? cs generalizing b rest with
  | case1 => simp at h
  | case2 cs =>
    simp only [Option.some.injEq, Prod.mk.injEq] at h
    simp [← h.2]
  | case3 => simp at h
  | case4 cs _ d n he ih =>
    obtain ⟨⟨b', r⟩, hb, heq⟩ := Option.map_eq_some_iff.1 h
    simp only [Prod.mk.injEq] at heq
    have := ih (heq.2 ▸ hb)
    simp only [List.length_drop, List.length_cons] at *
    omega
  | case5 => simp at h
  | case6 c cs hc hc' hlt ih =>
    obtain ⟨⟨b', r⟩, hb, heq⟩ := Option.map_eq_some_iff.1 h
    simp only [Prod.mk.injEq] at heq
    have := ih (heq.2 ▸ hb)
    simp only [List.length_cons]
    omega

/-- What is left of a text after a run of characters is no longer than the text. -/
theorem length_dropWhile_le (p : Char → Bool) (cs : List Char) :
    (cs.dropWhile p).length ≤ cs.length :=
  (List.dropWhile_sublist p).length_le

/-- What follows the digits before the point is shorter than what they were read from. -/
theorem length_lt_of_whole? {cs ds rest : List Char} (h : whole? cs = some (ds, rest)) :
    rest.length < cs.length := by
  unfold whole? at h
  split at h
  · simp only [Option.some.injEq, Prod.mk.injEq] at h
    simp [h.2]
  · rename_i c cs' _
    split at h
    · rename_i hc
      simp only [Option.some.injEq, Prod.mk.injEq] at h
      rw [← h.2, List.dropWhile_cons_of_pos hc]
      have := length_dropWhile_le Char.isDigit cs'
      simp only [List.length_cons]
      omega
    · simp at h
  · simp at h

/-- What follows a fraction is no longer than what it was read from. -/
theorem length_fraction_le (cs : List Char) : (fraction cs).2.length ≤ cs.length := by
  unfold fraction
  split
  · rename_i rest
    have := length_dropWhile_le Char.isDigit rest
    dsimp only
    split
    · simp
    · simp only [List.length_cons]
      omega
  · simp

/-- What follows an exponent is no longer than what it was read from. -/
theorem length_exponent_le (cs : List Char) : (exponent cs).2.length ≤ cs.length := by
  unfold exponent
  split
  · rename_i e rest
    have := length_dropWhile_le Char.isDigit (rest.drop (exponentSign rest).length)
    dsimp only
    split
    · simp only [List.length_drop, List.length_cons] at *
      omega
    · simp
  · simp

/-- What follows a number is shorter than what it was read from. -/
theorem length_lt_of_number? {sign cs rest : List Char} {t : Token}
    (h : number? sign cs = some (t, rest)) : rest.length < cs.length := by
  obtain ⟨⟨ds, r⟩, hw, heq⟩ := Option.map_eq_some_iff.1 h
  have a := length_lt_of_whole? hw
  have b := length_fraction_le r
  have c := length_exponent_le (fraction r).2
  dsimp only at heq
  split at heq <;>
  · simp only [Prod.mk.injEq] at heq
    rw [← heq.2]
    omega

/-- What follows a word is shorter than what it was read from. -/
theorem length_lt_of_word? {c : Char} {cs rest : List Char} {t : Token}
    (h : word? (c :: cs) = some (t, rest)) : rest.length < (c :: cs).length := by
  obtain ⟨⟨w, t'⟩, hw, heq⟩ := List.exists_of_findSome?_eq_some h
  dsimp only at heq
  split at heq
  · simp only [Option.some.injEq, Prod.mk.injEq] at heq
    have pos : 0 < w.length := by
      simp only [words, List.mem_cons, Prod.mk.injEq, List.not_mem_nil, or_false] at hw
      rcases hw with ⟨rfl, _⟩ | ⟨rfl, _⟩ | ⟨rfl, _⟩ | ⟨rfl, _⟩ | ⟨rfl, _⟩ | ⟨rfl, _⟩ <;> decide
    rw [← heq.2, List.length_drop, List.length_cons]
    omega
  · simp at heq

/-- What follows a token is shorter than what it was read from. -/
theorem length_le_of_scalar? {c : Char} {cs rest : List Char} {t : Token}
    (h : scalar? c cs = some (t, rest)) : rest.length ≤ cs.length := by
  unfold scalar? at h
  split at h
  · obtain ⟨⟨b, r⟩, hb, heq⟩ := Option.map_eq_some_iff.1 h
    simp only [Prod.mk.injEq] at heq
    have := length_of_body? hb
    rw [← heq.2]
    omega
  · split at h
    · rename_i p hp
      simp only [Option.some.injEq] at h
      have := length_lt_of_word? (h ▸ hp)
      simp only [List.length_cons] at this
      omega
    · split at h
      · have := length_lt_of_number? h
        omega
      · have := length_lt_of_number? h
        simp only [List.length_cons] at this
        omega

/-- The tokens of a text. -/
def tokens : List Char → List Token
  | [] => []
  | c :: cs =>
    if isSpace c then tokens cs
    else
      match punctuation? c with
      | some t => t :: tokens cs
      | none =>
        match _h : scalar? c cs with
        | some (t, rest) => t :: tokens rest
        | none => [.bad]
termination_by cs => cs.length
decreasing_by
  · simp
  · simp
  · have := length_le_of_scalar? _h
    simp only [List.length_cons]
    omega

end CommandScript.Json
