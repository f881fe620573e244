import CommandScript.Json.Writer
import CommandScript.Proofs.Number.Digits

/-!
# Tokens of written text

What the writer puts down for a word, a text or a whole number is one token, which carries the same
word, characters or digits. A number ends only where what follows does not continue it.

## Main definitions

- `CommandScript.Json.Ends` — a number that stands before such a text is over

## Main results

- `CommandScript.Json.body?_flatMap_quotedChar` — the escapes of a text are read back
- `CommandScript.Json.tokens_quoted` — a quoted text is one token
- `CommandScript.Json.tokens_intChars` — a whole number is one token
-/

namespace CommandScript.Json

variable {c : Char} {cs rest : List Char} {t : Token} {n : Nat}

/-! ### One step of the tokenizer -/

theorem tokens_of_isSpace (spaces : ∀ c ∈ cs, isSpace c = true) :
    tokens (cs ++ rest) = tokens rest := by
  induction cs with
  | nil => rfl
  | cons c cs ih =>
    rw [List.cons_append, tokens, if_pos (spaces c List.mem_cons_self)]
    exact ih fun d mem => spaces d (List.mem_cons_of_mem c mem)

theorem tokens_of_punctuation? (solid : isSpace c = false) (found : punctuation? c = some t) :
    tokens (c :: rest) = t :: tokens rest := by
  rw [tokens, solid, if_neg Bool.false_ne_true, found]

theorem tokens_of_scalar? (solid : isSpace c = false) (unpunctuated : punctuation? c = none)
    (found : scalar? c cs = some (t, rest)) : tokens (c :: cs) = t :: tokens rest := by
  rw [tokens, solid, if_neg Bool.false_ne_true, unpunctuated]
  dsimp only
  split
  · next u after here =>
    cases here.symm.trans found
    rfl
  · next here => cases here.symm.trans found

/-! ### Texts -/

theorem hexValue?_hexDigit (small : n < 16) : hexValue? (Text.hexDigit n) = some n := by
  have all : ∀ d < 16, hexValue? (Text.hexDigit d) = some d := by decide
  exact all n small

theorem hexFour?_hexDigits (small : n < 0x10000) :
    hexFour? (Text.hexDigits 4 n ++ cs) = some n := by
  have digit (m : Nat) : hexValue? (Text.hexDigit (m % 16)) = some (m % 16) :=
    hexValue?_hexDigit (Nat.mod_lt m (by decide))
  simp only [Text.hexDigits, List.nil_append, List.cons_append, hexFour?, digit]
  refine congrArg some ?_
  omega

theorem escape?_numbered (small : n < 0xd800) :
    escape? ('u' :: Text.hexDigits 4 n ++ cs) = some (Char.ofNat n, 5) := by
  have low : ¬(0xd800 ≤ n ∧ n < 0xdc00) := by omega
  have high : ¬(0xdc00 ≤ n ∧ n < 0xe000) := by omega
  rw [List.cons_append, escape?, if_pos rfl, numbered?, hexFour?_hexDigits (by omega)]
  dsimp only
  rw [if_neg low, if_neg high]
  rfl

theorem escape?_named {d : Char} (named : named? c = some d) :
    escape? (c :: cs) = some (d, 1) := by
  have short : c ≠ 'u' := by
    rintro rfl
    cases named
  rw [escape?, if_neg short, named]
  rfl

theorem body?_escape {d : Char} {e : List Char} (escape : escape? (e ++ cs) = some (d, e.length)) :
    body? ('\\' :: e ++ cs) = (body? cs).map fun p => (d :: p.1, p.2) := by
  rw [List.cons_append, body?, if_neg (by decide), if_pos rfl, escape]
  dsimp only
  rw [List.drop_left]

/-- A character is read back from how it is quoted. -/
theorem body?_quotedChar :
    body? (quotedChar c ++ cs) = (body? cs).map fun p => (c :: p.1, p.2) := by
  have named {d e : Char} (known : named? d = some e) :
      body? (['\\', d] ++ cs) = (body? cs).map fun p => (e :: p.1, p.2) :=
    body?_escape (e := [d]) (escape?_named known)
  unfold quotedChar
  split
  · next mark => obtain rfl | rfl := mark <;> exact named rfl
  split
  · next same => exact same ▸ named rfl
  split
  · next same => exact same ▸ named rfl
  split
  · next same => exact same ▸ named rfl
  split
  · next same => exact same ▸ named rfl
  split
  · next same => exact same ▸ named rfl
  split
  · next control =>
    have small : c.toNat < 0xd800 := Nat.lt_trans (show c.toNat < 32 from control) (by decide)
    have escape : escape? ('u' :: Text.hexDigits 4 c.toNat ++ cs) = _ := escape?_numbered small
    rw [Char.ofNat_toNat] at escape
    exact body?_escape (by rw [escape, List.length_cons, Text.length_hexDigits])
  · next plain _ _ _ _ _ printable =>
    rw [not_or] at plain
    rw [List.singleton_append, body?, if_neg plain.1, if_neg plain.2, if_neg printable]

/-- A text is read back from how it is quoted, up to the closing quote. -/
theorem body?_flatMap_quotedChar :
    body? (cs.flatMap quotedChar ++ '"' :: rest) = some (cs, rest) := by
  induction cs with
  | nil => rw [List.flatMap_nil, List.nil_append, body?, if_pos rfl]
  | cons c cs ih => rw [List.flatMap_cons, List.append_assoc, body?_quotedChar, ih, Option.map_some]

/-- A quoted text is one token. -/
theorem tokens_quoted : tokens (quoted cs ++ rest) = .text cs :: tokens rest := by
  have found : scalar? '"' (cs.flatMap quotedChar ++ '"' :: rest) = some (.text cs, rest) := by
    rw [scalar?, if_pos rfl, body?_flatMap_quotedChar, Option.map_some]
  rw [quoted, List.cons_append, List.cons_append, List.append_assoc, List.singleton_append]
  exact tokens_of_scalar? (by decide) (by decide) found

/-! ### Words -/

theorem tokens_null : tokens ("null".toList ++ rest) = .null :: tokens rest :=
  tokens_of_scalar? (by decide) (by decide) rfl

theorem tokens_bool (b : Bool) :
    tokens ((if b then "true".toList else "false".toList) ++ rest) = .bool b :: tokens rest := by
  cases b with
  | false => exact tokens_of_scalar? (by decide) (by decide) rfl
  | true => exact tokens_of_scalar? (by decide) (by decide) rfl

/-! ### Whole numbers -/

/-- Whether a number goes on with a character. -/
def continuesNumber (c : Char) : Bool := c.isDigit || c = '.' || c = 'e' || c = 'E'

/-- A number that stands before the text is over. -/
def Ends (rest : List Char) : Prop := rest.head?.any continuesNumber = false

theorem Ends.head (ends : Ends (c :: rest)) :
    c.isDigit = false ∧ c ≠ '.' ∧ c ≠ 'e' ∧ c ≠ 'E' := by
  simpa [Ends, continuesNumber, and_assoc] using ends

theorem Ends.takeWhile_isDigit (ends : Ends rest) : rest.takeWhile Char.isDigit = [] := by
  cases rest with
  | nil => rfl
  | cons c rest => rw [List.takeWhile_cons_of_neg (by rw [ends.head.1]; decide)]

theorem Ends.dropWhile_isDigit (ends : Ends rest) : rest.dropWhile Char.isDigit = rest := by
  cases rest with
  | nil => rfl
  | cons c rest => rw [List.dropWhile_cons_of_neg (by rw [ends.head.1]; decide)]

theorem Ends.fraction (ends : Ends rest) : fraction rest = ([], rest) := by
  unfold Json.fraction
  split
  · exact absurd rfl ends.head.2.1
  · rfl

theorem Ends.exponent (ends : Ends rest) : exponent rest = ([], rest) := by
  unfold Json.exponent
  split
  · next e after =>
    have other : ¬(e = 'e' ∨ e = 'E') := not_or.2 ends.head.2.2
    exact if_neg fun both => other both.1
  · rfl

theorem whole?_toDigits (ends : Ends rest) :
    whole? (Nat.toDigits 10 n ++ rest) = some (Nat.toDigits 10 n, rest) := by
  have digits : ∀ c ∈ Nat.toDigits 10 n, c.isDigit = true :=
    fun c mem => Numeral.isDigit_of_mem_toDigits mem
  obtain ⟨-, written⟩ | ⟨-, c, cs, written, first⟩ := Numeral.toDigits_cases n
  · rw [written]
    rfl
  · rw [written] at digits ⊢
    unfold whole?
    split
    · next same => exact absurd (List.cons.inj same).1 first
    · next c' after _ same =>
      obtain ⟨rfl, -⟩ := List.cons.inj same
      rw [if_pos (digits c List.mem_cons_self), List.takeWhile_append_of_pos digits,
        List.dropWhile_append_of_pos digits, ends.takeWhile_isDigit, ends.dropWhile_isDigit,
        List.append_nil]
    · next same => cases same

theorem number?_toDigits (sign : List Char) (ends : Ends rest) :
    number? sign (Nat.toDigits 10 n ++ rest) = some (.int (sign ++ Nat.toDigits 10 n), rest) := by
  rw [number?, whole?_toDigits ends, Option.map_some]
  dsimp only
  rw [ends.fraction]
  dsimp only
  rw [ends.exponent]
  simp

theorem word?_of_isDigit (digit : c.isDigit = true) : word? (c :: cs) = none := by
  have other (d : Char) (no : d.isDigit = false) : d ≠ c := (Numeral.digit_ne digit no).symm
  simp [word?, words, other]

theorem word?_minus_of_isDigit (digit : c.isDigit = true) : word? ('-' :: c :: cs) = none := by
  have other (d : Char) (no : d.isDigit = false) : d ≠ c := (Numeral.digit_ne digit no).symm
  simp [word?, words, other]

theorem isSpace_of_isDigit (digit : c.isDigit = true) : isSpace c = false := by
  have other (d : Char) (no : d.isDigit = false) : c ≠ d := Numeral.digit_ne digit no
  simp [isSpace, other]

theorem punctuation?_of_isDigit (digit : c.isDigit = true) : punctuation? c = none := by
  have other (d : Char) (no : d.isDigit = false) : c ≠ d := Numeral.digit_ne digit no
  simp [punctuation?, other]

/-- A whole number is one token. -/
theorem tokens_intChars (k : Int) (ends : Ends rest) :
    tokens (Numeral.intChars k ++ rest) = .int (Numeral.intChars k) :: tokens rest := by
  have taken (sign : List Char) := number?_toDigits (n := k.natAbs) sign ends
  have digits : ∀ c ∈ Nat.toDigits 10 k.natAbs, c.isDigit = true :=
    fun c mem => Numeral.isDigit_of_mem_toDigits mem
  have nonempty : Nat.toDigits 10 k.natAbs ≠ [] := Nat.toDigits_ne_nil
  rw [Numeral.intChars]
  revert taken digits nonempty
  generalize Nat.toDigits 10 k.natAbs = ds
  intro taken digits nonempty
  obtain ⟨c, cs, rfl⟩ := List.exists_cons_of_ne_nil nonempty
  have digit := digits c List.mem_cons_self
  have quote := Numeral.digit_ne (d := '"') digit (by decide)
  have minus := Numeral.digit_ne (d := '-') digit (by decide)
  split
  · refine tokens_of_scalar? (by decide) (by decide) ?_
    have solid : word? ('-' :: (c :: cs ++ rest)) = none := word?_minus_of_isDigit digit
    rw [scalar?, if_neg (by decide), List.append_eq, solid]
    exact taken ['-']
  · refine tokens_of_scalar? (isSpace_of_isDigit digit) (punctuation?_of_isDigit digit) ?_
    rw [scalar?, if_neg quote, word?_of_isDigit digit]
    dsimp only
    rw [if_neg minus]
    exact taken []

end CommandScript.Json
