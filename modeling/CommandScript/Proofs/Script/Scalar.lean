import CommandScript.Proofs.Number.Positional
import CommandScript.Script.Glyph
import CommandScript.Script.Scalar

/-!
# Numbers as argument texts

Which texts are taken for numbers where an argument is taken for a value: digits, and digits on both
sides of a point, with a minus sign in front or without. Other texts that begin like numbers stand
for themselves.

## Main results

- `CommandScript.Script.isNumeral_signed`, `isNumeral_intChars` — texts that are numbers
- `CommandScript.Script.mem_of_isNumeral` — the characters of numbers
- `CommandScript.Script.escape_of_isNumeral` — numbers are written without escapes
- `CommandScript.Script.scalar_of_isNumeral`, `scalar_of_not_isNumeral` — what such texts stand for
-/

namespace CommandScript

open Text Numeral

namespace Script

variable {c : Char} {cs : List Char} {k : Int}

/-! ### Numerals -/

theorem dropMinus_of_isDigit (digit : c.isDigit = true) : dropMinus (c :: cs) = c :: cs := by
  rw [dropMinus]
  exact fun _ same => digit_ne (d := '-') digit (by decide) (List.cons.inj same).1

theorem dropMinus_signed (negative : Bool) (p : Positional) :
    dropMinus (p.signed negative) = p.chars := by
  cases negative with
  | true => rfl
  | false =>
    obtain ⟨c, cs, first, digit⟩ := p.exists_cons_chars
    rw [Positional.signed, if_neg Bool.false_ne_true, first, dropMinus_of_isDigit digit]

theorem isNumeral_signed (negative : Bool) (p : Positional) :
    isNumeral (p.signed negative) = true := by
  rw [isNumeral, dropMinus_signed, p.takeWhile_chars, p.dropWhile_chars]
  have fraction : p.fraction.all isDecimal = true :=
    List.all_eq_true.2 fun c mem => p.isDecimal_of_mem_fraction mem
  simp [p.whole_ne_nil, p.fraction_ne_nil, fraction]

theorem dropMinus_intChars (k : Int) : dropMinus (intChars k) = Nat.toDigits 10 k.natAbs := by
  rw [intChars]
  split
  · rfl
  · obtain ⟨c, cs, first, digit⟩ := exists_cons_toDigits k.natAbs
    rw [first]
    exact dropMinus_of_isDigit digit

theorem isNumeral_intChars (k : Int) : isNumeral (intChars k) = true := by
  have all (c : Char) (mem : c ∈ Nat.toDigits 10 k.natAbs) : isDecimal c = true :=
    isDecimal_of_isDigit (isDigit_of_mem_toDigits mem)
  rw [isNumeral, dropMinus_intChars, takeWhile_of_forall all, List.dropWhile_eq_nil_iff.2 all]
  simp [Nat.toDigits_ne_nil]

/-- A number is made of decimal digits, a point and a minus sign. -/
theorem mem_of_isNumeral (numeral : isNumeral cs = true) (mem : c ∈ cs) :
    c = '-' ∨ c = '.' ∨ isDecimal c = true := by
  have inside (mem : c ∈ dropMinus cs) : c = '.' ∨ isDecimal c = true := by
    rw [← List.takeWhile_append_dropWhile (p := isDecimal) (l := dropMinus cs)] at mem
    obtain whole | rest := List.mem_append.1 mem
    · exact .inr (List.mem_takeWhile_imp whole)
    · rw [isNumeral] at numeral
      generalize (dropMinus cs).dropWhile isDecimal = tail at numeral rest
      split at numeral
      · cases rest
      · simp only [Bool.and_eq_true, List.all_eq_true] at numeral
        obtain rfl | digit := List.mem_cons.1 rest
        · exact .inl rfl
        · exact .inr (numeral.2 c digit)
      · cases numeral
  have sign : c = '-' ∨ c ∈ dropMinus cs := by
    unfold dropMinus
    split
    · exact List.mem_cons.1 mem
    · exact .inr mem
  exact sign.imp_right inside

/-- No character of a number has a meaning of its own in a command string. -/
theorem isStructural_of_isNumeral (numeral : isNumeral cs = true) (mem : c ∈ cs) :
    isStructural c = false := by
  obtain rfl | rfl | decimal := mem_of_isNumeral numeral mem
  · decide
  · decide
  · refine Bool.eq_false_iff.2 fun structural => ?_
    simp only [isStructural, Bool.or_eq_true, decide_eq_true_eq] at structural
    obtain (((rfl | rfl) | rfl) | rfl) | rfl := structural <;> exact absurd decimal (by decide)

/-- A text without structural characters is written without escapes. -/
theorem escape_of_forall (none : ∀ c ∈ cs, isStructural c = false) : escape cs = cs := by
  have single (c : Char) (mem : c ∈ cs) : (if isStructural c then ['\\', c] else [c]) = [c] := by
    rw [none c mem, if_neg Bool.false_ne_true]
  rw [escape, List.flatMap_congr single, List.flatMap_singleton']

theorem escape_of_isNumeral (numeral : isNumeral cs = true) : escape cs = cs :=
  escape_of_forall fun _ mem => isStructural_of_isNumeral numeral mem

/-! ### Argument texts -/

/-- A number is none of the words that stand for values. -/
theorem scalar_of_isNumeral (numeral : isNumeral cs = true) :
    scalar (String.ofList cs) = number cs := by
  have other {word : String} (unread : isNumeral word.toList = false) :
      String.ofList cs ≠ word := by
    rintro rfl
    rw [String.toList_ofList, numeral] at unread
    cases unread
  rw [scalar, if_neg (other (by decide)), if_neg (other (by decide)), if_neg (other (by decide)),
    String.toList_ofList, if_pos numeral]

/-- What begins like a number and is none is a text. -/
theorem scalar_of_not_isNumeral (first : c = '-' ∨ c.isDigit = true)
    (unread : isNumeral (c :: cs) = false) :
    scalar (String.ofList (c :: cs)) = .ok (.text (String.ofList (c :: cs))) := by
  have other {word : String}
      (letter : (word.toList.head?.any fun d => d = '-' || d.isDigit) = false) :
      String.ofList (c :: cs) ≠ word := by
    rintro rfl
    rw [String.toList_ofList, List.head?_cons, Option.any_some, Bool.or_eq_false_iff] at letter
    obtain ⟨minus, digit⟩ := letter
    exact first.elim (of_decide_eq_false minus) (Bool.eq_false_iff.1 digit)
  rw [scalar, if_neg (other (by decide)), if_neg (other (by decide)), if_neg (other (by decide)),
    String.toList_ofList, unread, if_neg Bool.false_ne_true]

theorem number_signed (negative : Bool) (p : Positional) :
    number (p.signed negative) =
      .ok (.float ((readFloat? (p.signed negative)).getD .nan)) := by
  have point : (p.signed negative).contains '.' = true := by
    rw [List.contains_iff_mem, Positional.signed]
    have mem : '.' ∈ p.chars := Positional.mem_chars.2 (.inl rfl)
    split
    · exact List.mem_cons_of_mem _ mem
    · exact mem
  rw [number, if_pos point]

theorem number_intChars (within : exceedsLimit k = false) :
    number (intChars k) = .ok (.int k) := by
  have point : ¬(intChars k).contains '.' = true := by
    have digits : '.' ∉ Nat.toDigits 10 k.natAbs := fun mem =>
      absurd (isDigit_of_mem_toDigits mem) (by decide)
    rw [List.contains_iff_mem, intChars]
    split
    · exact fun mem => (List.mem_cons.1 mem).elim (by decide) digits
    · exact digits
  rw [number, if_neg point, readInt_intChars within]
  rfl

end Script

end CommandScript
