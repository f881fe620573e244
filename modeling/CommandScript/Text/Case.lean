import CommandScript.Text.Case.Tables

/-!
# Letter case of a text

Lower, upper and title case with the full mappings of Unicode: one character may become several,
and a capital sigma at the end of a word becomes the final form.

## Main definitions

- `CommandScript.Text.lower`, `upper`, `title` — the case of a whole text
- `CommandScript.Text.endsWord` — whether a sigma between two texts stands at the end of a word

## Design notes

Text is a list of characters here, so that the rule for a final sigma can look at what stands on
either side. ASCII letters never reach the tables.
-/

namespace CommandScript.Text

/-- A character looked up in a table of exceptions. -/
def special? (table : List (Nat × List Nat)) (c : Char) : Option (List Char) :=
  (table.find? (·.1 == c.toNat)).map fun e => e.2.map Char.ofNat

/-- A character mapped by the first run that holds it, itself where none does. -/
def mapByRuns (runs : List CaseRun) (c : Char) : Char :=
  match runs.findSome? (·.image? c.toNat) with
  | some n => Char.ofNat n
  | none => c

/-- The lower case of a character, apart from its neighbours. -/
def lowerChar (c : Char) : List Char :=
  if c.toNat < 0x80 then [c.toLower] else (special? lowerSpecial c).getD [mapByRuns lowerRuns c]

/-- The upper case of a character. -/
def upperChar (c : Char) : List Char :=
  if c.toNat < 0x80 then [c.toUpper] else (special? upperSpecial c).getD [mapByRuns upperRuns c]

/-- The case in which a character opens a word. -/
def titleChar (c : Char) : List Char :=
  if c.toNat < 0x80 then [c.toUpper] else (special? titleSpecial c).getD (upperChar c)

/-- Whether the character is a cased letter or sign. -/
def isCased (c : Char) : Bool :=
  if c.toNat < 0x80 then c.isAlpha else inRanges casedRanges c

/-- Whether the character is looked through when the neighbour of a sigma is sought. -/
def isCaseIgnorable (c : Char) : Bool := inRanges caseIgnorableRanges c

/-- Whether a text begins, after characters that are looked through, with a cased one. -/
def leadsCased (cs : List Char) : Bool :=
  match cs.dropWhile isCaseIgnorable with
  | [] => false
  | c :: _ => isCased c

/-- Whether what stands before (nearest character first) and after puts a sigma at the end of a
word: a cased character before it and none after it. -/
def endsWord (before after : List Char) : Bool := leadsCased before && !leadsCased after

/-- The lower case of a character between its neighbours. -/
def lowerAt (before : List Char) (c : Char) (after : List Char) : List Char :=
  if c = 'Σ' then [if endsWord before after then 'ς' else 'σ'] else lowerChar c

/-- The lower case of the rest of a text, given what stands before it, nearest first. -/
def lowerAfter (before : List Char) : List Char → List Char
  | [] => []
  | c :: cs => lowerAt before c cs ++ lowerAfter (c :: before) cs

/-- The lower case of a text. -/
def lower (cs : List Char) : List Char := lowerAfter [] cs

/-- A string in lower case. -/
def lowered (s : String) : String := String.ofList (lower s.toList)

/-- The upper case of a text. -/
def upper (cs : List Char) : List Char := cs.flatMap upperChar

/-- The title case of the rest of a text: a cased character that follows a cased one is lowered,
any other opens a word. -/
def titleAfter (before : List Char) : List Char → List Char
  | [] => []
  | c :: cs =>
    (if before.head?.any isCased then lowerAt before c cs else titleChar c)
      ++ titleAfter (c :: before) cs

/-- The title case of a text. -/
def title (cs : List Char) : List Char := titleAfter [] cs

/-- An ASCII character has its plain lower case whatever stands around it. -/
theorem lowerAt_ascii {before after : List Char} {c : Char} (h : c.toNat < 0x80) :
    lowerAt before c after = [c.toLower] := by
  have hne : c ≠ 'Σ' := by
    rintro rfl
    exact absurd h (by decide)
  simp [lowerAt, lowerChar, hne, h]

/-- An ASCII text has the plain lower case of its characters. -/
theorem lower_of_ascii {cs : List Char} (ascii : ∀ c ∈ cs, c.toNat < 0x80) :
    lower cs = cs.map Char.toLower := by
  have after (before : List Char) : lowerAfter before cs = cs.map Char.toLower := by
    induction cs generalizing before with
    | nil => rfl
    | cons c cs ih =>
      obtain ⟨first, rest⟩ := List.forall_mem_cons.1 ascii
      rw [lowerAfter, lowerAt_ascii first, ih rest]
      rfl
  exact after []

end CommandScript.Text
