/-!
# Cutting texts

A text cut at every occurrence of a character.

## Main definitions

- `CommandScript.Text.splitAt` — the parts of a text between occurrences of a character

## Main results

- `CommandScript.Text.intercalate_splitAt` — the parts joined again are the text
- `CommandScript.Text.splitAt_separator`, `exists_splitAt_cons` — the parts of a text by its first
  character
- `CommandScript.Text.splitAt_of_notMem` — a text without the character is its only part
- `CommandScript.Text.splitAt_append` — the parts of two texts with the character between them
-/

namespace CommandScript.Text

/-- The parts of a text between occurrences of a character; the empty text has one empty part. -/
def splitAt (separator : Char) : List Char → List (List Char)
  | [] => [[]]
  | c :: cs =>
    if c = separator then [] :: splitAt separator cs
    else
      match splitAt separator cs with
      | [] => [[c]]
      | p :: ps => (c :: p) :: ps

/-- A text has at least one part. -/
theorem splitAt_ne_nil (separator : Char) (cs : List Char) : splitAt separator cs ≠ [] := by
  fun_induction splitAt separator cs <;> simp

@[simp]
theorem splitAt_separator (separator : Char) (cs : List Char) :
    splitAt separator (separator :: cs) = [] :: splitAt separator cs :=
  if_pos rfl

/-- Any other character stands at the head of the first part. -/
theorem exists_splitAt_cons {separator c : Char} (other : c ≠ separator) (cs : List Char) :
    ∃ p ps, splitAt separator cs = p :: ps ∧ splitAt separator (c :: cs) = (c :: p) :: ps := by
  obtain ⟨p, ps, parts⟩ := List.exists_cons_of_ne_nil (splitAt_ne_nil separator cs)
  exact ⟨p, ps, parts, by rw [splitAt, if_neg other, parts]⟩

/-- The parts joined again are the text. -/
theorem intercalate_splitAt (separator : Char) (cs : List Char) :
    [separator].intercalate (splitAt separator cs) = cs := by
  induction cs with
  | nil => simp [splitAt]
  | cons c cs ih =>
    by_cases here : c = separator
    · subst here
      obtain ⟨p, ps, parts⟩ := List.exists_cons_of_ne_nil (splitAt_ne_nil c cs)
      rw [splitAt_separator, parts, List.intercalate_cons_cons, ← parts, ih]
      rfl
    · obtain ⟨p, ps, parts, parts'⟩ := exists_splitAt_cons here cs
      rw [parts] at ih
      rw [parts']
      cases ps <;> simp_all [List.intercalate_cons_cons]

/-- A text without the character is its only part. -/
theorem splitAt_of_notMem {separator : Char} {cs : List Char} (whole : separator ∉ cs) :
    splitAt separator cs = [cs] := by
  induction cs with
  | nil => rfl
  | cons c cs ih =>
    obtain ⟨other, whole⟩ := not_or.1 (mt List.mem_cons.2 whole)
    obtain ⟨p, ps, parts, parts'⟩ := exists_splitAt_cons (Ne.symm other) cs
    rw [ih whole] at parts
    cases parts
    exact parts'

/-- The parts of two texts with the character between them are those of the one and of the other. -/
theorem splitAt_append (separator : Char) (before after : List Char) :
    splitAt separator (before ++ separator :: after) =
      splitAt separator before ++ splitAt separator after := by
  induction before with
  | nil => simp [splitAt]
  | cons c cs ih =>
    rw [List.cons_append]
    by_cases here : c = separator
    · rw [here, splitAt_separator, splitAt_separator, ih, List.cons_append]
    · obtain ⟨p, ps, parts, parts'⟩ := exists_splitAt_cons here cs
      rw [parts', splitAt, if_neg here, ih, parts]
      rfl

end CommandScript.Text
