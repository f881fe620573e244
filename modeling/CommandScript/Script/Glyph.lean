/-!
# Glyphs of command strings

A command string is read as a list of glyphs: single characters, and escape pairs of a backslash
and one of the five structural characters. Every scan of a command string walks over glyphs, so no
scan can take an escaped character for a structural one, and all of them agree on where the pairs
are.

## Main definitions

- `CommandScript.Script.Glyph` — a character or an escape pair
- `CommandScript.Script.glyphs` — the glyphs of a text
- `CommandScript.Script.spell` — the text of glyphs, as written
- `CommandScript.Script.unescape`, `CommandScript.Script.escape` — taking escapes away and adding
  them

## Main results

- `CommandScript.Script.spell_glyphs` — reading loses nothing
- `CommandScript.Script.glyphs_escape` — an escaped text has no structural glyph
-/

namespace CommandScript.Script

/-- The characters that an escape turns into plain text. -/
def isStructural (c : Char) : Bool :=
  c = '$' || c = '[' || c = ']' || c = ';' || c = '\\'

/-- A character of a command string, or an escape pair with the given second character. -/
inductive Glyph where
  | plain (c : Char)
  | escaped (c : Char)
  deriving DecidableEq, Repr

namespace Glyph

/-- The glyph as written. -/
def chars : Glyph → List Char
  | .plain c => [c]
  | .escaped c => ['\\', c]

/-- The character that the glyph stands for. -/
def value : Glyph → Char
  | .plain c => c
  | .escaped c => c

/-- The number of characters of the glyph. -/
def width : Glyph → Nat
  | .plain _ => 1
  | .escaped _ => 2

/-- How the bracket depth changes across the glyph. -/
def turn : Glyph → Int
  | .plain '[' => 1
  | .plain ']' => -1
  | _ => 0

end Glyph

/-- The glyphs of a text. -/
def glyphs : List Char → List Glyph
  | [] => []
  | [c] => [.plain c]
  | c :: d :: cs =>
    if c = '\\' ∧ isStructural d = true then .escaped d :: glyphs cs
    else .plain c :: glyphs (d :: cs)

/-- The text of glyphs, as written. -/
def spell (gs : List Glyph) : List Char := gs.flatMap Glyph.chars

/-- The text that glyphs stand for. -/
def evaluated (gs : List Glyph) : List Char := gs.map Glyph.value

/-- A text without its escapes. -/
def unescape (cs : List Char) : List Char := evaluated (glyphs cs)

/-- A text with an escape before each structural character. -/
def escape (cs : List Char) : List Char :=
  cs.flatMap fun c => if isStructural c then ['\\', c] else [c]

/-- The number of line ends in a text. -/
def lineEnds (cs : List Char) : Nat := cs.count '\n'

/-- The glyphs of a text spell it. -/
@[simp] theorem spell_glyphs (cs : List Char) : spell (glyphs cs) = cs := by
  fun_induction glyphs cs with
  | case1 => rfl
  | case2 c => rfl
  | case3 c d cs h ih => simpa [spell, Glyph.chars, h.1] using ih
  | case4 c d cs h ih => simpa [spell, Glyph.chars] using ih

/-- An ordinary character in front of a text is a glyph of its own. -/
theorem glyphs_cons_of_ne {c : Char} (h : c ≠ '\\') (cs : List Char) :
    glyphs (c :: cs) = .plain c :: glyphs cs := by
  cases cs with
  | nil => simp [glyphs]
  | cons d cs => simp [glyphs, h]

/-- An escape pair in front of a text is one glyph. -/
theorem glyphs_escaped {d : Char} (h : isStructural d = true) (cs : List Char) :
    glyphs ('\\' :: d :: cs) = .escaped d :: glyphs cs := by
  simp [glyphs, h]

/-- The glyphs of an escaped text: a pair for each structural character. -/
theorem glyphs_escape (cs : List Char) :
    glyphs (escape cs) =
      cs.map fun c => if isStructural c then Glyph.escaped c else Glyph.plain c := by
  induction cs with
  | nil => rfl
  | cons c cs ih =>
    have step : escape (c :: cs) =
        (if isStructural c then ['\\', c] else [c]) ++ escape cs := rfl
    by_cases h : isStructural c = true
    · simp [step, h, glyphs_escaped h, ih]
    · have ne : c ≠ '\\' := by
        rintro rfl
        simp [isStructural] at h
      simp [step, h, glyphs_cons_of_ne ne, ih]

/-- Taking the escapes away again gives the text back. -/
theorem unescape_escape (cs : List Char) : unescape (escape cs) = cs := by
  simp only [unescape, evaluated, glyphs_escape, List.map_map]
  conv => rhs; rw [← List.map_id cs]
  refine List.map_congr_left fun c _ => ?_
  by_cases h : isStructural c = true <;> simp [h, Glyph.value]

end CommandScript.Script
