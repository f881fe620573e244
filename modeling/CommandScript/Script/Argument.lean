import CommandScript.Script.Segment

/-!
# Arguments of calls

The text between the brackets of a call, cut at its separators. A separator counts where it is
neither escaped nor inside brackets. The empty text has no arguments.

## Main definitions

- `CommandScript.Script.arguments` — the arguments of a call's text
- `CommandScript.Script.argumentLines` — the lines on which the arguments start
- `CommandScript.Script.Call.nested` — the calls directly inside a call
-/

namespace CommandScript.Script

/-- The pieces with a glyph written in front of the first. -/
def consFirst (g : Glyph) : List (List Glyph) → List (List Glyph)
  | [] => [[g]]
  | p :: ps => (g :: p) :: ps

/-- The pieces of glyphs between separators, with the given number of brackets open. -/
def pieces (depth : Int) : List Glyph → List (List Glyph)
  | [] => [[]]
  | g :: gs =>
    if g = .plain ';' ∧ depth = 0 then [] :: pieces depth gs
    else consFirst g (pieces (depth + g.turn) gs)

/-- The arguments of a call's text. -/
def arguments (raw : List Char) : List (List Char) :=
  if raw.isEmpty then [] else (pieces 0 (glyphs raw)).map spell

/-- The lines on which pieces start that follow one another from the given line on. -/
def linesFrom (line : Int) : List (List Char) → List Int
  | [] => []
  | p :: ps => line :: linesFrom (line + lineEnds p) ps

/-- The lines on which the arguments of a call's text start. -/
def argumentLines (raw : List Char) (line : Int) : List Int := linesFrom line (arguments raw)

/-- The arguments of a call. -/
def Call.arguments (c : Call) : List (List Char) := Script.arguments c.raw

/-- The calls directly inside a call. -/
def Call.nested (c : Call) : Except ParseError (List Call) := calls c.raw c.line

/-- There are as many lines as pieces. -/
@[simp] theorem length_linesFrom (line : Int) (ps : List (List Char)) :
    (linesFrom line ps).length = ps.length := by
  induction ps generalizing line with
  | nil => rfl
  | cons p ps ih => simp [linesFrom, ih]

end CommandScript.Script
