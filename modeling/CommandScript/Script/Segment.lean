import CommandScript.Script.Glyph
import CommandScript.Text.Quoted

/-!
# Segments of command strings

A command string is a sequence of literal texts and calls `$name[arguments]`. A call reaches from
its `$` to the bracket that closes the one after its name; a call that is never closed makes the
whole string malformed.

## Main definitions

- `CommandScript.Script.Call`, `CommandScript.Script.Segment` — the pieces of a command string
- `CommandScript.Script.segments` — the segments of a command string
- `CommandScript.Script.source` — the command string of segments
- `CommandScript.Script.ParseError` — a call that is not closed

## Design notes

Positions are carried along while reading: the offset counts characters from the start of the
string, and the line counts line ends from a given first line.
-/

namespace CommandScript.Script

/-- One call in a command string: its name, the text between its brackets, and where it stands. -/
structure Call where
  name : List Char
  raw : List Char
  offset : Nat
  line : Int
  deriving DecidableEq, Repr

/-- A piece of a command string. -/
inductive Segment where
  | literal (raw : List Char)
  | call (c : Call)
  deriving DecidableEq, Repr

/-- A fault in the form of a command string, with the place of the call that it concerns. -/
structure ParseError where
  message : String
  offset : Nat
  line : Int
  function : Option String
  deriving DecidableEq, Repr

namespace Call

/-- The name of a call as messages show it. -/
def shownName (c : Call) : String := "$" ++ String.ofList c.name

/-- The call as written. -/
def source (c : Call) : List Char := '$' :: c.name ++ '[' :: c.raw ++ [']']

/-- The literal of a call in messages. -/
def literal (c : Call) : String :=
  "Call(" ++ Text.quoted (String.ofList c.name) ++ ", " ++ Text.quoted (String.ofList c.raw) ++
    ", line=" ++ toString c.line ++ ")"

/-- Whether two calls have the same name and the same text, wherever they stand. -/
def sameText (c d : Call) : Bool := c.name = d.name && c.raw = d.raw

end Call

namespace Segment

/-- The segment as written. -/
def source : Segment → List Char
  | .literal raw => raw
  | .call c => c.source

/-- The call of a segment that is one. -/
def call? : Segment → Option Call
  | .literal _ => none
  | .call c => some c

/-- The literal of a segment in messages. -/
def shown : Segment → String
  | .literal raw => "Literal(" ++ Text.quoted (String.ofList raw) ++ ")"
  | .call c => c.literal

/-- Whether two segments have the same text, wherever they stand. -/
def sameText : Segment → Segment → Bool
  | .literal a, .literal b => a = b
  | .call c, .call d => c.sameText d
  | _, _ => false

end Segment

/-- The command string of segments. -/
def source (segments : List Segment) : List Char := segments.flatMap Segment.source

/-- Whether a character may be part of a name. -/
def isNameChar (c : Char) : Bool := c.isAlphanum || c = '_'

/-- Whether a text is a name: letters, digits and underscores, with no digit in front. -/
def isName (cs : List Char) : Bool := cs.all isNameChar && cs.head?.any fun c => !c.isDigit

/-- The characters of a name at the front of glyphs, and the glyphs after them. -/
def nameSpan : List Glyph → List Char × List Glyph
  | [] => ([], [])
  | g :: gs =>
    match g with
    | .plain c =>
      if isNameChar c then
        let (name, rest) := nameSpan gs
        (c :: name, rest)
      else ([], g :: gs)
    | .escaped _ => ([], g :: gs)

/-- The name of a call whose `$` has been read, where `name[` follows, and the glyphs after the
bracket. -/
def head? (gs : List Glyph) : Option (List Char × List Glyph) :=
  match nameSpan gs with
  | (name, .plain '[' :: rest) => if isName name then some (name, rest) else none
  | _ => none

/-- The glyphs up to the bracket that closes the one before them, with `depth` further brackets
open, and the glyphs after it. -/
def enclosed? (depth : Nat) : List Glyph → Option (List Glyph × List Glyph)
  | [] => none
  | g :: gs =>
    if g = .plain '[' then (enclosed? (depth + 1) gs).map fun p => (g :: p.1, p.2)
    else if g = .plain ']' then
      match depth with
      | 0 => some ([], gs)
      | d + 1 => (enclosed? d gs).map fun p => (g :: p.1, p.2)
    else (enclosed? depth gs).map fun p => (g :: p.1, p.2)

/-- The error of a call that is not closed. -/
def unterminated (name : List Char) (offset : Nat) (line : Int) : ParseError where
  message := "Unterminated call $" ++ String.ofList name ++ ": missing ']'"
  offset := offset
  line := line
  function := some ("$" ++ String.ofList name)

/-- Segments with a glyph written in front of them, joined to a literal text that comes first. -/
def consGlyph (g : Glyph) : List Segment → List Segment
  | .literal raw :: rest => .literal (g.chars ++ raw) :: rest
  | rest => .literal g.chars :: rest

/-- What follows a name is a part of what the name was read from. -/
theorem length_nameSpan (gs : List Glyph) : (nameSpan gs).2.length ≤ gs.length := by
  fun_induction nameSpan gs with
  | case1 => exact Nat.le_refl _
  | case2 c gs _ name rest eq ih =>
    rw [eq] at ih
    exact Nat.le_succ_of_le ih
  | case3 => exact Nat.le_refl _
  | case4 => exact Nat.le_refl _

/-- What follows the head of a call is shorter than what it was read from. -/
theorem length_lt_of_head? {gs rest : List Glyph} {name : List Char}
    (h : head? gs = some (name, rest)) : rest.length < gs.length := by
  have le := length_nameSpan gs
  unfold head? at h
  split at h
  · rename_i heq
    split at h
    · simp only [Option.some.injEq, Prod.mk.injEq] at h
      rw [heq, h.2] at le
      exact le
    · simp at h
  · simp at h

/-- What follows a closing bracket is shorter than what it was read from. -/
theorem length_lt_of_enclosed? {depth : Nat} {gs body rest : List Glyph}
    (h : enclosed? depth gs = some (body, rest)) : rest.length < gs.length := by
  induction gs generalizing depth body with
  | nil => simp [enclosed?] at h
  | cons g gs ih =>
    have step {d : Nat}
        (h : (enclosed? d gs).map (fun p => (g :: p.1, p.2)) = some (body, rest)) :
        rest.length < (g :: gs).length := by
      obtain ⟨⟨b, r⟩, hb, heq⟩ := Option.map_eq_some_iff.1 h
      simp only [Prod.mk.injEq] at heq
      have lt := ih (heq.2 ▸ hb)
      simp only [List.length_cons]
      omega
    unfold enclosed? at h
    split at h
    · exact step h
    · split at h
      · cases depth with
        | zero =>
          simp only [Option.some.injEq, Prod.mk.injEq] at h
          simp [h.2]
        | succ d => exact step h
      · exact step h

/-- The segments of glyphs that start at the given offset and line. -/
def segmentsFrom (offset : Nat) (line : Int) : List Glyph → Except ParseError (List Segment)
  | [] => .ok []
  | g :: gs =>
    if g = .plain '$' then
      match h : head? gs with
      | some (name, afterHead) =>
        match _closed : enclosed? 0 afterHead with
        | some (body, rest) =>
          let c : Call := ⟨name, spell body, offset, line⟩
          let next := line + lineEnds c.source
          (segmentsFrom (offset + c.source.length) next rest).map (.call c :: ·)
        | none => .error (unterminated name offset line)
      -- A dollar sign that opens no call is literal text.
      | none => (segmentsFrom (offset + 1) line gs).map (consGlyph g)
    else
      (segmentsFrom (offset + g.width) (line + lineEnds g.chars) gs).map (consGlyph g)
termination_by gs => gs.length
decreasing_by
  · have a := length_lt_of_head? h
    have b := length_lt_of_enclosed? _closed
    simp only [List.length_cons]
    omega
  · simp
  · simp

/-- The segments of a command string whose first character stands on the given line. -/
def segments (cs : List Char) (line : Int) : Except ParseError (List Segment) :=
  segmentsFrom 0 line (glyphs cs)

/-- The calls of a command string that stand inside no other call. -/
def calls (cs : List Char) (line : Int) : Except ParseError (List Call) :=
  (segments cs line).map (·.filterMap Segment.call?)

end CommandScript.Script
