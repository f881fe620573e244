import CommandScript.Dispatch.Reading
import CommandScript.Proofs.Script.Coverage
import CommandScript.Proofs.Script.Joining

/-!
# Where arguments stand

The arguments of a call stand one after the other in the call as written, with a separator after
each but the last. The line of an argument is the line of the call and the line ends before it.
The text of a call is cut at the separators before which no bracket is open, and at no others, so
that texts that are joined by separators are cut again where they were joined.

## Main definitions

- `CommandScript.Script.upTo` — pieces up to one, with the separators after them
- `CommandScript.Script.Call.opening` — a call as written, up to one of its arguments
- `CommandScript.Script.depth` — how many more brackets are opened than closed
- `CommandScript.Script.Whole` — glyphs that are not cut where so many brackets are open before them

## Main results

- `CommandScript.Script.arguments_prefix` — arguments and separators are what they are cut out of
- `CommandScript.Script.Call.argument_place` — an argument and its line, by its place in the call
- `CommandScript.Script.cut_and_joined` — cutting and joining are inverse to each other
-/

namespace CommandScript.Script

/-- The pieces before the one at a position, with the separators after them. -/
def upTo (ps : List (List Char)) (i : Nat) : List Char := (ps.take i).flatMap (· ++ [';'])

@[simp] theorem upTo_zero (ps : List (List Char)) : upTo ps 0 = [] := rfl

@[simp] theorem upTo_cons_succ (p : List Char) (ps : List (List Char)) (i : Nat) :
    upTo (p :: ps) (i + 1) = p ++ ';' :: upTo ps i := by
  simp [upTo]

/-! ### Separators -/

/-- How many more brackets are opened in glyphs than closed. -/
def depth : List Glyph → Int
  | [] => 0
  | g :: gs => g.turn + depth gs

/-- With so many brackets open before them, the glyphs have no separator where none is open. What
is closed without being open counts against what is opened later. -/
def Whole (k : Int) (gs : List Glyph) : Prop :=
  ∀ before after, gs = before ++ .plain ';' :: after → k + depth before ≠ 0

section Pieces

variable {k : Int} {i : Nat} {g : Glyph} {gs p : List Glyph}

@[simp] theorem depth_nil : depth [] = 0 := rfl

@[simp] theorem depth_cons (g : Glyph) (gs : List Glyph) : depth (g :: gs) = g.turn + depth gs :=
  rfl

theorem whole_nil : Whole k [] := by simp [Whole]

theorem Whole.cons (rest : Whole (k + g.turn) gs) (uncut : ¬(g = .plain ';' ∧ k = 0)) :
    Whole k (g :: gs) := by
  intro before after eq
  cases before with
  | nil =>
    obtain ⟨rfl, -⟩ := List.cons.inj eq
    rw [depth_nil, Int.add_zero]
    exact fun zero => uncut ⟨rfl, zero⟩
  | cons _ before =>
    obtain ⟨rfl, later⟩ := List.cons.inj eq
    rw [depth_cons, ← Int.add_assoc]
    exact rest before after later

/-- A piece stands after the pieces and the separators before it, and it is not cut there. -/
theorem exists_front (at_i : (pieces k gs)[i]? = some p) :
    ∃ front rest, gs = front ++ p ++ rest ∧ spell front = upTo ((pieces k gs).map spell) i ∧
      Whole (k + depth front) p := by
  -- The glyph that is read next belongs to what is before the piece, or else to the piece.
  have longer {g : Glyph} {front p : List Glyph} {k : Int}
      (whole : Whole (k + g.turn + depth front) p) : Whole (k + depth (g :: front)) p := by
    rwa [depth_cons, ← Int.add_assoc]
  induction gs generalizing k i p with
  | nil =>
    obtain ⟨rfl, rfl⟩ : i = 0 ∧ p = [] := by
      cases i with
      | zero => exact ⟨rfl, (Option.some.inj at_i).symm⟩
      | succ i => simp [pieces] at at_i
    exact ⟨[], [], rfl, rfl, whole_nil⟩
  | cons g gs ih =>
    rw [pieces] at at_i ⊢
    split at at_i
    · next cut =>
      rw [if_pos cut]
      obtain ⟨rfl, rfl⟩ := cut
      cases i with
      | zero =>
        obtain rfl := Option.some.inj at_i
        exact ⟨[], _, rfl, rfl, whole_nil⟩
      | succ i =>
        obtain ⟨front, rest, rfl, spelled, whole⟩ := ih at_i
        exact ⟨.plain ';' :: front, rest, rfl, by simp [spelled, Glyph.chars],
          longer (g := .plain ';') whole⟩
    · next uncut =>
      rw [if_neg uncut]
      obtain ⟨q, qs, eq, -⟩ := exists_pieces (k + g.turn) gs
      have later := @ih (k + g.turn)
      rw [eq] at at_i later ⊢
      cases i with
      | zero =>
        obtain rfl := Option.some.inj at_i
        obtain ⟨front, rest, split, spelled, whole⟩ := @later 0 q rfl
        obtain rfl := spell_eq_nil.1 spelled
        rw [depth_nil, Int.add_zero] at whole
        exact ⟨[], rest, congrArg (g :: ·) split, rfl, by simpa using whole.cons uncut⟩
      | succ i =>
        obtain ⟨front, rest, rfl, spelled, whole⟩ := @later (i + 1) p at_i
        exact ⟨g :: front, rest, rfl, by simp [spelled, consFirst], longer whole⟩

end Pieces

/-- An argument stands in the text of its call after the arguments and the separators before it, and
has no separator where no bracket is open, counted from the start of that text. -/
theorem argument_whole {raw a : List Char} {i : Nat} (at_i : (arguments raw)[i]? = some a) :
    ∃ front rest, glyphs raw = front ++ glyphs a ++ rest ∧ spell front = upTo (arguments raw) i ∧
      ∀ before after, glyphs a = before ++ .plain ';' :: after →
        depth front + depth before ≠ 0 := by
  unfold arguments at at_i ⊢
  split at at_i
  · cases at_i
  · next written =>
    rw [if_neg written]
    rw [List.getElem?_map, Option.map_eq_some_iff] at at_i
    obtain ⟨p, at_p, rfl⟩ := at_i
    obtain ⟨front, rest, split, spelled, whole⟩ := exists_front at_p
    have read : glyphs (spell p) = p :=
      (isReading_glyphs raw).cutOut (infix_of_mem_pieces (List.mem_of_getElem? at_p))
    rw [Int.zero_add] at whole
    exact ⟨front, rest, by rw [read, split], spelled, by rw [read]; exact whole⟩

/-! ### Places -/

/-- The text of a call begins with its arguments up to one, that one, and the separators in
between. -/
theorem arguments_prefix {raw a : List Char} {i : Nat} (at_i : (arguments raw)[i]? = some a) :
    upTo (arguments raw) i ++ a <+: raw := by
  obtain ⟨front, rest, split, spelled, -⟩ := argument_whole at_i
  have text := congrArg spell split
  rw [spell_glyphs, spell_append, spell_append, spell_glyphs, spelled] at text
  exact ⟨spell rest, text.symm⟩

/-- The line of a piece is the first line and the line ends before the piece. -/
theorem linesFrom_getElem? {line m : Int} {ps : List (List Char)} {i : Nat}
    (at_i : (linesFrom line ps)[i]? = some m) : m = line + lineEnds (upTo ps i) := by
  induction ps generalizing line i with
  | nil => cases at_i
  | cons p ps ih =>
    cases i with
    | zero =>
      obtain rfl := Option.some.inj at_i
      exact (Int.add_zero _).symm
    | succ i =>
      have separator : lineEnds (';' :: upTo ps i) = lineEnds (upTo ps i) :=
        List.count_cons_of_ne (by decide)
      rw [upTo_cons_succ, lineEnds_append, separator, Int.natCast_add, ← Int.add_assoc]
      exact ih at_i

/-- An identifier is on one line. -/
theorem IsIdentifier.lineEnds_eq {name : List Char} (h : IsIdentifier name) :
    lineEnds name = 0 := by
  obtain ⟨c, rest, rfl, letter, others⟩ := h
  refine List.count_eq_zero.2 fun mem => ?_
  obtain rfl | mem := List.mem_cons.1 mem
  · exact absurd letter (by decide)
  · exact absurd (others _ mem) (by decide)

namespace Call

variable {c : Call} {index : Int} {a : List Char} {m : Int}

/-- A call as written, up to one of its arguments. -/
def opening (c : Call) (i : Nat) : List Char := '$' :: c.name ++ '[' :: upTo c.arguments i

/-- A call as written has each argument where the ones before it end, and on the line that is
reached there. -/
theorem argument_place (named : IsIdentifier c.name)
    (read : c.argumentAt? index = some (a, m)) :
    c.opening index.toNat ++ a <+: c.source ∧ m = c.line + lineEnds (c.opening index.toNat) := by
  unfold argumentAt? at read
  split at read
  · cases read
  · obtain ⟨at_a, at_m⟩ := List.getElem?_zip_eq_some.1 read
    have head : lineEnds ('$' :: c.name ++ ['[']) = 0 := by
      rw [lineEnds_append]
      exact congrArg (· + 0) ((List.count_cons_of_ne (by decide)).trans named.lineEnds_eq)
    have opened : c.opening index.toNat =
        '$' :: c.name ++ ['['] ++ upTo c.arguments index.toNat := by
      simp [opening]
    constructor
    · obtain ⟨rest, eq⟩ := arguments_prefix at_a
      refine ⟨rest ++ [']'], ?_⟩
      rw [opened, source, ← eq, Call.arguments]
      simp
    · rw [opened, lineEnds_append, head, Nat.zero_add]
      exact linesFrom_getElem? at_m

example : (Call.mk ['f'] ['a', '\n', ';', 'b'] 0 3).argumentAt? 1 = some (['b'], 4) := by decide

end Call

/-! ### Cutting and joining -/

/-- **Cutting at separators and joining with them are inverse to each other.** The arguments of a
text, joined again, are the text; each of them stands after those before it, and has no separator
where no bracket is open, counted from the start of the text. Conversely, texts that close the
brackets that they open and no others, have no separator outside of them and no backslash without a
partner at the end are the arguments of what they are joined to, unless they are none, or the empty
text alone. -/
theorem cut_and_joined :
    (∀ raw, joined (arguments raw) = raw ∧
      ∀ i a, (arguments raw)[i]? = some a →
        ∃ front rest, glyphs raw = front ++ glyphs a ++ rest ∧
          spell front = upTo (arguments raw) i ∧
          ∀ before after, glyphs a = before ++ .plain ';' :: after →
            depth front + depth before ≠ 0) ∧
    ∀ as, (∀ a ∈ as, IsArgument a) → as ≠ [] → as ≠ [[]] → arguments (joined as) = as :=
  ⟨fun raw => ⟨joined_arguments raw, fun _ _ => argument_whole⟩, fun _ => arguments_joined⟩

/-- A text that begins with a stray bracket and is cut where another one makes up for it, and two
texts that are joined, with a separator in brackets and an escaped one. -/
theorem cut_and_joined_stray :
    (arguments [']', ';', 'a', '[', ';'] = [[']', ';', 'a', '['], []] ∧
      joined (arguments [']', ';', 'a', '[', ';']) = [']', ';', 'a', '[', ';']) ∧
      (∀ a ∈ [['[', ';', ']'], ['\\', ';']], IsArgument a) ∧
      arguments (joined [['[', ';', ']'], ['\\', ';']]) = [['[', ';', ']'], ['\\', ';']] := by
  have bracketed : IsArgument ['[', ';', ']'] := by
    have inner : Undivided 1 [.plain ';', .plain ']'] :=
      (undivided_of_notMem (by decide)).cons (e := 1) rfl (by simp)
    exact ⟨⟨rfl, by decide⟩, inner.cons rfl (by simp)⟩
  have escaped : IsArgument ['\\', ';'] := ⟨⟨rfl, by decide⟩, undivided_of_notMem (by decide)⟩
  have each : ∀ a ∈ [['[', ';', ']'], ['\\', ';']], IsArgument a := by
    simpa using ⟨bracketed, escaped⟩
  exact ⟨⟨by decide, (cut_and_joined.1 _).1⟩, each, cut_and_joined.2 _ each (by simp) (by simp)⟩

end CommandScript.Script
