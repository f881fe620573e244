import CommandScript.Proofs.Script.Reading

/-!
# How segments are read

A command string is read one call or one glyph at a time. Where it stands says where its calls
stand, and nothing else.

## Main definitions

- `CommandScript.Script.Reads` — the rules by which segments are read
- `CommandScript.Script.Segment.moved` — a segment that stands elsewhere

## Main results

- `CommandScript.Script.segmentsFrom_induction` — induction on how segments are read
- `CommandScript.Script.segmentsFrom_eq_ok_iff` — segments are read by the rules
- `CommandScript.Script.segmentsFrom_moved` — the segments of glyphs that stand elsewhere
-/

namespace CommandScript.Script

theorem exists_of_map_eq_ok {ε α β : Type} {f : α → β} {e : Except ε α} {b : β}
    (h : e.map f = .ok b) : ∃ a, e = .ok a ∧ f a = b := by
  cases e with
  | error e => cases h
  | ok a => exact ⟨a, rfl, Except.ok.inj h⟩

section Steps

variable {offset : Nat} {line : Int} {g : Glyph} {gs after body rest : List Glyph}
  {name : List Char}

@[simp] theorem segmentsFrom_nil : segmentsFrom offset line [] = .ok [] := by
  rw [segmentsFrom]

/-- A call comes before what follows its bracket. -/
theorem segmentsFrom_call (head : head? gs = some (name, after))
    (closed : enclosed? 0 after = some (body, rest)) :
    segmentsFrom offset line (.plain '$' :: gs) =
      (segmentsFrom (offset + (Call.mk name (spell body) offset line).source.length)
        (line + lineEnds (Call.mk name (spell body) offset line).source) rest).map
        (.call ⟨name, spell body, offset, line⟩ :: ·) := by
  rw [segmentsFrom, if_pos rfl]
  split
  · next heq =>
    obtain ⟨rfl, rfl⟩ := Prod.mk.inj (Option.some.inj (heq.symm.trans head))
    split
    · next heq' =>
      obtain ⟨rfl, rfl⟩ := Prod.mk.inj (Option.some.inj (heq'.symm.trans closed))
      rfl
    · next heq' => simp [heq'] at closed
  · next heq => simp [heq] at head

/-- A call that is not closed makes glyphs malformed. -/
theorem segmentsFrom_unterminated (head : head? gs = some (name, after))
    (unclosed : enclosed? 0 after = none) :
    segmentsFrom offset line (.plain '$' :: gs) = .error (unterminated name offset line) := by
  rw [segmentsFrom, if_pos rfl]
  split
  · next heq =>
    obtain ⟨rfl, rfl⟩ := Prod.mk.inj (Option.some.inj (heq.symm.trans head))
    split
    · next heq' => simp [heq'] at unclosed
    · rfl
  · next heq => simp [heq] at head

/-- A glyph that opens no call belongs to a literal text. -/
theorem segmentsFrom_cons (h : g = .plain '$' → head? gs = none) :
    segmentsFrom offset line (g :: gs) =
      (segmentsFrom (offset + g.width) (line + lineEnds g.chars) gs).map (consGlyph g) := by
  rw [segmentsFrom]
  split
  · next dollar =>
    subst dollar
    split
    · next heq => simp [h rfl] at heq
    · simp [Glyph.width, Glyph.chars, lineEnds]
  · rfl

/-- Induction on how segments are read: nothing is left, a call is read, a call is not closed, or a
glyph of a literal text is read. -/
@[elab_as_elim]
theorem segmentsFrom_induction {motive : List Glyph → Prop} (nil : motive [])
    (call : ∀ gs name after body rest, head? gs = some (name, after) →
      enclosed? 0 after = some (body, rest) → motive rest → motive (.plain '$' :: gs))
    (unterminated : ∀ gs name after, head? gs = some (name, after) → enclosed? 0 after = none →
      motive (.plain '$' :: gs))
    (glyph : ∀ g gs, (g = .plain '$' → head? gs = none) → motive gs → motive (g :: gs))
    (gs : List Glyph) : motive gs := by
  -- What follows a call is shorter, but it is not the tail.
  induction gs using (measure List.length).wf.induction with
  | _ gs ih =>
    cases gs with
    | nil => exact nil
    | cons g gs =>
      have shorter : motive gs := ih gs (Nat.lt_succ_self _)
      by_cases dollar : g = .plain '$'
      · subst dollar
        cases head : head? gs with
        | none => exact glyph _ gs (fun _ => head) shorter
        | some p =>
          obtain ⟨name, after⟩ := p
          cases closed : enclosed? 0 after with
          | none => exact unterminated gs name after head closed
          | some q =>
            obtain ⟨body, rest⟩ := q
            refine call gs name after body rest head closed (ih rest ?_)
            have := length_lt_of_head? head
            have := length_lt_of_enclosed? closed
            exact Nat.lt_succ_of_lt (by omega)
      · exact glyph g gs (fun h => absurd h dollar) shorter

/-- The rules by which segments are read from glyphs that start at an offset and a line. -/
inductive Reads : Nat → Int → List Glyph → List Segment → Prop
  | nil {offset : Nat} {line : Int} : Reads offset line [] []
  | call {offset : Nat} {line : Int} {gs after body rest : List Glyph} {name : List Char}
      {parts : List Segment} (head : head? gs = some (name, after))
      (closed : enclosed? 0 after = some (body, rest))
      (others : Reads (offset + (Call.mk name (spell body) offset line).source.length)
        (line + lineEnds (Call.mk name (spell body) offset line).source) rest parts) :
      Reads offset line (.plain '$' :: gs) (.call ⟨name, spell body, offset, line⟩ :: parts)
  | glyph {offset : Nat} {line : Int} {g : Glyph} {gs : List Glyph} {parts : List Segment}
      (literal : g = .plain '$' → head? gs = none)
      (others : Reads (offset + g.width) (line + lineEnds g.chars) gs parts) :
      Reads offset line (g :: gs) (consGlyph g parts)

/-- Segments are read by the rules, and only by them. -/
theorem segmentsFrom_eq_ok_iff {parts : List Segment} :
    segmentsFrom offset line gs = .ok parts ↔ Reads offset line gs parts := by
  constructor
  · intro h
    induction gs using segmentsFrom_induction generalizing offset line parts with
    | nil =>
      obtain rfl := Except.ok.inj (segmentsFrom_nil.symm.trans h)
      exact .nil
    | call gs name after body rest head closed ih =>
      rw [segmentsFrom_call head closed] at h
      obtain ⟨parts, segmented, rfl⟩ := exists_of_map_eq_ok h
      exact .call head closed (ih segmented)
    | unterminated gs name after head unclosed =>
      rw [segmentsFrom_unterminated head unclosed] at h
      cases h
    | glyph g gs literal ih =>
      rw [segmentsFrom_cons literal] at h
      obtain ⟨parts, segmented, rfl⟩ := exists_of_map_eq_ok h
      exact .glyph literal (ih segmented)
  · intro h
    induction h with
    | nil => exact segmentsFrom_nil
    | call head closed _ ih => rw [segmentsFrom_call head closed, ih]; rfl
    | glyph literal _ ih => rw [segmentsFrom_cons literal, ih]; rfl

end Steps

/-- A call that stands so many characters and lines further on. -/
def Call.moved (k : Nat) (m : Int) (c : Call) : Call :=
  { c with offset := c.offset + k, line := c.line + m }

/-- A segment that stands so many characters and lines further on. -/
def Segment.moved (k : Nat) (m : Int) : Segment → Segment
  | .literal raw => .literal raw
  | .call c => .call (c.moved k m)

/-- A fault so many characters and lines further on. -/
def ParseError.moved (k : Nat) (m : Int) (e : ParseError) : ParseError :=
  { e with offset := e.offset + k, line := e.line + m }

section Moved

variable {k : Nat} {m : Int}

theorem consGlyph_moved (g : Glyph) (parts : List Segment) :
    (consGlyph g parts).map (Segment.moved k m) = consGlyph g (parts.map (Segment.moved k m)) := by
  match parts with
  | [] => rfl
  | .literal raw :: rest => rfl
  | .call c :: rest => rfl

/-- The segments of glyphs that stand further on are those of the glyphs, further on. -/
theorem segmentsFrom_moved (k : Nat) (m : Int) (gs : List Glyph) (offset : Nat) (line : Int) :
    segmentsFrom (offset + k) (line + m) gs =
      ((segmentsFrom offset line gs).map (List.map (Segment.moved k m))).mapError
        (ParseError.moved k m) := by
  induction gs using segmentsFrom_induction generalizing offset line with
  | nil =>
    rw [segmentsFrom_nil, segmentsFrom_nil]
    rfl
  | call gs name after body rest head closed ih =>
    rw [segmentsFrom_call head closed, segmentsFrom_call head closed]
    have source : (Call.mk name (spell body) (offset + k) (line + m)).source =
        (Call.mk name (spell body) offset line).source := rfl
    rw [source, Nat.add_right_comm, Int.add_right_comm, ih]
    cases segmentsFrom (offset + (Call.mk name (spell body) offset line).source.length)
        (line + lineEnds (Call.mk name (spell body) offset line).source) rest with
    | error e => rfl
    | ok parts => rfl
  | unterminated gs name after head unclosed =>
    rw [segmentsFrom_unterminated head unclosed, segmentsFrom_unterminated head unclosed]
    rfl
  | glyph g gs h ih =>
    rw [segmentsFrom_cons h, segmentsFrom_cons h, Nat.add_right_comm, Int.add_right_comm, ih]
    cases segmentsFrom (offset + g.width) (line + lineEnds g.chars) gs with
    | error e => rfl
    | ok parts => exact congrArg Except.ok (consGlyph_moved g parts).symm

end Moved

end CommandScript.Script
