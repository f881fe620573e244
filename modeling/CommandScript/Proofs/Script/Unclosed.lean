import CommandScript.Proofs.Script.Joining

/-!
# Calls that are not closed

A command string is malformed exactly where a call begins that is never closed: in no part of what
follows its head are more brackets closed than opened. The error points to the first such call that
is inside no call that is closed, and what stands before it is well formed.

## Main definitions

- `CommandScript.Script.HeadAt` — where the head of a call stands
- `CommandScript.Script.Covered` — what is inside an earlier call that is closed
- `CommandScript.Script.Unclosed` — a call that is never closed
- `CommandScript.Script.Passes` — glyphs that are read before others, as literal text and calls

## Main results

- `CommandScript.Script.enclosed?_eq_none_iff` — brackets are not closed where they are never outrun
- `CommandScript.Script.Passes.closed` — in what is read, every call is closed
- `CommandScript.Script.error_iff_unclosed` — the error of a malformed command string
-/

namespace CommandScript.Script

/-- At an offset of the text stands the head of a call with a name, neither escaped nor with a part
of it escaped, and the glyphs after its bracket are the given ones. -/
def HeadAt (cs : List Char) (o : Nat) (name : List Char) (after : List Glyph) : Prop :=
  IsIdentifier name ∧ ∃ before, (spell before).length = o ∧
    glyphs cs = before ++ .plain '$' :: (name.map .plain ++ .plain '[' :: after)

/-- The offset is inside an earlier call that is closed: the call begins before it, and what follows
the bracket that closes the call begins after it. -/
def Covered (cs : List Char) (o : Nat) : Prop :=
  ∃ o' name body rest, HeadAt cs o' name (body ++ .plain ']' :: rest) ∧ Balanced body ∧
    o' < o ∧ o + (spell rest).length < cs.length

/-- At an offset that is inside no earlier call that is closed begins a call that is never closed:
nowhere after its head have more brackets been closed than opened. -/
structure Unclosed (cs : List Char) (o : Nat) (name : List Char) : Prop where
  outside : ¬Covered cs o
  unclosed : ∃ after, HeadAt cs o name after ∧
    ∀ front, front <+: after → front.count (.plain ']') ≤ front.count (.plain '[')

/-- The glyphs are read before others as literal text and as calls that are closed in them. -/
inductive Passes : List Glyph → List Glyph → Prop
  | nil {rest : List Glyph} : Passes [] rest
  | glyph {g : Glyph} {front rest : List Glyph}
      (literal : g = .plain '$' → head? (front ++ rest) = none) (others : Passes front rest) :
      Passes (g :: front) rest
  | call {name : List Char} {body front rest : List Glyph} (identifier : IsIdentifier name)
      (balanced : Balanced body) (others : Passes front rest) :
      Passes (.plain '$' :: (name.map .plain ++ .plain '[' :: (body ++ .plain ']' :: front))) rest

section Brackets

variable {d e : Nat} {gs : List Glyph}

/-- The brackets that are open after glyphs are those that were open before them and were opened in
them, without those that were closed. -/
theorem count_of_level? (h : level? d gs = some e) :
    gs.count (.plain '[') + d = gs.count (.plain ']') + e := by
  induction gs generalizing d with
  | nil =>
    obtain rfl := Option.some.inj h
    rfl
  | cons g gs ih =>
    by_cases hopen : g = .plain '['
    · subst hopen
      have rest := ih h
      rw [List.count_cons_self, List.count_cons_of_ne (by decide)]
      omega
    · by_cases hclose : g = .plain ']'
      · subst hclose
        cases d with
        | zero => simp at h
        | succ d =>
          have rest := ih h
          rw [List.count_cons_self, List.count_cons_of_ne (by decide)]
          omega
      · rw [level?_cons_of_ne hopen hclose] at h
        rw [List.count_cons_of_ne hopen, List.count_cons_of_ne hclose]
        exact ih h

/-- Where a bracket is not closed, no bracket around it is. -/
theorem exists_level? (h : enclosed? d gs = none) : ∃ e, level? d gs = some e := by
  induction gs generalizing d with
  | nil => exact ⟨d, rfl⟩
  | cons g gs ih =>
    obtain ⟨e, one, level⟩ | ⟨rfl, rfl⟩ := level?_single d g
    · rw [enclosed?_cons one, Option.map_eq_none_iff] at h
      rw [level]
      exact ih h
    · simp at h

/-- A bracket is not closed where no part of what follows it closes more brackets than it opens. -/
theorem enclosed?_eq_none_iff :
    enclosed? 0 gs = none ↔
      ∀ front, front <+: gs → front.count (.plain ']') ≤ front.count (.plain '[') := by
  constructor
  · rintro unclosed front ⟨back, rfl⟩
    obtain ⟨e, level⟩ := exists_level? unclosed
    rw [level?_append, Option.bind_eq_some_iff] at level
    obtain ⟨e', level, -⟩ := level
    have count := count_of_level? level
    omega
  · intro outrun
    by_contra closed
    obtain ⟨⟨body, rest⟩, closed⟩ := Option.ne_none_iff_exists'.1 closed
    obtain ⟨rfl, balanced⟩ := eq_of_enclosed? closed
    have count := count_of_level? balanced
    have more := outrun (body ++ [.plain ']']) ⟨rest, by simp⟩
    rw [List.count_append, List.count_append] at more
    simp at more
    omega

end Brackets

section Heads

variable {name : List Char} {tail after body rest : List Glyph}

/-- No call begins in a name. -/
theorem suffix_of_suffix_name (named : name.all isNameChar = true)
    (cut : .plain '$' :: tail <:+ name.map .plain ++ .plain '[' :: after) :
    .plain '$' :: tail <:+ after := by
  induction name with
  | nil =>
    obtain eq | later := List.suffix_cons_iff.1 cut
    · cases eq
    · exact later
  | cons c name ih =>
    rw [List.all_cons, Bool.and_eq_true] at named
    obtain eq | later := List.suffix_cons_iff.1 cut
    · obtain rfl := Glyph.plain.inj (List.cons.inj eq).1
      exact absurd named.1 (by decide)
    · exact ih named.2 later

/-- What begins in a text before a bracket begins in the text or after the bracket. -/
theorem suffix_append_bracket (cut : .plain '$' :: tail <:+ body ++ .plain ']' :: rest) :
    (∃ inner, .plain '$' :: inner <:+ body ∧ tail = inner ++ .plain ']' :: rest) ∨
      .plain '$' :: tail <:+ rest := by
  induction body with
  | nil =>
    obtain eq | later := List.suffix_cons_iff.1 cut
    · cases eq
    · exact .inr later
  | cons g body ih =>
    obtain eq | later := List.suffix_cons_iff.1 cut
    · obtain ⟨rfl, rfl⟩ := List.cons.inj eq
      exact .inl ⟨body, List.suffix_refl _, rfl⟩
    · obtain ⟨inner, cut, eq⟩ | later := ih later
      · exact .inl ⟨inner, cut.trans (List.suffix_cons g body), eq⟩
      · exact .inr later

/-- The head of a call that begins before a bracket ends before it. -/
theorem exists_of_head_bracket (named : name.all isNameChar = true)
    (eq : name.map .plain ++ .plain '[' :: after = body ++ .plain ']' :: rest) :
    ∃ inner, body = name.map .plain ++ .plain '[' :: inner ∧
      after = inner ++ .plain ']' :: rest := by
  induction name generalizing body with
  | nil =>
    cases body with
    | nil => cases (List.cons.inj eq).1
    | cons g inner =>
      obtain ⟨rfl, rfl⟩ := List.cons.inj eq
      exact ⟨inner, rfl, rfl⟩
  | cons c name ih =>
    rw [List.all_cons, Bool.and_eq_true] at named
    cases body with
    | nil =>
      obtain rfl := Glyph.plain.inj (List.cons.inj eq).1
      exact absurd named.1 (by decide)
    | cons g body =>
      obtain ⟨rfl, rest⟩ := List.cons.inj eq
      obtain ⟨inner, rfl, rfl⟩ := ih named.2 rest
      exact ⟨inner, rfl, rfl⟩

/-- A call that begins in what closes its brackets is closed there. -/
theorem Balanced.exists_closed (balanced : Balanced body) (identifier : IsIdentifier name)
    (cut : .plain '$' :: tail <:+ body)
    (eq : name.map .plain ++ .plain '[' :: after = tail ++ .plain ']' :: rest) :
    ∃ inner more, after = inner ++ .plain ']' :: more ∧ Balanced inner ∧ rest <:+ more := by
  obtain ⟨inner, rfl, rfl⟩ := exists_of_head_bracket identifier.all eq
  obtain ⟨before, rfl⟩ := cut
  rw [Balanced, level?_append, Option.bind_eq_some_iff] at balanced
  obtain ⟨k, -, level⟩ := balanced
  obtain ⟨text, more, closed, -⟩ :=
    exists_enclosed?_of_head level (head?_eq_some_iff.2 ⟨identifier, rfl⟩)
  obtain ⟨rfl, closes⟩ := eq_of_enclosed? closed
  refine ⟨text, more ++ .plain ']' :: rest, by simp, closes, ?_⟩
  exact (List.suffix_cons _ rest).trans (List.suffix_append more _)

end Heads

namespace Passes

variable {name : List Char} {front after rest : List Glyph}

/-- In what is read, every call is closed. -/
theorem closed (h : Passes front rest) (identifier : IsIdentifier name)
    (head : .plain '$' :: (name.map .plain ++ .plain '[' :: after) <:+ front ++ rest)
    (before : rest.length ≤ (name.map Glyph.plain ++ .plain '[' :: after).length) :
    ∃ body more, after = body ++ .plain ']' :: more ∧ Balanced body ∧ rest <:+ more := by
  induction h with
  | nil =>
    have short := head.length_le
    simp only [List.nil_append, List.length_cons] at short
    omega
  | @glyph g front rest literal _ ih =>
    obtain eq | later := List.suffix_cons_iff.1 head
    · obtain ⟨rfl, spelled⟩ := List.cons.inj eq
      have opens := head?_eq_some_iff.2 ⟨identifier, spelled.symm⟩
      exact absurd ((literal rfl).symm.trans opens) (by simp)
    · exact ih later before
  | @call name' body front rest identifier' balanced _ ih =>
    have named : name'.all isNameChar = true := identifier'.all
    rw [List.cons_append, List.append_assoc, List.cons_append, List.append_assoc,
      List.cons_append] at head
    obtain eq | later := List.suffix_cons_iff.1 head
    · have opens := head?_eq_some_iff.2 ⟨identifier', (List.cons.inj eq).2⟩
      have same := (head?_eq_some_iff.2 ⟨identifier, rfl⟩).symm.trans opens
      obtain ⟨-, rfl⟩ := Prod.mk.inj (Option.some.inj same)
      exact ⟨body, _, rfl, balanced, List.suffix_append front rest⟩
    · obtain ⟨inner, cut, eq⟩ | later := suffix_append_bracket (suffix_of_suffix_name named later)
      · obtain ⟨text, more, rfl, closes, cut⟩ := balanced.exists_closed identifier cut eq
        exact ⟨text, more, rfl, closes, (List.suffix_append front rest).trans cut⟩
      · exact ih later before

/-- What is read before something is read by itself. -/
theorem exists_segments (h : Passes front rest) (offset : Nat) (line : Int) :
    ∃ parts, segmentsFrom offset line front = .ok parts := by
  induction h generalizing offset line with
  | nil => exact ⟨[], segmentsFrom_nil⟩
  | @glyph g front rest literal _ ih =>
    have alone : g = .plain '$' → head? front = none := by
      intro dollar
      by_contra opens
      obtain ⟨⟨name, after⟩, opens⟩ := Option.ne_none_iff_exists'.1 opens
      obtain ⟨identifier, rfl⟩ := head?_eq_some_iff.1 opens
      have longer := head?_eq_some_iff.2 ⟨identifier,
        List.append_assoc (name.map Glyph.plain) (.plain '[' :: after) rest⟩
      exact absurd ((literal dollar).symm.trans longer) (by simp)
    obtain ⟨parts, read⟩ := ih (offset + g.width) (line + lineEnds g.chars)
    exact ⟨_, by rw [segmentsFrom_cons alone, read]; rfl⟩
  | @call name body front rest identifier balanced _ ih =>
    obtain ⟨parts, read⟩ := ih _ _
    refine ⟨_, (segmentsFrom_call (head?_eq_some_iff.2 ⟨identifier, rfl⟩)
      (enclosed?_of_level? balanced front)).trans (by rw [read]; rfl)⟩

end Passes

/-- Glyphs are read to their end, or up to the head of a call that is not closed. -/
theorem segmentsFrom_cases (gs : List Glyph) (offset : Nat) (line : Int) :
    ((∃ parts, segmentsFrom offset line gs = .ok parts) ∧ Passes gs []) ∨
      ∃ front name after, gs = front ++ .plain '$' :: (name.map .plain ++ .plain '[' :: after) ∧
        IsIdentifier name ∧ enclosed? 0 after = none ∧
        Passes front (.plain '$' :: (name.map .plain ++ .plain '[' :: after)) ∧
        segmentsFrom offset line gs =
          .error (unterminated name (offset + (spell front).length)
            (line + lineEnds (spell front))) := by
  induction gs using segmentsFrom_induction generalizing offset line with
  | nil => exact .inl ⟨⟨[], segmentsFrom_nil⟩, .nil⟩
  | call gs name after body rest head closed ih =>
    rw [segmentsFrom_call head closed]
    obtain ⟨identifier, rfl⟩ := head?_eq_some_iff.1 head
    obtain ⟨rfl, balanced⟩ := eq_of_enclosed? closed
    obtain ⟨⟨parts, read⟩, passes⟩ | ⟨front, name', after', rfl, named, unclosed, passes, read⟩ :=
      ih (offset + (Call.mk name (spell body) offset line).source.length)
        (line + lineEnds (Call.mk name (spell body) offset line).source)
    · exact .inl ⟨⟨_, by rw [read]; rfl⟩, .call identifier balanced passes⟩
    · refine .inr ⟨_, name', after', by simp, named, unclosed, .call identifier balanced passes, ?_⟩
      have spelled := spell_call offset line (head?_eq_some_iff.2 ⟨identifier, rfl⟩)
        (enclosed?_of_level? balanced front)
      rw [read, spelled, List.length_append, lineEnds_append, Nat.add_assoc, Int.natCast_add,
        Int.add_assoc]
      rfl
  | unterminated gs name after head unclosed =>
    obtain ⟨identifier, rfl⟩ := head?_eq_some_iff.1 head
    refine .inr ⟨[], name, after, rfl, identifier, unclosed, .nil, ?_⟩
    rw [segmentsFrom_unterminated head unclosed]
    simp [lineEnds]
  | glyph g gs literal ih =>
    rw [segmentsFrom_cons literal]
    obtain ⟨⟨parts, read⟩, passes⟩ | ⟨front, name, after, rfl, named, unclosed, passes, read⟩ :=
      ih (offset + g.width) (line + lineEnds g.chars)
    · exact .inl ⟨⟨_, by rw [read]; rfl⟩, .glyph (by simpa using literal) passes⟩
    · refine .inr ⟨g :: front, name, after, rfl, named, unclosed, .glyph literal passes, ?_⟩
      rw [read, spell_cons, List.length_append, lineEnds_append, ← Glyph.width_eq, Nat.add_assoc,
        Int.natCast_add, Int.add_assoc]
      rfl

section Places

variable {cs name : List Char} {o : Nat} {line : Int} {front after body rest : List Glyph}

/-- Of two ends of the same glyphs, the one that spells more has more glyphs. -/
theorem length_lt_of_spell {gs s t : List Glyph} (first : s <:+ gs) (second : t <:+ gs)
    (less : (spell s).length < (spell t).length) : s.length < t.length := by
  by_contra le
  obtain ⟨more, rfl⟩ := List.suffix_of_suffix_length_le second first (Nat.le_of_not_lt le)
  rw [spell_append, List.length_append] at less
  omega

/-- In front of the place up to which a text is read, every call is closed before that place. -/
theorem Passes.closed_before (h : Passes front rest) (split : glyphs cs = front ++ rest)
    (head : HeadAt cs o name after) (before : o < (spell front).length) :
    ∃ body more, after = body ++ .plain ']' :: more ∧ Balanced body ∧
      cs.length ≤ (spell front).length + (spell more).length := by
  obtain ⟨identifier, ahead, rfl, eq⟩ := head
  have spelled {ahead behind : List Glyph} (eq : glyphs cs = ahead ++ behind) :
      (spell ahead).length + (spell behind).length = cs.length := by
    rw [← List.length_append, ← spell_append, ← eq, spell_glyphs]
  have suffix := eq ▸ List.suffix_append ahead _
  have apart := spelled split
  have here := spelled eq
  have longer : rest.length < _ :=
    length_lt_of_spell (split ▸ List.suffix_append front rest) suffix (by omega)
  obtain ⟨body, more, rfl, balanced, cut⟩ :=
    h.closed identifier (split ▸ suffix) (Nat.le_of_lt_succ longer)
  obtain ⟨between, rfl⟩ := cut
  refine ⟨body, _, rfl, balanced, ?_⟩
  rw [spell_append, List.length_append]
  omega

/-- A call that is never closed is not closed. -/
theorem Unclosed.false_of_closed (h : Unclosed cs o name)
    (closed : ∀ after, HeadAt cs o name after → ∃ body more, after = body ++ .plain ']' :: more ∧
      Balanced body) : False := by
  obtain ⟨after, head, outrun⟩ := h.unclosed
  obtain ⟨body, more, rfl, balanced⟩ := closed after head
  have unclosed := enclosed?_eq_none_iff.2 outrun
  rw [enclosed?_of_level? balanced more] at unclosed
  cases unclosed

/-- The head at which reading stops is one of a call that is never closed, and the first such. -/
theorem Passes.unclosed
    (h : Passes front (.plain '$' :: (name.map .plain ++ .plain '[' :: after)))
    (split : glyphs cs = front ++ .plain '$' :: (name.map .plain ++ .plain '[' :: after))
    (identifier : IsIdentifier name) (unclosed : enclosed? 0 after = none) :
    Unclosed cs (spell front).length name ∧
      ∀ o name', Unclosed cs o name' → (spell front).length ≤ o := by
  refine ⟨⟨?_, after, ⟨identifier, front, rfl, split⟩, enclosed?_eq_none_iff.1 unclosed⟩, ?_⟩
  · rintro ⟨o, name', body, rest, head, balanced, before, behind⟩
    obtain ⟨body', more, eq, balanced', far⟩ := h.closed_before split head before
    have same := (enclosed?_of_level? balanced rest).symm.trans
      ((congrArg (enclosed? 0) eq).trans (enclosed?_of_level? balanced' more))
    obtain ⟨-, rfl⟩ := Prod.mk.inj (Option.some.inj same)
    omega
  · intro o name' first
    by_contra before
    refine first.false_of_closed fun after head => ?_
    obtain ⟨body, more, eq, balanced, -⟩ := h.closed_before split head (Nat.lt_of_not_le before)
    exact ⟨body, more, eq, balanced⟩

end Places

/-- **A command string is malformed exactly where a call is never closed**, which begins inside no
earlier call that is closed. The error then has the offset of the first such call, the line on which
it begins and its function; and what stands before that call is well formed. -/
theorem error_iff_unclosed (cs : List Char) (line : Int) :
    ((∃ e, segments cs line = .error e) ↔ ∃ o name, Unclosed cs o name) ∧
      ∀ e, segments cs line = .error e → ∃ name,
        Unclosed cs e.offset name ∧ (∀ o name', Unclosed cs o name' → e.offset ≤ o) ∧
        e.line = line + lineEnds (cs.take e.offset) ∧
        e.function = some ("$" ++ String.ofList name) ∧
        ∃ parts, segments (cs.take e.offset) line = .ok parts := by
  obtain ⟨⟨parts, read⟩, passes⟩ | ⟨front, name, after, split, named, unclosed, passes, read⟩ :=
    segmentsFrom_cases (glyphs cs) 0 line
  · have none (o : Nat) (name : List Char) : ¬Unclosed cs o name := by
      refine fun first => first.false_of_closed fun after head => ?_
      obtain ⟨identifier, before, -, eq⟩ := head
      have suffix := eq ▸ List.suffix_append before _
      obtain ⟨body, more, eq, balanced, -⟩ :=
        passes.closed identifier (by rwa [List.append_nil]) (Nat.zero_le _)
      exact ⟨body, more, eq, balanced⟩
    have well (e : ParseError) : segments cs line ≠ .error e := by
      rw [segments, read]
      intro eq
      cases eq
    refine ⟨⟨?_, ?_⟩, fun e failed => absurd failed (well e)⟩
    · rintro ⟨e, failed⟩
      exact absurd failed (well e)
    · rintro ⟨o, name, first⟩
      exact absurd first (none o name)
  · obtain ⟨first, least⟩ := passes.unclosed split named unclosed
    have ahead : cs.take (spell front).length = spell front := by
      rw [← spell_glyphs cs, split, spell_append, List.take_left]
    have reading : glyphs (spell front) = front := (split ▸ isReading_glyphs cs : IsReading _).left
    obtain ⟨parts, whole⟩ := passes.exists_segments 0 line
    have failed : segments cs line =
        .error (unterminated name (spell front).length (line + lineEnds (spell front))) := by
      rw [segments, read, Nat.zero_add]
    refine ⟨⟨fun _ => ⟨_, name, first⟩, fun _ => ⟨_, failed⟩⟩, fun e failed' => ?_⟩
    obtain rfl := Except.error.inj (failed.symm.trans failed')
    refine ⟨name, first, least, ?_, rfl, parts, ?_⟩
    · show line + (lineEnds (spell front) : Int) = line + lineEnds (cs.take (spell front).length)
      rw [ahead]
    · show segments (cs.take (spell front).length) line = .ok parts
      rw [ahead, segments, reading, whole]

/-- A call that is not closed, with one inside it that is, and an escaped bracket at the end. -/
theorem error_iff_unclosed_escaped :
    segments ['\n', '$', 'f', '[', '$', 'g', '[', ']', '\\', ']'] 3 =
        .error (unterminated ['f'] 1 4) ∧
      ∃ name, Unclosed ['\n', '$', 'f', '[', '$', 'g', '[', ']', '\\', ']'] 1 name ∧
        (∀ o name', Unclosed ['\n', '$', 'f', '[', '$', 'g', '[', ']', '\\', ']'] o name' → 1 ≤ o) ∧
        (4 : Int) = 3 + lineEnds ['\n'] ∧ some "$f" = some ("$" ++ String.ofList name) ∧
        ∃ parts, segments ['\n'] 3 = .ok parts := by
  have failed : segments ['\n', '$', 'f', '[', '$', 'g', '[', ']', '\\', ']'] 3 =
      .error (unterminated ['f'] 1 4) := by
    rw [segments, show glyphs _ = [.plain '\n', .plain '$', .plain 'f', .plain '[', .plain '$',
      .plain 'g', .plain '[', .plain ']', .escaped ']'] from rfl]
    rw [segmentsFrom_cons (by simp), segmentsFrom_unterminated rfl rfl]
    rfl
  exact ⟨failed, (error_iff_unclosed _ 3).2 _ failed⟩

end CommandScript.Script
