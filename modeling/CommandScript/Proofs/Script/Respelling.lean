import Mathlib.Data.List.Chain
import Mathlib.Data.List.Forall2
import CommandScript.Proofs.Script.Coverage

/-!
# Reading what segments spell

Segments from which a command string could have been read are read from it again. No head of a call
and no escape pair reaches from one segment into the next, and each call is closed by the bracket
that was written for it.

## Main definitions

- `CommandScript.Script.Closed` — texts that may stand between the brackets of a call
- `CommandScript.Script.Canonical` — segments that may stand in a command string
- `CommandScript.Script.placed` — segments put where they stand

## Main results

- `CommandScript.Script.Canonical.reads` — such segments are read by the rules
- `CommandScript.Script.Reads.canonical` — and no others are
- `CommandScript.Script.segments_source` — what such segments spell is read as these segments
-/

namespace CommandScript.Script

/-- The text closes all brackets that it opens and no others, and no backslash without a partner is
at its end. -/
def Closed (raw : List Char) : Prop :=
  Balanced (glyphs raw) ∧ (glyphs raw).getLast? ≠ some (.plain '\\')

/-- Whether a segment may stand right before another one: literal texts do not stand next to one
another, and a literal text before a call does not end in a backslash without a partner. -/
def Segment.MayPrecede : Segment → Segment → Prop
  | .literal _, .literal _ => False
  | .literal raw, .call _ => (glyphs raw).getLast? ≠ some (.plain '\\')
  | .call _, _ => True

/-- Segments that may stand in a command string. -/
structure Canonical (parts : List Segment) : Prop where
  /-- A literal text is not empty, and no call begins in it. -/
  literal : ∀ raw, .literal raw ∈ parts → raw ≠ [] ∧ ¬Opens (glyphs raw)
  /-- Each segment may stand right before the next one. -/
  chain : parts.IsChain Segment.MayPrecede
  /-- A call is named by an identifier, and its text is closed. -/
  call : ∀ c, .call c ∈ parts → IsIdentifier c.name ∧ Closed c.raw

/-- The segments are of the same kinds and have the same names and texts, wherever they stand. -/
def SameTexts (parts others : List Segment) : Prop :=
  List.Forall₂ (fun part other => part.sameText other = true) parts others

/-- Segments put one after the other, from an offset and a line on. -/
def placed (offset : Nat) (line : Int) : List Segment → List Segment
  | [] => []
  | .literal raw :: rest =>
    .literal raw :: placed (offset + raw.length) (line + lineEnds raw) rest
  | .call c :: rest =>
    .call ⟨c.name, c.raw, offset, line⟩ ::
      placed (offset + c.source.length) (line + lineEnds c.source) rest

section Placed

variable {offset : Nat} {line : Int} {parts : List Segment}

/-- Putting segments somewhere does not change their texts. -/
theorem sameTexts_placed (offset : Nat) (line : Int) (parts : List Segment) :
    SameTexts parts (placed offset line parts) := by
  induction parts generalizing offset line with
  | nil => exact .nil
  | cons part rest ih =>
    cases part with
    | literal raw => exact .cons (by simp [Segment.sameText]) (ih _ _)
    | call c => exact .cons (by simp [Segment.sameText, Call.sameText]) (ih _ _)

end Placed

section Calls

variable {d : Nat} {gs hs body rest : List Glyph} {c : Call} {name : List Char}

theorem IsIdentifier.all (h : IsIdentifier name) : name.all isNameChar = true :=
  (Bool.and_eq_true _ _ ▸ isName_iff.2 h : name.all isNameChar = true ∧ _).1

/-- A text without backslashes in front of another one is read character by character. -/
theorem glyphs_plain_append {cs : List Char} (plain : '\\' ∉ cs) (ds : List Char) :
    glyphs (cs ++ ds) = cs.map .plain ++ glyphs ds := by
  induction cs with
  | nil => rfl
  | cons c cs ih =>
    have ne : c ≠ '\\' := fun eq => plain (eq ▸ .head _)
    rw [List.cons_append, glyphs_cons_of_ne ne, ih fun mem => plain (.tail _ mem), List.map_cons,
      List.cons_append]

/-- Glyphs that close all open brackets end where the bracket around them is closed. -/
theorem enclosed?_of_level? (h : level? d body = some 0) (rest : List Glyph) :
    enclosed? d (body ++ .plain ']' :: rest) = some (body, rest) := by
  induction body generalizing d with
  | nil =>
    obtain rfl := Option.some.inj h
    rfl
  | cons g body ih =>
    obtain ⟨e, one, level⟩ | ⟨rfl, rfl⟩ := level?_single d g
    · rw [level] at h
      rw [List.cons_append, enclosed?_cons one, ih h]
      rfl
    · simp at h

/-- The glyphs of a call whose text is closed, and of what comes after it. -/
theorem glyphs_source_append (named : IsIdentifier c.name) (closed : Closed c.raw)
    (cs : List Char) :
    glyphs (c.source ++ cs) =
      .plain '$' :: (c.name.map .plain ++ .plain '[' ::
        (glyphs c.raw ++ .plain ']' :: glyphs cs)) := by
  have plain : '\\' ∉ c.name := fun mem =>
    absurd (List.all_eq_true.1 named.all _ mem) (by decide)
  have spelled : c.source ++ cs = '$' :: (c.name ++ '[' :: (c.raw ++ ']' :: cs)) := by
    simp [Call.source]
  rw [spelled, glyphs_cons_of_ne (by decide), glyphs_plain_append plain,
    glyphs_cons_of_ne (by decide), glyphs_append _ closed.2, glyphs_cons_of_ne (by decide)]

/-- Where no call begins in glyphs, none begins with a dollar sign of theirs in what comes after
them, if that begins with a dollar sign itself. -/
theorem head?_eq_none_of_not_opens (plain : ¬Opens (.plain '$' :: gs))
    (next : ∀ g, hs.head? = some g → g = .plain '$') : head? (gs ++ hs) = none := by
  cases head : head? (gs ++ hs) with
  | none => rfl
  | some p =>
    obtain ⟨name, after⟩ := p
    obtain ⟨identifier, eq⟩ := head?_eq_some_iff.1 head
    obtain ⟨more, names, rest⟩ | ⟨more, names, rest⟩ := List.append_eq_append_iff.1 eq
    · -- The head ends in what comes after the glyphs, so that begins with one of its glyphs.
      cases more with
      | nil =>
        rw [List.nil_append] at rest
        exact absurd (next (.plain '[') (by rw [rest]; rfl)) (by simp)
      | cons g more =>
        obtain rfl := next g (by rw [rest]; rfl)
        have mem : Glyph.plain '$' ∈ name.map .plain := by simp [names]
        obtain ⟨c, part, eq⟩ := List.mem_map.1 mem
        obtain rfl := Glyph.plain.inj eq
        exact absurd (List.all_eq_true.1 identifier.all _ part) (by decide)
    · cases more with
      | nil =>
        rw [List.nil_append] at rest
        exact absurd (next (.plain '[') (by rw [← rest]; rfl)) (by simp)
      | cons g more =>
        obtain ⟨rfl, rfl⟩ := List.cons.inj rest
        exact absurd ⟨[], name, more, identifier, by rw [names]; rfl⟩ plain

end Calls

section Reading

variable {offset : Nat} {line : Int} {gs hs : List Glyph} {parts : List Segment}

/-- Glyphs in which no call begins are read as one literal text, before segments that do not start
with one. -/
theorem Reads.literal (others : Reads (offset + (spell gs).length) (line + lineEnds (spell gs)) hs
      parts)
    (nonempty : gs ≠ []) (plain : ¬Opens gs) (next : ∀ g, hs.head? = some g → g = .plain '$')
    (apart : ∀ raw rest, parts ≠ .literal raw :: rest) :
    Reads offset line (gs ++ hs) (.literal (spell gs) :: parts) := by
  induction gs generalizing offset line with
  | nil => exact absurd rfl nonempty
  | cons g gs ih =>
    have opens : g = .plain '$' → head? (gs ++ hs) = none := by
      rintro rfl
      exact head?_eq_none_of_not_opens plain next
    rw [spell_cons, List.length_append, lineEnds_append, ← Nat.add_assoc, Int.natCast_add,
      ← Int.add_assoc, ← Glyph.width_eq] at others
    cases gs with
    | nil =>
      have alone : consGlyph g parts = .literal (spell [g]) :: parts := by
        match parts with
        | [] => simp [consGlyph]
        | .literal raw :: rest => exact absurd rfl (apart raw rest)
        | .call c :: rest => simp [consGlyph]
      rw [← alone]
      refine .glyph opens ?_
      simpa [lineEnds] using others
    | cons g' gs =>
      refine .glyph opens (ih others (List.cons_ne_nil _ _) fun later => plain ?_)
      obtain ⟨before, name, after, identifier, eq⟩ := later
      exact ⟨g :: before, name, after, identifier, by rw [eq]; rfl⟩

namespace Canonical

variable {part : Segment}

theorem tail (h : Canonical (part :: parts)) : Canonical parts where
  literal raw mem := h.literal raw (.tail _ mem)
  chain := h.chain.tail
  call c mem := h.call c (.tail _ mem)

/-- Segments that may stand in a command string are read from what they spell. -/
theorem reads (h : Canonical parts) (offset : Nat) (line : Int) :
    Reads offset line (glyphs (source parts)) (placed offset line parts) := by
  induction parts generalizing offset line with
  | nil => exact .nil
  | cons part rest ih =>
    cases part with
    | call c =>
      obtain ⟨named, closed⟩ := h.call c (.head _)
      rw [source_cons, Segment.source, glyphs_source_append named closed]
      have others := ih h.tail (offset + c.source.length) (line + lineEnds c.source)
      have inner := enclosed?_of_level? closed.1 (glyphs (source rest))
      have read : Reads offset line _
          (.call ⟨c.name, spell (glyphs c.raw), offset, line⟩ ::
            placed (offset + c.source.length) (line + lineEnds c.source) rest) :=
        .call (head?_eq_some_iff.2 ⟨named, rfl⟩) inner (by rw [spell_glyphs]; exact others)
      rwa [spell_glyphs] at read
    | literal raw =>
      obtain ⟨written, plain⟩ := h.literal raw (.head _)
      have nonempty : glyphs raw ≠ [] := fun nil => written (by rw [← spell_glyphs raw, nil]; rfl)
      have others := ih h.tail (offset + raw.length) (line + lineEnds raw)
      -- A call or nothing comes next, and neither goes on with the literal text.
      cases rest with
      | nil =>
        have read : Reads offset line (glyphs raw ++ []) (.literal (spell (glyphs raw)) :: []) :=
          .literal .nil nonempty plain (by simp) (by simp)
        simpa [placed, Segment.source] using read
      | cons next after =>
        have last := (List.isChain_cons_cons.1 h.chain).1
        cases next with
        | literal raw' => exact absurd last not_false
        | call c =>
          obtain ⟨named, closed⟩ := h.call c (.tail _ (.head _))
          rw [source_cons, Segment.source, glyphs_append _ last]
          have first : ∀ g, (glyphs (source (.call c :: after))).head? = some g →
              g = .plain '$' := by
            intro g eq
            rw [source_cons, Segment.source, glyphs_source_append named closed] at eq
            exact (Option.some.inj eq).symm
          have read : Reads offset line (glyphs raw ++ glyphs (source (.call c :: after)))
              (.literal (spell (glyphs raw)) ::
                placed (offset + raw.length) (line + lineEnds raw) (.call c :: after)) :=
            .literal (by rw [spell_glyphs]; exact others) nonempty plain first (by simp [placed])
          rwa [spell_glyphs] at read

theorem segments_eq (h : Canonical parts) (line : Int) :
    segments (source parts) line = .ok (placed 0 line parts) :=
  segmentsFrom_eq_ok_iff.2 (h.reads 0 line)

end Canonical

/-- Glyphs before a structural character do not end in a backslash without a partner. -/
theorem IsReading.getLast?_ne {d : Char} (h : IsReading (gs ++ .plain d :: hs))
    (structural : Script.isStructural d = true) : gs.getLast? ≠ some (.plain '\\') := by
  intro last
  obtain ⟨front, rfl⟩ := List.getLast?_eq_some_iff.1 last
  rw [List.append_assoc] at h
  exact h.right.not_isStructural rfl structural

/-- Segments that start with a call are read from a dollar sign on. -/
theorem Reads.exists_of_call {c : Call} {rest : List Segment}
    (h : Reads offset line gs (.call c :: rest)) : ∃ hs, gs = .plain '$' :: hs := by
  generalize eq : .call c :: rest = parts at h
  cases h with
  | nil => cases eq
  | call => exact ⟨_, rfl⟩
  | @glyph _ _ g _ parts _ _ =>
    match parts with
    | [] | .literal _ :: _ | .call _ :: _ => cases eq

/-- A literal text that comes first, right before a call, spells the glyphs before a dollar sign. -/
theorem Reads.exists_first_before_call {raw : List Char} {c : Call} {after : List Segment}
    (h : Reads offset line gs (.literal raw :: .call c :: after)) :
    ∃ front hs, raw = spell front ∧ gs = front ++ .plain '$' :: hs := by
  generalize eq : .literal raw :: .call c :: after = parts at h
  induction h generalizing raw with
  | nil => cases eq
  | call => cases eq
  | @glyph offset line g gs parts literal others ih =>
    match parts with
    | [] => cases eq
    | .literal raw' :: rest =>
      obtain ⟨first, rfl⟩ := List.cons.inj eq
      obtain ⟨front, hs, rfl, rfl⟩ := ih rfl
      exact ⟨g :: front, hs, Segment.literal.inj first, rfl⟩
    | .call c' :: rest =>
      obtain ⟨first, -⟩ := List.cons.inj eq
      obtain ⟨hs, rfl⟩ := others.exists_of_call
      exact ⟨[g], hs, by simpa using Segment.literal.inj first, rfl⟩

/-- What is read right before something may stand there. -/
theorem Reads.chain (h : Reads offset line gs parts) (reading : IsReading gs) :
    parts.IsChain Segment.MayPrecede := by
  induction h with
  | nil => exact .nil
  | @call _ _ _ _ _ _ _ parts head closed _ ih =>
    have rest := ih (reading.tail.cutOut (suffix_of_call head closed).isInfix)
    cases parts with
    | nil => exact .singleton _
    | cons part parts => exact .cons_cons trivial rest
  | @glyph offset line g gs parts literal others ih =>
    have rest := ih reading.tail
    have last {raw : List Char} {c : Call} {after : List Segment}
        (eq : consGlyph g parts = .literal raw :: .call c :: after) :
        Segment.MayPrecede (.literal raw) (.call c) := by
      obtain ⟨front, hs, rfl, spelled⟩ :=
        (eq ▸ Reads.glyph literal others).exists_first_before_call
      rw [spelled] at reading
      rw [Segment.MayPrecede, reading.left]
      exact reading.getLast?_ne (by decide)
    match parts with
    | [] => exact .singleton _
    | [.literal raw] => exact .singleton _
    | .literal raw :: .literal raw' :: after =>
      exact absurd (List.isChain_cons_cons.1 rest).1 not_false
    | .literal raw :: .call c :: after => exact .cons_cons (last rfl) rest.tail
    | .call c :: after => exact .cons_cons (last rfl) rest

/-- The text of a call that is read is closed. -/
theorem Reads.closed {c : Call} (h : Reads offset line gs parts) (reading : IsReading gs)
    (mem : .call c ∈ parts) : Closed c.raw := by
  induction h with
  | nil => cases mem
  | @call _ _ gs after body rest _ _ head closed others ih =>
    have cut := suffix_of_call head closed
    obtain eq | later := List.mem_cons.1 mem
    · obtain rfl := Segment.call.inj eq
      obtain ⟨rfl, -⟩ := eq_of_head? head
      obtain ⟨rfl, level⟩ := eq_of_enclosed? closed
      have inner : IsReading (body ++ .plain ']' :: rest) := reading.tail.right.tail
      rw [Closed, inner.left]
      exact ⟨level, inner.getLast?_ne (by decide)⟩
    · exact ih (reading.tail.cutOut cut.isInfix) later
  | glyph _ _ ih => exact ih reading.tail (call_mem_consGlyph.1 mem)

/-- Whatever is read may stand in a command string. -/
theorem Reads.canonical (h : Reads offset line gs parts) (reading : IsReading gs) :
    Canonical parts where
  literal raw mem := by
    obtain ⟨front, rfl, nonempty, cut, plain⟩ := h.exists_front mem
    rw [reading.cutOut cut]
    exact ⟨mt spell_eq_nil.1 nonempty, plain⟩
  chain := h.chain reading
  call c mem := ⟨h.isIdentifier mem, h.closed reading mem⟩

end Reading

/-- Glyphs without an opening bracket begin no call. -/
theorem not_opens_of_notMem {gs : List Glyph} (none : .plain '[' ∉ gs) : ¬Opens gs := by
  rintro ⟨before, name, after, -, rfl⟩
  simp at none

/-- **What segments spell is read as these segments**, if they are such as may stand in a command
string: it is well formed, and what is read has the same literal texts and the same calls, in the
same order. Each call stands after the segments before it, on the line that is reached there. -/
theorem segments_source {parts : List Segment} (canonical : Canonical parts) (line : Int) :
    ∃ read, segments (source parts) line = .ok read ∧ SameTexts parts read ∧
      ∀ before c after, read = before ++ .call c :: after →
        c.offset = (source before).length ∧ c.line = line + lineEnds (source before) := by
  have read := canonical.reads 0 line
  refine ⟨placed 0 line parts, canonical.segments_eq line, sameTexts_placed 0 line parts,
    fun before c after eq => ?_⟩
  rw [eq] at read
  simpa using read.located.place

/-- A literal text with a dollar sign at its end, a call whose text has an escaped bracket, and a
literal text that begins with a bracket and ends in a backslash. -/
theorem segments_source_dollar :
    Canonical [.literal ['\n', '$'], .call ⟨['f'], ['\\', ']'], 9, 9⟩, .literal [']', '\\']] ∧
      ∃ read, segments ['\n', '$', '$', 'f', '[', '\\', ']', ']', ']', '\\'] 7 = .ok read ∧
        SameTexts
          [.literal ['\n', '$'], .call ⟨['f'], ['\\', ']'], 9, 9⟩, .literal [']', '\\']] read ∧
        ∀ before c after, read = before ++ .call c :: after →
          c.offset = (source before).length ∧ c.line = 7 + (lineEnds (source before) : Int) := by
  have canonical : Canonical
      [.literal ['\n', '$'], .call ⟨['f'], ['\\', ']'], 9, 9⟩, .literal [']', '\\']] := by
    refine ⟨fun raw mem => ?_, ?_, fun c mem => ?_⟩
    · have eq : raw = ['\n', '$'] ∨ raw = [']', '\\'] := by simpa using mem
      obtain rfl | rfl := eq
      · exact ⟨by simp, not_opens_of_notMem (by decide)⟩
      · exact ⟨by simp, not_opens_of_notMem (by decide)⟩
    · exact .cons_cons (show some (Glyph.plain '$') ≠ some (.plain '\\') by decide)
        (.cons_cons trivial (.singleton _))
    · obtain rfl : c = ⟨['f'], ['\\', ']'], 9, 9⟩ := by simpa using mem
      exact ⟨⟨'f', [], rfl, by decide, by simp⟩, rfl, by decide⟩
  exact ⟨canonical, segments_source canonical 7⟩

end CommandScript.Script
