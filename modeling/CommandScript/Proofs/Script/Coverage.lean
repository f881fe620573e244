import CommandScript.Proofs.Script.Nesting

/-!
# What segments cover

A command string that is well formed is covered by its segments: they spell it, in order and without
a gap, its calls stand where they say, and whatever is no call is in as few literal texts as can be.

## Main definitions

- `CommandScript.Script.IsIdentifier` — a letter or an underscore, and letters, digits and
  underscores after it
- `CommandScript.Script.Opens` — glyphs in which a call begins
- `CommandScript.Script.Located` — segments that stand where they say
- `CommandScript.Script.Covers` — segments that cover a command string

## Main results

- `CommandScript.Script.head?_eq_some_iff` — what the head of a call looks like
- `CommandScript.Script.Reads.place` — calls stand where they say
- `CommandScript.Script.segments_cover` — what is read covers what it is read from
-/

namespace CommandScript.Script

/-- A letter or an underscore, and letters, digits and underscores after it. -/
def IsIdentifier (cs : List Char) : Prop :=
  ∃ c rest, cs = c :: rest ∧ (c.isAlpha ∨ c = '_') ∧ ∀ d ∈ rest, d.isAlpha ∨ d.isDigit ∨ d = '_'

/-- Somewhere in the glyphs a call begins: a dollar sign, an identifier and a bracket, none of them
escaped. -/
def Opens (gs : List Glyph) : Prop :=
  ∃ before name after, IsIdentifier name ∧
    gs = before ++ .plain '$' :: (name.map .plain ++ .plain '[' :: after)

section Heads

variable {g : Glyph} {gs after : List Glyph} {name : List Char}

theorem isNameChar_iff {c : Char} : isNameChar c = true ↔ c.isAlpha ∨ c.isDigit ∨ c = '_' := by
  simp [isNameChar, Char.isAlphanum, or_assoc]

/-- No letter is a digit. -/
theorem isDigit_eq_false {c : Char} (letter : c.isAlpha = true) : c.isDigit = false := by
  -- The letters come after the digits.
  refine Bool.eq_false_iff.2 fun digit => ?_
  have le : c.val.toNat ≤ 57 := of_decide_eq_true ((Bool.and_eq_true _ _).mp digit).2
  obtain upper | lower := (Bool.or_eq_true _ _).mp letter
  · have ge : 65 ≤ c.val.toNat := (of_decide_eq_true upper).1
    omega
  · have ge : 97 ≤ c.val.toNat := of_decide_eq_true ((Bool.and_eq_true _ _).mp lower).1
    omega

theorem isName_iff {cs : List Char} : isName cs = true ↔ IsIdentifier cs := by
  have noDigit {c : Char} (h : c.isAlpha ∨ c = '_') : c.isDigit = false := by
    obtain letter | rfl := h
    · exact isDigit_eq_false letter
    · decide
  cases cs with
  | nil => simp [isName, IsIdentifier]
  | cons c rest =>
    simp only [isName, List.all_cons, List.head?_cons, Option.any_some, Bool.and_eq_true,
      List.all_eq_true, isNameChar_iff, Bool.not_eq_true']
    constructor
    · rintro ⟨⟨first, others⟩, digit⟩
      exact ⟨c, rest, rfl, by simpa [digit] using first, others⟩
    · rintro ⟨_, _, eq, first, others⟩
      obtain ⟨rfl, rfl⟩ := List.cons.inj eq
      exact ⟨⟨first.imp_right .inr, others⟩, noDigit first⟩

/-- The characters of a name are read up to the first glyph that is none. -/
theorem nameSpan_name (all : name.all isNameChar = true) :
    nameSpan (name.map .plain ++ .plain '[' :: after) = (name, .plain '[' :: after) := by
  induction name with
  | nil => rfl
  | cons c name ih =>
    rw [List.all_cons, Bool.and_eq_true] at all
    rw [List.map_cons, List.cons_append, nameSpan, if_pos all.1, ih all.2]

/-- The head of a call is an identifier and a bracket after it. -/
theorem head?_eq_some_iff :
    head? gs = some (name, after) ↔
      IsIdentifier name ∧ gs = name.map .plain ++ .plain '[' :: after := by
  constructor
  · intro h
    obtain ⟨eq, named⟩ := eq_of_head? h
    exact ⟨isName_iff.1 named, eq⟩
  · rintro ⟨identifier, rfl⟩
    have named := isName_iff.2 identifier
    have all := (Bool.and_eq_true _ _ ▸ named : name.all isNameChar = true ∧ _).1
    rw [head?, nameSpan_name all]
    simp [named]

/-- In glyphs in front of which no call begins, one begins only where it begins in them. -/
theorem Opens.of_cons {front : List Glyph} (literal : g = .plain '$' → head? gs = none)
    (first : front <+: gs) (opens : Opens (g :: front)) : Opens front := by
  obtain ⟨before, name, after, identifier, eq⟩ := opens
  cases before with
  | nil =>
    obtain ⟨rfl, rfl⟩ := List.cons.inj eq
    obtain ⟨rest, rfl⟩ := first
    have head : head? (name.map .plain ++ .plain '[' :: after ++ rest) =
        some (name, after ++ rest) :=
      head?_eq_some_iff.2 ⟨identifier, List.append_assoc ..⟩
    rw [literal rfl] at head
    cases head
  | cons _ before =>
    exact ⟨before, name, after, identifier, (List.cons.inj eq).2⟩

end Heads

/-- The segments stand one after the other, from an offset and a line on. -/
def Located (offset : Nat) (line : Int) : List Segment → Prop
  | [] => True
  | part :: rest =>
    (∀ c, part = .call c → c.offset = offset ∧ c.line = line) ∧
      Located (offset + part.source.length) (line + lineEnds part.source) rest

section Places

variable {offset : Nat} {line : Int} {g : Glyph} {gs : List Glyph} {parts : List Segment}

@[simp] theorem source_nil : source [] = [] := rfl

@[simp] theorem source_cons (part : Segment) :
    source (part :: parts) = part.source ++ source parts := rfl

@[simp] theorem source_append (parts others : List Segment) :
    source (parts ++ others) = source parts ++ source others := List.flatMap_append

theorem source_consGlyph : source (consGlyph g parts) = g.chars ++ source parts := by
  match parts with
  | [] => rfl
  | .literal raw :: rest => simp [consGlyph, Segment.source]
  | .call c :: rest => rfl

/-- Segments spell the glyphs that they are read from. -/
theorem Reads.source_eq (h : Reads offset line gs parts) : source parts = spell gs := by
  induction h with
  | nil => rfl
  | @call offset line _ _ _ _ _ _ head closed _ ih =>
    rw [spell_call offset line head closed, source_cons, ih]
    rfl
  | glyph _ _ ih => rw [source_consGlyph, ih, spell_cons]

/-- Segments spell the text that they are read from. -/
theorem source_of_segments {cs : List Char} (read : segments cs line = .ok parts) :
    source parts = cs := by
  rw [(segmentsFrom_eq_ok_iff.1 read).source_eq, spell_glyphs]

theorem Located.consGlyph
    (h : Located (offset + g.width) (line + lineEnds g.chars) parts) :
    Located offset line (consGlyph g parts) := by
  match parts with
  | [] => exact ⟨fun _ eq => (by cases eq), trivial⟩
  | .literal raw :: rest =>
    refine ⟨fun _ eq => (by cases eq), ?_⟩
    rw [Segment.source, List.length_append, lineEnds_append, ← Glyph.width_eq, ← Nat.add_assoc,
      Int.natCast_add, ← Int.add_assoc]
    exact h.2
  | .call c :: rest =>
    refine ⟨fun _ eq => (by cases eq), ?_⟩
    rw [Segment.source, ← Glyph.width_eq]
    exact h

/-- Segments that are read from an offset and a line on stand from there on. -/
theorem Reads.located (h : Reads offset line gs parts) : Located offset line parts := by
  induction h with
  | nil => trivial
  | call head closed _ ih =>
    refine ⟨fun c eq => ?_, ih⟩
    obtain rfl := Segment.call.inj eq
    exact ⟨rfl, rfl⟩
  | glyph _ _ ih => exact ih.consGlyph

/-- A call stands after the segments before it. -/
theorem Located.place {before after : List Segment} {c : Call}
    (h : Located offset line (before ++ .call c :: after)) :
    c.offset = offset + (source before).length ∧ c.line = line + lineEnds (source before) := by
  induction before generalizing offset line with
  | nil => simpa [lineEnds] using h.1 c rfl
  | cons part before ih =>
    obtain ⟨atOffset, onLine⟩ := ih h.2
    rw [source_cons, List.length_append, lineEnds_append, atOffset, onLine, Int.natCast_add]
    exact ⟨Nat.add_assoc .., Int.add_assoc ..⟩

/-- A call that is read stands in the command string after the segments before it. -/
theorem Reads.place {cs : List Char} {before after : List Segment} {c : Call}
    (h : Reads 0 line (glyphs cs) (before ++ .call c :: after)) :
    c.offset = (source before).length ∧ cs.take c.offset = source before ∧
      c.line = line + lineEnds (cs.take c.offset) := by
  obtain ⟨offset, onLine⟩ := h.located.place
  rw [Nat.zero_add] at offset
  have spelled : source before ++ source (.call c :: after) = cs := by
    rw [← source_append, h.source_eq, spell_glyphs]
  have front : cs.take c.offset = source before := by
    rw [offset, ← spelled, List.take_left]
  exact ⟨offset, front, by rw [front, onLine]⟩

end Places

section Literals

variable {offset : Nat} {line : Int} {g : Glyph} {gs : List Glyph} {parts : List Segment}
  {raw : List Char} {c : Call}

theorem not_opens_nil : ¬Opens [] := by
  rintro ⟨before, name, after, -, eq⟩
  simp at eq

/-- A literal text that comes first spells glyphs that come first and in which no call begins. -/
theorem Reads.exists_first (h : Reads offset line gs parts)
    (first : parts.head? = some (.literal raw)) :
    ∃ front, raw = spell front ∧ front ≠ [] ∧ front <+: gs ∧ ¬Opens front := by
  induction h generalizing raw with
  | nil => cases first
  | call => cases first
  | @glyph offset line g gs parts literal _ ih =>
    have longer {front : List Glyph} (cut : front <+: gs) (plain : ¬Opens front) :
        g :: front ≠ [] ∧ g :: front <+: g :: gs ∧ ¬Opens (g :: front) :=
      ⟨List.cons_ne_nil g front, List.cons_prefix_cons.2 ⟨rfl, cut⟩,
        mt (.of_cons literal cut) plain⟩
    match parts with
    | .literal raw' :: rest =>
      obtain ⟨front, rfl, -, cut, plain⟩ := ih rfl
      cases first
      exact ⟨g :: front, rfl, longer cut plain⟩
    | [] =>
      cases first
      exact ⟨[g], by simp, longer List.nil_prefix not_opens_nil⟩
    | .call c :: rest =>
      cases first
      exact ⟨[g], by simp, longer List.nil_prefix not_opens_nil⟩

/-- A literal text with a glyph in front of it is the first one; the others were there before. -/
theorem literal_mem_consGlyph (mem : .literal raw ∈ consGlyph g parts) :
    (consGlyph g parts).head? = some (.literal raw) ∨ .literal raw ∈ parts := by
  match parts with
  | [] => exact .inl (congrArg some (List.mem_singleton.1 mem).symm)
  | .literal raw' :: rest =>
    obtain eq | later := List.mem_cons.1 mem
    · exact .inl (congrArg some eq.symm)
    · exact .inr (List.mem_cons_of_mem _ later)
  | .call c :: rest =>
    obtain eq | later := List.mem_cons.1 mem
    · exact .inl (congrArg some eq.symm)
    · exact .inr later

/-- A literal text spells glyphs that are cut out of those that are read, and in which no call
begins. -/
theorem Reads.exists_front (h : Reads offset line gs parts) (mem : .literal raw ∈ parts) :
    ∃ front, raw = spell front ∧ front ≠ [] ∧ front <:+: gs ∧ ¬Opens front := by
  induction h with
  | nil => cases mem
  | @call _ _ gs _ _ rest _ _ head closed _ ih =>
    have later := (List.mem_cons.1 mem).resolve_left (by simp)
    obtain ⟨front, spelled, some, cut, plain⟩ := ih later
    have suffix : rest <:+ .plain '$' :: gs :=
      (suffix_of_call head closed).trans (List.suffix_cons _ gs)
    exact ⟨front, spelled, some, cut.trans suffix.isInfix, plain⟩
  | @glyph offset line g gs parts literal others ih =>
    obtain first | later := literal_mem_consGlyph mem
    · obtain ⟨front, spelled, some, cut, plain⟩ := (Reads.glyph literal others).exists_first first
      exact ⟨front, spelled, some, cut.isInfix, plain⟩
    · obtain ⟨front, spelled, some, cut, plain⟩ := ih later
      exact ⟨front, spelled, some, cut.trans (List.suffix_cons g gs).isInfix, plain⟩

/-- Literal texts stay apart where a glyph is put in front of the segments. -/
theorem consGlyph_apart
    (apart : ∀ before raw raw' after, parts ≠ before ++ .literal raw :: .literal raw' :: after)
    (before : List Segment) (raw raw' : List Char) (after : List Segment) :
    consGlyph g parts ≠ before ++ .literal raw :: .literal raw' :: after := by
  intro eq
  match parts with
  | [] =>
    have length := congrArg List.length eq
    simp [consGlyph] at length
    omega
  | .literal raw'' :: rest =>
    cases before with
    | nil =>
      obtain ⟨-, rfl⟩ := List.cons.inj eq
      exact apart [] raw'' raw' after rfl
    | cons part before =>
      obtain ⟨-, rfl⟩ := List.cons.inj eq
      exact apart (.literal raw'' :: before) raw raw' after rfl
  | .call c :: rest =>
    cases before with
    | nil => cases (List.cons.inj eq).2
    | cons part before => exact apart before raw raw' after (List.cons.inj eq).2

/-- No literal text stands right before another one. -/
theorem Reads.apart (h : Reads offset line gs parts) (before : List Segment)
    (raw raw' : List Char) (after : List Segment) :
    parts ≠ before ++ .literal raw :: .literal raw' :: after := by
  induction h generalizing before raw raw' after with
  | nil => simp
  | call _ _ _ ih =>
    intro eq
    cases before with
    | nil => cases (List.cons.inj eq).1
    | cons part before => exact ih before raw raw' after (List.cons.inj eq).2
  | glyph _ _ ih => exact consGlyph_apart ih before raw raw' after

/-- Calls are named by identifiers. -/
theorem Reads.isIdentifier (h : Reads offset line gs parts) (mem : .call c ∈ parts) :
    IsIdentifier c.name := by
  induction h with
  | nil => cases mem
  | call head _ _ ih =>
    obtain eq | later := List.mem_cons.1 mem
    · obtain rfl := Segment.call.inj eq
      exact (head?_eq_some_iff.1 head).1
    · exact ih later
  | glyph _ _ ih => exact ih (call_mem_consGlyph.1 mem)

end Literals

/-- The segments cover a command string whose first character stands on the given line. -/
structure Covers (parts : List Segment) (cs : List Char) (line : Int) : Prop where
  /-- Nothing is lost, and nothing is taken twice. -/
  source_eq : source parts = cs
  /-- A literal text is not empty, and no call begins in it. -/
  literal : ∀ raw, .literal raw ∈ parts → raw ≠ [] ∧ ¬Opens (glyphs raw)
  /-- No literal text stands right before another one. -/
  apart : ∀ before raw raw' after, parts ≠ before ++ .literal raw :: .literal raw' :: after
  /-- A call is named by an identifier, and its text closes the brackets that it opens. -/
  call : ∀ c, .call c ∈ parts → IsIdentifier c.name ∧ Balanced (glyphs c.raw)
  /-- A call stands after the segments before it, on the line that is reached there. -/
  place : ∀ before c after, parts = before ++ .call c :: after →
    c.offset = (source before).length ∧ c.line = line + lineEnds (cs.take c.offset)

/-- **What is read covers what it is read from.** The segments of a command string spell it; literal
texts are not empty, not next to one another, and no call begins in them; and every call is named by
an identifier, closes its brackets, and stands where it says. -/
theorem segments_cover {cs : List Char} {line : Int} {parts : List Segment}
    (h : segments cs line = .ok parts) : Covers parts cs line := by
  have read : Reads 0 line (glyphs cs) parts := segmentsFrom_eq_ok_iff.1 h
  refine ⟨source_of_segments h, fun raw mem => ?_, read.apart, fun c mem => ?_,
    fun before c after eq => ?_⟩
  · obtain ⟨front, rfl, some, cut, plain⟩ := read.exists_front mem
    rw [(isReading_glyphs cs).cutOut cut]
    exact ⟨mt spell_eq_nil.1 some, plain⟩
  · exact ⟨read.isIdentifier mem, balanced_raw h mem⟩
  · subst eq
    obtain ⟨offset, -, onLine⟩ := read.place
    exact ⟨offset, onLine⟩

/-- A literal text with an escaped dollar sign, and a call with an escaped bracket on the next
line. -/
theorem segments_cover_escaped :
    segments ['b', '\\', '$', 'f', '[', '\n', '$', 'f', '[', '\\', ']', ']'] 7 =
        .ok [.literal ['b', '\\', '$', 'f', '[', '\n'], .call ⟨['f'], ['\\', ']'], 6, 8⟩] ∧
      Covers [.literal ['b', '\\', '$', 'f', '[', '\n'], .call ⟨['f'], ['\\', ']'], 6, 8⟩]
        ['b', '\\', '$', 'f', '[', '\n', '$', 'f', '[', '\\', ']', ']'] 7 := by
  have read : segments ['b', '\\', '$', 'f', '[', '\n', '$', 'f', '[', '\\', ']', ']'] 7 =
      .ok [.literal ['b', '\\', '$', 'f', '[', '\n'], .call ⟨['f'], ['\\', ']'], 6, 8⟩] := by
    rw [segments, show glyphs _ = [.plain 'b', .escaped '$', .plain 'f', .plain '[', .plain '\n',
      .plain '$', .plain 'f', .plain '[', .escaped ']', .plain ']'] from rfl]
    rw [segmentsFrom_cons (by simp), segmentsFrom_cons (by simp), segmentsFrom_cons (by simp),
      segmentsFrom_cons (by simp), segmentsFrom_cons (by simp), segmentsFrom_call rfl rfl,
      segmentsFrom_nil]
    rfl
  exact ⟨read, segments_cover read⟩

end CommandScript.Script
