import CommandScript.Proofs.Script.Nesting

/-!
# Glyphs with placeholders among them

A body is a list of marks: glyphs of its own, and placeholders in which texts are put with their
escapes. What is put in has no structural glyph, so no scan stops in it, and where no placeholder
stands right after a dollar sign and a part of a name, every scan stops at the same marks whatever
is put in.

## Main definitions

- `CommandScript.Script.Mark` — a glyph or a placeholder
- `CommandScript.Script.fill` — the glyphs of marks, with texts put in
- `CommandScript.Script.spliced` — what they stand for
- `CommandScript.Script.Guarded` — marks in which no placeholder can be a part of a head

## Main results

- `CommandScript.Script.head?_fill`, `CommandScript.Script.enclosed?_fill`,
  `CommandScript.Script.pieces_fill` — scans of marks with texts put in
-/

namespace CommandScript.Script

/-- A glyph of a body, or a placeholder with a name. -/
inductive Mark where
  | glyph (g : Glyph)
  | place (name : List Char)

namespace Mark

/-- The glyphs of a mark, with texts put in. -/
def fill (value : List Char → List Char) : Mark → List Glyph
  | .glyph g => [g]
  | .place name => glyphs (escape (value name))

/-- What a mark stands for: a placeholder for the text itself. -/
def spliced (value : List Char → List Char) : Mark → List Char
  | .glyph g => [g.value]
  | .place name => value name

end Mark

/-- The glyphs of marks, with texts put in. -/
def fill (value : List Char → List Char) (ms : List Mark) : List Glyph :=
  ms.flatMap (Mark.fill value)

/-- What marks stand for, with the texts themselves in place of the placeholders. -/
def spliced (value : List Char → List Char) (ms : List Mark) : List Char :=
  ms.flatMap (Mark.spliced value)

section Fill

variable (value : List Char → List Char) (m : Mark) (ms ns : List Mark)

@[simp] theorem fill_nil : fill value [] = [] := rfl

@[simp] theorem fill_cons : fill value (m :: ms) = m.fill value ++ fill value ms := rfl

@[simp] theorem fill_append : fill value (ms ++ ns) = fill value ms ++ fill value ns :=
  List.flatMap_append

theorem fill_cut {ms ns : List Mark} (cut : ms <:+: ns) : fill value ms <:+: fill value ns := by
  obtain ⟨before, after, rfl⟩ := cut
  exact ⟨fill value before, fill value after, by rw [fill_append, fill_append]⟩

@[simp] theorem spliced_nil : spliced value [] = [] := rfl

@[simp] theorem spliced_cons : spliced value (m :: ms) = m.spliced value ++ spliced value ms := rfl

theorem evaluated_fill : evaluated (m.fill value) = m.spliced value := by
  cases m with
  | glyph g => rfl
  | place name => exact unescape_escape (value name)

end Fill

/-- A glyph that is no structural character by itself. -/
def Glyph.Inert (g : Glyph) : Prop := ∀ c, g = .plain c → isStructural c = false

/-- Texts are put in without structural characters by themselves. -/
theorem inert_of_mem {cs : List Char} {g : Glyph} (mem : g ∈ glyphs (escape cs)) : g.Inert := by
  rw [glyphs_escape] at mem
  obtain ⟨c, -, rfl⟩ := List.mem_map.1 mem
  intro d eq
  by_cases h : isStructural c = true
  · simp [h] at eq
  · rw [if_neg h] at eq
    obtain rfl := Glyph.plain.inj eq
    simpa using h

section Inert

variable {ins gs p : List Glyph} {ps : List (List Glyph)}

theorem Glyph.Inert.ne {g : Glyph} (h : g.Inert) {c : Char} (structural : isStructural c = true) :
    g ≠ .plain c := fun eq => by simp [h c eq] at structural

/-- A text that is put in does not end in a backslash without a partner. -/
theorem getLast?_glyphs_escape (cs : List Char) :
    (glyphs (escape cs)).getLast? ≠ some (.plain '\\') := by
  intro last
  exact (inert_of_mem (List.mem_of_getLast? last)).ne (by decide) rfl

/-- No bracket is opened or closed in what has no structural glyph. -/
theorem level?_inert (h : ∀ g ∈ ins, g.Inert) (d : Nat) : level? d ins = some d := by
  induction ins with
  | nil => rfl
  | cons g ins ih =>
    have inert : g.Inert := h g List.mem_cons_self
    rw [level?_cons_of_ne (inert.ne (by decide)) (inert.ne (by decide))]
    exact ih fun g mem => h g (List.mem_cons_of_mem _ mem)

/-- Brackets are not closed in what has no structural glyph. -/
theorem enclosed?_inert (h : ∀ g ∈ ins, g.Inert) (d : Nat) (gs : List Glyph) :
    enclosed? d (ins ++ gs) = (enclosed? d gs).map fun p => (ins ++ p.1, p.2) := by
  induction ins with
  | nil => simp
  | cons g ins ih =>
    have inert : g.Inert := h g List.mem_cons_self
    have level : level? d [g] = some d :=
      level?_cons_of_ne (inert.ne (by decide)) (inert.ne (by decide))
    rw [List.cons_append, enclosed?_cons level, ih fun g mem => h g (List.mem_cons_of_mem _ mem),
      Option.map_map]
    rfl

/-- What has no structural glyph belongs to the piece that it stands in front of. -/
theorem pieces_inert (h : ∀ g ∈ ins, g.Inert) {k : Int} (eq : pieces k gs = p :: ps) :
    pieces k (ins ++ gs) = (ins ++ p) :: ps := by
  induction ins with
  | nil => exact eq
  | cons g ins ih =>
    have inert : g.Inert := h g List.mem_cons_self
    have turn : k + g.turn = k := by
      rw [Glyph.turn_of_ne (inert.ne (by decide)) (inert.ne (by decide)), Int.add_zero]
    rw [List.cons_append, pieces, if_neg fun both => inert.ne (by decide) both.1, turn,
      ih fun g mem => h g (List.mem_cons_of_mem _ mem)]
    rfl

/-- What has no structural glyph is joined to the literal text that it stands in front of. -/
theorem segmentsFrom_inert (h : ∀ g ∈ ins, g.Inert) (offset : Nat) (line : Int) :
    ∃ offset' line', ∀ gs, segmentsFrom offset line (ins ++ gs) =
      (segmentsFrom offset' line' gs).map fun parts => ins.foldr consGlyph parts := by
  induction ins generalizing offset line with
  | nil =>
    refine ⟨offset, line, fun gs => ?_⟩
    rw [List.nil_append]
    cases segmentsFrom offset line gs <;> rfl
  | cons g ins ih =>
    have inert : g.Inert := h g List.mem_cons_self
    have opens : g = .plain '$' → ∀ gs, head? gs = none := fun eq =>
      absurd eq (inert.ne (by decide))
    obtain ⟨offset', line', eq⟩ := ih (fun g mem => h g (List.mem_cons_of_mem _ mem))
      (offset + g.width) (line + lineEnds g.chars)
    refine ⟨offset', line', fun gs => ?_⟩
    rw [List.cons_append, segmentsFrom_cons fun dollar => opens dollar _, eq]
    cases segmentsFrom offset' line' gs <;> rfl

end Inert

/-- Whether a head may go on after a glyph: the glyph is a dollar sign, or it is a part of a name
and a head may go on before it. -/
def Glyph.opens (opened : Bool) : Glyph → Bool
  | .plain c => c = '$' || opened && isNameChar c
  | .escaped _ => false

/-- No placeholder stands where a head may go on. -/
def Guarded : (opened : Bool) → List Mark → Prop
  | _, [] => True
  | opened, .glyph g :: ms => Guarded (g.opens opened) ms
  | opened, .place _ :: ms => opened = false ∧ Guarded false ms

namespace Guarded

variable {opened : Bool} {m : Mark} {ms ns : List Mark}

/-- Marks are guarded where no head is opened before them. -/
theorem closed (h : Guarded opened ms) : Guarded false ms := by
  induction ms generalizing opened with
  | nil => trivial
  | cons m ms ih =>
    cases m with
    | place name => exact ⟨rfl, h.2⟩
    | glyph g =>
      cases opens : g.opens false with
      | false =>
        rw [Guarded, opens]
        exact ih h
      | true =>
        have same : g.opens opened = true := by
          cases g with
          | plain c => simp_all [Glyph.opens]
          | escaped c => cases opens
        rw [Guarded, opens]
        rwa [Guarded, same] at h

theorem tail (h : Guarded opened (m :: ms)) : Guarded false ms := by
  cases m with
  | glyph g => exact closed h
  | place name => exact h.2

theorem left (h : Guarded opened (ms ++ ns)) : Guarded opened ms := by
  induction ms generalizing opened with
  | nil => trivial
  | cons m ms ih =>
    cases m with
    | glyph g => exact ih h
    | place name => exact ⟨h.1, ih h.2⟩

theorem right (h : Guarded opened (ms ++ ns)) : Guarded false ns := by
  induction ms generalizing opened with
  | nil => exact h.closed
  | cons m ms ih => exact ih h.tail

/-- What is cut out of guarded marks is guarded. -/
theorem cutOut (h : Guarded opened ns) (cut : ms <:+: ns) : Guarded false ms := by
  obtain ⟨before, after, rfl⟩ := cut
  exact h.left.right

end Guarded

section Scans

variable {ms : List Mark}

/-- The marks of a name. -/
def nameMarks (name : List Char) : List Mark := name.map fun c => .glyph (.plain c)

/-- A name ends at the same mark, whatever is put in. -/
theorem nameSpan_fill (guarded : Guarded true ms) :
    ∃ name rest, ms = nameMarks name ++ rest ∧ (∀ p after, rest ≠ .place p :: after) ∧
      ∀ value, nameSpan (fill value ms) = (name, fill value rest) := by
  -- As long as the name goes on, no placeholder can come next.
  induction ms with
  | nil => exact ⟨[], [], rfl, by simp, fun _ => rfl⟩
  | cons m ms ih =>
    cases m with
    | place p => exact absurd guarded.1 (by simp)
    | glyph g =>
      cases g with
      | escaped c => exact ⟨[], _, rfl, by simp, fun _ => rfl⟩
      | plain c =>
        by_cases part : isNameChar c = true
        · have opens : Glyph.opens true (.plain c) = true := by simp [Glyph.opens, part]
          rw [Guarded, opens] at guarded
          obtain ⟨name, rest, eq, stops, span⟩ := ih guarded
          refine ⟨c :: name, rest, by rw [eq]; rfl, stops, fun value => ?_⟩
          show nameSpan (.plain c :: fill value ms) = _
          rw [nameSpan, if_pos part, span value]
        · refine ⟨[], _, rfl, by simp, fun value => ?_⟩
          show nameSpan (.plain c :: fill value ms) = _
          rw [nameSpan, if_neg part]
          rfl

/-- After a dollar sign there is the same head of a call, whatever is put in, or there is none. -/
theorem head?_fill (guarded : Guarded true ms) :
    (∃ name after, ms = nameMarks name ++ .glyph (.plain '[') :: after ∧
      ∀ value, head? (fill value ms) = some (name, fill value after)) ∨
    ∀ value, head? (fill value ms) = none := by
  obtain ⟨name, rest, rfl, stops, span⟩ := nameSpan_fill guarded
  by_cases opens : isName name = true ∧ ∃ after, rest = .glyph (.plain '[') :: after
  · obtain ⟨named, after, rfl⟩ := opens
    refine .inl ⟨name, after, rfl, fun value => ?_⟩
    unfold head?
    rw [span]
    show (if isName name then _ else _) = _
    rw [if_pos named]
    rfl
  · refine .inr fun value => ?_
    unfold head?
    rw [span]
    match rest with
    | [] => rfl
    | .place p :: after => exact absurd rfl (stops p after)
    | .glyph g :: after =>
      by_cases bracket : g = .plain '['
      · subst bracket
        show (if isName name then _ else _) = _
        rw [if_neg fun named => opens ⟨named, after, rfl⟩]
      · simp [Mark.fill, bracket]

/-- A bracket is closed at the same mark, whatever is put in, or it is not closed. -/
theorem enclosed?_fill (d : Nat) (ms : List Mark) :
    (∃ body rest, ms = body ++ .glyph (.plain ']') :: rest ∧
      ∀ value, enclosed? d (fill value ms) = some (fill value body, fill value rest)) ∨
    ∀ value, enclosed? d (fill value ms) = none := by
  induction ms generalizing d with
  | nil => exact .inr fun _ => rfl
  | cons m ms ih =>
    cases m with
    | place name =>
      have inert (value : List Char → List Char) :
          enclosed? d (glyphs (escape (value name)) ++ fill value ms) = _ :=
        enclosed?_inert (fun _ => inert_of_mem) d (fill value ms)
      obtain ⟨body, rest, rfl, closed⟩ | unclosed := ih d
      · refine .inl ⟨.place name :: body, rest, rfl, fun value => ?_⟩
        exact (inert value).trans (by rw [closed value]; rfl)
      · refine .inr fun value => ?_
        exact (inert value).trans (by rw [unclosed value]; rfl)
    | glyph g =>
      obtain ⟨e, one, -⟩ | ⟨rfl, rfl⟩ := level?_single d g
      · have step (value : List Char → List Char) :
            enclosed? d (g :: fill value ms) = _ := enclosed?_cons one
        obtain ⟨body, rest, rfl, closed⟩ | unclosed := ih e
        · refine .inl ⟨.glyph g :: body, rest, rfl, fun value => ?_⟩
          exact (step value).trans (by rw [closed value]; rfl)
        · refine .inr fun value => ?_
          exact (step value).trans (by rw [unclosed value]; rfl)
      · exact .inl ⟨[], ms, rfl, fun _ => rfl⟩

/-- Marks are cut at the same marks, whatever is put in. -/
theorem pieces_fill (k : Int) (ms : List Mark) :
    ∃ q qs, [Mark.glyph (.plain ';')].intercalate (q :: qs) = ms ∧
      (q <+: ms ∧ ∀ r ∈ qs, r <:+: ms) ∧
      ∀ value, pieces k (fill value ms) = fill value q :: qs.map (fill value) := by
  induction ms generalizing k with
  | nil => exact ⟨[], [], by simp, ⟨List.nil_prefix, by simp⟩, fun _ => rfl⟩
  | cons m ms ih =>
    have longer {r : List Mark} (cut : r <:+: ms) : r <:+: m :: ms :=
      cut.trans (List.suffix_cons m ms).isInfix
    have joined (q : List Mark) (qs : List (List Mark)) :
        [Mark.glyph (.plain ';')].intercalate ((m :: q) :: qs) =
          m :: [Mark.glyph (.plain ';')].intercalate (q :: qs) := by
      cases qs <;> simp [List.intercalate_cons_cons]
    cases m with
    | place name =>
      obtain ⟨q, qs, eq, ⟨first, others⟩, cut⟩ := ih k
      refine ⟨.place name :: q, qs, by rw [joined, eq],
        ⟨List.cons_prefix_cons.2 ⟨rfl, first⟩, fun r mem => longer (others r mem)⟩, fun value => ?_⟩
      exact pieces_inert (fun _ => inert_of_mem) (cut value)
    | glyph g =>
      by_cases sep : g = .plain ';' ∧ k = 0
      · obtain ⟨q, qs, eq, ⟨first, others⟩, cut⟩ := ih k
        refine ⟨[], q :: qs, ?_, ⟨List.nil_prefix, fun r mem => ?_⟩, fun value => ?_⟩
        · rw [List.intercalate_cons_cons, eq, sep.1]
          rfl
        · obtain rfl | mem := List.mem_cons.1 mem
          · exact longer first.isInfix
          · exact longer (others r mem)
        · change pieces k (g :: fill value ms) = _
          rw [pieces, if_pos sep, cut value]
          rfl
      · obtain ⟨q, qs, eq, ⟨first, others⟩, cut⟩ := ih (k + g.turn)
        refine ⟨.glyph g :: q, qs, by rw [joined, eq],
          ⟨List.cons_prefix_cons.2 ⟨rfl, first⟩, fun r mem => longer (others r mem)⟩,
          fun value => ?_⟩
        show pieces k (g :: fill value ms) = _
        rw [pieces, if_neg sep, cut value]
        rfl

end Scans

end CommandScript.Script
