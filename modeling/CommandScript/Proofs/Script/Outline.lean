import CommandScript.Proofs.Script.Marks

/-!
# Outlines

What a body is read as, whatever texts are put in for its placeholders: its literal texts, the names
of its calls, and what their arguments are read as. Two texts put in the same place lead to the same
calls with as many arguments, at every depth, and to literal texts that stand for what the author
wrote with the texts themselves in place of the placeholders.

## Main definitions

- `CommandScript.Script.Outline` — a literal text, and then a call and the rest
- `CommandScript.Script.Outline.marks` — the body of an outline
- `CommandScript.Script.Follows` — segments that are read as an outline says

## Main results

- `CommandScript.Script.settled` — whatever is put in, guarded marks are read as one outline says,
  or they are malformed -/

namespace CommandScript.Script

/-- What a body is read as: its last literal text, or a literal text before a call, the call with
what its arguments are read as, and the rest. -/
inductive Outline where
  | last (text : List Mark)
  | call (text : List Mark) (name : List Char) (args : List Outline) (rest : Outline)

mutual

/-- The body that an outline belongs to. -/
def Outline.marks : Outline → List Mark
  | .last text => text
  | .call text name args rest =>
    text ++ .glyph (.plain '$') :: (nameMarks name ++ .glyph (.plain '[') ::
      ([.glyph (.plain ';')].intercalate (marksOfAll args) ++ .glyph (.plain ']') :: rest.marks))

/-- The texts that outlines belong to. -/
def marksOfAll : List Outline → List (List Mark)
  | [] => []
  | o :: os => o.marks :: marksOfAll os

end

/-- The literal text that segments start with, and the others. Where they start with a call, that
text is empty. -/
def lead : List Segment → List Char × List Segment
  | .literal raw :: rest => (raw, rest)
  | parts => ([], parts)

mutual

/-- The segments are read as an outline says: they have the same calls, which have as many
arguments, and their literal texts stand for what the marks of the outline stand for. An empty
literal text is not there, and a call with nothing between its brackets has no arguments. -/
inductive Follows (value : List Char → List Char) : Outline → List Segment → Prop
  | last {text parts} (literal : unescape (lead parts).1 = spliced value text)
      (ended : (lead parts).2 = []) : Follows value (.last text) parts
  | call {text name args rest parts c more}
      (literal : unescape (lead parts).1 = spliced value text)
      (call : (lead parts).2 = .call c :: more) (named : c.name = name)
      (none : c.raw = [] → c.arguments = [])
      (each : c.raw ≠ [] → FollowEach value args c.arguments) (further : Follows value rest more) :
      Follows value (.call text name args rest) parts

/-- The arguments are well formed and are read as outlines say, as many of them. -/
inductive FollowEach (value : List Char → List Char) : List Outline → List (List Char) → Prop
  | nil : FollowEach value [] []
  | cons {o os a as} (parts : Int → List Segment)
      (read : ∀ line, segments a line = .ok (parts line))
      (first : ∀ line, Follows value o (parts line)) (others : FollowEach value os as) :
      FollowEach value (o :: os) (a :: as)

end

namespace Outline

/-- The outline with a mark in front of it. -/
def cons (m : Mark) : Outline → Outline
  | .last text => .last (m :: text)
  | .call text name args rest => .call (m :: text) name args rest

@[simp] theorem marks_cons (m : Mark) (o : Outline) : (o.cons m).marks = m :: o.marks := by
  cases o with
  | last => simp [cons, marks]
  | call => simp [cons, marks]

/-- Whatever is put in, the marks are well formed and are read as the outline says. -/
def Fits (o : Outline) (ms : List Mark) : Prop :=
  o.marks = ms ∧ ∀ value offset line, ∃ parts,
    segmentsFrom offset line (fill value ms) = .ok parts ∧ Follows value o parts

end Outline

/-- Whatever is put in, the marks are malformed. -/
def Broken (ms : List Mark) : Prop :=
  ∀ value offset line, ∃ e, segmentsFrom offset line (fill value ms) = .error e

/-- Whatever is put in, the marks are malformed, or they are read as one outline says. -/
def Settled (ms : List Mark) : Prop := Broken ms ∨ ∃ o : Outline, o.Fits ms

section Lead

variable {ins gs : List Glyph} {parts : List Segment}

/-- Glyphs are joined to the literal text that comes first. -/
theorem lead_foldr (ins : List Glyph) (parts : List Segment) :
    lead (ins.foldr consGlyph parts) = (spell ins ++ (lead parts).1, (lead parts).2) := by
  induction ins with
  | nil => rfl
  | cons g ins ih =>
    have one (parts : List Segment) :
        lead (consGlyph g parts) = (g.chars ++ (lead parts).1, (lead parts).2) := by
      match parts with
      | .literal raw :: rest => rfl
      | [] => simp [consGlyph, lead]
      | .call c :: rest => simp [consGlyph, lead]
    rw [List.foldr_cons, one, ih, spell_cons, List.append_assoc]

/-- What comes first spells glyphs that come first. -/
theorem exists_lead {offset : Nat} {line : Int} (h : segmentsFrom offset line gs = .ok parts) :
    ∃ front, (lead parts).1 = spell front ∧ front <+: gs := by
  match parts with
  | .literal raw :: rest => exact exists_prefix h
  | [] => exact ⟨[], rfl, List.nil_prefix⟩
  | .call c :: rest => exact ⟨[], rfl, List.nil_prefix⟩

/-- Segments with the glyphs of a mark in front of them are read as the outline with the mark in
front of it says. -/
theorem Follows.cons {value : List Char → List Char} {o : Outline} {m : Mark}
    (h : Follows value o parts)
    (joined : unescape (spell (m.fill value) ++ (lead parts).1) =
      m.spliced value ++ unescape (lead parts).1) :
    Follows value (o.cons m) ((m.fill value).foldr consGlyph parts) := by
  cases h with
  | last literal ended =>
    refine .last ?_ ?_
    · rw [lead_foldr, joined, literal, spliced_cons]
    · rw [lead_foldr, ended]
  | call literal call named none each further =>
    refine .call ?_ ?_ named none each further
    · rw [lead_foldr, joined, literal, spliced_cons]
    · rw [lead_foldr, call]

end Lead

section Steps

variable {m : Mark} {ms : List Mark}

/-- A mark that opens no call is read before what follows it. -/
theorem segmentsFrom_mark
    (literal : m = .glyph (.plain '$') → ∀ value, head? (fill value ms) = none)
    (value : List Char → List Char) (offset : Nat) (line : Int) :
    ∃ offset' line', segmentsFrom offset line (fill value (m :: ms)) =
      (segmentsFrom offset' line' (fill value ms)).map fun parts =>
        (m.fill value).foldr consGlyph parts := by
  cases m with
  | place name =>
    obtain ⟨offset', line', eq⟩ := segmentsFrom_inert (fun _ => inert_of_mem) offset line
    exact ⟨offset', line', eq (fill value ms)⟩
  | glyph g =>
    have opens : g = .plain '$' → head? (fill value ms) = none := fun eq => literal (eq ▸ rfl) value
    exact ⟨_, _, segmentsFrom_cons opens⟩

/-- A mark that opens no call is a mark of the literal text that it stands in front of. -/
theorem Outline.Fits.cons {o : Outline} (h : o.Fits ms)
    (reading : ∀ value, IsReading (fill value (m :: ms)))
    (literal : m = .glyph (.plain '$') → ∀ value, head? (fill value ms) = none) :
    (o.cons m).Fits (m :: ms) := by
  refine ⟨by rw [marks_cons, h.1], fun value offset line => ?_⟩
  obtain ⟨offset', line', eq⟩ := segmentsFrom_mark literal value offset line
  obtain ⟨parts, segmented, follows⟩ := h.2 value offset' line'
  obtain ⟨front, spelled, first⟩ := exists_lead segmented
  refine ⟨_, by rw [eq, segmented]; rfl, follows.cons ?_⟩
  rw [spelled, unescape_spell_append (reading value) first, evaluated_fill]

theorem Broken.cons (h : Broken ms)
    (literal : m = .glyph (.plain '$') → ∀ value, head? (fill value ms) = none) :
    Broken (m :: ms) := by
  intro value offset line
  obtain ⟨offset', line', eq⟩ := segmentsFrom_mark literal value offset line
  obtain ⟨e, failed⟩ := h value offset' line'
  exact ⟨e, by rw [eq, failed]; rfl⟩

theorem Settled.cons (h : Settled ms) (reading : ∀ value, IsReading (fill value (m :: ms)))
    (literal : m = .glyph (.plain '$') → ∀ value, head? (fill value ms) = none) :
    Settled (m :: ms) := by
  obtain broken | ⟨o, fits⟩ := h
  · exact .inl (broken.cons literal)
  · exact .inr ⟨o.cons m, fits.cons reading literal⟩

end Steps

section Arguments

/-- Outlines of all arguments are followed by the arguments. -/
theorem exists_args {qs : List (List Mark)} (reading : ∀ q ∈ qs, ∀ value, IsReading (fill value q))
    (each : ∀ q ∈ qs, ∃ o : Outline, o.Fits q) :
    ∃ args, marksOfAll args = qs ∧
      ∀ value, FollowEach value args (qs.map fun q => spell (fill value q)) := by
  induction qs with
  | nil => exact ⟨[], by rw [marksOfAll], fun _ => .nil⟩
  | cons q qs ih =>
    obtain ⟨o, marks, fits⟩ := each q List.mem_cons_self
    obtain ⟨args, all, follow⟩ := ih (fun q mem => reading q (List.mem_cons_of_mem _ mem))
      fun q mem => each q (List.mem_cons_of_mem _ mem)
    refine ⟨o :: args, by rw [marksOfAll, marks, all], fun value => ?_⟩
    obtain ⟨parts, both⟩ := Classical.skolem.1 (fits value 0)
    refine .cons parts (fun line => ?_) (fun line => (both line).2) (follow value)
    rw [segments, reading q List.mem_cons_self value, (both line).1]

/-- The arguments of a call are the pieces of its text, unless there is nothing in it. -/
theorem arguments_spell {gs : List Glyph} (reading : IsReading gs) (some : spell gs ≠ []) :
    arguments (spell gs) = (pieces 0 gs).map spell := by
  rw [arguments, if_neg (by simpa using some), reading]

/-- The pieces of the text of a call have outlines, because their brackets are closed in them. -/
theorem exists_args_of_call {body : List Mark} (guarded : Guarded false body)
    (reading : ∀ value, IsReading (fill value body))
    (balanced : ∀ value, Balanced (fill value body))
    (each : ∀ q, q <:+: body → Guarded false q → (∀ value, IsReading (fill value q)) →
      Settled q) :
    ∃ args, [Mark.glyph (.plain ';')].intercalate (marksOfAll args) = body ∧
      ∀ value, spell (fill value body) ≠ [] →
        FollowEach value args (arguments (spell (fill value body))) := by
  obtain ⟨q, qs, joined, ⟨first, others⟩, cut⟩ := pieces_fill 0 body
  have cuts : ∀ r ∈ q :: qs, r <:+: body := by
    intro r mem
    obtain rfl | mem := List.mem_cons.1 mem
    · exact first.isInfix
    · exact others r mem
  have pieced (value : List Char → List Char) :
      pieces 0 (fill value body) = (q :: qs).map (fill value) := cut value
  have piece (value : List Char → List Char) {r : List Mark} (mem : r ∈ q :: qs) :
      fill value r ∈ pieces 0 (fill value body) := by
    rw [pieced]
    exact List.mem_map_of_mem mem
  have readings : ∀ r ∈ q :: qs, ∀ value, IsReading (fill value r) := fun r mem value =>
    (reading value).cutOut (infix_of_mem_pieces (piece value mem))
  -- Whatever is put in, the brackets of a piece are closed, so a piece cannot be malformed.
  obtain ⟨args, all, follow⟩ := exists_args readings fun r mem => by
    obtain broken | outlined := each r (cuts r mem) (guarded.cutOut (cuts r mem)) (readings r mem)
    · obtain ⟨e, failed⟩ := broken id 0 0
      obtain ⟨parts, segmented⟩ :=
        segmentsFrom_of_level? ((balanced id).piece (piece id mem)) 0 0
      rw [failed] at segmented
      cases segmented
    · exact outlined
  refine ⟨args, by rw [all, joined], fun value some => ?_⟩
  rw [arguments_spell (reading value) some, pieced, List.map_map]
  exact follow value

end Arguments

/-- A call of which the arguments and the rest have outlines has one. -/
theorem Outline.Fits.call {name : List Char} {body rest : List Mark} {args : List Outline}
    {o : Outline} {ms : List Mark} (h : o.Fits rest)
    (head : ∀ value, head? (fill value ms) =
      some (name, fill value (body ++ .glyph (.plain ']') :: rest)))
    (closed : ∀ value, enclosed? 0 (fill value (body ++ .glyph (.plain ']') :: rest)) =
      some (fill value body, fill value rest))
    (spelled : ms = nameMarks name ++ .glyph (.plain '[') :: (body ++ .glyph (.plain ']') :: rest))
    (all : [Mark.glyph (.plain ';')].intercalate (marksOfAll args) = body)
    (each : ∀ value, spell (fill value body) ≠ [] →
      FollowEach value args (arguments (spell (fill value body)))) :
    (Outline.call [] name args o).Fits (.glyph (.plain '$') :: ms) := by
  refine ⟨?_, fun value offset line => ?_⟩
  · rw [marks, all, h.1, spelled]
    rfl
  · obtain ⟨parts, segmented, follows⟩ := h.2 value
      (offset + (Call.mk name (spell (fill value body)) offset line).source.length)
      (line + lineEnds (Call.mk name (spell (fill value body)) offset line).source)
    refine ⟨.call ⟨name, spell (fill value body), offset, line⟩ :: parts, ?_, ?_⟩
    · rw [fill_cons]
      exact (segmentsFrom_call (head value) (closed value)).trans (by rw [segmented]; rfl)
    · refine .call rfl rfl rfl (fun empty => ?_) (each value) follows
      rw [Call.arguments, arguments, empty]
      rfl

/-- A call is settled where all that is cut out of what follows its dollar sign is settled. -/
theorem Settled.call {ms after : List Mark} {name : List Char} (guarded : Guarded true ms)
    (reading : ∀ value, IsReading (fill value ms))
    (spelled : ms = nameMarks name ++ .glyph (.plain '[') :: after)
    (head : ∀ value, head? (fill value ms) = some (name, fill value after))
    (each : ∀ ns, ns <:+: ms → Guarded false ns → (∀ value, IsReading (fill value ns)) →
      Settled ns) :
    Settled (.glyph (.plain '$') :: ms) := by
  have readings {ns : List Mark} (cut : ns <:+: ms) (value : List Char → List Char) :
      IsReading (fill value ns) := (reading value).cutOut (fill_cut value cut)
  obtain ⟨body, rest, rfl, closed⟩ | unclosed := enclosed?_fill 0 after
  · have cutBody : body <:+: ms := by
      rw [spelled]
      exact ⟨nameMarks name ++ [.glyph (.plain '[')], .glyph (.plain ']') :: rest, by simp⟩
    have cutRest : rest <:+: ms := by
      rw [spelled]
      exact ⟨nameMarks name ++ .glyph (.plain '[') :: (body ++ [.glyph (.plain ']')]), [],
        by simp⟩
    have balanced (value : List Char → List Char) : Balanced (fill value body) :=
      (eq_of_enclosed? (closed value)).2
    obtain broken | ⟨o, fits⟩ := each rest cutRest (guarded.cutOut cutRest) (readings cutRest)
    · refine .inl fun value offset line => ?_
      obtain ⟨e, failed⟩ := broken value
        (offset + (Call.mk name (spell (fill value body)) offset line).source.length)
        (line + lineEnds (Call.mk name (spell (fill value body)) offset line).source)
      exact ⟨e, (segmentsFrom_call (head value) (closed value)).trans (by rw [failed]; rfl)⟩
    · obtain ⟨args, all, follow⟩ := exists_args_of_call (guarded.cutOut cutBody)
        (readings cutBody) balanced fun q cut => each q (cut.trans cutBody)
      exact .inr ⟨_, fits.call head closed spelled all follow⟩
  · refine .inl fun value offset line => ?_
    exact ⟨_, segmentsFrom_unterminated (head value) (unclosed value)⟩

/-- **Whatever is put in, guarded marks are read as one outline says**, or they are malformed. -/
theorem settled {ms : List Mark} (guarded : Guarded false ms)
    (reading : ∀ value, IsReading (fill value ms)) : Settled ms := by
  -- A call is settled by its arguments and by what follows it, all of which are shorter.
  induction ms using (measure List.length).wf.induction with
  | _ ms ih =>
    match ms with
    | [] =>
      exact .inr ⟨.last [], rfl, fun value offset line => ⟨[], segmentsFrom_nil, .last rfl rfl⟩⟩
    | m :: ms =>
      have tail (value : List Char → List Char) : IsReading (fill value ms) := by
        have both := reading value
        rw [fill_cons] at both
        exact both.right
      have shorter (ns : List Mark) (cut : ns <:+: ms) : ns.length < (m :: ms).length :=
        Nat.lt_succ_of_le cut.length_le
      have rest : Settled ms := ih ms (shorter ms List.infix_rfl) guarded.tail tail
      by_cases dollar : m = .glyph (.plain '$')
      · subst dollar
        obtain ⟨name, after, spelled, head⟩ | none := head?_fill (show Guarded true ms from guarded)
        · exact .call guarded tail spelled head fun ns cut => ih ns (shorter ns cut)
        · exact rest.cons reading fun _ => none
      · exact rest.cons reading fun eq => absurd eq dollar

end CommandScript.Script
