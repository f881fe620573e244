import CommandScript.Dispatch.Reading
import CommandScript.Function.Descriptor
import CommandScript.Proofs.Script.Arguments
import CommandScript.Proofs.Script.Marks
import CommandScript.Proofs.Script.Respelling

/-!
# Letter case of names

Two command strings may differ in the letter case of the names of their calls, at any depth, and in
nothing else. They are read alike: the same literal texts, and calls on the same lines whose names
have the same key. The arguments of these calls again differ in the letter case of names only.

## Main definitions

- `CommandScript.Script.Caseless` — names that differ at most in letter case
- `CommandScript.Script.Recasing`, `CommandScript.Script.Recased` — glyphs and texts that differ at
  most in the letter case of names of calls
- `CommandScript.Script.Call.Recased`, `CommandScript.Script.Segment.Recased` — calls and segments
  that do

## Main results

- `CommandScript.Script.Caseless.key_eq` — the key of a name does not depend on letter case
- `CommandScript.Script.Recased.exists_segments` — command strings are read alike
- `CommandScript.Script.Call.Recased.arguments` — and so are the texts of calls
-/

namespace CommandScript.Script

/-- Two names that differ at most in letter case. -/
structure Caseless (name name' : List Char) : Prop where
  old : IsIdentifier name
  new : IsIdentifier name'
  same : name'.map Char.toLower = name.map Char.toLower

/-- Glyphs that are the same but for the letter case of names between a dollar sign and a bracket,
wherever these stand. -/
inductive Recasing : List Glyph → List Glyph → Prop
  | nil : Recasing [] []
  | cons (g : Glyph) {gs hs : List Glyph} (rest : Recasing gs hs) : Recasing (g :: gs) (g :: hs)
  | head {name name' : List Char} {gs hs : List Glyph} (names : Caseless name name')
      (rest : Recasing gs hs) :
      Recasing (.plain '$' :: (name.map .plain ++ .plain '[' :: gs))
        (.plain '$' :: (name'.map .plain ++ .plain '[' :: hs))

/-- Texts that differ at most in the letter case of names of calls. -/
def Recased (cs ds : List Char) : Prop := Recasing (glyphs cs) (glyphs ds)

/-- Calls at the same place with names and texts that differ at most in the letter case of names. -/
structure Call.Recased (c c' : Call) : Prop where
  name : Caseless c.name c'.name
  raw : Script.Recased c.raw c'.raw
  offset : c'.offset = c.offset
  line : c'.line = c.line

/-- Segments that differ at most in the letter case of names. -/
inductive Segment.Recased : Segment → Segment → Prop
  | literal (raw : List Char) : Recased (.literal raw) (.literal raw)
  | call {c c' : Call} (calls : c.Recased c') : Recased (.call c) (.call c')

section Names

variable {name name' : List Char}

theorem isAscii_of_isNameChar {c : Char} (named : isNameChar c = true) : c.toNat < 0x80 := by
  obtain letter | digit | rfl := isNameChar_iff.1 named
  · obtain upper | lower := (Bool.or_eq_true _ _).mp letter
    · have most : c.val.toNat ≤ 90 := (of_decide_eq_true upper).2
      exact Nat.lt_of_le_of_lt most (by decide)
    · have most : c.val.toNat ≤ 122 := of_decide_eq_true ((Bool.and_eq_true _ _).mp lower).2
      exact Nat.lt_of_le_of_lt most (by decide)
  · have most : c.val.toNat ≤ 57 := of_decide_eq_true ((Bool.and_eq_true _ _).mp digit).2
    exact Nat.lt_of_le_of_lt most (by decide)
  · decide

/-- The key of a name is the name in lower case. -/
theorem IsIdentifier.key_eq (h : IsIdentifier name) :
    FunctionName.key (String.ofList name) = String.ofList (name.map Char.toLower) := by
  have named : ∀ c ∈ name, isNameChar c = true := List.all_eq_true.1 h.all
  have kept : name.dropWhile (· = '$') = name := by
    cases name with
    | nil => rfl
    | cons c name =>
      refine List.dropWhile_cons_of_neg fun dollar => ?_
      rw [of_decide_eq_true dollar] at named
      exact absurd (named '$' (.head _)) (by decide)
  rw [FunctionName.key, String.toList_ofList, kept,
    Text.lower_of_ascii fun c mem => isAscii_of_isNameChar (named c mem)]

theorem Caseless.symm (h : Caseless name name') : Caseless name' name := ⟨h.new, h.old, h.same.symm⟩

/-- The key of a name does not depend on letter case. -/
theorem Caseless.key_eq (h : Caseless name name') :
    FunctionName.key (String.ofList name') = FunctionName.key (String.ofList name) := by
  rw [h.old.key_eq, h.new.key_eq, h.same]

theorem Caseless.length_eq (h : Caseless name name') : name'.length = name.length := by
  simpa using congrArg List.length h.same

/-- A name has no structural glyph. -/
theorem IsIdentifier.inert (h : IsIdentifier name) : ∀ g ∈ name.map Glyph.plain, g.Inert := by
  intro g mem d eq
  obtain ⟨c, there, rfl⟩ := List.mem_map.1 mem
  obtain rfl := Glyph.plain.inj eq
  have named : isNameChar c = true := List.all_eq_true.1 h.all c there
  refine Bool.eq_false_iff.2 fun structural => ?_
  simp only [isStructural, Bool.or_eq_true, decide_eq_true_eq] at structural
  obtain (((rfl | rfl) | rfl) | rfl) | rfl := structural <;> exact absurd named (by decide)

end Names

/-- The text of a call is read by itself as it is read in the call, and so is what follows. -/
theorem IsReading.of_call {name : List Char} {gs after body rest : List Glyph}
    (reading : IsReading (.plain '$' :: gs)) (head : head? gs = some (name, after))
    (closed : enclosed? 0 after = some (body, rest)) : IsReading body ∧ IsReading rest := by
  obtain ⟨rfl, -⟩ := eq_of_head? head
  obtain ⟨rfl, -⟩ := eq_of_enclosed? closed
  have inner : IsReading (body ++ .plain ']' :: rest) := reading.tail.right.tail
  exact ⟨inner.left, inner.right.tail⟩

section Heads

variable {k : Int} {name : List Char} {gs p : List Glyph} {ps : List (List Glyph)}

/-- The head of a call opens a bracket. -/
theorem enclosed?_head (identifier : IsIdentifier name) (d : Nat) (gs : List Glyph) :
    enclosed? d (.plain '$' :: (name.map .plain ++ .plain '[' :: gs)) =
      (enclosed? (d + 1) gs).map fun p =>
        (.plain '$' :: (name.map .plain ++ .plain '[' :: p.1), p.2) := by
  have dollar : level? d [.plain '$'] = some d := level?_cons_of_ne (by simp) (by simp)
  rw [enclosed?_cons dollar, enclosed?_inert identifier.inert, enclosed?_cons (e := d + 1) rfl,
    Option.map_map, Option.map_map]
  rfl

/-- The head of a call belongs to the piece that it stands in front of. -/
theorem pieces_head (identifier : IsIdentifier name) (eq : pieces (k + 1) gs = p :: ps) :
    pieces k (.plain '$' :: (name.map .plain ++ .plain '[' :: gs)) =
      (.plain '$' :: (name.map .plain ++ .plain '[' :: p)) :: ps := by
  have bracket : pieces k (.plain '[' :: gs) = (.plain '[' :: p) :: ps := by
    rw [pieces, if_neg (by simp), Glyph.turn, eq, consFirst]
  have dollar (hs : List Glyph) :
      pieces k (.plain '$' :: hs) = consFirst (.plain '$') (pieces k hs) := by
    rw [pieces, if_neg (by simp), Glyph.turn_of_ne (by simp) (by simp), Int.add_zero]
  rw [dollar, pieces_inert identifier.inert bracket, consFirst]

end Heads

namespace Recasing

variable {d : Nat} {k : Int} {g : Glyph} {gs hs front after body rest : List Glyph}
  {name : List Char}

theorem refl (gs : List Glyph) : Recasing gs gs := by
  induction gs with
  | nil => exact .nil
  | cons g gs ih => exact .cons g ih

theorem symm (h : Recasing gs hs) : Recasing hs gs := by
  induction h with
  | nil => exact .nil
  | cons g _ ih => exact .cons g ih
  | head names _ ih => exact .head names.symm ih

/-- Both are as long, and have as many line ends. -/
theorem same_extent (h : Recasing gs hs) :
    (spell hs).length = (spell gs).length ∧ lineEnds (spell hs) = lineEnds (spell gs) := by
  induction h with
  | nil => exact ⟨rfl, rfl⟩
  | cons g _ ih => simp [lineEnds_append, ih.1, ih.2]
  | head names _ ih =>
    simp [lineEnds_append, ih.1, ih.2, names.length_eq, names.old.lineEnds_eq,
      names.new.lineEnds_eq]

/-- Glyphs go on after the same one, or after a name in another letter case. -/
theorem cases_cons (h : Recasing (g :: gs) hs) :
    (∃ hs', hs = g :: hs' ∧ Recasing gs hs') ∨
      g = .plain '$' ∧ ∃ name name' gs' hs', Caseless name name' ∧
        gs = name.map .plain ++ .plain '[' :: gs' ∧
        hs = .plain '$' :: (name'.map .plain ++ .plain '[' :: hs') ∧ Recasing gs' hs' := by
  cases h with
  | cons _ rest => exact .inl ⟨_, rfl, rest⟩
  | head names rest => exact .inr ⟨rfl, _, _, _, _, names, rfl, rfl, rest⟩

/-- What has no dollar sign is the same in both. -/
theorem exists_of_append (h : Recasing (front ++ gs) hs) (none : .plain '$' ∉ front) :
    ∃ hs', hs = front ++ hs' ∧ Recasing gs hs' := by
  induction front generalizing hs with
  | nil => exact ⟨hs, rfl, h⟩
  | cons g front ih =>
    rw [List.mem_cons, not_or] at none
    obtain ⟨hs, rfl, rest⟩ | ⟨rfl, -⟩ := h.cases_cons
    · obtain ⟨hs', rfl, later⟩ := ih rest none.2
      exact ⟨hs', rfl, later⟩
    · exact absurd rfl none.1

/-- Where a dollar sign is the same in both, so is the head after it. -/
theorem exists_head? (h : Recasing gs hs) (head : head? gs = some (name, after)) :
    ∃ after', head? hs = some (name, after') ∧ Recasing after after' := by
  obtain ⟨identifier, rfl⟩ := head?_eq_some_iff.1 head
  have none : .plain '$' ∉ name.map Glyph.plain ++ [.plain '['] := by
    rw [List.mem_append, not_or]
    exact ⟨fun mem => (identifier.inert _ mem).ne (by decide) rfl, by simp⟩
  rw [List.append_cons] at h
  obtain ⟨after', rfl, rest⟩ := h.exists_of_append none
  exact ⟨after', head?_eq_some_iff.2 ⟨identifier, by simp⟩, rest⟩

/-- Where a call begins in one of both, one begins in the other. -/
theorem exists_call (h : Recasing (.plain '$' :: gs) hs) (head : head? gs = some (name, after)) :
    ∃ name' gs' after', hs = .plain '$' :: gs' ∧ head? gs' = some (name', after') ∧
      Caseless name name' ∧ Recasing after after' := by
  obtain ⟨hs, rfl, rest⟩ | ⟨-, name₁, name', gs', hs', names, rfl, rfl, rest⟩ := h.cases_cons
  · obtain ⟨after', head', rest⟩ := rest.exists_head? head
    have identifier := (head?_eq_some_iff.1 head).1
    exact ⟨name, hs, after', rfl, head', ⟨identifier, identifier, rfl⟩, rest⟩
  · have same := (head?_eq_some_iff.2 ⟨names.old, rfl⟩).symm.trans head
    obtain ⟨rfl, rfl⟩ := Prod.mk.inj (Option.some.inj same)
    exact ⟨name', _, hs', rfl, head?_eq_some_iff.2 ⟨names.new, rfl⟩, names, rest⟩

/-- Where a bracket is closed in one of both, it is closed in the other. -/
theorem exists_enclosed? (h : Recasing gs hs) (closed : enclosed? d gs = some (body, rest)) :
    ∃ body' rest', enclosed? d hs = some (body', rest') ∧ Recasing body body' ∧
      Recasing rest rest' := by
  induction h generalizing d body with
  | nil => simp [enclosed?] at closed
  | cons g others ih =>
    obtain ⟨e, one, -⟩ | ⟨rfl, rfl⟩ := level?_single d g
    · rw [enclosed?_cons one] at closed ⊢
      obtain ⟨⟨inner, rest⟩, here, eq⟩ := Option.map_eq_some_iff.1 closed
      obtain ⟨rfl, rfl⟩ := Prod.mk.inj eq
      obtain ⟨inner', rest', closed', bodies, rests⟩ := ih here
      exact ⟨g :: inner', rest', by rw [closed']; rfl, .cons g bodies, rests⟩
    · obtain ⟨rfl, rfl⟩ := Prod.mk.inj (Option.some.inj closed)
      exact ⟨[], _, rfl, .nil, others⟩
  | head names _ ih =>
    rw [enclosed?_head names.old] at closed
    obtain ⟨⟨inner, rest⟩, here, eq⟩ := Option.map_eq_some_iff.1 closed
    obtain ⟨rfl, rfl⟩ := Prod.mk.inj eq
    obtain ⟨inner', rest', closed', bodies, rests⟩ := ih here
    exact ⟨_, rest', by rw [enclosed?_head names.new, closed']; rfl, .head names bodies, rests⟩

/-- Both are cut at the same separators. -/
theorem pieces (h : Recasing gs hs) (k : Int) :
    List.Forall₂ Recasing (Script.pieces k gs) (Script.pieces k hs) := by
  induction h generalizing k with
  | nil => exact .cons .nil .nil
  | @cons g gs hs _ ih =>
    rw [Script.pieces, Script.pieces]
    split
    · exact .cons .nil (ih k)
    · obtain ⟨p, ps, eq, -⟩ := exists_pieces (k + g.turn) gs
      obtain ⟨q, qs, eq', -⟩ := exists_pieces (k + g.turn) hs
      have both := ih (k + g.turn)
      rw [eq, eq'] at both ⊢
      obtain ⟨first, others⟩ := List.forall₂_cons.1 both
      exact .cons (.cons g first) others
  | @head _ _ gs hs names _ ih =>
    obtain ⟨p, ps, eq, -⟩ := exists_pieces (k + 1) gs
    obtain ⟨q, qs, eq', -⟩ := exists_pieces (k + 1) hs
    rw [pieces_head names.old eq, pieces_head names.new eq']
    have both := ih (k + 1)
    rw [eq, eq'] at both
    obtain ⟨first, others⟩ := List.forall₂_cons.1 both
    exact .cons (.head names first) others

end Recasing

theorem Recased.refl (cs : List Char) : Recased cs cs := Recasing.refl (glyphs cs)

/-- Both texts are as long, and have as many line ends. -/
theorem Recased.same_extent {cs ds : List Char} (h : Recased cs ds) :
    ds.length = cs.length ∧ lineEnds ds = lineEnds cs := by
  have same := Recasing.same_extent h
  rwa [spell_glyphs, spell_glyphs] at same

/-- A glyph in front of segments makes no difference to them. -/
theorem recased_consGlyph {parts parts' : List Segment}
    (h : List.Forall₂ Segment.Recased parts parts') (g : Glyph) :
    List.Forall₂ Segment.Recased (consGlyph g parts) (consGlyph g parts') := by
  cases h with
  | nil => exact .cons (.literal _) .nil
  | cons first others =>
    cases first with
    | literal raw => exact .cons (.literal _) others
    | call calls => exact .cons (.literal _) (.cons (.call calls) others)

/-- Both calls are as long, and have as many line ends. -/
theorem Call.Recased.same_extent {c c' : Call} (h : c.Recased c') :
    c'.source.length = c.source.length ∧ lineEnds c'.source = lineEnds c.source := by
  obtain ⟨length, ends⟩ := h.raw.same_extent
  constructor
  · simp [Call.source, length, h.name.length_eq]
  · have parted (c : Call) : c.source = ['$'] ++ c.name ++ ['['] ++ c.raw ++ [']'] := by
      simp [Call.source]
    simp only [parted, lineEnds_append, ends, h.name.old.lineEnds_eq, h.name.new.lineEnds_eq]

/-- Both are read as segments that differ at most in the letter case of names. -/
theorem Recasing.exists_reads {gs hs : List Glyph} (h : Recasing gs hs) {offset : Nat} {line : Int}
    {parts : List Segment} (read : Reads offset line gs parts) (reading : IsReading gs)
    (reading' : IsReading hs) :
    ∃ parts', Reads offset line hs parts' ∧ List.Forall₂ Segment.Recased parts parts' := by
  induction read generalizing hs with
  | nil =>
    cases h
    exact ⟨[], .nil, .nil⟩
  | @call offset line gs after body rest name parts head closed _ ih =>
    obtain ⟨name', gs', after', rfl, head', names, afters⟩ := h.exists_call head
    obtain ⟨body', rest', closed', bodies, rests⟩ := afters.exists_enclosed? closed
    obtain ⟨inner, outer⟩ := reading.of_call head closed
    obtain ⟨inner', outer'⟩ := reading'.of_call head' closed'
    have raws : Recased (spell body) (spell body') := by
      rw [Recased, inner, inner']
      exact bodies
    have calls : Call.Recased ⟨name, spell body, offset, line⟩ ⟨name', spell body', offset, line⟩ :=
      ⟨names, raws, rfl, rfl⟩
    obtain ⟨parts', read', others⟩ := ih rests outer outer'
    rw [← calls.same_extent.1, ← calls.same_extent.2] at read'
    exact ⟨_, .call head' closed' read', .cons (.call calls) others⟩
  | @glyph offset line g gs parts literal _ ih =>
    obtain ⟨hs, rfl, rest⟩ | ⟨rfl, name, name', gs', hs', names, rfl, -⟩ := h.cases_cons
    · have literal' : g = .plain '$' → head? hs = none := by
        intro dollar
        cases found : head? hs with
        | none => rfl
        | some p =>
          obtain ⟨after, head, -⟩ := rest.symm.exists_head? found
          rw [literal dollar] at head
          cases head
      obtain ⟨parts', read', others⟩ := ih rest reading.tail reading'.tail
      exact ⟨_, .glyph literal' read', recased_consGlyph others g⟩
    · have head : head? _ = some (name, gs') := head?_eq_some_iff.2 ⟨names.old, rfl⟩
      rw [literal rfl] at head
      cases head

namespace Recased

variable {cs ds : List Char} {line : Int} {parts : List Segment}

/-- A text is read as segments that differ at most in the letter case of names. -/
theorem exists_segments (h : Recased cs ds) (read : segments cs line = .ok parts) :
    ∃ parts', segments ds line = .ok parts' ∧ List.Forall₂ Segment.Recased parts parts' := by
  obtain ⟨parts', read', others⟩ := Recasing.exists_reads h (segmentsFrom_eq_ok_iff.1 read)
    (isReading_glyphs cs) (isReading_glyphs ds)
  exact ⟨parts', segmentsFrom_eq_ok_iff.2 read', others⟩

/-- The arguments of both texts differ at most in the letter case of names. -/
theorem arguments (h : Recased cs ds) :
    List.Forall₂ Recased (Script.arguments cs) (Script.arguments ds) := by
  have read (cs : List Char) :
      (pieces 0 (glyphs cs)).map (fun p => glyphs (spell p)) = pieces 0 (glyphs cs) := by
    have each (p : List Glyph) (mem : p ∈ pieces 0 (glyphs cs)) : glyphs (spell p) = p :=
      (isReading_glyphs cs).cutOut (infix_of_mem_pieces mem)
    exact (List.map_congr_left each).trans (List.map_id _)
  have written : ds.isEmpty = cs.isEmpty := by
    rw [Bool.eq_iff_iff, List.isEmpty_iff_length_eq_zero, List.isEmpty_iff_length_eq_zero,
      h.same_extent.1]
  unfold Script.arguments
  rw [written]
  split
  · exact .nil
  · rw [List.forall₂_map_left_iff, List.forall₂_map_right_iff]
    have cut := Recasing.pieces h 0
    rw [← read cs, ← read ds, List.forall₂_map_left_iff, List.forall₂_map_right_iff] at cut
    exact cut

end Recased

namespace Call.Recased

variable {c c' : Call}

/-- The arguments of both calls differ at most in the letter case of names, and stand on the same
lines. -/
theorem arguments (h : c.Recased c') :
    List.Forall₂ (fun p q => Script.Recased p.1 q.1 ∧ q.2 = p.2)
      (c.arguments.zip (argumentLines c.raw c.line))
      (c'.arguments.zip (argumentLines c'.raw c'.line)) := by
  have placed {as bs : List (List Char)} (line : Int) (same : List.Forall₂ Script.Recased as bs) :
      List.Forall₂ (fun p q => Script.Recased p.1 q.1 ∧ q.2 = p.2) (as.zip (linesFrom line as))
        (bs.zip (linesFrom line bs)) := by
    induction same generalizing line with
    | nil => exact .nil
    | cons first _ ih =>
      rw [linesFrom, linesFrom, first.same_extent.2]
      exact .cons ⟨first, rfl⟩ (ih _)
  rw [h.line]
  exact placed c.line h.raw.arguments

/-- Where one call has an argument, so has the other. -/
theorem argumentAt? (h : c.Recased c') (i : Int) :
    Option.Rel (fun p q => Script.Recased p.1 q.1 ∧ q.2 = p.2) (c.argumentAt? i)
      (c'.argumentAt? i) := by
  unfold Call.argumentAt?
  split
  · exact .none
  · have both := h.arguments
    generalize i.toNat = k
    revert both
    generalize c.arguments.zip _ = ps, c'.arguments.zip _ = qs
    intro both
    induction both generalizing k with
    | nil => exact .none
    | cons first _ ih =>
      cases k with
      | zero => exact .some first
      | succ k => exact ih k

theorem length_arguments (h : c.Recased c') : c'.arguments.length = c.arguments.length :=
  h.raw.arguments.length_eq.symm

end Call.Recased

end CommandScript.Script
