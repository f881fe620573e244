import CommandScript.Proofs.Script.Segmenting

/-!
# Nesting of brackets

The text between the brackets of a call closes all brackets that it opens, and so does each of its
arguments. Glyphs of which that is true have no call that is not closed; so a command string that is
well formed has well-formed arguments, and arguments of arguments, at every depth. What a text that
ends cleanly is read as does not depend on what comes after it.

## Main definitions

- `CommandScript.Script.level?` — how many brackets are open after glyphs
- `CommandScript.Script.Balanced` — glyphs that close what they open and nothing else
- `CommandScript.Script.WellFormed` — command strings in which every call is closed
- `CommandScript.Script.Within` — what is reached by taking arguments of calls

## Main results

- `CommandScript.Script.segmentsFrom_of_level?` — where all brackets are closed, so are all calls
- `CommandScript.Script.WellFormed.within` — whatever is within a well-formed command string is well
  formed
- `CommandScript.Script.enclosed?_append` — brackets are closed where they are
- `CommandScript.Script.spell_call` — a call and what follows it
- `CommandScript.Script.unescape_spell_append` — glyphs in front of a literal text
-/

namespace CommandScript.Script

/-- The number of brackets that are open after glyphs before which so many are; `none` where a
bracket is closed that is not open. -/
def level? (depth : Nat) : List Glyph → Option Nat
  | [] => some depth
  | g :: gs =>
    if g = .plain '[' then level? (depth + 1) gs
    else if g = .plain ']' then
      match depth with
      | 0 => none
      | d + 1 => level? d gs
    else level? depth gs

/-- The glyphs close all brackets that they open, and no others. -/
def Balanced (gs : List Glyph) : Prop := level? 0 gs = some 0

section Levels

variable {d e k : Nat} {g : Glyph} {gs body rest after : List Glyph} {name : List Char}

theorem level?_cons_of_ne (hopen : g ≠ .plain '[') (hclose : g ≠ .plain ']') :
    level? d (g :: gs) = level? d gs := by
  simp only [level?, if_neg hopen, if_neg hclose]

@[simp] theorem level?_open : level? d (.plain '[' :: gs) = level? (d + 1) gs := rfl

@[simp] theorem level?_close : level? (d + 1) (.plain ']' :: gs) = level? d gs := rfl

@[simp] theorem level?_zero_close : level? 0 (.plain ']' :: gs) = none := rfl

/-- Names have no brackets. -/
theorem level?_name (all : name.all isNameChar = true) :
    level? d (name.map .plain ++ gs) = level? d gs := by
  induction name with
  | nil => rfl
  | cons c name ih =>
    rw [List.all_cons, Bool.and_eq_true] at all
    rw [List.map_cons, List.cons_append, level?_cons_of_ne, ih all.2]
    · rintro ⟨⟩
      exact absurd all.1 (by decide)
    · rintro ⟨⟩
      exact absurd all.1 (by decide)

/-- Brackets around what is open do not matter to what is closed. -/
theorem level?_add (h : level? d gs = some e) (k : Nat) : level? (d + k) gs = some (e + k) := by
  induction gs generalizing d with
  | nil =>
    obtain rfl := Option.some.inj h
    rfl
  | cons g gs ih =>
    by_cases hopen : g = .plain '['
    · subst hopen
      rw [level?_open, Nat.add_right_comm]
      exact ih h
    · by_cases hclose : g = .plain ']'
      · subst hclose
        cases d with
        | zero => simp at h
        | succ d =>
          rw [Nat.add_right_comm, level?_close]
          exact ih h
      · rw [level?_cons_of_ne hopen hclose] at h ⊢
        exact ih h

/-- The glyphs up to the bracket that closes, with one in front of them that is not it. -/
theorem enclosed?_cons (h : level? d [g] = some e) :
    enclosed? d (g :: gs) = (enclosed? e gs).map fun p => (g :: p.1, p.2) := by
  by_cases hopen : g = .plain '['
  · subst hopen
    obtain rfl := Option.some.inj h
    rfl
  · by_cases hclose : g = .plain ']'
    · subst hclose
      cases d with
      | zero => simp at h
      | succ d =>
        obtain rfl := Option.some.inj h
        rfl
    · rw [level?_cons_of_ne hopen hclose] at h
      obtain rfl := Option.some.inj h
      simp only [enclosed?, if_neg hopen, if_neg hclose]

@[simp] theorem enclosed?_close : enclosed? 0 (.plain ']' :: gs) = some ([], gs) := rfl

/-- A glyph counts by itself, except where it closes what is not open. -/
theorem level?_single (d : Nat) (g : Glyph) :
    (∃ e, level? d [g] = some e ∧ ∀ gs, level? d (g :: gs) = level? e gs) ∨
      d = 0 ∧ g = .plain ']' := by
  by_cases hopen : g = .plain '['
  · subst hopen
    exact .inl ⟨d + 1, rfl, fun _ => rfl⟩
  · by_cases hclose : g = .plain ']'
    · subst hclose
      cases d with
      | zero => exact .inr ⟨rfl, rfl⟩
      | succ d => exact .inl ⟨d, rfl, fun _ => rfl⟩
    · exact .inl ⟨d, level?_cons_of_ne hopen hclose, fun _ => level?_cons_of_ne hopen hclose⟩

/-- The glyphs in brackets, and then the bracket and what comes after it. -/
theorem eq_of_enclosed? (h : enclosed? d gs = some (body, rest)) :
    gs = body ++ .plain ']' :: rest ∧ level? d body = some 0 := by
  induction gs generalizing d body with
  | nil => simp [enclosed?] at h
  | cons g gs ih =>
    obtain ⟨e, one, level⟩ | ⟨rfl, rfl⟩ := level?_single d g
    · rw [enclosed?_cons one] at h
      obtain ⟨⟨body', rest'⟩, inner, heq⟩ := Option.map_eq_some_iff.1 h
      obtain ⟨rfl, rfl⟩ := Prod.mk.inj heq
      obtain ⟨rfl, closed⟩ := ih inner
      exact ⟨rfl, by rw [level, closed]⟩
    · obtain ⟨rfl, rfl⟩ := Prod.mk.inj (Option.some.inj h)
      exact ⟨rfl, rfl⟩

/-- A bracket that is closed at the end of glyphs is closed somewhere in them, and what comes after
that closes the brackets around it. -/
theorem exists_enclosed? (h : level? (d + 1 + k) gs = some e) (closed : e ≤ k) :
    ∃ body rest, enclosed? d gs = some (body, rest) ∧ level? k rest = some e := by
  -- Of the open brackets, `d` are inside the one to be closed and `k` are around it.
  induction gs generalizing d with
  | nil =>
    obtain rfl := Option.some.inj h
    omega
  | cons g gs ih =>
    obtain ⟨e', one, level⟩ | ⟨rfl, rfl⟩ := level?_single d g
    · have around : level? (d + (1 + k)) [g] = some (e' + (1 + k)) := level?_add one _
      obtain ⟨e'', one', level'⟩ | ⟨none, _⟩ := level?_single (d + (1 + k)) g
      · obtain rfl := Option.some.inj (one'.symm.trans around)
        rw [Nat.add_assoc, level', ← Nat.add_assoc] at h
        obtain ⟨body, rest, inner, closes⟩ := ih h
        exact ⟨g :: body, rest, by rw [enclosed?_cons one, inner]; rfl, closes⟩
      · omega
    · rw [Nat.zero_add, Nat.add_comm, level?_close] at h
      exact ⟨[], gs, rfl, h⟩

/-- After the head of a call one more bracket is open. -/
theorem level?_head (h : head? gs = some (name, rest)) :
    level? d (.plain '$' :: gs) = level? (d + 1) rest := by
  obtain ⟨rfl, named⟩ := eq_of_head? h
  have all := (Bool.and_eq_true _ _ ▸ named : name.all isNameChar = true ∧ _).1
  rw [level?_cons_of_ne (by simp) (by simp), level?_name all, level?_open]

/-- Where all brackets are closed, so is the one of a head, and what comes after it closes the
brackets around it. -/
theorem exists_enclosed?_of_head (h : level? k (.plain '$' :: gs) = some 0)
    (head : head? gs = some (name, after)) :
    ∃ body rest, enclosed? 0 after = some (body, rest) ∧ level? k rest = some 0 := by
  rw [level?_head head] at h
  have deeper : level? (0 + 1 + k) after = some 0 := by
    rwa [Nat.zero_add, Nat.add_comm]
  exact exists_enclosed? deeper (Nat.zero_le k)

theorem suffix_of_call (head : head? gs = some (name, after))
    (closed : enclosed? 0 after = some (body, rest)) : rest <:+ gs := by
  obtain ⟨rfl, -⟩ := eq_of_head? head
  obtain ⟨rfl, -⟩ := eq_of_enclosed? closed
  exact ⟨name.map .plain ++ .plain '[' :: body ++ [.plain ']'], by simp⟩

end Levels

section Segments

variable {k offset : Nat} {line : Int} {gs : List Glyph} {parts : List Segment} {c : Call}

/-- Where all brackets are closed, so are all calls. -/
theorem segmentsFrom_of_level? (h : level? k gs = some 0) (offset : Nat) (line : Int) :
    ∃ parts, segmentsFrom offset line gs = .ok parts := by
  -- Brackets in literal texts count too, so `k` changes on the way.
  induction gs using segmentsFrom_induction generalizing k offset line with
  | nil => exact ⟨[], segmentsFrom_nil⟩
  | call gs name after body rest head closed ih =>
    obtain ⟨body', rest', closed', level⟩ := exists_enclosed?_of_head h head
    obtain ⟨rfl, rfl⟩ := Prod.mk.inj (Option.some.inj (closed.symm.trans closed'))
    obtain ⟨parts, segmented⟩ := ih level _ _
    exact ⟨_, by rw [segmentsFrom_call head closed, segmented]; rfl⟩
  | unterminated gs name after head unclosed =>
    obtain ⟨body', rest', closed', -⟩ := exists_enclosed?_of_head h head
    rw [unclosed] at closed'
    cases closed'
  | glyph g gs literal ih =>
    rw [segmentsFrom_cons literal]
    obtain ⟨e, -, level⟩ | ⟨rfl, rfl⟩ := level?_single k g
    · rw [level] at h
      obtain ⟨parts, segmented⟩ := ih h (offset + g.width) (line + lineEnds g.chars)
      exact ⟨_, by rw [segmented]; rfl⟩
    · simp at h

theorem call_mem_consGlyph {g : Glyph} : .call c ∈ consGlyph g parts ↔ .call c ∈ parts := by
  match parts with
  | [] => simp [consGlyph]
  | .literal raw :: rest => simp [consGlyph]
  | .call d :: rest => simp [consGlyph]

/-- The text of a call is cut out of the glyphs, and closes the brackets that it opens. -/
theorem exists_body (h : segmentsFrom offset line gs = .ok parts) (mem : .call c ∈ parts) :
    ∃ body, c.raw = spell body ∧ body <:+: gs ∧ Balanced body := by
  induction gs using segmentsFrom_induction generalizing parts offset line with
  | nil =>
    obtain rfl := Except.ok.inj (segmentsFrom_nil.symm.trans h)
    cases mem
  | call gs name after body rest head closed ih =>
    rw [segmentsFrom_call head closed] at h
    obtain ⟨parts', segmented, rfl⟩ := exists_of_map_eq_ok h
    have suffix := suffix_of_call head closed
    cases mem with
    | head =>
      obtain ⟨rfl, -⟩ := eq_of_head? head
      obtain ⟨rfl, level⟩ := eq_of_enclosed? closed
      exact ⟨body, rfl, ⟨.plain '$' :: name.map .plain ++ [.plain '['], .plain ']' :: rest,
        by simp⟩, level⟩
    | tail _ mem =>
      obtain ⟨body', raw, cut, level'⟩ := ih segmented mem
      exact ⟨body', raw, cut.trans (suffix.trans (List.suffix_cons _ gs)).isInfix, level'⟩
  | unterminated gs name after head unclosed =>
    rw [segmentsFrom_unterminated head unclosed] at h
    cases h
  | glyph g gs literal ih =>
    rw [segmentsFrom_cons literal] at h
    obtain ⟨parts', segmented, rfl⟩ := exists_of_map_eq_ok h
    obtain ⟨body, raw, cut, level⟩ := ih segmented (call_mem_consGlyph.1 mem)
    exact ⟨body, raw, cut.trans (List.suffix_cons g gs).isInfix, level⟩

end Segments

section Pieces

variable {k : Nat} {g : Glyph} {gs p : List Glyph}

theorem Glyph.turn_of_ne (hopen : g ≠ .plain '[') (hclose : g ≠ .plain ']') : g.turn = 0 := by
  unfold Glyph.turn
  split
  · exact absurd rfl hopen
  · exact absurd rfl hclose
  · rfl

/-- The depth across a glyph, as pieces count it. -/
theorem level?_turn {e : Nat} (h : level? k [g] = some e) : (k : Int) + g.turn = e := by
  by_cases hopen : g = .plain '['
  · subst hopen
    obtain rfl := Option.some.inj h
    rfl
  · by_cases hclose : g = .plain ']'
    · subst hclose
      cases k with
      | zero => simp at h
      | succ k =>
        obtain rfl := Option.some.inj h
        exact Int.add_neg_cancel_right k 1
    · rw [level?_cons_of_ne hopen hclose] at h
      obtain rfl := Option.some.inj h
      rw [Glyph.turn_of_ne hopen hclose, Int.add_zero]

/-- There is a first piece, and the others come after it. -/
theorem exists_pieces (depth : Int) (gs : List Glyph) :
    ∃ p ps, pieces depth gs = p :: ps ∧ p <+: gs ∧ ∀ q ∈ ps, q <:+: gs := by
  induction gs generalizing depth with
  | nil => exact ⟨[], [], rfl, List.nil_prefix, by simp⟩
  | cons g gs ih =>
    have longer {q : List Glyph} (cut : q <:+: gs) : q <:+: g :: gs :=
      cut.trans (List.suffix_cons g gs).isInfix
    rw [pieces]
    split
    · obtain ⟨p, ps, eq, first, others⟩ := ih depth
      refine ⟨[], _, rfl, List.nil_prefix, fun q mem => ?_⟩
      rw [eq] at mem
      obtain rfl | mem := List.mem_cons.1 mem
      · exact longer first.isInfix
      · exact longer (others q mem)
    · obtain ⟨p, ps, eq, first, others⟩ := ih (depth + g.turn)
      refine ⟨g :: p, ps, by rw [eq]; rfl, ?_, fun q mem => longer (others q mem)⟩
      exact (List.cons_prefix_cons).2 ⟨rfl, first⟩

/-- The first piece closes the brackets that are open before it, and the others are balanced. -/
theorem level?_pieces (h : level? k gs = some 0) :
    ∃ p ps, pieces k gs = p :: ps ∧ level? k p = some 0 ∧ ∀ q ∈ ps, Balanced q := by
  -- A cut is only made where no bracket is open, so the pieces after it start afresh.
  induction gs generalizing k with
  | nil => exact ⟨[], [], rfl, h, by simp⟩
  | cons g gs ih =>
    rw [pieces]
    split
    · next cut =>
      obtain ⟨rfl, zero⟩ := cut
      obtain rfl : k = 0 := by omega
      rw [level?_cons_of_ne (by simp) (by simp)] at h
      obtain ⟨p, ps, eq, first, others⟩ := ih h
      refine ⟨[], _, rfl, rfl, fun q mem => ?_⟩
      rw [eq] at mem
      obtain rfl | mem := List.mem_cons.1 mem
      · exact first
      · exact others q mem
    · obtain ⟨e, one, level⟩ | ⟨rfl, rfl⟩ := level?_single k g
      · rw [level] at h
        obtain ⟨p, ps, eq, first, others⟩ := ih h
        exact ⟨g :: p, ps, by rw [level?_turn one, eq]; rfl, by rw [level, first], others⟩
      · simp at h

end Pieces

theorem Balanced.piece {gs p : List Glyph} (h : Balanced gs) (mem : p ∈ pieces 0 gs) :
    Balanced p := by
  obtain ⟨q, qs, eq, first, others⟩ := level?_pieces (k := 0) h
  rw [show pieces 0 gs = q :: qs from eq] at mem
  obtain rfl | mem := List.mem_cons.1 mem
  · exact first
  · exact others p mem

/-- Pieces are cut out of what they are pieces of. -/
theorem infix_of_mem_pieces {depth : Int} {gs p : List Glyph} (mem : p ∈ pieces depth gs) :
    p <:+: gs := by
  obtain ⟨q, qs, eq, first, others⟩ := exists_pieces depth gs
  rw [eq] at mem
  obtain rfl | mem := List.mem_cons.1 mem
  · exact first.isInfix
  · exact others p mem

/-- Arguments of a text that closes its brackets close theirs. -/
theorem balanced_of_mem_arguments {raw a : List Char} (h : Balanced (glyphs raw))
    (mem : a ∈ arguments raw) : Balanced (glyphs a) := by
  unfold arguments at mem
  split at mem
  · cases mem
  · obtain ⟨p, piece, rfl⟩ := List.mem_map.1 mem
    rw [(isReading_glyphs raw).cutOut (infix_of_mem_pieces piece)]
    exact h.piece piece

/-- In a command string every call is closed. -/
def WellFormed (cs : List Char) : Prop := ∃ line parts, segments cs line = .ok parts

/-- A text is reached from another by taking an argument of a call in it, and an argument of a call
in that, and so on. -/
inductive Within (cs : List Char) : List Char → Prop
  | self : Within cs cs
  | argument {t a : List Char} {line : Int} {parts : List Segment} {c : Call} (within : Within cs t)
      (segmented : segments t line = .ok parts) (call : .call c ∈ parts) (arg : a ∈ c.arguments) :
      Within cs a

/-- The text between the brackets of a call that is read is balanced. -/
theorem balanced_raw {t : List Char} {line : Int} {parts : List Segment} {c : Call}
    (segmented : segments t line = .ok parts) (call : .call c ∈ parts) :
    Balanced (glyphs c.raw) := by
  obtain ⟨body, raw, cut, level⟩ := exists_body segmented call
  rw [raw, (isReading_glyphs t).cutOut cut]
  exact level

/-- Arguments of calls are balanced. -/
theorem balanced_of_call {t a : List Char} {line : Int} {parts : List Segment} {c : Call}
    (segmented : segments t line = .ok parts) (call : .call c ∈ parts) (arg : a ∈ c.arguments) :
    Balanced (glyphs a) :=
  balanced_of_mem_arguments (balanced_raw segmented call) arg

/-- A well-formed command string is one on every line. -/
theorem WellFormed.segments {cs : List Char} (h : WellFormed cs) (line : Int) :
    ∃ parts, segments cs line = .ok parts := by
  obtain ⟨line', parts, segmented⟩ := h
  have moved := segmentsFrom_moved 0 (line - line') (glyphs cs) 0 line'
  rw [show segmentsFrom 0 line' (glyphs cs) = .ok parts from segmented, Nat.zero_add,
    show line' + (line - line') = line by omega] at moved
  exact ⟨_, moved⟩

/-- **What is within a well-formed command string is well formed**, however deep it is: reading an
argument of a call, or an argument of a call in that, never fails. -/
theorem WellFormed.within {cs t : List Char} (h : WellFormed cs) (within : Within cs t) :
    WellFormed t := by
  cases within with
  | self => exact h
  | argument _ segmented call arg =>
    exact ⟨1, segmentsFrom_of_level? (balanced_of_call segmented call arg) 0 1⟩

/-! ### Texts one after the other -/

section Concatenation

variable {offset : Nat} {line : Int} {g : Glyph} {gs hs body rest : List Glyph}
  {parts : List Segment} {raw : List Char}

/-- Glyphs in brackets are closed where they are, whatever comes later. -/
theorem enclosed?_append {d : Nat} (hs : List Glyph) (h : enclosed? d gs = some (body, rest)) :
    enclosed? d (gs ++ hs) = some (body, rest ++ hs) := by
  induction gs generalizing d body with
  | nil => simp [enclosed?] at h
  | cons g gs ih =>
    rw [List.cons_append]
    obtain ⟨e, one, -⟩ | ⟨rfl, rfl⟩ := level?_single d g
    · rw [enclosed?_cons one] at h ⊢
      obtain ⟨⟨body', rest'⟩, inner, heq⟩ := Option.map_eq_some_iff.1 h
      obtain ⟨rfl, rfl⟩ := Prod.mk.inj heq
      rw [ih inner]
      rfl
    · obtain ⟨rfl, rfl⟩ := Prod.mk.inj (Option.some.inj h)
      rfl

/-- A literal text that comes first spells glyphs that come first. -/
theorem exists_prefix (h : segmentsFrom offset line gs = .ok (.literal raw :: parts)) :
    ∃ front, raw = spell front ∧ front <+: gs := by
  induction gs using segmentsFrom_induction generalizing offset line raw parts with
  | nil => simp at h
  | call gs name after body rest head closed ih =>
    rw [segmentsFrom_call head closed] at h
    obtain ⟨parts', -, eq⟩ := exists_of_map_eq_ok h
    cases eq
  | unterminated gs name after head unclosed =>
    rw [segmentsFrom_unterminated head unclosed] at h
    cases h
  | glyph g gs literal ih =>
    rw [segmentsFrom_cons literal] at h
    obtain ⟨parts', segmented, eq⟩ := exists_of_map_eq_ok h
    match parts' with
    | .literal raw' :: rest =>
      obtain ⟨front, rfl, first⟩ := ih segmented
      cases eq
      exact ⟨g :: front, rfl, List.cons_prefix_cons.2 ⟨rfl, first⟩⟩
    | [] =>
      cases eq
      exact ⟨[g], by simp, List.cons_prefix_cons.2 ⟨rfl, List.nil_prefix⟩⟩
    | .call c :: rest =>
      cases eq
      exact ⟨[g], by simp, List.cons_prefix_cons.2 ⟨rfl, List.nil_prefix⟩⟩

/-- Glyphs in front of a literal text stand for what they stand for, in front of what that stands
for. -/
theorem unescape_spell_append {ins front : List Glyph} (reading : IsReading (ins ++ gs))
    (first : front <+: gs) :
    unescape (spell ins ++ spell front) = evaluated ins ++ unescape (spell front) := by
  have longer : IsReading (ins ++ front) :=
    reading.cutOut ((List.prefix_append_right_inj ins).2 first).isInfix
  have shorter : IsReading front := longer.right
  rw [← spell_append, unescape, unescape, longer, shorter, evaluated, evaluated, evaluated,
    List.map_append]

theorem unescape_cons (reading : IsReading (g :: gs)) {front : List Glyph} (first : front <+: gs) :
    unescape (g.chars ++ spell front) = g.value :: unescape (spell front) := by
  have eq := unescape_spell_append (@id (IsReading ([g] ++ gs)) reading) first
  rwa [spell_cons, spell_nil, List.append_nil] at eq

theorem Glyph.width_eq (g : Glyph) : g.width = g.chars.length := by
  cases g <;> rfl

theorem lineEnds_append (cs ds : List Char) : lineEnds (cs ++ ds) = lineEnds cs + lineEnds ds :=
  List.count_append

/-- A call is spelled before what follows it. -/
theorem spell_call {name : List Char} {after : List Glyph} (offset : Nat) (line : Int)
    (head : head? gs = some (name, after)) (closed : enclosed? 0 after = some (body, rest)) :
    spell (.plain '$' :: gs) = (Call.mk name (spell body) offset line).source ++ spell rest := by
  obtain ⟨rfl, -⟩ := eq_of_head? head
  obtain ⟨rfl, -⟩ := eq_of_enclosed? closed
  simp [Glyph.chars, Call.source]

end Concatenation

end CommandScript.Script
