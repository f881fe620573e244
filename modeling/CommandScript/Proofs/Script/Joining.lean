import CommandScript.Proofs.Script.Respelling

/-!
# Joining arguments

Texts that are joined by separators are cut into the same texts again, where each of them closes its
brackets, has no separator outside of them, and does not end in a backslash without a partner. The
arguments of a call are such texts, and joined they are the text of the call.

## Main definitions

- `CommandScript.Script.joined` — texts with separators between them
- `CommandScript.Script.Undivided` — glyphs without a separator at which they would be cut
- `CommandScript.Script.IsArgument` — texts that may be arguments of a call

## Main results

- `CommandScript.Script.arguments_joined` — texts that are joined are cut again where they were
- `CommandScript.Script.joined_arguments` — arguments joined again are what they were cut from
- `CommandScript.Script.isArgument_of_mem` — arguments may be arguments
-/

namespace CommandScript.Script

/-- Texts with separators between them. -/
def joined (as : List (List Char)) : List Char := [';'].intercalate as

/-- After `k` open brackets, there is no separator in the glyphs where all of them are closed. -/
def Undivided (k : Nat) (gs : List Glyph) : Prop :=
  ∀ before after, gs = before ++ .plain ';' :: after → level? k before ≠ some 0

/-- The text is closed, and has no separator outside of its brackets. -/
def IsArgument (a : List Char) : Prop := Closed a ∧ Undivided 0 (glyphs a)

@[simp] theorem joined_nil : joined [] = [] := by simp [joined]

@[simp] theorem joined_singleton (a : List Char) : joined [a] = a := by simp [joined]

@[simp] theorem joined_cons_cons (a b : List Char) (as : List (List Char)) :
    joined (a :: b :: as) = a ++ ';' :: joined (b :: as) := by
  simp [joined, List.intercalate_cons_cons]

section Levels

variable {d e k : Nat} {g : Glyph} {gs hs p : List Glyph}

/-- Brackets that are open after the first glyphs are open before the others. -/
theorem level?_append (d : Nat) (gs hs : List Glyph) :
    level? d (gs ++ hs) = (level? d gs).bind (level? · hs) := by
  induction gs generalizing d with
  | nil => rfl
  | cons g gs ih =>
    obtain ⟨e, -, level⟩ | ⟨rfl, rfl⟩ := level?_single d g
    · rw [List.cons_append, level, ih, level]
    · rfl

/-- Where there is no separator, nothing is cut. -/
theorem undivided_of_notMem (none : .plain ';' ∉ gs) : Undivided k gs :=
  fun before after eq => absurd (by simp [eq]) none

theorem Undivided.tail (h : Undivided k (g :: gs)) (one : level? k [g] = some e) :
    Undivided e gs := by
  intro before after eq level
  refine h (g :: before) after (by rw [eq]; rfl) ?_
  rw [← List.singleton_append, level?_append, one]
  exact level

theorem Undivided.cons (h : Undivided e gs) (one : level? k [g] = some e)
    (uncut : ¬(g = .plain ';' ∧ k = 0)) : Undivided k (g :: gs) := by
  intro before after eq level
  cases before with
  | nil =>
    obtain ⟨rfl, -⟩ := List.cons.inj eq
    exact uncut ⟨rfl, Option.some.inj level⟩
  | cons _ before =>
    obtain ⟨rfl, rfl⟩ := List.cons.inj eq
    rw [← List.singleton_append, level?_append, one] at level
    exact h before after rfl level

end Levels

section Pieces

variable {k e : Nat} {gs hs p : List Glyph} {ps : List (List Glyph)}

/-- Glyphs that are not cut belong to the piece that they stand in front of. -/
theorem pieces_undivided (level : level? k gs = some e) (whole : Undivided k gs)
    (eq : pieces e hs = p :: ps) : pieces k (gs ++ hs) = (gs ++ p) :: ps := by
  induction gs generalizing k with
  | nil =>
    obtain rfl := Option.some.inj level
    exact eq
  | cons g gs ih =>
    obtain ⟨e', one, later⟩ | ⟨rfl, rfl⟩ := level?_single k g
    · have uncut : ¬(g = .plain ';' ∧ (k : Int) = 0) := by
        rintro ⟨rfl, zero⟩
        exact whole [] gs rfl (congrArg some (Int.ofNat_eq_zero.1 zero))
      rw [List.cons_append, pieces, if_neg uncut, level?_turn one,
        ih (by rw [← later, level]) (whole.tail one)]
      rfl
    · simp at level

/-- Pieces with separators between them are what they were cut from. -/
theorem intercalate_pieces (depth : Int) (gs : List Glyph) :
    [Glyph.plain ';'].intercalate (pieces depth gs) = gs := by
  induction gs generalizing depth with
  | nil => simp [pieces]
  | cons g gs ih =>
    rw [pieces]
    split
    · next cut =>
      obtain ⟨p, ps, eq, -⟩ := exists_pieces depth gs
      have rest := ih depth
      rw [eq] at rest ⊢
      rw [List.intercalate_cons_cons, rest, cut.1]
      rfl
    · obtain ⟨p, ps, eq, -⟩ := exists_pieces (depth + g.turn) gs
      have rest := ih (depth + g.turn)
      rw [eq] at rest ⊢
      rw [consFirst, ← rest]
      cases ps <;> simp [List.intercalate_cons_cons]

/-- A piece stands before a separator or at the end. -/
theorem cut_of_mem_intercalate (mem : p ∈ ps) :
    p <:+ [Glyph.plain ';'].intercalate ps ∨
      p ++ [.plain ';'] <:+: [Glyph.plain ';'].intercalate ps := by
  induction ps with
  | nil => cases mem
  | cons q ps ih =>
    cases ps with
    | nil =>
      obtain rfl := List.mem_singleton.1 mem
      exact .inl (by simp)
    | cons r ps =>
      rw [List.intercalate_cons_cons, List.append_assoc]
      obtain rfl | later := List.mem_cons.1 mem
      · exact .inr ⟨[], _, by rw [List.nil_append, List.append_assoc]⟩
      · have suffix : [Glyph.plain ';'].intercalate (r :: ps) <:+
            q ++ ([.plain ';'] ++ [.plain ';'].intercalate (r :: ps)) :=
          (List.suffix_append _ _).trans (List.suffix_append q _)
        exact (ih later).imp (·.trans suffix) (·.trans suffix.isInfix)

/-- Pieces are not cut any further. -/
theorem undivided_pieces (h : level? k gs = some 0) :
    ∃ p ps, pieces k gs = p :: ps ∧ Undivided k p ∧ ∀ q ∈ ps, Undivided 0 q := by
  have nil (k : Nat) : Undivided k [] := undivided_of_notMem (by simp)
  induction gs generalizing k with
  | nil => exact ⟨[], [], rfl, nil k, by simp⟩
  | cons g gs ih =>
    rw [pieces]
    split
    · next cut =>
      obtain ⟨rfl, zero⟩ := cut
      obtain rfl : k = 0 := by omega
      rw [level?_cons_of_ne (by simp) (by simp)] at h
      obtain ⟨p, ps, eq, first, others⟩ := ih h
      refine ⟨[], _, rfl, nil 0, fun q mem => ?_⟩
      rw [eq] at mem
      exact List.forall_mem_cons.2 ⟨first, others⟩ q mem
    · next uncut =>
      obtain ⟨e, one, level⟩ | ⟨rfl, rfl⟩ := level?_single k g
      · rw [level] at h
        obtain ⟨p, ps, eq, first, others⟩ := ih h
        refine ⟨g :: p, ps, by rw [level?_turn one, eq]; rfl, ?_, others⟩
        exact first.cons one fun both => uncut ⟨both.1, by simp [both.2]⟩
      · simp at h

theorem Balanced.undivided (h : Balanced gs) (mem : p ∈ pieces 0 gs) : Undivided 0 p := by
  obtain ⟨q, qs, eq, first, others⟩ := undivided_pieces (k := 0) h
  rw [show pieces 0 gs = q :: qs from eq] at mem
  exact List.forall_mem_cons.2 ⟨first, others⟩ p mem

end Pieces

section Arguments

variable {raw a b : List Char} {as : List (List Char)}

theorem glyphs_append_separator (last : (glyphs a).getLast? ≠ some (.plain '\\'))
    (cs : List Char) : glyphs (a ++ ';' :: cs) = glyphs a ++ .plain ';' :: glyphs cs := by
  rw [glyphs_append _ last, glyphs_cons_of_ne (by decide)]

/-- Texts that may be arguments are pieces of what they are joined to. -/
theorem pieces_joined (each : ∀ a ∈ as, IsArgument a) (some : as ≠ []) :
    pieces 0 (glyphs (joined as)) = as.map glyphs := by
  induction as with
  | nil => exact absurd rfl some
  | cons a as ih =>
    obtain ⟨⟨balanced, last⟩, whole⟩ := each a (.head _)
    cases as with
    | nil =>
      have alone : pieces 0 (glyphs a ++ []) = [glyphs a ++ []] :=
        pieces_undivided balanced whole rfl
      simpa using alone
    | cons b as =>
      have cut : pieces 0 (glyphs a ++ .plain ';' :: glyphs (joined (b :: as))) =
          (glyphs a ++ []) :: pieces 0 (glyphs (joined (b :: as))) :=
        pieces_undivided balanced whole rfl
      rw [joined_cons_cons, glyphs_append_separator last, cut,
        ih (fun a mem => each a (.tail _ mem)) (List.cons_ne_nil b as), List.append_nil,
        List.map_cons, List.map_cons, List.map_cons]

/-- Only the empty text has nothing in it when texts are joined. -/
theorem joined_ne_nil (some : as ≠ []) (more : as ≠ [[]]) : joined as ≠ [] := by
  match as with
  | [] => exact absurd rfl some
  | [a] =>
    rw [joined_singleton]
    rintro rfl
    exact more rfl
  | a :: b :: as => simp

/-- **Texts that are joined are cut again where they were joined**, if they may be arguments. -/
theorem arguments_joined (each : ∀ a ∈ as, IsArgument a) (some : as ≠ []) (more : as ≠ [[]]) :
    arguments (joined as) = as := by
  rw [arguments, if_neg (by simpa using joined_ne_nil some more), pieces_joined each some,
    List.map_map]
  conv => rhs; rw [← List.map_id as]
  exact List.map_congr_left fun a _ => spell_glyphs a

/-- What arguments are joined to may stand between brackets. -/
theorem closed_joined (each : ∀ a ∈ as, IsArgument a) : Closed (joined as) := by
  induction as with
  | nil => exact ⟨rfl, by simp [glyphs]⟩
  | cons a as ih =>
    obtain ⟨⟨balanced, last⟩, -⟩ := each a (.head _)
    cases as with
    | nil => rw [joined_singleton]; exact ⟨balanced, last⟩
    | cons b as =>
      obtain ⟨rest, ends⟩ := ih fun a mem => each a (.tail _ mem)
      rw [joined_cons_cons, Closed, glyphs_append_separator last]
      constructor
      · rw [Balanced, level?_append, balanced]
        exact rest
      · rw [List.getLast?_append, List.getLast?_cons]
        cases final : (glyphs (joined (b :: as))).getLast? with
        | none => simp
        | some g => simpa [final] using ends

/-- Arguments joined again are what they were cut from. -/
theorem joined_arguments (raw : List Char) : joined (arguments raw) = raw := by
  have spelled (ps : List (List Glyph)) :
      joined (ps.map spell) = spell ([Glyph.plain ';'].intercalate ps) := by
    induction ps with
    | nil => simp
    | cons p ps ih =>
      cases ps with
      | nil => simp
      | cons q ps =>
        rw [List.map_cons, List.map_cons, joined_cons_cons, ← List.map_cons, ih,
          List.intercalate_cons_cons, spell_append, spell_append, List.append_assoc]
        rfl
  unfold arguments
  split
  · next empty => rw [joined_nil, List.isEmpty_iff.1 empty]
  · rw [spelled, intercalate_pieces, spell_glyphs]

/-- Arguments of a text that may stand between brackets may be arguments. -/
theorem isArgument_of_mem (closed : Closed raw) (mem : a ∈ arguments raw) : IsArgument a := by
  have balanced := balanced_of_mem_arguments closed.1 mem
  unfold arguments at mem
  split at mem
  · cases mem
  · obtain ⟨p, piece, rfl⟩ := List.mem_map.1 mem
    have reading := isReading_glyphs raw
    have inner : glyphs (spell p) = p := reading.cutOut (infix_of_mem_pieces piece)
    rw [inner] at balanced
    refine ⟨⟨by rwa [inner], ?_⟩, by rw [inner]; exact Balanced.undivided closed.1 piece⟩
    rw [inner]
    obtain ends | ⟨before, after, eq⟩ := cut_of_mem_intercalate piece
    · obtain ⟨before, eq⟩ := ends
      rw [intercalate_pieces] at eq
      intro last
      refine closed.2 ?_
      rw [← eq, List.getLast?_append, last, Option.some_or]
    · rw [intercalate_pieces] at eq
      rw [← eq, List.append_assoc, List.append_assoc] at reading
      exact reading.right.getLast?_ne (by decide)

end Arguments

end CommandScript.Script
