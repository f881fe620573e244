import CommandScript.Script.Argument

/-!
# Readings

The glyphs of a text are read from left to right, so glyphs that are cut out of the reading of a
text are the reading of what they spell. A text is read by itself wherever what stands before it
does not end in a backslash without a partner; and no call can begin before it and end in it, where
what stands before it does not end in a dollar sign and a part of a name.

## Main definitions

- `CommandScript.Script.IsReading` — glyphs that are the reading of what they spell
- `CommandScript.Script.EndsCleanly` — glyphs that are not joined to what follows them

## Main results

- `CommandScript.Script.IsReading.cutOut` — glyphs that are cut out of a reading
- `CommandScript.Script.glyphs_append` — the reading of a text and one after it
- `CommandScript.Script.head?_append` — the head of a call in what is followed by something
-/

namespace CommandScript.Script

/-- The glyphs are the reading of the text that they spell. -/
def IsReading (gs : List Glyph) : Prop := glyphs (spell gs) = gs

theorem isReading_glyphs (cs : List Char) : IsReading (glyphs cs) := by
  rw [IsReading, spell_glyphs]

@[simp] theorem spell_nil : spell [] = [] := rfl

@[simp] theorem spell_cons (g : Glyph) (gs : List Glyph) : spell (g :: gs) = g.chars ++ spell gs :=
  rfl

@[simp] theorem spell_append (gs hs : List Glyph) : spell (gs ++ hs) = spell gs ++ spell hs :=
  List.flatMap_append

@[simp] theorem spell_map_plain (cs : List Char) : spell (cs.map .plain) = cs := by
  induction cs with
  | nil => rfl
  | cons c cs ih => rw [List.map_cons, spell_cons, ih]; rfl

@[simp] theorem spell_eq_nil {gs : List Glyph} : spell gs = [] ↔ gs = [] := by
  cases gs with
  | nil => simp
  | cons g gs => cases g <;> simp [Glyph.chars]

namespace IsReading

variable {g : Glyph} {gs hs : List Glyph}

theorem tail (h : IsReading (g :: gs)) : IsReading gs := by
  cases g with
  | plain c =>
    change glyphs (c :: spell gs) = _ at h
    cases rest : spell gs with
    | nil =>
      rw [spell_eq_nil.1 rest]
      rfl
    | cons d ds =>
      rw [rest, glyphs] at h
      split at h
      · simp at h
      · rw [IsReading, rest]
        exact (List.cons.inj h).2
  | escaped d =>
    change glyphs ('\\' :: d :: spell gs) = _ at h
    rw [glyphs] at h
    split at h
    · exact (List.cons.inj h).2
    · simp at h

theorem right (h : IsReading (gs ++ hs)) : IsReading hs := by
  induction gs with
  | nil => exact h
  | cons g gs ih => exact ih h.tail

theorem isStructural {d : Char} (h : IsReading (.escaped d :: gs)) : isStructural d = true := by
  change glyphs ('\\' :: d :: spell gs) = _ at h
  rw [glyphs] at h
  split at h
  · next both => exact both.2
  · simp at h

/-- After a backslash that is no part of a pair comes no structural character. -/
theorem not_isStructural {d : Char} {ds : List Char} (h : IsReading (.plain '\\' :: gs))
    (rest : spell gs = d :: ds) : Script.isStructural d ≠ true := by
  intro structural
  change glyphs ('\\' :: spell gs) = _ at h
  rw [rest, glyphs_escaped structural] at h
  simp at h

theorem left (h : IsReading (gs ++ hs)) : IsReading gs := by
  induction gs with
  | nil => rfl
  | cons g gs ih =>
    have rest : glyphs (spell gs) = gs := ih h.tail
    cases g with
    | escaped d =>
      show glyphs ('\\' :: d :: spell gs) = _
      rw [glyphs_escaped h.isStructural, rest]
    | plain c =>
      show glyphs (c :: spell gs) = _
      by_cases hc : c = '\\'
      · subst hc
        cases text : spell gs with
        | nil =>
          rw [spell_eq_nil.1 text]
          rfl
        | cons d ds =>
          have joined : spell (gs ++ hs) = d :: (ds ++ spell hs) := by
            rw [spell_append, text, List.cons_append]
          have plain : Script.isStructural d ≠ true := not_isStructural h joined
          rw [glyphs, if_neg fun both => plain both.2, ← text, rest]
      · rw [glyphs_cons_of_ne hc, rest]

/-- What is cut out of a reading is a reading. -/
theorem cutOut (h : IsReading hs) (cut : gs <:+: hs) : IsReading gs := by
  obtain ⟨before, after, rfl⟩ := cut
  exact h.left.right

end IsReading

/-- The glyphs are not joined to what follows them: they end neither in a backslash without a
partner nor in a dollar sign with nothing after it but characters of a name. -/
def EndsCleanly (gs : List Glyph) : Prop :=
  gs.getLast? ≠ some (.plain '\\') ∧
    ∀ (before : List Glyph) (name : List Char),
      gs = before ++ .plain '$' :: name.map .plain → name.all isNameChar = false

namespace EndsCleanly

variable {g : Glyph} {gs hs : List Glyph}

/-- Glyphs end cleanly where the last of them is a character that neither begins a pair or a call
nor is a part of a name. -/
theorem concat {c : Char} (pairs : c ≠ '\\') (opens : c ≠ '$') (named : isNameChar c = false) :
    EndsCleanly (gs ++ [.plain c]) := by
  refine ⟨by simpa using pairs, fun before name eq => ?_⟩
  have last := congrArg List.getLast? eq
  rw [List.getLast?_concat, List.getLast?_append, List.getLast?_cons, List.getLast?_map] at last
  cases ends : name.getLast? with
  | none => simp [ends, opens] at last
  | some d =>
    have same : c = d := by simpa [ends] using last
    subst same
    exact List.all_eq_false.2 ⟨c, List.mem_of_getLast? ends, by simp [named]⟩

theorem right (h : EndsCleanly (gs ++ hs)) : EndsCleanly hs := by
  refine ⟨fun last => h.1 ?_, fun before name eq => h.2 (gs ++ before) name ?_⟩
  · rw [List.getLast?_append, last, Option.some_or]
  · rw [eq, List.append_assoc]

theorem tail (h : EndsCleanly (g :: gs)) : EndsCleanly gs := @right [g] gs h

theorem suffix (h : EndsCleanly hs) (ends : gs <:+ hs) : EndsCleanly gs := by
  obtain ⟨before, rfl⟩ := ends
  exact h.right

/-- What begins with a dollar sign and ends cleanly has more than a name after it. -/
theorem ne_name (h : EndsCleanly (.plain '$' :: gs)) {name : List Char}
    (all : name.all isNameChar = true) : gs ≠ name.map .plain := by
  rintro rfl
  exact absurd all (ne_true_of_eq_false (h.2 [] name rfl))

end EndsCleanly

/-- Two texts one after the other are read one after the other, where the first does not end in a
backslash without a partner. -/
theorem glyphs_append {cs : List Char} (ds : List Char)
    (h : (glyphs cs).getLast? ≠ some (.plain '\\')) :
    glyphs (cs ++ ds) = glyphs cs ++ glyphs ds := by
  fun_induction glyphs cs with
  | case1 => rfl
  | case2 c => exact glyphs_cons_of_ne (by simpa using h) ds
  | case3 c d cs both ih =>
    rw [both.1, List.cons_append, List.cons_append, glyphs_escaped both.2, ih, List.cons_append]
    intro last
    exact h (by rw [List.getLast?_cons, last]; rfl)
  | case4 c d cs apart ih =>
    rw [List.cons_append, List.cons_append, glyphs, if_neg apart, ← List.cons_append, ih,
      List.cons_append]
    intro last
    exact h (by rw [List.getLast?_cons, last]; rfl)

/-- The characters of a name at the front of glyphs, before what follows them. -/
theorem eq_of_nameSpan {gs rest : List Glyph} {name : List Char}
    (h : nameSpan gs = (name, rest)) :
    gs = name.map .plain ++ rest ∧ name.all isNameChar = true := by
  fun_induction nameSpan gs generalizing name rest with
  | case1 =>
    obtain ⟨rfl, rfl⟩ := Prod.mk.inj h
    exact ⟨rfl, rfl⟩
  | case2 c gs hc name' rest' eq ih =>
    obtain ⟨rfl, rfl⟩ := Prod.mk.inj h
    obtain ⟨rfl, all⟩ := ih eq
    exact ⟨rfl, by rw [List.all_cons, hc, all]; rfl⟩
  | case3 c gs hc =>
    obtain ⟨rfl, rfl⟩ := Prod.mk.inj h
    exact ⟨rfl, rfl⟩
  | case4 d gs =>
    obtain ⟨rfl, rfl⟩ := Prod.mk.inj h
    exact ⟨rfl, rfl⟩

/-- A name that something follows ends where it ends, whatever comes after that. -/
theorem nameSpan_append {gs rest : List Glyph} {name : List Char} (hs : List Glyph)
    (h : nameSpan gs = (name, rest)) (more : rest ≠ []) :
    nameSpan (gs ++ hs) = (name, rest ++ hs) := by
  fun_induction nameSpan gs generalizing name rest with
  | case1 => exact absurd (Prod.mk.inj h).2.symm more
  | case2 c gs hc name' rest' eq ih =>
    obtain ⟨rfl, rfl⟩ := Prod.mk.inj h
    rw [List.cons_append, nameSpan, if_pos hc, ih eq more]
  | case3 c gs hc =>
    obtain ⟨rfl, rfl⟩ := Prod.mk.inj h
    rw [List.cons_append, nameSpan, if_neg hc]
  | case4 d gs =>
    obtain ⟨rfl, rfl⟩ := Prod.mk.inj h
    rw [List.cons_append, nameSpan]

/-- The head of a call: a name and the bracket after it. -/
theorem eq_of_head? {gs rest : List Glyph} {name : List Char} (h : head? gs = some (name, rest)) :
    gs = name.map .plain ++ .plain '[' :: rest ∧ isName name = true := by
  unfold head? at h
  split at h
  · next name' rest' eq =>
    split at h
    · next isName =>
      obtain ⟨rfl, rfl⟩ := Prod.mk.inj (Option.some.inj h)
      exact ⟨(eq_of_nameSpan eq).1, isName⟩
    · simp at h
  · simp at h

/-- Whether a call begins at a dollar sign does not depend on what comes after glyphs that end
cleanly. -/
theorem head?_append {gs : List Glyph} (hs : List Glyph) (h : EndsCleanly (.plain '$' :: gs)) :
    head? (gs ++ hs) = (head? gs).map fun p => (p.1, p.2 ++ hs) := by
  obtain ⟨⟨name, rest⟩, span⟩ : ∃ p, nameSpan gs = p := ⟨_, rfl⟩
  obtain ⟨eq, all⟩ := eq_of_nameSpan span
  have more : rest ≠ [] := by
    rintro rfl
    exact h.ne_name all (by rw [eq, List.append_nil])
  unfold head?
  rw [span, nameSpan_append hs span more]
  cases rest with
  | nil => exact absurd rfl more
  | cons g rest =>
    by_cases hg : g = .plain '['
    · subst hg
      by_cases isName : isName name = true
      · simp [isName]
      · simp [isName]
    · simp [hg]

end CommandScript.Script
