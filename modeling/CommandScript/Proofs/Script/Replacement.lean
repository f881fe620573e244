import CommandScript.Dispatch.Reading
import CommandScript.Proofs.Script.Joining

/-!
# Putting another argument in a call

An argument of a call is replaced by another text, in the call itself or in one of the calls inside
which it stands. The text around it is read as before: it has the same literal texts and calls, and
the call has the same other arguments, on the same lines.

## Main definitions

- `CommandScript.Script.callAt?` — a call of a text
- `CommandScript.Script.Call.withArgument` — a call with another argument
- `CommandScript.Script.rewritten` — a text with another call
- `CommandScript.Script.Route`, `CommandScript.Script.textAt?` — arguments inside one another
- `CommandScript.Script.replaced` — a text with another argument at a place

## Main results

- `CommandScript.Script.Call.argumentAt?_withArgument` — the other arguments stay where they are
- `CommandScript.Script.segments_rewritten` — the text around a call stays as it is
- `CommandScript.Script.IsArgument.rewritten` — a text may still be an argument
-/

namespace CommandScript.Script

section Levels

variable {d e k : Nat} {gs hs : List Glyph}

/-- What is not cut before some glyphs is not cut before others, nor are they. -/
theorem undivided_append (level : level? k gs = some e) :
    Undivided k (gs ++ hs) ↔ Undivided k gs ∧ Undivided e hs := by
  constructor
  · intro whole
    refine ⟨fun before after eq => whole before (after ++ hs) (by rw [eq]; simp), ?_⟩
    intro before after eq inner
    refine whole (gs ++ before) after (by rw [eq, List.append_assoc]) ?_
    rw [level?_append, level]
    exact inner
  · rintro ⟨first, second⟩ before after eq inner
    obtain ⟨more, rfl, rest⟩ | ⟨more, rfl, rest⟩ := List.append_eq_append_iff.1 eq
    · rw [level?_append, level] at inner
      exact second more after rest inner
    · cases more with
      | nil =>
        rw [List.append_nil] at level
        exact second [] after rest.symm (level.symm.trans inner)
      | cons g more =>
        obtain ⟨rfl, rfl⟩ := List.cons.inj rest
        exact first before more rfl inner

/-- Between brackets nothing is cut. -/
theorem Balanced.undivided_succ (h : Balanced gs) (k : Nat) : Undivided (k + 1) gs := by
  rintro before after rfl inner
  rw [Balanced, level?_append] at h
  cases level : level? 0 before with
  | none => simp [level] at h
  | some e =>
    have deeper := level?_add level (k + 1)
    rw [Nat.zero_add, inner] at deeper
    simp at deeper

end Levels

section Calls

variable {d : Nat} {c : Call} {raw : List Char} {before after : List Segment}

/-- The glyphs of a call whose text is closed. -/
theorem glyphs_source (named : IsIdentifier c.name) (closed : Closed c.raw) :
    glyphs c.source =
      .plain '$' :: (c.name.map .plain ++ .plain '[' :: (glyphs c.raw ++ [.plain ']'])) := by
  rw [← List.append_nil c.source, glyphs_source_append named closed, glyphs]

theorem getLast?_glyphs_source (named : IsIdentifier c.name) (closed : Closed c.raw) :
    (glyphs c.source).getLast? = some (.plain ']') := by
  rw [glyphs_source named closed, ← List.cons_append, ← List.cons_append, ← List.append_assoc,
    List.getLast?_concat]

/-- Around a call as many brackets are open as before it. -/
theorem level?_source (named : IsIdentifier c.name) (closed : Closed c.raw) (d : Nat) :
    level? d (glyphs c.source) = some d := by
  have inner := level?_add closed.1 (d + 1)
  rw [Nat.zero_add] at inner
  rw [glyphs_source named closed, level?_cons_of_ne (by simp) (by simp), level?_name named.all,
    level?_open, level?_append, inner]
  rfl

/-- No call is cut. -/
theorem undivided_source (named : IsIdentifier c.name) (closed : Closed c.raw) (d : Nat) :
    Undivided d (glyphs c.source) := by
  have name : level? d (.plain '$' :: c.name.map .plain) = some d := by
    rw [level?_cons_of_ne (by simp) (by simp), ← List.append_nil (c.name.map _),
      level?_name named.all]
    rfl
  have separator : Glyph.plain ';' ∉ .plain '$' :: c.name.map .plain := by
    intro mem
    obtain ⟨x, part, eq⟩ : ∃ x ∈ c.name, Glyph.plain x = .plain ';' := by simpa using mem
    obtain rfl := Glyph.plain.inj eq
    exact absurd (List.all_eq_true.1 named.all _ part) (by decide)
  have inner := level?_add closed.1 (d + 1)
  rw [Nat.zero_add] at inner
  rw [glyphs_source named closed, ← List.cons_append, undivided_append name]
  refine ⟨undivided_of_notMem separator, Undivided.cons ?_ level?_open (by simp)⟩
  exact (undivided_append inner).2 ⟨closed.1.undivided_succ d, undivided_of_notMem (by simp)⟩

/-- A call may be an argument. -/
theorem isArgument_source (named : IsIdentifier c.name) (closed : Closed c.raw) :
    IsArgument c.source := by
  refine ⟨⟨level?_source named closed 0, ?_⟩, undivided_source named closed 0⟩
  rw [getLast?_glyphs_source named closed]
  decide

theorem Canonical.named (h : Canonical (before ++ .call c :: after)) : IsIdentifier c.name :=
  (h.call c (by simp)).1

theorem Canonical.closed (h : Canonical (before ++ .call c :: after)) : Closed c.raw :=
  (h.call c (by simp)).2

/-- What is before a call is read by itself, and so is what is after it. -/
theorem Canonical.glyphs_source_append (h : Canonical (before ++ .call c :: after)) :
    glyphs (source (before ++ .call c :: after)) =
      glyphs (source before) ++ (glyphs c.source ++ glyphs (source after)) := by
  induction before with
  | nil =>
    rw [List.nil_append, source_cons, Segment.source,
      Script.glyphs_source_append h.named h.closed, glyphs_source h.named h.closed]
    simp [glyphs]
  | cons part before ih =>
    have rest := ih h.tail
    cases part with
    | call c' =>
      obtain ⟨named, closed⟩ := h.call c' (.head _)
      rw [List.cons_append, source_cons, source_cons, Segment.source,
        Script.glyphs_source_append named closed, Script.glyphs_source_append named closed, rest]
      simp
    | literal raw =>
      have last : (glyphs raw).getLast? ≠ some (.plain '\\') := by
        cases before with
        | nil => exact (List.isChain_cons_cons.1 h.chain).1
        | cons next before =>
          have meet := (List.isChain_cons_cons.1 h.chain).1
          cases next with
          | literal raw' => exact absurd meet not_false
          | call c' => exact meet
      rw [List.cons_append, source_cons, source_cons, Segment.source, glyphs_append _ last,
        glyphs_append _ last, rest, List.append_assoc]

/-- A call may have another text between its brackets. -/
theorem Canonical.withRaw (h : Canonical (before ++ .call c :: after)) (closed : Closed raw) :
    Canonical (before ++ .call { c with raw } :: after) where
  literal text mem := h.literal text (by simpa using mem)
  chain := by
    obtain ⟨front, rest, meet⟩ := List.isChain_append.1 h.chain
    refine List.isChain_append.2 ⟨front, ?_, fun part mem other head => ?_⟩
    · cases after with
      | nil => exact .singleton _
      | cons part after => exact .cons_cons trivial rest.tail
    · obtain rfl : .call { c with raw } = other := by simpa using head
      have before := meet part mem (.call c) (by simp)
      cases part with
      | literal text => exact before
      | call c' => trivial
  call c' mem := by
    obtain here | rfl | later : .call c' ∈ before ∨ c' = { c with raw } ∨ .call c' ∈ after := by
      simpa using mem
    · exact h.call c' (by simp [here])
    · exact ⟨h.named, closed⟩
    · exact h.call c' (by simp [later])

/-- A text with a call may be an argument whatever the call has between its brackets. -/
theorem IsArgument.withRaw (h : IsArgument (source (before ++ .call c :: after)))
    (canonical : Canonical (before ++ .call c :: after)) (closed : Closed raw) :
    IsArgument (source (before ++ .call { c with raw } :: after)) := by
  have canonical' := canonical.withRaw closed
  obtain ⟨⟨balanced, last⟩, whole⟩ := h
  rw [canonical.glyphs_source_append] at balanced last whole
  rw [IsArgument, Closed, canonical'.glyphs_source_append]
  cases front : level? 0 (glyphs (source before)) with
  | none => simp [Balanced, level?_append, front] at balanced
  | some d =>
    have level := level?_source canonical.named canonical.closed d
    have level' := level?_source canonical'.named canonical'.closed d
    rw [undivided_append front, undivided_append level] at whole
    rw [Balanced, level?_append, front, Option.bind_some, level?_append, level] at balanced
    refine ⟨⟨?_, ?_⟩, ?_⟩
    · rw [Balanced, level?_append, front, Option.bind_some, level?_append, level']
      exact balanced
    · have ends := getLast?_glyphs_source canonical'.named canonical'.closed
      rw [List.getLast?_append, List.getLast?_append] at last
      rw [List.getLast?_append, List.getLast?_append, ends]
      cases final : (glyphs (source after)).getLast? with
      | none => simp
      | some g => simpa [final] using last
    · rw [undivided_append front, undivided_append level']
      exact ⟨whole.1, undivided_source canonical'.named canonical'.closed d, whole.2.2⟩

end Calls

section Arguments

variable {c : Call} {k : Nat} {l : Int} {a b : List Char} {as bs : List (List Char)}

theorem lineEnds_joined (same : as.map lineEnds = bs.map lineEnds) :
    lineEnds (joined as) = lineEnds (joined bs) := by
  have cons (a b : List Char) (as : List (List Char)) :
      lineEnds (joined (a :: b :: as)) = lineEnds a + lineEnds (joined (b :: as)) := by
    rw [joined_cons_cons, lineEnds_append]
    exact congrArg _ (List.count_cons_of_ne (by decide))
  induction as generalizing bs with
  | nil => rw [List.map_eq_nil_iff.1 same.symm]
  | cons a as ih =>
    match bs with
    | [] => cases same
    | b :: bs =>
      obtain ⟨first, rest⟩ := List.cons.inj same
      match as, bs with
      | [], [] => simpa using first
      | [], _ :: _ => cases rest
      | _ :: _, [] => cases rest
      | a' :: as, b' :: bs => rw [cons, cons, first, ih rest]

theorem linesFrom_congr (same : as.map lineEnds = bs.map lineEnds) (line : Int) :
    linesFrom line as = linesFrom line bs := by
  induction as generalizing bs line with
  | nil => rw [List.map_eq_nil_iff.1 same.symm]
  | cons a as ih =>
    match bs with
    | [] => cases same
    | b :: bs =>
      obtain ⟨first, rest⟩ := List.cons.inj same
      rw [linesFrom, linesFrom, first, ih rest]

/-- Another argument with as many line ends changes no numbers of line ends. -/
theorem map_lineEnds_set (old : as[k]? = some a) (lines : lineEnds b = lineEnds a) :
    (as.set k b).map lineEnds = as.map lineEnds := by
  obtain ⟨bound, rfl⟩ := List.getElem?_eq_some_iff.1 old
  rw [List.map_set, lines]
  refine List.ext_getElem? fun i => ?_
  rw [List.getElem?_set]
  split
  · next here => simp [← here, bound]
  · rfl

theorem Call.argumentAt?_eq_some_iff {i : Nat} :
    c.argumentAt? i = some (a, l) ↔
      c.arguments[i]? = some a ∧ (argumentLines c.raw c.line)[i]? = some l := by
  rw [argumentAt?, if_neg (by omega), Int.toNat_natCast, List.getElem?_zip_eq_some]

/-- The call with another argument. -/
def Call.withArgument (c : Call) (k : Nat) (b : List Char) : Call :=
  { c with raw := joined (c.arguments.set k b) }

namespace Call

section Replaced

variable (closed : Closed c.raw) (old : c.argumentAt? k = some (a, l)) (argument : IsArgument b)
  (lines : lineEnds b = lineEnds a)
  (count : (c.withArgument k b).arguments.length = c.arguments.length)

include closed argument in
theorem isArgument_of_mem_set (x : List Char) (mem : x ∈ c.arguments.set k b) : IsArgument x := by
  obtain mem | rfl := List.mem_or_eq_of_mem_set mem
  · exact isArgument_of_mem closed mem
  · exact argument

include closed argument in
theorem closed_withArgument : Closed (c.withArgument k b).raw :=
  closed_joined (isArgument_of_mem_set closed argument)

include closed old argument in
theorem arguments_of_ne (more : c.arguments.set k b ≠ [[]]) :
    (c.withArgument k b).arguments = c.arguments.set k b := by
  obtain ⟨bound, -⟩ := List.getElem?_eq_some_iff.1 (argumentAt?_eq_some_iff.1 old).1
  refine arguments_joined (isArgument_of_mem_set closed argument) (fun none => ?_) more
  rw [List.set_eq_nil_iff] at none
  simp [none] at bound

include closed old argument count in
/-- A call with another argument has this argument, and the other ones as before. -/
theorem arguments_withArgument : (c.withArgument k b).arguments = c.arguments.set k b := by
  refine arguments_of_ne closed old argument fun alone => ?_
  obtain ⟨bound, -⟩ := List.getElem?_eq_some_iff.1 (argumentAt?_eq_some_iff.1 old).1
  -- Without any text there would be no argument left.
  have empty : (c.withArgument k b).arguments = [] := by
    rw [Call.arguments, withArgument, alone, joined_singleton]
    rfl
  simp [← count, empty] at bound

include closed old argument in
/-- Where an argument is not emptied, there are as many arguments as before. -/
theorem length_arguments_withArgument (written : b ≠ []) :
    (c.withArgument k b).arguments.length = c.arguments.length := by
  obtain ⟨bound, -⟩ := List.getElem?_eq_some_iff.1 (argumentAt?_eq_some_iff.1 old).1
  rw [arguments_of_ne closed old argument fun alone => ?_, List.length_set]
  have mem : b ∈ c.arguments.set k b := List.mem_set bound b
  rw [alone] at mem
  exact written (List.mem_singleton.1 mem)

include old lines in
theorem lineEnds_source_withArgument :
    lineEnds (c.withArgument k b).source = lineEnds c.source := by
  have raw : lineEnds (c.withArgument k b).raw = lineEnds c.raw := by
    conv => rhs; rw [← joined_arguments c.raw]
    exact lineEnds_joined (map_lineEnds_set (argumentAt?_eq_some_iff.1 old).1 lines)
  unfold source
  rw [lineEnds_append, lineEnds_append, lineEnds_append, lineEnds_append]
  have cons (cs : List Char) : lineEnds ('[' :: cs) = lineEnds cs :=
    List.count_cons_of_ne (by decide)
  rw [cons, cons, raw]
  rfl

include closed old argument lines count in
/-- The other arguments stay where they are, and the new one stands where the old one stood. -/
theorem argumentAt?_withArgument (i : Int) :
    (c.withArgument k b).argumentAt? i =
      if i = k then some (b, l) else c.argumentAt? i := by
  have arguments := arguments_withArgument closed old argument count
  obtain ⟨here, onLine⟩ := argumentAt?_eq_some_iff.1 old
  obtain ⟨bound, -⟩ := List.getElem?_eq_some_iff.1 here
  have same : argumentLines (c.withArgument k b).raw (c.withArgument k b).line =
      argumentLines c.raw c.line := by
    refine linesFrom_congr ?_ c.line
    exact (congrArg _ arguments).trans (map_lineEnds_set here lines)
  unfold argumentAt?
  split
  · next negative => rw [if_neg (by omega)]
  · next natural =>
    rw [arguments, same]
    split
    · next at_k =>
      subst at_k
      rw [Int.toNat_natCast, List.getElem?_zip_eq_some]
      exact ⟨List.getElem?_set_self bound, onLine⟩
    · next elsewhere =>
      refine Option.ext fun p => ?_
      rw [List.getElem?_zip_eq_some, List.getElem?_zip_eq_some, List.getElem?_set_ne (by omega)]

end Replaced

end Call

end Arguments

section Rewritten

variable {cs : List Char} {line : Int} {before after : List Segment} {c : Call}

/-- The call that a text has as one of its segments. -/
def callAt? (cs : List Char) (line : Int) (i : Nat) : Option Call :=
  match segments cs line with
  | .error _ => none
  | .ok parts =>
    match parts[i]? with
    | some (.call c) => some c
    | _ => none

theorem callAt?_eq_some_iff {i : Nat} :
    callAt? cs line i = some c ↔
      ∃ before after, segments cs line = .ok (before ++ .call c :: after) ∧ before.length = i := by
  constructor
  · intro found
    unfold callAt? at found
    split at found
    · cases found
    · next parts read =>
      split at found
      · next c' here =>
        obtain rfl := Option.some.inj found
        obtain ⟨bound, eq⟩ := List.getElem?_eq_some_iff.1 here
        refine ⟨parts.take i, parts.drop (i + 1), ?_, by simp; omega⟩
        rw [read, ← eq, ← List.drop_eq_getElem_cons, List.take_append_drop]
      · cases found
  · rintro ⟨before, after, read, rfl⟩
    rw [callAt?, read]
    simp

/-- The text with another call as one of its segments. -/
def rewritten (cs : List Char) (line : Int) (i : Nat) (c : Call) : List Char :=
  match segments cs line with
  | .error _ => cs
  | .ok parts => source (parts.set i (.call c))

theorem rewritten_eq (read : segments cs line = .ok (before ++ .call c :: after)) (c' : Call) :
    rewritten cs line before.length c' = source (before ++ .call c' :: after) := by
  rw [rewritten, read]
  simp

theorem placed_append (offset : Nat) (line : Int) (parts others : List Segment) :
    placed offset line (parts ++ others) =
      placed offset line parts ++
        placed (offset + (source parts).length) (line + lineEnds (source parts)) others := by
  induction parts generalizing offset line with
  | nil => simp [placed, lineEnds]
  | cons part rest ih =>
    have further (cs ds : List Char) : line + lineEnds cs + lineEnds ds =
        line + lineEnds (cs ++ ds) := by
      rw [lineEnds_append, Int.natCast_add, Int.add_assoc]
    cases part with
    | literal raw =>
      rw [List.cons_append, placed, ih, placed, List.cons_append, source_cons, Segment.source,
        further, List.length_append, Nat.add_assoc]
    | call c =>
      rw [List.cons_append, placed, ih, placed, List.cons_append, source_cons, Segment.source,
        further, List.length_append, Nat.add_assoc]

@[simp] theorem length_placed (offset : Nat) (line : Int) (parts : List Segment) :
    (placed offset line parts).length = parts.length :=
  (sameTexts_placed offset line parts).length_eq.symm

theorem placed_moved (offset : Nat) (line : Int) (parts : List Segment) :
    placed offset line parts = (placed 0 line parts).map (Segment.moved offset 0) := by
  have moved (k offset : Nat) : placed (offset + k) line parts =
      (placed offset line parts).map (Segment.moved k 0) := by
    induction parts generalizing offset line with
    | nil => rfl
    | cons part rest ih =>
      cases part with
      | literal raw =>
        rw [placed, Nat.add_right_comm, ih]
        rfl
      | call c =>
        rw [placed, Nat.add_right_comm, ih, placed, List.map_cons, Segment.moved, Call.moved,
          Int.add_zero]
  simpa using moved offset 0

/-- The text around a call is read as before when the call has another text between its brackets,
with as many line ends. Only what comes after the call may stand further to the left or to the
right. -/
theorem segments_rewritten {raw : List Char}
    (read : segments cs line = .ok (before ++ .call c :: after)) (closed : Closed raw)
    (lines : lineEnds (Call.source { c with raw }) = lineEnds c.source) :
    ∃ (rest : List Segment) (k k' : Nat), after = rest.map (Segment.moved k 0) ∧
      segments (rewritten cs line before.length { c with raw }) line =
        .ok (before ++ .call { c with raw } :: rest.map (Segment.moved k' 0)) := by
  have reads : Reads 0 line (glyphs cs) (before ++ .call c :: after) :=
    segmentsFrom_eq_ok_iff.1 read
  have canonical := reads.canonical (isReading_glyphs cs)
  obtain ⟨offset, onLine⟩ := reads.located.place
  have whole (raw : List Char) : placed 0 line (before ++ .call { c with raw } :: after) =
      placed 0 line before ++ .call { c with raw } ::
        placed (c.offset + (Call.source { c with raw }).length)
          (c.line + lineEnds (Call.source { c with raw })) after := by
    rw [placed_append, placed, ← offset, ← onLine]
  have again : placed 0 line (before ++ .call c :: after) = before ++ .call c :: after := by
    have eq := canonical.segments_eq line
    rw [reads.source_eq, spell_glyphs, read] at eq
    exact (Except.ok.inj eq).symm
  obtain ⟨front, back⟩ := List.append_inj ((whole c.raw).symm.trans again) (length_placed ..)
  obtain ⟨-, later⟩ := List.cons.inj back
  refine ⟨placed 0 (c.line + lineEnds c.source) after, c.offset + c.source.length,
    c.offset + (Call.source { c with raw }).length, ?_, ?_⟩
  · rw [← placed_moved]
    exact later.symm
  · rw [rewritten_eq read, (canonical.withRaw closed).segments_eq line, whole, front, lines,
      ← placed_moved]

end Rewritten

/-- Where an argument stands inside others: which of the segments of a text is the call, and which
of its arguments, and so on in this argument. -/
abbrev Route := List (Nat × Nat)

/-- The text at a place, and the line on which it starts. -/
def textAt? : Route → List Char → Int → Option (List Char × Int)
  | [], cs, line => some (cs, line)
  | (i, k) :: place, cs, line => do
    let c ← callAt? cs line i
    let (a, l) ← c.argumentAt? k
    textAt? place a l

/-- A text with another one at a place. -/
def replaced (b : List Char) : Route → List Char → Int → List Char
  | [], _, _ => b
  | (i, k) :: place, cs, line =>
    match callAt? cs line i with
    | none => cs
    | some c =>
      match c.argumentAt? k with
      | none => cs
      | some (a, l) => rewritten cs line i (c.withArgument k (replaced b place a l))

section Steps

variable {cs a b : List Char} {line l : Int} {i k : Nat} {c : Call} {place : Route}

theorem textAt?_cons_eq_some_iff {r : List Char × Int} :
    textAt? ((i, k) :: place) cs line = some r ↔
      ∃ c a l, callAt? cs line i = some c ∧ c.argumentAt? k = some (a, l) ∧
        textAt? place a l = some r := by
  simp [textAt?, Option.bind_eq_some_iff]

theorem replaced_cons (call : callAt? cs line i = some c) (old : c.argumentAt? k = some (a, l)) :
    replaced b ((i, k) :: place) cs line =
      rewritten cs line i (c.withArgument k (replaced b place a l)) := by
  simp only [replaced, call, old]

end Steps

/-- One text may stand in the place of another one in any call. -/
structure MayStandFor (b a : List Char) : Prop where
  argument : IsArgument a → IsArgument b
  lines : lineEnds b = lineEnds a
  written : b ≠ []

section Places

variable {cs a b : List Char} {line l : Int} {i k : Nat} {c : Call}

theorem closed_of_callAt? (call : callAt? cs line i = some c) : Closed c.raw := by
  obtain ⟨before, after, read, -⟩ := callAt?_eq_some_iff.1 call
  have reads : Reads 0 line (glyphs cs) (before ++ .call c :: after) :=
    segmentsFrom_eq_ok_iff.1 read
  exact (reads.canonical (isReading_glyphs cs)).closed

theorem isArgument_of_argumentAt? (closed : Closed c.raw) (old : c.argumentAt? k = some (a, l)) :
    IsArgument a :=
  isArgument_of_mem closed (List.mem_of_getElem? (Call.argumentAt?_eq_some_iff.1 old).1)

/-- A text with a call may stand where it stands when the call has another argument. -/
theorem MayStandFor.rewritten (call : callAt? cs line i = some c)
    (old : c.argumentAt? k = some (a, l)) (argument : IsArgument b)
    (lines : lineEnds b = lineEnds a) :
    MayStandFor (rewritten cs line i (c.withArgument k b)) cs := by
  have closed := Call.closed_withArgument (k := k) (closed_of_callAt? call) argument
  obtain ⟨before, after, read, rfl⟩ := callAt?_eq_some_iff.1 call
  have reads : Reads 0 line (glyphs cs) (before ++ .call c :: after) :=
    segmentsFrom_eq_ok_iff.1 read
  have canonical := reads.canonical (isReading_glyphs cs)
  have spelled : source (before ++ .call c :: after) = cs := source_of_segments read
  rw [rewritten_eq read]
  refine ⟨fun h => IsArgument.withRaw (spelled ▸ h) canonical closed, ?_, by simp [Segment.source,
    Call.source]⟩
  conv => rhs; rw [← spelled]
  simp only [source_append, source_cons, lineEnds_append, Segment.source,
    Call.lineEnds_source_withArgument old lines]

/-- So may a text in which another text stands at a place. -/
theorem MayStandFor.replaced {path : Route} (inside : textAt? path cs line = some (a, l))
    (h : MayStandFor b a) : MayStandFor (replaced b path cs line) cs := by
  induction path generalizing cs line with
  | nil =>
    obtain ⟨rfl, rfl⟩ := Prod.mk.inj (Option.some.inj inside)
    exact h
  | cons step path ih =>
    obtain ⟨i, k⟩ := step
    obtain ⟨c, t, m, call, old, inner⟩ := textAt?_cons_eq_some_iff.1 inside
    have argument := isArgument_of_argumentAt? (closed_of_callAt? call) old
    have stands := ih inner
    rw [replaced_cons call old]
    exact .rewritten call old (stands.argument argument) stands.lines

end Places

end CommandScript.Script
