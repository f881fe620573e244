import CommandScript.Proofs.Dispatch.Course
import CommandScript.Proofs.Script.Nesting
import CommandScript.World

/-!
# Command strings one after the other

To evaluate a command string in two parts is to evaluate the first part, and then the second from
what that leaves, unless the first part ends the dispatch. This holds wherever the first part ends
cleanly, so that no escape pair and no head of a call reaches from one part into the other.

## Main definitions

- `CommandScript.Evaluation.andThen` — one evaluation after the other
- `CommandScript.Evaluation.Deaf` — surroundings that do not listen to what an observer is told
- `CommandScript.Evaluation.Alike` — evaluations that run alike among given surroundings

## Main results

- `CommandScript.Evaluation.segments_append` — the segments of glyphs one after the other
- `CommandScript.Evaluation.call_moved` — a call does not depend on how far into a text it stands
- `CommandScript.Evaluation.render_append` — a command string in two parts
-/

namespace CommandScript

open Script

namespace Evaluation

/-- One evaluation after the other, unless the first ends the dispatch. -/
def andThen (first second : Evaluation Outcome) : Evaluation Outcome := do
  match ← first with
  | .error h => return .error h
  | .ok s => return (← second).map (s ++ ·)

section AndThen

variable {e f g : Evaluation Outcome} {s t : String}

theorem pure_ok_andThen :
    (pure (.ok s) : Evaluation Outcome).andThen f = f >>= fun o => pure (o.map (s ++ ·)) := by
  rw [andThen, pure_bind]

@[simp] theorem pure_empty_andThen : (pure (.ok "") : Evaluation Outcome).andThen f = f := by
  have same (o : Outcome) : o.map ("" ++ ·) = o := by
    cases o with
    | error h => rfl
    | ok s => exact congrArg Except.ok String.empty_append
  rw [pure_ok_andThen]
  simp only [same, bind_pure]

theorem andThen_assoc : (e.andThen f).andThen g = e.andThen (f.andThen g) := by
  have joined (s t : String) (o : Outcome) :
      (o.map (t ++ ·)).map (s ++ ·) = o.map (s ++ t ++ ·) := by
    cases o with
    | error h => rfl
    | ok u => exact congrArg Except.ok (String.append_assoc).symm
  unfold andThen
  rw [bind_assoc]
  refine bind_congr fun o => ?_
  cases o with
  | error h => rw [pure_bind]
  | ok s =>
    simp only [bind_assoc, pure_bind]
    refine bind_congr fun o => ?_
    cases o with
    | error h => rw [pure_bind]; rfl
    | ok t =>
      simp only [Except.map, bind_assoc, pure_bind]
      exact bind_congr fun o => congrArg pure (joined s t o).symm

theorem pure_append_andThen :
    (pure (.ok (s ++ t)) : Evaluation Outcome).andThen f =
      (pure (.ok s) : Evaluation Outcome).andThen
        ((pure (.ok t) : Evaluation Outcome).andThen f) := by
  have joined : (pure (.ok s) : Evaluation Outcome).andThen (pure (.ok t)) =
      pure (.ok (s ++ t)) := by
    rw [pure_ok_andThen, pure_bind]
    rfl
  rw [← andThen_assoc, joined]

end AndThen

section Segments

variable {call : Script.Call → Evaluation Outcome} {offset : Nat} {line : Int} {g : Glyph}
  {gs hs : List Glyph} {parts : List Segment}

theorem segments_literal (raw : List Char) (rest : List Segment) :
    segments call (.literal raw :: rest) =
      (pure (.ok (String.ofList (unescape raw))) : Evaluation Outcome).andThen
        (segments call rest) := by
  rw [pure_ok_andThen]
  rfl

theorem segments_call (c : Script.Call) (rest : List Segment) :
    segments call (.call c :: rest) = (call c).andThen (segments call rest) := rfl

/-- A glyph in front of segments that were read after it gives its character before what they
give. -/
theorem segments_consGlyph (reading : IsReading (g :: gs))
    (h : segmentsFrom offset line gs = .ok parts) :
    segments call (consGlyph g parts) =
      (pure (.ok (String.ofList [g.value])) : Evaluation Outcome).andThen
        (segments call parts) := by
  have alone : unescape g.chars = [g.value] := by
    have eq := unescape_cons reading List.nil_prefix
    rwa [spell_nil, List.append_nil] at eq
  match parts with
  | .literal raw :: rest =>
    obtain ⟨front, rfl, first⟩ := exists_prefix h
    have split : String.ofList (unescape (g.chars ++ spell front)) =
        String.ofList [g.value] ++ String.ofList (unescape (spell front)) := by
      rw [unescape_cons reading first, ← String.ofList_append, List.singleton_append]
    rw [consGlyph, segments_literal, segments_literal, split, pure_append_andThen]
  | [] =>
    show segments call [.literal g.chars] = _
    rw [segments_literal, alone]
  | .call c :: rest =>
    show segments call (.literal g.chars :: .call c :: rest) = _
    rw [segments_literal, alone]

/-- Glyphs that end cleanly and glyphs after them are evaluated one after the other. -/
theorem segments_append (call : Script.Call → Evaluation Outcome) (clean : EndsCleanly gs)
    (reading : IsReading (gs ++ hs)) {ps qs : List Segment}
    (first : segmentsFrom offset line gs = .ok ps)
    (second : segmentsFrom (offset + (spell gs).length) (line + lineEnds (spell gs)) hs = .ok qs) :
    ∃ parts, segmentsFrom offset line (gs ++ hs) = .ok parts ∧
      segments call parts = (segments call ps).andThen (segments call qs) := by
  -- What is left after a call or a glyph still ends cleanly, so no head reaches over the boundary.
  induction gs using segmentsFrom_induction generalizing offset line ps with
  | nil =>
    obtain rfl := Except.ok.inj (segmentsFrom_nil.symm.trans first)
    have second : segmentsFrom offset line hs = .ok qs := by simpa [lineEnds] using second
    exact ⟨qs, second, pure_empty_andThen.symm⟩
  | call gs name after body rest head closed ih =>
    rw [segmentsFrom_call head closed] at first
    obtain ⟨ps, segmented, rfl⟩ := exists_of_map_eq_ok first
    have closed' := enclosed?_append hs closed
    have head' : head? (gs ++ hs) = some (name, after ++ hs) := by
      rw [head?_append hs clean, head]
      rfl
    have spelled := spell_call offset line head closed
    have clean' : EndsCleanly rest := clean.tail.suffix (suffix_of_call head closed)
    have reading' : IsReading (rest ++ hs) :=
      reading.tail.cutOut (suffix_of_call head' closed').isInfix
    have second' : segmentsFrom
        (offset + (Call.mk name (spell body) offset line).source.length + (spell rest).length)
        (line + lineEnds (Call.mk name (spell body) offset line).source + lineEnds (spell rest))
        hs = .ok qs := by
      rwa [Nat.add_assoc, Int.add_assoc, ← Int.natCast_add, ← List.length_append,
        ← lineEnds_append, ← spelled]
    obtain ⟨parts, whole, same⟩ := ih clean' reading' segmented second'
    refine ⟨.call ⟨name, spell body, offset, line⟩ :: parts, ?_, ?_⟩
    · rw [List.cons_append, segmentsFrom_call head' closed', whole]
      rfl
    · rw [segments_call, segments_call, same, andThen_assoc]
  | unterminated gs name after head unclosed =>
    rw [segmentsFrom_unterminated head unclosed] at first
    cases first
  | glyph g gs literal ih =>
    rw [segmentsFrom_cons literal] at first
    obtain ⟨ps, segmented, rfl⟩ := exists_of_map_eq_ok first
    have literal' : g = .plain '$' → head? (gs ++ hs) = none := by
      rintro rfl
      rw [head?_append hs clean, literal rfl]
      rfl
    have second' : segmentsFrom (offset + g.width + (spell gs).length)
        (line + lineEnds g.chars + lineEnds (spell gs)) hs = .ok qs := by
      rwa [Nat.add_assoc, Int.add_assoc, ← Int.natCast_add, Glyph.width_eq, ← List.length_append,
        ← lineEnds_append, ← spell_cons]
    obtain ⟨parts, whole, same⟩ := ih clean.tail reading.tail segmented second'
    refine ⟨consGlyph g parts, ?_, ?_⟩
    · rw [List.cons_append, segmentsFrom_cons literal', whole]
      rfl
    · rw [segments_consGlyph reading whole, same,
        segments_consGlyph reading.left segmented, andThen_assoc]

end Segments

section Moved

variable {render : List Char → Int → Evaluation Outcome} {scope : Scope} {c : Script.Call} {k : Nat}

theorem line_moved : (c.moved k 0).line = c.line := Int.add_zero _

/-- A routine does not see how far into a text its call stands. -/
theorem routine_moved {α : Type} (r : Routine Callback α) (memo : Memo) :
    routine render scope (c.moved k 0) memo r = routine render scope c memo r := by
  have view : view scope (c.moved k 0) = view scope c := by
    unfold view
    rw [line_moved]
    rfl
  have argument (memo : Memo) (i : Int) :
      argument render scope (c.moved k 0) memo i = argument render scope c memo i := by
    have source : (c.moved k 0).argumentAt? i = c.argumentAt? i := by
      unfold Call.argumentAt?
      rw [line_moved]
      rfl
    unfold argument
    rw [source]
  have abort (reason : String) (details : Option String) :
      abort scope (c.moved k 0) reason details = abort scope c reason details := by
    unfold abort
    rw [line_moved]
    rfl
  induction r generalizing memo with
  | done a => rfl
  | raise e => rfl
  | argument i next ih => simp only [routine, argument, ih]
  | look next ih => simp only [routine, view, ih]
  | abort reason details next ih => simp only [routine, abort, ih]
  | emit m topics next ih => simp only [routine, ih]
  | «recall» key next ih => simp only [routine, ih]
  | remember key v next ih => simp only [routine, ih]
  | change ch next ih => simp only [routine, ih]
  | effect q next ih => exact bind_congr fun r => ih r memo

theorem invoke_moved (f : Descriptor Callback) :
    invoke render scope (c.moved k 0) f = invoke render scope c f := by
  cases f with
  | native _ callback _ => simp only [invoke, routine_moved]
  | scripted _ code params _ => simp only [invoke, scripted, routine_moved, line_moved]
  | other _ => rfl

end Moved

section Named

variable {scope : Scope} {c c' : Script.Call} (name : c'.name = c.name) (line : c'.line = c.line)

include name line

/-- What a call gives for what its function gave depends on its name and its line. -/
theorem finish_congr (reply : Except Failure Reply) :
    finish scope c' reply = finish scope c reply := by
  have shown : c'.shownName = c.shownName := by rw [Call.shownName, name, Call.shownName]
  have fail (e : Failure) : fail scope c' e = fail scope c e := by
    unfold fail
    rw [shown, line]
  match reply with
  | .error e => exact fail e
  | .ok (.halt h) => rfl
  | .ok (.value v) => simp only [finish, fail]

theorem unknown_congr : unknown scope c' = unknown scope c := by
  unfold unknown
  rw [Call.shownName, name, line, Call.shownName]

theorem refuse_congr : refuse scope c' = refuse scope c := by
  unfold refuse
  rw [Call.shownName, name, line, Call.shownName]

end Named

section Alike

variable {σ α β : Type} {answer : σ → (q : Question) → q.Answer × σ}

/-- The surroundings do not listen to what an observer is told. -/
def Deaf (answer : σ → (q : Question) → q.Answer × σ) : Prop :=
  ∀ s d a, (answer s (.observe d a)).2 = s

/-- Evaluations that run alike, from every state of the surroundings and every dispatch on. -/
def Alike (answer : σ → (q : Question) → q.Answer × σ) (e f : Evaluation α) : Prop :=
  ∀ s d, Program.run (S := Questions) answer s (e d) = Program.run (S := Questions) answer s (f d)

theorem Alike.refl (e : Evaluation α) : Alike answer e e := fun _ _ => rfl

theorem Alike.bind {e e' : Evaluation α} {f f' : α → Evaluation β} (first : Alike answer e e')
    (second : ∀ a, Alike answer (f a) (f' a)) : Alike answer (e >>= f) (e' >>= f') := by
  intro s d
  rw [run_bind, run_bind, first]
  exact second _ _ _

theorem Alike.andThen {e e' f f' : Evaluation Outcome} (first : Alike answer e e')
    (second : Alike answer f f') : Alike answer (e.andThen f) (e'.andThen f') := by
  refine first.bind fun o => ?_
  cases o with
  | error h => exact .refl _
  | ok s => exact second.bind fun _ => .refl _

/-- Nobody listens to what an observer is told. -/
theorem alike_observe (deaf : Deaf answer) (a : Activity) :
    Alike answer (observe a) (pure ()) := by
  intro s d
  exact congrArg (Prod.mk ((), d)) (deaf s d a)

theorem observe_alike (deaf : Deaf answer) (a b : Activity) :
    Alike answer (observe a) (observe b) := fun s d =>
  (alike_observe deaf a s d).trans (alike_observe deaf b s d).symm

/-- A call does not depend on how far into a text it stands. -/
theorem call_moved (deaf : Deaf answer) (scope : Scope) (remaining k : Nat) (c : Script.Call) :
    Alike answer (call scope remaining (c.moved k 0)) (call scope remaining c) := by
  have name : (c.moved k 0).name = c.name := rfl
  have found : find scope (c.moved k 0) = find scope c := rfl
  cases remaining with
  | zero =>
    rw [call, call, found]
    refine (Alike.refl _).bind fun f => ?_
    cases f with
    | none =>
      show Alike answer (unknown scope (c.moved k 0)) (unknown scope c)
      rw [unknown_congr name line_moved]
      exact .refl _
    | some f =>
      show Alike answer (refuse scope (c.moved k 0)) (refuse scope c)
      rw [refuse_congr name line_moved]
      exact .refl _
  | succ n =>
    rw [call, call, found]
    refine (Alike.refl _).bind fun f => ?_
    cases f with
    | none =>
      show Alike answer (unknown scope (c.moved k 0)) (unknown scope c)
      rw [unknown_congr name line_moved]
      exact .refl _
    | some f =>
      refine Alike.bind (.refl _) fun _ => Alike.bind (observe_alike deaf _ _) fun _ => ?_
      refine Alike.bind ?_ fun o => Alike.bind (.refl _) fun _ =>
        Alike.bind (observe_alike deaf _ _) fun _ => .refl _
      rw [perform, perform, invoke_moved]
      refine (Alike.refl _).bind fun reply => Alike.bind (observe_alike deaf _ _) fun _ => ?_
      rw [finish_congr name line_moved]
      exact .refl _

theorem segments_moved {call : Script.Call → Evaluation Outcome} {k : Nat}
    (hcall : ∀ c, Alike answer (call (c.moved k 0)) (call c)) (parts : List Segment) :
    Alike answer (segments call (parts.map (Segment.moved k 0))) (segments call parts) := by
  induction parts with
  | nil => exact .refl _
  | cons part rest ih =>
    cases part with
    | literal raw => exact ih.bind fun _ => .refl _
    | call c => exact (hcall c).andThen ih

/-- In a dispatch that has not ended, a command string is evaluated as its segments are. -/
theorem run_source (deaf : Deaf answer) {call : Script.Call → Evaluation Outcome} {scope : Scope}
    {cs : List Char} {line : Int} {parts : List Segment}
    (read : Script.segments cs line = .ok parts) {d : Dispatch} (unended : d.halted = none)
    (s : σ) :
    Program.run (S := Questions) answer s (source call scope cs line d) =
      Program.run (S := Questions) answer s (segments call parts d) := by
  have unfolded : source call scope cs line d =
      (observe (.rendering cs line) >>= fun _ => segments call parts >>= fun o =>
        observe (.rendered cs line o) >>= fun _ => pure o) d := by
    rw [source, get_bind, unended, read]
    rfl
  have silent : (pure () >>= fun _ => segments call parts >>= fun o =>
      pure () >>= fun _ => pure o) = segments call parts := by
    simp only [pure_bind, bind_pure]
  rw [unfolded]
  refine Eq.trans ?_ (congrArg (fun e => Program.run (S := Questions) answer s (e d)) silent)
  refine Alike.bind (alike_observe deaf _) (fun _ => (Alike.refl _).bind fun o => ?_) s d
  exact Alike.bind (alike_observe deaf _) fun _ => .refl _

/-- **A command string in two parts** is evaluated by evaluating the first part and then, from the
surroundings and the dispatch that this leaves, the second part, which starts on the line on which
the first part ends. What they give is joined. Where the first part ends the dispatch, what it gives
is all there is, and the second part is not evaluated. -/
theorem render_append (deaf : Deaf answer) (scope : Scope) (remaining : Nat) (d : Dispatch) (s : σ)
    (a b : List Char) (line : Int) (clean : EndsCleanly (glyphs a)) (first : WellFormed a)
    (second : WellFormed b) :
    Program.run (S := Questions) answer s (render scope remaining (a ++ b) line d) =
      Program.run (S := Questions) answer s
        ((render scope remaining a line).andThen
          (render scope remaining b (line + lineEnds a)) d) := by
  cases ended : d.halted with
  | some h =>
    have unchanged (cs : List Char) : render scope remaining cs line d = pure (.error h, d) :=
      source_of_halted ended
    rw [andThen, run_bind, unchanged, unchanged]
    rfl
  | none =>
    obtain ⟨ps, read⟩ := first.segments line
    obtain ⟨qs, read'⟩ := second.segments (line + lineEnds a)
    have glyphs_both : glyphs (a ++ b) = glyphs a ++ glyphs b := glyphs_append b clean.1
    have moved : segmentsFrom (0 + a.length) (line + lineEnds a) (glyphs b) =
        .ok (qs.map (Segment.moved a.length 0)) := by
      have eq := segmentsFrom_moved a.length 0 (glyphs b) 0 (line + lineEnds a)
      rw [Int.add_zero] at eq
      rw [eq, show segmentsFrom 0 _ (glyphs b) = .ok qs from read']
      rfl
    obtain ⟨parts, both, same⟩ := segments_append (call scope remaining) clean
      (glyphs_both ▸ isReading_glyphs (a ++ b)) read (by rwa [spell_glyphs])
    have apart : Alike answer (segments (call scope remaining) parts)
        ((segments (call scope remaining) ps).andThen (segments (call scope remaining) qs)) := by
      rw [same]
      exact (Alike.refl _).andThen (segments_moved (call_moved deaf scope remaining _) qs)
    have whole : Script.segments (a ++ b) line = .ok parts := by
      rw [Script.segments, glyphs_both, both]
    have calling : OrderlyCalling (call scope remaining) := orderly_call remaining
    have tells := Program.Ensures.run (orderly_segments calling ps ended) answer s
    rw [render, run_source deaf whole ended, apart, andThen, andThen, run_bind, run_bind,
      run_source deaf read ended]
    generalize Program.run (S := Questions) answer s
      (segments (call scope remaining) ps d) = left at tells ⊢
    obtain ⟨⟨o, d'⟩, s'⟩ := left
    cases o with
    | error h => rfl
    | ok t =>
      have unended : d'.halted = none := Outcome.tells_ok.1 tells.2.2
      have rest : Program.run (S := Questions) answer s'
          (source (call scope remaining) scope b (line + lineEnds a) d') = _ :=
        run_source deaf read' unended s'
      show Program.run (S := Questions) answer s' ((_ >>= _ : Evaluation Outcome) d') =
        Program.run (S := Questions) answer s' ((_ >>= _ : Evaluation Outcome) d')
      rw [run_bind, run_bind, rest]

/-- Text and a call after it, in a world without functions. -/
theorem render_append_exclaimed :
    Program.run (S := Questions) World.answer (.empty .null)
        (render ⟨0, .usual, .null, false, none, none⟩ 5 (['!'] ++ ['$', 's', '[', ']']) 1 .start) =
      Program.run (S := Questions) World.answer (.empty .null)
        ((render ⟨0, .usual, .null, false, none, none⟩ 5 ['!'] 1).andThen
          (render ⟨0, .usual, .null, false, none, none⟩ 5 ['$', 's', '[', ']'] (1 + lineEnds ['!']))
          .start) := by
  have deaf : Deaf World.answer := fun _ _ _ => rfl
  have clean : EndsCleanly (glyphs ['!']) :=
    @EndsCleanly.concat [] '!' (by decide) (by decide) (by decide)
  have first : WellFormed ['!'] := ⟨1, [.literal ['!']], by
    rw [Script.segments, show glyphs ['!'] = [.plain '!'] from rfl, segmentsFrom_cons (by simp),
      segmentsFrom_nil]
    rfl⟩
  have second : WellFormed ['$', 's', '[', ']'] := ⟨1, [.call ⟨['s'], [], 0, 1⟩],
    (segmentsFrom_call rfl rfl).trans (by rw [segmentsFrom_nil]; rfl)⟩
  exact render_append deaf _ 5 .start _ _ _ 1 clean first second

end Alike

end Evaluation

end CommandScript
