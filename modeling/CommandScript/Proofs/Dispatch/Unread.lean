import CommandScript.Proofs.BuiltIn
import CommandScript.Proofs.Dispatch.Sequence

/-!
# Arguments that are not read

An argument that the function of its call never reads is never evaluated, whatever calls stand in
it. Another text in its place changes nothing.

## Main definitions

- `CommandScript.Evaluation.Stage` — where evaluation has come to
- `CommandScript.Evaluation.ReadsAt` — a function reads an argument of its call
- `CommandScript.Evaluation.Comes` — evaluation comes to a call

## Main results

- `CommandScript.Evaluation.run_call_withArgument` — a call with another argument runs alike
- `CommandScript.Evaluation.unread_without_influence` — arguments that are not read change nothing
-/

namespace CommandScript

/-- Does what a function does up to where it reads an argument of its call, and tells whether it
came to that. A function whose body is a command string reads all arguments first. -/
def Descriptor.seeking (k : Nat) : Descriptor Callback → Routine Callback Bool
  | .native _ callback _ => callback.body.seeking k
  | .scripted .. => (Routine.allArguments : Routine Callback _).seeking k
  | .other _ => .done false

/-- A function is discreet if its callback is. -/
def Descriptor.Discreet : Descriptor Callback → Prop
  | .native _ callback _ => callback.body.Discreet
  | .scripted .. | .other _ => True

namespace Evaluation

open Script

/-- Where evaluation has come to: how many more calls may be inside one another, how the
surroundings are, and how the dispatch is. -/
structure Stage (σ : Type) where
  remaining : Nat
  around : σ
  dispatch : Dispatch

section Stages

variable {σ : Type} (answer : σ → (q : Question) → q.Answer × σ) (scope : Scope)

/-- What is answered when the function of a call is looked up. -/
def found (p : Stage σ) (c : Call) : Option (Descriptor Callback) × σ :=
  answer p.around (.find scope.functions (FunctionName.key (String.ofList c.name)))

/-- What a routine does for a call that is entered, inside which so many others may be. -/
def entered {α : Type} (remaining : Nat) (p : Stage σ) (c : Call) (f : Descriptor Callback)
    (r : Routine Callback α) : ((Except Failure α × Memo) × Dispatch) × σ :=
  Program.run (S := Questions) answer (found answer scope p c).2
    ((observe (.entering c f) >>= fun _ => routine (render scope remaining) scope c [] r)
      { p.dispatch with depth := p.dispatch.depth + 1 })

/-- The call is entered, and its function comes to read an argument for the first time, in a
dispatch that has not ended. -/
def ReadsAt (p : Stage σ) (c : Call) (k : Nat) (q : Stage σ) : Prop :=
  p.remaining = q.remaining + 1 ∧ q.dispatch.halted = none ∧
    ∃ f memo, (found answer scope p c).1 = some f ∧
      entered answer scope q.remaining p c f (f.seeking k) =
        (((.ok true, memo), q.dispatch), q.around)

/-- Evaluating a text from a stage on comes to a call of it: one of its own calls, or one in an
argument that the function of one of its calls reads. -/
inductive Comes : Stage σ → List Char → Int → Route → Nat → Call → Stage σ → Prop
  | own {p : Stage σ} {cs line before c after text d s}
    (unended : p.dispatch.halted = none)
    (read : Script.segments cs line = .ok (before ++ .call c :: after))
    (run : Program.run (S := Questions) answer p.around
      ((observe (.rendering cs line) >>= fun _ => segments (call scope p.remaining) before)
        p.dispatch) = ((.ok text, d), s)) :
    Comes p cs line [] before.length c ⟨p.remaining, s, d⟩
  | inner {p q r t : Stage σ} {cs line i c k a l place j c'}
    (outer : Comes p cs line [] i c q) (reads : ReadsAt answer scope q c k r)
    (old : c.argumentAt? k = some (a, l)) (rest : Comes r a l place j c' t) :
    Comes p cs line ((i, k) :: place) j c' t

end Stages

section Influence

variable {σ : Type} {answer : σ → (q : Question) → q.Answer × σ} {scope : Scope} {c : Call}
  {k : Nat} {a b cs : List Char} {l line : Int} {s : σ} {d : Dispatch} {p : Stage σ}

theorem run_observe_bind {α : Type} (deaf : Deaf answer) (x : Activity)
    (f : Unit → Evaluation α) :
    Program.run (S := Questions) answer s ((observe x >>= f) d) =
      Program.run (S := Questions) answer s (f () d) := by
  rw [run_bind, alike_observe deaf x s d]
  rfl

/-- A discreet function does alike for a call with another argument. -/
theorem run_invoke_withArgument {render : List Char → Int → Evaluation Outcome}
    (orderly : OrderlyRendering render) (fits : c.MayHave k a l b) {f : Descriptor Callback}
    (discreet : f.Discreet)
    (same : Indifferent answer render scope c k a l b [] (f.seeking k) s d) :
    Program.run (S := Questions) answer s (invoke render scope (c.withArgument k b) f d) =
      Program.run (S := Questions) answer s (invoke render scope c f d) := by
  cases f with
  | native _ callback _ =>
    exact run_bind_congr (run_routine_withArgument orderly fits _ discreet same)
      fun _ _ _ _ => rfl
  | scripted _ code params _ =>
    exact run_bind_congr
      (run_routine_withArgument orderly fits _ Routine.discreet_allArguments same)
      fun _ _ _ _ => rfl
  | other _ => rfl

/-- A call of a discreet function runs alike with another argument. -/
theorem run_enter_withArgument (deaf : Deaf answer)
    {render : List Char → Int → Evaluation Outcome} (orderly : OrderlyRendering render)
    (fits : c.MayHave k a l b) {f : Descriptor Callback} (discreet : f.Discreet)
    (same : Indifferent answer render scope c k a l b [] (f.seeking k) s
      { d with depth := d.depth + 1 }) :
    Program.run (S := Questions) answer s (enter render scope (c.withArgument k b) f d) =
      Program.run (S := Questions) answer s (enter render scope c f d) := by
  have name : (c.withArgument k b).name = c.name := rfl
  have line : (c.withArgument k b).line = c.line := rfl
  refine (run_observe_bind deaf _ _).trans (Eq.trans ?_ (run_observe_bind deaf _ _).symm)
  refine run_bind_congr ?_ fun o s' d' _ => run_bind_congr rfl fun _ s' d' _ => ?_
  · refine run_bind_congr (run_invoke_withArgument orderly fits discreet same)
      fun reply s' d' _ => run_bind_congr (observe_alike deaf _ _ s' d') fun _ s' d' _ => ?_
    rw [finish_congr name line]
  · exact run_bind_congr (observe_alike deaf _ _ s' d') fun _ _ _ _ => rfl

/-- **A call with another argument runs alike**, if its function does not read this argument, or if
the text of the argument and the other one run alike where it reads it. -/
theorem run_call_withArgument (deaf : Deaf answer) (fits : c.MayHave k a l b)
    (discreet : ∀ f, (found answer scope p c).1 = some f → f.Discreet)
    (same : ∀ q, ReadsAt answer scope p c k q →
      Program.run (S := Questions) answer q.around
          (render scope q.remaining b l q.dispatch) =
        Program.run (S := Questions) answer q.around
          (render scope q.remaining a l q.dispatch)) :
    Program.run (S := Questions) answer p.around
        (call scope p.remaining (c.withArgument k b) p.dispatch) =
      Program.run (S := Questions) answer p.around (call scope p.remaining c p.dispatch) := by
  have name : (c.withArgument k b).name = c.name := rfl
  have line : (c.withArgument k b).line = c.line := rfl
  obtain ⟨remaining, s, d⟩ := p
  cases remaining with
  | zero =>
    refine run_bind_congr rfl fun f s' d' _ => ?_
    cases f with
    | none =>
      show Program.run (S := Questions) answer s' (unknown scope (c.withArgument k b) d') = _
      rw [unknown_congr name line]
    | some f =>
      show Program.run (S := Questions) answer s' (refuse scope (c.withArgument k b) d') = _
      rw [refuse_congr name line]
  | succ n =>
    refine run_bind_congr rfl fun f s' d' run => ?_
    cases f with
    | none =>
      show Program.run (S := Questions) answer s' (unknown scope (c.withArgument k b) d') = _
      rw [unknown_congr name line]
    | some f =>
      obtain ⟨left, rfl⟩ := Prod.mk.inj run
      obtain ⟨known, rfl⟩ := Prod.mk.inj left
      refine run_enter_withArgument deaf (orderly_render n) fits (discreet f known) ?_
      intro _ memo s' d' run unended
      exact same ⟨n, s', d'⟩
        ⟨rfl, unended, f, memo, known, (run_observe_bind deaf _ _).trans run⟩

/-- Segments one after the other are evaluated one after the other. -/
theorem segments_concat (call : Call → Evaluation Outcome) (parts others : List Segment) :
    segments call (parts ++ others) = (segments call parts).andThen (segments call others) := by
  induction parts with
  | nil => exact pure_empty_andThen.symm
  | cons part rest ih =>
    cases part with
    | literal raw => rw [List.cons_append, segments_literal, segments_literal, ih, andThen_assoc]
    | call c => rw [List.cons_append, segments_call, segments_call, ih, andThen_assoc]

/-- A text in which a call has another argument runs alike, if the call does. -/
theorem run_rewritten (deaf : Deaf answer) {i : Nat} (call : callAt? cs line i = some c)
    (fits : c.MayHave k a l b) (argument : IsArgument b) (lines : lineEnds b = lineEnds a)
    (same : ∀ q, Comes answer scope p cs line [] i c q →
      Program.run (S := Questions) answer q.around
          (Evaluation.call scope q.remaining (c.withArgument k b) q.dispatch) =
        Program.run (S := Questions) answer q.around
          (Evaluation.call scope q.remaining c q.dispatch)) :
    Program.run (S := Questions) answer p.around
        (render scope p.remaining (rewritten cs line i (c.withArgument k b)) line p.dispatch) =
      Program.run (S := Questions) answer p.around
        (render scope p.remaining cs line p.dispatch) := by
  obtain ⟨remaining, s, d⟩ := p
  cases ended : d.halted with
  | some h =>
    have unchanged (cs : List Char) : render scope remaining cs line d = pure (.error h, d) :=
      source_of_halted ended
    simp only [unchanged]
  | none =>
    have closed := closed_of_callAt? call
    obtain ⟨before, after, read, rfl⟩ := callAt?_eq_some_iff.1 call
    obtain ⟨rest, m, m', rfl, read'⟩ := segments_rewritten read
      (Call.closed_withArgument closed argument) (Call.lineEnds_source_withArgument fits.old lines)
    have moved (m : Nat) : Alike answer
        (segments (Evaluation.call scope remaining) (rest.map (Segment.moved m 0)))
        (segments (Evaluation.call scope remaining) rest) :=
      segments_moved (call_moved deaf scope remaining m) rest
    refine (run_source deaf read' ended s).trans (Eq.trans ?_ (run_source deaf read ended s).symm)
    rw [segments_concat, segments_concat]
    refine run_bind_congr rfl fun o s' d' run => ?_
    cases o with
    | error h => rfl
    | ok text =>
      refine run_bind_congr ?_ fun _ _ _ _ => rfl
      refine run_bind_congr (same ⟨remaining, s', d'⟩ ?_) fun o s' d' _ => ?_
      · exact .own ended read ((run_observe_bind deaf _ _).trans run)
      · cases o with
        | error h => rfl
        | ok text =>
          exact run_bind_congr ((moved m' s' d').trans (moved m s' d').symm) fun _ _ _ _ => rfl

/-- An argument that is not read may be another one, wherever it stands. -/
theorem run_replaced (deaf : Deaf answer) {path : Route} {t : List Char} {m : Int} {i : Nat}
    (inside : textAt? path cs line = some (t, m)) (call : callAt? t m i = some c)
    (fits : c.MayHave k a l b) (argument : IsArgument b) (lines : lineEnds b = lineEnds a)
    (discreet : ∀ place j c' q f, Comes answer scope p cs line place j c' q →
      (found answer scope q c').1 = some f → f.Discreet)
    (unread : ∀ q r, Comes answer scope p cs line path i c q → ¬ReadsAt answer scope q c k r) :
    Program.run (S := Questions) answer p.around
        (render scope p.remaining (replaced (rewritten t m i (c.withArgument k b)) path cs line)
          line p.dispatch) =
      Program.run (S := Questions) answer p.around
        (render scope p.remaining cs line p.dispatch) := by
  induction path generalizing p cs line with
  | nil =>
    obtain ⟨rfl, rfl⟩ := Prod.mk.inj (Option.some.inj inside)
    refine run_rewritten deaf call fits argument lines fun q comes => ?_
    refine run_call_withArgument deaf fits (fun f known => discreet _ _ _ q f comes known) ?_
    exact fun r reads => absurd reads (unread q r comes)
  | cons step path ih =>
    obtain ⟨j, k'⟩ := step
    obtain ⟨c', a', l', call', old', inner⟩ := textAt?_cons_eq_some_iff.1 inside
    have stands : MayStandFor (replaced (rewritten t m i (c.withArgument k b)) path a' l') a' :=
      (MayStandFor.rewritten call fits.old argument lines).replaced inner
    have closed := closed_of_callAt? call'
    have argument' := stands.argument (isArgument_of_argumentAt? closed old')
    have fits' : c'.MayHave k' a' l' _ := .of_callAt? call' old' argument' stands.lines
      (Call.length_arguments_withArgument closed old' argument' stands.written)
    rw [replaced_cons call' old']
    refine run_rewritten deaf call' fits' argument' stands.lines fun q comes => ?_
    refine run_call_withArgument deaf fits' (fun f known => discreet _ _ _ q f comes known) ?_
    intro r reads
    exact ih inner (fun place j c' q f rest => discreet _ j c' q f (.inner comes reads old' rest))
      fun q' r' rest => unread q' r' (.inner comes reads old' rest)

end Influence

section BuiltIn

variable {σ : Type} {answer : σ → (q : Question) → q.Answer × σ} {scope : Scope} {c : Call}
  {k : Nat} {p q : Stage σ}

/-- A function under no name reads no argument. -/
theorem not_readsAt_unknown (unknown : (found answer scope p c).1 = none) :
    ¬ReadsAt answer scope p c k q := by
  rintro ⟨-, -, f, -, known, -⟩
  rw [unknown] at known
  cases known

/-- A routine that avoids an argument does not come to read it. -/
theorem Avoids.not_seeking {α : Type} {r : Routine Callback α} (avoids : r.Avoids k)
    {render : List Char → Int → Evaluation Outcome} {memo memo' : Memo} {s s' : σ}
    {d d' : Dispatch} :
    Program.run (S := Questions) answer s (routine render scope c memo (r.seeking k) d) ≠
      (((.ok true, memo'), d'), s') := by
  rw [avoids.seeking_eq]
  intro run
  obtain ⟨-, tells⟩ := (ensures_routine_bind_done r false).of_run run
  exact absurd (tells true rfl) (by simp)

/-- A native function reads no argument that its callback avoids. -/
theorem not_readsAt_of_avoids {name : String} {callback : Callback} {version : Value}
    (known : (found answer scope p c).1 = some (.native name callback version))
    (avoids : callback.body.Avoids k) : ¬ReadsAt answer scope p c k q := by
  rintro ⟨-, -, f, memo, known', run⟩
  rw [known] at known'
  obtain rfl := Option.some.inj known'
  exact Avoids.not_seeking avoids run

/-- Where the function that chooses between its arguments comes to read one that is not the
condition, the condition chooses this one. -/
theorem exists_of_seeking_choose {render : List Char → Int → Evaluation Outcome} {memo : Memo}
    {s s' : σ} {d d' : Dispatch} (later : k ≠ 0)
    (run : Program.run (S := Questions) answer s
      (routine render scope c [] ((BuiltIn.choose : Routine Callback Reply).seeking k) d) =
        (((.ok true, memo), d'), s')) :
    ∃ t b, (Program.run (S := Questions) answer s
        (routine render scope c [] (Routine.argumentOr 0 "") d)).1.1.1 = .ok t ∧
      condition t.toList = .ok (some b) ∧ k = if b then 1 else 2 := by
  rw [BuiltIn.choose_eq, BuiltIn.withCount_eq] at run
  change Program.run (S := Questions) answer s
    (routine render scope c [] (Routine.seeking k (if _ then _ else _)) d) = _ at run
  split at run
  · have quiet (details : String) : (Routine.abort "arity" (some details) fun _ =>
        Routine.nothing : Routine Callback Reply).Avoids k := fun _ => trivial
    exact absurd run (Avoids.not_seeking (quiet _))
  · have begins : (Routine.argumentOr 0 "" >>= BuiltIn.chosen : Routine Callback Reply).seeking k =
        .argument 0 fun s => (BuiltIn.chosen (s.getD "")).seeking k := by
      show (if (0 : Int) = k then _ else _) = _
      rw [if_neg (by omega)]
      rfl
    rw [begins, routine, run_bind] at run
    rw [Routine.argumentOr, routine, run_bind]
    generalize Program.run (S := Questions) answer s (argument render scope c [] 0 d) = read
      at run ⊢
    refine ⟨read.1.1.1.getD "", ?_⟩
    by_contra none
    refine Avoids.not_seeking (BuiltIn.avoids_chosen fun b known same => none ⟨b, rfl, known, same⟩)
      run

/-- A function that chooses between its arguments reads the condition and the chosen argument. -/
theorem readsAt_choose {name : String} {version : Value}
    (known : (found answer scope p c).1 = some (.native name (.of BuiltIn.choose) version))
    (reads : ReadsAt answer scope p c k q) :
    k = 0 ∨ ∃ t b, (entered answer scope q.remaining p c
        (.native name (.of BuiltIn.choose) version) (Routine.argumentOr 0 "")).1.1.1 = .ok t ∧
      condition t.toList = .ok (some b) ∧ k = if b then 1 else 2 := by
  obtain ⟨-, -, f, memo, known', run⟩ := reads
  rw [known] at known'
  obtain rfl := Option.some.inj known'
  exact or_iff_not_imp_left.2 fun later => exists_of_seeking_choose later run

end BuiltIn

/-- **Arguments that are not read have no influence.** Among surroundings that do not listen to what
an observer is told, where the functions of the calls that evaluation comes to are discreet: if the
function of a call never reads one of its arguments, then any other text that may be an argument,
with as many line ends, may stand in its place, unless the call would be left without arguments.
The outcome, the dispatch and the surroundings that are left are the same. So it is for all
arguments of a call of an unknown function, for all arguments of the function that ends a dispatch
in silence, and for every argument of the function that chooses between its arguments but the
condition and the argument that it chooses. -/
theorem unread_without_influence {σ : Type} {answer : σ → (q : Question) → q.Answer × σ}
    (deaf : Deaf answer) (scope : Scope) :
    (∀ (p : Stage σ) cs line path t m i (c : Call) (k : Nat) a l b,
      textAt? path cs line = some (t, m) → callAt? t m i = some c →
      c.argumentAt? k = some (a, l) → IsArgument b → lineEnds b = lineEnds a →
      (c.withArgument k b).arguments.length = c.arguments.length →
      (∀ place j c' q f, Comes answer scope p cs line place j c' q →
        (found answer scope q c').1 = some f → f.Discreet) →
      (∀ q r, Comes answer scope p cs line path i c q → ¬ReadsAt answer scope q c k r) →
      Program.run (S := Questions) answer p.around
          (render scope p.remaining (replaced (rewritten t m i (c.withArgument k b)) path cs line)
            line p.dispatch) =
        Program.run (S := Questions) answer p.around
          (render scope p.remaining cs line p.dispatch)) ∧
    (∀ (p q : Stage σ) (c : Call) (k : Nat), (found answer scope p c).1 = none →
      ¬ReadsAt answer scope p c k q) ∧
    (∀ (p q : Stage σ) (c : Call) (k : Nat) name version,
      (found answer scope p c).1 = some (.native name (.of BuiltIn.halt) version) →
        ¬ReadsAt answer scope p c k q) ∧
    ∀ (p q : Stage σ) (c : Call) (k : Nat) name version,
      (found answer scope p c).1 = some (.native name (.of BuiltIn.choose) version) →
      ReadsAt answer scope p c k q →
        k = 0 ∨ ∃ t b, (entered answer scope q.remaining p c
            (.native name (.of BuiltIn.choose) version) (Routine.argumentOr 0 "")).1.1.1 = .ok t ∧
          condition t.toList = .ok (some b) ∧ k = if b then 1 else 2 := by
  refine ⟨fun p cs line path t m i c k a l b inside call old argument lines count discreet unread =>
    run_replaced deaf inside call (.of_callAt? call old argument lines count) argument lines
      discreet unread, fun _ _ _ _ => not_readsAt_unknown, fun _ _ _ _ _ _ known => ?_,
    fun _ _ _ _ _ _ => readsAt_choose⟩
  exact not_readsAt_of_avoids known BuiltIn.avoids_halt

/-- A world with one function, `$s`, that ends the dispatch in silence. -/
def silent : World :=
  { World.empty .null with
    registries := ⟨[⟨.null, [], [("s", .native "$s" (.of BuiltIn.halt) .null)]⟩]⟩ }

/-- A text in the place of an argument of the function that ends the dispatch in silence. -/
theorem unread_without_influence_silent :
    Program.run (S := Questions) World.answer silent
        (render ⟨0, .usual, .null, false, none, none⟩ 5
          (replaced (rewritten ['$', 's', '[', 'a', ']'] 1 0
            (Call.withArgument ⟨['s'], ['a'], 0, 1⟩ 0 ['$', 'g', '[', ']']))
            [] ['$', 's', '[', 'a', ']'] 1) 1 .start) =
      Program.run (S := Questions) World.answer silent
        (render ⟨0, .usual, .null, false, none, none⟩ 5 ['$', 's', '[', 'a', ']'] 1 .start) := by
  have deaf : Deaf World.answer := fun _ _ _ => rfl
  have read : Script.segments ['$', 's', '[', 'a', ']'] 1 = .ok [.call ⟨['s'], ['a'], 0, 1⟩] :=
    (Script.segmentsFrom_call rfl rfl).trans (by rw [Script.segmentsFrom_nil]; rfl)
  have call : callAt? ['$', 's', '[', 'a', ']'] 1 0 = some ⟨['s'], ['a'], 0, 1⟩ := by
    rw [callAt?, read]
    rfl
  have argument : IsArgument ['$', 'g', '[', ']'] :=
    ⟨⟨rfl, by decide⟩, undivided_of_notMem (by decide)⟩
  have unread := unread_without_influence deaf ⟨0, .usual, .null, false, none, none⟩
  have own {j c q} (comes : Comes World.answer ⟨0, .usual, .null, false, none, none⟩
      ⟨5, silent, .start⟩ ['$', 's', '[', 'a', ']'] 1 [] j c q) :
      (found World.answer ⟨0, .usual, .null, false, none, none⟩ q c).1 =
        some (.native "$s" (.of BuiltIn.halt) .null) := by
    cases comes with
    | @own _ _ _ before _ _ _ _ _ unended read' run =>
      have parts := Except.ok.inj (read'.symm.trans read)
      cases before with
      | nil =>
        obtain rfl := Segment.call.inj (List.cons.inj parts).1
        obtain ⟨left, rfl⟩ := Prod.mk.inj run
        obtain ⟨-, rfl⟩ := Prod.mk.inj left
        rfl
      | cons part before => simp at parts
  have never {j c q k r} (comes : Comes World.answer ⟨0, .usual, .null, false, none, none⟩
      ⟨5, silent, .start⟩ ['$', 's', '[', 'a', ']'] 1 [] j c q) :
      ¬ReadsAt World.answer ⟨0, .usual, .null, false, none, none⟩ q c k r :=
    unread.2.2.1 q r c k _ _ (own comes)
  refine unread.1 ⟨5, silent, .start⟩ _ 1 [] _ 1 0 _ 0 ['a'] 1 _ rfl call (by decide) argument
    (by decide) (by decide) (fun place j c' q f comes known => ?_) fun q r comes => never comes
  cases comes with
  | own unended read' run =>
    rw [own (.own unended read' run)] at known
    obtain rfl := Option.some.inj known
    exact BuiltIn.discreet_halt
  | inner outer reads old rest => exact absurd reads (never outer)

end Evaluation

end CommandScript
