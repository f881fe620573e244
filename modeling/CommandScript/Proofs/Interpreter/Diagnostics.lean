import CommandScript.Proofs.Dispatch.Reports
import CommandScript.Proofs.Interpreter.Malformed

/-!
# Where diagnostics go

A diagnostic either goes into the output or is kept apart from it, as the settings say. Those that
are kept apart are one for each call of an unknown function, in the order of evaluation, and at the
end one for the end of the dispatch, if that was with a diagnostic. Each listener is told of each of
them once.

A dispatch first evaluates its command string. What follows concludes and tells of the result: it
takes notes and tells listeners, and asks nothing else, and neither the result nor the dispatch
changes any more once it has concluded.

## Main definitions

- `CommandScript.Outcome.isDiagnosed` — ends of a dispatch that come with a diagnostic
- `CommandScript.Interpreter.notices` — what listeners are told
- `CommandScript.Question.isQuiet` — what comes up after the evaluation
- `CommandScript.Interpreter.opening`, `CommandScript.Interpreter.closing` — the stages

## Main results

- `CommandScript.Interpreter.ensures_conclude` — the diagnostic of the end of a dispatch
- `CommandScript.Interpreter.diagnostics_once` — every diagnostic reaches one channel, once
- `CommandScript.Interpreter.dispatch_eq` — a dispatch is one stage after the other
- `CommandScript.Interpreter.ensures_closing`, `CommandScript.Interpreter.run_closing` — what
  follows the evaluation
-/

namespace CommandScript

open Evaluation

/-- Whether a dispatch ended with a diagnostic: on purpose and with details, or because a command
string is malformed. -/
def Outcome.isDiagnosed : Outcome → Bool
  | .error (.aborted _ (some _) _) => true
  | .error (.fault (.parse _) _ _) => true
  | _ => false

theorem Outcome.isDiagnosed_fault {e : Failure} (other : e.isParse = false)
    (function : Option String) (traced : Bool) :
    Outcome.isDiagnosed (.error (.fault e function traced)) = false := by
  cases e with
  | parse e => cases other
  | _ => rfl

/-- Whether a question is a note for the log. -/
def Question.isNote : Question → Bool
  | .effect _ (.log _) => true
  | _ => false

theorem Question.isUncounted_of_isNote {q : Question} (note : q.isNote) : q.isUncounted := by
  cases q with
  | effect command e => rfl
  | _ => cases note

section Asked

variable {σ α : Type} (answer : σ → (q : Question) → q.Answer × σ) (s : σ) (q : Question)
  (next : q.Answer → Program Questions α)

theorem Question.run_ask_bind :
    Program.run (S := Questions) answer s (q.ask >>= next) =
      Program.run (S := Questions) answer (answer s q).2 (next (answer s q).1) := rfl

theorem Question.exchanges_ask_bind :
    Program.exchanges (S := Questions) answer s (q.ask >>= next) =
      ⟨q, (answer s q).1⟩ ::
        Program.exchanges (S := Questions) answer (answer s q).2 (next (answer s q).1) := rfl

end Asked

/-- Whether a question tells a listener of a diagnostic. -/
def Question.isNotice : Question → Bool
  | .notify .. => true
  | _ => false

theorem Question.isNotice_of_isNote {q : Question} (note : q.isNote) : q.isNotice = false := by
  cases q with
  | notify => cases note
  | _ => rfl

/-- Whether a question is a note for the log or tells a listener of a diagnostic. -/
def Question.isQuiet (q : Question) : Bool := q.isNote || q.isNotice

namespace Interpreter

/-- What listeners are told of diagnostics: of each diagnostic in turn, one after the other. -/
def notices (listeners : List String) (diagnostics : List SideEffect) : List Exchange :=
  diagnostics.flatMap fun e => listeners.map fun l => ⟨.notify l e, ()⟩

/-- What is kept apart for the end of a dispatch: the diagnostic that the result says, if the
dispatch ended with one and diagnostics are kept apart. -/
def Closes (scope : Scope) (o : Outcome) (r : Result) (last : List SideEffect) : Prop :=
  if o.isDiagnosed && !scope.settings.textErrors then
    ∃ function message, r.message = some message ∧
      last = [⟨[SideEffect.errorTopic], .text message, some (function, scope.command)⟩]
  else last = []

variable {scope : Scope} {d : Dispatch} {o : Outcome}

theorem ensures_route (function diagnostic : String) :
    (route scope function diagnostic).Ensures d fun qs _ d' =>
      (∀ q ∈ qs, q.isNote) ∧
        d'.effects = d.effects ++ if scope.settings.textErrors then [] else
          [⟨[SideEffect.errorTopic], .text diagnostic, some (function, scope.command)⟩] := by
  unfold route
  split
  · exact ensures_pure.2 ⟨List.forall_mem_nil _, (List.append_nil _).symm⟩
  · refine ensures_bind.2 (ensures_bind.2 (ensures_note.2 (ensures_modify.2 (ensures_pure.2 ?_))))
    exact ⟨List.forall_mem_singleton.2 rfl, rfl⟩

theorem closes_route {function message : String} {r : Result} (diagnosed : o.isDiagnosed = true)
    (sent : r.message = some message) :
    Closes scope o r (if scope.settings.textErrors then [] else
      [⟨[SideEffect.errorTopic], .text message, some (function, scope.command)⟩]) := by
  unfold Closes
  rw [diagnosed]
  cases scope.settings.textErrors with
  | true => rfl
  | false => exact ⟨function, message, sent, rfl⟩

theorem closes_nil {r : Result} (other : o.isDiagnosed = false) : Closes scope o r [] := by
  unfold Closes
  rw [other]
  rfl

theorem ensures_aborted (reason : String) (diagnostic function : Option String) :
    (aborted scope reason diagnostic function).Ensures d fun qs r _ => (∀ q ∈ qs, q.isNote) ∧
      ∃ last, r.sideEffects = d.effects ++ last ∧
        Closes scope (.error (.aborted reason diagnostic function)) r last := by
  cases diagnostic with
  | none =>
    refine ensures_bind.2 (ensures_pure.2 (ensures_bind.2 (ensures_get.2 (ensures_pure.2 ?_))))
    exact ⟨List.forall_mem_nil _, [], (List.append_nil _).symm, closes_nil rfl⟩
  | some text =>
    refine ensures_bind.2 (Ensures.imp (ensures_route _ _) fun qs output d' routed => ?_)
    refine ensures_bind.2 (ensures_get.2 (ensures_pure.2 ?_))
    refine ⟨?_, _, routed.2, closes_route rfl rfl⟩
    simpa using routed.1

theorem ensures_malformed (e : Script.ParseError) (function : Option String) (traced : Bool) :
    (malformed scope e).Ensures d fun qs r _ => (∀ q ∈ qs, q.isNote) ∧
      ∃ last, r.sideEffects = d.effects ++ last ∧
        Closes scope (.error (.fault (.parse e) function traced)) r last := by
  refine ensures_bind.2 (ensures_note.2 (ensures_bind.2 ?_))
  refine Ensures.imp (ensures_route _ _) fun qs output d' routed => ?_
  refine ensures_bind.2 (ensures_get.2 (ensures_pure.2 ?_))
  refine ⟨?_, _, routed.2, closes_route rfl rfl⟩
  refine List.forall_mem_cons.2 ⟨rfl, fun q mem => routed.1 q ?_⟩
  simpa using mem

/-- **The result of a dispatch keeps a diagnostic apart exactly where the dispatch ended with one**,
and it is the message of the result. -/
theorem ensures_conclude (o : Outcome) :
    (conclude scope o).Ensures d fun qs a _ => (∀ q ∈ qs, q.isNote) ∧
      ∀ r, a = .ok r → ∃ last, r.sideEffects = d.effects ++ last ∧ Closes scope o r last := by
  have wrapped {e : Evaluation Result} (ensures : e.Ensures d fun qs r _ => (∀ q ∈ qs, q.isNote) ∧
      ∃ last, r.sideEffects = d.effects ++ last ∧ Closes scope o r last) :
      (e >>= fun r => (pure (.ok r) : Evaluation (Except Failure Result))).Ensures d fun qs a _ =>
        (∀ q ∈ qs, q.isNote) ∧
          ∀ r, a = .ok r → ∃ last, r.sideEffects = d.effects ++ last ∧ Closes scope o r last := by
    refine ensures_bind.2 (Ensures.imp ensures fun qs r d' concluded => ensures_pure.2 ?_)
    rw [List.append_nil]
    exact ⟨concluded.1, by rintro _ ⟨⟩; exact concluded.2⟩
  have plain (r : Result) (same : r.sideEffects = d.effects) (other : o.isDiagnosed = false) :
      ∃ last, r.sideEffects = d.effects ++ last ∧ Closes scope o r last :=
    ⟨[], same.trans (List.append_nil _).symm, closes_nil other⟩
  match o with
  | .ok text =>
    refine ensures_bind.2 (ensures_get.2 (ensures_pure.2 ⟨List.forall_mem_nil _, ?_⟩))
    rintro _ ⟨⟩
    exact plain _ rfl rfl
  | .error (.aborted reason diagnostic function) => exact wrapped (ensures_aborted _ _ _)
  | .error (.fault e function traced) =>
    cases kind : e.isParse with
    | true =>
      obtain ⟨p, rfl⟩ := Failure.exists_of_isParse kind
      exact wrapped (ensures_malformed p function traced)
    | false =>
      rw [conclude_fault kind]
      unfold failed
      dsimp only
      split
      · exact ensures_pure.2 ⟨List.forall_mem_nil _, by rintro _ ⟨⟩⟩
      · refine ensures_bind.2 (ensures_get.2 (ensures_pure.2 ⟨List.forall_mem_nil _, ?_⟩))
        rintro _ ⟨⟩
        exact plain _ rfl (Outcome.isDiagnosed_fault kind function traced)

theorem exchanges_notify {σ : Type} (answer : σ → (q : Question) → q.Answer × σ) (s : σ)
    (diagnostic : SideEffect) (listeners : List String) :
    exchanges answer s (notify diagnostic listeners) d =
      listeners.map fun l => ⟨.notify l diagnostic, ()⟩ := by
  induction listeners generalizing s d with
  | nil => rfl
  | cons l ls ih => exact congrArg (_ :: ·) (ih _)

theorem exchanges_notifyAll {σ : Type} (answer : σ → (q : Question) → q.Answer × σ) (s : σ)
    (listeners : List String) (diagnostics : List SideEffect) :
    exchanges answer s (notifyAll listeners diagnostics) d = notices listeners diagnostics := by
  induction diagnostics generalizing s d with
  | nil => rfl
  | cons e rest ih =>
    rw [notifyAll, exchanges_bind, exchanges_notify, ih]
    rfl

theorem ensures_notify (diagnostic : SideEffect) (listeners : List String) :
    (notify diagnostic listeners).Ensures d fun qs _ d' =>
      (∀ q ∈ qs, q.isQuiet = true) ∧ d' = d := by
  induction listeners with
  | nil => exact ensures_pure.2 ⟨List.forall_mem_nil _, rfl⟩
  | cons l ls ih =>
    refine ensures_bind.2 (ensures_ask.2 fun _ => Ensures.imp ih fun qs _ _ rest => ?_)
    exact ⟨List.forall_mem_cons.2 ⟨rfl, rest.1⟩, rest.2⟩

theorem ensures_notifyAll (listeners : List String) (diagnostics : List SideEffect) :
    (notifyAll listeners diagnostics).Ensures d fun qs _ d' =>
      (∀ q ∈ qs, q.isQuiet = true) ∧ d' = d := by
  induction diagnostics with
  | nil => exact ensures_pure.2 ⟨List.forall_mem_nil _, rfl⟩
  | cons e rest ih =>
    refine ensures_bind.2 (Ensures.imp (ensures_notify e listeners) fun qs _ d' first => ?_)
    obtain ⟨quiet, rfl⟩ := first
    exact Ensures.imp ih fun qs' _ _ rest =>
      ⟨List.forall_mem_append.2 ⟨quiet, rest.1⟩, rest.2⟩

/-- To tell of what a dispatch concluded with changes neither that nor the dispatch. -/
theorem ensures_tell (listeners : List String) (a : Except Failure Result) :
    (tell scope listeners a).Ensures d fun qs b d' =>
      (∀ q ∈ qs, q.isQuiet = true) ∧ b = a ∧ d' = d := by
  cases a with
  | error e => exact ensures_pure.2 ⟨List.forall_mem_nil _, rfl, rfl⟩
  | ok r =>
    refine ensures_bind.2 (Ensures.imp (ensures_notifyAll _ _) fun qs _ d' told => ?_)
    obtain ⟨quiet, rfl⟩ := told
    refine ensures_bind.2 (ensures_note.2 (ensures_pure.2 ⟨?_, rfl, rfl⟩))
    exact List.forall_mem_append.2 ⟨quiet, List.forall_mem_singleton.2 rfl⟩


theorem run_tell {σ : Type} (answer : σ → (q : Question) → q.Answer × σ) (s : σ)
    (listeners : List String) (a : Except Failure Result) :
    (Program.run (S := Questions) answer s (tell scope listeners a d)).1 = (a, d) := by
  have told : (tell scope listeners a).Ensures d _ := ensures_tell listeners a
  obtain ⟨-, result, same⟩ := Program.Ensures.run told answer s
  exact Prod.ext result same

theorem exchanges_tell {σ : Type} (answer : σ → (q : Question) → q.Answer × σ) (s : σ)
    (listeners : List String) (r : Result) :
    exchanges answer s (tell scope listeners (.ok r)) d = notices listeners r.errors ++
      [⟨.effect scope.logged
        (.log ⟨.debug, .runtime, "dispatch finished: " ++ r.status.word⟩), ()⟩] := by
  rw [tell, exchanges_bind, exchanges_notifyAll]
  rfl

/-- No listener is told of anything while a command string is evaluated. -/
theorem isNotice_of_steps {cs : List Char} {line : Int} {p p' : Place} {es : List Exchange}
    (run : Steps scope cs line p es p') : ∀ x ∈ es, x.1.isNotice = false := by
  induction run with
  | nil => exact List.forall_mem_nil _
  | cons step rest ih => exact List.forall_mem_cons.2 ⟨by cases step <;> rfl, ih⟩

/-- The last that comes up in the evaluation of a command string is what it gives. -/
theorem exchanges_source {σ : Type} {answer : σ → (q : Question) → q.Answer × σ} {s s' : σ}
    {call : Script.Call → Evaluation Outcome} {cs : List Char} {line : Int} {left : Dispatch}
    (unended : d.halted = none)
    (ran : Program.run (S := Questions) answer s (source call scope cs line d) = ((o, left), s')) :
    ∃ front, exchanges answer s (source call scope cs line) d =
      front ++ [.told left (.rendered cs line o)] := by
  let inside : Evaluation Outcome := do
    observe (.rendering cs line)
    parsed call scope (Script.segments cs line)
  let close (o : Outcome) : Evaluation Outcome := do
    observe (.rendered cs line o)
    return o
  have begins : source call scope cs line d = (inside >>= close) d := by
    rw [source, get_bind, unended]
    rfl
  rw [begins, run_bind] at ran
  cases ran
  refine ⟨exchanges answer s inside d, ?_⟩
  show Program.exchanges (S := Questions) answer s (source call scope cs line d) = _
  rw [begins]
  exact exchanges_bind answer s inside close d

/-- The records of a result are its diagnostics, where no other message has their topic. -/
theorem errors_eq {r : Result} {cs : List Script.Call} {last : List SideEffect}
    (sent : r.sideEffects = d.effects ++ last) (closes : Closes scope o r last)
    (left : d.diagnostics = reported scope cs)
    (others : ∀ e ∈ r.sideEffects, e.origin = none → e.isError = false) :
    r.errors = reported scope cs ++ last := by
  have kept : ∀ e ∈ reported scope cs, e.isError = true := by
    unfold reported
    split
    · exact List.forall_mem_nil _
    · intro e mem
      obtain ⟨c, -, rfl⟩ := List.mem_map.1 mem
      rfl
  have closing : ∀ e ∈ last, e.isError = true := by
    unfold Closes at closes
    split at closes
    · obtain ⟨function, message, -, rfl⟩ := closes
      exact List.forall_mem_singleton.2 rfl
    · subst closes
      exact List.forall_mem_nil _
  have alike : ∀ e ∈ d.effects, e.isError = e.origin.isSome := by
    intro e mem
    cases origin : e.origin with
    | none => exact others e (sent ▸ List.mem_append_left _ mem) origin
    | some place =>
      have diagnosed : e ∈ d.diagnostics := List.mem_filter.2 ⟨mem, by rw [origin]; rfl⟩
      exact kept e (left ▸ diagnosed)
  rw [Result.errors, sent, List.filter_append, List.filter_eq_self.2 closing, ← left]
  exact congrArg (· ++ last) (List.filter_congr alike)

/-- The diagnostics of a dispatch in which the given exchanges came up go where they should: into
the output, or into the records of its result and from there to the listeners. -/
structure RoutedOnce (textErrors : Bool) (command : Option String) (listeners : List String)
    (source : List Char) (r : Result) (es : List Exchange) : Prop where
  /-- With diagnostics in the output, none is kept apart. -/
  shown : textErrors = true → r.errors = []
  /-- Otherwise there is one record for each call of an unknown function, in the order of
  evaluation, and one for the end of the dispatch if that came with a diagnostic, which the result
  says. After the evaluation the listeners are told of each record, each of them once and in order,
  and they are not told of anything before. -/
  kept : ∃ front d o notes finish,
    es = front ++ .told d (.rendered source 1 o) :: notes ++ notices listeners r.errors ++
        [finish] ∧
      (∀ x ∈ front, x.1.isNotice = false) ∧ (∀ x ∈ notes, x.1.isNote) ∧ finish.1.isNote ∧
      o.Tells d.halted ∧
      (textErrors = false → ∃ last,
        r.errors = (unknownCalls es).map (·.unknownReport command) ++ last ∧
        if o.isDiagnosed then
          ∃ function message, r.message = some message ∧
            last = [⟨[SideEffect.errorTopic], .text message, some (function, command)⟩]
        else last = [])

/-- A dispatch evaluates its command string, concludes, and tells the listeners of the diagnostics
of the result if there is one, with a note at each end. -/
theorem exists_stages {σ : Type} (answer : σ → (q : Question) → q.Answer × σ) (s : σ)
    (scope : Scope) (listeners : List String) (cs : List Char) :
    ∃ s₁ o left s₂ start,
      Program.run (S := Questions) answer s₁ (render scope scope.settings.maxDepth cs 1 .start) =
          ((o, left), s₂) ∧
        start.1.isNote ∧
        let concluded := (Program.run (S := Questions) answer s₂ (conclude scope o left)).1.1
        (Program.run (S := Questions) answer s (dispatch scope listeners cs .start)).1.1 =
            concluded ∧
          ∀ r, concluded = .ok r → ∃ finish, finish.1.isNote ∧
            exchanges answer s (dispatch scope listeners cs) .start =
              start :: exchanges answer s₁ (render scope scope.settings.maxDepth cs 1) .start ++
                exchanges answer s₂ (conclude scope o) left ++ notices listeners r.errors ++
                [finish] := by
  let opening : Evaluation Unit := Evaluation.note scope .debug .runtime "dispatch start"
  let evaluation := render scope scope.settings.maxDepth cs 1
  have begins : dispatch scope listeners cs =
      opening >>= fun _ => evaluation >>= fun o => conclude scope o >>= tell scope listeners := rfl
  obtain ⟨s₁, opened⟩ : ∃ s₁,
      Program.run (S := Questions) answer s (opening .start) = (((), .start), s₁) := ⟨_, rfl⟩
  obtain ⟨⟨⟨o, left⟩, s₂⟩, evaluated⟩ : ∃ x,
      Program.run (S := Questions) answer s₁ (evaluation .start) = x := ⟨_, rfl⟩
  refine ⟨s₁, o, left, s₂, ⟨.effect scope.logged (.log ⟨.debug, .runtime, "dispatch start"⟩), ()⟩,
    evaluated, rfl, ?_, fun r gives => ?_⟩
  · rw [begins, run_bind, opened, run_bind, evaluated, run_bind]
    exact congrArg Prod.fst (run_tell answer _ listeners _)
  · let finished := "dispatch finished: " ++ r.status.word
    refine ⟨⟨.effect scope.logged (.log ⟨.debug, .runtime, finished⟩), ()⟩, rfl, ?_⟩
    rw [begins, exchanges_bind, opened, exchanges_bind, evaluated, exchanges_bind, gives,
      exchanges_tell]
    simp only [List.append_assoc]
    rfl

theorem isUncounted_of_mem_notices {listeners : List String} {diagnostics : List SideEffect} :
    ∀ x ∈ notices listeners diagnostics, x.1.isUncounted := by
  intro x mem
  obtain ⟨e, -, mem⟩ := List.mem_flatMap.1 mem
  obtain ⟨l, -, rfl⟩ := List.mem_map.1 mem
  rfl

/-- What comes up around the evaluation looks up no call. -/
theorem unknownCalls_stages {listeners : List String} {diagnostics : List SideEffect}
    {start finish : Exchange} {evaluation notes : List Exchange} {unknown : List Script.Call}
    (opening : start.1.isNote) (concluding : ∀ x ∈ notes, x.1.isNote) (closing : finish.1.isNote)
    (counted : ∃ due, evaluation.foldl Tally.after ⟨[], []⟩ = ⟨due, unknown⟩) :
    unknownCalls (start :: evaluation ++ notes ++ notices listeners diagnostics ++ [finish]) =
      unknown := by
  obtain ⟨due, counted⟩ := counted
  have first := Tally.after_of_isUncounted ⟨[], []⟩ (Question.isUncounted_of_isNote opening)
  have evaluated : (start :: evaluation).foldl Tally.after ⟨[], []⟩ = ⟨due, unknown⟩ := by
    rw [List.foldl_cons, first, counted]
  have noted : ∀ x ∈ notes, x.1.isUncounted :=
    fun x mem => Question.isUncounted_of_isNote (concluding x mem)
  have last : ∀ x ∈ [finish], x.1.isUncounted :=
    List.forall_mem_singleton.2 (Question.isUncounted_of_isNote closing)
  rw [unknownCalls, List.foldl_append, List.foldl_append, List.foldl_append, evaluated,
    Tally.foldl_of_isUncounted _ noted, Tally.foldl_of_isUncounted _ isUncounted_of_mem_notices,
    Tally.foldl_of_isUncounted _ last]

theorem routedOnce_dispatch {σ : Type} (answer : σ → (q : Question) → q.Answer × σ) (s : σ)
    (scope : Scope) (listeners : List String) (cs : List Char) {r : Result}
    (gives : (Program.run (S := Questions) answer s (dispatch scope listeners cs .start)).1.1 =
      .ok r)
    (others : ∀ e ∈ r.sideEffects, e.origin = none → e.isError = false) :
    RoutedOnce scope.settings.textErrors scope.command listeners cs r
      (exchanges answer s (dispatch scope listeners cs) .start) := by
  obtain ⟨s₁, o, left, s₂, start, evaluated, opening, same, telling⟩ :=
    exists_stages answer s scope listeners cs
  obtain ⟨finish, closing, comes⟩ := telling r (same.symm.trans gives)
  -- What comes up in the evaluation, up to what it gives.
  obtain ⟨-, -, -, tells⟩ := Ensures.of_run (orderly_render _ cs 1 .start) evaluated
  have steps : Steps scope cs 1 ⟨[], .free⟩
      (exchanges answer s₁ (render scope scope.settings.maxDepth cs 1) .start) ⟨[], .free⟩ :=
    advances_render (Nat.zero_add _) .whole σ answer s₁
  obtain ⟨front, ends⟩ : ∃ front,
      exchanges answer s₁ (render scope scope.settings.maxDepth cs 1) .start =
        front ++ [.told left (.rendered cs 1 o)] := exchanges_source rfl evaluated
  have balanced : BalancedRendering scope (render scope scope.settings.maxDepth) :=
    balances_render _
  obtain ⟨unknown, due, -, counted, apart⟩ := balanced [] cs 1 .start σ answer s₁
  rw [evaluated] at apart
  -- What comes up while the dispatch is concluded, and what is kept apart then.
  have concludes : (conclude scope o).Ensures left _ := ensures_conclude o
  obtain ⟨noted, kept⟩ := concludes.run answer s₂
  obtain ⟨last, sent, closes⟩ := kept r (same.symm.trans gives)
  rw [← map_fst_exchanges] at noted
  have notes : ∀ x ∈ exchanges answer s₂ (conclude scope o) left, x.1.isNote :=
    fun x mem => noted x.1 (List.mem_map_of_mem mem)
  have errors : r.errors = reported scope unknown ++ last := errors_eq sent closes apart others
  have unknown_eq : unknownCalls (exchanges answer s (dispatch scope listeners cs) .start) =
      unknown :=
    comes ▸ unknownCalls_stages opening notes closing ⟨due, counted []⟩
  refine ⟨fun shown => ?_, start :: front, left, o, exchanges answer s₂ (conclude scope o) left,
    finish, ?_, ?_, notes, closing, tells, fun kept => ?_⟩
  · rw [Closes, shown, Bool.not_true, Bool.and_false] at closes
    rw [errors, reported, if_pos shown, closes]
    rfl
  · rw [comes, ends]
    simp
  · refine List.forall_mem_cons.2 ⟨Question.isNotice_of_isNote opening, fun x mem => ?_⟩
    exact isNotice_of_steps steps x (ends ▸ List.mem_append_left _ mem)
  · rw [Closes, kept, Bool.not_false, Bool.and_true] at closes
    refine ⟨last, ?_, closes⟩
    rw [errors, reported, unknown_eq, kept]
    rfl

/-- What comes up before a dispatch and tells no listener does not matter. -/
theorem RoutedOnce.cons {textErrors : Bool} {command : Option String} {listeners : List String}
    {source : List Char} {r : Result} {es : List Exchange} {x : Exchange}
    (routed : RoutedOnce textErrors command listeners source r es)
    (untold : x.1.isNotice = false) (uncounted : x.1.isUncounted) :
    RoutedOnce textErrors command listeners source r (x :: es) := by
  obtain ⟨shown, front, d, o, notes, finish, rfl, before, noted, last, tells, kept⟩ := routed
  have same (es : List Exchange) : unknownCalls (x :: es) = unknownCalls es :=
    congrArg (fun t => (List.foldl Tally.after t es).unknown)
      (Tally.after_of_isUncounted ⟨[], []⟩ uncounted)
  refine ⟨shown, x :: front, d, o, notes, finish, rfl, ?_, noted, last, tells, fun apart => ?_⟩
  · exact List.forall_mem_cons.2 ⟨untold, before⟩
  · rw [same]
    exact kept apart

theorem routedOnce_run {σ : Type} (answer : σ → (q : Question) → q.Answer × σ) (s : σ)
    (i : Interpreter) (functions : Handle) (v : Invocation) {r : Result}
    (gives : (Program.run (S := Questions) answer s (i.run functions v)).1 = .ok r)
    (others : ∀ e ∈ r.sideEffects, e.origin = none → e.isError = false) :
    RoutedOnce i.settings.textErrors v.command i.listeners v.source r
      (Program.exchanges (S := Questions) answer s (i.run functions v)) := by
  let dispatched := (dispatch (i.scope functions v) i.listeners v.source).run .start
  have gave := Program.run_bind (S := Questions) answer s dispatched fun x => pure x.1
  have comes := Program.exchanges_bind (S := Questions) answer s dispatched fun x => pure x.1
  have routed := routedOnce_dispatch answer s (i.scope functions v) i.listeners v.source
    ((congrArg Prod.fst gave).symm.trans gives) others
  exact (comes.trans (List.append_nil _)).symm ▸ routed

/-- **Every diagnostic reaches one channel, once.** Among any surroundings, and so with any
functions, callbacks and listeners: where no message that a callback left has the topic of
diagnostics, the diagnostics of a dispatch go into the output if the settings say so, and are no
records of its result then. Otherwise the records of the result are, in this order, one for each
call of an unknown function that was evaluated, in the order of evaluation, and one more if and only
if the dispatch ended on purpose with a diagnostic or because a command string is malformed, which
is the message of the result. When the evaluation is over, every listener is told of every record
once: of the first record one listener after the other, then of the next one. -/
theorem diagnostics_once {σ : Type} (answer : σ → (q : Question) → q.Answer × σ) (s : σ)
    (i : Interpreter) (v : Invocation) (r : Result)
    (answered : (Program.run (S := Questions) answer s (i.handle v)).1 = .ok r)
    (others : ∀ e ∈ r.sideEffects, e.origin = none → e.isError = false) :
    RoutedOnce i.settings.textErrors v.command i.listeners v.source r
      (Program.exchanges (S := Questions) answer s (i.handle v)) := by
  by_cases alone : v.functions.isEmpty = true
  · have begins : i.handle v = i.run i.functions v := if_pos alone
    rw [begins] at answered ⊢
    exact routedOnce_run answer s i i.functions v answered others
  · have begins : i.handle v = Question.ask (.layer i.functions v.functions) >>= _ := if_neg alone
    rw [begins, Question.run_ask_bind] at answered
    rw [begins, Question.exchanges_ask_bind]
    refine RoutedOnce.cons ?_ rfl rfl
    revert answered
    obtain ⟨layered, s'⟩ := answer s (.layer i.functions v.functions)
    intro answered
    cases layered with
    | error e => cases answered
    | ok functions => exact routedOnce_run answer s' i functions v answered others

/-- An interpreter that keeps diagnostics apart and has a listener, in a world without functions. -/
def listened : Interpreter := ⟨{ Settings.usual with textErrors := false }, 0, ["l"]⟩

/-- A listener is told of a call of an unknown function. -/
theorem diagnostics_once_unknown :
    ∃ r, (Program.run (S := Questions) World.answer (World.empty .null)
        (listened.handle (plain ['$', 'x', '[', ']']))).1 = .ok r ∧
      (∀ e ∈ r.sideEffects, e.origin = none → e.isError = false) ∧
      RoutedOnce false none ["l"] ['$', 'x', '[', ']'] r
        (Program.exchanges (S := Questions) World.answer (World.empty .null)
          (listened.handle (plain ['$', 'x', '[', ']']))) := by
  have read : Script.segments (plain ['$', 'x', '[', ']']).source 1 =
      .ok [.call ⟨['x'], [], 0, 1⟩] :=
    (Script.segmentsFrom_call rfl rfl).trans (by rw [Script.segmentsFrom_nil]; rfl)
  have ran : ∃ r, (Program.run (S := Questions) World.answer (World.empty .null)
        (listened.handle (plain ['$', 'x', '[', ']']))).1 = .ok r ∧
      r.sideEffects = [Script.Call.unknownReport none ⟨['x'], [], 0, 1⟩] := by
    unfold handle run dispatch render source
    rw [read]
    exact ⟨_, rfl, rfl⟩
  obtain ⟨r, answered, sent⟩ := ran
  have others : ∀ e ∈ r.sideEffects, e.origin = none → e.isError = false := by
    rw [sent]
    exact List.forall_mem_singleton.2 nofun
  exact ⟨r, answered, others, diagnostics_once World.answer (World.empty .null) listened
    (plain ['$', 'x', '[', ']']) r answered others⟩

/-! ### The stages of a dispatch -/

/-- Begins a dispatch and evaluates its command string. -/
def opening (scope : Scope) (source : List Char) : Evaluation Outcome := do
  Evaluation.note scope .debug .runtime "dispatch start"
  render scope scope.settings.maxDepth source 1

/-- Concludes a dispatch and tells of its result. -/
def closing (scope : Scope) (listeners : List String) (o : Outcome) :
    Evaluation (Except Failure Result) :=
  conclude scope o >>= tell scope listeners

theorem dispatch_eq (scope : Scope) (listeners : List String) (source : List Char) :
    dispatch scope listeners source = opening scope source >>= closing scope listeners := by
  rw [opening, bind_assoc]
  rfl

/-- After the evaluation nothing comes up but notes, and what listeners are told. -/
theorem ensures_closing (listeners : List String) (o : Outcome) :
    (closing scope listeners o).Ensures d fun qs _ _ => ∀ q ∈ qs, q.isQuiet = true := by
  refine ensures_bind.2 (Ensures.imp (ensures_conclude o) fun qs r d concluded => ?_)
  refine Ensures.imp (ensures_tell listeners r) fun qs' _ _ told => ?_
  refine List.forall_mem_append.2 ⟨fun q mem => ?_, told.1⟩
  rw [Question.isQuiet, concluded.1 q mem, Bool.true_or]

/-- Telling of a result changes neither the result nor the dispatch. -/
theorem run_closing {σ : Type} (answer : σ → (q : Question) → q.Answer × σ) (s : σ)
    (listeners : List String) (o : Outcome) :
    (Program.run (S := Questions) answer s (closing scope listeners o d)).1 =
      (Program.run (S := Questions) answer s (conclude scope o d)).1 := by
  rw [closing, run_bind]
  exact run_tell answer _ listeners _

end Interpreter

end CommandScript
