import CommandScript.Proofs.Dispatch.Depth

/-!
# Reports of unknown functions

The calls of a command string are looked up one after the other while it is evaluated. So the calls
of unknown functions can be told from what comes up in a run. If diagnostics are kept apart from the
output, each of these calls leaves one, in this order, and nothing else does before the evaluation
is over.

## Main definitions

- `CommandScript.Tally` — which calls are still to be looked up, and which were in vain
- `CommandScript.unknownCalls` — the calls of unknown functions in a run
- `CommandScript.Dispatch.diagnostics` — the diagnostics that have been kept apart
- `CommandScript.Evaluation.Reports` — what every run of a computation looks up and reports

## Main results

- `CommandScript.Evaluation.balances_render` — evaluating a command string reports the calls of
  unknown functions
-/

namespace CommandScript

open Script (Call)

/-- The calls that are still to be looked up in the command strings that are being evaluated,
innermost first, and the calls that were looked up in vain. -/
structure Tally where
  due : List (List Call)
  unknown : List Call

/-- The next call is looked up, by its own name. -/
def Tally.lookedUp (t : Tally) (key : String) (f : Option (Descriptor Callback)) : Tally :=
  match t.due with
  | (c :: cs) :: due =>
    if FunctionName.key (String.ofList c.name) = key then
      ⟨cs :: due, if f.isNone then t.unknown ++ [c] else t.unknown⟩
    else t
  | _ => t

/-- The tally after an exchange. -/
def Tally.after (t : Tally) : Exchange → Tally
  | ⟨.observe _ (.rendering cs line), _⟩ =>
    { t with due := (Script.calls cs line).toOption.getD [] :: t.due }
  | ⟨.observe _ (.rendered ..), _⟩ => { t with due := t.due.tail }
  | ⟨.find _ key, f⟩ => t.lookedUp key f
  | _ => t

/-- The calls that were looked up in vain in a run, in order. -/
def unknownCalls (es : List Exchange) : List Call := (es.foldl Tally.after ⟨[], []⟩).unknown

/-- Whether the tally stays as it is, whatever the answer is. -/
def Question.isUncounted : Question → Bool
  | .find .. => false
  | .observe _ (.rendering ..) => false
  | .observe _ (.rendered ..) => false
  | _ => true

theorem Tally.after_of_isUncounted {x : Exchange} (t : Tally) (uncounted : x.1.isUncounted) :
    t.after x = t := by
  obtain ⟨q, r⟩ := x
  cases q with
  | find => cases uncounted
  | observe d a =>
    cases a with
    | rendering | rendered => cases uncounted
    | _ => rfl
  | _ => rfl

theorem Tally.foldl_of_isUncounted {es : List Exchange} (t : Tally)
    (uncounted : ∀ x ∈ es, x.1.isUncounted) : es.foldl Tally.after t = t := by
  induction es with
  | nil => rfl
  | cons x es ih =>
    obtain ⟨here, rest⟩ := List.forall_mem_cons.1 uncounted
    rw [List.foldl_cons, t.after_of_isUncounted here, ih rest]

/-- The diagnostics that have been kept apart, in order. -/
def Dispatch.diagnostics (d : Dispatch) : List SideEffect :=
  d.effects.filter fun e => e.origin.isSome

/-- The diagnostic of a call of an unknown function. -/
def Script.Call.unknownReport (command : Option String) (c : Call) : SideEffect :=
  ⟨[SideEffect.errorTopic],
    .text (Diagnostic.text c.shownName ("Unknown function " ++ c.shownName) (some c.line)),
    some (c.shownName, command)⟩

/-- The diagnostics that are kept apart for calls of unknown functions, if any are. -/
def reported (scope : Scope) (cs : List Call) : List SideEffect :=
  if scope.settings.textErrors then [] else cs.map (·.unknownReport scope.command)

@[simp] theorem reported_nil (scope : Scope) : reported scope [] = [] := by
  unfold reported
  split
  · rfl
  · rfl

theorem reported_append (scope : Scope) (cs cs' : List Call) :
    reported scope (cs ++ cs') = reported scope cs ++ reported scope cs' := by
  unfold reported
  split
  · rfl
  · exact List.map_append

namespace Evaluation

variable {α β : Type} {scope : Scope} {due : List (List Call)} {c : Call} {d : Dispatch}
  {P Q : List (List Call) → Prop}

/-- In every run of a computation, calls are looked up that are due, and those of unknown functions
are reported, and nothing else is. A condition is met by what is due afterwards. -/
def Reports (scope : Scope) (due : List (List Call)) (e : Evaluation α) (d : Dispatch)
    (P : List (List Call) → Prop) : Prop :=
  ∀ (σ : Type) (answer : σ → (q : Question) → q.Answer × σ) (s : σ), ∃ cs due', P due' ∧
    (∀ unknown, (exchanges answer s e d).foldl Tally.after ⟨due, unknown⟩ =
      ⟨due', unknown ++ cs⟩) ∧
    (Program.run (S := Questions) answer s (e d)).1.2.diagnostics =
      d.diagnostics ++ reported scope cs

/-- The same is due afterwards. -/
abbrev Balances (scope : Scope) (due : List (List Call)) (e : Evaluation α) (d : Dispatch) : Prop :=
  Reports scope due e d (· = due)

theorem reports_pure {a : α} (h : P due) : Reports scope due (pure a : Evaluation α) d P :=
  fun _ _ _ => ⟨[], due, h, fun _ => by rw [List.append_nil]; rfl,
    by rw [reported_nil, List.append_nil]; rfl⟩

/-- One computation after another one. -/
theorem Reports.bind {e : Evaluation α} {f : α → Evaluation β} (first : Reports scope due e d P)
    (second : ∀ a d' due', P due' → Reports scope due' (f a) d' Q) :
    Reports scope due (e >>= f) d Q := by
  intro σ answer s
  obtain ⟨cs, due', met, counted, left⟩ := first σ answer s
  obtain ⟨cs', due'', met', counted', left'⟩ := second
    (Program.run (S := Questions) answer s (e d)).1.1
    (Program.run (S := Questions) answer s (e d)).1.2
    due' met σ answer (Program.run (S := Questions) answer s (e d)).2
  refine ⟨cs ++ cs', due'', met', fun unknown => ?_, ?_⟩
  · rw [exchanges_bind, List.foldl_append, counted, counted', List.append_assoc]
  · rw [run_bind, left', left, reported_append, List.append_assoc]

/-- One computation after another one after which the same is due. -/
theorem Reports.seq {e : Evaluation α} {f : α → Evaluation β} (first : Balances scope due e d)
    (second : ∀ a d', Reports scope due (f a) d' Q) : Reports scope due (e >>= f) d Q :=
  first.bind fun a d' _ same => same ▸ second a d'

theorem reports_get_bind {f : Dispatch → Evaluation β} (h : Reports scope due (f d) d P) :
    Reports scope due (get >>= f) d P := h

theorem balances_modify {g : Dispatch → Dispatch} (same : (g d).diagnostics = d.diagnostics) :
    Balances scope due (modify g : Evaluation Unit) d :=
  fun _ _ _ => ⟨[], due, rfl, fun _ => by rw [List.append_nil]; rfl,
    by rw [reported_nil, List.append_nil]; exact same⟩

theorem balances_ask {q : Question} (uncounted : q.isUncounted) : Balances scope due (ask q) d := by
  intro σ answer s
  refine ⟨[], due, rfl, fun unknown => ?_, by rw [reported_nil, List.append_nil]; rfl⟩
  rw [List.append_nil]
  exact Tally.after_of_isUncounted (x := ⟨q, (answer s q).1⟩) _ uncounted

theorem balances_observe {a : Activity} (uncounted : (Question.observe d a).isUncounted) :
    Balances scope due (observe a) d :=
  balances_ask uncounted

theorem balances_note {level : Log.Level} {source : Log.Source} {message : String} :
    Balances scope due (note scope level source message) d :=
  balances_ask (q := .effect scope.logged (.log ⟨level, source, message⟩)) rfl

theorem balances_halt (h : Halt) : Balances scope due (halt scope h) d := by
  refine reports_get_bind ?_
  split
  · exact reports_pure rfl
  · refine (balances_modify rfl).seq fun _ d => Reports.seq (balances_observe rfl) fun _ _ => ?_
    exact balances_note.seq fun _ _ => reports_pure rfl

section Routines

variable {render : List Char → Int → Evaluation Outcome} {memo : Memo}

/-- Evaluating a command string reports the calls of unknown functions in it. -/
def BalancedRendering (scope : Scope) (render : List Char → Int → Evaluation Outcome) : Prop :=
  ∀ due cs line d, Balances scope due (render cs line) d

theorem balances_argument (hrender : BalancedRendering scope render) (index : Int) :
    Balances scope due (argument render scope c memo index) d := by
  unfold argument
  split
  · exact reports_pure rfl
  · exact reports_pure rfl
  · refine reports_get_bind ?_
    split
    · exact reports_pure rfl
    · refine (hrender due _ _ d).seq fun o d => ?_
      cases o with
      | ok s => exact reports_pure rfl
      | error h => exact (balances_halt h).seq fun _ _ => reports_pure rfl

theorem balances_abort (reason : String) (details : Option String) :
    Balances scope due (abort scope c reason details) d :=
  (balances_halt _).seq fun _ _ => reports_pure rfl

/-- A message of a callback is no diagnostic. -/
theorem balances_emit (message : Value) (topics : List String) :
    Balances scope due (emit message topics) d := by
  refine balances_modify ?_
  show List.filter _ (d.effects ++ [_]) = _
  rw [List.filter_append]
  exact List.append_nil _

theorem balances_noteAll (notices : List Notice) :
    Balances scope due (noteAll scope notices) d := by
  induction notices generalizing d with
  | nil => exact reports_pure rfl
  | cons n ns ih => exact balances_note.seq fun _ _ => ih

theorem balances_change (ch : Change Callback) : Balances scope due (change scope ch) d :=
  Reports.seq (balances_ask rfl) fun _ _ => (balances_noteAll _).seq fun _ _ => reports_pure rfl

/-- A callback reports nothing by itself. -/
theorem balances_routine {α : Type} (hrender : BalancedRendering scope render)
    (r : Routine Callback α) : Balances scope due (routine render scope c memo r) d := by
  induction r generalizing memo d with
  | done a => exact reports_pure rfl
  | raise e => exact reports_pure rfl
  | argument i next ih => exact (balances_argument hrender i).seq fun _ _ => ih _
  | look next ih => exact reports_get_bind (ih _)
  | abort reason details next ih => exact (balances_abort reason details).seq fun _ _ => ih _
  | emit m topics next ih => exact (balances_emit m topics).seq fun _ _ => ih
  | «recall» key next ih => exact reports_get_bind (ih _)
  | remember key v next ih => exact (balances_modify rfl).seq fun _ _ => ih
  | change ch next ih => exact (balances_change ch).seq fun _ _ => ih _
  | effect q next ih => exact Reports.seq (balances_ask rfl) fun _ _ => ih _

/-- A program that asks in terms of a dispatch reports nothing if its questions do not. -/
theorem balances_lift_relay {S : Signature} {α : Type} (prog : Program S α)
    {ask : (q : S.Question) → Program Questions (S.Answer q)}
    (hask : ∀ q d, Balances scope due (StateT.lift (ask q)) d) :
    Balances scope due (StateT.lift (prog.relay ask)) d := by
  induction prog generalizing d with
  | done a => exact reports_pure rfl
  | ask q next ih =>
    rw [lift_relay_ask]
    exact (hask q d).seq fun r _ => ih r

theorem balances_body (code : Value) (params : List Value) (texts : List (Option String)) :
    Balances scope due (body scope code params texts) d := by
  unfold body
  cases bindings params texts with
  | error e => exact reports_pure rfl
  | ok bound =>
    refine Reports.seq (balances_lift_relay _ fun path d => ?_) fun _ _ => reports_pure rfl
    exact balances_ask (q := .effect scope.logged (.openFile path)) rfl

theorem balances_scripted (hrender : BalancedRendering scope render) (code : Value)
    (params : List Value) : Balances scope due (scripted render scope c code params) d := by
  refine (balances_routine hrender _).seq fun a d' => reports_get_bind ?_
  obtain ⟨texts, memo⟩ := a
  split
  · exact reports_pure rfl
  · exact reports_pure rfl
  · refine (balances_body _ _ _).seq fun filled _ => ?_
    cases filled with
    | error e => exact reports_pure rfl
    | ok source =>
      refine (hrender due _ _ _).seq fun o _ => ?_
      cases o with
      | ok s => exact reports_pure rfl
      | error h => exact reports_pure rfl

theorem balances_invoke (hrender : BalancedRendering scope render) (f : Descriptor Callback) :
    Balances scope due (invoke render scope c f) d := by
  cases f with
  | native _ callback _ => exact (balances_routine hrender _).seq fun _ _ => reports_pure rfl
  | scripted _ code params _ => exact balances_scripted hrender code params
  | other _ => exact reports_pure rfl

theorem balances_fail (e : Failure) : Balances scope due (fail scope c e) d :=
  balances_note.seq fun _ _ => (balances_halt _).seq fun _ _ => reports_pure rfl

theorem balances_finish (reply : Except Failure Reply) :
    Balances scope due (finish scope c reply) d := by
  match reply with
  | .error e => exact balances_fail e
  | .ok (.halt h) => exact (balances_halt h).seq fun _ _ => reports_pure rfl
  | .ok (.value v) =>
    refine reports_get_bind ?_
    split
    · exact reports_pure rfl
    · exact reports_pure rfl
    · exact balances_fail _

theorem balances_perform (hrender : BalancedRendering scope render) (f : Descriptor Callback) :
    Balances scope due (perform render scope c f) d :=
  (balances_invoke hrender f).seq fun reply _ =>
    Reports.seq (balances_observe rfl) fun _ _ => balances_finish reply

theorem balances_enter (hrender : BalancedRendering scope render) (f : Descriptor Callback) :
    Balances scope due (enter render scope c f) d := by
  refine (balances_modify rfl).seq fun _ _ => Reports.seq (balances_observe rfl) fun _ _ => ?_
  refine (balances_perform hrender f).seq fun o _ => (balances_modify rfl).seq fun _ _ => ?_
  exact Reports.seq (balances_observe rfl) fun _ _ => reports_pure rfl

end Routines

theorem balances_refuse : Balances scope due (refuse scope c) d :=
  balances_note.seq fun _ _ => (balances_halt _).seq fun _ _ => reports_pure rfl

/-- A call of an unknown function leaves a diagnostic, if diagnostics are kept apart. -/
theorem run_unknown {σ : Type} (answer : σ → (q : Question) → q.Answer × σ) (s : σ)
    (scope : Scope) (c : Call) (d : Dispatch) :
    (∀ t : Tally, (exchanges answer s (unknown scope c) d).foldl Tally.after t = t) ∧
    (Program.run (S := Questions) answer s (unknown scope c d)).1.2.diagnostics =
      d.diagnostics ++ reported scope [c] := by
  unfold unknown reported
  split
  · exact ⟨fun _ => rfl, (List.append_nil _).symm⟩
  · exact ⟨fun _ => rfl, List.filter_append ..⟩

section Calls

variable {call : Call → Evaluation Outcome} {cs : List Call}

/-- Evaluating a call looks it up, and reports it if its function is unknown. -/
def ReportingCalling (scope : Scope) (call : Call → Evaluation Outcome) : Prop :=
  ∀ c cs due d, Reports scope ((c :: cs) :: due) (call c) d (· = cs :: due)

/-- The calls of segments are looked up one after the other, up to where evaluation ends. -/
theorem reports_segments (hcall : ReportingCalling scope call) (parts : List Script.Segment) :
    Reports scope (parts.filterMap Script.Segment.call? :: due) (segments call parts) d
      fun due' => ∃ rest, due' = rest :: due := by
  induction parts generalizing d with
  | nil => exact reports_pure ⟨_, rfl⟩
  | cons part rest ih =>
    cases part with
    | literal raw =>
      refine Reports.bind ih fun o d due' left => reports_pure left
    | call c =>
      refine (hcall c _ due d).bind fun o d due' eq => ?_
      subst eq
      cases o with
      | error h => exact reports_pure ⟨_, rfl⟩
      | ok s => exact Reports.bind ih fun o d due' left => reports_pure left

theorem exchanges_find_bind {σ : Type} (answer : σ → (q : Question) → q.Answer × σ) (s : σ)
    (k : Option (Descriptor Callback) → Evaluation β) :
    exchanges answer s (find scope c >>= k) d =
      .lookup scope c (answer s (.lookup scope c)).1 ::
        exchanges answer (answer s (.lookup scope c)).2 (k (answer s (.lookup scope c)).1) d := rfl

/-- A function is looked up for a call that is due. -/
theorem reports_find_bind {k : Option (Descriptor Callback) → Evaluation Outcome}
    (missing : k none = unknown scope c)
    (found : ∀ f, Balances scope (cs :: due) (k (some f)) d) :
    Reports scope ((c :: cs) :: due) (find scope c >>= k) d (· = cs :: due) := by
  intro σ answer s
  have looked (f : Option (Descriptor Callback)) (unknown : List Call) :
      Tally.after ⟨(c :: cs) :: due, unknown⟩ (.lookup scope c f) =
        ⟨cs :: due, if f.isNone then unknown ++ [c] else unknown⟩ := if_pos rfl
  rw [exchanges_find_bind, run_find_bind]
  -- The answer decides whether the call is reported here or evaluated.
  obtain ⟨f, s'⟩ := answer s (.lookup scope c)
  cases f with
  | none =>
    obtain ⟨uncounted, left⟩ := run_unknown answer s' scope c d
    rw [missing]
    refine ⟨[c], cs :: due, rfl, fun unknown => ?_, left⟩
    rw [List.foldl_cons, looked]
    exact uncounted _
  | some f =>
    obtain ⟨cs', due', rfl, counted, left⟩ := found f σ answer s'
    refine ⟨cs', cs :: due, rfl, fun unknown => ?_, left⟩
    rw [List.foldl_cons, looked]
    exact counted unknown

theorem reports_rendering {cs : List Char} {line : Int} :
    Reports scope due (observe (.rendering cs line)) d
      (· = (Script.calls cs line).toOption.getD [] :: due) :=
  fun _ _ _ => ⟨[], _, rfl, fun _ => by rw [List.append_nil]; rfl,
    by rw [reported_nil, List.append_nil]; rfl⟩

theorem reports_rendered {rest : List Call} {cs : List Char} {line : Int} {o : Outcome} :
    Reports scope (rest :: due) (observe (.rendered cs line o)) d (· = due) :=
  fun _ _ _ => ⟨[], _, rfl, fun _ => by rw [List.append_nil]; rfl,
    by rw [reported_nil, List.append_nil]; rfl⟩

/-- While a command string is evaluated its calls are due, and afterwards they are not. -/
theorem balances_source (hcall : ReportingCalling scope call) :
    BalancedRendering scope (source call scope) := by
  intro due cs line d
  refine reports_get_bind ?_
  split
  · exact reports_pure rfl
  · refine reports_rendering.bind fun _ d due' eq => ?_
    subst eq
    have inside : Reports scope ((Script.calls cs line).toOption.getD [] :: due)
        (parsed call scope (Script.segments cs line)) d fun due' => ∃ rest, due' = rest :: due := by
      unfold Script.calls
      cases Script.segments cs line with
      | error e =>
        exact Reports.bind (balances_halt _) fun _ _ _ same => reports_pure ⟨_, same⟩
      | ok parts => exact reports_segments hcall parts
    refine inside.bind fun o d due' left => ?_
    obtain ⟨rest, rfl⟩ := left
    exact reports_rendered.bind fun _ _ _ same => reports_pure same

theorem reports_call (remaining : Nat) :
    ReportingCalling scope (Evaluation.call scope remaining) := by
  induction remaining with
  | zero =>
    intro c cs due d
    exact reports_find_bind rfl fun f => balances_refuse
  | succ n ih =>
    intro c cs due d
    exact reports_find_bind rfl fun f => balances_enter (balances_source ih) f

/-- **Evaluating a command string reports the calls of unknown functions** in it and in what is
evaluated on behalf of its calls. -/
theorem balances_render (remaining : Nat) : BalancedRendering scope (render scope remaining) :=
  balances_source (reports_call remaining)

end Calls

end Evaluation

end CommandScript
