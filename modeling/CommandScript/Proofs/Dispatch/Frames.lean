import CommandScript.Proofs.Dispatch.Course

/-!
# What is being evaluated

The command strings and the calls inside which a dispatch is, at every moment of a run, and what
may come up there. A command string is evaluated as a whole, as an argument of the call that is
being executed, or as the body of its function; a call is one of those in the command string that is
being evaluated; and a function that is found for a call is entered at once, or refused where as
many calls are being executed as may be inside one another.

## Main definitions

- `CommandScript.Frame` — a command string or a call that is being evaluated
- `CommandScript.Exchange` — a question of a dispatch with its answer
- `CommandScript.frames`, `CommandScript.callDepth` — what is being evaluated after exchanges, and
  how many calls are
- `CommandScript.Place` — where a run is
- `CommandScript.Step` — from one place to another by an exchange
- `CommandScript.Steps` — from one place to another by the exchanges of a run

## Main results

- `CommandScript.Steps.frames_eq` — what is being evaluated can be told from the exchanges
- `CommandScript.Steps.of_split` — where a run is at each of its exchanges
- `CommandScript.Evaluation.advances_render` — evaluating a command string keeps to the steps
-/

namespace CommandScript

/-- A command string or a call that is being evaluated. -/
inductive Frame where
  | text (cs : List Char) (line : Int)
  | call (c : Script.Call) (f : Descriptor Callback)

/-- A question of a dispatch with its answer. -/
abbrev Exchange := (q : Question) × q.Answer

/-- The question for the function of a call. -/
abbrev Question.lookup (scope : Scope) (c : Script.Call) : Question :=
  .find scope.functions (FunctionName.key (String.ofList c.name))

/-- The question for the function of a call, with its answer. -/
abbrev Exchange.lookup (scope : Scope) (c : Script.Call) (f : Option (Descriptor Callback)) :
    Exchange :=
  ⟨.lookup scope c, f⟩

/-- What an observer is told. -/
abbrev Exchange.told (d : Dispatch) (a : Activity) : Exchange := ⟨.observe d a, ()⟩

/-- What is being evaluated after an exchange, innermost first. -/
def Frame.after (fs : List Frame) : Exchange → List Frame
  | ⟨.observe _ (.rendering cs line), _⟩ => .text cs line :: fs
  | ⟨.observe _ (.rendered ..), _⟩ => fs.tail
  | ⟨.observe _ (.entering c f), _⟩ => .call c f :: fs
  | ⟨.observe _ (.leaving ..), _⟩ => fs.tail
  | _ => fs

/-- What is being evaluated after the exchanges of a run so far, innermost first. -/
def frames (es : List Exchange) : List Frame := es.foldl Frame.after []

/-- The number of calls that are being executed. -/
def callDepth : List Frame → Nat
  | [] => 0
  | .text .. :: fs => callDepth fs
  | .call .. :: fs => callDepth fs + 1

/-- What is due in a run: anything, or that a function that was found for a call is entered or
refused, or that the dispatch ends because it is refused. -/
inductive Stage where
  | free
  | found (c : Script.Call) (f : Descriptor Callback)
  | refused (c : Script.Call)

/-- Where a run is: what is being evaluated, and what is due. -/
structure Place where
  frames : List Frame
  stage : Stage

/-- How a dispatch ends where a call would be inside too many others. -/
def Halt.tooDeep (scope : Scope) (c : Script.Call) : Halt :=
  .fault (.depth scope.settings.maxDepth) (some c.shownName) false

/-- What a command string or a call may end a dispatch with by itself: a command string only where
it is malformed, and a call with anything, because its function may. -/
inductive Frame.Ends : Frame → Halt → Prop
  | malformed {cs : List Char} {line : Int} {e : Script.ParseError}
      (unread : Script.segments cs line = .error e) :
      Ends (.text cs line) (.fault (.parse e) e.function false)
  | function {c : Script.Call} {f : Descriptor Callback} {h : Halt} : Ends (.call c f) h

/-- A call is one of those in a command string. -/
def Script.Call.In (c : Script.Call) (cs : List Char) (line : Int) : Prop :=
  ∃ parts, Script.segments cs line = .ok parts ∧ .call c ∈ parts

section

variable (scope : Scope) (source : List Char) (first : Int)

/-- Which command strings are evaluated inside which frames: the given one in none, and inside a
call its arguments and the body of its function. -/
inductive Begins : List Frame → List Char → Int → Prop
  | whole : Begins [] source first
  | argument {c : Script.Call} {f : Descriptor Callback} {fs : List Frame} {i : Int}
      {cs : List Char} {line : Int} (read : c.argumentAt? i = some (cs, line)) :
      Begins (.call c f :: fs) cs line
  | body {c : Script.Call} {name : String} {code version : Value} {params : List Value}
      {fs : List Frame} {cs : List Char} :
      Begins (.call c (.scripted name code params version) :: fs) cs c.line

/-- From one place to another by an exchange, in the evaluation of a command string. -/
inductive Step : Place → Exchange → Place → Prop
  | change {fs : List Frame} {functions : Handle} {ch : Change Callback}
      {r : (Question.change functions ch).Answer} :
      Step ⟨fs, .free⟩ ⟨.change functions ch, r⟩ ⟨fs, .free⟩
  | effect {fs : List Frame} {command : Option (Option String)} {q : Effect} {r : q.Answer} :
      Step ⟨fs, .free⟩ ⟨.effect command q, r⟩ ⟨fs, .free⟩
  | rendering {fs : List Frame} {d : Dispatch} {cs : List Char} {line : Int}
      (begins : Begins source first fs cs line) :
      Step ⟨fs, .free⟩ (.told d (.rendering cs line)) ⟨.text cs line :: fs, .free⟩
  | rendered {fs : List Frame} {d : Dispatch} {cs : List Char} {line : Int} {o : Outcome} :
      Step ⟨.text cs line :: fs, .free⟩ (.told d (.rendered cs line o)) ⟨fs, .free⟩
  | unknown {fs : List Frame} {c : Script.Call} {cs : List Char} {line : Int}
      (here : c.In cs line) :
      Step ⟨.text cs line :: fs, .free⟩ (.lookup scope c none) ⟨.text cs line :: fs, .free⟩
  | found {fs : List Frame} {c : Script.Call} {f : Descriptor Callback} {cs : List Char}
      {line : Int} (here : c.In cs line) :
      Step ⟨.text cs line :: fs, .free⟩ (.lookup scope c (some f)) ⟨.text cs line :: fs, .found c f⟩
  | entering {fs : List Frame} {d : Dispatch} {c : Script.Call} {f : Descriptor Callback}
      (room : callDepth fs < scope.settings.maxDepth) :
      Step ⟨fs, .found c f⟩ (.told d (.entering c f)) ⟨.call c f :: fs, .free⟩
  | returned {fs : List Frame} {d : Dispatch} {c : Script.Call} {f : Descriptor Callback}
      {reply : Except Failure Reply} :
      Step ⟨.call c f :: fs, .free⟩ (.told d (.returned c reply)) ⟨.call c f :: fs, .free⟩
  | leaving {fs : List Frame} {d : Dispatch} {c : Script.Call} {f : Descriptor Callback}
      {o : Outcome} :
      Step ⟨.call c f :: fs, .free⟩ (.told d (.leaving c o)) ⟨fs, .free⟩
  | refusing {fs : List Frame} {c : Script.Call} {f : Descriptor Callback}
      {command : Option (Option String)} {n : Log.Note}
      (full : callDepth fs = scope.settings.maxDepth) :
      Step ⟨fs, .found c f⟩ ⟨.effect command (.log n), ()⟩ ⟨fs, .refused c⟩
  | refused {fs : List Frame} {d : Dispatch} {c : Script.Call} :
      Step ⟨fs, .refused c⟩ (.told d (.halting (.tooDeep scope c))) ⟨fs, .free⟩
  | halting {frame : Frame} {fs : List Frame} {d : Dispatch} {h : Halt} (ends : frame.Ends h) :
      Step ⟨frame :: fs, .free⟩ (.told d (.halting h)) ⟨frame :: fs, .free⟩

/-- From one place to another by the exchanges of a run. -/
inductive Steps : Place → List Exchange → Place → Prop
  | nil {p : Place} : Steps p [] p
  | cons {p p' p'' : Place} {x : Exchange} {es : List Exchange}
      (step : Step scope source first p x p') (rest : Steps p' es p'') : Steps p (x :: es) p''

end

section

variable {scope : Scope} {source : List Char} {first : Int} {p p' p'' : Place} {x : Exchange}
  {es before after : List Exchange}

theorem Step.frames (step : Step scope source first p x p') :
    p'.frames = Frame.after p.frames x := by
  cases step <;> rfl

namespace Steps

theorem append (front : Steps scope source first p before p')
    (back : Steps scope source first p' after p'') :
    Steps scope source first p (before ++ after) p'' := by
  induction front with
  | nil => exact back
  | cons step _ ih => exact .cons step (ih back)

theorem single (step : Step scope source first p x p') : Steps scope source first p [x] p' :=
  .cons step .nil

/-- What is being evaluated at the end of a run is what its exchanges make of what was being
evaluated before. -/
theorem foldl_frames (run : Steps scope source first p es p') :
    es.foldl Frame.after p.frames = p'.frames := by
  induction run with
  | nil => rfl
  | cons step _ ih => rw [List.foldl_cons, ← step.frames, ih]

/-- What is being evaluated can be told from the exchanges so far. -/
theorem frames_eq (run : Steps scope source first ⟨[], .free⟩ es p) : frames es = p.frames :=
  run.foldl_frames

/-- A run is where it is after the first of its exchanges. -/
theorem of_append (run : Steps scope source first p (before ++ after) p'') :
    ∃ m, Steps scope source first p before m ∧ Steps scope source first m after p'' := by
  induction before generalizing p with
  | nil => exact ⟨p, .nil, run⟩
  | cons y before ih =>
    cases run with
    | cons step rest =>
      obtain ⟨m, front, back⟩ := ih rest
      exact ⟨m, .cons step front, back⟩

/-- Each exchange of a run is a step between two places. -/
theorem of_split (run : Steps scope source first p (before ++ x :: after) p'') :
    ∃ m m', Steps scope source first p before m ∧ Step scope source first m x m' ∧
      Steps scope source first m' after p'' := by
  obtain ⟨m, front, back⟩ := run.of_append
  cases back with
  | cons step rest => exact ⟨m, _, front, step, rest⟩

/-- The last exchange of a run is the step to where it ends. -/
theorem last (run : Steps scope source first p es p') :
    es = [] ∧ p = p' ∨
      ∃ m before x, es = before ++ [x] ∧ Steps scope source first p before m ∧
        Step scope source first m x p' := by
  obtain rfl | ⟨before, x, rfl⟩ := List.eq_nil_or_concat es
  · cases run with
    | nil => exact .inl ⟨rfl, rfl⟩
  · rw [List.concat_eq_append] at run
    obtain ⟨m, m', front, step, back⟩ := run.of_split
    cases back with
    | nil => exact .inr ⟨m, before, x, List.concat_eq_append, front, step⟩

end Steps

end

namespace Evaluation

section

variable {α β : Type} {scope : Scope} {source : List Char} {first : Int} {p p' p'' : Place}
  {fs : List Frame} {c : Script.Call} {d : Dispatch}

/-- The questions of a computation with their answers. -/
def exchanges {σ : Type} (answer : σ → (q : Question) → q.Answer × σ) (s : σ) (e : Evaluation α)
    (d : Dispatch) : List Exchange :=
  Program.exchanges (S := Questions) answer s (e d)

/-- Every run of a computation from a dispatch on goes from one place to another. -/
def Advances (scope : Scope) (source : List Char) (first : Int) (p : Place) (e : Evaluation α)
    (d : Dispatch) (p' : Place) : Prop :=
  ∀ (σ : Type) (answer : σ → (q : Question) → q.Answer × σ) (s : σ),
    Steps scope source first p (exchanges answer s e d) p'

/-- Every run of a computation from a dispatch on comes back to the frames in which it starts. -/
abbrev Stays (scope : Scope) (source : List Char) (first : Int) (fs : List Frame)
    (e : Evaluation α) (d : Dispatch) : Prop :=
  Advances scope source first ⟨fs, .free⟩ e d ⟨fs, .free⟩

theorem advances_pure {a : α} : Advances scope source first p (pure a : Evaluation α) d p :=
  fun _ _ _ => .nil

theorem map_fst_exchanges {σ : Type} (answer : σ → (q : Question) → q.Answer × σ) (s : σ)
    (e : Evaluation α) (d : Dispatch) :
    (exchanges answer s e d).map (·.1) = Program.asked (S := Questions) answer s (e d) :=
  Program.map_fst_exchanges (S := Questions) answer s (e d)

/-- The exchanges of a composition are those of its first part, and then those of its second. -/
theorem exchanges_bind {σ : Type} (answer : σ → (q : Question) → q.Answer × σ) (s : σ)
    (e : Evaluation α) (f : α → Evaluation β) (d : Dispatch) :
    exchanges answer s (e >>= f) d =
      exchanges answer s e d ++ exchanges answer (Program.run (S := Questions) answer s (e d)).2
        (f (Program.run (S := Questions) answer s (e d)).1.1)
        (Program.run (S := Questions) answer s (e d)).1.2 :=
  Program.exchanges_bind (S := Questions) answer s (e d) fun r => f r.1 r.2

/-- One computation after another one of which something is known. -/
theorem Advances.bind {e : Evaluation α} {f : α → Evaluation β} {P : α → Dispatch → Prop}
    (front : Advances scope source first p e d p') (known : e.Ensures d fun _ => P)
    (back : ∀ a d', P a d' → Advances scope source first p' (f a) d' p'') :
    Advances scope source first p (e >>= f) d p'' := by
  intro σ answer s
  rw [exchanges_bind]
  exact (front σ answer s).append (back _ _ (Program.Ensures.run known answer s) σ answer _)

/-- One computation after another one of which nothing needs to be known. -/
theorem Advances.seq {e : Evaluation α} {f : α → Evaluation β}
    (front : Advances scope source first p e d p')
    (back : ∀ a d', Advances scope source first p' (f a) d' p'') :
    Advances scope source first p (e >>= f) d p'' :=
  front.bind (Program.Ensures.of_forall fun _ _ => trivial) fun a d' (_ : True) => back a d'

theorem advances_get_bind {f : Dispatch → Evaluation β}
    (h : Advances scope source first p (f d) d p') :
    Advances scope source first p (get >>= f) d p' := h

theorem advances_modify {g : Dispatch → Dispatch} :
    Advances scope source first p (modify g : Evaluation Unit) d p := fun _ _ _ => .nil

theorem advances_ask {q : Question} (step : ∀ r, Step scope source first p ⟨q, r⟩ p') :
    Advances scope source first p (ask q) d p' := fun _ _ _ => .single (step _)

theorem advances_observe {a : Activity} (step : Step scope source first p (.told d a) p') :
    Advances scope source first p (observe a) d p' := fun _ _ _ => .single step

theorem advances_note {level : Log.Level} {origin : Log.Source} {message : String} :
    Stays scope source first fs (note scope level origin message) d :=
  advances_ask fun _ => .effect

/-- What is being evaluated ends the dispatch with something that it may end it with. -/
theorem advances_halt {frame : Frame} {h : Halt} (ends : frame.Ends h) :
    Stays scope source first (frame :: fs) (halt scope h) d := by
  refine advances_get_bind ?_
  split
  · exact advances_pure
  · refine advances_modify.seq fun _ _ => ?_
    refine (advances_observe (.halting ends)).seq fun _ _ => ?_
    exact advances_note.seq fun _ _ => advances_pure

/-- A refused call ends a dispatch that has not ended. -/
theorem advances_refuse {f : Descriptor Callback} (full : callDepth fs = scope.settings.maxDepth)
    (unended : d.halted = none) :
    Advances scope source first ⟨fs, .found c f⟩ (refuse scope c) d ⟨fs, .free⟩ := by
  refine Advances.bind (advances_ask fun _ => .refusing full) (P := fun _ d' => d'.halted = none)
    (ensures_note.2 unended) fun _ d unended => ?_
  refine Advances.seq (advances_get_bind ?_) fun _ _ => advances_pure
  rw [unended]
  refine advances_modify.seq fun _ _ => ?_
  exact (advances_observe .refused).seq fun _ _ => advances_note.seq fun _ _ => advances_pure

theorem advances_unknown : Stays scope source first fs (unknown scope c) d := by
  unfold unknown
  split
  · exact advances_note.seq fun _ _ => advances_pure
  · refine Advances.seq ?_ fun _ _ => advances_pure
    exact advances_note.seq fun _ _ => advances_modify

section Routines

variable {render : List Char → Int → Evaluation Outcome} {memo : Memo} {f : Descriptor Callback}

/-- Inside a call, the command strings that may be evaluated there are. -/
def AdvancesRendering (scope : Scope) (source : List Char) (first : Int) (fs : List Frame)
    (render : List Char → Int → Evaluation Outcome) : Prop :=
  ∀ cs line d, Begins source first fs cs line → Stays scope source first fs (render cs line) d

theorem advances_argument (hrender : AdvancesRendering scope source first (.call c f :: fs) render)
    (index : Int) :
    Stays scope source first (.call c f :: fs) (argument render scope c memo index) d := by
  unfold argument
  split
  · exact advances_pure
  · exact advances_pure
  · next source line read _ =>
    refine advances_get_bind ?_
    split
    · exact advances_pure
    · refine (hrender _ _ _ (.argument read)).seq fun o _ => ?_
      cases o with
      | ok s => exact advances_pure
      | error h => exact (advances_halt .function).seq fun _ _ => advances_pure

theorem advances_abort (reason : String) (details : Option String) :
    Stays scope source first (.call c f :: fs) (abort scope c reason details) d :=
  (advances_halt .function).seq fun _ _ => advances_pure

theorem advances_noteAll (notices : List Notice) :
    Stays scope source first fs (noteAll scope notices) d := by
  induction notices generalizing d with
  | nil => exact advances_pure
  | cons n ns ih => exact advances_note.seq fun _ _ => ih

theorem advances_change (ch : Change Callback) :
    Stays scope source first fs (change scope ch) d :=
  Advances.seq (advances_ask fun _ => .change) fun _ _ =>
    (advances_noteAll _).seq fun _ _ => advances_pure

/-- A routine may do what it likes inside its call. -/
theorem advances_routine {α : Type}
    (hrender : AdvancesRendering scope source first (.call c f :: fs) render)
    (r : Routine Callback α) :
    Stays scope source first (.call c f :: fs) (routine render scope c memo r) d := by
  induction r generalizing memo d with
  | done a => exact advances_pure
  | raise e => exact advances_pure
  | argument i next ih => exact (advances_argument hrender i).seq fun _ _ => ih _
  | look next ih => exact advances_get_bind (ih _)
  | abort reason details next ih => exact (advances_abort reason details).seq fun _ _ => ih _
  | emit m topics next ih => exact advances_modify.seq fun _ _ => ih
  | «recall» key next ih => exact advances_get_bind (ih _)
  | remember key v next ih => exact advances_modify.seq fun _ _ => ih
  | change ch next ih => exact (advances_change ch).seq fun _ _ => ih _
  | effect q next ih => exact Advances.seq (advances_ask fun _ => .effect) fun _ _ => ih _

/-- A program that asks in terms of a dispatch stays where its questions stay. -/
theorem advances_lift_relay {S : Signature} {α : Type} (prog : Program S α)
    {ask : (q : S.Question) → Program Questions (S.Answer q)}
    (hask : ∀ q d, Advances scope source first p (StateT.lift (ask q)) d p) :
    Advances scope source first p (StateT.lift (prog.relay ask)) d p := by
  induction prog generalizing d with
  | done a => exact advances_pure
  | ask q next ih =>
    rw [lift_relay_ask]
    exact (hask q d).seq fun r _ => ih r

theorem advances_body (code : Value) (params : List Value) (texts : List (Option String)) :
    Stays scope source first fs (body scope code params texts) d := by
  unfold body
  cases bindings params texts with
  | error e => exact advances_pure
  | ok bound =>
    refine Advances.seq (advances_lift_relay _ fun path d => ?_) fun _ _ => advances_pure
    exact advances_ask (q := .effect scope.logged (.openFile path)) fun _ => .effect

theorem advances_scripted {name : String} {code version : Value} {params : List Value}
    (hrender : AdvancesRendering scope source first
      (.call c (.scripted name code params version) :: fs) render) :
    Stays scope source first (.call c (.scripted name code params version) :: fs)
      (scripted render scope c code params) d := by
  refine (advances_routine hrender _).seq fun a d' => advances_get_bind ?_
  obtain ⟨texts, memo⟩ := a
  split
  · exact advances_pure
  · exact advances_pure
  · refine (advances_body _ _ _).seq fun filled _ => ?_
    cases filled with
    | error e => exact advances_pure
    | ok source =>
      refine (hrender _ _ _ .body).seq fun o _ => ?_
      cases o with
      | ok s => exact advances_pure
      | error h => exact advances_pure

theorem advances_invoke (hrender : AdvancesRendering scope source first (.call c f :: fs) render) :
    Stays scope source first (.call c f :: fs) (invoke render scope c f) d := by
  cases f with
  | native _ callback _ => exact (advances_routine hrender _).seq fun _ _ => advances_pure
  | scripted _ code params _ => exact advances_scripted hrender
  | other _ => exact advances_pure

theorem advances_fail (e : Failure) :
    Stays scope source first (.call c f :: fs) (fail scope c e) d :=
  advances_note.seq fun _ _ => (advances_halt .function).seq fun _ _ => advances_pure

theorem advances_finish (reply : Except Failure Reply) :
    Stays scope source first (.call c f :: fs) (finish scope c reply) d := by
  match reply with
  | .error e => exact advances_fail e
  | .ok (.halt h) => exact (advances_halt .function).seq fun _ _ => advances_pure
  | .ok (.value v) =>
    refine advances_get_bind ?_
    split
    · exact advances_pure
    · exact advances_pure
    · exact advances_fail _

theorem advances_perform (hrender : AdvancesRendering scope source first (.call c f :: fs) render) :
    Stays scope source first (.call c f :: fs) (perform render scope c f) d :=
  (advances_invoke hrender).seq fun reply _ =>
    (advances_observe .returned).seq fun _ _ => advances_finish reply

/-- A call of a known function is entered, executed and left. -/
theorem advances_enter (hrender : AdvancesRendering scope source first (.call c f :: fs) render)
    (room : callDepth fs < scope.settings.maxDepth) :
    Advances scope source first ⟨fs, .found c f⟩ (enter render scope c f) d ⟨fs, .free⟩ := by
  refine advances_modify.seq fun _ _ => (advances_observe (.entering room)).seq fun _ _ => ?_
  refine (advances_perform hrender).seq fun o _ => advances_modify.seq fun _ _ => ?_
  exact (advances_observe .leaving).seq fun _ _ => advances_pure

end Routines

section Calls

variable {cs : List Char} {line : Int} {call : Script.Call → Evaluation Outcome}

/-- The calls of a command string stay inside it, in dispatches that have not ended. -/
def AdvancesCalling (scope : Scope) (source : List Char) (first : Int) (fs : List Frame)
    (cs : List Char) (line : Int) (call : Script.Call → Evaluation Outcome) : Prop :=
  ∀ c d, c.In cs line → d.halted = none →
    Stays scope source first (.text cs line :: fs) (call c) d

theorem advances_segments (hcall : AdvancesCalling scope source first fs cs line call)
    (known : OrderlyCalling call) {parts : List Script.Segment}
    (here : ∀ c, .call c ∈ parts → c.In cs line) (unended : d.halted = none) :
    Stays scope source first (.text cs line :: fs) (segments call parts) d := by
  induction parts generalizing d with
  | nil => exact advances_pure
  | cons part rest ih =>
    have later (d : Dispatch) := @ih d fun c mem => here c (.tail _ mem)
    cases part with
    | literal raw => exact (later d unended).seq fun _ _ => advances_pure
    | call c =>
      refine (hcall c d (here c (.head _)) unended).bind
        (Ensures.imp (known c d unended) fun _ _ _ r => r.2.2) fun o d' tells => ?_
      cases o with
      | error h => exact advances_pure
      | ok s => exact (later d' (Outcome.tells_ok.1 tells)).seq fun _ _ => advances_pure

/-- A command string that may be evaluated somewhere is, unless the dispatch has ended. -/
theorem advances_source
    (hcall : AdvancesCalling scope source first fs cs line call) (known : OrderlyCalling call)
    (begins : Begins source first fs cs line) :
    Stays scope source first fs (Evaluation.source call scope cs line) d := by
  refine advances_get_bind ?_
  split
  · exact advances_pure
  · next unended =>
    refine (advances_observe (.rendering begins)).bind (P := fun _ d' => d'.halted = none)
      (ensures_observe.2 unended) fun _ d unended => ?_
    have inside : Stays scope source first (.text cs line :: fs)
        (parsed call scope (Script.segments cs line)) d := by
      cases segmented : Script.segments cs line with
      | error e => exact (advances_halt (.malformed segmented)).seq fun _ _ => advances_pure
      | ok parts =>
        exact advances_segments hcall known (fun c mem => ⟨parts, segmented, mem⟩) unended
    exact inside.seq fun o _ => (advances_observe .rendered).seq fun _ _ => advances_pure

/-- A function is looked up for a call, and what is found for it is due. -/
theorem advances_find {β : Type} {k : Option (Descriptor Callback) → Evaluation β}
    (here : c.In cs line)
    (missing : Advances scope source first ⟨.text cs line :: fs, .free⟩ (k none) d p')
    (found : ∀ f, Advances scope source first ⟨.text cs line :: fs, .found c f⟩ (k (some f)) d p') :
    Advances scope source first ⟨.text cs line :: fs, .free⟩ (find scope c >>= k) d p' := by
  intro σ answer s
  rw [exchanges_bind]
  show Steps scope source first _ (.lookup scope c (answer s (.lookup scope c)).1 ::
    exchanges answer (answer s (.lookup scope c)).2 (k (answer s (.lookup scope c)).1) d) p'
  obtain ⟨f, s'⟩ := answer s (.lookup scope c)
  cases f with
  | none => exact .cons (.unknown here) (missing σ answer s')
  | some f => exact .cons (.found here) (found f σ answer s')

/-- A call is refused or executed, as the number of calls around it says. -/
theorem advances_call {remaining : Nat}
    (rest : callDepth fs + remaining = scope.settings.maxDepth) :
    AdvancesCalling scope source first fs cs line (Evaluation.call scope remaining) := by
  induction remaining generalizing fs cs line with
  | zero =>
    intro c d here unended
    exact advances_find here advances_unknown fun f => advances_refuse rest unended
  | succ n ih =>
    -- Whatever is evaluated on behalf of the call has one more call around it.
    intro c d here unended
    have room : callDepth (.text cs line :: fs) < scope.settings.maxDepth := by
      simp only [callDepth]
      omega
    refine advances_find here advances_unknown fun f => advances_enter ?_ room
    intro cs line d begins
    refine advances_source (ih ?_) (orderly_call n) begins
    simp only [callDepth]
    omega

/-- Evaluating a command string keeps to the steps. -/
theorem advances_render {remaining : Nat}
    (rest : callDepth fs + remaining = scope.settings.maxDepth)
    (begins : Begins source first fs cs line) :
    Stays scope source first fs (render scope remaining cs line) d :=
  advances_source (advances_call rest) (orderly_call remaining) begins

end Calls

end

end Evaluation

end CommandScript
