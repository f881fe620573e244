import CommandScript.Interpreter
import CommandScript.Proofs.Dispatch.Course

/-!
# Dispatches beside different registries

Whichever registry a dispatch asks for functions, it asks the same and does the same with the same
answers: the reference of the registry only stands in the questions that go to it. A command string
that brings functions of its own creates a registry, whose reference depends on how many there were
before; all that follows is the same but for that reference.

## Main definitions

- `CommandScript.Program.Twins` — programs that ask the same, each of a registry of its own
- `CommandScript.Program.Siblings` — programs that may create these registries first
- `CommandScript.Evaluation.Uniform` — computations that are twins, whichever registry they ask

## Main results

- `CommandScript.Evaluation.uniform_render` — evaluating a command string is uniform
- `CommandScript.Interpreter.siblings_handle` — handling a command string is the same wherever it
  takes place
-/

namespace CommandScript

/-- Whether a question goes to no registry. -/
def Question.isUnplaced : Question → Bool
  | .find .. => false
  | .change .. => false
  | .layer .. => false
  | _ => true

namespace Program

variable {α β : Type} {h h' : Handle}

/-- Programs that ask the same questions, each of a registry of its own, and do the same with the
same answers. -/
inductive Twins (h h' : Handle) : Program Questions α → Program Questions α → Prop where
  | done (a : α) : Twins h h' (.done a) (.done a)
  | find (key : String) {next next' : Option (Descriptor Callback) → Program Questions α}
      (rest : ∀ r, Twins h h' (next r) (next' r)) :
      Twins h h' (.ask (.find h key) next) (.ask (.find h' key) next')
  | change (c : Change Callback)
      {next next' : List Notice × Option Failure → Program Questions α}
      (rest : ∀ r, Twins h h' (next r) (next' r)) :
      Twins h h' (.ask (.change h c) next) (.ask (.change h' c) next')
  | other {q : Question} (unplaced : q.isUnplaced = true)
      {next next' : q.Answer → Program Questions α} (rest : ∀ r, Twins h h' (next r) (next' r)) :
      Twins h h' (.ask q next) (.ask q next')

/-- Compositions of twins are twins. -/
theorem Twins.bind {p p' : Program Questions α} {f f' : α → Program Questions β}
    (first : p.Twins h h' p') (second : ∀ a, (f a).Twins h h' (f' a)) :
    (p >>= f).Twins h h' (p' >>= f') := by
  induction first with
  | done a => exact second a
  | find key _ ih => exact .find key ih
  | change c _ ih => exact .change c ih
  | other unplaced _ ih => exact .other unplaced ih

/-- Programs that are twins, or that first create a registry each over the same one. Where that is
refused they ask no other, and where it is not they are twins that ask the new registries. -/
inductive Siblings : Handle → Handle → Program Questions α → Program Questions α → Prop where
  | twins {h h' : Handle} {p p' : Program Questions α} (same : p.Twins h h' p') :
      Siblings h h' p p'
  | layer (base : Handle) (ds : List (Draft Callback))
      {next next' : Except Failure Handle → Program Questions α}
      (refused : ∀ e, (next (.error e)).Twins base base (next' (.error e)))
      (layered : ∀ h h', (next (.ok h)).Twins h h' (next' (.ok h'))) :
      Siblings base base (.ask (.layer base ds) next) (.ask (.layer base ds) next')

end Program

namespace Scope

/-- What stays the same during a dispatch, with another registry. -/
def among (scope : Scope) (h : Handle) : Scope := { scope with functions := h }

variable (scope : Scope) (h : Handle)

@[simp] theorem among_settings : (scope.among h).settings = scope.settings := rfl

@[simp] theorem among_command : (scope.among h).command = scope.command := rfl

@[simp] theorem among_logged : (scope.among h).logged = scope.logged := rfl

end Scope

namespace Evaluation

variable {α β : Type} {scope : Scope} {c : Script.Call} {d : Dispatch}

/-- From a dispatch on, computations that differ in the registry that they ask are twins. -/
def Uniform (e : Handle → Evaluation α) (d : Dispatch) : Prop :=
  ∀ h h', Program.Twins h h' (e h d) (e h' d)

theorem Uniform.bind {e : Handle → Evaluation α} {f : Handle → α → Evaluation β}
    (first : Uniform e d) (second : ∀ a d', Uniform (fun h => f h a) d') :
    Uniform (fun h => e h >>= f h) d :=
  fun h h' => (first h h').bind fun r => second r.1 r.2 h h'

theorem uniform_pure {a : α} : Uniform (fun _ => pure a) d := fun _ _ => .done (a, d)

theorem uniform_ite {p : Prop} [Decidable p] {e e' : Handle → Evaluation α} (yes : Uniform e d)
    (no : Uniform e' d) : Uniform (fun h => if p then e h else e' h) d := by
  by_cases holds : p
  · simpa only [if_pos holds] using yes
  · simpa only [if_neg holds] using no

theorem uniform_get_bind {f : Handle → Dispatch → Evaluation β} (rest : Uniform (f · d) d) :
    Uniform (fun h => get >>= f h) d := rest

theorem uniform_modify {g : Dispatch → Dispatch} : Uniform (fun _ => modify g) d :=
  fun _ _ => .done ((), g d)

theorem uniform_ask {q : Question} (unplaced : q.isUnplaced = true) :
    Uniform (fun _ => ask q) d :=
  fun _ _ => .other unplaced fun r => .done (r, d)

theorem uniform_observe {a : Activity} : Uniform (fun _ => observe a) d :=
  uniform_get_bind (uniform_ask rfl)

theorem uniform_note {level : Log.Level} {source : Log.Source} {message : String} :
    Uniform (fun h => note (scope.among h) level source message) d :=
  uniform_ask (q := .effect scope.logged (.log ⟨level, source, message⟩)) rfl

theorem uniform_find : Uniform (fun h => find (scope.among h) c) d :=
  fun _ _ => .find _ fun r => .done (r, d)

theorem uniform_halt (x : Halt) : Uniform (fun h => halt (scope.among h) x) d := by
  unfold halt
  refine uniform_get_bind ?_
  cases d.halted with
  | some first => exact uniform_pure
  | none =>
    simp only [Scope.among_command]
    refine uniform_modify.bind fun _ _ => uniform_observe.bind fun _ _ => ?_
    exact uniform_note.bind fun _ _ => uniform_pure

theorem uniform_report (function diagnostic : String) :
    Uniform (fun h => report (scope.among h) function diagnostic) d := by
  unfold report
  simp only [Scope.among_command]
  exact uniform_note.bind fun _ _ => uniform_modify

theorem uniform_noteAll (notices : List Notice) :
    Uniform (fun h => noteAll (scope.among h) notices) d := by
  induction notices generalizing d with
  | nil => exact uniform_pure
  | cons n ns ih => exact uniform_note.bind fun _ _ => ih

theorem uniform_change (ch : Change Callback) :
    Uniform (fun h => change (scope.among h) ch) d := by
  have asked : Uniform (fun h => ask (.change h ch)) d :=
    fun _ _ => .change ch fun r => .done (r, d)
  exact asked.bind fun _ _ => (uniform_noteAll _).bind fun _ _ => uniform_pure

section Routines

variable {render : Handle → List Char → Int → Evaluation Outcome} {memo : Memo}

/-- Command strings are evaluated in the same way, whichever registry is asked. -/
def UniformRendering (render : Handle → List Char → Int → Evaluation Outcome) : Prop :=
  ∀ cs line d, Uniform (fun h => render h cs line) d

theorem uniform_argument (hrender : UniformRendering render) (index : Int) :
    Uniform (fun h => argument (render h) (scope.among h) c memo index) d := by
  unfold argument
  cases c.argumentAt? index with
  | none => exact uniform_pure
  | some place =>
    cases memo.lookup index.toNat with
    | some s => exact uniform_pure
    | none =>
      refine uniform_get_bind ?_
      cases d.isHalted with
      | true => exact uniform_pure
      | false =>
        refine (hrender _ _ d).bind fun o d' => ?_
        cases o with
        | ok s => exact uniform_pure
        | error x => exact (uniform_halt x).bind fun _ _ => uniform_pure

theorem uniform_abort (reason : String) (details : Option String) :
    Uniform (fun h => abort (scope.among h) c reason details) d :=
  (uniform_halt _).bind fun _ _ => uniform_pure

/-- A routine does the same, whichever registry is asked while it runs. -/
theorem uniform_routine {α : Type} (hrender : UniformRendering render) (r : Routine Callback α) :
    Uniform (fun h => routine (render h) (scope.among h) c memo r) d := by
  induction r generalizing memo d with
  | done a => exact uniform_pure
  | raise e => exact uniform_pure
  | argument i next ih => exact (uniform_argument hrender i).bind fun _ _ => ih _
  | look next ih =>
    exact uniform_get_bind (ih ⟨c.shownName, c.line, c.raw, c.arguments, scope.event,
      scope.hasStore, scope.command, d.isHalted⟩)
  | abort reason details next ih => exact (uniform_abort reason details).bind fun _ _ => ih _
  | emit m topics next ih => exact uniform_modify.bind fun _ _ => ih
  | «recall» key next ih => exact uniform_get_bind (ih _)
  | remember key v next ih => exact uniform_modify.bind fun _ _ => ih
  | change ch next ih => exact (uniform_change ch).bind fun _ _ => ih _
  | effect q next ih =>
    exact (uniform_ask (q := .effect scope.logged q) rfl).bind fun _ _ => ih _

/-- A program that asks in terms of a dispatch does not ask registries. -/
theorem uniform_lift_relay {S : Signature} {α : Type} (p : Program S α)
    {ask : (q : S.Question) → Program Questions (S.Answer q)}
    (hask : ∀ q d, Uniform (fun _ => StateT.lift (ask q)) d) :
    Uniform (fun _ => StateT.lift (p.relay ask)) d := by
  induction p generalizing d with
  | done a => exact uniform_pure
  | ask q next ih =>
    rw [lift_relay_ask]
    exact (hask q d).bind fun r _ => ih r

theorem uniform_body (code : Value) (params : List Value) (texts : List (Option String)) :
    Uniform (fun h => body (scope.among h) code params texts) d := by
  unfold body
  simp only [Scope.among_logged]
  cases bindings params texts with
  | error e => exact uniform_pure
  | ok bound =>
    refine (uniform_lift_relay _ fun path d => ?_).bind fun _ _ => uniform_pure
    exact uniform_ask (q := .effect scope.logged (.openFile path)) rfl

theorem uniform_scripted (hrender : UniformRendering render) (code : Value) (params : List Value) :
    Uniform (fun h => scripted (render h) (scope.among h) c code params) d := by
  refine (uniform_routine hrender _).bind fun a d => uniform_get_bind ?_
  obtain ⟨texts, memo⟩ := a
  cases d.halted with
  | some x => exact uniform_pure
  | none =>
    cases texts with
    | error e => exact uniform_pure
    | ok texts =>
      refine (uniform_body _ _ _).bind fun filled _ => ?_
      cases filled with
      | error e => exact uniform_pure
      | ok source =>
        refine (hrender _ _ _).bind fun o _ => ?_
        cases o with
        | ok s => exact uniform_pure
        | error x => exact uniform_pure

theorem uniform_invoke (hrender : UniformRendering render) (f : Descriptor Callback) :
    Uniform (fun h => invoke (render h) (scope.among h) c f) d := by
  cases f with
  | native _ callback _ => exact (uniform_routine hrender _).bind fun _ _ => uniform_pure
  | scripted _ code params _ => exact uniform_scripted hrender code params
  | other _ => exact uniform_pure

theorem uniform_fail (e : Failure) : Uniform (fun h => fail (scope.among h) c e) d :=
  uniform_note.bind fun _ _ => (uniform_halt _).bind fun _ _ => uniform_pure

theorem uniform_finish (reply : Except Failure Reply) :
    Uniform (fun h => finish (scope.among h) c reply) d := by
  match reply with
  | .error e => exact uniform_fail e
  | .ok (.halt x) => exact (uniform_halt x).bind fun _ _ => uniform_pure
  | .ok (.value v) =>
    refine uniform_get_bind ?_
    cases d.halted with
    | some x => exact uniform_pure
    | none =>
      cases v.printed with
      | ok s => exact uniform_pure
      | error e => exact uniform_fail _

theorem uniform_perform (hrender : UniformRendering render) (f : Descriptor Callback) :
    Uniform (fun h => perform (render h) (scope.among h) c f) d :=
  (uniform_invoke hrender f).bind fun _ _ => uniform_observe.bind fun _ _ => uniform_finish _

theorem uniform_enter (hrender : UniformRendering render) (f : Descriptor Callback) :
    Uniform (fun h => enter (render h) (scope.among h) c f) d := by
  refine uniform_modify.bind fun _ _ => uniform_observe.bind fun _ _ => ?_
  refine (uniform_perform hrender f).bind fun o _ => uniform_modify.bind fun _ _ => ?_
  exact uniform_observe.bind fun _ _ => uniform_pure

end Routines

theorem uniform_refuse : Uniform (fun h => refuse (scope.among h) c) d := by
  unfold refuse
  simp only [Scope.among_settings]
  exact uniform_note.bind fun _ _ => (uniform_halt _).bind fun _ _ => uniform_pure

theorem uniform_unknown : Uniform (fun h => unknown (scope.among h) c) d := by
  unfold unknown
  refine uniform_ite (p := scope.settings.textErrors = true) ?_ ?_
  · exact uniform_note.bind fun _ _ => uniform_pure
  · exact (uniform_report _ _).bind fun _ _ => uniform_pure

/-- Calls are evaluated in the same way, whichever registry is asked. -/
def UniformCalling (call : Handle → Script.Call → Evaluation Outcome) : Prop :=
  ∀ c d, Uniform (fun h => call h c) d

theorem uniform_segments {call : Handle → Script.Call → Evaluation Outcome}
    (hcall : UniformCalling call) (parts : List Script.Segment) :
    Uniform (fun h => segments (call h) parts) d := by
  induction parts generalizing d with
  | nil => exact uniform_pure
  | cons part rest ih =>
    cases part with
    | literal raw => exact ih.bind fun _ _ => uniform_pure
    | call c =>
      refine (hcall c d).bind fun o _ => ?_
      cases o with
      | error x => exact uniform_pure
      | ok s => exact ih.bind fun _ _ => uniform_pure

theorem uniform_source {call : Handle → Script.Call → Evaluation Outcome}
    (hcall : UniformCalling call) :
    UniformRendering (fun h => source (call h) (scope.among h)) := by
  intro cs line d
  refine uniform_get_bind ?_
  cases d.halted with
  | some x => exact uniform_pure
  | none =>
    have parsed (d : Dispatch) :
        Uniform (fun h => parsed (call h) (scope.among h) (Script.segments cs line)) d := by
      cases Script.segments cs line with
      | error e => exact (uniform_halt _).bind fun _ _ => uniform_pure
      | ok parts => exact uniform_segments hcall parts
    refine uniform_observe.bind fun _ _ => (parsed _).bind fun _ _ => ?_
    exact uniform_observe.bind fun _ _ => uniform_pure

theorem uniform_call (remaining : Nat) :
    UniformCalling (fun h => call (scope.among h) remaining) := by
  induction remaining with
  | zero =>
    intro c d
    refine uniform_find.bind fun f _ => ?_
    cases f with
    | none => exact uniform_unknown
    | some f => exact uniform_refuse
  | succ n ih =>
    intro c d
    refine uniform_find.bind fun f _ => ?_
    cases f with
    | none => exact uniform_unknown
    | some f => exact uniform_enter (uniform_source ih) f

/-- **Evaluating a command string is the same, whichever registry is asked for functions.** -/
theorem uniform_render (remaining : Nat) :
    UniformRendering (fun h => render (scope.among h) remaining) :=
  uniform_source (uniform_call remaining)

end Evaluation

namespace Interpreter

open Evaluation

variable {scope : Scope} {d : Dispatch}

theorem uniform_route (function diagnostic : String) :
    Uniform (fun h => route (scope.among h) function diagnostic) d := by
  unfold route
  refine uniform_ite (p := scope.settings.textErrors = true) ?_ ?_
  · exact uniform_pure
  · exact (uniform_report _ _).bind fun _ _ => uniform_pure

theorem uniform_conclude (o : Outcome) : Uniform (fun h => conclude (scope.among h) o) d := by
  match o with
  | .ok text => exact uniform_get_bind uniform_pure
  | .error (.aborted reason diagnostic function) =>
    refine Uniform.bind ?_ fun _ _ => uniform_pure
    cases diagnostic with
    | none => exact uniform_get_bind uniform_pure
    | some text => exact (uniform_route _ _).bind fun _ _ => uniform_get_bind uniform_pure
  | .error (.fault e function traced) =>
    cases kind : e.isParse with
    | true =>
      obtain ⟨e, rfl⟩ := Failure.exists_of_isParse kind
      refine Uniform.bind ?_ fun _ _ => uniform_pure
      show Uniform (fun h => malformed (scope.among h) e) d
      unfold malformed
      simp only [Scope.among_command]
      refine uniform_note.bind fun _ _ => (uniform_route _ _).bind fun _ _ => ?_
      exact uniform_get_bind uniform_pure
    | false =>
      simp only [conclude_fault kind]
      unfold failed
      cases e.message with
      | error cause => exact uniform_pure
      | ok wording => exact uniform_get_bind uniform_pure

theorem uniform_notify (diagnostic : SideEffect) (listeners : List String) :
    Uniform (fun _ => notify diagnostic listeners) d := by
  induction listeners generalizing d with
  | nil => exact uniform_pure
  | cons l ls ih => exact (uniform_ask rfl).bind fun _ _ => ih

theorem uniform_notifyAll (listeners : List String) (diagnostics : List SideEffect) :
    Uniform (fun _ => notifyAll listeners diagnostics) d := by
  induction diagnostics generalizing d with
  | nil => exact uniform_pure
  | cons s rest ih => exact (uniform_notify s listeners).bind fun _ _ => ih

theorem uniform_tell (listeners : List String) (a : Except Failure Result) :
    Uniform (fun h => tell (scope.among h) listeners a) d := by
  cases a with
  | error e => exact uniform_pure
  | ok r =>
    exact (uniform_notifyAll _ _).bind fun _ _ => uniform_note.bind fun _ _ => uniform_pure

theorem uniform_dispatch (listeners : List String) (source : List Char) :
    Uniform (fun h => dispatch (scope.among h) listeners source) d := by
  unfold dispatch
  simp only [Scope.among_settings]
  refine uniform_note.bind fun _ d => ?_
  refine (uniform_render scope.settings.maxDepth source 1 d).bind fun o _ => ?_
  exact (uniform_conclude o).bind fun a _ => uniform_tell listeners a

/-- Evaluating a command string and concluding is the same, whichever registry is asked. -/
theorem twins_run (i : Interpreter) (v : Invocation) (h h' : Handle) :
    (i.run h v).Twins h h' (i.run h' v) := by
  have dispatched : Uniform (fun h => dispatch ((i.scope 0 v).among h) i.listeners v.source)
      .start := uniform_dispatch _ _
  exact (dispatched h h').bind fun r => .done r.1

/-- **What comes of a command string does not depend on which registry is created for it.** -/
theorem siblings_handle (i : Interpreter) (v : Invocation) :
    (i.handle v).Siblings i.functions i.functions (i.handle v) := by
  unfold handle
  split
  · exact .twins (twins_run i v _ _)
  · exact .layer i.functions v.functions (fun e => .done (Except.error e)) (twins_run i v)

end Interpreter

end CommandScript
