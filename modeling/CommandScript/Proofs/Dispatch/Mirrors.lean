import CommandScript.Proofs.Dispatch.Halting
import CommandScript.Proofs.Dispatch.Sequence

/-!
# Evaluations that mirror one another

An evaluation is mirrored by another one that asks the same questions and leaves the same dispatch,
with related results. What observers are told may differ, and where the first one ends the dispatch
nothing is said of the other. This is how two calls of a function relate that differ in what their
function does not look at.

## Main definitions

- `CommandScript.Routine.Mirrors` — routines that do the same for calls with other names and texts
- `CommandScript.Routine.Incurious` — routines that do not look at the name or the text of their
  call
- `CommandScript.Question.Suits` — functions are found, and they are incurious
- `CommandScript.Program.Mirrors`, `CommandScript.Evaluation.Mirrors` — programs and evaluations
  that mirror one another

## Main results

- `CommandScript.Program.Mirrors.run` — where the dispatch goes on, both run alike
- `CommandScript.Evaluation.Mirrors.bind` — compositions mirror one another
-/

namespace CommandScript

/-- Views of calls on the same line and with as many arguments, which may have other names and
texts. -/
structure View.Parallels (v w : View) : Prop where
  line : w.line = v.line
  count : w.arguments.length = v.arguments.length
  event : w.event = v.event
  hasStore : w.hasStore = v.hasStore
  command : w.command = v.command
  isAborted : w.isAborted = v.isAborted

namespace Routine

variable {C α β : Type}

/-- Routines that do the same for calls that may have other names and texts, until they end the
dispatch. -/
inductive Mirrors : Routine C α → Routine C α → Prop where
  | done (a : α) : Mirrors (.done a) (.done a)
  | raise (e e' : Failure) : Mirrors (.raise e) (.raise e')
  | argument (i : Int) {next next' : Option String → Routine C α}
      (rest : ∀ s, Mirrors (next s) (next' s)) : Mirrors (.argument i next) (.argument i next')
  | look {next next' : View → Routine C α}
      (rest : ∀ v w, v.Parallels w → Mirrors (next v) (next' w)) :
      Mirrors (.look next) (.look next')
  | abort (reason reason' : String) (details details' : Option String)
      (next next' : Halt → Routine C α) :
      Mirrors (.abort reason details next) (.abort reason' details' next')
  | emit (message : Value) (topics : List String) {next next' : Routine C α}
      (rest : Mirrors next next') : Mirrors (.emit message topics next) (.emit message topics next')
  | «recall» (key : String) {next next' : Option Value → Routine C α}
      (rest : ∀ v, Mirrors (next v) (next' v)) : Mirrors (.recall key next) (.recall key next')
  | remember (key : String) (v : Value) {next next' : Routine C α} (rest : Mirrors next next') :
      Mirrors (.remember key v next) (.remember key v next')
  | change (c : Change C) {next next' : Option Failure → Routine C α}
      (rest : ∀ e, Mirrors (next e) (next' e)) : Mirrors (.change c next) (.change c next')
  | effect (q : Effect) {next next' : q.Answer → Routine C α}
      (rest : ∀ r, Mirrors (next r) (next' r)) : Mirrors (.effect q next) (.effect q next')

/-- The routine does not look at the name of its call, nor at its text or those of the arguments:
it reads arguments, and it may ask how many there are. -/
def Incurious (r : Routine C α) : Prop := r.Mirrors r

theorem Mirrors.bind {r r' : Routine C α} {f f' : α → Routine C β} (first : r.Mirrors r')
    (second : ∀ a, (f a).Mirrors (f' a)) : (r >>= f).Mirrors (r' >>= f') := by
  induction first with
  | done a => exact second a
  | raise e e' => exact .raise e e'
  | argument i _ ih => exact .argument i ih
  | look _ ih => exact .look ih
  | abort reason reason' details details' next next' => exact .abort ..
  | emit m topics _ ih => exact .emit m topics ih
  | «recall» key _ ih => exact .recall key ih
  | remember key v _ ih => exact .remember key v ih
  | change c _ ih => exact .change c ih
  | effect q _ ih => exact .effect q ih

theorem incurious_arguments (count : Nat) : (arguments count : Routine C _).Incurious := by
  induction count with
  | zero => exact .done []
  | succ n ih => exact ih.bind fun before => .argument n fun s => .done _

theorem incurious_allArguments : (allArguments : Routine C _).Incurious := by
  refine Mirrors.bind (.look fun v w same => ?_) incurious_arguments
  rw [same.count]
  exact .done _

end Routine

/-- A native function is incurious if its callback is. Other functions do not see their calls. -/
def Descriptor.Incurious : Descriptor Callback → Prop
  | .native _ callback _ => callback.body.Incurious
  | .scripted .. => True
  | .other _ => True

/-- If a function is looked up, one is found, and it is incurious. -/
def Question.Suits : (q : Question) → q.Answer → Prop
  | .find _ _, f => ∃ d : Descriptor Callback, f = some d ∧ d.Incurious
  | _, _ => True

namespace Program

variable {α β : Type} {R : α → α → Prop} {Q : β → β → Prop}

/-- Programs that ask the same questions, as long as suitable functions are found, and are left with
the same dispatch and related results. They may tell observers something else. Of a program that
ends the dispatch in every run, any other is a mirror. -/
inductive Mirrors (R : α → α → Prop) :
    Program Questions (α × Dispatch) → Program Questions (α × Dispatch) → Prop where
  | done {a a' : α} (d : Dispatch) (related : R a a') : Mirrors R (.done (a, d)) (.done (a', d))
  | ask (q : Question) {next next' : q.Answer → Program Questions (α × Dispatch)}
      (rest : ∀ r, q.Suits r → Mirrors R (next r) (next' r)) :
      Mirrors R (Program.ask (S := Questions) q next) (Program.ask (S := Questions) q next')
  | observe (d d' : Dispatch) (x x' : Activity)
      {next next' : Unit → Program Questions (α × Dispatch)}
      (rest : Mirrors R (next ()) (next' ())) :
      Mirrors R (Program.ask (S := Questions) (.observe d x) next)
        (Program.ask (S := Questions) (.observe d' x') next')
  | ended {p p' : Program Questions (α × Dispatch)}
      (ends : p.Ensures fun _ r => r.2.isHalted = true) : Mirrors R p p'

theorem Mirrors.refl (related : ∀ a, R a a) (p : Program Questions (α × Dispatch)) :
    p.Mirrors R p := by
  induction p with
  | done r => exact .done r.2 (related r.1)
  | ask q next ih => exact .ask q fun r _ => ih r

theorem Mirrors.bind {p p' : Program Questions (α × Dispatch)}
    {f f' : α × Dispatch → Program Questions (β × Dispatch)} (first : p.Mirrors R p')
    (second : ∀ a a' d, R a a' → (f (a, d)).Mirrors Q (f' (a', d)))
    (lasts : ∀ a d, d.isHalted = true → (f (a, d)).Ensures fun _ r => r.2.isHalted = true) :
    (p >>= f).Mirrors Q (p' >>= f') := by
  induction first with
  | done d related => exact second _ _ d related
  | ask q _ ih => exact .ask q ih
  | observe d d' x x' _ ih => exact .observe d d' x x' ih
  | ended ends => exact .ended (ensures_bind.2 (ends.imp fun _ r ended => lasts r.1 r.2 ended))

/-- Where the dispatch goes on, both programs run alike, except for what observers are told. -/
theorem Mirrors.run {p p' : Program Questions (α × Dispatch)} (mirrors : p.Mirrors R p') {σ : Type}
    {answer : σ → (q : Question) → q.Answer × σ} (deaf : Evaluation.Deaf answer) (s : σ)
    (suits : ∀ x ∈ Program.exchanges (S := Questions) answer s p, Question.Suits x.1 x.2)
    (unended : (Program.run (S := Questions) answer s p).1.2.halted = none) :
    ∃ a', R (Program.run (S := Questions) answer s p).1.1 a' ∧
      Program.run (S := Questions) answer s p' =
        ((a', (Program.run (S := Questions) answer s p).1.2),
          (Program.run (S := Questions) answer s p).2) := by
  induction mirrors generalizing s with
  | done d related => exact ⟨_, related, rfl⟩
  | ask q _ ih =>
    obtain ⟨first, later⟩ := List.forall_mem_cons.1 suits
    exact ih _ first _ later unended
  | observe d d' x x' _ ih =>
    have told (d : Dispatch) (x : Activity) (next : Unit → Program Questions (α × Dispatch)) :
        Program.run (S := Questions) answer s
          (Program.ask (S := Questions) (.observe d x) next) =
        Program.run (S := Questions) answer s (next ()) :=
      congrArg (Program.run (S := Questions) answer · (next ())) (deaf s d x)
    obtain ⟨-, later⟩ := List.forall_mem_cons.1 suits
    rw [deaf] at later
    rw [told] at unended
    rw [told, told]
    exact ih s later unended
  | ended ends =>
    have ended := ends.run answer s
    rw [Dispatch.isHalted, unended] at ended
    cases ended

end Program

namespace Evaluation

open Script

variable {α β : Type} {R : α → α → Prop} {Q : β → β → Prop} {e e' : Evaluation α}
  {f f' : α → Evaluation β}

/-- A dispatch that has ended stays so. -/
def Lasts (e : Evaluation α) : Prop :=
  ∀ d : Dispatch, d.isHalted = true → e.Ensures d fun _ _ d' => d'.isHalted = true

/-- The dispatch ends, whatever happens. -/
def Ends (e : Evaluation α) : Prop :=
  ∀ d : Dispatch, e.Ensures d fun _ _ d' => d'.isHalted = true

/-- Evaluations that mirror one another from every dispatch on. In one that has ended this says that
it stays so. -/
structure Mirrors (R : α → α → Prop) (e e' : Evaluation α) : Prop where
  lasts : e.Lasts
  mirrors : ∀ d, Program.Mirrors R (e d) (e' d)

theorem Lasts.of_orderly {post : α → Dispatch → Prop} (h : ∀ d, e.Orderly d post) : e.Lasts := by
  intro d ended
  obtain ⟨first, halted⟩ := Option.isSome_iff_exists.1 ended
  refine Ensures.imp (h d) fun qs a d' left => ?_
  exact Option.isSome_iff_exists.2 ⟨first, (left.1.of_halted halted).1⟩

theorem Mirrors.of_lasts (lasts : e.Lasts) : Mirrors Eq e e :=
  ⟨lasts, fun d => .refl (fun _ => rfl) (e d)⟩

theorem Mirrors.of_orderly {post : α → Dispatch → Prop} (h : ∀ d, e.Orderly d post) :
    Mirrors Eq e e := .of_lasts (.of_orderly h)

theorem Ends.bind (first : e.Ends) (later : ∀ a, (f a).Lasts) : (e >>= f).Ends := fun d =>
  ensures_bind.2 ((first d).imp fun _ a d' ended => later a d' ended)

theorem Ends.after (later : ∀ a, (f a).Ends) : (e >>= f).Ends := fun _ =>
  ensures_bind.2 (Program.Ensures.of_forall fun _ r => later r.1 r.2)

theorem ends_halt (scope : Scope) (h : Halt) : (halt scope h).Ends := fun _ =>
  Ensures.imp (orderly_halt h) fun _ first _ left =>
    Option.isSome_iff_exists.2 ⟨first, left.2.2⟩

theorem ends_halt_map {scope : Scope} {h : Halt} {g : Halt → β} :
    (halt scope h >>= fun first => pure (g first)).Ends :=
  (ends_halt scope h).bind fun _ _ ended => ensures_pure.2 ended

/-- Of an evaluation that ends the dispatch, any other is a mirror. -/
theorem Mirrors.of_ends (ends : e.Ends) : Mirrors R e e' :=
  ⟨fun d _ => ends d, fun d => .ended (ends d)⟩

/-- Compositions mirror one another if their parts do. -/
theorem Mirrors.bind (first : Mirrors R e e') (related : ∀ a, R a a)
    (second : ∀ a a', R a a' → Mirrors Q (f a) (f' a')) : Mirrors Q (e >>= f) (e' >>= f') where
  lasts d ended := ensures_bind.2 <|
    (first.lasts d ended).imp fun _ a d' ended => (second a a (related a)).lasts d' ended
  mirrors d := Program.Mirrors.bind (first.mirrors d)
    (fun a a' d' same => (second a a' same).mirrors d')
    fun a d' ended => (second a a (related a)).lasts d' ended

/-- After steps with the same result, what follows is mirrored. -/
theorem Mirrors.seq (first : Mirrors Eq e e') (second : ∀ a, Mirrors Q (f a) (f' a)) :
    Mirrors Q (e >>= f) (e' >>= f') := by
  refine first.bind (fun _ => rfl) fun a a' same => ?_
  rw [same]
  exact second a'

theorem mirrors_pure {a a' : α} (related : R a a') :
    Mirrors R (pure a : Evaluation α) (pure a' : Evaluation α) :=
  ⟨fun _ ended => ensures_pure.2 ended, fun d => .done d related⟩

theorem mirrors_get : Mirrors Eq (get : Evaluation Dispatch) get :=
  .of_lasts fun _ ended => ensures_get.2 ended

theorem mirrors_modify {g : Dispatch → Dispatch} (same : ∀ d, (g d).halted = d.halted) :
    Mirrors Eq (modify g : Evaluation PUnit) (modify g) :=
  .of_lasts fun d ended => ensures_modify.2 (by rw [Dispatch.isHalted, same]; exact ended)

theorem mirrors_modify_bind {f f' : PUnit → Evaluation β} {g : Dispatch → Dispatch}
    (same : ∀ d, (g d).halted = d.halted) (second : ∀ a, Mirrors Q (f a) (f' a)) :
    Mirrors Q ((modify g : Evaluation PUnit) >>= f) ((modify g : Evaluation PUnit) >>= f') :=
  (mirrors_modify same).seq second

theorem mirrors_ask (q : Question) : Mirrors Eq (ask q) (ask q) :=
  .of_lasts fun _ ended => ensures_ask.2 fun _ => ended

theorem mirrors_note (scope : Scope) (level : Log.Level) (source : Log.Source) (message : String) :
    Mirrors Eq (note scope level source message) (note scope level source message) :=
  mirrors_ask (.effect scope.logged (.log ⟨level, source, message⟩))

/-- Observers may be told something else. -/
theorem mirrors_observe (x x' : Activity) : Mirrors Eq (observe x) (observe x') :=
  ⟨fun _ ended => ensures_observe.2 ended, fun d => .observe d d x x' (.done d rfl)⟩

end Evaluation

end CommandScript
