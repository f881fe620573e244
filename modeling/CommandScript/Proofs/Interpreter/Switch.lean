import CommandScript.Proofs.Interpreter.Diagnostics
import CommandScript.World

/-!
# Showing diagnostics or keeping them apart

Whether diagnostics go into the output is asked at two places only: where a call of an unknown
function is evaluated, and where the result of a dispatch is made. As long as no function is looked
up in vain, a dispatch that shows diagnostics and one that keeps them apart are the same up to the
end of the evaluation. Their results differ by the diagnostic of that end; where the end cannot be
put into words, neither of them has a result.

## Main definitions

- `CommandScript.Program.SameWhile` — programs that are the same while answers meet a condition
- `CommandScript.Scope.showing`, `CommandScript.Interpreter.showing` — with diagnostics in the
  output or apart from it
- `CommandScript.Result.Moves` — results that differ in where the diagnostic of the end is

## Main results

- `CommandScript.Evaluation.same_render` — evaluation does not ask where diagnostics go, as long as
  no function is looked up in vain
- `CommandScript.Interpreter.switch_moves_diagnostics` — nothing but diagnostics is moved
-/

namespace CommandScript

namespace Program

variable {S : Signature} {α β : Type} {P : (q : S.Question) → S.Answer q → Prop}

/-- Programs that ask the same, and do the same with the same answers while these meet a
condition. -/
inductive SameWhile (P : (q : S.Question) → S.Answer q → Prop) :
    Program S α → Program S α → Prop where
  | done (a : α) : SameWhile P (.done a) (.done a)
  | ask (q : S.Question) {next next' : S.Answer q → Program S α}
      (rest : ∀ r, P q r → SameWhile P (next r) (next' r)) :
      SameWhile P (.ask q next) (.ask q next')

theorem SameWhile.refl (p : Program S α) : p.SameWhile P p := by
  induction p with
  | done a => exact .done a
  | ask q next ih => exact .ask q fun r _ => ih r

theorem SameWhile.bind {p p' : Program S α} {f f' : α → Program S β} (first : p.SameWhile P p')
    (second : ∀ a, (f a).SameWhile P (f' a)) : (p >>= f).SameWhile P (p' >>= f') := by
  induction first with
  | done a => exact second a
  | ask q _ ih => exact .ask q ih

/-- Among surroundings whose answers meet the condition, nothing tells the programs apart. -/
theorem SameWhile.run {p p' : Program S α} (same : p.SameWhile P p') {σ : Type}
    (answer : σ → (q : S.Question) → S.Answer q × σ) (s : σ)
    (met : ∀ x ∈ p.exchanges answer s, P x.1 x.2) :
    p'.run answer s = p.run answer s ∧ p'.exchanges answer s = p.exchanges answer s := by
  induction same generalizing s with
  | done a => exact ⟨rfl, rfl⟩
  | ask q _ ih =>
    obtain ⟨first, later⟩ := List.forall_mem_cons.1 met
    obtain ⟨run, exchanges⟩ := ih _ first _ later
    exact ⟨run, congrArg (_ :: ·) exchanges⟩

end Program

/-- Whether an answer is not that there is no function under a key. -/
def Question.finds : (q : Question) → q.Answer → Bool
  | .find _ _, f => Option.isSome (α := Descriptor Callback) f
  | _, _ => true

/-- The same dispatch with diagnostics in the output, or apart from it. -/
def Scope.showing (scope : Scope) (shown : Bool) : Scope :=
  { scope with settings := { scope.settings with textErrors := shown } }

namespace Evaluation

variable {α β : Type} {scope : Scope} {c : Script.Call} {d : Dispatch} {memo : Memo} {shown : Bool}

/-- Computations that are the same from a dispatch on while functions are found. -/
def Same (e e' : Evaluation α) (d : Dispatch) : Prop :=
  Program.SameWhile (S := Questions) (Question.finds · ·) (e d) (e' d)

theorem Same.refl (e : Evaluation α) (d : Dispatch) : Same e e d := Program.SameWhile.refl _

theorem Same.bind {e e' : Evaluation α} {f f' : α → Evaluation β} (first : Same e e' d)
    (second : ∀ a d', Same (f a) (f' a) d') : Same (e >>= f) (e' >>= f') d :=
  Program.SameWhile.bind first fun r => second r.1 r.2

/-- Command strings are evaluated in the same way while functions are found. -/
def SameRendering (render render' : List Char → Int → Evaluation Outcome) : Prop :=
  ∀ cs line d, Same (render cs line) (render' cs line) d

section Routines

variable {render render' : List Char → Int → Evaluation Outcome}

theorem same_argument (same : SameRendering render render') (index : Int) :
    Same (argument render scope c memo index) (argument render' (scope.showing shown) c memo index)
      d := by
  unfold argument
  cases c.argumentAt? index with
  | none => exact .refl _ d
  | some place =>
    cases memo.lookup index.toNat with
    | some s => exact .refl _ d
    | none =>
      refine Same.bind (.refl get d) fun d' d => ?_
      cases d'.isHalted with
      | true => exact .refl _ d
      | false => exact (same _ _ d).bind fun o d' => .refl _ d'

theorem same_noteAll (notices : List Notice) :
    Same (noteAll scope notices) (noteAll (scope.showing shown) notices) d := by
  induction notices generalizing d with
  | nil => exact .refl _ d
  | cons n ns ih => exact Same.bind (.refl (note scope .debug .registry n.message) d) fun _ _ => ih

theorem same_routine (same : SameRendering render render') (r : Routine Callback α) :
    Same (routine render scope c memo r) (routine render' (scope.showing shown) c memo r) d := by
  -- A step that evaluates no command string does not read the setting, so both sides are the same
  -- by definition.
  induction r generalizing memo d with
  | done a => exact .refl _ d
  | raise e => exact .refl _ d
  | argument i next ih => exact (same_argument same i).bind fun a _ => ih a.1
  | look next ih => exact Same.bind (.refl (view scope c) d) fun v _ => ih v
  | abort reason details next ih =>
    exact Same.bind (.refl (abort scope c reason details) d) fun h _ => ih h
  | emit m topics next ih => exact Same.bind (.refl (emit m topics) d) fun _ _ => ih
  | «recall» key next ih => exact Same.bind (.refl get d) fun d' _ => ih (d'.cache.get? key)
  | remember key v next ih => exact Same.bind (.refl (modify _) d) fun _ _ => ih
  | change ch next ih =>
    refine Same.bind ?_ fun e _ => ih e
    refine Same.bind (.refl (ask (.change scope.functions ch)) d) fun r _ => ?_
    exact (same_noteAll r.1).bind fun _ d => .refl _ d
  | effect q next ih =>
    exact Same.bind (.refl (ask (.effect scope.logged q)) d) fun r _ => ih r

theorem same_scripted (same : SameRendering render render') (code : Value) (params : List Value) :
    Same (scripted render scope c code params)
      (scripted render' (scope.showing shown) c code params) d := by
  refine (same_routine same _).bind fun a d => Same.bind (.refl get d) fun d' d => ?_
  obtain ⟨texts, memo⟩ := a
  cases d'.halted with
  | some h => exact .refl _ d
  | none =>
    cases texts with
    | error e => exact .refl _ d
    | ok texts =>
      refine Same.bind (.refl (body scope code params texts) d) fun filled d => ?_
      cases filled with
      | error e => exact .refl _ d
      | ok source => exact (same _ _ d).bind fun o d => .refl _ d

theorem same_invoke (same : SameRendering render render') (f : Descriptor Callback) :
    Same (invoke render scope c f) (invoke render' (scope.showing shown) c f) d := by
  cases f with
  | native _ callback _ => exact (same_routine same _).bind fun _ d => .refl _ d
  | scripted _ code params _ => exact same_scripted same code params
  | other _ => exact .refl _ d

theorem same_enter (same : SameRendering render render') (f : Descriptor Callback) :
    Same (enter render scope c f) (enter render' (scope.showing shown) c f) d := by
  refine Same.bind (.refl (modify _) d) fun _ d => Same.bind (.refl (observe _) d) fun _ d => ?_
  refine Same.bind (Same.bind (same_invoke same f) fun reply d => ?_) fun _ d => .refl _ d
  exact .refl (do observe (.returned c reply); finish scope c reply) d

end Routines

section Sources

variable {call call' : Script.Call → Evaluation Outcome}

theorem same_segments (same : ∀ c d, Same (call c) (call' c) d) (parts : List Script.Segment) :
    Same (segments call parts) (segments call' parts) d := by
  induction parts generalizing d with
  | nil => exact .refl _ d
  | cons part rest ih =>
    cases part with
    | literal raw => exact ih.bind fun _ d => .refl _ d
    | call c =>
      refine (same c d).bind fun o d => ?_
      cases o with
      | error h => exact .refl _ d
      | ok s => exact ih.bind fun _ d => .refl _ d

theorem same_source (same : ∀ c d, Same (call c) (call' c) d) :
    SameRendering (source call scope) (source call' (scope.showing shown)) := by
  intro cs line d
  refine Same.bind (.refl get d) fun d' d => ?_
  cases d'.halted with
  | some h => exact .refl _ d
  | none =>
    refine Same.bind (.refl (observe _) d) fun _ d => Same.bind ?_ fun o d => .refl _ d
    cases Script.segments cs line with
    | error e => exact .refl (parsed call scope (.error e)) d
    | ok parts => exact same_segments same parts

end Sources

theorem same_call (remaining : Nat) (c : Script.Call) (d : Dispatch) :
    Same (call scope remaining c) (call (scope.showing shown) remaining c) d := by
  induction remaining generalizing c d with
  | zero =>
    refine .ask _ fun f found => ?_
    cases f with
    | none => cases found
    | some f => exact .refl (refuse scope c d)
  | succ n ih =>
    refine .ask _ fun f found => ?_
    cases f with
    | none => cases found
    | some f => exact same_enter (same_source ih) f

/-- **Evaluation does not ask where diagnostics go**, as long as no function is looked up in
vain. -/
theorem same_render (remaining : Nat) :
    SameRendering (render scope remaining) (render (scope.showing shown) remaining) :=
  same_source (same_call remaining)

end Evaluation

/-- What an observer is told, and how the dispatch stands at that moment. -/
def Question.moment? : Question → Option (Dispatch × Activity)
  | .observe d a => some (d, a)
  | _ => none

namespace World

variable {α β : Type} {w : World}

theorem run_bind (w : World) (p : Program Questions α) (f : α → Program Questions β) :
    w.run (p >>= f) = (w.run p).2.run (f (w.run p).1) :=
  Program.run_bind (S := Questions) answer w p f

/-- What observers are told while a program runs. -/
def moments (w : World) (p : Program Questions α) : List (Dispatch × Activity) :=
  (Program.asked (S := Questions) answer w p).filterMap Question.moment?

theorem moments_bind (w : World) (p : Program Questions α) (f : α → Program Questions β) :
    w.moments (p >>= f) = w.moments p ++ (w.run p).2.moments (f (w.run p).1) :=
  (congrArg _ (Program.asked_bind (S := Questions) answer w p f)).trans List.filterMap_append

/-- A world that has lost its log and what listeners were told. -/
def unheard (w : World) : World := { w with heard := [], log := [] }

theorem unheard_answer {q : Question} (quiet : q.isQuiet = true) :
    (w.answer q).2.unheard = w.unheard := by
  cases q with
  | effect command e =>
    cases e with
    | log note => rfl
    | _ => cases quiet
  | notify listener diagnostic => rfl
  | _ => cases quiet

theorem unheard_run {p : Program Questions α}
    (quiet : ∀ q ∈ Program.asked (S := Questions) answer w p, q.isQuiet = true) :
    (w.run p).2.unheard = w.unheard := by
  induction p generalizing w with
  | done a => rfl
  | ask q next ih =>
    obtain ⟨first, later⟩ := List.forall_mem_cons.1 quiet
    exact (ih _ later).trans (unheard_answer first)

theorem moments_of_quiet {p : Program Questions α}
    (quiet : ∀ q ∈ Program.asked (S := Questions) answer w p, q.isQuiet = true) :
    w.moments p = [] := by
  refine List.filterMap_eq_nil_iff.2 fun q mem => ?_
  have silent : q.isQuiet = true := quiet q mem
  cases q with
  | observe d a => cases silent
  | _ => rfl

/-- While the program runs, no function is looked up in vain. -/
def Finding (w : World) (p : Program Questions α) : Prop :=
  ∀ x ∈ Program.exchanges (S := Questions) answer w p, Question.finds x.1 x.2

theorem finding_bind {p : Program Questions α} {f : α → Program Questions β} :
    w.Finding (p >>= f) ↔ w.Finding p ∧ (w.run p).2.Finding (f (w.run p).1) := by
  have comes := Program.exchanges_bind (S := Questions) answer w p f
  unfold Finding
  rw [comes]
  exact List.forall_mem_append

/-- Where no function is looked up in vain, programs that are the same while functions are found
run alike. -/
theorem Finding.alike {p p' : Program Questions α} (finding : w.Finding p)
    (same : Program.SameWhile (S := Questions) (Question.finds · ·) p p') :
    w.run p' = w.run p ∧ w.moments p' = w.moments p := by
  obtain ⟨run, exchanges⟩ := same.run answer w finding
  have asked (p : Program Questions α) := Program.map_fst_exchanges (S := Questions) answer w p
  have asks := (asked p').symm.trans ((congrArg (List.map (·.1)) exchanges).trans (asked p))
  exact ⟨run, congrArg (List.filterMap Question.moment?) asks⟩

/-- Run in the same world, two programs leave the same one but for its log and what listeners were
told, tell observers of the same moments, and give results that are related. -/
structure Differ (R : α → α → Prop) (w : World) (p p' : Program Questions α) : Prop where
  results : R (w.run p).1 (w.run p').1
  world : (w.run p').2.unheard = (w.run p).2.unheard
  moments : w.moments p' = w.moments p

theorem Differ.map {R : α → α → Prop} {R' : β → β → Prop} {p p' : Program Questions α}
    (differ : Differ R w p p') {f : α → β} (related : ∀ a a', R a a' → R' (f a) (f a')) :
    Differ R' w (p >>= fun a => pure (f a)) (p' >>= fun a => pure (f a)) where
  results := by
    rw [run_bind, run_bind]
    exact related _ _ differ.results
  world := by
    rw [run_bind, run_bind]
    exact differ.world
  moments := by
    have rest (w : World) (b : β) : w.moments (pure b : Program Questions β) = [] := rfl
    rw [moments_bind, moments_bind, rest, rest, List.append_nil, List.append_nil]
    exact differ.moments

/-- After the same beginning, programs differ as what follows does. -/
theorem Differ.bind {R : β → β → Prop} {p p' : Program Questions α} {f f' : α → Program Questions β}
    (same : w.run p' = w.run p) (told : w.moments p' = w.moments p)
    (differ : Differ R (w.run p).2 (f (w.run p).1) (f' (w.run p).1)) :
    Differ R w (p >>= f) (p' >>= f') where
  results := by
    rw [run_bind, run_bind, same]
    exact differ.results
  world := by
    rw [run_bind, run_bind, same]
    exact differ.world
  moments := by
    rw [moments_bind, moments_bind, told, same, differ.moments]

theorem Differ.of_quiet {R : α → α → Prop} {p p' : Program Questions α}
    (quiet : p.Ensures fun qs _ => ∀ q ∈ qs, Question.isQuiet q = true)
    (quiet' : p'.Ensures fun qs _ => ∀ q ∈ qs, Question.isQuiet q = true)
    (related : R (w.run p).1 (w.run p').1) : Differ R w p p' where
  results := related
  world := (unheard_run (quiet'.run answer w)).trans (unheard_run (quiet.run answer w)).symm
  moments := (moments_of_quiet (quiet'.run answer w)).trans
    (moments_of_quiet (quiet.run answer w)).symm

end World

/-- How the result of a dispatch that keeps diagnostics apart differs from that of one that shows
them, where both ended alike. -/
structure Result.Moves (command : Option String) (shown kept : Result) : Prop where
  status : kept.status = shown.status
  reason : kept.reason = shown.reason
  message : kept.message = shown.message
  cause : kept.cause = shown.cause
  /-- A text, or nothing after a failure that no one expected, is the output of both. -/
  output : shown.status = .success ∨ shown.status = .error ∧ shown.reason = some Result.failed →
    kept.output = shown.output
  /-- A diagnostic in the output is the last record instead, and no other record is added. -/
  moved : ∀ text, shown.status ≠ .success → shown.output = some text →
    kept.output = none ∧ shown.message = some text ∧ ∃ function, kept.sideEffects =
      shown.sideEffects ++ [⟨[SideEffect.errorTopic], .text text, some (function, command)⟩]
  unmoved : shown.status = .success ∨ shown.output = none → kept.sideEffects = shown.sideEffects

namespace Interpreter

open Evaluation World

variable {scope : Scope} {d : Dispatch} {w : World}

/-- The same interpreter with diagnostics in the output, or apart from it. -/
def showing (i : Interpreter) (shown : Bool) : Interpreter :=
  { i with settings := { i.settings with textErrors := shown } }

/-- What both results say alike is moved nowhere. -/
theorem moves_silent {command : Option String} (r : Result)
    (silent : r.status = .success ∨ r.output = none) : r.Moves command r where
  status := rfl
  reason := rfl
  message := rfl
  cause := rfl
  output := fun _ => rfl
  moved := by
    intro text unsuccessful shown
    obtain success | none := silent
    · exact absurd success unsuccessful
    · cases none.symm.trans shown
  unmoved := fun _ => rfl

theorem moves_diagnosed {command : Option String} (status : Status) (text function reason : String)
    (sent : List SideEffect)
    (expected : status = .aborted ∨ status = .error ∧ reason = Result.malformed) :
    Result.Moves command ⟨status, some text, some text, some reason, sent, none⟩
      ⟨status, none, some text, some reason,
        sent ++ [⟨[SideEffect.errorTopic], .text text, some (function, command)⟩], none⟩ := by
  obtain rfl | ⟨rfl, rfl⟩ := expected
  · constructor <;> simp
  · constructor <;> simp [Result.malformed, Result.failed]

/-- What comes of command strings where the results differ in where the diagnostic of the end is, or
where there is no result of either for the same reason. -/
def Moved (command : Option String) : Except Failure Result → Except Failure Result → Prop
  | .ok shown, .ok kept => shown.Moves command kept
  | .error e, .error e' => e' = e
  | _, _ => False

/-- The diagnostic of the end of a dispatch is where the settings say, and what is remembered is
the same. -/
theorem moves_conclude (w' : World) (o : Outcome) :
    let shown := (w.run (conclude (scope.showing true) o d)).1
    let kept := (w'.run (conclude (scope.showing false) o d)).1
    Moved scope.command shown.1 kept.1 ∧ kept.2.cache = shown.2.cache := by
  match o with
  | .ok text => exact ⟨moves_silent ⟨.success, some text, none, none, _, none⟩ (.inl rfl), rfl⟩
  | .error (.aborted reason none function) =>
    exact ⟨moves_silent ⟨.aborted, none, none, some reason, _, none⟩ (.inr rfl), rfl⟩
  | .error (.aborted reason (some text) function) =>
    exact ⟨moves_diagnosed .aborted text (function.getD "") reason d.effects (.inl rfl), rfl⟩
  | .error (.fault e function traced) =>
    cases e with
    | parse e => exact ⟨moves_diagnosed .error _ _ _ d.effects (.inr ⟨rfl, rfl⟩), rfl⟩
    | wordless kind cause => exact ⟨rfl, rfl⟩
    | _ => exact ⟨moves_silent ⟨.error, none, some _, some _, _, some _⟩ (.inr rfl), rfl⟩

theorem differ_closing (scope : Scope) (listeners : List String) (o : Outcome) :
    Differ (fun shown kept => Moved scope.command shown.1 kept.1 ∧ kept.2.cache = shown.2.cache) w
      (closing (scope.showing true) listeners o d)
      (closing (scope.showing false) listeners o d) := by
  refine .of_quiet (ensures_closing _ _) (ensures_closing _ _) ?_
  have concluded (shown : Bool) : (w.run (closing (scope.showing shown) listeners o d)).1 =
      (w.run (conclude (scope.showing shown) o d)).1 := run_closing World.answer w listeners o
  rw [concluded, concluded]
  exact moves_conclude w o

theorem differ_dispatch (scope : Scope) (listeners : List String) (source : List Char)
    (finding : w.Finding (dispatch (scope.showing true) listeners source d)) :
    Differ (fun shown kept => Moved scope.command shown.1 kept.1 ∧ kept.2.cache = shown.2.cache) w
      (dispatch (scope.showing true) listeners source d)
      (dispatch (scope.showing false) listeners source d) := by
  rw [dispatch_eq] at finding
  rw [dispatch_eq, dispatch_eq]
  have rendered : SameRendering (render (scope.showing true) scope.settings.maxDepth)
      (render (scope.showing false) scope.settings.maxDepth) := same_render _
  have same : Same (opening (scope.showing true) source) (opening (scope.showing false) source) d :=
    Same.bind (.refl (Evaluation.note scope .debug .runtime "dispatch start") d) fun _ d =>
      rendered source 1 d
  obtain ⟨run, told⟩ := (finding_bind.1 finding).1.alike same
  exact Differ.bind run told (differ_closing scope listeners _)

theorem differ_run (i : Interpreter) (functions : Handle) (v : Invocation)
    (finding : w.Finding ((i.showing true).run functions v)) :
    Differ (Moved v.command) w ((i.showing true).run functions v)
      ((i.showing false).run functions v) :=
  (differ_dispatch (i.scope functions v) i.listeners v.source (finding_bind.1 finding).1).map
    fun _ _ moved => moved.1

theorem differ_handle (i : Interpreter) (v : Invocation)
    (finding : w.Finding ((i.showing true).handle v)) :
    Differ (Moved v.command) w ((i.showing true).handle v) ((i.showing false).handle v) := by
  by_cases alone : v.functions.isEmpty = true
  · have begins (shown : Bool) : (i.showing shown).handle v =
        (i.showing shown).run i.functions v := if_pos alone
    rw [begins] at finding
    rw [begins, begins]
    exact differ_run i i.functions v finding
  · have begins (shown : Bool) : (i.showing shown).handle v =
        (Question.ask (.layer i.functions v.functions)) >>= _ := if_neg alone
    rw [begins] at finding
    rw [begins, begins]
    refine Differ.bind rfl rfl ?_
    have rest := (finding_bind.1 finding).2
    revert rest
    cases (w.run (Question.ask (.layer i.functions v.functions))).1 with
    | error e => exact fun _ => Differ.of_quiet (List.forall_mem_nil _) (List.forall_mem_nil _) rfl
    | ok functions => exact fun rest => differ_run i functions v rest

/-- **The switch only moves diagnostics.** For every command string, registry, event and callbacks,
in every world: if no function is looked up in vain while diagnostics are shown, then keeping them
apart instead leaves the same registries, store, draws and requests, tells observers of the same
moments of the dispatch, remembers the same, and gives a result of the same status, reason and
message. A diagnostic of an abort or of a malformed command string is then no output but one more
record, the last one; all other records are the same, and so is every other output. Where there is
no result, there is none either way, for the same reason. -/
theorem switch_moves_diagnostics (w : World) :
    (∀ (scope : Scope) (listeners : List String) (source : List Char),
      w.Finding (dispatch (scope.showing true) listeners source .start) →
      Differ (fun shown kept => Moved scope.command shown.1 kept.1 ∧ kept.2.cache = shown.2.cache)
        w (dispatch (scope.showing true) listeners source .start)
        (dispatch (scope.showing false) listeners source .start)) ∧
    ∀ (i : Interpreter) (v : Invocation), w.Finding ((i.showing true).handle v) →
      Differ (Moved v.command) w ((i.showing true).handle v) ((i.showing false).handle v) :=
  ⟨differ_dispatch, differ_handle⟩

/-- A world with one function, `$s`, that ends the dispatch with a diagnostic. -/
def complaining : World :=
  let callback : Callback := .of (.abort "error" (some "boom") fun h => .done (.halt h))
  { World.empty .null with
    registries := ⟨[⟨.null, [], [("s", .native "$s" callback .null)]⟩]⟩ }

/-- A diagnostic that is shown, or is the only record. -/
theorem switch_moves_diagnostics_complaining :
    let i : Interpreter := ⟨.usual, 0, ["l"]⟩
    let v : Invocation := ⟨['$', 's', '[', ']'], .null, none, []⟩
    let scope : Scope := i.scope 0 v
    complaining.Finding (dispatch (scope.showing true) ["l"] v.source .start) ∧
    complaining.Finding ((i.showing true).handle v) ∧
    (complaining.run (dispatch (scope.showing false) ["l"] v.source .start)).1.2.cache =
      (complaining.run (dispatch (scope.showing true) ["l"] v.source .start)).1.2.cache ∧
    ∃ shown kept, (complaining.run ((i.showing true).handle v)).1 = .ok shown ∧
      (complaining.run ((i.showing false).handle v)).1 = .ok kept ∧ shown.Moves none kept ∧
      shown.output.isSome ∧ kept.sideEffects.length = 1 := by
  intro i v scope
  have read : Script.segments v.source 1 = .ok [.call ⟨['s'], [], 0, 1⟩] :=
    (Script.segmentsFrom_call rfl rfl).trans (by rw [Script.segmentsFrom_nil]; rfl)
  have dispatched : complaining.Finding (dispatch (scope.showing true) ["l"] v.source .start) := by
    refine List.all_eq_true.1 ?_
    unfold dispatch render source
    rw [read]
    rfl
  have handled : complaining.Finding ((i.showing true).handle v) := by
    refine List.all_eq_true.1 ?_
    unfold handle run dispatch render source
    rw [read]
    rfl
  obtain ⟨shown, shows⟩ : ∃ r, (complaining.run ((i.showing true).handle v)).1 = .ok r ∧
      r.output.isSome := by
    unfold handle run dispatch render source
    rw [read]
    exact ⟨_, rfl, rfl⟩
  obtain ⟨kept, keeps⟩ : ∃ r, (complaining.run ((i.showing false).handle v)).1 = .ok r ∧
      r.sideEffects.length = 1 := by
    unfold handle run dispatch render source
    rw [read]
    exact ⟨_, rfl, rfl⟩
  have moved := ((switch_moves_diagnostics complaining).2 i v handled).results
  rw [shows.1, keeps.1] at moved
  have left := ((switch_moves_diagnostics complaining).1 scope ["l"] v.source dispatched).results
  exact ⟨dispatched, handled, left.2, shown, kept, shows.1, keeps.1, moved, shows.2, keeps.2⟩

end Interpreter

end CommandScript
