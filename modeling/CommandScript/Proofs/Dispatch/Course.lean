import CommandScript.Dispatch.Calls
import CommandScript.Proofs.Program

/-!
# The course of a dispatch

What comes up while a dispatch takes place, in order, and how far the dispatch is before and after
each step: how it ended, if it did, and how many calls are being evaluated. Every function of the
evaluation keeps to such a course, whatever callbacks do and whatever the surroundings answer.

## Main definitions

- `CommandScript.Moment` — how far a dispatch is
- `CommandScript.Question.Leads` — how far a dispatch is before and after a question
- `CommandScript.Course` — the questions of a dispatch from one moment to another
- `CommandScript.Evaluation.Orderly` — computations that keep to a course

## Main results

- `CommandScript.Evaluation.orderly_routine` — a callback may do what it likes
- `CommandScript.Evaluation.orderly_render` — evaluating a command string keeps to a course
-/

namespace CommandScript

/-- An outcome is the end of the dispatch where there is one, and a text where there is none. -/
def Outcome.Tells (o : Outcome) : Option Halt → Prop
  | none => ∃ s, o = .ok s
  | some h => o = .error h

@[simp] theorem Outcome.tells_ok {s : String} {a : Option Halt} :
    Outcome.Tells (.ok s) a ↔ a = none := by
  cases a <;> simp [Outcome.Tells]

@[simp] theorem Outcome.tells_error {h : Halt} {a : Option Halt} :
    Outcome.Tells (.error h) a ↔ a = some h := by
  cases a <;> simp [Outcome.Tells, eq_comm]

/-- How far a dispatch is: how it ended, if it did, and how many calls are being evaluated. -/
structure Moment where
  halted : Option Halt
  depth : Nat

/-- How far a dispatch is. -/
def Dispatch.moment (d : Dispatch) : Moment := ⟨d.halted, d.depth⟩

/-- From one moment to another by what an observer is told. -/
def Activity.Leads (m m' : Moment) : Activity → Prop
  | .rendering .. => m.halted = none ∧ m' = m
  | .rendered _ _ o => o.Tells m.halted ∧ m' = m
  | .entering .. => m.halted = none ∧ m' = ⟨none, m.depth + 1⟩
  | .returned .. => m' = m
  | .leaving _ o => o.Tells m.halted ∧ m = ⟨m'.halted, m'.depth + 1⟩
  | .halting h => m.halted = none ∧ m' = ⟨some h, m.depth⟩

/-- From one moment to another by a question. Functions are only looked up, calls only entered and
command strings only evaluated in a dispatch that has not ended. -/
def Question.Leads (m m' : Moment) : Question → Prop
  | .find .. => m.halted = none ∧ m' = m
  | .observe d a => d.moment = m' ∧ a.Leads m m'
  | _ => m' = m

/-- The questions of a dispatch from one moment to another. -/
inductive Course : Moment → List Question → Moment → Prop
  | nil {m} : Course m [] m
  | cons {m m' m'' q qs} (step : q.Leads m m') (rest : Course m' qs m'') : Course m (q :: qs) m''

namespace Course

variable {m m' m'' : Moment} {qs rs before after : List Question} {d : Dispatch} {h : Halt}

theorem append (first : Course m qs m') (second : Course m' rs m'') : Course m (qs ++ rs) m'' := by
  induction first with
  | nil => exact second
  | cons step _ ih => exact .cons step (ih second)

theorem single {q : Question} (step : q.Leads m m') : Course m [q] m' := .cons step .nil

/-- Each question of a course leads from one moment to another. -/
theorem of_split {q : Question} (course : Course m (before ++ q :: after) m'') :
    ∃ k k', Course m before k ∧ q.Leads k k' ∧ Course k' after m'' := by
  induction before generalizing m with
  | nil =>
    cases course with
    | cons step rest => exact ⟨m, _, .nil, step, rest⟩
  | cons r before ih =>
    cases course with
    | cons step rest =>
      obtain ⟨k, k', front, here, back⟩ := ih rest
      exact ⟨k, k', .cons step front, here, back⟩

end Course

namespace Evaluation

/-- Every run of a computation from a dispatch on keeps to its course, and its result meets a
condition with the dispatch that is left. -/
def Orderly {α : Type} (e : Evaluation α) (d : Dispatch) (post : α → Dispatch → Prop) : Prop :=
  e.Ensures d fun qs a d' => Course d.moment qs d'.moment ∧ d'.depth = d.depth ∧ post a d'

variable {α β : Type} {scope : Scope} {c : Script.Call} {d : Dispatch}

theorem Orderly.imp {e : Evaluation α} {post post' : α → Dispatch → Prop} (h : e.Orderly d post)
    (weaker : ∀ a d', post a d' → post' a d') : e.Orderly d post' :=
  Ensures.imp h fun _ _ _ r => ⟨r.1, r.2.1, weaker _ _ r.2.2⟩

theorem Orderly.bind {e : Evaluation α} {f : α → Evaluation β} {P : α → Dispatch → Prop}
    {post : β → Dispatch → Prop} (first : e.Orderly d P)
    (second : ∀ a d', P a d' → (f a).Orderly d' post) : (e >>= f).Orderly d post := by
  refine ensures_bind.2 (Ensures.imp first fun qs a d' r => ?_)
  exact Ensures.imp (second a d' r.2.2) fun rs b d'' r' =>
    ⟨r.1.append r'.1, r'.2.1.trans r.2.1, r'.2.2⟩

/-- One computation after another one of which nothing needs to be known. -/
theorem Orderly.seq {e : Evaluation α} {f : α → Evaluation β} {post : β → Dispatch → Prop}
    (first : e.Orderly d fun _ _ => True) (second : ∀ a d', (f a).Orderly d' post) :
    (e >>= f).Orderly d post :=
  first.bind fun a d' _ => second a d'

/-- One computation after another one in which the dispatch does not end. -/
theorem Orderly.seqUnended {e : Evaluation α} {f : α → Evaluation β}
    {post : β → Dispatch → Prop} (first : e.Orderly d fun _ d' => d'.halted = none)
    (second : ∀ a d', d'.halted = none → (f a).Orderly d' post) : (e >>= f).Orderly d post :=
  first.bind second

theorem orderly_pure {a : α} {post : α → Dispatch → Prop} (h : post a d) :
    (pure a : Evaluation α).Orderly d post := ⟨.nil, rfl, h⟩

theorem orderly_get_bind {f : Dispatch → Evaluation β} {post : β → Dispatch → Prop}
    (h : (f d).Orderly d post) : (get >>= f).Orderly d post :=
  Orderly.bind (P := fun a d' => a = d ∧ d' = d) ⟨.nil, rfl, rfl, rfl⟩ fun _ _ r => r.1 ▸ r.2 ▸ h

theorem orderly_modify {g : Dispatch → Dispatch} {post : Unit → Dispatch → Prop}
    (same : (g d).moment = d.moment) (h : post () (g d)) :
    (modify g : Evaluation Unit).Orderly d post :=
  ⟨same ▸ .nil, congrArg Moment.depth same, h⟩

theorem orderly_ask {q : Question} {post : q.Answer → Dispatch → Prop}
    (step : q.Leads d.moment d.moment) (h : ∀ r, post r d) : (ask q).Orderly d post :=
  fun r => ⟨.single step, rfl, h r⟩

theorem orderly_observe {a : Activity} {post : Unit → Dispatch → Prop}
    (step : a.Leads d.moment d.moment) (h : post () d) : (observe a).Orderly d post :=
  ensures_observe.2 ⟨.single ⟨rfl, step⟩, rfl, h⟩

theorem orderly_note {level : Log.Level} {source : Log.Source} {message : String}
    {post : Unit → Dispatch → Prop} (h : post () d) :
    (note scope level source message).Orderly d post :=
  ensures_note.2 ⟨.single rfl, rfl, h⟩

/-- Ending a dispatch gives the end that counts. -/
theorem orderly_halt (h : Halt) :
    (halt scope h).Orderly d fun first d' => d'.halted = some first := by
  refine orderly_get_bind ?_
  cases ended : d.halted with
  | some first => exact orderly_pure ended
  | none =>
    refine ensures_bind.2 (ensures_modify.2 (ensures_bind.2 (ensures_observe.2 ?_)))
    refine ensures_bind.2 (ensures_note.2 (ensures_pure.2 ⟨?_, rfl, rfl⟩))
    exact .cons ⟨rfl, ended, rfl⟩ (.single rfl)

section Routines

variable {render : List Char → Int → Evaluation Outcome} {memo : Memo}

/-- Command strings are evaluated in good order from every dispatch on, ended or not. -/
def OrderlyRendering (render : List Char → Int → Evaluation Outcome) : Prop :=
  ∀ cs line d, (render cs line).Orderly d fun o d' => o.Tells d'.halted

theorem orderly_argument (hrender : OrderlyRendering render) (index : Int) :
    (argument render scope c memo index).Orderly d fun _ _ => True := by
  unfold argument
  split
  · exact orderly_pure trivial
  · exact orderly_pure trivial
  · refine orderly_get_bind ?_
    split
    · exact orderly_pure trivial
    · refine (hrender _ _ d).bind fun o d' _ => ?_
      cases o with
      | ok s => exact orderly_pure trivial
      | error h => exact (orderly_halt h).bind fun _ _ _ => orderly_pure trivial

theorem orderly_abort (reason : String) (details : Option String) :
    (abort scope c reason details).Orderly d fun _ _ => True :=
  (orderly_halt _).bind fun _ _ _ => orderly_pure trivial

theorem orderly_noteAll (notices : List Notice) :
    (noteAll scope notices).Orderly d fun _ _ => True := by
  induction notices generalizing d with
  | nil => exact orderly_pure trivial
  | cons n ns ih => exact Orderly.seq (orderly_note trivial) fun _ _ => ih

theorem orderly_change (ch : Change Callback) :
    (change scope ch).Orderly d fun _ _ => True :=
  Orderly.seq (orderly_ask rfl fun _ => trivial) fun _ _ =>
    (orderly_noteAll _).seq fun _ _ => orderly_pure trivial

/-- A routine may do what it likes, before the end of the dispatch and after it. -/
theorem orderly_routine {α : Type} (hrender : OrderlyRendering render) (r : Routine Callback α) :
    (routine render scope c memo r).Orderly d fun _ _ => True := by
  induction r generalizing memo d with
  | done a => exact orderly_pure trivial
  | raise e => exact orderly_pure trivial
  | argument i next ih => exact (orderly_argument hrender i).seq fun _ _ => ih _
  | look next ih => exact orderly_get_bind (ih _)
  | abort reason details next ih => exact (orderly_abort reason details).seq fun _ _ => ih _
  | emit m topics next ih => exact Orderly.seq (orderly_modify rfl trivial) fun _ _ => ih
  | «recall» key next ih => exact orderly_get_bind (ih _)
  | remember key v next ih => exact Orderly.seq (orderly_modify rfl trivial) fun _ _ => ih
  | change ch next ih => exact (orderly_change ch).seq fun _ _ => ih _
  | effect q next ih => exact Orderly.seq (orderly_ask rfl fun _ => trivial) fun _ _ => ih _

/-- Asking other questions begins with asking for the first one. -/
theorem lift_relay_ask {S : Signature} {α : Type} {q : S.Question}
    {next : S.Answer q → Program S α} {ask : (q : S.Question) → Program Questions (S.Answer q)} :
    (StateT.lift ((Program.ask q next).relay ask) : Evaluation α) =
      StateT.lift (ask q) >>= fun r => StateT.lift ((next r).relay ask) := by
  funext d
  show (ask q >>= fun r => (next r).relay ask) >>= (fun a => pure (a, d)) =
    (ask q >>= fun r => pure (r, d)) >>= fun x => StateT.lift ((next x.1).relay ask) x.2
  rw [bind_assoc, bind_assoc]
  rfl

/-- A program that asks in terms of a dispatch is as orderly as its questions. -/
theorem orderly_lift_relay {S : Signature} {α : Type} (p : Program S α)
    {ask : (q : S.Question) → Program Questions (S.Answer q)}
    (hask : ∀ q d, Orderly (StateT.lift (ask q)) d fun _ _ => True) :
    Orderly (StateT.lift (p.relay ask)) d fun _ _ => True := by
  induction p generalizing d with
  | done a => exact orderly_pure trivial
  | ask q next ih =>
    rw [lift_relay_ask]
    exact Orderly.seq (hask q d) fun r _ => ih r

theorem orderly_body (code : Value) (params : List Value) (texts : List (Option String)) :
    (body scope code params texts).Orderly d fun _ _ => True := by
  unfold body
  cases bindings params texts with
  | error e => exact orderly_pure trivial
  | ok bound =>
    refine Orderly.seq (orderly_lift_relay _ fun path d => ?_) fun _ _ => orderly_pure trivial
    exact orderly_ask (q := .effect scope.logged (.openFile path)) rfl fun _ => trivial

theorem orderly_scripted (hrender : OrderlyRendering render) (code : Value) (params : List Value) :
    (scripted render scope c code params).Orderly d fun _ _ => True := by
  refine (orderly_routine hrender _).seq fun a d' => orderly_get_bind ?_
  obtain ⟨texts, memo⟩ := a
  split
  · exact orderly_pure trivial
  · exact orderly_pure trivial
  · refine (orderly_body _ _ _).seq fun filled _ => ?_
    cases filled with
    | error e => exact orderly_pure trivial
    | ok source =>
      refine Orderly.seq ((hrender _ _ _).imp fun _ _ _ => trivial) fun o _ => ?_
      cases o with
      | ok s => exact orderly_pure trivial
      | error h => exact orderly_pure trivial

theorem orderly_invoke (hrender : OrderlyRendering render) (f : Descriptor Callback) :
    (invoke render scope c f).Orderly d fun _ _ => True := by
  cases f with
  | native _ callback _ => exact (orderly_routine hrender _).seq fun _ _ => orderly_pure trivial
  | scripted _ code params _ => exact orderly_scripted hrender code params
  | other _ => exact orderly_pure trivial

theorem orderly_fail (e : Failure) :
    (fail scope c e).Orderly d fun o d' => o.Tells d'.halted :=
  Orderly.seq (orderly_note trivial) fun _ _ =>
    (orderly_halt _).bind fun _ _ ended => orderly_pure (Outcome.tells_error.2 ended)

/-- Whatever a function gives back, its call gives the end of the dispatch if there is one. -/
theorem orderly_finish (reply : Except Failure Reply) :
    (finish scope c reply).Orderly d fun o d' => o.Tells d'.halted := by
  match reply with
  | .error e => exact orderly_fail e
  | .ok (.halt h) =>
    exact (orderly_halt h).bind fun _ _ ended => orderly_pure (Outcome.tells_error.2 ended)
  | .ok (.value v) =>
    refine orderly_get_bind ?_
    split
    · next h ended => exact orderly_pure (Outcome.tells_error.2 ended)
    · next unended _ => exact orderly_pure (Outcome.tells_ok.2 unended)
    · exact orderly_fail _

theorem orderly_perform (hrender : OrderlyRendering render) (f : Descriptor Callback) :
    (perform render scope c f).Orderly d fun o d' => o.Tells d'.halted :=
  (orderly_invoke hrender f).seq fun _ _ =>
    Orderly.seq (orderly_observe rfl trivial) fun _ _ => orderly_finish _

/-- A call of a known function is one deeper than what is around it, and is left again. -/
theorem orderly_enter (hrender : OrderlyRendering render) (f : Descriptor Callback)
    (unended : d.halted = none) :
    (enter render scope c f).Orderly d fun o d' => o.Tells d'.halted := by
  refine ensures_bind.2 (ensures_modify.2 (ensures_bind.2 (ensures_observe.2 ?_)))
  refine ensures_bind.2 (Ensures.imp (orderly_perform hrender f) fun qs o d' r => ?_)
  obtain ⟨course, depth, tells⟩ := r
  refine ensures_bind.2 (ensures_modify.2 (ensures_bind.2 (ensures_observe.2 ?_)))
  refine ensures_pure.2 ⟨?_, by simp [depth], tells⟩
  have inside : Course d.moment [.observe { d with depth := d.depth + 1 } (.entering c f)]
      (Dispatch.moment { d with depth := d.depth + 1 }) :=
    .single ⟨rfl, unended, by simp [Dispatch.moment, unended]⟩
  have outside : Course d'.moment [.observe { d' with depth := d'.depth - 1 } (.leaving c o)]
      (Dispatch.moment { d' with depth := d'.depth - 1 }) :=
    .single ⟨rfl, tells, by simp [Dispatch.moment, depth]⟩
  simpa using inside.append (course.append outside)

end Routines

theorem orderly_refuse : (refuse scope c).Orderly d fun o d' => o.Tells d'.halted :=
  Orderly.seq (orderly_note trivial) fun _ _ =>
    (orderly_halt _).bind fun _ _ ended => orderly_pure (Outcome.tells_error.2 ended)

theorem orderly_unknown (unended : d.halted = none) :
    (unknown scope c).Orderly d fun o d' => o.Tells d'.halted := by
  have same {d : Dispatch} (s : String) (unended : d.halted = none) :
      Orderly (pure (Except.ok s)) d fun (o : Outcome) d' => o.Tells d'.halted :=
    orderly_pure (Outcome.tells_ok.2 unended)
  unfold unknown
  split
  · exact Orderly.seqUnended (orderly_note unended)
      fun _ _ => same _
  · refine Orderly.seqUnended ?_ fun _ _ => same _
    exact Orderly.seqUnended (orderly_note unended)
      fun _ _ unended => orderly_modify rfl unended

theorem orderly_find (unended : d.halted = none) :
    (find scope c).Orderly d fun _ d' => d'.halted = none :=
  orderly_ask (q := .find ..) ⟨unended, rfl⟩ fun _ => unended

/-- Calls are evaluated in good order from every dispatch on that has not ended. -/
def OrderlyCalling (call : Script.Call → Evaluation Outcome) : Prop :=
  ∀ c d, d.halted = none → (call c).Orderly d fun o d' => o.Tells d'.halted

theorem orderly_segments {call : Script.Call → Evaluation Outcome} (hcall : OrderlyCalling call)
    (parts : List Script.Segment) (unended : d.halted = none) :
    (segments call parts).Orderly d fun o d' => o.Tells d'.halted := by
  have longer {d : Dispatch} {o : Outcome} (f : String → String) (tells : o.Tells d.halted) :
      Orderly (pure (o.map f)) d fun (o : Outcome) d' => o.Tells d'.halted := by
    refine orderly_pure ?_
    cases o with
    | ok s => exact Outcome.tells_ok.2 (Outcome.tells_ok.1 tells)
    | error h => exact Outcome.tells_error.2 (Outcome.tells_error.1 tells)
  induction parts generalizing d with
  | nil => exact orderly_pure (Outcome.tells_ok.2 unended)
  | cons part rest ih =>
    cases part with
    | literal raw => exact (ih unended).bind fun _ _ tells => longer _ tells
    | call c =>
      refine (hcall c d unended).bind fun o d' tells => ?_
      cases o with
      | error h => exact orderly_pure tells
      | ok s => exact (ih (Outcome.tells_ok.1 tells)).bind fun _ _ tells => longer _ tells

/-- A command string is not evaluated in a dispatch that has ended. -/
theorem source_of_halted {call : Script.Call → Evaluation Outcome} {cs : List Char} {line : Int}
    {h : Halt} (ended : d.halted = some h) : source call scope cs line d = pure (.error h, d) := by
  rw [source, get_bind, ended]
  rfl

/-- Evaluating a command string is orderly from every dispatch on, also from one that has ended. -/
theorem orderly_source {call : Script.Call → Evaluation Outcome} (hcall : OrderlyCalling call) :
    OrderlyRendering (source call scope) := by
  intro cs line d
  refine orderly_get_bind ?_
  split
  · next h ended => exact orderly_pure (Outcome.tells_error.2 ended)
  · next unended =>
    refine Orderly.seqUnended (orderly_observe ⟨unended, rfl⟩ unended) ?_
    intro _ d unended
    refine Orderly.bind (P := fun o d' => o.Tells d'.halted) ?_ fun o d tells => ?_
    · cases Script.segments cs line with
      | error e =>
        exact (orderly_halt _).bind fun _ _ ended => orderly_pure (Outcome.tells_error.2 ended)
      | ok parts => exact orderly_segments hcall parts unended
    · exact Orderly.bind (P := fun _ d' => o.Tells d'.halted) (orderly_observe ⟨tells, rfl⟩ tells)
        fun _ _ tells => orderly_pure tells

/-- Evaluating a call is orderly from every dispatch on that has not ended. -/
theorem orderly_call (remaining : Nat) : OrderlyCalling (call scope remaining) := by
  induction remaining with
  | zero =>
    intro c d unended
    refine (orderly_find unended).bind fun f d unended => ?_
    cases f with
    | none => exact orderly_unknown unended
    | some f => exact orderly_refuse
  | succ n ih =>
    -- Everything that is evaluated on behalf of the call has one call less to go.
    intro c d unended
    refine (orderly_find unended).bind fun f d unended => ?_
    cases f with
    | none => exact orderly_unknown unended
    | some f => exact orderly_enter (orderly_source ih) f unended

/-- Evaluating a command string is orderly, however deep calls may be inside one another. -/
theorem orderly_render (remaining : Nat) : OrderlyRendering (render scope remaining) :=
  orderly_source (orderly_call remaining)

end Evaluation

end CommandScript
