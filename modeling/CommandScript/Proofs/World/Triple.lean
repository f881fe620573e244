import CommandScript.Proofs.BuiltIn
import CommandScript.Proofs.Dispatch.Escaped
import CommandScript.Proofs.Interpreter.Classification
import CommandScript.Proofs.Interpreter.Malformed
import CommandScript.World

/-!
# Specifications of evaluation in a world

What a computation of a dispatch gives and leaves in every world with given registries and a given
store of variables, as far as the result, the dispatch and the store are concerned. Registries stay
as they are. Specifications are composed as the computations are, down to the steps of routines.

## Main definitions

- `CommandScript.Evaluation.Leads` — the specification of a computation
- `CommandScript.Evaluation.LeadsCall` — the specification of a routine in a call with escaped texts

## Main results

- `CommandScript.Evaluation.Leads.bind` — specifications of compositions
- `CommandScript.Evaluation.leads_of_ensures` — computations that only take notes and tell of things
- `CommandScript.Evaluation.LeadsCall.argumentOr`, `LeadsCall.store`, … — steps of routines

## Design notes

The log, and what listeners and observers have been told, are left out of account: nothing that a
dispatch asks is answered from them.
-/

namespace CommandScript

/-- A question that only takes a note or tells of something leaves what dispatches share. -/
theorem World.answer_idle (w : World) {q : Question} (idle : q.isIdle = true) :
    (w.answer q).2.registries = w.registries ∧ (w.answer q).2.store = w.store := by
  cases q with
  | effect command q => cases q <;> first | exact ⟨rfl, rfl⟩ | cases idle
  | notify | observe => exact ⟨rfl, rfl⟩
  | _ => cases idle

theorem World.run_idle {α : Type} (w : World) (p : Program Questions α)
    (idle : ∀ q ∈ Program.asked (S := Questions) answer w p, q.isIdle = true) :
    (w.run p).2.registries = w.registries ∧ (w.run p).2.store = w.store := by
  induction p generalizing w with
  | done a => exact ⟨rfl, rfl⟩
  | ask q next ih =>
    obtain ⟨first, rest⟩ := List.forall_mem_cons.1 idle
    obtain ⟨registries, store⟩ := w.answer_idle first
    obtain ⟨registries', store'⟩ := ih (w.answer q).1 (w.answer q).2 rest
    exact ⟨registries'.trans registries, store'.trans store⟩

theorem Question.IsTelling.isIdle {q : Question} (telling : q.IsTelling) : q.isIdle = true := by
  cases q with
  | observe d a => cases a <;> first | rfl | cases telling
  | _ => cases telling

namespace Evaluation

variable {α β : Type} {rs : Registries} {s s' : Store} {d : Dispatch}

/-- In every world with the given registries and the given store, a computation leaves the
registries as they are, and what it gives and leaves meets a condition. -/
def Leads (rs : Registries) (s : Store) (e : Evaluation α) (d : Dispatch)
    (post : α → Dispatch → Store → Prop) : Prop :=
  ∀ w : World, w.registries = rs → w.store = s →
    (w.run (e d)).2.registries = rs ∧
      post (w.run (e d)).1.1 (w.run (e d)).1.2 (w.run (e d)).2.store

section Rules

variable {e e' : Evaluation α} {f : α → Evaluation β} {P post : α → Dispatch → Store → Prop}
  {post' : β → Dispatch → Store → Prop}

theorem Leads.imp (h : Leads rs s e d P) (weaker : ∀ a d' s', P a d' s' → post a d' s') :
    Leads rs s e d post := by
  intro w registries store
  obtain ⟨same, holds⟩ := h w registries store
  exact ⟨same, weaker _ _ _ holds⟩

theorem Leads.bind (first : Leads rs s e d P)
    (second : ∀ a d' s', P a d' s' → Leads rs s' (f a) d' post') :
    Leads rs s (e >>= f) d post' := by
  intro w registries store
  obtain ⟨same, holds⟩ := first w registries store
  have ran := run_bind World.answer w e f d
  unfold World.run at same holds ⊢
  rw [ran]
  exact second _ _ _ holds _ same rfl

theorem leads_pure {a : α} (holds : post a d s) : Leads rs s (pure a) d post :=
  fun _ registries store => ⟨registries, store ▸ holds⟩

theorem leads_get_bind {f : Dispatch → Evaluation β} (rest : Leads rs s (f d) d post') :
    Leads rs s (get >>= f) d post' := rest

theorem leads_modify_bind {g : Dispatch → Dispatch} {f : PUnit → Evaluation β}
    (rest : Leads rs s (f ⟨⟩) (g d) post') : Leads rs s (modify g >>= f) d post' := rest

theorem leads_observe_bind {a : Activity} {f : Unit → Evaluation β}
    (rest : Leads rs s (f ()) d post') : Leads rs s (observe a >>= f) d post' := rest

theorem leads_of_ensures {Q : α → Dispatch → Prop}
    (h : e.Ensures d fun qs a d' => (∀ q ∈ qs, q.isIdle = true) ∧ Q a d') :
    Leads rs s e d fun a d' s' => Q a d' ∧ s' = s := by
  intro w registries store
  obtain ⟨idle, holds⟩ := Program.Ensures.run h World.answer w
  obtain ⟨registries', store'⟩ := w.run_idle (e d) idle
  exact ⟨registries'.trans registries, holds, store'.trans store⟩

theorem leads_find_bind {scope : Scope} {c : Script.Call}
    {f : Option (Descriptor Callback) → Evaluation β}
    (rest : Leads rs s
      (f (rs.find? scope.functions (FunctionName.key (String.ofList c.name)))) d post') :
    Leads rs s (find scope c >>= f) d post' := by
  rintro w rfl store
  exact rest w rfl store

end Rules

/-! ### Routines -/

section Routine

open Script (Call)

variable {scope : Scope} {remaining : Nat} {c : Call} {ts : List (List Char)} {memo : Memo}
  {C : Type}

/-- The specification of a routine for a call that has read some arguments, each of which is a text
with its escapes. What has been read in the end does not count. -/
def LeadsCall (rs : Registries) (s : Store) (scope : Scope) (remaining : Nat) (c : Call)
    (ts : List (List Char)) (r : Routine Callback α) (d : Dispatch)
    (post : Except Failure α → Dispatch → Store → Prop) : Prop :=
  ∀ memo : Memo, memo.Holds ts →
    Leads rs s (routine (render scope remaining) scope c memo r) d fun a => post a.1

/-- The text of an argument, or another one in its place. -/
def textAt (ts : List (List Char)) (i : Nat) : String := (ts[i]?.map String.ofList).getD ""

variable {r go : Routine Callback α} {post : Except Failure α → Dispatch → Store → Prop}
  {k : String → Routine Callback α} {v : Value}

theorem LeadsCall.done {a : α} (holds : post (.ok a) d s) :
    LeadsCall rs s scope remaining c ts (.done a) d post :=
  fun _ _ => leads_pure holds

theorem LeadsCall.look {next : View → Routine Callback α}
    (rest : ∀ v : View, v.arguments = c.arguments → v.isAborted = d.isHalted →
      LeadsCall rs s scope remaining c ts (next v) d post) :
    LeadsCall rs s scope remaining c ts (.look next) d post :=
  fun memo holds => rest _ rfl rfl memo holds

/-- An argument that is a text with its escapes is that text. -/
theorem LeadsCall.argumentOr (written : c.arguments = ts.map Script.escape)
    (unended : d.halted = none) (i : Nat)
    (rest : LeadsCall rs s scope remaining c ts (k (textAt ts i)) d post) :
    LeadsCall rs s scope remaining c ts (Routine.argumentOr i "" >>= k) d post := by
  intro memo holds
  have read : Leads rs s (argument (render scope remaining) scope c memo i) d fun a d' s' =>
      (a.1.getD "" = textAt ts i ∧ a.2.Holds ts ∧ d' = d) ∧ s' = s := by
    refine leads_of_ensures (Ensures.imp (argument_written written i holds unended) ?_)
    intro qs a d' gives
    obtain ⟨⟨text, holds⟩, same, telling⟩ := gives
    refine ⟨fun q mem => (telling q mem).isIdle, ?_, holds, same⟩
    rw [text, textAt]
  refine read.bind fun a d' s' gave => ?_
  obtain ⟨⟨text, holds, rfl⟩, rfl⟩ := gave
  obtain ⟨t, memo⟩ := a
  show Leads _ _ (routine _ _ _ memo (k (t.getD ""))) _ _
  rw [text]
  exact rest memo holds

theorem LeadsCall.store {q : Store.Query} {k : Value → Routine Callback α}
    (answered : s.perform q = (.ok v, s'))
    (rest : LeadsCall rs s' scope remaining c ts (k v) d post) :
    LeadsCall rs s scope remaining c ts (Routine.store q >>= k) d post := by
  intro memo holds w registries store
  have told : w.answer (.effect scope.logged (.store q)) = (.ok v, { w with store := s' }) := by
    show ((w.store.perform q).1, { w with store := (w.store.perform q).2 }) = _
    rw [store, answered]
    rfl
  have runs : w.run (routine (render scope remaining) scope c memo (Routine.store q >>= k) d) =
      World.run (w.answer (.effect scope.logged (.store q))).2
        (routine (render scope remaining) scope c memo (Routine.bind (Routine.lift .unfitKey
          (w.answer (.effect scope.logged (.store q))).1) k) d) := rfl
  rw [runs, told]
  exact rest memo holds { w with store := s' } registries rfl

theorem LeadsCall.ending {reason details : String}
    {post : Except Failure Reply → Dispatch → Store → Prop} (unended : d.halted = none)
    (holds : ∀ diagnostic function, post (.ok (.halt (.aborted reason diagnostic function)))
      { d with halted := some (.aborted reason diagnostic function) } s) :
    LeadsCall rs s scope remaining c ts (Routine.ending (Routine.signal reason details)) d
      post := by
  intro memo _
  have halts : Leads rs s (abort scope c reason (some details)) d fun h d' s' =>
      ((∃ diagnostic function, h = .aborted reason diagnostic function) ∧
        d' = { d with halted := some h }) ∧ s' = s := by
    refine leads_of_ensures (ensures_bind.2 (ensures_bind.2 (ensures_get.2 ?_)))
    rw [unended]
    refine ensures_bind.2 (ensures_modify.2 (ensures_bind.2 (ensures_observe.2 ?_)))
    refine ensures_bind.2 (ensures_note.2 (ensures_pure.2 (ensures_pure.2 ⟨?_, ⟨_, _, rfl⟩, rfl⟩)))
    simp [Question.isIdle]
  refine halts.bind fun h d' s' ended => ?_
  obtain ⟨⟨⟨diagnostic, function, rfl⟩, rfl⟩, rfl⟩ := ended
  exact leads_pure (holds diagnostic function)

end Routine

/-! ### Calls -/

section Call

open Script (Call)

variable {scope : Scope} {remaining : Nat} {c : Call} {ts : List (List Char)} {name : String}
  {body : Routine Callback Reply} {version v : Value} {text : String} {h : Halt}
  {P : Except Failure Reply → Dispatch → Store → Prop} {Q : Outcome → Store → Prop}

/-- A value that a function returns stands in the text as it is printed. -/
theorem leads_finish_value (unended : d.halted = none) (printed : v.printed = .ok text) :
    Leads rs s (finish scope c (.ok (.value v))) d fun o _ s' => o = .ok text ∧ s' = s := by
  refine leads_get_bind ?_
  rw [unended, printed]
  exact leads_pure ⟨rfl, rfl⟩

theorem leads_finish_halt (ended : d.halted = some h) :
    Leads rs s (finish scope c (.ok (.halt h))) d fun o _ s' => o = .error h ∧ s' = s := by
  have halts : Leads rs s (halt scope h) d fun h' _ s' => h' = h ∧ s' = s := by
    refine leads_get_bind ?_
    rw [ended]
    exact leads_pure ⟨rfl, rfl⟩
  exact halts.bind fun h' _ s' same => leads_pure ⟨congrArg Except.error same.1, same.2⟩

/-- A call of a function does what its callback does, and finishes as that returns. -/
theorem leads_call
    (found : rs.find? scope.functions (FunctionName.key (String.ofList c.name)) =
      some (.native name (.of body) version))
    (spec : LeadsCall rs s scope remaining c ts body { d with depth := d.depth + 1 } P)
    (finished : ∀ r d' s', P r d' s' →
      Leads rs s' (finish scope c r) d' fun o _ s'' => Q o s'') :
    Leads rs s (call scope (remaining + 1) c) d fun o _ s' => Q o s' := by
  have invoked : Leads rs s (invoke (render scope remaining) scope c
      (.native name (.of body) version)) { d with depth := d.depth + 1 } P :=
    Leads.bind (spec [] fun i s found => by cases found) fun a d' s' holds => leads_pure holds
  have performed : Leads rs s (perform (render scope remaining) scope c
      (.native name (.of body) version)) { d with depth := d.depth + 1 } fun o _ s' => Q o s' :=
    invoked.bind fun r d' s' holds => leads_observe_bind (finished r d' s' holds)
  refine leads_find_bind ?_
  rw [found]
  refine leads_modify_bind (leads_observe_bind (performed.bind fun o d' s' holds => ?_))
  exact leads_modify_bind (leads_observe_bind (leads_pure holds))

/-- A command string that is a single call gives what the call gives. -/
theorem leads_render {cs : List Char} {line : Int} (read : Script.segments cs line = .ok [.call c])
    (unended : d.halted = none)
    (called : Leads rs s (call scope remaining c) d fun o _ s' => Q o s') :
    Leads rs s (render scope remaining cs line) d fun o _ s' => Q o s' := by
  have evaluated : Leads rs s (segments (call scope remaining) [.call c]) d
      fun o _ s' => Q o s' := by
    refine called.bind fun o d' s' holds => ?_
    cases o with
    | error h => exact leads_pure holds
    | ok t =>
      have empty : Leads rs s' (pure (.ok "") : Evaluation Outcome) d' fun o _ s'' =>
          o = .ok "" ∧ s'' = s' := leads_pure ⟨rfl, rfl⟩
      refine empty.bind ?_
      rintro o d'' s'' ⟨rfl, rfl⟩
      refine leads_pure ?_
      simpa [Except.map] using holds
  refine leads_get_bind ?_
  rw [unended]
  refine leads_observe_bind ?_
  rw [read]
  exact evaluated.bind fun o d' s' holds => leads_observe_bind (leads_pure holds)

end Call

end Evaluation

/-- What a dispatch comes to, given the outcome of its evaluation: a text is the output of a result,
and an end on purpose gives its reason. -/
structure Outcome.Concluded (o : Outcome) (a : Except Failure Result) : Prop where
  success : ∀ text, o = .ok text → ∃ r, a = .ok r ∧ r.status = .success ∧ r.output = some text
  aborted : ∀ reason diagnostic function, o = .error (.aborted reason diagnostic function) →
    ∃ r, a = .ok r ∧ r.status = .aborted ∧ r.reason = some reason

theorem Question.isIdle_of_isQuiet {q : Question} (quiet : q.isQuiet = true) : q.isIdle = true := by
  cases q with
  | effect command q => cases q <;> first | rfl | cases quiet
  | notify => rfl
  | _ => cases quiet

namespace Interpreter

open Evaluation

variable {rs : Registries} {s : Store} {d : Dispatch} {scope : Scope} {i : Interpreter}
  {v : Invocation} {Q : Outcome → Store → Prop}

theorem ensures_reason (reason : String) (diagnostic function : Option String) :
    (aborted scope reason diagnostic function).Ensures d fun _ r _ =>
      r.status = .aborted ∧ r.reason = some reason := by
  cases diagnostic with
  | none => exact ensures_bind.2 (ensures_pure.2 (ensures_bind.2 (ensures_get.2
      (ensures_pure.2 ⟨rfl, rfl⟩))))
  | some text =>
    refine ensures_bind.2 (Program.Ensures.of_forall fun _ r => ?_)
    exact ensures_bind.2 (ensures_get.2 (ensures_pure.2 ⟨rfl, rfl⟩))

theorem concluded_conclude (o : Outcome) :
    (conclude scope o).Ensures d fun _ a _ => o.Concluded a := by
  match o with
  | .ok text =>
    refine ensures_bind.2 (ensures_get.2 (ensures_pure.2 ⟨fun _ same => ?_, fun _ _ _ => nofun⟩))
    exact ⟨_, rfl, rfl, congrArg some (Except.ok.inj same)⟩
  | .error (.aborted reason diagnostic function) =>
    refine ensures_bind.2 (Ensures.imp (ensures_reason reason diagnostic function)
      fun _ r _ given => ensures_pure.2 ⟨fun _ => nofun, fun _ _ _ same => ?_⟩)
    obtain ⟨rfl, -, -⟩ := Halt.aborted.inj (Except.error.inj same)
    exact ⟨r, rfl, given⟩
  | .error (.fault e function traced) =>
    exact Program.Ensures.of_forall fun _ _ => ⟨fun _ => nofun, fun _ _ _ => nofun⟩

/-- What a dispatch comes to says what its outcome says, and telling of it leaves the store. -/
theorem leads_closing (listeners : List String) (o : Outcome) :
    Leads rs s (closing scope listeners o) d fun r _ s' => o.Concluded r ∧ s' = s := by
  have concluded : (conclude scope o).Ensures d fun _ r _ => o.Concluded r := concluded_conclude o
  intro w registries store
  have closes : (closing scope listeners o).Ensures d fun qs _ _ => ∀ q ∈ qs, q.isQuiet = true :=
    ensures_closing listeners o
  have quiet := Program.Ensures.run closes World.answer w
  obtain ⟨registries', store'⟩ := w.run_idle (closing scope listeners o d)
    fun q mem => Question.isIdle_of_isQuiet (quiet q mem)
  refine ⟨registries'.trans registries, ?_, store'.trans store⟩
  have same : (Program.run (S := Questions) World.answer w (closing scope listeners o d)).1 = _ :=
    run_closing World.answer w listeners o
  unfold World.run
  rw [same]
  exact Program.Ensures.run concluded World.answer w

/-- **What comes of a command string without functions of its own**, given what comes of its
evaluation. -/
theorem handle_of_leads (none : v.functions = [])
    (evaluated : Leads rs s (render (i.scope i.functions v) i.settings.maxDepth v.source 1) .start
      fun o _ s' => Q o s')
    (w : World) (registries : w.registries = rs) (store : w.store = s) :
    (w.run (i.handle v)).2.registries = rs ∧
      ∃ o : Outcome, o.Concluded (w.run (i.handle v)).1 ∧ Q o (w.run (i.handle v)).2.store := by
  have opened : Leads rs s (opening (i.scope i.functions v) v.source) .start fun o _ s' => Q o s' :=
    fun w registries store => evaluated (w.answer (.effect _ (.log _))).2 registries store
  have dispatched : Leads rs s (dispatch (i.scope i.functions v) i.listeners v.source) .start
      fun r _ s' => ∃ o : Outcome, o.Concluded r ∧ Q o s' := by
    rw [dispatch_eq]
    refine opened.bind fun o d' s' holds =>
      (leads_closing i.listeners o).imp fun r _ s'' closed => ?_
    exact ⟨o, closed.1, closed.2 ▸ holds⟩
  obtain ⟨same, o, concluded, holds⟩ := dispatched w registries store
  have handled : i.handle v = i.run i.functions v := if_pos (List.isEmpty_iff.2 none)
  have runs : w.run (i.handle v) =
      ((w.run (dispatch (i.scope i.functions v) i.listeners v.source .start)).1.1,
        (w.run (dispatch (i.scope i.functions v) i.listeners v.source .start)).2) := by
    rw [handled]
    exact Program.run_bind (S := Questions) World.answer w
      (dispatch (i.scope i.functions v) i.listeners v.source .start) fun x => pure x.1
  rw [runs]
  exact ⟨same, o, concluded, holds⟩

end Interpreter

end CommandScript
