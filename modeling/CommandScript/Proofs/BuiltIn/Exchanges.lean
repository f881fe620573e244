import CommandScript.Proofs.BuiltIn.Variables
import CommandScript.Proofs.Dispatch.Escaped
import CommandScript.Proofs.Dispatch.Order
import CommandScript.Proofs.Http.Attempts

/-!
# Functions that ask servers

What fetching and sending make of the replies that their request receives. A reply that is a failed
exchange ends the dispatch with a diagnostic. A refusal of the request itself is no failed exchange,
and is raised. The arguments may be anything that stands for a text: a text with its escapes, or a
call that only computes.

## Main definitions

- `CommandScript.Evaluation.Stands` — the arguments of a call stand for texts
- `CommandScript.Evaluation.ReceivesCall` — what a routine makes of the replies that it receives
- `CommandScript.BuiltIn.Settled` — what a function that made a request returns

## Main results

- `CommandScript.Evaluation.Stands.argument` — reading an argument gives the text it stands for
- `CommandScript.Evaluation.receives_call_of_finish`, `receives_call` — a call of a function that
  receives replies
- `CommandScript.BuiltIn.receives_fetch`, `receives_post` — fetching and sending
-/

namespace CommandScript

open Script (Call)

namespace Evaluation

variable {α β : Type} {admits : (q : Question) → q.Answer → Prop} {d : Dispatch} {scope : Scope}
  {remaining : Nat} {c : Call} {ts : List (List Char)}

/-! ### Arguments -/

theorem isRequest_of_isTelling {q : Question} (telling : q.IsTelling) :
    q.isRequest = false := by
  cases q with
  | effect => cases telling
  | _ => rfl

theorem Gives.yields {e : Evaluation α} {a : α} (gives : e.Gives d (· = a)) :
    e.Yields admits d a := by
  refine receives_of_ensures (Ensures.imp gives fun qs b d' given => ?_)
  obtain ⟨rfl, rfl, telling⟩ := given
  exact ⟨fun q mem => isRequest_of_isTelling (telling q mem), rfl, rfl, rfl⟩

/-- The arguments of a call stand for texts, as long as the dispatch stays as it is. -/
structure Stands (admits : (q : Question) → q.Answer → Prop) (scope : Scope) (remaining : Nat)
    (c : Call) (ts : List (List Char)) (d : Dispatch) : Prop where
  length_eq : c.arguments.length = ts.length
  yields {i : Nat} {cs : List Char} {line : Int} {t : List Char}
    (place : c.argumentAt? i = some (cs, line)) (here : ts[i]? = some t) :
    (render scope remaining cs line).Yields admits d (.ok (String.ofList t))

/-- Texts with escapes stand for the texts. -/
theorem Stands.of_escaped (written : c.arguments = ts.map Script.escape)
    (unended : d.halted = none) : Stands admits scope remaining c ts d where
  length_eq := by rw [written, List.length_map]
  yields {i cs line t} place here := by
    have source : (ts.map Script.escape)[i]? = some cs :=
      written ▸ (Script.Call.argumentAt?_eq_some_iff.1 place).1
    rw [List.getElem?_map, here] at source
    obtain rfl := Option.some.inj source
    exact (render_escape t line unended).yields

theorem Stands.of_forall₂ (each : List.Forall₂ (fun cs t => ∀ line,
      (render scope remaining cs line).Yields admits d (.ok (String.ofList t))) c.arguments ts) :
    Stands admits scope remaining c ts d where
  length_eq := each.length_eq
  yields {i cs line t} place here := by
    obtain ⟨bound, rfl⟩ :=
      List.getElem?_eq_some_iff.1 (Script.Call.argumentAt?_eq_some_iff.1 place).1
    obtain ⟨bound', rfl⟩ := List.getElem?_eq_some_iff.1 here
    exact each.get bound bound' line

/-- **Reading an argument** gives the text that it stands for, or nothing past the last one. -/
theorem Stands.argument (stands : Stands admits scope remaining c ts d) (i : Nat) {memo : Memo}
    (holds : memo.Holds ts) (unended : d.halted = none) :
    (Evaluation.argument (render scope remaining) scope c memo i).Receives admits d
      fun rs a d' => rs = [] ∧ a.1 = ts[i]?.map String.ofList ∧ a.2.Holds ts ∧ d' = d := by
  unfold Evaluation.argument
  cases place : c.argumentAt? i with
  | none =>
    have past : ts[i]? = none := by
      rw [List.getElem?_eq_none_iff, ← stands.length_eq]
      exact argumentAt?_eq_none_iff.1 place
    rw [past]
    exact receives_pure ⟨rfl, rfl, holds, rfl⟩
  | some place' =>
    obtain ⟨cs, line⟩ := place'
    obtain ⟨t, here⟩ : ∃ t, ts[i]? = some t := by
      refine Option.ne_none_iff_exists'.1 fun none => ?_
      rw [List.getElem?_eq_none_iff, ← stands.length_eq, ← argumentAt?_eq_none_iff, place] at none
      cases none
    rw [Int.toNat_natCast]
    cases known : memo.lookup i with
    | some s => exact receives_pure ⟨rfl, (holds i s known).symm, holds, rfl⟩
    | none =>
      refine receives_get_bind ?_
      rw [if_neg (by simp [Dispatch.isHalted, unended])]
      refine (stands.yields place here).bind (receives_pure ⟨rfl, ?_, holds.cons here, rfl⟩)
      rw [here]
      rfl

/-! ### Routines -/

/-- What a routine, for a call whose arguments stand for texts and that has read some of them, makes
of the replies that it receives. What has been read in the end does not count. -/
def ReceivesCall (admits : (q : Question) → q.Answer → Prop) (scope : Scope) (remaining : Nat)
    (c : Call) (ts : List (List Char)) (r : Routine Callback α) (d : Dispatch)
    (post : List Http.Reply → Except Failure α → Dispatch → Prop) : Prop :=
  ∀ memo : Memo, memo.Holds ts →
    (routine (render scope remaining) scope c memo r).Receives admits d fun rs a => post rs a.1

section Routine

variable {r go : Routine Callback α}
  {post : List Http.Reply → Except Failure α → Dispatch → Prop}

theorem ReceivesCall.done {a : α} (holds : post [] (.ok a) d) :
    ReceivesCall admits scope remaining c ts (.done a) d post :=
  fun _ _ => receives_pure holds

theorem ReceivesCall.raise {e : Failure} (holds : post [] (.error e) d) :
    ReceivesCall admits scope remaining c ts (.raise e) d post :=
  fun _ _ => receives_pure holds

theorem ReceivesCall.look {next : View → Routine Callback α}
    (rest : ∀ v : View, v.arguments = c.arguments → v.isAborted = d.isHalted →
      ReceivesCall admits scope remaining c ts (next v) d post) :
    ReceivesCall admits scope remaining c ts (.look next) d post :=
  fun memo holds => rest _ rfl rfl memo holds

/-- Reading an argument gives the text that it stands for. -/
theorem ReceivesCall.argument? (stands : Stands admits scope remaining c ts d)
    (unended : d.halted = none) (i : Nat) {k : Option String → Routine Callback α}
    (rest : ReceivesCall admits scope remaining c ts (k (ts[i]?.map String.ofList)) d post) :
    ReceivesCall admits scope remaining c ts (.argument i k) d post := by
  intro memo holds
  refine Receives.bind (stands.argument i holds unended) ?_
  rintro rs ⟨t, memo⟩ d' ⟨rfl, rfl, holds, rfl⟩
  exact rest memo holds

/-- A program that a routine runs receives the replies that it receives by itself. -/
theorem receives_ofProgram_bind {render : List Char → Int → Evaluation Outcome} {memo : Memo}
    {p : Program Effects β} {P : List Http.Reply → β → Prop} {k : β → Routine Callback α}
    {post : List Http.Reply → Except Failure α × Memo → Dispatch → Prop}
    (does : p.Meets (S := Effects) (fun q r => admits (.effect scope.logged q) r)
      fun xs b => P (Http.replies xs) b)
    (rest : ∀ rs b, P rs b → (routine render scope c memo (k b)).Receives admits d
      fun rs' => post (rs ++ rs')) :
    (routine render scope c memo (Routine.ofProgram p >>= k)).Receives admits d post := by
  induction p generalizing P post with
  | done b => exact rest [] b does
  | ask q next ih =>
    intro r admitted
    let first := Http.replies [⟨q, r⟩]
    have asked (xs : List ((q : Effect) × q.Answer)) :
        Http.replies (⟨q, r⟩ :: xs) = first ++ Http.replies xs :=
      Http.replies_append [⟨q, r⟩] xs
    have more := @ih r (fun rs => P (first ++ rs)) (fun rs => post (first ++ rs))
      ((does r admitted).imp fun xs b holds => asked xs ▸ holds)
      fun rs b holds => by simpa only [List.append_assoc] using rest (first ++ rs) b holds
    refine Program.Meets.imp more fun xs a holds => ?_
    have all : replies (⟨.effect scope.logged q, r⟩ :: xs) = first ++ replies xs :=
      replies_append [⟨.effect scope.logged q, r⟩] xs
    exact (congrArg (post · a.1 a.2) all).mpr holds

theorem ReceivesCall.ofProgram {p : Program Effects β} {P : List Http.Reply → β → Prop}
    {k : β → Routine Callback α}
    (does : p.Meets (S := Effects) (fun q r => admits (.effect scope.logged q) r)
      fun xs b => P (Http.replies xs) b)
    (rest : ∀ rs b, P rs b →
      ReceivesCall admits scope remaining c ts (k b) d fun rs' => post (rs ++ rs')) :
    ReceivesCall admits scope remaining c ts (Routine.ofProgram p >>= k) d post :=
  fun memo holds => receives_ofProgram_bind does fun rs b done => rest rs b done memo holds

/-- Ending the dispatch with a diagnostic, where it had not ended. -/
theorem ReceivesCall.ending {reason details : String}
    {post : List Http.Reply → Except Failure Reply → Dispatch → Prop}
    (unended : d.halted = none)
    (holds : ∀ h, h = .aborted reason
        (some (Diagnostic.text c.shownName details (some c.line))) (some c.shownName) →
      post [] (.ok (.halt h)) { d with halted := some h }) :
    ReceivesCall admits scope remaining c ts (Routine.ending (Routine.signal reason details)) d
      post := by
  intro memo _
  have halts : (abort scope c reason (some details)).Ensures d fun qs h d' =>
      (∀ q ∈ qs, q.isRequest = false) ∧
        h = .aborted reason (some (Diagnostic.text c.shownName details (some c.line)))
          (some c.shownName) ∧ d' = { d with halted := some h } := by
    refine ensures_bind.2 (ensures_bind.2 (ensures_get.2 ?_))
    rw [unended]
    refine ensures_bind.2 (ensures_modify.2 (ensures_bind.2 (ensures_observe.2 ?_)))
    refine ensures_bind.2 (ensures_note.2 (ensures_pure.2 (ensures_pure.2 ⟨?_, rfl, rfl⟩)))
    simp [Question.isRequest]
  refine Receives.bind_of_ensures halts ?_
  rintro h d' ⟨told, rfl⟩
  exact receives_pure (holds h told)

end Routine

/-! ### Calls -/

/-- Under a key a registry has a function whose callback runs a routine. -/
def Finds (functions : Handle) (key : String) (body : Routine Callback Reply) :
    (q : Question) → q.Answer → Prop
  | .find h k, f =>
    h = functions → k = key → ∃ name version, f = some (.native name (.of body) version)
  | _, _ => True

section Call

variable {h : Halt} {e : Failure} {body : Routine Callback Reply}
  {P : List Http.Reply → Except Failure Reply → Dispatch → Prop}
  {Q : List Http.Reply → Outcome → Prop}

theorem ensures_halt (h : Halt) :
    (halt scope h).Ensures d fun qs h' _ =>
      (∀ q ∈ qs, q.isRequest = false) ∧ h' = d.halted.getD h := by
  refine ensures_bind.2 (ensures_get.2 ?_)
  cases ended : d.halted with
  | some first => exact ensures_pure.2 ⟨List.forall_mem_nil _, rfl⟩
  | none =>
    refine ensures_bind.2 (ensures_modify.2 (ensures_bind.2 (ensures_observe.2 ?_)))
    refine ensures_bind.2 (ensures_note.2 (ensures_pure.2 ⟨?_, rfl⟩))
    simp [Question.isRequest]

theorem ensures_fail (e : Failure) :
    (fail scope c e).Ensures d fun qs o _ => (∀ q ∈ qs, q.isRequest = false) ∧
      o = .error (d.halted.getD (.fault e (some c.shownName) true)) := by
  refine ensures_bind.2 (ensures_note.2 (ensures_bind.2 ?_))
  refine Ensures.imp (ensures_halt _) fun qs h d' ended => ensures_pure.2 ⟨?_, ?_⟩
  · simpa [Question.isRequest] using ended.1
  · rw [ended.2]

/-- What a call gives once its function has returned or failed. A value that is returned leads to no
end but one that was there before, or the failure to print it. -/
structure Finishes (c : Call) (r : Except Failure Reply) (d : Dispatch) (o : Outcome) : Prop where
  halted : ∀ h, r = .ok (.halt h) → o = .error (d.halted.getD h)
  failed : ∀ e, r = .error e → o = .error (d.halted.getD (.fault e (some c.shownName) true))
  returned : ∀ v, r = .ok (.value v) → ∀ h, o = .error h →
    d.halted = some h ∨ h.unworded? = none

/-- Finishing a call makes no requests. -/
theorem ensures_finish (r : Except Failure Reply) :
    (finish scope c r).Ensures d fun qs o _ =>
      (∀ q ∈ qs, q.isRequest = false) ∧ Finishes c r d o := by
  match r with
  | .error e =>
    refine Ensures.imp (ensures_fail e) fun qs o _ ended =>
      ⟨ended.1, fun _ => nofun, ?_, fun _ => nofun⟩
    rintro _ ⟨rfl⟩
    exact ended.2
  | .ok (.halt h) =>
    refine ensures_bind.2 (Ensures.imp (ensures_halt h) fun qs h' _ ended => ?_)
    refine ensures_pure.2 ⟨by simpa using ended.1, ?_, fun _ => nofun, fun _ => nofun⟩
    rintro _ ⟨rfl⟩
    rw [ended.2]
  | .ok (.value v) =>
    have returns : (finish scope c (.ok (.value v))).Ensures d fun qs o _ =>
        (∀ q ∈ qs, q.isRequest = false) ∧
          ∀ h, o = .error h → d.halted = some h ∨ h.unworded? = none := by
      refine ensures_bind.2 (ensures_get.2 ?_)
      cases ended : d.halted with
      | some h =>
        refine ensures_pure.2 ⟨List.forall_mem_nil _, ?_⟩
        rintro _ ⟨⟩
        exact .inl rfl
      | none =>
        cases v.printed with
        | ok text => exact ensures_pure.2 ⟨List.forall_mem_nil _, nofun⟩
        | error e =>
          refine Ensures.imp (ensures_fail (.printing e)) fun qs o _ failed => ⟨failed.1, ?_⟩
          rintro h rfl
          rw [ended] at failed
          exact .inr (Except.error.inj failed.2 ▸ rfl)
    exact Ensures.imp returns fun qs o _ none =>
      ⟨none.1, fun _ => nofun, fun _ => nofun, fun _ _ => none.2⟩

/-- A call of a function receives the replies that its callback receives, and ends as the callback
has returned. -/
theorem receives_call_of_finish {key : String} {R : List Http.Reply → Outcome → Dispatch → Prop}
    (named : FunctionName.key (String.ofList c.name) = key)
    (spec : ReceivesCall (Finds scope.functions key body) scope remaining c ts body
      { d with depth := d.depth + 1 } P)
    (finished : ∀ rs r d', P rs r d' → (finish scope c r).Ensures d' fun qs o d'' =>
      (∀ q ∈ qs, q.isRequest = false) ∧ R rs o { d'' with depth := d''.depth - 1 }) :
    Receives (Finds scope.functions key body) (call scope (remaining + 1) c) d R := by
  have performed (name : String) (version : Value) :
      Receives (Finds scope.functions key body)
        (perform (render scope remaining) scope c (.native name (.of body) version))
        { d with depth := d.depth + 1 }
        fun rs o d' => R rs o { d' with depth := d'.depth - 1 } := by
    have invoked : Receives (Finds scope.functions key body)
        (invoke (render scope remaining) scope c (.native name (.of body) version))
        { d with depth := d.depth + 1 } P := by
      refine (spec [] fun i s found => by cases found).bind fun rs a d' holds => receives_pure ?_
      rw [List.append_nil]
      exact holds
    refine invoked.bind fun rs r d' holds => receives_observe_bind (receives_of_ensures ?_)
    rw [List.append_nil]
    exact finished rs r d' holds
  refine receives_ask_bind rfl fun f found => ?_
  obtain ⟨name, version, rfl⟩ := found rfl named
  refine receives_modify_bind (receives_observe_bind
    ((performed name version).bind fun rs o d' holds => ?_))
  refine receives_modify_bind (receives_observe_bind (receives_pure ?_))
  rw [List.append_nil]
  exact holds

theorem receives_call {key : String} (named : FunctionName.key (String.ofList c.name) = key)
    (spec : ReceivesCall (Finds scope.functions key body) scope remaining c ts body
      { d with depth := d.depth + 1 } P)
    (finished : ∀ rs r d' o, P rs r d' → Finishes c r d' o → Q rs o) :
    Receives (Finds scope.functions key body) (call scope (remaining + 1) c) d
      fun rs o _ => Q rs o :=
  receives_call_of_finish named spec fun rs r d' holds =>
    Ensures.imp (ensures_finish r) fun _ o _ finishes =>
      ⟨finishes.1, finished rs r d' o holds finishes.2⟩

/-- A command string that is a single call receives the replies that the call receives. -/
theorem receives_render {cs : List Char} {line : Int}
    {R : List Http.Reply → Outcome → Dispatch → Prop}
    (read : Script.segments cs line = .ok [.call c]) (unended : d.halted = none)
    (called : Receives admits (call scope remaining c) d R) :
    Receives admits (render scope remaining cs line) d R := by
  have evaluated : Receives admits (segments (call scope remaining) [.call c]) d R := by
    refine called.bind fun rs o d' holds => ?_
    cases o with
    | error h => exact receives_pure (by simpa using holds)
    | ok t =>
      refine receives_pure ?_
      simpa [Except.map] using holds
  refine receives_get_bind ?_
  rw [unended]
  refine receives_observe_bind ?_
  rw [read]
  refine Receives.bind evaluated fun rs o d' holds => receives_observe_bind (receives_pure ?_)
  rw [List.append_nil]
  exact holds

end Call

end Evaluation

namespace BuiltIn

open Evaluation

variable {admits : (q : Question) → q.Answer → Prop} {d : Dispatch} {scope : Scope}
  {remaining : Nat} {c : Call} {ts : List (List Char)} {failure url : String}

/-- The end of a dispatch for a failed exchange. -/
def exchangeEnd (c : Call) (failure : String) (e : Http.Error) : Halt :=
  .aborted "error" (some (Diagnostic.text c.shownName (failure ++ ": " ++ e.message) (some c.line)))
    (some c.shownName)

/-- What becomes of an error in place of a value: a failed exchange ends the dispatch, and anything
else is raised. -/
def Ended (c : Call) (failure : String) (d : Dispatch) (e : Http.Error)
    (a : Except Failure Reply) (d' : Dispatch) : Prop :=
  if e.isExchange then
    a = .ok (.halt (exchangeEnd c failure e)) ∧
      d' = { d with halted := some (exchangeEnd c failure e) }
  else a = .error (.http e) ∧ d' = d

/-- How a function returns that was given a value: with one that stands in it, or with the failure
to follow a path there. -/
def Followed (d : Dispatch) (a : Except Failure Reply) (d' : Dispatch) : Prop :=
  ((∃ w, a = .ok (.value w)) ∨ ∃ e, a = .error (.conversion e)) ∧ d' = d

/-- How a function returns for what its request gave. -/
structure Receiving (c : Call) (failure : String) (d : Dispatch) (x : Except Http.Error Value)
    (a : Except Failure Reply) (d' : Dispatch) : Prop where
  failed : ∀ e, x = .error e → Ended c failure d e a d'
  given : ∀ v, x = .ok v → Followed d a d'

/-- How a function returns that made a request. -/
def Settled [Yaml.Loader] (c : Call) (failure url : String) (d : Dispatch) (rs : List Http.Reply)
    (a : Except Failure Reply) (d' : Dispatch) : Prop :=
  ∃ x, Http.Attempted url 2 rs x ∧ Receiving c failure d x a d'

section Rules

variable {go : Routine Callback Reply}
  {post : List Http.Reply → Except Failure Reply → Dispatch → Prop}

theorem receives_withCount {expected : Int} {exact : Bool}
    (stands : Stands admits scope remaining c ts d) (enough : expected ≤ ts.length)
    (few : exact = true → ts.length = expected)
    (rest : ReceivesCall admits scope remaining c ts go d post) :
    ReceivesCall admits scope remaining c ts (withCount expected exact go) d post := by
  rw [withCount_eq]
  refine ReceivesCall.look fun v arguments _ => ?_
  rw [arguments, stands.length_eq, if_neg]
  · exact rest
  · simpa [enough] using few

theorem receives_unlessAborted (unended : d.halted = none)
    (rest : ReceivesCall admits scope remaining c ts go d post) :
    ReceivesCall admits scope remaining c ts (unlessAborted go) d post := by
  refine ReceivesCall.look fun v _ aborted => ?_
  have going : v.isAborted = false := by rw [aborted, Dispatch.isHalted, unended]; rfl
  show ReceivesCall admits scope remaining c ts (if v.isAborted then Routine.nothing else go)
    d post
  rw [going]
  exact rest

end Rules

/-- What is made of what a request gave needs no further requests. -/
theorem receives_received [Value.Attributes] (unended : d.halted = none) (path : Option String)
    (x : Except Http.Error Value) :
    ReceivesCall admits scope remaining c ts (received failure path x) d fun rs a d' =>
      rs = [] ∧ Receiving c failure d x a d' := by
  cases x with
  | ok v =>
    rw [received]
    split
    · exact ReceivesCall.done ⟨rfl, fun _ => nofun, fun _ _ => ⟨.inl ⟨_, rfl⟩, rfl⟩⟩
    · rename_i p _
      rw [follow]
      cases v.follow (Text.trim p.toList) with
      | ok w => exact ReceivesCall.done ⟨rfl, fun _ => nofun, fun _ _ => ⟨.inl ⟨w, rfl⟩, rfl⟩⟩
      | error e => exact ReceivesCall.raise ⟨rfl, fun _ => nofun, fun _ _ => ⟨.inr ⟨e, rfl⟩, rfl⟩⟩
  | error e =>
    rw [received]
    split
    · rename_i exchange
      refine ReceivesCall.ending unended ?_
      rintro h rfl
      refine ⟨rfl, ?_, fun _ => nofun⟩
      rintro _ ⟨rfl⟩
      rw [Ended, if_pos exchange]
      exact ⟨rfl, rfl⟩
    · rename_i other
      refine ReceivesCall.raise ⟨rfl, ?_, fun _ => nofun⟩
      rintro _ ⟨rfl⟩
      rw [Ended, if_neg other]
      exact ⟨rfl, rfl⟩

section Requests

variable [Yaml.Loader] [Value.Attributes]

/-- What is made of a request. -/
theorem receives_request (unended : d.halted = none) {p : Program Effects (Except Http.Error Value)}
    (requests : p.Meets (S := Effects) (fun q r => admits (.effect scope.logged q) r)
      fun xs x => Http.Attempted url 2 (Http.replies xs) x)
    (path : Option String) :
    ReceivesCall admits scope remaining c ts
      (Routine.ofProgram p >>= received failure path) d (Settled c failure url d) := by
  refine ReceivesCall.ofProgram requests fun rs x attempted => ?_
  intro memo holds
  refine (receives_received unended path x memo holds).imp fun rs' a d' received => ?_
  obtain ⟨rfl, ended⟩ := received
  rw [List.append_nil]
  exact ⟨x, attempted, ended⟩

/-- **Fetching a document** makes a request and returns as its replies say. -/
theorem receives_fetch (written : c.arguments = ts.map Script.escape) (unended : d.halted = none)
    (enough : 1 ≤ ts.length) :
    ReceivesCall admits scope remaining c ts fetch d
      (Settled c ("Failed to fetch " ++ textAt ts 0) (trimmed (textAt ts 0)) d) := by
  have stands : Stands admits scope remaining c ts d := .of_escaped written unended
  refine receives_withCount stands (by exact_mod_cast enough) nofun ?_
  refine ReceivesCall.argument? stands unended 0 (ReceivesCall.argument? stands unended 1 ?_)
  exact receives_unlessAborted unended (receives_request unended (Http.meets_get _) _)

/-- **Sending a document** does so as well, unless it cannot be found out whether the document is
the text of an object. -/
theorem receives_post (written : c.arguments = ts.map Script.escape) (unended : d.halted = none)
    (enough : 2 ≤ ts.length) :
    ReceivesCall admits scope remaining c ts post d fun rs a d' =>
      match Payload.readObject (textAt ts 1).toList with
      | .error e => rs = [] ∧ a = .error (.conversion e) ∧ d' = d
      | .ok _ =>
        Settled c ("Failed to post to " ++ textAt ts 0) (trimmed (textAt ts 0)) d rs a d' := by
  have stands : Stands admits scope remaining c ts d := .of_escaped written unended
  refine receives_withCount stands (by exact_mod_cast enough) nofun ?_
  refine ReceivesCall.argument? stands unended 0 (ReceivesCall.argument? stands unended 1 ?_)
  refine ReceivesCall.argument? stands unended 2 (receives_unlessAborted unended ?_)
  show ReceivesCall admits scope remaining c ts
    (Routine.lift .conversion (Payload.readObject (textAt ts 1).toList) >>= _) d _
  cases Payload.readObject (textAt ts 1).toList with
  | error e => exact ReceivesCall.raise ⟨rfl, rfl, rfl⟩
  | ok o => exact receives_request unended (Http.meets_post _ _ _) _

end Requests

end BuiltIn

end CommandScript
