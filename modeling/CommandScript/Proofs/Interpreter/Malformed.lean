import CommandScript.Proofs.Dispatch.Parsing
import CommandScript.World

/-!
# Results of malformed command strings

The result of a dispatch says that a command string is malformed exactly where the one that was
given is, unless a function has a body or a callback makes such an end up. Then nothing has been
evaluated, and the surroundings have only been told of it.

## Main definitions

- `CommandScript.Question.isIdle` — what may come up where nothing is evaluated
- `CommandScript.Evaluation.Quiet` — computations that evaluate nothing
- `CommandScript.Result.SaysMalformed` — results of malformed command strings

## Main results

- `CommandScript.Interpreter.ensures_handle` — when a result says that a command string is malformed
- `CommandScript.Interpreter.malformed_iff_unread` — the same among any surroundings, and what is
  within command strings that are not malformed
-/

namespace CommandScript

/-- Whether a question may come up where nothing is evaluated: a note or a diagnostic, but no call,
no lookup or change of functions, and no other effect. -/
def Question.isIdle : Question → Bool
  | .effect _ (.log _) => true
  | .notify .. => true
  | .observe _ (.entering ..) => false
  | .observe .. => true
  | _ => false

/-- The result of a malformed command string. -/
def Result.SaysMalformed (r : Result) : Prop :=
  r.status = .error ∧ r.reason = some Result.malformed

namespace Evaluation

variable {α β : Type} {scope : Scope} {d : Dispatch}

/-- Every run of a computation from a dispatch on evaluates nothing, and its result meets a
condition. -/
def Quiet {α : Type} (e : Evaluation α) (d : Dispatch) (post : α → Prop) : Prop :=
  e.Ensures d fun qs a _ => (∀ q ∈ qs, q.isIdle) ∧ post a

theorem Quiet.imp {e : Evaluation α} {post post' : α → Prop} (h : e.Quiet d post)
    (weaker : ∀ a, post a → post' a) : e.Quiet d post' :=
  Ensures.imp h fun _ _ _ r => ⟨r.1, weaker _ r.2⟩

theorem Quiet.bind {e : Evaluation α} {f : α → Evaluation β} {P : α → Prop} {post : β → Prop}
    (first : e.Quiet d P) (second : ∀ a d', P a → (f a).Quiet d' post) :
    (e >>= f).Quiet d post := by
  refine ensures_bind.2 (Ensures.imp first fun qs a d' r => ?_)
  refine Ensures.imp (second a d' r.2) fun rs b _ r' => ⟨fun q mem => ?_, r'.2⟩
  exact (List.mem_append.1 mem).elim (r.1 q) (r'.1 q)

theorem quiet_pure {a : α} {post : α → Prop} (h : post a) : (pure a : Evaluation α).Quiet d post :=
  ⟨List.forall_mem_nil _, h⟩

theorem quiet_get_bind {f : Dispatch → Evaluation β} {post : β → Prop} (h : (f d).Quiet d post) :
    (get >>= f).Quiet d post := h

theorem quiet_modify {g : Dispatch → Dispatch} :
    (modify g : Evaluation Unit).Quiet d fun _ => True := ⟨List.forall_mem_nil _, trivial⟩

theorem quiet_ask {q : Question} (idle : q.isIdle) : (ask q).Quiet d fun _ => True :=
  fun _ => ⟨fun _ mem => List.mem_singleton.1 mem ▸ idle, trivial⟩

theorem quiet_note {level : Log.Level} {source : Log.Source} {message : String} :
    (note scope level source message).Quiet d fun _ => True :=
  quiet_ask (q := .effect scope.logged (.log ⟨level, source, message⟩)) rfl

theorem quiet_report {function diagnostic : String} :
    (report scope function diagnostic).Quiet d fun _ => True :=
  quiet_note.bind fun _ _ _ => quiet_modify

/-- A command string that is malformed is not evaluated, and the dispatch ends because of it. -/
theorem quiet_render_of_error {remaining : Nat} {cs : List Char} {line : Int}
    {e : Script.ParseError} (unended : d.halted = none)
    (unread : Script.segments cs line = .error e) :
    (render scope remaining cs line).Quiet d fun o => ¬o.Sound := by
  have observed (d : Dispatch) (a : Activity) (idle : (Question.observe d a).isIdle) :
      (observe a).Quiet d fun _ => True := quiet_get_bind (quiet_ask idle)
  refine quiet_get_bind ?_
  rw [unended]
  -- Up to the end nothing changes in the dispatch, so the end that counts is the one asked for.
  have ending : (parsed (call scope remaining) scope (.error e)).Quiet d fun o => ¬o.Sound := by
    refine Quiet.bind (P := fun h => h.isMalformed = true) (quiet_get_bind ?_) fun h _ malformed =>
      quiet_pure fun sound => by simp [sound h rfl] at malformed
    rw [unended]
    refine quiet_modify.bind fun _ d _ => (observed d (.halting _) rfl).bind fun _ _ _ => ?_
    exact quiet_note.bind fun _ _ _ => quiet_pure rfl
  have rendered : Quiet (parsed (call scope remaining) scope (.error e) >>= fun o =>
      observe (.rendered cs line o) >>= fun _ => pure o) d fun o => ¬o.Sound :=
    ending.bind fun o d' unsound =>
      (observed d' (.rendered cs line o) rfl).bind fun _ _ _ => quiet_pure unsound
  rw [unread]
  refine ensures_bind.2 (ensures_observe.2 ?_)
  refine Ensures.imp rendered fun qs o _ r => ⟨fun q mem => ?_, r.2⟩
  obtain rfl | mem := List.mem_cons.1 mem
  · rfl
  · exact r.1 q mem

end Evaluation

namespace Interpreter

open Evaluation
open Script (WellFormed Within)

variable {scope : Scope} {d : Dispatch} {o : Outcome} {cs : List Char}

theorem quiet_route (function diagnostic : String) :
    (route scope function diagnostic).Quiet d fun _ => True := by
  unfold route
  split
  · exact quiet_pure trivial
  · exact quiet_report.bind fun _ _ _ => quiet_pure trivial

/-- There is a result, and it says that a command string is malformed. -/
def SaysMalformed (answered : Except Failure Result) : Prop :=
  ∃ r, answered = .ok r ∧ r.SaysMalformed

theorem saysMalformed_ok {r : Result} : SaysMalformed (.ok r) ↔ r.SaysMalformed :=
  ⟨fun ⟨_, same, said⟩ => Except.ok.inj same ▸ said, fun said => ⟨r, rfl, said⟩⟩

theorem not_saysMalformed_error (e : Failure) : ¬SaysMalformed (.error e) := by
  rintro ⟨r, same, -⟩
  cases same

theorem quiet_failed (e : Failure) (function : Option String) :
    (failed e function).Quiet d fun a => ¬SaysMalformed a := by
  unfold failed
  dsimp only
  split
  · exact quiet_pure (not_saysMalformed_error _)
  · refine quiet_get_bind (quiet_pure fun said => ?_)
    exact absurd (saysMalformed_ok.1 said).2 (by simp [Result.malformed, Result.failed])

/-- The result says that a command string is malformed where the dispatch ended because one was. -/
theorem quiet_conclude (o : Outcome) :
    (conclude scope o).Quiet d fun a => SaysMalformed a ↔ ¬o.Sound := by
  match o with
  | .ok text =>
    refine quiet_get_bind (quiet_pure (saysMalformed_ok.trans ?_))
    simp [Result.SaysMalformed, Outcome.Sound]
  | .error (.aborted reason diagnostic function) =>
    have sound : Outcome.Sound (.error (.aborted reason diagnostic function)) :=
      Outcome.sound_error rfl
    have verdict (output : Option String) (d : Dispatch) :
        SaysMalformed (.ok ⟨.aborted, output, diagnostic, some reason, d.effects, none⟩) ↔
          ¬Outcome.Sound (.error (.aborted reason diagnostic function)) :=
      saysMalformed_ok.trans (by simp [Result.SaysMalformed, sound])
    cases diagnostic with
    | none => exact quiet_get_bind (quiet_pure (d := d) (verdict none d))
    | some text =>
      refine Quiet.bind (P := fun r => SaysMalformed (.ok r) ↔ _) ?_ fun r _ met => quiet_pure met
      refine (quiet_route _ _).bind fun output d _ => ?_
      exact quiet_get_bind (quiet_pure (verdict output d))
  | .error (.fault e function traced) =>
    cases kind : e.isParse with
    | true =>
      obtain ⟨e, rfl⟩ := Failure.exists_of_isParse kind
      refine Quiet.bind (P := Result.SaysMalformed) ?_ fun r _ said =>
        quiet_pure (iff_of_true (saysMalformed_ok.2 said) fun sound => ?_)
      · refine quiet_note.bind fun _ _ _ => (quiet_route _ _).bind fun _ _ _ => ?_
        exact quiet_get_bind (quiet_pure ⟨rfl, rfl⟩)
      · exact absurd (sound _ rfl) (by simp [Halt.isMalformed])
    | false =>
      have sound : Outcome.Sound (.error (.fault e function traced)) := by
        refine Outcome.sound_error ?_
        cases e with
        | parse e => cases kind
        | _ => rfl
      rw [conclude_fault kind]
      exact (quiet_failed e function).imp fun a silent =>
        iff_of_false silent fun unsound => unsound sound

theorem quiet_notify (diagnostic : SideEffect) (listeners : List String) :
    (notify diagnostic listeners).Quiet d fun _ => True := by
  induction listeners generalizing d with
  | nil => exact quiet_pure trivial
  | cons l ls ih => exact Quiet.bind (quiet_ask (q := .notify l diagnostic) rfl) fun _ _ _ => ih

theorem quiet_notifyAll (listeners : List String) (diagnostics : List SideEffect) :
    (notifyAll listeners diagnostics).Quiet d fun _ => True := by
  induction diagnostics generalizing d with
  | nil => exact quiet_pure trivial
  | cons s rest ih => exact (quiet_notify s listeners).bind fun _ _ _ => ih

theorem quiet_tell (listeners : List String) (a : Except Failure Result) :
    (tell scope listeners a).Quiet d fun b => b = a := by
  cases a with
  | error e => exact quiet_pure rfl
  | ok r =>
    exact (quiet_notifyAll _ _).bind fun _ _ _ => quiet_note.bind fun _ _ _ => quiet_pure rfl

theorem quiet_concluded (listeners : List String) (o : Outcome) :
    Quiet (conclude scope o >>= tell scope listeners) d fun a => SaysMalformed a ↔ ¬o.Sound :=
  (quiet_conclude o).bind fun a _ verdict => (quiet_tell listeners a).imp fun _ same =>
    same ▸ verdict

/-- A dispatch says that its command string is malformed exactly where it is, and then evaluates
nothing. -/
theorem ensures_dispatch (listeners : List String) (cs : List Char) :
    (dispatch scope listeners cs).Ensures .start fun qs a _ =>
      ((∀ q ∈ qs, q.isInnocent) → (SaysMalformed a ↔ ∃ e, Script.segments cs 1 = .error e)) ∧
        ((∃ e, Script.segments cs 1 = .error e) → SaysMalformed a ∧ ∀ q ∈ qs, q.isIdle) := by
  refine ensures_bind.2 (ensures_note.2 ?_)
  cases read : Script.segments cs 1 with
  | error e =>
    refine Ensures.imp ((quiet_render_of_error rfl read).bind fun o d' unsound =>
      (quiet_concluded listeners o).imp fun r verdict => verdict.2 unsound) fun qs r _ met => ?_
    refine ⟨fun _ => iff_of_true met.2 ⟨e, rfl⟩, fun _ => ⟨met.2, fun q mem => ?_⟩⟩
    obtain rfl | mem := List.mem_cons.1 mem
    · rfl
    · exact met.1 q mem
  | ok parts =>
    have sound : Dispatch.Sound .start := fun _ eq => by cases eq
    refine Ensures.imp ((guarded_render _ cs 1 .start ⟨1, parts, read⟩ sound).bind fun o d' met =>
      Ensures.imp (quiet_concluded listeners o) fun _ r _ verdict _ =>
        mt verdict.2.1 fun unsound => unsound met.2) fun qs r _ met => ?_
    refine ⟨fun innocent => iff_of_false (met fun q mem => innocent q ?_) ?_, ?_⟩
    · exact List.mem_append_right _ mem
    · rintro ⟨e, eq⟩
      cases eq
    · rintro ⟨e, eq⟩
      cases eq

/-- The answer to a command string says that it is malformed exactly where it is, and there is one
then unless functions that it brings are refused. -/
theorem ensures_handle (i : Interpreter) (v : Invocation) :
    (i.handle v).Ensures fun qs answered =>
      (∀ r, answered = .ok r → (∀ q ∈ qs, q.isInnocent) →
        (r.SaysMalformed ↔ ∃ e, Script.segments v.source 1 = .error e)) ∧
      ((∃ e, Script.segments v.source 1 = .error e) →
        (∀ e, answered = .error e → v.functions ≠ [] ∧ qs = [.layer i.functions v.functions]) ∧
          ∀ q ∈ qs, q.isIdle ∨ v.functions ≠ [] ∧ q = .layer i.functions v.functions) := by
  have ran (functions : Handle) : (i.run functions v).Ensures fun qs a =>
      ((∀ q ∈ qs, q.isInnocent) →
        (SaysMalformed a ↔ ∃ e, Script.segments v.source 1 = .error e)) ∧
      ((∃ e, Script.segments v.source 1 = .error e) →
        SaysMalformed a ∧ ∀ q ∈ qs, q.isIdle) := by
    refine Program.ensures_bind.2 (Program.Ensures.imp (ensures_dispatch _ _) fun qs r met => ?_)
    show _ ∧ _
    rw [List.append_nil]
    exact met
  unfold handle
  split
  · refine Program.Ensures.imp (ran _) fun qs answered met => ⟨?_, fun unread => ⟨?_, ?_⟩⟩
    · rintro r rfl innocent
      exact saysMalformed_ok.symm.trans (met.1 innocent)
    · rintro e rfl
      exact absurd (met.2 unread).1 (not_saysMalformed_error e)
    · exact fun q mem => .inl ((met.2 unread).2 q mem)
  · next some =>
    have brings : v.functions ≠ [] := fun none => some (by rw [none]; rfl)
    refine fun answer => ?_
    cases answer with
    | error e =>
      refine ⟨?_, fun _ => ⟨fun _ _ => ⟨brings, rfl⟩, ?_⟩⟩
      · intro r eq
        cases eq
      · exact List.forall_mem_singleton.2 (.inr ⟨brings, rfl⟩)
    | ok functions =>
      show (i.run functions v).Ensures _
      refine Program.Ensures.imp (ran functions) fun qs answered met => ⟨?_, fun unread => ⟨?_, ?_⟩⟩
      · rintro r rfl innocent
        refine saysMalformed_ok.symm.trans (met.1 fun q mem => ?_)
        exact innocent q (List.mem_cons_of_mem _ mem)
      · rintro e rfl
        exact absurd (met.2 unread).1 (not_saysMalformed_error e)
      · refine List.forall_mem_cons.2 ⟨.inr ⟨brings, rfl⟩, fun q mem => ?_⟩
        exact .inl ((met.2 unread).2 q mem)

/-- **Only a malformed command string is reported as one.** What is within a well-formed command
string, an argument of a call in an argument of a call and so on, is well formed. So among any
surroundings, where no function with a body is called and no callback makes such a failure up, the
answer is an error for the reason of malformed command strings exactly where the command string
cannot be read. Then there is an answer, unless functions that the command string brings are
refused; no call is entered, and nothing is asked of the world but to take notes. -/
theorem malformed_iff_unread :
    (∀ cs t : List Char, WellFormed cs → Within cs t →
      ∀ line, ∃ parts, Script.segments t line = .ok parts) ∧
    ∀ (σ : Type) (answer : σ → (q : Question) → q.Answer × σ) (s : σ) (i : Interpreter)
      (v : Invocation) (qs : List Question) (answered : Except Failure Result),
      Program.asked (S := Questions) answer s (i.handle v) = qs →
      (Program.run (S := Questions) answer s (i.handle v)).1 = answered →
      ((∃ e, Script.segments v.source 1 = .error e) →
        ∀ e, answered = .error e → v.functions ≠ [] ∧ qs = [.layer i.functions v.functions]) ∧
        ∀ r, answered = .ok r → (∀ q ∈ qs, q.isInnocent) →
          ((r.status = .error ∧ r.reason = some Result.malformed) ↔
            ∃ e, Script.segments v.source 1 = .error e) ∧
          (r.status = .error ∧ r.reason = some Result.malformed →
            ∀ q ∈ qs, q.isIdle ∨ v.functions ≠ [] ∧ q = .layer i.functions v.functions) := by
  refine ⟨fun cs t wellFormed within => (wellFormed.within within).segments, ?_⟩
  rintro σ answer s i v qs answered rfl rfl
  have met := (ensures_handle i v).run answer s
  refine ⟨fun unread => (met.2 unread).1, fun r eq innocent => ?_⟩
  have verdict := met.1 r eq innocent
  exact ⟨verdict, fun malformed => (met.2 (verdict.1 malformed)).2⟩

/-- A world with one function, `$s`, that ends the dispatch for the reason of malformed command
strings. -/
def stopping : World :=
  let callback : Callback := .of (.abort Result.malformed none fun h => .done (.halt h))
  { World.empty .null with
    registries := ⟨[⟨.null, [], [("s", .native "$s" callback .null)]⟩]⟩ }

/-- An interpreter with the usual settings and no listeners. -/
def bare : Interpreter := ⟨.usual, 0, []⟩

/-- A command string without a name and without functions of its own. -/
def plain (source : List Char) : Invocation := ⟨source, .null, none, []⟩

/-- An argument of a call is read on any line, and a call that is not closed is reported. -/
theorem malformed_iff_unread_stopping :
    (∃ parts, Script.segments ['a'] 7 = .ok parts) ∧
    ∃ r, (Program.run (S := Questions) World.answer stopping
        (bare.handle (plain ['$', 's', '[']))).1 = .ok r ∧
      (r.status = .error ∧ r.reason = some Result.malformed) ∧
      ∀ q ∈ Program.asked (S := Questions) World.answer stopping
        (bare.handle (plain ['$', 's', '['])), q.isIdle := by
  have read : Script.segments ['$', 's', '[', 'a', ']'] 1 = .ok [.call ⟨['s'], ['a'], 0, 1⟩] :=
    (Script.segmentsFrom_call rfl rfl).trans (by rw [Script.segmentsFrom_nil]; rfl)
  have unread : Script.segments (plain ['$', 's', '[']).source 1 =
      .error (Script.unterminated ['s'] 0 1) := by
    exact Script.segmentsFrom_unterminated rfl rfl
  have within : Within ['$', 's', '[', 'a', ']'] ['a'] :=
    .argument .self read List.mem_cons_self List.mem_cons_self
  have ran : ∃ r, (Program.run (S := Questions) World.answer stopping
      (bare.handle (plain ['$', 's', '[']))).1 = .ok r := by
    unfold handle run dispatch render source
    rw [unread]
    exact ⟨_, rfl⟩
  have innocent : (Program.asked (S := Questions) World.answer stopping
      (bare.handle (plain ['$', 's', '[']))).all Question.isInnocent = true := by
    unfold handle run dispatch render source
    rw [unread]
    rfl
  obtain ⟨r, eq⟩ := ran
  have met := (malformed_iff_unread.2 World World.answer stopping bare (plain ['$', 's', '[']) _ _
    rfl eq).2 r rfl (List.all_eq_true.1 innocent)
  have malformed := met.1.2 ⟨_, unread⟩
  refine ⟨malformed_iff_unread.1 _ _ ⟨1, _, read⟩ within 7, r, eq, malformed, fun q mem => ?_⟩
  exact (met.2 malformed q mem).elim id fun brings => absurd rfl brings.1

/-- A callback may end the dispatch on purpose and give the same reason. -/
theorem not_malformed_iff_unread :
    ¬∀ (w : World) (i : Interpreter) (v : Invocation) (r : Result),
      (Program.run (S := Questions) World.answer w (i.handle v)).1 = .ok r →
      (∀ q ∈ Program.asked (S := Questions) World.answer w (i.handle v), q.isInnocent) →
      (r.reason = some Result.malformed ↔ ∃ e, Script.segments v.source 1 = .error e) := by
  intro claimed
  have read : Script.segments (plain ['$', 's', '[', ']']).source 1 =
      .ok [.call ⟨['s'], [], 0, 1⟩] :=
    (Script.segmentsFrom_call rfl rfl).trans (by rw [Script.segmentsFrom_nil]; rfl)
  have ran : ∃ r, (Program.run (S := Questions) World.answer stopping
      (bare.handle (plain ['$', 's', '[', ']']))).1 = .ok r ∧
        r.reason = some Result.malformed := by
    unfold handle run dispatch render source
    rw [read]
    exact ⟨_, rfl, rfl⟩
  have innocent : (Program.asked (S := Questions) World.answer stopping
      (bare.handle (plain ['$', 's', '[', ']']))).all Question.isInnocent = true := by
    unfold handle run dispatch render source
    rw [read]
    rfl
  obtain ⟨r, eq, reason⟩ := ran
  obtain ⟨e, unread⟩ := (claimed stopping bare (plain ['$', 's', '[', ']']) r eq
    (List.all_eq_true.1 innocent)).1 reason
  rw [read] at unread
  cases unread

end Interpreter

end CommandScript
