import CommandScript.Proofs.BuiltIn.Exchanges
import CommandScript.Proofs.Interpreter.Classification
import CommandScript.Proofs.Interpreter.Malformed
import CommandScript.Value.Attribute
import CommandScript.Yaml.Reader

/-!
# Exchanges that fail

Command strings that fetch or send one document each, with arbitrary texts, and whatever servers
reply. An exchange that fails ends the dispatch with a diagnostic. A request that is refused before
there is an exchange makes it a failure that no one expected, and so does a response that is no
success where the client cannot make a text of it.

## Main definitions

- `CommandScript.ExchangeCommand` — a command string that fetches or sends a document
- `CommandScript.ExchangeCommand.Judges` — what the last reply makes of a command
- `CommandScript.ExchangeCommand.Responds` — what comes of a command for the replies it received

## Main results

- `CommandScript.Interpreter.handle_of_receives` — a result and the replies of its evaluation
- `CommandScript.ExchangeCommand.failures_shown` — what comes of a command
- `CommandScript.ExchangeCommand.not_always_shown` — an address that is refused
-/

namespace CommandScript

namespace Interpreter

open Evaluation

variable {admits : (q : Question) → q.Answer → Prop} {d : Dispatch} {scope : Scope}
  {i : Interpreter} {v : Invocation} {Q : List Http.Reply → Outcome → Prop}

theorem isRequest_of_isQuiet {q : Question} (quiet : q.isQuiet = true) : q.isRequest = false := by
  cases q with
  | effect command q => cases q <;> first | rfl | cases quiet
  | _ => rfl

/-- Concluding a dispatch makes no requests, and what it comes to says how it ended. -/
theorem ensures_closing_settled (listeners : List String) {o : Outcome} {ended : Option Halt}
    (tells : o.Tells ended) :
    (closing scope listeners o).Ensures d fun qs a _ => (∀ q ∈ qs, q.isRequest = false) ∧
      o.Concluded a ∧ SettledBy scope.settings.textErrors scope.command ended a := by
  have settled : (conclude scope o).Ensures d _ := settled_conclude tells
  have both := (concluded_conclude o).and settled
  refine ensures_bind.2 (Ensures.imp ((ensures_conclude o).and both) ?_)
  intro qs r d' concluded
  obtain ⟨⟨notes, -⟩, settles⟩ := concluded
  refine Ensures.imp (ensures_tell listeners r) fun qs' r' _ told => ?_
  obtain ⟨quiet, rfl, -⟩ := told
  refine ⟨List.forall_mem_append.2 ⟨fun q mem => ?_, fun q mem => ?_⟩, settles⟩
  · exact isRequest_of_isQuiet (by rw [Question.isQuiet, notes q mem, Bool.true_or])
  · exact isRequest_of_isQuiet (quiet q mem)

/-- **What comes of a command string for the replies of its evaluation**, where it has no functions
of its own. -/
theorem handle_of_receives (alone : v.functions = [])
    (evaluated : Receives admits
      (render (i.scope i.functions v) i.settings.maxDepth v.source 1) .start fun rs o _ => Q rs o)
    {σ : Type} (answer : σ → (q : Question) → q.Answer × σ) (s : σ)
    (admitted : ∀ x ∈ Program.exchanges (S := Questions) answer s (i.handle v), admits x.1 x.2) :
    ∃ (o : Outcome) (ended : Option Halt), o.Tells ended ∧
      (o.Concluded (Program.run (S := Questions) answer s (i.handle v)).1 ∧
        SettledBy i.settings.textErrors v.command ended
          (Program.run (S := Questions) answer s (i.handle v)).1) ∧
      Q (replies (Program.exchanges (S := Questions) answer s (i.handle v))) o := by
  let scope := i.scope i.functions v
  have tells (o : Outcome) : ∃ ended, o.Tells ended := by
    cases o with
    | ok text => exact ⟨none, text, rfl⟩
    | error h => exact ⟨some h, rfl⟩
  have dispatched : Receives admits (dispatch scope i.listeners v.source) .start fun rs a _ =>
      ∃ o ended, Outcome.Tells o ended ∧
        (Outcome.Concluded o a ∧ SettledBy i.settings.textErrors v.command ended a) ∧ Q rs o := by
    rw [dispatch_eq]
    refine Receives.bind (receives_ask_bind rfl fun _ _ => evaluated) fun rs o d' holds => ?_
    obtain ⟨ended, told⟩ := tells o
    refine receives_of_ensures (Ensures.imp (ensures_closing_settled i.listeners told) ?_)
    intro qs a _ closed
    refine ⟨closed.1, o, ended, told, closed.2, ?_⟩
    rw [List.append_nil]
    exact holds
  have handled : i.handle v = i.run i.functions v := if_pos (List.isEmpty_iff.2 alone)
  have meets : Program.Meets (S := Questions) admits (i.handle v) fun xs a => ∃ o ended,
      Outcome.Tells o ended ∧
        (Outcome.Concluded o a ∧ SettledBy i.settings.textErrors v.command ended a) ∧
          Q (replies xs) o := by
    rw [handled]
    refine Program.meets_bind.2 (Program.Meets.imp dispatched ?_)
    rintro xs a ⟨o, ended, told, settles, holds⟩
    refine ⟨o, ended, told, settles, ?_⟩
    exact (congrArg (fun xs => Q (replies xs) o) (List.append_nil xs)).mpr holds
  exact Program.Meets.run meets answer s admitted

/-- A function is found under a key wherever a run looks for it, and its callback runs a routine. -/
def Offers (i : Interpreter) (key : String) (body : Routine Callback Reply) (xs : List Exchange) :
    Prop :=
  ∀ f, (⟨.find i.functions key, f⟩ : Exchange) ∈ xs →
    ∃ name version, f = some (.native name (.of body) version)

theorem Offers.finds {key : String} {body : Routine Callback Reply} {xs : List Exchange}
    (offers : i.Offers key body xs) (x : Exchange) (mem : x ∈ xs) :
    Finds i.functions key body x.1 x.2 := by
  obtain ⟨q, r⟩ := x
  cases q with
  | find h k =>
    rintro rfl rfl
    exact offers r mem
  | _ => trivial

end Interpreter

/-- A command string that fetches a document or sends one, and then may follow a path. -/
inductive ExchangeCommand where
  | fetch (url : String) (path : Option String)
  | post (url body : String) (path : Option String)

namespace ExchangeCommand

open Script Evaluation BuiltIn

/-- The address. -/
def url : ExchangeCommand → String
  | .fetch u _ => u
  | .post u _ _ => u

/-- The name of the function that is called. -/
def word : ExchangeCommand → List Char
  | .fetch .. => ['f', 'e', 't', 'c', 'h']
  | .post .. => ['p', 'o', 's', 't']

/-- The arguments of the call. -/
def texts : ExchangeCommand → List (List Char)
  | .fetch u p => [u.toList] ++ (p.map String.toList).toList
  | .post u b p => [u.toList, b.toList] ++ (p.map String.toList).toList

/-- The command string: a call whose arguments are texts with their escapes. -/
def source (c : ExchangeCommand) : List Char :=
  '$' :: c.word ++ '[' :: joined (c.texts.map escape) ++ [']']

/-- The function that is meant. -/
def function [Yaml.Loader] [Value.Attributes] : ExchangeCommand → Routine Callback Reply
  | .fetch .. => BuiltIn.fetch
  | .post .. => BuiltIn.post

/-- The list or mapping that is sent, where it can be found out whether it is one. -/
def object? : ExchangeCommand → Except ConversionError (Option Value)
  | .fetch .. => .ok none
  | .post _ b _ => Payload.readObject b.toList

/-- What has failed where an exchange does. -/
def failure : ExchangeCommand → String
  | .fetch u _ => "Failed to fetch " ++ u
  | .post u _ _ => "Failed to post to " ++ u

/-- A result with the diagnostic of a failed exchange, given the wording of what went wrong. -/
structure Shows (c : ExchangeCommand) (wording : String) (r : Result) : Prop where
  status : r.status = .aborted
  reason : r.reason = some "error"
  message : r.message = some
    (Diagnostic.text ("$" ++ String.ofList c.word) (c.failure ++ ": " ++ wording) (some 1))

/-- A result that says that the dispatch failed in a way that no one expected. -/
def Fails (r : Result) : Prop := r.status = .error ∧ r.reason = some Result.failed

/-- What a fault makes of a command. One of the exchange is shown; one that is not, as where the
request is refused, is a failure that no one expected. -/
def Blames (c : ExchangeCommand) (r : Result) (f : Http.Fault) : Prop :=
  if f.faultClass = .refused then Fails r else c.Shows f.message r

/-- What the last reply makes of a command. A response that is no success is shown with the start of
the text that the client makes of it, or does what a fault does that comes in place of the text. -/
def Judges (c : ExchangeCommand) (r : Result) : Http.Reply → Prop
  | .response x => ¬(200 ≤ x.status ∧ x.status < 300) →
    (∀ text, x.text = .ok text → c.Shows
      ("HTTP " ++ Numeral.intTextUnlimited x.status ++ " for " ++ trimmed c.url ++ ": " ++
        String.ofList (text.toList.take 200)) r) ∧
      ∀ f, x.text = .error f → c.Blames r f
  | .fault f => c.Blames r f

/-- What comes of a command for the replies it received. -/
structure Responds (c : ExchangeCommand) (rs : List Http.Reply) (r : Result) : Prop where
  /-- Nothing is sent where it cannot be found out whether it is the text of an object. -/
  unreadable : ∀ e, c.object? = .error e → rs = [] ∧ Fails r
  /-- Otherwise there are up to three replies, all but the last of which are faults of transport. -/
  attempted : ∀ o, c.object? = .ok o → ∃ before last, rs = before ++ [last] ∧
    (∀ x ∈ before, x.Passes) ∧ before.length ≤ 2 ∧ (last.Passes → before.length = 2) ∧
    c.Judges r last

variable {c : ExchangeCommand} {i : Interpreter} {v : Invocation} {d : Dispatch}

theorem isIdentifier_word (c : ExchangeCommand) : IsIdentifier c.word := by
  cases c with
  | fetch => exact isName_iff.1 (show isName ['f', 'e', 't', 'c', 'h'] = true by decide)
  | post => exact isName_iff.1 (show isName ['p', 'o', 's', 't'] = true by decide)

/-- The call that a command is read as. -/
def call (c : ExchangeCommand) : Call := ⟨c.word, joined (c.texts.map escape), 0, 1⟩

theorem segments_command (c : ExchangeCommand) : segments c.source 1 = .ok [.call c.call] :=
  segments_call_escaped c.isIdentifier_word c.texts 1

theorem arguments_call (some : c.texts ≠ [[]]) : c.call.arguments = c.texts.map escape :=
  arguments_escaped (by cases c <;> simp [texts]) some

theorem textAt_url (c : ExchangeCommand) : textAt c.texts 0 = c.url := by
  cases c <;> simp [textAt, texts, url]

theorem textAt_body (u b : String) (p : Option String) : textAt (post u b p).texts 1 = b := by
  simp [textAt, texts]

/-- What the function of a command makes of the replies it receives. -/
theorem receives_function [Yaml.Loader] [Value.Attributes]
    {admits : (q : Question) → q.Answer → Prop} {scope : Scope} {remaining : Nat}
    (some : c.texts ≠ [[]]) (unended : d.halted = none) :
    ReceivesCall admits scope remaining c.call c.texts c.function d fun rs a d' =>
      match c.object? with
      | .error e => rs = [] ∧ a = .error (.conversion e) ∧ d' = d
      | .ok _ => Settled c.call c.failure (trimmed c.url) d rs a d' := by
  have written : c.call.arguments = c.texts.map escape := arguments_call some
  have address := textAt_url c
  cases c with
  | fetch u p =>
    have fetches : ReceivesCall admits scope remaining _ _ BuiltIn.fetch d _ :=
      receives_fetch written unended (show 1 ≤ _ by simp [texts])
    rw [address] at fetches
    exact fetches
  | post u b p =>
    have posts : ReceivesCall admits scope remaining _ _ BuiltIn.post d _ :=
      receives_post written unended (show 2 ≤ _ by simp [texts])
    rw [address, textAt_body] at posts
    exact posts

/-- How the evaluation of a command ends for what its request gave. -/
structure Answers (c : ExchangeCommand) (x : Except Http.Error Value) (o : Outcome) : Prop where
  failed : ∀ e, x = .error e → o = .error (if e.isExchange then exchangeEnd c.call c.failure e
    else .fault (.http e) (some c.call.shownName) true)
  given : ∀ v, x = .ok v → ∀ h, o = .error h → h.unworded? = none

theorem answers_of_receiving {x : Except Http.Error Value} {a : Except Failure Reply}
    {d' : Dispatch} {o : Outcome} (unended : d.halted = none)
    (receiving : Receiving c.call c.failure d x a d') (finishes : Finishes c.call a d' o) :
    c.Answers x o := by
  refine ⟨fun e failed => ?_, fun v given h ended => ?_⟩
  · have ends := receiving.failed e failed
    unfold Ended at ends
    split at ends
    · rename_i exchange
      obtain ⟨rfl, rfl⟩ := ends
      rw [if_pos exchange]
      exact finishes.halted _ rfl
    · rename_i other
      obtain ⟨rfl, rfl⟩ := ends
      rw [if_neg other, finishes.failed _ rfl, unended]
      rfl
  · obtain ⟨⟨w, rfl⟩ | ⟨e, rfl⟩, rfl⟩ := receiving.given v given
    · exact (finishes.returned w rfl h ended).resolve_left (by rw [unended]; nofun)
    · have fault := finishes.failed _ rfl
      rw [unended, ended] at fault
      exact Except.error.inj fault ▸ rfl

section Requests

variable [Yaml.Loader]

/-- How the evaluation of a command ends for the replies it received. -/
def Ends (c : ExchangeCommand) (rs : List Http.Reply) (o : Outcome) : Prop :=
  match c.object? with
  | .error e => rs = [] ∧ o = .error (.fault (.conversion e) (some c.call.shownName) true)
  | .ok _ => ∃ x, Http.Attempted (trimmed c.url) 2 rs x ∧ c.Answers x o

theorem ends_of_settled {rs : List Http.Reply} {a : Except Failure Reply} {d' : Dispatch}
    {o : Outcome} {t : Option Value} (readable : c.object? = .ok t) (unended : d.halted = none)
    (settled : Settled c.call c.failure (trimmed c.url) d rs a d')
    (finishes : Finishes c.call a d' o) : c.Ends rs o := by
  obtain ⟨x, attempted, receiving⟩ := settled
  rw [Ends, readable]
  exact ⟨x, attempted, answers_of_receiving unended receiving finishes⟩

/-- However a command ends, its end can be put into words. -/
theorem unworded?_of_ends {rs : List Http.Reply} {o : Outcome} (ends : c.Ends rs o) :
    ∀ h, o = .error h → h.unworded? = none := by
  intro h ended
  unfold Ends at ends
  split at ends
  · exact Except.error.inj (ended.symm.trans ends.2) ▸ rfl
  · obtain ⟨x, -, answers⟩ := ends
    cases x with
    | ok v => exact answers.given v rfl h ended
    | error e =>
      have same := Except.error.inj (ended.symm.trans (answers.failed e rfl))
      subst same
      split <;> rfl

/-- The evaluation of a command makes its request and ends as the replies say. -/
theorem receives_source [Value.Attributes] (some : c.texts ≠ [[]]) :
    Receives (Finds i.functions (FunctionName.key (String.ofList c.word)) c.function)
      (render (i.scope i.functions v) i.settings.maxDepth c.source 1) .start
      fun rs o _ => c.Ends rs o := by
  obtain ⟨remaining, depth⟩ : ∃ remaining, i.settings.maxDepth = remaining + 1 :=
    Nat.exists_eq_succ_of_ne_zero (Nat.ne_of_gt i.settings.one_le_maxDepth)
  rw [depth]
  refine receives_render (segments_command c) rfl ?_
  refine receives_call rfl (receives_function some rfl) fun rs a d' o does finishes => ?_
  cases readable : c.object? with
  | ok t =>
    rw [readable] at does
    exact ends_of_settled readable rfl does finishes
  | error e =>
    rw [readable] at does
    obtain ⟨rfl, rfl, rfl⟩ := does
    rw [Ends, readable]
    exact ⟨rfl, finishes.failed _ rfl⟩

end Requests

section Results

variable {o : Outcome} {ended : Option Halt} {a : Except Failure Result} {r : Result}
  {rs : List Http.Reply} {textErrors : Bool} {command : Option String}

theorem shows_of_exchange {e : Http.Error}
    (failed : o = .error (exchangeEnd c.call c.failure e)) (tells : o.Tells ended)
    (concluded : o.Concluded a) (settled : SettledBy textErrors command ended a)
    (result : a = .ok r) : c.Shows e.message r := by
  subst failed
  obtain ⟨r', same, status, reason⟩ := concluded.aborted _ _ _ rfl
  obtain rfl := Except.ok.inj (same.symm.trans result)
  obtain rfl := Outcome.tells_error.1 tells
  obtain ⟨_, diagnostic, _, same, -, message, -⟩ := (settled.settles result).aborted.1 status
  obtain ⟨-, rfl, -⟩ := Halt.aborted.inj (Option.some.inj same)
  exact ⟨status, reason, message⟩

theorem fails_of_fault {e : Failure} {function : Option String} {traced : Bool}
    (failed : o = .error (.fault e function traced)) (other : e.isParse = false)
    (tells : o.Tells ended) (settled : SettledBy textErrors command ended a)
    (result : a = .ok r) : Fails r := by
  subst failed
  obtain rfl := Outcome.tells_error.1 tells
  have output := (settled.settles result).output _ rfl
  rw [Interpreter.diagnostic?_fault other, ite_self] at output
  exact (settled.settles result).failed.2 ⟨e, function, traced, rfl, other, output⟩

theorem blames_of_fault {f : Http.Fault} (answers : c.Answers (.error (.fault f)) o)
    (tells : o.Tells ended) (concluded : o.Concluded a)
    (settled : SettledBy textErrors command ended a) (result : a = .ok r) : c.Blames r f := by
  have failed := answers.failed _ rfl
  unfold Blames
  split
  · rename_i refused
    rw [if_neg (by simp [Http.Error.isExchange, refused])] at failed
    exact fails_of_fault failed rfl tells settled result
  · rename_i exchange
    rw [if_pos (by simpa [Http.Error.isExchange] using exchange)] at failed
    exact shows_of_exchange failed tells concluded settled result

variable [Yaml.Loader]

theorem judges_of_answers {last : Http.Reply} (answers : c.Answers (last.outcome (trimmed c.url)) o)
    (tells : o.Tells ended) (concluded : o.Concluded a)
    (settled : SettledBy textErrors command ended a) (result : a = .ok r) : c.Judges r last := by
  cases last with
  | response x =>
    refine fun unsuccessful => ⟨fun text made => ?_, fun f made => ?_⟩
    · rw [Http.Reply.outcome, Http.valueOf, if_neg unsuccessful, made] at answers
      exact shows_of_exchange (answers.failed _ rfl) tells concluded settled result
    · rw [Http.Reply.outcome, Http.valueOf, if_neg unsuccessful, made] at answers
      exact blames_of_fault answers tells concluded settled result
  | fault f => exact blames_of_fault answers tells concluded settled result

theorem responds_of_ends (ends : c.Ends rs o) (tells : o.Tells ended) (concluded : o.Concluded a)
    (settled : SettledBy textErrors command ended a) : ∃ r, a = .ok r ∧ c.Responds rs r := by
  have worded : ended.bind Halt.unworded? = none := by
    cases o with
    | ok text => rw [Outcome.tells_ok.1 tells]; rfl
    | error h => rw [Outcome.tells_error.1 tells]; exact unworded?_of_ends ends h rfl
  obtain ⟨r, result, -⟩ := settled.worded worded
  refine ⟨r, result, ?_⟩
  unfold Ends at ends
  cases readable : c.object? with
  | error e =>
    rw [readable] at ends
    refine ⟨fun _ _ => ⟨ends.1, fails_of_fault ends.2 rfl tells settled result⟩, fun o read => ?_⟩
    cases readable.symm.trans read
  | ok t =>
    rw [readable] at ends
    obtain ⟨x, ⟨before, last, same, passes, few, all, rfl⟩, answers⟩ := ends
    refine ⟨fun e unread => ?_, fun _ _ => ⟨before, last, same, passes, few, all, ?_⟩⟩
    · cases readable.symm.trans unread
    · exact judges_of_answers answers tells concluded settled result

end Results

section Requests

variable [Yaml.Loader] [Value.Attributes]

/-- What comes of a command where the built-in function is found under its name. -/
theorem responds_handle (given : c.texts ≠ [[]]) (written : v.source = c.source)
    (alone : v.functions = []) {σ : Type} (answer : σ → (q : Question) → q.Answer × σ) (s : σ)
    (admitted : ∀ x ∈ Program.exchanges (S := Questions) answer s (i.handle v),
      Finds i.functions (FunctionName.key (String.ofList c.word)) c.function x.1 x.2) :
    ∃ r, (Program.run (S := Questions) answer s (i.handle v)).1 = .ok r ∧
      c.Responds (replies (Program.exchanges (S := Questions) answer s (i.handle v))) r := by
  have evaluated := receives_source (i := i) (v := v) given
  rw [← written] at evaluated
  obtain ⟨o, ended, tells, ⟨concluded, settled⟩, ends⟩ :=
    Interpreter.handle_of_receives alone evaluated answer s admitted
  exact responds_of_ends ends tells concluded settled

/-- A function is found under its name wherever a run looks for it. -/
def Offered (c : ExchangeCommand) (i : Interpreter) (xs : List Exchange) : Prop :=
  ∀ f, (⟨.find i.functions (FunctionName.key (String.ofList c.word)), f⟩ : Exchange) ∈ xs →
    ∃ name version, f = some (.native name (.of c.function) version)

theorem Offered.finds {xs : List Exchange} (offered : c.Offered i xs) (x : Exchange)
    (mem : x ∈ xs) :
    Finds i.functions (FunctionName.key (String.ofList c.word)) c.function x.1 x.2 :=
  Interpreter.Offers.finds offered x mem

/-- **Failed exchanges are shown.** Take a command string that fetches or sends a document, with any
texts as the address, the document and a path, unless nothing is given at all; any interpreter; and
any surroundings in which the built-in function is found under its name. Whatever is replied, and in
whichever order, whatever the client makes of a response as a text, and whatever documents and
attributes are read as, there is a result. Where it cannot be found out whether what is sent is the
text of an object, nothing is sent. Otherwise the request is made up to three times, as long as the
transport fails; and if the last reply is no success, the dispatch ends for the reason `error` with
the diagnostic of the command, except where the request was refused before there was an exchange, or
where the client fails to make a text of the response in a way that is no fault of an exchange. -/
theorem failures_shown (c : ExchangeCommand) (i : Interpreter) (v : Invocation)
    (given : c.texts ≠ [[]]) (written : v.source = c.source) (alone : v.functions = []) {σ : Type}
    (answer : σ → (q : Question) → q.Answer × σ) (s : σ)
    (offered : c.Offered i (Program.exchanges (S := Questions) answer s (i.handle v))) :
    ∃ r, (Program.run (S := Questions) answer s (i.handle v)).1 = .ok r ∧
      c.Responds (replies (Program.exchanges (S := Questions) answer s (i.handle v))) r :=
  responds_handle given written alone answer s offered.finds

end Requests

/-- A world in which there is one function and every server replies the same. -/
def steady (f : Descriptor Callback) (reply : Http.Reply) :
    World → (q : Question) → q.Answer × World
  | w, .find .. => (some f, w)
  | w, .effect _ (.send _) => (reply, w)
  | w, q => w.answer q

section Steady

variable {α : Type} {body : Routine Callback Reply} {reply : Http.Reply} {w : World}
  {p : Program Questions α}

/-- The function that there is, under a name. -/
def only (body : Routine Callback Reply) : Descriptor Callback := .native "$f" (.of body) .null

theorem offered_steady [Yaml.Loader] [Value.Attributes] : c.Offered i
    (Program.exchanges (S := Questions) (steady (only c.function) reply) w p) := by
  intro g mem
  obtain ⟨w', told⟩ := Program.exists_answer_of_mem_exchanges mem
  exact ⟨_, _, told⟩

theorem last_eq_of_steady {before : List Http.Reply} {last : Http.Reply} {f : Descriptor Callback}
    (all : replies (Program.exchanges (S := Questions) (steady f reply) w p) = before ++ [last]) :
    last = reply := by
  have mem : last ∈ replies (Program.exchanges (S := Questions) (steady f reply) w p) := by
    rw [all]
    exact List.mem_append_right _ (List.mem_singleton_self _)
  obtain ⟨⟨q, r⟩, mem, told⟩ := List.mem_filterMap.1 mem
  obtain ⟨w', same⟩ := Program.exists_answer_of_mem_exchanges mem
  cases q with
  | effect command q =>
    cases q with
    | send request => exact (Option.some.inj told).symm.trans same
    | _ => cases told
  | _ => cases told

end Steady

/-- A server that cannot be found. -/
def missing : Http.Reply := .response ⟨404, [], none, .ok ""⟩

/-- A response that is no success is shown. -/
theorem failures_shown_missing :
    let c : ExchangeCommand := .fetch "a" none
    let answer := steady (only c.function) missing
    let handled := Interpreter.bare.handle (Interpreter.plain c.source)
    let w := World.empty .null
    c.texts ≠ [[]] ∧
      c.Offered Interpreter.bare (Program.exchanges (S := Questions) answer w handled) ∧
      ∃ r, (Program.run (S := Questions) answer w handled).1 = .ok r ∧
        c.Shows "HTTP 404 for a: " r := by
  intro c answer handled w
  have given : c.texts ≠ [[]] := by decide
  have offered : c.Offered Interpreter.bare
      (Program.exchanges (S := Questions) answer w handled) := offered_steady
  refine ⟨given, offered, ?_⟩
  obtain ⟨r, result, responds⟩ := failures_shown c Interpreter.bare (Interpreter.plain c.source)
    given rfl rfl answer w offered
  obtain ⟨before, last, all, -, -, -, judges⟩ := responds.attempted none rfl
  have same : last = missing := last_eq_of_steady all
  subst same
  have wording : "HTTP " ++ Numeral.intTextUnlimited 404 ++ " for " ++ trimmed "a" ++ ": " ++
      String.ofList ("".toList.take 200) = "HTTP 404 for a: " := by
    decide +kernel
  have unsuccessful : ¬(200 ≤ (404 : Int) ∧ (404 : Int) < 300) := by decide
  exact ⟨r, result, wording ▸ (judges unsuccessful).1 "" rfl⟩

/-- The fault of an address that is refused. -/
def unfit : Http.Fault := ⟨"InvalidURL", "Invalid port"⟩

/-- **A request that is refused** is no success, and is not shown as a failed exchange. -/
theorem not_always_shown :
    ¬∀ (c : ExchangeCommand) (i : Interpreter) (v : Invocation), c.texts ≠ [[]] →
      v.source = c.source → v.functions = [] →
      ∀ (σ : Type) (answer : σ → (q : Question) → q.Answer × σ) (s : σ),
        c.Offered i (Program.exchanges (S := Questions) answer s (i.handle v)) →
        ∀ r before last, (Program.run (S := Questions) answer s (i.handle v)).1 = .ok r →
          replies (Program.exchanges (S := Questions) answer s (i.handle v)) = before ++ [last] →
          (∀ x, last = .response x → ¬(200 ≤ x.status ∧ x.status < 300)) →
          r.status = .aborted ∧ r.reason = some "error" := by
  intro always
  let c : ExchangeCommand := .fetch "a" none
  let v := Interpreter.plain c.source
  let answer := steady (only c.function) (.fault unfit)
  let w := World.empty .null
  have offered : c.Offered Interpreter.bare
      (Program.exchanges (S := Questions) answer w (Interpreter.bare.handle v)) := offered_steady
  obtain ⟨r, result, responds⟩ :=
    responds_handle (c := c) (by decide) rfl rfl answer w offered.finds
  obtain ⟨before, last, all, -, -, -, judges⟩ := responds.attempted none rfl
  have same : last = .fault unfit := last_eq_of_steady all
  subst same
  have aborted := always c Interpreter.bare v (by decide) rfl rfl World answer w offered r before _
    result all (fun _ => nofun)
  have fails : Fails r := judges
  cases aborted.1.symm.trans fails.1

end ExchangeCommand

end CommandScript
