import CommandScript.Dispatch.Basic

/-!
# Results

What comes of a command string: whether it was evaluated to its end, what there is to show, and
which messages it left.

## Main definitions

- `CommandScript.Status` — how a dispatch went
- `CommandScript.Result` — what comes of a dispatch
- `CommandScript.Result.errors` — the diagnostics that were kept apart from the output
- `CommandScript.Result.errorText` — what to say about a dispatch that did not succeed
-/

namespace CommandScript

/-- How a dispatch went. -/
inductive Status where
  | success
  | aborted
  | error
  deriving DecidableEq, Repr

/-- The word for how a dispatch went. -/
def Status.word : Status → String
  | .success => "success"
  | .aborted => "aborted"
  | .error => "error"

/-- What comes of a dispatch. -/
structure Result where
  status : Status
  output : Option String
  message : Option String
  reason : Option String
  sideEffects : List SideEffect
  /-- The failure that ended the dispatch, if no one expected it. -/
  cause : Option Failure

namespace Result

/-- The reason of dispatches that are malformed. -/
def malformed : String := "parse"

/-- The reason of dispatches that failed. -/
def failed : String := "fault"

/-- The diagnostics that were kept apart from the output. -/
def errors (r : Result) : List SideEffect := r.sideEffects.filter SideEffect.isError

/-- Whether the dispatch failed in a way that no one expected. -/
def isFault (r : Result) : Bool := r.status = .error && r.reason = some failed

/-- What to say about a dispatch with the given status, diagnostic and reason. -/
def errorTextOf (succeeded : Bool) (message reason : Option String) : String :=
  if succeeded then ""
  else ((message.filter (· ≠ "")).or (reason.filter (· ≠ ""))).getD "Unknown error"

/-- What to say about a dispatch that did not succeed. -/
def errorText (r : Result) : String :=
  errorTextOf (r.status = .success) r.message r.reason

/-- Whether a message is a diagnostic, given its topics as a value. -/
def isErrorTopic (topics : Value) : Bool :=
  match topics.sequence?, topics.text? with
  | some ts, _ => ts.any fun t => t.equal (.text SideEffect.errorTopic)
  | none, some s => Payload.contains SideEffect.errorTopic.toList s.toList
  | none, none => false

end Result

end CommandScript
