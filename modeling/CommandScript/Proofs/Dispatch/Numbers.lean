import CommandScript.Proofs.Dispatch.Escaped
import CommandScript.Proofs.Dispatch.Parsing
import CommandScript.Proofs.Dispatch.Returns
import CommandScript.Proofs.Printed
import CommandScript.World

/-!
# Numbers that are passed from call to call

A call that returns a number may be the argument of another one. The function that reads the
argument sees a number equal to the one that was returned, and takes it for a number. A double that
is printed with an exponent is not read back: the function sees the text, and the dispatch ends.

## Main definitions

- `CommandScript.Routine.numberAt` — reading an argument that should be a number

## Main results

- `CommandScript.Routine.checkKindsFrom_of_numbers` — the check of kinds lets numbers pass
- `CommandScript.Evaluation.routine_judged`, `run_judged_text` — what passes for a number
- `CommandScript.Evaluation.numbers_passed` — numbers survive as text, unless they are minute
-/

namespace CommandScript

open Script (Call)

namespace Routine

/-- A value, and whether it passes for a number. -/
def judged (w : Value) : Routine Callback (Option Value × Bool) :=
  checkKinds [w] ["number"] >>= fun passes => .done (some w, passes)

/-- Reads an argument as a value, and checks that it is a number. -/
def numberAt (i : Int) : Routine Callback (Option Value × Bool) := do
  let v ← value? i
  let passes ← checkKinds [v.getD .null] ["number"]
  return (v, passes)

/-- The value of an argument, from its text on. -/
def valueOf? : Option String → Routine Callback (Option Value)
  | none => .done none
  | some text => lift .conversion
      (((Script.scalar text).mapError (Numeral.IntError.conversion (Text.quoted text))).map some)

/-- The check of an argument, from its text on. -/
def checkedNumber (text : Option String) : Routine Callback (Option Value × Bool) := do
  let v ← valueOf? text
  let passes ← checkKinds [v.getD .null] ["number"]
  return (v, passes)

theorem checkedNumber_some {text : String} {w : Value} (read : Script.scalar text = .ok w) :
    checkedNumber (some text) = judged w := by
  rw [checkedNumber, valueOf?, read]
  rfl

section Kinds

variable {C : Type} {name text : String} {position : Nat} {v w : Value} {vs : List Value}

theorem alternatives_number : alternatives "number" = ["number"] := by decide

theorem unknownKinds_number : unknownKinds ["number"] = [] := by decide +kernel

theorem contains_number_iff : ["number"].contains v.kind.name = true ↔ v.kind = .number := by
  cases v.kind <;> decide

/-- Numbers are of the kind that is expected of them. -/
theorem checkKindsFrom_of_numbers (all : ∀ v ∈ vs, v.kind = .number) :
    (checkKindsFrom name position vs (vs.map fun _ => Kind.number.name) : Routine C Bool) =
      .done true := by
  induction vs generalizing position with
  | nil => rfl
  | cons v vs ih =>
    obtain ⟨first, rest⟩ := List.forall_mem_cons.1 all
    show (checkKindsFrom name position (v :: vs)
      ("number" :: vs.map fun _ => Kind.number.name) : Routine C Bool) = .done true
    rw [checkKindsFrom, alternatives_number, unknownKinds_number]
    exact (if_pos (contains_number_iff.2 first)).trans (ih rest)

/-- The message about a text in place of a number. -/
def textForNumber (text : String) : String :=
  "The " ++ ordinal (1 : Nat) ++ " argument expects " ++ "number" ++ ", got " ++ "string" ++ " (" ++
    Text.quoted text ++ ")"

theorem checkKindsFrom_text :
    (checkKindsFrom name 1 [.text text] ["number"] : Routine C Bool) =
      .abort "type" (some (textForNumber text)) fun _ => .done false := by
  have other : ¬(["number"].contains (Value.text text).kind.name) = true := by
    show ¬(["number"].contains "string") = true
    decide
  have shown : (lift .conversion (Value.text text).literalText : Routine C String) =
      .done (Text.quoted text) := rfl
  rw [checkKindsFrom, alternatives_number, unknownKinds_number]
  rw [if_neg (by decide), if_neg other, shown, textForNumber]
  rfl

end Kinds

end Routine

namespace Evaluation

open Routine

variable {σ : Type} {answer : σ → (q : Question) → q.Answer × σ} {s : σ}
  {render : List Char → Int → Evaluation Outcome} {scope : Scope} {c : Call} {memo : Memo}
  {d : Dispatch} {w : Value} {text : String}

theorem routine_judged (kind : w.kind = .number) :
    routine render scope c memo (judged w) d =
      (pure (.ok (some w, true), memo) :
        Evaluation (Except Failure (Option Value × Bool) × Memo)) d := by
  show routine render scope c memo
    (checkKindsFrom c.shownName 1 [w] ["number"] >>= fun passes => .done (some w, passes)) d = _
  have all : ∀ v ∈ [w], v.kind = .number := List.forall_mem_singleton.2 kind
  rw [show ["number"] = [w].map fun _ => Kind.number.name from rfl, checkKindsFrom_of_numbers all]
  rfl

theorem run_judged_text (answer : σ → (q : Question) → q.Answer × σ) (s : σ)
    (render : List Char → Int → Evaluation Outcome) (scope : Scope) (c : Call) (memo : Memo)
    (text : String) (unended : d.halted = none) :
    ∃ d' s', Program.run (S := Questions) answer s
        (routine render scope c memo (judged (.text text)) d) =
        (((.ok (some (.text text), false), memo), d'), s') ∧
      d'.halted = some (.aborted "type"
        (some (Diagnostic.text c.shownName (textForNumber text) (some c.line)))
        (some c.shownName)) := by
  have begins : routine render scope c memo (judged (.text text)) d =
      (abort scope c "type" (some (textForNumber text)) >>=
        fun _ => (pure (.ok (some (.text text), false), memo) :
          Evaluation (Except Failure (Option Value × Bool) × Memo))) d := by
    show routine render scope c memo
      (checkKindsFrom c.shownName 1 [Value.text text] ["number"] >>= fun passes =>
        .done (some (Value.text text), passes)) d = _
    rw [checkKindsFrom_text]
    rfl
  let h := Halt.aborted "type"
    (some (Diagnostic.text c.shownName (textForNumber text) (some c.line))) (some c.shownName)
  let ended : Dispatch := { d with halted := some h }
  let s₁ := (answer s (.observe ended (.halting h))).2
  let s₂ := (answer s₁ (.effect scope.logged (.log ⟨.debug, .context,
    "dispatch " ++ Log.shownName scope.command ++ " halted: " ++ h.literal⟩))).2
  have halts : Program.run (S := Questions) answer s (halt scope h d) = ((h, ended), s₂) := by
    rw [halt, get_bind, unended]
    rfl
  have aborts : Program.run (S := Questions) answer s
      (abort scope c "type" (some (textForNumber text)) d) = ((h, ended), s₂) := by
    show Program.run (S := Questions) answer s ((halt scope h >>= fun _ => pure h) d) = _
    rw [run_bind, halts]
    rfl
  refine ⟨ended, s₂, ?_, rfl⟩
  rw [begins, run_bind, aborts]
  rfl

/-- An argument that stands for a call alone is read as what the text of the call says. -/
theorem run_numberAt {remaining : Nat} {i : Int} {cs : List Char} {line : Int} {inner : Call}
    {v : Value} (argument : c.argumentAt? i = some (cs, line)) (unread : memo.lookup i.toNat = none)
    (unended : d.halted = none) (single : Script.segments cs line = .ok [.call inner])
    (returns : CallReturns answer (answer s (.observe d (.rendering cs line))).2 scope remaining
      inner d v)
    (printed : v.printed = .ok text) (read : Script.scalar text = .ok w) :
    ∃ d' s', Program.run (S := Questions) answer s
        (routine (Evaluation.render scope (remaining + 1)) scope c memo (numberAt i) d) =
        Program.run (S := Questions) answer s'
          (routine (Evaluation.render scope (remaining + 1)) scope c ((i.toNat, text) :: memo)
            (judged w) d') ∧ d'.halted = none := by
  obtain ⟨d', s', ran, running⟩ := run_argument_of_runsTo argument unread unended
    (returns.run_render single unended printed)
  refine ⟨d', s', ?_, running⟩
  have begins : routine (Evaluation.render scope (remaining + 1)) scope c memo (numberAt i) d =
      (Evaluation.argument (Evaluation.render scope (remaining + 1)) scope c memo i >>= fun r =>
        routine (Evaluation.render scope (remaining + 1)) scope c r.2 (checkedNumber r.1)) d := rfl
  rw [begins, run_bind, ran, checkedNumber_some read]

/-- **Numbers survive as text**, unless they are minute. A function returns a whole number within
the limit on digits, or a finite double, and the text of its call is the argument of another one.
The function that reads it sees a number that is equal to the one returned, and takes it for a
number. Only a double nearer to zero than one ten-thousandth, which is printed with an exponent,
comes through as a text, and the check that it is a number ends the dispatch. -/
theorem numbers_passed (v : Value) (number : v.IsNumber) :
    ∃ text w, v.printed = .ok text ∧ Script.scalar text = .ok w ∧
      (v.isMinute = false → w.kind = .number ∧ w.equal v = true) ∧
      (v.isMinute = true → w = .text text) ∧
      ∀ (σ : Type) (answer : σ → (q : Question) → q.Answer × σ) (s : σ) (scope : Scope)
        (remaining : Nat) (c : Call) (memo : Memo) (i : Int) (cs : List Char) (line : Int)
        (inner : Call) (d : Dispatch),
        d.halted = none → c.argumentAt? i = some (cs, line) → memo.lookup i.toNat = none →
        Script.segments cs line = .ok [.call inner] →
        CallReturns answer (answer s (.observe d (.rendering cs line))).2 scope remaining inner
          d v →
        ∃ d' s', Program.run (S := Questions) answer s
            (routine (Evaluation.render scope (remaining + 1)) scope c memo (numberAt i) d) =
            (((.ok (some w, !v.isMinute), (i.toNat, text) :: memo), d'), s') ∧
          d'.halted.isNone = !v.isMinute := by
  cases minute : v.isMinute with
  | false =>
    obtain ⟨text, w, printed, read, kind, equal⟩ := Value.scalar_printed number minute
    refine ⟨text, w, printed, read, fun _ => ⟨kind, equal⟩, fun other => (by cases other), ?_⟩
    intro σ answer s scope remaining c memo i cs line inner d unended argument unread single returns
    obtain ⟨d', s', ran, running⟩ :=
      run_numberAt argument unread unended single returns printed read
    refine ⟨d', s', ?_, by rw [running]; rfl⟩
    rw [ran, routine_judged kind]
    rfl
  | true =>
    obtain ⟨text, printed, read⟩ := Value.scalar_printed_of_isMinute minute
    refine ⟨text, .text text, printed, read, fun other => (by cases other), fun _ => rfl, ?_⟩
    intro σ answer s scope remaining c memo i cs line inner d unended argument unread single returns
    obtain ⟨d', s', ran, running⟩ :=
      run_numberAt argument unread unended single returns printed read
    obtain ⟨d'', s'', checked, ended⟩ := run_judged_text answer s'
      (Evaluation.render scope (remaining + 1)) scope c ((i.toNat, text) :: memo) text running
    exact ⟨d'', s'', ran.trans checked, by rw [ended]; rfl⟩

/-- One tenth. -/
def tenth : Value := .float (.finite false ⟨0x3FB999999999999A, by decide⟩)

/-- A world with a function that returns one tenth. -/
def returningTenth : World :=
  { World.empty .null with
    registries := ⟨[⟨.null, [], [("tenth", .native "$tenth" (.of (returning tenth)) .null)]⟩]⟩ }

/-- In `$double[$tenth[]]` the argument is one tenth, and passes for a number. -/
theorem numbers_passed_tenth :
    tenth.IsNumber ∧ ∃ text w, tenth.printed = .ok text ∧ w.kind = .number ∧ w.equal tenth = true ∧
      ∃ d' s', Program.run (S := Questions) World.answer returningTenth
          (routine (Evaluation.render ⟨0, .usual, .null, false, none, none⟩ 1)
            ⟨0, .usual, .null, false, none, none⟩ ⟨"double".toList, "$tenth[]".toList, 0, 1⟩ []
            (numberAt 0) .start) =
          (((.ok (some w, true), [(0, text)]), d'), s') ∧ d'.halted.isNone = true := by
  have number : tenth.IsNumber := .float _ _
  have plain : tenth.isMinute = false := by decide +kernel
  obtain ⟨text, w, printed, -, same, -, passed⟩ := numbers_passed tenth number
  obtain ⟨kind, equal⟩ := same plain
  rw [plain] at passed
  have named : Script.IsIdentifier "tenth".toList := Script.isName_iff.1 (by decide)
  refine ⟨number, text, w, printed, kind, equal, ?_⟩
  exact passed World World.answer returningTenth ⟨0, .usual, .null, false, none, none⟩ 0
    ⟨"double".toList, "$tenth[]".toList, 0, 1⟩ [] 0 "$tenth[]".toList 1 ⟨"tenth".toList, [], 0, 1⟩
    .start rfl (by decide) rfl (Script.segments_call_escaped named [] 1) ⟨_, rfl, _, _, rfl, rfl⟩

/-- One hundred-thousandth. -/
def hundredThousandth : Value := .float (.finite false ⟨0x3EE4F8B588E368F1, by decide⟩)

/-- One hundred-thousandth is printed as `1e-05`, which is not read as a number. -/
theorem not_always_passed : ¬∀ v : Value, v.IsNumber →
    ∃ text w, v.printed = .ok text ∧ Script.scalar text = .ok w ∧ w.kind = .number ∧
      w.equal v = true := by
  intro always
  obtain ⟨text, w, printed, read, kind, -⟩ := always hundredThousandth (.float _ _)
  obtain ⟨text', printed', read'⟩ :=
    Value.scalar_printed_of_isMinute (v := hundredThousandth) (by decide +kernel)
  cases printed.symm.trans printed'
  cases read.symm.trans read'
  cases kind

end Evaluation

end CommandScript
