import CommandScript.Dispatch.Calls
import CommandScript.Proofs.Program

/-!
# Calls that return a value

A call that returns a value stands in a command string for the printed value, and the dispatch goes
on. Where a call alone is the argument of another one, its text is what the function reads.

## Main definitions

- `CommandScript.Evaluation.FunctionReturns`, `CallReturns` — a call gives a value, and the dispatch
  goes on
- `CommandScript.Evaluation.RunsTo` — a computation gives a text, and the dispatch goes on

## Main results

- `CommandScript.Evaluation.CallReturns.run_call`, `run_render` — a call stands for what it returns
- `CommandScript.Evaluation.run_argument_of_runsTo` — an argument is the text of its source
-/

namespace CommandScript

open Script (Call)

namespace Evaluation

section Returns

variable {σ : Type}

/-- In given surroundings a function that a call enters gives a value, and the dispatch goes on. -/
def FunctionReturns (answer : σ → (q : Question) → q.Answer × σ) (s : σ)
    (render : List Char → Int → Evaluation Outcome) (scope : Scope) (c : Call)
    (f : Descriptor Callback) (d : Dispatch) (v : Value) : Prop :=
  ∃ left s', Program.run (S := Questions) answer
      (answer s (.observe { d with depth := d.depth + 1 } (.entering c f))).2
      (invoke render scope c f { d with depth := d.depth + 1 }) = ((.ok (.value v), left), s') ∧
    left.halted = none

/-- In given surroundings the function of a call is found and gives a value, and the dispatch goes
on. -/
def CallReturns (answer : σ → (q : Question) → q.Answer × σ) (s : σ) (scope : Scope)
    (remaining : Nat) (c : Call) (d : Dispatch) (v : Value) : Prop :=
  ∃ f, (answer s (.find scope.functions (FunctionName.key (String.ofList c.name)))).1 = some f ∧
    FunctionReturns answer
      (answer s (.find scope.functions (FunctionName.key (String.ofList c.name)))).2
      (render scope remaining) scope c f d v

/-- The first argument of a call is another call alone, which returns a value when it is evaluated
for the function that the first one enters. -/
def PassesCall (answer : σ → (q : Question) → q.Answer × σ) (s : σ) (scope : Scope)
    (remaining : Nat) (c : Call) (f : Descriptor Callback) (d : Dispatch) (v : Value) : Prop :=
  ∃ cs line inner, c.argumentAt? 0 = some (cs, line) ∧ Script.segments cs line = .ok [.call inner] ∧
    CallReturns answer
      (answer (answer s (.observe { d with depth := d.depth + 1 } (.entering c f))).2
        (.observe { d with depth := d.depth + 1 } (.rendering cs line))).2
      scope remaining inner { d with depth := d.depth + 1 } v

/-- In given surroundings a computation gives a text, and the dispatch goes on. -/
def RunsTo (answer : σ → (q : Question) → q.Answer × σ) (s : σ) (e : Evaluation Outcome)
    (d : Dispatch) (text : String) : Prop :=
  ∃ d' s', Program.run (S := Questions) answer s (e d) = ((.ok text, d'), s') ∧ d'.halted = none

variable {answer : σ → (q : Question) → q.Answer × σ} {s : σ}
  {render : List Char → Int → Evaluation Outcome} {scope : Scope} {remaining : Nat} {c : Call}
  {f : Descriptor Callback} {d : Dispatch} {v : Value} {text : String} {cs : List Char} {line : Int}

/-- What a function returns is printed. -/
theorem FunctionReturns.run_enter (returns : FunctionReturns answer s render scope c f d v)
    (printed : v.printed = .ok text) : RunsTo answer s (enter render scope c f) d text := by
  obtain ⟨left, s', ran, running⟩ := returns
  let entered : Dispatch := { d with depth := d.depth + 1 }
  let left' : Dispatch := { left with depth := left.depth - 1 }
  let s₁ := (answer s (.observe entered (.entering c f))).2
  let s₂ := (answer s' (.observe left (.returned c (.ok (.value v))))).2
  let s₃ := (answer s₂ (.observe left' (.leaving c (.ok text)))).2
  have finished : finish scope c (.ok (.value v)) left =
      (pure (.ok text) : Evaluation Outcome) left := by
    rw [finish, get_bind, running, printed]
  have performed : Program.run (S := Questions) answer s₁ (perform render scope c f entered) =
      ((.ok text, left), s₂) := by
    rw [perform, run_bind, ran]
    show Program.run (S := Questions) answer s₂ (finish scope c (.ok (.value v)) left) = _
    rw [finished]
    rfl
  let close (o : Outcome) : Evaluation Outcome := do
    modify fun s => { s with depth := s.depth - 1 }
    observe (.leaving c o)
    return o
  have closed : Program.run (S := Questions) answer s₁
      ((perform render scope c f >>= close) entered) = ((.ok text, left'), s₃) := by
    rw [run_bind, performed]
    rfl
  exact ⟨left', s₃, closed, running⟩

/-- **A call stands for what its function returns**, as it is printed. -/
theorem CallReturns.run_call (returns : CallReturns answer s scope remaining c d v)
    (printed : v.printed = .ok text) : RunsTo answer s (call scope (remaining + 1) c) d text := by
  obtain ⟨f, found, returns⟩ := returns
  obtain ⟨d', s', ran, running⟩ := returns.run_enter printed
  let q := Question.find scope.functions (FunctionName.key (String.ofList c.name))
  have looked : Program.run (S := Questions) answer s (find scope c d) =
      (((answer s q).1, d), (answer s q).2) := rfl
  refine ⟨d', s', ?_, running⟩
  rw [call, run_bind, looked, found]
  exact ran

theorem CallReturns.run_render (single : Script.segments cs line = .ok [.call c])
    (unended : d.halted = none)
    (returns : CallReturns answer (answer s (.observe d (.rendering cs line))).2 scope remaining c
      d v)
    (printed : v.printed = .ok text) :
    RunsTo answer s (Evaluation.render scope (remaining + 1) cs line) d text := by
  obtain ⟨d', s', ran, running⟩ := returns.run_call printed
  have evaluated : Program.run (S := Questions) answer
      (answer s (.observe d (.rendering cs line))).2
      (parsed (call scope (remaining + 1)) scope (.ok [.call c]) d) = ((.ok text, d'), s') := by
    rw [parsed, segments, run_bind, ran]
    show ((Except.ok (text ++ ""), d'), s') = _
    rw [String.append_empty]
  refine ⟨d', (answer s' (.observe d' (.rendered cs line (.ok text)))).2, ?_, running⟩
  have told : Program.run (S := Questions) answer s (observe (.rendering cs line) d) =
      (((), d), (answer s (.observe d (.rendering cs line))).2) := rfl
  rw [Evaluation.render, source, get_bind, unended, single]
  dsimp only
  rw [run_bind, told, run_bind, evaluated]
  rfl

/-- Reading an argument for the first time evaluates it. -/
theorem run_argument_of_runsTo {memo : Memo} {i : Int}
    (argument : c.argumentAt? i = some (cs, line)) (unread : memo.lookup i.toNat = none)
    (unended : d.halted = none) (evaluates : RunsTo answer s (render cs line) d text) :
    ∃ d' s', Program.run (S := Questions) answer s (Evaluation.argument render scope c memo i d) =
        (((some text, (i.toNat, text) :: memo), d'), s') ∧ d'.halted = none := by
  obtain ⟨d', s', ran, running⟩ := evaluates
  have going : ¬d.isHalted = true := by
    rw [Dispatch.isHalted, unended]
    exact Bool.false_ne_true
  refine ⟨d', s', ?_, running⟩
  rw [Evaluation.argument, argument, unread]
  dsimp only
  rw [get_bind, if_neg going, run_bind, ran]
  rfl

end Returns

end Evaluation

end CommandScript
