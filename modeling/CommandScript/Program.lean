/-!
# Programs that ask

A program either is done or asks a question and goes on with the answer. What the questions mean is
left open: a program can be run against a state that answers, against the real world, or step by
step beside other programs.

## Main definitions

- `CommandScript.Signature` — questions and the types of their answers
- `CommandScript.Program` — a program over a signature
- `CommandScript.Program.run` — running against a state that answers
- `CommandScript.Program.asked` — the questions that come up in a run
- `CommandScript.Program.perform` — running in a monad that answers
- `CommandScript.Program.relay` — asking other questions

## Main results

- `CommandScript.Program.run_bind` — running a composition is running its parts in turn
- `CommandScript.Program.asked_bind` — and the questions of its parts come up in turn
-/

namespace CommandScript

/-- Questions and the types of their answers. -/
structure Signature where
  Question : Type
  Answer : Question → Type

/-- A program that asks questions of a signature before it is done. -/
inductive Program (S : Signature) (α : Type) where
  | done (a : α)
  | ask (q : S.Question) (next : S.Answer q → Program S α)

namespace Program

variable {S T : Signature} {α β γ : Type}

/-- One program after the other. -/
def bind : Program S α → (α → Program S β) → Program S β
  | .done a, f => f a
  | .ask q next, f => .ask q fun r => bind (next r) f

instance : Monad (Program S) where
  pure := .done
  bind := bind

/-- The program that asks one question. -/
def query (q : S.Question) : Program S (S.Answer q) := .ask q .done

/-- Runs a program against a state that answers. -/
def run {σ : Type} (answer : σ → (q : S.Question) → S.Answer q × σ) :
    σ → Program S α → α × σ
  | s, .done a => (a, s)
  | s, .ask q next =>
    let (r, s) := answer s q
    run answer s (next r)

/-- The questions that come up when a program is run, in order. -/
def asked {σ : Type} (answer : σ → (q : S.Question) → S.Answer q × σ) :
    σ → Program S α → List S.Question
  | _, .done _ => []
  | s, .ask q next =>
    let (r, s) := answer s q
    q :: asked answer s (next r)

/-- Runs a program in a monad that answers. -/
def perform {m : Type → Type} [Monad m] (answer : (q : S.Question) → m (S.Answer q)) :
    Program S α → m α
  | .done a => Pure.pure a
  | .ask q next => answer q >>= fun r => perform answer (next r)

/-- The program that asks other questions for each of its own. -/
def relay (ask : (q : S.Question) → Program T (S.Answer q)) : Program S α → Program T α
  | .done a => .done a
  | .ask q next => (ask q).bind fun r => relay ask (next r)

/-- Nothing comes before a program that is done at once. -/
@[simp] theorem pure_bind (a : α) (f : α → Program S β) : (pure a : Program S α) >>= f = f a := rfl

/-- Nothing comes after a program but its result. -/
@[simp] theorem bind_pure (p : Program S α) : p >>= pure = p := by
  induction p with
  | done a => rfl
  | ask q next ih => exact congrArg (Program.ask q) (funext ih)

/-- Composition of programs is associative. -/
theorem bind_assoc (p : Program S α) (f : α → Program S β) (g : β → Program S γ) :
    p >>= f >>= g = p >>= fun a => f a >>= g := by
  induction p with
  | done a => rfl
  | ask q next ih => exact congrArg (Program.ask q) (funext ih)

/-- A composition runs its first part and then, from the state that this leaves, its second. -/
theorem run_bind {σ : Type} (answer : σ → (q : S.Question) → S.Answer q × σ) (s : σ)
    (p : Program S α) (f : α → Program S β) :
    run answer s (p >>= f) = run answer (run answer s p).2 (f (run answer s p).1) := by
  induction p generalizing s with
  | done a => rfl
  | ask q next ih => exact ih _ _

/-- The questions of a composition are those of its first part, and then those of its second. -/
theorem asked_bind {σ : Type} (answer : σ → (q : S.Question) → S.Answer q × σ) (s : σ)
    (p : Program S α) (f : α → Program S β) :
    asked answer s (p >>= f) =
      asked answer s p ++ asked answer (run answer s p).2 (f (run answer s p).1) := by
  induction p generalizing s with
  | done a => rfl
  | ask q next ih => exact congrArg (q :: ·) (ih _ _)

end Program

end CommandScript
