import Mathlib.Logic.Function.Basic
import CommandScript.Program

/-!
# Programs side by side

Several programs go on in turns among the same surroundings. In a turn one of them asks its next
question and gets the answer; whose turn it is, is laid down by a schedule, which may be any list.
One of the programs shadows a program that runs alone, among surroundings of its own, if something
holds between the two that every turn keeps up: a turn of that program, which the other one follows
with a question of its own, and a turn of any other program.

## Main definitions

- `CommandScript.Crew` — programs side by side
- `CommandScript.Crew.step`, `CommandScript.Crew.run` — a turn, and the turns of a schedule
- `CommandScript.Turn`, `CommandScript.Crew.history` — what happens in the turns of a schedule
- `CommandScript.Shadowing` — what every turn keeps up between two programs

## Main results

- `CommandScript.Shadowing.follows` — a program that shadows another one asks what that one asks,
  and is done as soon as that one is and with the same result
-/

namespace CommandScript

/-- Programs side by side, and the state of the surroundings that they share. -/
structure Crew (S : Signature) (ι σ α : Type) where
  threads : ι → Program S α
  state : σ

/-- A turn: whose it was, what was asked, and how the surroundings were before and after. -/
structure Turn (S : Signature) (ι σ : Type) where
  who : ι
  question : S.Question
  before : σ
  after : σ

variable {S : Signature} {ι σ α : Type} [DecidableEq ι]

/-- The questions that one of several programs asks in some turns. -/
def Turn.questionsOf (j : ι) (turns : List (Turn S ι σ)) : List S.Question :=
  (turns.filter (·.who = j)).map Turn.question

namespace Crew

variable (answer : σ → (q : S.Question) → S.Answer q × σ)

/-- One of the programs asks its next question and gets the answer, unless it is done. -/
def step (c : Crew S ι σ α) (i : ι) : Crew S ι σ α :=
  match c.threads i with
  | .done _ => c
  | .ask q next =>
    ⟨Function.update c.threads i (next (answer c.state q).1), (answer c.state q).2⟩

/-- The turn that one of the programs takes next, unless it is done. -/
def turn? (c : Crew S ι σ α) (i : ι) : Option (Turn S ι σ) :=
  match c.threads i with
  | .done _ => none
  | .ask q _ => some ⟨i, q, c.state, (answer c.state q).2⟩

/-- What is left after the turns of a schedule. -/
def run (c : Crew S ι σ α) : List ι → Crew S ι σ α
  | [] => c
  | i :: is => run (c.step answer i) is

/-- What happens in the turns of a schedule. A program that is done takes no turns. -/
def history (c : Crew S ι σ α) : List ι → List (Turn S ι σ)
  | [] => []
  | i :: is => (c.turn? answer i).toList ++ history (c.step answer i) is

variable {answer} {c : Crew S ι σ α} {i j : ι} {q : S.Question} {next : S.Answer q → Program S α}

theorem step_of_done {a : α} (idle : c.threads i = .done a) : c.step answer i = c := by
  rw [step, idle]

theorem step_of_ask (asks : c.threads i = .ask q next) :
    c.step answer i =
      ⟨Function.update c.threads i (next (answer c.state q).1), (answer c.state q).2⟩ := by
  rw [step, asks]

theorem history_cons_of_done {a : α} (idle : c.threads i = .done a) (is : List ι) :
    c.history answer (i :: is) = c.history answer is := by
  rw [history, turn?, step_of_done idle, idle]
  rfl

theorem history_cons_of_ask (asks : c.threads i = .ask q next) (is : List ι) :
    c.history answer (i :: is) =
      ⟨i, q, c.state, (answer c.state q).2⟩ :: (c.step answer i).history answer is := by
  rw [history, turn?, asks]
  rfl

/-- What is left after a turn is what the surroundings that answered leave. -/
theorem after_of_mem_history {c : Crew S ι σ α} {picks : List ι} {t : Turn S ι σ}
    (mem : t ∈ c.history answer picks) : t.after = (answer t.before t.question).2 := by
  induction picks generalizing c with
  | nil => cases mem
  | cons i is ih =>
    cases eq : c.threads i with
    | done a =>
      rw [history_cons_of_done eq] at mem
      exact ih mem
    | ask q next =>
      rw [history_cons_of_ask eq] at mem
      obtain rfl | later := List.mem_cons.1 mem
      · rfl
      · exact ih later

/-- The pick of one program has no questions of another one. -/
theorem questionsOf_history_cons (other : i ≠ j) (is : List ι) :
    Turn.questionsOf j (c.history answer (i :: is)) =
      Turn.questionsOf j ((c.step answer i).history answer is) := by
  cases eq : c.threads i with
  | done b => rw [history_cons_of_done eq, step_of_done eq]
  | ask q next =>
    rw [history_cons_of_ask eq]
    simp [Turn.questionsOf, other]

end Crew

/-- Two programs that are done with the same result, or ask questions that look the same. -/
inductive Program.Alike (mask : S.Question → S.Question) : Program S α → Program S α → Prop where
  | done (a : α) : Program.Alike mask (.done a) (.done a)
  | ask {q q' : S.Question} {next : S.Answer q → Program S α} {next' : S.Answer q' → Program S α}
      (same : mask q = mask q') : Program.Alike mask (.ask q next) (.ask q' next')

/-- What every turn keeps up between one of several programs side by side and a program that runs
alone. It may depend on the turns to come, the surroundings of the one, and those of the other. -/
structure Shadowing (answer : σ → (q : S.Question) → S.Answer q × σ) (j : ι)
    (mask : S.Question → S.Question)
    (R : List (Turn S ι σ) → σ → Program S α → σ → Program S α → Prop) : Prop where
  alike {turns s p u p'} : R turns s p u p' → p.Alike mask p'
  other {turns i q s p u p'} :
    R (⟨i, q, s, (answer s q).2⟩ :: turns) s p u p' → i ≠ j → R turns (answer s q).2 p u p'
  own {turns q next s u q' next'} :
    R (⟨j, q, s, (answer s q).2⟩ :: turns) s (.ask q next) u (.ask q' next') →
      R turns (answer s q).2 (next (answer s q).1) (answer u q').2 (next' (answer u q').1)

namespace Shadowing

variable {answer : σ → (q : S.Question) → S.Answer q × σ} {i j : ι} {mask : S.Question → S.Question}
  {R : List (Turn S ι σ) → σ → Program S α → σ → Program S α → Prop} {c : Crew S ι σ α}
  {picks : List ι} {u : σ} {p' : Program S α}

/-- What holds between the two programs still holds after the pick of another program. -/
theorem after_other (shadowing : Shadowing answer j mask R)
    (start : R (c.history answer (i :: picks)) c.state (c.threads j) u p') (other : i ≠ j) :
    R ((c.step answer i).history answer picks) (c.step answer i).state
      ((c.step answer i).threads j) u p' := by
  cases eq : c.threads i with
  | done b =>
    rw [Crew.step_of_done eq]
    rwa [Crew.history_cons_of_done eq] at start
  | ask q next =>
    rw [Crew.history_cons_of_ask eq] at start
    have rest := shadowing.other start other
    rw [Crew.step_of_ask eq] at rest ⊢
    simpa [Function.update_of_ne (Ne.symm other)] using rest

/-- What holds between the two programs still holds after a turn of the one, in which the other one
asks a question as well. -/
theorem after_own (shadowing : Shadowing answer j mask R) {q q' : S.Question}
    {next : S.Answer q → Program S α} {next' : S.Answer q' → Program S α}
    (asks : c.threads j = .ask q next)
    (start : R (c.history answer (j :: picks)) c.state (c.threads j) u (.ask q' next')) :
    R ((c.step answer j).history answer picks) (c.step answer j).state
      ((c.step answer j).threads j) (answer u q').2 (next' (answer u q').1) := by
  rw [Crew.history_cons_of_ask asks, asks] at start
  have rest := shadowing.own start
  rw [Crew.step_of_ask asks] at rest ⊢
  simpa using rest

/-- **A program that shadows another one does what that one does.** Whatever the schedule, its
questions look the same as the first ones of the other program; it is done exactly where it had as
many turns as the other program asks questions, and its result is the same. -/
theorem follows (shadowing : Shadowing answer j mask R) (picks : List ι)
    (start : R (c.history answer picks) c.state (c.threads j) u p') :
    (Turn.questionsOf j (c.history answer picks)).map mask <+: (p'.asked answer u).map mask ∧
      ∀ a, (c.run answer picks).threads j = .done a ↔
        (p'.asked answer u).length ≤ picks.count j ∧ a = (p'.run answer u).1 := by
  induction picks generalizing c u p' with
  | nil =>
    refine ⟨List.nil_prefix, fun a => ?_⟩
    generalize eq : c.threads j = p at start
    cases shadowing.alike start with
    | done b => simp [Crew.run, eq, Program.asked, Program.run, eq_comm]
    | ask same => simp [Crew.run, eq, Program.asked]
  | cons i is ih =>
    by_cases own : i = j
    · subst own
      generalize eq : c.threads i = p
      have alike := shadowing.alike start
      rw [eq] at alike
      cases alike with
      | done b =>
        -- A pick of a program that is done is no turn.
        rw [Crew.history_cons_of_done eq] at start ⊢
        obtain ⟨asks, ends⟩ := ih start
        refine ⟨asks, fun a => ?_⟩
        rw [Crew.run, Crew.step_of_done eq, ends a]
        simp [Program.asked]
      | @ask q q' next next' same =>
        obtain ⟨asks, ends⟩ := ih (shadowing.after_own eq start)
        rw [Crew.history_cons_of_ask eq]
        refine ⟨?_, fun a => ?_⟩
        · simpa [Turn.questionsOf, Program.asked, List.cons_prefix_cons, same] using asks
        · rw [Crew.run, ends a, List.count_cons_self]
          exact and_congr_left fun _ => Nat.succ_le_succ_iff.symm
    · obtain ⟨asks, ends⟩ := ih (shadowing.after_other start own)
      refine ⟨?_, fun a => ?_⟩
      · rwa [Crew.questionsOf_history_cons own]
      · rw [Crew.run, ends a, List.count_cons_of_ne own]

end Shadowing

end CommandScript
