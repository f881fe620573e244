import CommandScript.Proofs.Dispatch.Halting
import CommandScript.Proofs.Script.Replacement

/-!
# Discreet routines

A routine is discreet if it looks at its call only through the values of the arguments, through
their number, and through what is no part of the text of the call. Where it does not read an
argument, it runs alike whatever that argument is.

## Main definitions

- `CommandScript.Routine.Discreet` — routines that do not look at the text of their call
- `CommandScript.Routine.seeking` — running a routine up to where it reads an argument
- `CommandScript.Evaluation.Indifferent` — where an argument is read, another one runs alike

## Main results

- `CommandScript.Evaluation.run_routine_withArgument` — a discreet routine for a call with another
  argument runs alike
-/

namespace CommandScript

/-- Two views of a call differ at most in its text and in the texts of its arguments, of which there
are as many. -/
structure View.Resembles (v w : View) : Prop where
  count : v.arguments.length = w.arguments.length
  name : v.name = w.name
  line : v.line = w.line
  event : v.event = w.event
  hasStore : v.hasStore = w.hasStore
  command : v.command = w.command
  isAborted : v.isAborted = w.isAborted

namespace Routine

variable {C α β : Type}

/-- The routine does not look at the text of its call, nor at the texts of its arguments. -/
def Discreet : Routine C α → Prop
  | .done _ => True
  | .raise _ => True
  | .argument _ next => ∀ s, (next s).Discreet
  | .look next => (∀ v w, v.Resembles w → next v = next w) ∧ ∀ v, (next v).Discreet
  | .abort _ _ next => ∀ h, (next h).Discreet
  | .emit _ _ next => next.Discreet
  | .recall _ next => ∀ v, (next v).Discreet
  | .remember _ _ next => next.Discreet
  | .change _ next => ∀ e, (next e).Discreet
  | .effect _ next => ∀ r, (next r).Discreet

/-- Does what the routine does up to where it reads an argument, and tells whether it came to
that. -/
def seeking (k : Nat) : Routine C α → Routine C Bool
  | .done _ => .done false
  | .raise e => .raise e
  | .argument i next => if i = k then .done true else .argument i fun s => (next s).seeking k
  | .look next => .look fun v => (next v).seeking k
  | .abort reason details next => .abort reason details fun h => (next h).seeking k
  | .emit m topics next => .emit m topics (next.seeking k)
  | .recall key next => .recall key fun v => (next v).seeking k
  | .remember key v next => .remember key v (next.seeking k)
  | .change c next => .change c fun e => (next e).seeking k
  | .effect q next => .effect q fun r => (next r).seeking k

theorem Discreet.bind {r : Routine C α} {f : α → Routine C β} (first : r.Discreet)
    (second : ∀ a, (f a).Discreet) : (r >>= f).Discreet := by
  induction r with
  | done a => exact second a
  | raise e => trivial
  | argument i next ih => exact fun s => ih s (first s)
  | look next ih =>
    exact ⟨fun v w same => congrArg (·.bind f) (first.1 v w same), fun v => ih v (first.2 v)⟩
  | abort reason details next ih => exact fun h => ih h (first h)
  | emit m topics next ih => exact ih first
  | «recall» key next ih => exact fun v => ih v (first v)
  | remember key v next ih => exact ih first
  | change c next ih => exact fun e => ih e (first e)
  | effect q next ih => exact fun r => ih r (first r)

theorem discreet_arguments (count : Nat) : (arguments count : Routine C _).Discreet := by
  induction count with
  | zero => trivial
  | succ n ih => exact ih.bind fun before s => trivial

theorem discreet_allArguments : (allArguments : Routine C _).Discreet :=
  Discreet.bind ⟨fun _ _ same => congrArg Routine.done same.count, fun _ => trivial⟩
    discreet_arguments

end Routine

/-- The call may have another text in the place of an argument: it still has as many arguments, and
the other ones as they were. -/
structure Script.Call.MayHave (c : Script.Call) (k : Nat) (a : List Char) (l : Int)
    (b : List Char) : Prop where
  old : c.argumentAt? k = some (a, l)
  count : (c.withArgument k b).arguments.length = c.arguments.length
  argumentAt? : ∀ i : Int,
    (c.withArgument k b).argumentAt? i = if i = k then some (b, l) else c.argumentAt? i

theorem Script.Call.MayHave.of_callAt? {c : Script.Call} {k i : Nat} {cs a b : List Char}
    {line l : Int} (call : Script.callAt? cs line i = some c) (old : c.argumentAt? k = some (a, l))
    (argument : Script.IsArgument b) (lines : Script.lineEnds b = Script.lineEnds a)
    (count : (c.withArgument k b).arguments.length = c.arguments.length) : c.MayHave k a l b :=
  ⟨old, count, argumentAt?_withArgument (Script.closed_of_callAt? call) old argument lines count⟩

namespace Evaluation

open Script

variable {σ α : Type} {answer : σ → (q : Question) → q.Answer × σ}
  {render : List Char → Int → Evaluation Outcome} {scope : Scope} {c : Call} {k : Nat}
  {a b : List Char} {l : Int} {memo : Memo} {s : σ} {d : Dispatch}

/-- Where a routine comes to read the argument of a call for the first time, another text runs
alike. -/
def Indifferent (answer : σ → (q : Question) → q.Answer × σ)
    (render : List Char → Int → Evaluation Outcome) (scope : Scope) (c : Call) (k : Nat)
    (a : List Char) (l : Int) (b : List Char) (memo : Memo) (seeking : Routine Callback Bool)
    (s : σ) (d : Dispatch) : Prop :=
  memo.lookup k = none → ∀ memo' s' d',
    Program.run (S := Questions) answer s (routine render scope c memo seeking d) =
      (((.ok true, memo'), d'), s') →
    d'.halted = none →
      Program.run (S := Questions) answer s' (render b l d') =
        Program.run (S := Questions) answer s' (render a l d')

/-- In a dispatch that has ended, no argument is read for the first time. -/
theorem indifferent_of_halted {h : Halt} (orderly : OrderlyRendering render)
    (ended : d.halted = some h) (r : Routine Callback Bool) :
    Indifferent answer render scope c k a l b memo r s d := by
  intro _ memo' s' d' run unended
  obtain ⟨qs, course, -⟩ := Ensures.of_run (orderly_routine orderly r) run
  exact absurd (unended.symm.trans (course.of_halted ended).1) (by simp)

/-- What a routine sees of its call. -/
def seen (scope : Scope) (c : Call) (d : Dispatch) : View :=
  ⟨c.shownName, c.line, c.raw, c.arguments, scope.event, scope.hasStore, scope.command, d.isHalted⟩

theorem view_eq (scope : Scope) (c : Call) (d : Dispatch) :
    view scope c d = (pure (seen scope c d) : Evaluation View) d := rfl

/-- Reading another argument does not make this one known. -/
theorem lookup_argument {i : Int} (other : i ≠ k) :
    (argument render scope c memo i).Ensures d fun _ r _ =>
      r.2.lookup k = none → memo.lookup k = none := by
  unfold argument
  split
  · exact ensures_pure.2 id
  · exact ensures_pure.2 id
  · next found _ =>
    refine ensures_bind.2 (ensures_get.2 ?_)
    split
    · exact ensures_pure.2 id
    · refine ensures_bind.2 (Program.Ensures.of_forall fun _ r => ?_)
      have natural : 0 ≤ i := by
        by_contra negative
        simp [Call.argumentAt?, show i < 0 by omega] at found
      cases r.1 with
      | ok t =>
        refine ensures_pure.2 fun unknown => ?_
        rwa [List.lookup_cons, beq_false_of_ne (by omega)] at unknown
      | error h => exact ensures_bind.2 (Program.Ensures.of_forall fun _ _ => ensures_pure.2 id)

/-- When an argument has been read, it is known or the dispatch has ended. -/
theorem settled_argument (old : c.argumentAt? k = some (a, l)) :
    (argument render scope c memo k).Ensures d fun _ r d' =>
      r.2.lookup k = none → ∃ h, d'.halted = some h := by
  unfold argument
  rw [old, Int.toNat_natCast]
  cases known : memo.lookup k with
  | some t => exact ensures_pure.2 fun unknown => by simp [known] at unknown
  | none =>
    refine ensures_bind.2 (ensures_get.2 ?_)
    split
    · next ended => exact ensures_pure.2 fun _ => Option.isSome_iff_exists.1 ended
    · refine ensures_bind.2 (Program.Ensures.of_forall fun _ r => ?_)
      cases r.1 with
      | ok t =>
        refine ensures_pure.2 fun unknown => ?_
        rw [List.lookup_cons_self] at unknown
        cases unknown
      | error h =>
        refine ensures_bind.2 (Ensures.imp (orderly_halt h) fun _ first d' ended => ?_)
        exact ensures_pure.2 fun _ => ⟨first, ended.2.2⟩

/-- Reading the argument runs alike where evaluating the other text does. -/
theorem run_argument_withArgument (fits : c.MayHave k a l b)
    (same : memo.lookup k = none → d.halted = none →
      Program.run (S := Questions) answer s (render b l d) =
        Program.run (S := Questions) answer s (render a l d)) :
    Program.run (S := Questions) answer s
        (argument render scope (c.withArgument k b) memo k d) =
      Program.run (S := Questions) answer s (argument render scope c memo k d) := by
  unfold argument
  rw [fits.argumentAt?, if_pos rfl, fits.old, Int.toNat_natCast]
  cases known : memo.lookup k with
  | some t => rfl
  | none =>
    show Program.run (S := Questions) answer s ((get >>= _ : Evaluation _) d) =
      Program.run (S := Questions) answer s ((get >>= _ : Evaluation _) d)
    rw [get_bind, get_bind]
    by_cases ended : d.isHalted = true
    · rw [if_pos ended, if_pos ended]
    · rw [if_neg ended, if_neg ended, run_bind, run_bind,
        same known (by simpa [Dispatch.isHalted] using ended)]

/-- Steps that run alike are followed by what runs alike from where they end. -/
theorem run_bind_congr {β γ : Type} {e e' : Evaluation β} {f f' : β → Evaluation γ}
    (first : Program.run (S := Questions) answer s (e' d) =
      Program.run (S := Questions) answer s (e d))
    (later : ∀ x s' d', Program.run (S := Questions) answer s (e d) = ((x, d'), s') →
      Program.run (S := Questions) answer s' (f' x d') =
        Program.run (S := Questions) answer s' (f x d')) :
    Program.run (S := Questions) answer s ((e' >>= f') d) =
      Program.run (S := Questions) answer s ((e >>= f) d) := by
  rw [run_bind, run_bind, first]
  exact later _ _ _ rfl

/-- Where an argument is read after a step of a routine, it is read in the routine. -/
theorem Indifferent.later {β : Type} {e : Evaluation β} {known : β → Memo}
    {r : Routine Callback Bool} {next : β → Routine Callback Bool}
    (same : Indifferent answer render scope c k a l b memo r s d)
    (begins : routine render scope c memo r =
      e >>= fun x => routine render scope c (known x) (next x))
    {x : β} {s' : σ} {d' : Dispatch}
    (run : Program.run (S := Questions) answer s (e d) = ((x, d'), s'))
    (unknown : (known x).lookup k = none → memo.lookup k = none) :
    Indifferent answer render scope c k a l b (known x) (next x) s' d' := by
  intro none memo' s'' d'' eq
  refine same (unknown none) memo' s'' d'' ?_
  rw [begins, run_bind, run]
  exact eq

/-- **A discreet routine runs alike for a call with another argument**, if it does not read this
argument, or if the text of the argument and the other one run alike where it reads it. -/
theorem run_routine_withArgument (orderly : OrderlyRendering render) (fits : c.MayHave k a l b)
    (r : Routine Callback α) (discreet : r.Discreet)
    (same : Indifferent answer render scope c k a l b memo (r.seeking k) s d) :
    Program.run (S := Questions) answer s (routine render scope (c.withArgument k b) memo r d) =
      Program.run (S := Questions) answer s (routine render scope c memo r d) := by
  induction r generalizing memo s d with
  | done a => rfl
  | raise e => rfl
  | argument i next ih =>
    by_cases here : i = k
    · -- After this either the argument is known or the dispatch has ended.
      subst here
      have read : Program.run (S := Questions) answer s
          (argument render scope (c.withArgument k b) memo k d) = _ :=
        run_argument_withArgument fits fun unknown unended =>
          same unknown memo s d (by rw [Routine.seeking, if_pos rfl]; rfl) unended
      refine run_bind_congr read fun x s' d' run => ih x.1 (discreet x.1) fun unknown => ?_
      obtain ⟨-, settled⟩ := (settled_argument fits.old).of_run run
      obtain ⟨h, ended⟩ := settled unknown
      exact indifferent_of_halted orderly ended _ unknown
    · have same_argument : argument render scope (c.withArgument k b) memo i =
          argument render scope c memo i := by
        unfold argument
        rw [fits.argumentAt?, if_neg here]
      have begins : routine render scope c memo ((Routine.argument i next).seeking k) =
          argument render scope c memo i >>= fun x =>
            routine render scope c x.2 ((next x.1).seeking k) := by
        rw [Routine.seeking, if_neg here]
        rfl
      rw [routine, routine, same_argument]
      refine run_bind_congr rfl fun x s' d' run => ih x.1 (discreet x.1) ?_
      obtain ⟨-, unknown⟩ := (lookup_argument here).of_run run
      exact same.later begins run unknown
  | look next ih =>
    have shown : next (seen scope (c.withArgument k b) d) = next (seen scope c d) :=
      discreet.1 _ _ ⟨fits.count, rfl, rfl, rfl, rfl, rfl, rfl⟩
    have run : Program.run (S := Questions) answer s (view scope c d) =
      ((seen scope c d, d), s) := rfl
    rw [routine, routine, bind_congr_left (view_eq ..), bind_congr_left (view_eq ..), pure_bind,
      pure_bind, shown]
    exact ih _ (discreet.2 _) (same.later rfl run id)
  | abort reason details next ih =>
    exact run_bind_congr rfl fun h s' d' run => ih h (discreet h) (same.later rfl run id)
  | emit m topics next ih =>
    exact run_bind_congr rfl fun _ s' d' run => ih discreet (same.later rfl run id)
  | «recall» key next ih =>
    exact ih _ (discreet _) same
  | remember key v next ih =>
    exact run_bind_congr rfl fun _ s' d' run => ih discreet (same.later rfl run id)
  | change ch next ih =>
    exact run_bind_congr rfl fun e s' d' run => ih e (discreet e) (same.later rfl run id)
  | effect q next ih =>
    exact run_bind_congr rfl fun r s' d' run => ih r (discreet r) (same.later rfl run id)

end Evaluation

end CommandScript
