import CommandScript.Proofs.Dispatch.Course

/-!
# The end of a dispatch

A dispatch ends at most once. Functions may go on after the end, but nothing is evaluated any more
on their behalf, and whatever they return, each call and each command string around them gives the
end that came first.

## Main definitions

- `CommandScript.Question.Fits` — what may come up before and after the end
- `CommandScript.HaltsOnce` — what the end means for a run

## Main results

- `CommandScript.Course.haltsOnce` — a course ends a dispatch at most once
- `CommandScript.Evaluation.first_halt_is_final` — so do command strings and calls, among any
  surroundings
-/

namespace CommandScript

/-- What an observer may be told before the end of a dispatch (`none`) and after it. The end itself
is told in between. -/
def Activity.Fits (halted : Option Halt) : Activity → Prop
  | .rendering .. => halted = none
  | .rendered _ _ o => o.Tells halted
  | .entering .. => halted = none
  | .returned .. => True
  | .leaving _ o => o.Tells halted
  | .halting _ => False

/-- What may come up before the end of a dispatch and after it. Once it has ended, no function is
looked up, no call is entered and no command string is evaluated; those that are still being
evaluated give the end of the dispatch. -/
def Question.Fits (halted : Option Halt) : Question → Prop
  | .find .. => halted = none
  | .observe d a => d.halted = halted ∧ a.Fits halted
  | _ => True

/-- A question changes how a dispatch ended only where it tells that it ends. -/
theorem Question.Leads.fits {q : Question} {m m' : Moment} (step : q.Leads m m') :
    q.Fits m.halted ∧ m'.halted = m.halted ∨
      m.halted = none ∧ ∃ d h, q = .observe d (.halting h) ∧ d.halted = some h ∧
        m'.halted = some h := by
  cases q with
  | find => exact .inl ⟨step.1, by rw [step.2]⟩
  | change | layer | effect | notify => exact .inl ⟨trivial, congrArg Moment.halted step⟩
  | observe d a =>
    obtain ⟨rfl, step⟩ := step
    cases a with
    | rendering | rendered =>
      have same : d.halted = m.halted := congrArg Moment.halted step.2
      exact .inl ⟨⟨same, step.1⟩, same⟩
    | entering =>
      have same : d.halted = none := congrArg Moment.halted step.2
      exact .inl ⟨⟨same.trans step.1.symm, step.1⟩, same.trans step.1.symm⟩
    | returned => exact .inl ⟨⟨congrArg Moment.halted step, trivial⟩, congrArg Moment.halted step⟩
    | leaving =>
      have same : m.halted = d.halted := congrArg Moment.halted step.2
      exact .inl ⟨⟨same.symm, step.1⟩, same.symm⟩
    | halting h =>
      have ended : d.halted = some h := congrArg Moment.halted step.2
      exact .inr ⟨step.1, d, h, rfl, ended, ended⟩

namespace Course

variable {m m' : Moment} {qs before after : List Question} {d : Dispatch} {h : Halt}

/-- After the end nothing changes, and all that comes up is what may come up after the end. -/
theorem of_halted (course : Course m qs m') (ended : m.halted = some h) :
    m'.halted = some h ∧ ∀ q ∈ qs, q.Fits (some h) := by
  induction course with
  | nil => exact ⟨ended, by simp⟩
  | cons step _ ih =>
    obtain ⟨fits, same⟩ | ⟨unended, _⟩ := step.fits
    · obtain ⟨last, all⟩ := ih (same.trans ended)
      exact ⟨last, List.forall_mem_cons.2 ⟨ended ▸ fits, all⟩⟩
    · exact absurd (unended.symm.trans ended) (by simp)

/-- Where the end is told, it has not come before, and the rest is a course after it. -/
theorem of_halting (course : Course m (before ++ .observe d (.halting h) :: after) m') :
    m.halted = none ∧ d.halted = some h ∧ (∀ q ∈ before, q.Fits none) ∧
      m'.halted = some h ∧ ∀ q ∈ after, q.Fits (some h) := by
  -- Nothing before the end can have told an end, because it would have been told twice.
  induction before generalizing m with
  | nil =>
    cases course with
    | cons step rest =>
      obtain ⟨rfl, unended, same⟩ := step
      have ended : d.halted = some h := congrArg Moment.halted same
      exact ⟨unended, ended, by simp, rest.of_halted ended⟩
  | cons q before ih =>
    cases course with
    | cons step rest =>
      obtain ⟨unended, ended, all, last⟩ := ih rest
      obtain ⟨fits, same⟩ | ⟨_, _, _, _, _, ended'⟩ := step.fits
      · rw [← same, unended] at fits
        exact ⟨same.symm.trans unended, ended, List.forall_mem_cons.2 ⟨fits, all⟩, last⟩
      · exact absurd (ended'.symm.trans unended) (by simp)

/-- An end that was not there at the start has been told. -/
theorem exists_halting (course : Course m qs m') (unended : m.halted = none)
    (ended : m'.halted = some h) :
    ∃ before d after, qs = before ++ .observe d (.halting h) :: after := by
  induction course with
  | nil => exact absurd (unended.symm.trans ended) (by simp)
  | @cons _ _ _ q qs step rest ih =>
    obtain ⟨_, same⟩ | ⟨_, d, g, rfl, _, ended'⟩ := step.fits
    · obtain ⟨before, d, after, rfl⟩ := ih (same.trans unended) ended
      exact ⟨q :: before, d, after, rfl⟩
    · obtain rfl : h = g := by
        simpa using ended.symm.trans (rest.of_halted ended').1
      exact ⟨[], d, qs, rfl⟩

end Course

/-- What the end of a dispatch means for a run that starts with the dispatch `d`, in which the
questions `qs` come up, and which gives the outcome `o` and leaves the dispatch `left`. -/
structure HaltsOnce (d : Dispatch) (qs : List Question) (o : Outcome) (left : Dispatch) : Prop where
  /-- A dispatch that has ended stays as it ended, and nothing more is evaluated. -/
  of_halted : ∀ h, d.halted = some h → left.halted = some h ∧ ∀ q ∈ qs, q.Fits (some h)
  /-- Where the end is told, the dispatch had not ended before. From then on it stays as it ended,
  and nothing more is evaluated. -/
  of_halting : ∀ before e h after, qs = before ++ .observe e (.halting h) :: after →
    d.halted = none ∧ (∀ q ∈ before, q.Fits none) ∧
      e.halted = some h ∧ (∀ q ∈ after, q.Fits (some h)) ∧ left.halted = some h
  /-- A dispatch does not end without being told. -/
  exists_halting : ∀ h, d.halted = none → left.halted = some h →
    ∃ before e after, qs = before ++ .observe e (.halting h) :: after
  /-- The outcome is the end of the dispatch, and a text only where it has not ended. -/
  tells : o.Tells left.halted
  /-- Every call that is entered is left. -/
  depth_eq : left.depth = d.depth

/-- A course ends a dispatch at most once. -/
theorem Course.haltsOnce {d left : Dispatch} {qs : List Question} {o : Outcome}
    (course : Course d.moment qs left.moment) (depth : left.depth = d.depth)
    (tells : o.Tells left.halted) : HaltsOnce d qs o left where
  of_halted _ ended := course.of_halted ended
  of_halting before e h after split := by
    subst split
    obtain ⟨unended, ended, all, last, rest⟩ := course.of_halting
    exact ⟨unended, all, ended, rest, last⟩
  exists_halting _ unended ended := course.exists_halting unended ended
  tells := tells
  depth_eq := depth

namespace Evaluation

section

variable {σ : Type} (answer : σ → (q : Question) → q.Answer × σ) (s : σ)

/-- An orderly computation ends a dispatch at most once, among any surroundings. -/
theorem Orderly.haltsOnce {e : Evaluation Outcome} {d : Dispatch}
    (h : e.Orderly d fun o d' => o.Tells d'.halted) :
    HaltsOnce d (Program.asked (S := Questions) answer s (e d))
      (Program.run (S := Questions) answer s (e d)).1.1
      (Program.run (S := Questions) answer s (e d)).1.2 :=
  have run := Program.Ensures.run h answer s
  run.1.haltsOnce run.2.1 run.2.2

/-- **The first end of a dispatch is final.** Among any surroundings, and so with any functions and
callbacks: a command string is not evaluated at all in a dispatch that has ended. In any other
dispatch a command string and a call end the dispatch at most once; from then on no function is
looked up, no call is entered and no command string is evaluated; and what is still being evaluated,
up to the whole, gives that end. A text is given exactly where the dispatch has not ended. -/
theorem first_halt_is_final (scope : Scope) (remaining : Nat) (d : Dispatch) :
    (∀ cs line h, d.halted = some h → render scope remaining cs line d = pure (.error h, d)) ∧
    (∀ cs line, HaltsOnce d
      (Program.asked (S := Questions) answer s (render scope remaining cs line d))
      (Program.run (S := Questions) answer s (render scope remaining cs line d)).1.1
      (Program.run (S := Questions) answer s (render scope remaining cs line d)).1.2) ∧
    (∀ c, d.halted = none → HaltsOnce d
      (Program.asked (S := Questions) answer s (call scope remaining c d))
      (Program.run (S := Questions) answer s (call scope remaining c d)).1.1
      (Program.run (S := Questions) answer s (call scope remaining c d)).1.2) := by
  refine ⟨fun cs line h ended => ?_, fun cs line => ?_, fun c unended => ?_⟩
  · exact source_of_halted ended
  · exact (orderly_render remaining cs line d).haltsOnce answer s
  · exact (orderly_call remaining c d unended).haltsOnce answer s

end

end Evaluation

end CommandScript
