import CommandScript.Proofs.Dispatch.Frames
import CommandScript.Proofs.Dispatch.Halting

/-!
# The depth of a dispatch

A dispatch counts the calls that are being executed. The count is exact at every moment, it never
passes the limit, and everything that is evaluated leaves it as it was. A call is refused where its
function is known and the limit is reached, and only there.

## Main definitions

- `CommandScript.CountsCalls` — what the depth means for a run

## Main results

- `CommandScript.Step.depth`, `CommandScript.Steps.depth` — the depth is the number of calls that
  are being executed
- `CommandScript.Steps.callDepth_le` — which never passes the limit
- `CommandScript.Evaluation.depth_exact` — the depth among any surroundings
-/

namespace CommandScript

section

variable {scope : Scope} {source : List Char} {first : Int} {p p' : Place} {x : Exchange}
  {es before after : List Exchange} {m m' : Moment}

/-- A step leaves the depth exact. -/
theorem Step.depth (step : Step scope source first p x p') (leads : x.1.Leads m m')
    (counts : m.depth = callDepth p.frames) : m'.depth = callDepth p'.frames := by
  cases step with
  | change | effect | refusing => exact leads ▸ counts
  | unknown | found => exact leads.2 ▸ counts
  | rendering | rendered | entering | halting | refused =>
    obtain ⟨-, -, rfl⟩ := leads
    simpa [callDepth] using counts
  | returned =>
    obtain ⟨-, rfl⟩ := leads
    exact counts
  | leaving =>
    obtain ⟨-, -, rfl⟩ := leads
    simpa [callDepth] using counts

/-- A run leaves the depth exact. -/
theorem Steps.depth (run : Steps scope source first p es p')
    (course : Course m (es.map (·.1)) m') (counts : m.depth = callDepth p.frames) :
    m'.depth = callDepth p'.frames := by
  induction run generalizing m with
  | nil =>
    cases course with
    | nil => exact counts
  | cons step _ ih =>
    cases course with
    | cons leads rest => exact ih rest (step.depth leads counts)

/-- A step does not pass the limit. -/
theorem Step.callDepth_le (step : Step scope source first p x p')
    (le : callDepth p.frames ≤ scope.settings.maxDepth) :
    callDepth p'.frames ≤ scope.settings.maxDepth := by
  cases step with
  | entering room => exact room
  | leaving => exact Nat.le_of_succ_le le
  | _ => exact le

/-- A run does not pass the limit. -/
theorem Steps.callDepth_le (run : Steps scope source first p es p')
    (le : callDepth p.frames ≤ scope.settings.maxDepth) :
    callDepth p'.frames ≤ scope.settings.maxDepth := by
  induction run with
  | nil => exact le
  | cons step _ ih => exact ih (step.callDepth_le le)

end

/-- What the depth means for a run with the given exchanges. -/
structure CountsCalls (scope : Scope) (es : List Exchange) : Prop where
  /-- The depth is the number of calls that are being executed, and not more than the limit. -/
  depth : ∀ before d a after, es = before ++ .told d a :: after →
    d.depth = callDepth (frames (before ++ [.told d a])) ∧ d.depth ≤ scope.settings.maxDepth
  /-- The call that is left is the innermost one. -/
  leaving : ∀ before d c o after, es = before ++ .told d (.leaving c o) :: after →
    ∃ f fs, frames before = .call c f :: fs
  /-- A call whose function is found is entered at once while the limit is not reached. Otherwise
  the limit is reached, the dispatch ends because of it, and no call is entered any more. -/
  found : ∀ before functions key f after, es = before ++ ⟨.find functions key, some f⟩ :: after →
    ∃ c, Question.lookup scope c = .find functions key ∧
      (callDepth (frames before) < scope.settings.maxDepth ∧
          (∃ d later, after = .told d (.entering c f) :: later) ∨
        callDepth (frames before) = scope.settings.maxDepth ∧
          (∃ note d later, after = note :: .told d (.halting (.tooDeep scope c)) :: later) ∧
          ∀ d c' f', .told d (.entering c' f') ∉ after)
  /-- A call is only entered right after its function was found, while the limit is not reached. -/
  entering : ∀ before d c f after, es = before ++ .told d (.entering c f) :: after →
    callDepth (frames before) < scope.settings.maxDepth ∧
      ∃ earlier, before = earlier ++ [.lookup scope c (some f)]
  /-- The dispatch ends through a function that is being executed, through a command string that is
  malformed, or else through a call whose function is found where the limit is reached. -/
  halting : ∀ before d h after, es = before ++ .told d (.halting h) :: after →
    (∃ frame fs, frames before = frame :: fs ∧ frame.Ends h) ∨
      ∃ c f earlier note, h = .tooDeep scope c ∧
        before = earlier ++ [.lookup scope c (some f), note] ∧
        callDepth (frames before) = scope.settings.maxDepth

section

variable {scope : Scope} {source : List Char} {first : Int} {p p' : Place} {c : Script.Call}
  {f : Descriptor Callback} {es before after : List Exchange} {m m' : Moment}

/-- A function that is due has just been found. -/
theorem Steps.of_found {fs : List Frame} (run : Steps scope source first p es ⟨fs, .found c f⟩)
    (free : p.stage = .free) : ∃ earlier, es = earlier ++ [.lookup scope c (some f)] := by
  obtain ⟨-, rfl⟩ | ⟨q, earlier, x, rfl, -, step⟩ := run.last
  · cases free
  · cases step with
    | found => exact ⟨earlier, rfl⟩

/-- A call that is refused has just been found too deep. -/
theorem Steps.of_refused {fs : List Frame} (run : Steps scope source first p es ⟨fs, .refused c⟩)
    (free : p.stage = .free) :
    callDepth fs = scope.settings.maxDepth ∧
      ∃ f earlier note, es = earlier ++ [.lookup scope c (some f), note] := by
  obtain ⟨-, rfl⟩ | ⟨q, front, note, rfl, before, step⟩ := run.last
  · cases free
  · cases step with
    | refusing full =>
      obtain ⟨earlier, rfl⟩ := before.of_found free
      exact ⟨full, _, earlier, _, List.append_assoc ..⟩

/-- A function that was found is entered, or the dispatch ends. -/
theorem Steps.from_found {fs : List Frame} (run : Steps scope source first ⟨fs, .found c f⟩ es p')
    (free : p'.stage = .free) :
    callDepth fs < scope.settings.maxDepth ∧ (∃ d later, es = .told d (.entering c f) :: later) ∨
      callDepth fs = scope.settings.maxDepth ∧
        ∃ note d later, es = note :: .told d (.halting (.tooDeep scope c)) :: later ∧
          ∀ d c' f', note ≠ .told d (.entering c' f') := by
  cases run with
  | nil => cases free
  | cons step rest =>
    cases step with
    | entering room => exact .inl ⟨room, _, _, rfl⟩
    | refusing full =>
      cases rest with
      | nil => cases free
      | cons step' _ =>
        cases step' with
        | refused => exact .inr ⟨full, _, _, _, rfl, fun _ _ _ eq => by cases eq⟩

/-- After the end no call is entered. -/
theorem Course.not_entering {d : Dispatch} {h : Halt}
    (course : Course m ((before ++ .told d (.halting h) :: after).map (·.1)) m') (e : Dispatch)
    (c : Script.Call) (f : Descriptor Callback) : .told e (.entering c f) ∉ after := by
  intro mem
  rw [List.map_append] at course
  obtain ⟨-, -, -, -, all⟩ := course.of_halting
  cases (all _ (List.mem_map_of_mem mem)).2

/-- A run that starts with no call being executed counts the calls. -/
theorem CountsCalls.of_steps (run : Steps scope source first ⟨[], .free⟩ es ⟨[], .free⟩)
    (course : Course m (es.map (·.1)) m') (start : m.depth = 0) : CountsCalls scope es where
  depth before d a after split := by
    subst split
    obtain ⟨q, q', front, step, -⟩ := run.of_split
    rw [List.map_append, List.map_cons] at course
    obtain ⟨k, k', courseFront, leads, -⟩ := course.of_split
    have inside := front.append (.single step)
    have counts := step.depth leads (front.depth courseFront start)
    have le := inside.callDepth_le (Nat.zero_le _)
    rw [← inside.frames_eq] at counts le
    obtain rfl : d.moment = k' := leads.1
    exact ⟨counts, Nat.le_trans (Nat.le_of_eq counts) le⟩
  leaving before d c o after split := by
    subst split
    obtain ⟨q, q', front, step, -⟩ := run.of_split
    cases step with
    | leaving => exact ⟨_, _, front.frames_eq⟩
  found before functions key f after split := by
    subst split
    obtain ⟨q, q', front, step, back⟩ := run.of_split
    cases step with
    | @found fs c _ _ _ here =>
      refine ⟨c, rfl, ?_⟩
      rw [front.frames_eq]
      obtain entered | ⟨full, note, d, later, rfl, other⟩ := back.from_found rfl
      · exact .inl entered
      · refine .inr ⟨full, ⟨note, d, later, rfl⟩, fun e c' f' mem => ?_⟩
        have ended : Course m ((before ++ [.lookup scope c (some f), note] ++
            .told d (.halting (.tooDeep scope c)) :: later).map (·.1)) m' := by
          simpa using course
        obtain first | second | others := (List.mem_cons.1 mem).imp_right List.mem_cons.1
        · exact other e c' f' first.symm
        · cases second
        · exact ended.not_entering e c' f' others
  entering before d c f after split := by
    subst split
    obtain ⟨q, q', front, step, -⟩ := run.of_split
    cases step with
    | entering room => exact ⟨front.frames_eq ▸ room, front.of_found rfl⟩
  halting before d h after split := by
    subst split
    obtain ⟨q, q', front, step, -⟩ := run.of_split
    cases step with
    | halting ends => exact .inl ⟨_, _, front.frames_eq, ends⟩
    | @refused fs _ c =>
      obtain ⟨full, f, earlier, note, eq⟩ := front.of_refused rfl
      exact .inr ⟨c, f, earlier, note, rfl, eq, front.frames_eq ▸ full⟩

end

namespace Evaluation

section

variable {scope : Scope} {c : Script.Call} {d : Dispatch}

/-- A call of an unknown function gives a text and leaves the depth as it was. -/
theorem ensures_unknown :
    (unknown scope c).Ensures d fun _ o d' => (∃ t, o = .ok t) ∧ d'.depth = d.depth := by
  unfold unknown
  split
  · exact ensures_bind.2 (ensures_note.2 (ensures_pure.2 ⟨⟨_, rfl⟩, rfl⟩))
  · refine ensures_bind.2 (ensures_bind.2 (ensures_note.2 (ensures_modify.2 ?_)))
    exact ensures_pure.2 ⟨⟨_, rfl⟩, rfl⟩

/-- A refused call ends a dispatch that has not ended, and no call is entered. -/
theorem ensures_refuse (unended : d.halted = none) :
    (refuse scope c).Ensures d fun qs o _ =>
      o = .error (.tooDeep scope c) ∧ ∀ e c' f', .observe e (.entering c' f') ∉ qs := by
  refine ensures_bind.2 (ensures_note.2 (ensures_bind.2 (ensures_bind.2 (ensures_get.2 ?_))))
  rw [unended]
  refine ensures_bind.2 (ensures_modify.2 ?_)
  refine ensures_bind.2 (ensures_observe.2 (ensures_bind.2 (ensures_note.2 ?_)))
  exact ensures_pure.2 (ensures_pure.2 ⟨rfl, by simp⟩)

/-- A call of a known function is entered before anything else comes up. -/
theorem ensures_enter {render : List Char → Int → Evaluation Outcome} {f : Descriptor Callback} :
    (enter render scope c f).Ensures d fun qs _ _ => ∃ e, .observe e (.entering c f) ∈ qs := by
  refine ensures_bind.2 (ensures_modify.2 (ensures_bind.2 (ensures_observe.2 ?_)))
  exact Program.Ensures.of_forall fun _ _ => ⟨_, .head _⟩

/-- Entering a call and leaving it cancel out, also in a dispatch that has ended. -/
theorem ensures_enter_depth {render : List Char → Int → Evaluation Outcome}
    (hrender : OrderlyRendering render) {f : Descriptor Callback} :
    (enter render scope c f).Ensures d fun _ _ d' => d'.depth = d.depth := by
  refine ensures_bind.2 (ensures_modify.2 (ensures_bind.2 (ensures_observe.2 ?_)))
  refine ensures_bind.2 (Ensures.imp (orderly_perform hrender f) fun _ o d' r => ?_)
  refine ensures_bind.2 (ensures_modify.2 (ensures_bind.2 (ensures_observe.2 ?_)))
  exact ensures_pure.2 (by simp [r.2.1])

/-- A call is refused where no other may be inside it, if its function is known. -/
theorem call_eq (remaining : Nat) :
    call scope remaining c = find scope c >>= fun
      | none => unknown scope c
      | some f =>
        match remaining with
        | 0 => refuse scope c
        | n + 1 => enter (render scope n) scope c f := by
  cases remaining with
  | zero => rfl
  | succ n => rfl

end

section

variable {σ : Type} (answer : σ → (q : Question) → q.Answer × σ) (s : σ) {scope : Scope}
  {c : Script.Call} {d : Dispatch}

/-- Every call leaves the depth as it was, also in a dispatch that has ended. -/
theorem ensures_call_depth {remaining : Nat} :
    (call scope remaining c).Ensures d fun _ _ d' => d'.depth = d.depth := by
  rw [call_eq]
  refine ensures_bind.2 fun f => ?_
  match f, remaining with
  | none, _ => exact Ensures.imp ensures_unknown fun _ _ _ r => r.2
  | some _, 0 => exact Ensures.imp orderly_refuse fun _ _ _ r => r.2.1
  | some _, n + 1 => exact ensures_enter_depth (orderly_render n)

/-- Looking up a function runs what is done with it. -/
theorem run_find_bind {β : Type} (k : Option (Descriptor Callback) → Evaluation β) :
    Program.run (S := Questions) answer s ((find scope c >>= k) d) =
      Program.run (S := Questions) answer (answer s (.lookup scope c)).2
        (k (answer s (.lookup scope c)).1 d) := rfl

theorem asked_find_bind {β : Type} (k : Option (Descriptor Callback) → Evaluation β) :
    Program.asked (S := Questions) answer s ((find scope c >>= k) d) =
      .lookup scope c :: Program.asked (S := Questions) answer (answer s (.lookup scope c)).2
        (k (answer s (.lookup scope c)).1 d) := rfl

/-- Without entering another call, a call ends the dispatch because of the limit exactly where its
function is found and no call may be inside it. -/
theorem run_call_eq_tooDeep_iff {remaining : Nat} (unended : d.halted = none) :
    (Program.run (S := Questions) answer s (call scope remaining c d)).1.1 =
          .error (.tooDeep scope c) ∧
        (∀ e c' f, .observe e (.entering c' f) ∉
          Program.asked (S := Questions) answer s (call scope remaining c d)) ↔
      (∃ f, (answer s (.lookup scope c)).1 = some f) ∧ remaining = 0 := by
  rw [call_eq, run_find_bind, asked_find_bind]
  obtain ⟨f, s'⟩ := answer s (.lookup scope c)
  match f, remaining with
  | none, _ =>
    have known : (unknown scope c).Ensures d _ := ensures_unknown
    obtain ⟨⟨t, text⟩, -⟩ := Program.Ensures.run known answer s'
    constructor
    · rintro ⟨ended, -⟩
      cases text.symm.trans ended
    · rintro ⟨⟨f, found⟩, -⟩
      cases found
  | some f, 0 =>
    have known : (refuse scope c).Ensures d _ := ensures_refuse unended
    obtain ⟨ended, others⟩ := Program.Ensures.run known answer s'
    refine ⟨fun _ => ⟨⟨f, rfl⟩, rfl⟩, fun _ => ⟨ended, fun e c' f' mem => ?_⟩⟩
    exact others e c' f' ((List.mem_cons.1 mem).resolve_left nofun)
  | some f, n + 1 =>
    have known : (enter (render scope n) scope c f).Ensures d _ := ensures_enter
    obtain ⟨e, entered⟩ := Program.Ensures.run known answer s'
    constructor
    · rintro ⟨-, others⟩
      exact absurd (.tail _ entered) (others e c f)
    · rintro ⟨-, none⟩
      cases none

/-- **The depth of a dispatch is exact, bounded and always restored.** Among any surroundings, and
so with any functions and callbacks, a command string that is evaluated while no call is being
executed counts the calls. Command strings and calls leave the depth with which they began, however
they end. And among the calls in a dispatch that has not ended, those that end it because of the
limit without being entered are those whose function is found while the limit is reached. -/
theorem depth_exact (scope : Scope) :
    (∀ cs line d, d.depth = 0 →
      CountsCalls scope (exchanges answer s (render scope scope.settings.maxDepth cs line) d)) ∧
    (∀ remaining cs line d,
      (Program.run (S := Questions) answer s (render scope remaining cs line d)).1.2.depth =
        d.depth) ∧
    (∀ remaining c d,
      (Program.run (S := Questions) answer s (call scope remaining c d)).1.2.depth = d.depth) ∧
    (∀ c d, d.halted = none → d.depth ≤ scope.settings.maxDepth →
      ((Program.run (S := Questions) answer s
            (call scope (scope.settings.maxDepth - d.depth) c d)).1.1 = .error (.tooDeep scope c) ∧
          (∀ e c' f, .observe e (.entering c' f) ∉ Program.asked (S := Questions) answer s
            (call scope (scope.settings.maxDepth - d.depth) c d)) ↔
        (∃ f, (answer s (.lookup scope c)).1 = some f) ∧ d.depth = scope.settings.maxDepth)) := by
  refine ⟨fun cs line d start => ?_, fun remaining cs line d => ?_, fun remaining c d => ?_,
    fun c d unended le => ?_⟩
  · have steps : Steps scope cs line ⟨[], .free⟩ _ ⟨[], .free⟩ :=
      advances_render (d := d) (Nat.zero_add _) .whole σ answer s
    have orderly : OrderlyRendering (render scope scope.settings.maxDepth) := orderly_render _
    have course := (Program.Ensures.run (orderly cs line d) answer s).1
    rw [← map_fst_exchanges] at course
    exact .of_steps steps course start
  · exact (Program.Ensures.run (orderly_render remaining cs line d) answer s).2.1
  · exact Program.Ensures.run ensures_call_depth answer s
  · rw [run_call_eq_tooDeep_iff answer s unended]
    exact and_congr_right fun _ => by omega

end

end Evaluation

end CommandScript
