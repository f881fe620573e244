import CommandScript.Proofs.Dispatch.Course
import CommandScript.World

/-!
# The recursion of evaluation

Functions evaluate command strings, and command strings call functions. Seen by itself, this
recursion compares the depth of the dispatch with the limit and nothing else: bodies may be longer
than the command strings that call them, and functions may be changed while they run. It ends all
the same: when it is unrolled more often than calls may be inside one another, nothing that comes
after the unrollings is needed.

## Main definitions

- `CommandScript.Evaluation.counted` — evaluating a call, given how command strings are evaluated
- `CommandScript.Evaluation.unrolled` — so many unrollings of the recursion
- `CommandScript.Evaluation.SameAt` — evaluating command strings alike in dispatches of some depth

## Main results

- `CommandScript.Evaluation.enter_congr` — a call evaluates command strings one deeper than itself
- `CommandScript.Evaluation.unrolled_eq` — enough unrollings evaluate command strings
- `CommandScript.Evaluation.evaluation_ends` — every evaluation ends, among any surroundings
-/

namespace CommandScript

namespace Evaluation

/-- Evaluates a call, given how command strings are evaluated on its behalf. A call of a known
function is refused where the depth of the dispatch has reached the limit. -/
def counted (evaluate : List Char → Int → Evaluation Outcome) (scope : Scope) (c : Script.Call) :
    Evaluation Outcome := do
  match ← find scope c with
  | none => unknown scope c
  | some f =>
    if scope.settings.maxDepth ≤ (← get).depth then refuse scope c
    else enter evaluate scope c f

/-- Evaluates a command string by so many unrollings of the recursion, with something else in the
place of the next one. -/
def unrolled (scope : Scope) (rest : List Char → Int → Evaluation Outcome) :
    Nat → List Char → Int → Evaluation Outcome
  | 0 => rest
  | n + 1 => source (counted (unrolled scope rest n) scope) scope

/-- Two ways to evaluate command strings are the same in dispatches of a depth. -/
def SameAt (depth : Nat) (render render' : List Char → Int → Evaluation Outcome) : Prop :=
  ∀ cs line d, d.depth = depth → render cs line d = render' cs line d

section

variable {α β : Type} {scope : Scope} {c : Script.Call} {d : Dispatch} {k : Nat} {memo : Memo}
  {render render' : List Char → Int → Evaluation Outcome}

/-- What follows a computation matters only in dispatches that it may leave. -/
theorem Orderly.bind_congr {e : Evaluation α} {f g : α → Evaluation β} {P : α → Dispatch → Prop}
    (known : e.Orderly d P)
    (same : ∀ a d', d'.depth = d.depth → P a d' → f a d' = g a d') : (e >>= f) d = (e >>= g) d :=
  Program.Ensures.bind_congr (Program.Ensures.imp known fun _ _ r => r.2) fun r h =>
    same r.1 r.2 h.1 h.2

theorem argument_congr (same : SameAt k render render') (depth : d.depth = k) (index : Int) :
    argument render scope c memo index d = argument render' scope c memo index d := by
  unfold argument
  match c.argumentAt? index, memo.lookup index.toNat with
  | none, _ => rfl
  | some _, some _ => rfl
  | some (source, line), none =>
    simp only [get_bind]
    split
    · rfl
    · exact bind_congr_left (same _ _ d depth) _

/-- A routine evaluates command strings in dispatches of the depth in which it runs. -/
theorem routine_congr (orderly : OrderlyRendering render) (same : SameAt k render render')
    (depth : d.depth = k) (r : Routine Callback α) :
    routine render scope c memo r d = routine render' scope c memo r d := by
  induction r generalizing memo d with
  | done a => rfl
  | raise e => rfl
  | argument i next ih =>
    rw [routine, routine, bind_congr_left (argument_congr same depth i).symm]
    exact (orderly_argument orderly i).bind_congr fun _ _ eq _ => ih _ (eq.trans depth)
  | look next ih => exact ih _ depth
  | abort reason details next ih =>
    exact (orderly_abort reason details).bind_congr fun _ _ eq _ => ih _ (eq.trans depth)
  | emit m topics next ih => exact ih depth
  | «recall» key next ih => exact ih _ depth
  | remember key v next ih => exact ih depth
  | change ch next ih => exact (orderly_change ch).bind_congr fun _ _ eq _ => ih _ (eq.trans depth)
  | effect q next ih =>
    have asked : (ask (.effect scope.logged q)).Orderly d fun _ _ => True :=
      orderly_ask rfl fun _ => trivial
    exact asked.bind_congr fun _ _ eq _ => ih _ (eq.trans depth)

theorem scripted_congr (orderly : OrderlyRendering render) (same : SameAt k render render')
    (depth : d.depth = k) (code : Value) (params : List Value) :
    scripted render scope c code params d = scripted render' scope c code params d := by
  unfold scripted
  rw [bind_congr_left (routine_congr orderly same depth _).symm]
  refine (orderly_routine orderly _).bind_congr fun a d eq _ => ?_
  obtain ⟨texts, memo⟩ := a
  simp only [get_bind]
  match d.halted, texts with
  | some _, _ => rfl
  | none, .error _ => rfl
  | none, .ok texts =>
    refine (orderly_body _ _ _).bind_congr fun filled d' eq' _ => ?_
    cases filled with
    | error e => rfl
    | ok source => exact bind_congr_left (same _ _ d' (eq'.trans (eq.trans depth))) _

theorem invoke_congr (orderly : OrderlyRendering render) (same : SameAt k render render')
    (depth : d.depth = k) (f : Descriptor Callback) :
    invoke render scope c f d = invoke render' scope c f d := by
  cases f with
  | native _ callback _ => exact bind_congr_left (routine_congr orderly same depth _) _
  | scripted _ code params _ => exact scripted_congr orderly same depth code params
  | other _ => rfl

/-- A call evaluates command strings in dispatches one deeper than the one that it is in. -/
theorem enter_congr (orderly : OrderlyRendering render) (same : SameAt (d.depth + 1) render render')
    (f : Descriptor Callback) : enter render scope c f d = enter render' scope c f d := by
  have perform : perform render scope c f { d with depth := d.depth + 1 } =
      perform render' scope c f { d with depth := d.depth + 1 } :=
    bind_congr_left (invoke_congr orderly same rfl f) _
  exact congrArg (Program.ask (S := Questions) _) (funext fun _ => bind_congr_left perform _)

/-- Two ways to evaluate calls are the same in dispatches of a depth that have not ended. -/
def SameCallAt (depth : Nat) (call call' : Script.Call → Evaluation Outcome) : Prop :=
  ∀ c d, d.depth = depth → d.halted = none → call c d = call' c d

theorem segments_congr {call call' : Script.Call → Evaluation Outcome}
    (orderly : OrderlyCalling call) (same : SameCallAt k call call') (parts : List Script.Segment)
    (depth : d.depth = k) (unended : d.halted = none) :
    segments call parts d = segments call' parts d := by
  induction parts generalizing d with
  | nil => rfl
  | cons part rest ih =>
    cases part with
    | literal raw => exact bind_congr_left (ih depth unended) _
    | call c =>
      rw [segments, segments, bind_congr_left (same c d depth unended).symm]
      refine (orderly c d unended).bind_congr fun o d' eq tells => ?_
      cases o with
      | error h => rfl
      | ok s => exact bind_congr_left (ih (eq.trans depth) (Outcome.tells_ok.1 tells)) _

/-- A command string evaluates its calls in dispatches of the depth that it is evaluated in. -/
theorem source_congr {call call' : Script.Call → Evaluation Outcome}
    (orderly : OrderlyCalling call) (same : SameCallAt k call call') :
    SameAt k (source call scope) (source call' scope) := by
  intro cs line d depth
  rw [source, source, get_bind, get_bind]
  cases unended : d.halted with
  | some h => rfl
  | none =>
    refine congrArg (Program.ask (S := Questions) _) (funext fun _ => bind_congr_left ?_ _)
    cases Script.segments cs line with
    | error e => rfl
    | ok parts => exact segments_congr orderly same parts depth unended

/-- Seen by itself, a call is evaluated as its place in the recursion says. -/
theorem counted_eq {remaining : Nat} (reach : k + remaining = scope.settings.maxDepth)
    (same : ∀ m, remaining = m + 1 → SameAt (k + 1) (Evaluation.render scope m) render) :
    SameCallAt k (call scope remaining) (counted render scope) := by
  intro c d depth unended
  cases remaining with
  | zero =>
    refine (orderly_find unended).bind_congr fun f d' eq _ => ?_
    cases f with
    | none => rfl
    | some f =>
      have full : scope.settings.maxDepth ≤ d'.depth := by omega
      simp only [get_bind, if_pos full]
  | succ m =>
    refine (orderly_find unended).bind_congr fun f d' eq _ => ?_
    cases f with
    | none => rfl
    | some f =>
      have room : ¬scope.settings.maxDepth ≤ d'.depth := by omega
      simp only [get_bind, if_neg room]
      refine enter_congr (orderly_render m) ?_ f
      rw [eq.trans depth]
      exact same m rfl

/-- Enough unrollings evaluate command strings, whatever comes after them. -/
theorem unrolled_eq {rest : List Char → Int → Evaluation Outcome} {remaining n : Nat}
    (reach : k + remaining = scope.settings.maxDepth) (enough : remaining < n) :
    SameAt k (Evaluation.render scope remaining) (unrolled scope rest n) := by
  -- Each unrolling is one deeper, so that one call less may be inside it.
  induction n generalizing k remaining with
  | zero => omega
  | succ n ih =>
    refine source_congr (orderly_call remaining) (counted_eq reach fun m eq => ?_)
    exact ih (by omega) (by omega)

end

/-- **Every evaluation ends.** A command string that is evaluated while no call is being executed
gives an outcome among any surroundings, and so with any functions and callbacks, also ones that
call themselves or change the functions: whatever is put in the place of what comes after more
unrollings of the recursion than calls may be inside one another, it is not reached. -/
theorem evaluation_ends {σ : Type} (answer : σ → (q : Question) → q.Answer × σ) (s : σ)
    (scope : Scope) (cs : List Char) (line : Int) (d : Dispatch) (start : d.depth = 0) :
    ∃ (o : Outcome) (left : Dispatch) (s' : σ), o.Tells left.halted ∧ left.depth = 0 ∧
      Program.run (S := Questions) answer s (render scope scope.settings.maxDepth cs line d) =
        ((o, left), s') ∧
      ∀ rest n, scope.settings.maxDepth < n →
        Program.run (S := Questions) answer s (unrolled scope rest n cs line d) =
          ((o, left), s') := by
  have orderly : OrderlyRendering (render scope scope.settings.maxDepth) := orderly_render _
  obtain ⟨-, depth, tells⟩ := Program.Ensures.run (orderly cs line d) answer s
  refine ⟨_, _, _, tells, depth.trans start, rfl, fun rest n enough => ?_⟩
  rw [← unrolled_eq (Nat.zero_add _) enough cs line d start]

/-- A function that calls itself twice, and so would never be done. -/
def doubling : World :=
  { World.empty .null with
    registries := ⟨[⟨.null, [], [("f", .scripted "$f" (.text "$f[]$f[]") [] .null)]⟩]⟩ }

/-- A call of a function that calls itself twice. -/
theorem evaluation_ends_doubling :
    ∃ (o : Outcome) (left : Dispatch) (w : World), o.Tells left.halted ∧ left.depth = 0 ∧
      Program.run (S := Questions) World.answer doubling
          (render ⟨0, .usual, .null, false, none, none⟩ 100 ['$', 'f', '[', ']'] 1 .start) =
        ((o, left), w) ∧
      ∀ rest n, 100 < n →
        Program.run (S := Questions) World.answer doubling
            (unrolled ⟨0, .usual, .null, false, none, none⟩ rest n ['$', 'f', '[', ']'] 1 .start) =
          ((o, left), w) :=
  evaluation_ends World.answer doubling ⟨0, .usual, .null, false, none, none⟩ _ 1 .start rfl

end Evaluation

end CommandScript
