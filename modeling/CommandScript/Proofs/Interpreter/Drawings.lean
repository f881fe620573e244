import CommandScript.Proofs.BuiltIn.Random
import CommandScript.Proofs.Interpreter.Diagnostics
import CommandScript.Proofs.Interpreter.Malformed

/-!
# The numbers drawn in a dispatch

Command strings with any calls of the built-in function that draws numbers, in any order and inside
one another, among calls of other functions. As long as no other callback remembers anything under
the keys of drawn numbers, calls that want their numbers remembered return the same number for the
same bounds, and it was drawn once, for the first of them.

## Main definitions

- `CommandScript.Reserved` — no other callback touches what is remembered of drawn numbers
- `CommandScript.DrawsWithin` — what chance answers lies between the bounds
- `CommandScript.DrawsConsistently` — what is known of the calls in a run that draw numbers

## Main results

- `CommandScript.Evaluation.keeps_render` — evaluating a command string keeps the ledger sound
- `CommandScript.Interpreter.draws_consistent` — the calls of a dispatch that draw numbers are
  consistent
-/

namespace CommandScript

open BuiltIn

namespace Evaluation

variable {counts : Descriptor Callback → Bool} {render : List Char → Int → Evaluation Outcome}
  {scope : Scope} {c : Script.Call} {d : Dispatch} {L : Ledger} {ks : List OpenCall}
  {f : Descriptor Callback}

/-! ### Calls -/

/-- A call of a function that does not count leaves no trace in the history. -/
theorem closes_of_atCall {reply : Except Failure Reply} (sound : L.Sound d)
    (inside : L.AtCall false ks) : Closes c ks reply d L := by
  obtain ⟨k, calls, counts⟩ := inside
  rw [Closes, Ledger.close_of_not_counts calls counts]
  exact ⟨sound.of_eq rfl rfl, rfl⟩

theorem keeps_scripted (hrender : KeepsRendering counts render) {code : Value}
    {params : List Value} (sound : L.Sound d) (inside : L.AtCall false ks) :
    Keeps counts (scripted render scope c code params) d L fun _ d' L' =>
      L'.Sound d' ∧ L'.AtCall false ks := by
  refine (keeps_routine hrender Routine.spares_allArguments sound inside).bind fun p d L kept => ?_
  obtain ⟨sound, inside⟩ := kept
  obtain ⟨texts, memo⟩ := p
  refine keeps_get_bind ?_
  split
  · exact keeps_pure ⟨sound, inside⟩
  · exact keeps_pure ⟨sound, inside⟩
  · refine (idles_body _ _ _).keeps.bind fun filled d' L' same => ?_
    obtain ⟨cache, rfl⟩ := same
    have sound := sound.of_eq cache rfl
    cases filled with
    | error e => exact keeps_pure ⟨sound, inside⟩
    | ok source =>
      refine (hrender _ _ _ _ sound).bind fun o d'' L'' kept => ?_
      obtain ⟨sound, open_⟩ := kept
      have inside : L''.AtCall false ks := by
        split at open_
        · exact inside.of_eq open_
        · exact inside.read.of_eq open_
      cases o with
      | ok s => exact keeps_pure ⟨sound, inside⟩
      | error h => exact keeps_pure ⟨sound, inside⟩

/-- Whatever its function is, a call can be entered into the history once it has returned. -/
theorem keeps_invoke (hrender : KeepsRendering counts render) (orderly : OrderlyRendering render)
    (reserved : f.Reserved counts) (running : d.halted = none) (sound : L.Sound d)
    (calls : L.calls = ⟨counts f, [], []⟩ :: ks) :
    Keeps counts (invoke render scope c f) d L (Closes c ks) := by
  unfold Descriptor.Reserved at reserved
  split at reserved
  · rename_i counted
    rw [counted] at calls
    obtain ⟨name, version, rfl⟩ := reserved
    exact (keeps_random hrender orderly running sound calls).bind fun p _ _ closes =>
      keeps_pure closes
  · rename_i uncounted
    have inside : L.AtCall false ks := ⟨_, calls, Bool.eq_false_iff.2 uncounted⟩
    cases f with
    | native name callback version =>
      exact (keeps_routine hrender reserved sound inside).bind fun p _ _ kept =>
        keeps_pure (closes_of_atCall kept.1 kept.2)
    | scripted name code params version =>
      exact (keeps_scripted hrender sound inside).imp fun _ _ _ kept =>
        closes_of_atCall kept.1 kept.2
    | other name => exact keeps_pure (closes_of_atCall sound inside)

/-- A call of a function enters itself into the ledger, and is taken out again. -/
theorem keeps_enter (hrender : KeepsRendering counts render) (orderly : OrderlyRendering render)
    (reserved : f.Reserved counts) (running : d.halted = none) (sound : L.Sound d) :
    Keeps counts (enter render scope c f) d L fun _ d' L' => L'.Sound d' ∧ L'.calls = L.calls := by
  refine keeps_modify_bind (keeps_observe_bind ?_)
  have entered : (L.enter (counts f)).Sound { d with depth := d.depth + 1 } := sound.of_eq rfl rfl
  have performed : Keeps counts (perform render scope c f) { d with depth := d.depth + 1 }
      (L.enter (counts f)) fun _ d' L' => L'.Sound d' ∧ L'.calls = L.calls := by
    refine (keeps_invoke (d := { d with depth := d.depth + 1 }) hrender orderly reserved running
      entered rfl).bind fun reply d' L' closes => keeps_observe_bind ?_
    refine (idles_finish reply).keeps.imp fun _ d'' L'' same => ?_
    obtain ⟨cache, rfl⟩ := same
    exact ⟨closes.1.of_eq cache rfl, closes.2⟩
  refine performed.bind fun o d' L' kept => keeps_modify_bind (keeps_observe_bind ?_)
  exact keeps_pure ⟨kept.1.of_eq rfl rfl, kept.2⟩

/-! ### Command strings -/

/-- Calls leave the ledger sound and the calls around them as they are, in dispatches that have not
ended. -/
def KeepsCalling (counts : Descriptor Callback → Bool) (call : Script.Call → Evaluation Outcome) :
    Prop :=
  ∀ c d L, d.halted = none → L.Sound d →
    Keeps counts (call c) d L fun _ d' L' => L'.Sound d' ∧ L'.calls = L.calls

variable {call : Script.Call → Evaluation Outcome}

theorem keeps_segments (hcall : KeepsCalling counts call) (orderly : OrderlyCalling call)
    (parts : List Script.Segment) (running : d.halted = none) (sound : L.Sound d) :
    Keeps counts (segments call parts) d L fun _ d' L' => L'.Sound d' ∧ L'.calls = L.calls := by
  induction parts generalizing d L with
  | nil => exact keeps_pure ⟨sound, rfl⟩
  | cons part rest ih =>
    cases part with
    | literal raw => exact (ih running sound).bind fun _ _ _ kept => keeps_pure kept
    | call c =>
      have tells : (call c).Ensures d fun _ o d' => o.Tells d'.halted :=
        Ensures.imp (orderly c d running) fun _ _ _ r => r.2.2
      refine ((hcall c d L running sound).and_ensures tells).bind fun o d' L' kept => ?_
      obtain ⟨⟨sound, same⟩, tells⟩ := kept
      cases o with
      | error h => exact keeps_pure ⟨sound, same⟩
      | ok s =>
        refine (ih (Outcome.tells_ok.1 tells) sound).bind fun _ d'' L'' kept => keeps_pure ?_
        exact ⟨kept.1, kept.2.trans same⟩

/-- What came of a command string is entered into the ledger. -/
theorem keeps_source (hcall : KeepsCalling counts call) (orderly : OrderlyCalling call) :
    KeepsRendering counts (source call scope) := by
  intro cs line d L sound
  refine keeps_get_bind ?_
  cases ended : d.halted with
  | some h =>
    have halted : d.isHalted = true := by rw [Dispatch.isHalted, ended]; rfl
    exact keeps_pure ⟨sound, (if_pos halted).symm⟩
  | none =>
    have awake : ¬d.isHalted = true := by rw [Dispatch.isHalted, ended]; exact Bool.false_ne_true
    refine keeps_observe_bind ?_
    have evaluated : Keeps counts (parsed call scope (Script.segments cs line)) d L
        fun _ d' L' => L'.Sound d' ∧ L'.calls = L.calls := by
      cases Script.segments cs line with
      | error e =>
        refine (idles_halt _).keeps.bind fun h d' L' same => keeps_pure ?_
        obtain ⟨cache, rfl⟩ := same
        exact ⟨sound.of_eq cache rfl, rfl⟩
      | ok parts => exact keeps_segments hcall orderly parts ended sound
    refine Keeps.bind evaluated fun o d' L' kept => keeps_observe_bind (keeps_pure ?_)
    exact ⟨kept.1.of_eq rfl rfl, (congrArg (List.modifyHead _) kept.2).trans (if_neg awake).symm⟩

/-- Calls keep the ledger sound, however deep they may be inside one another. -/
theorem keeps_call (remaining : Nat) : KeepsCalling counts (Evaluation.call scope remaining) := by
  have still {e : Evaluation Outcome} {d : Dispatch} {L : Ledger} (idles : Idles e d)
      (sound : L.Sound d) :
      Keeps counts e d L fun _ d' L' => L'.Sound d' ∧ L'.calls = L.calls := by
    refine idles.keeps.imp fun _ d' L' same => ?_
    obtain ⟨cache, rfl⟩ := same
    exact ⟨sound.of_eq cache rfl, rfl⟩
  induction remaining with
  | zero =>
    intro c d L running sound
    refine keeps_ask_bind fun found _ => ?_
    cases found with
    | none => exact still idles_unknown sound
    | some f => exact still idles_refuse sound
  | succ n ih =>
    -- What is evaluated inside the call has one call less to go.
    intro c d L running sound
    refine keeps_ask_bind fun found reserved => ?_
    cases found with
    | none => exact still idles_unknown sound
    | some f =>
      exact keeps_enter (keeps_source ih (orderly_call n)) (orderly_source (orderly_call n))
        reserved running sound

/-- **Evaluating a command string** keeps the ledger sound. -/
theorem keeps_render (remaining : Nat) :
    KeepsRendering counts (Evaluation.render scope remaining) :=
  keeps_source (keeps_call remaining) (orderly_call remaining)

end Evaluation

namespace Interpreter

open Evaluation

variable {counts : Descriptor Callback → Bool} {scope : Scope} {d : Dispatch} {L : Ledger}

theorem isUnrecorded_of_isQuiet {q : Question} (quiet : q.isQuiet = true) :
    q.isUnrecorded = true := by
  cases q with
  | effect command q => cases q <;> first | rfl | cases quiet
  | observe d a => cases quiet
  | _ => rfl

/-- No call is being executed any more, and the history of those that have returned is sound. -/
def Settled (L : Ledger) : Prop := (∃ d, L.Sound d) ∧ L.calls = []

/-- Telling of the result of a dispatch changes no ledger. -/
theorem keeps_closing (listeners : List String) (o : Outcome) :
    Keeps counts (closing scope listeners o) d L fun _ _ L' => L' = L :=
  Program.Meets.imp (Program.Meets.of_ensures (ensures_closing listeners o)) fun _ _ quiet =>
    Ledger.foldl_after_of_isUnrecorded fun q mem => isUnrecorded_of_isQuiet (quiet q mem)

/-- A dispatch begins with an empty ledger, and nothing is remembered. -/
theorem sound_start : Ledger.empty.Sound .start :=
  ⟨.nil, List.forall_mem_nil _, fun _ _ _ => rfl⟩

theorem keeps_dispatch (listeners : List String) (source : List Char) :
    Keeps counts (dispatch scope listeners source) .start .empty fun _ _ L => Settled L := by
  rw [dispatch_eq]
  have opened : Keeps counts (opening scope source) .start .empty fun _ d L =>
      L.Sound d ∧ L.calls = [] := by
    refine Keeps.bind idles_note.keeps fun _ d L same => ?_
    obtain ⟨cache, rfl⟩ := same
    refine (keeps_render _ source 1 d .empty (sound_start.of_eq cache rfl)).imp
      fun o d' L' kept => ⟨kept.1, ?_⟩
    rw [kept.2]
    split <;> rfl
  refine opened.bind fun o d L kept => (keeps_closing listeners o).imp fun _ _ L' same => ?_
  rw [same]
  exact ⟨⟨d, kept.1⟩, kept.2⟩

theorem meets_run (i : Interpreter) (functions : Handle) (v : Invocation) :
    Program.Meets (S := Questions) (Question.Finds counts) (i.run functions v)
      fun xs _ => Settled (ledger counts xs) :=
  Program.Meets.map (S := Questions) (keeps_dispatch i.listeners v.source)

theorem meets_handle (i : Interpreter) (v : Invocation) :
    Program.Meets (S := Questions) (Question.Finds counts) (i.handle v)
      fun xs _ => Settled (ledger counts xs) := by
  unfold handle
  split
  · exact meets_run i i.functions v
  · -- Layering functions of its own over the registry comes before the dispatch.
    intro layered _
    cases layered with
    | error e => exact ⟨⟨.start, sound_start⟩, rfl⟩
    | ok functions => exact meets_run i functions v

end Interpreter

/-- Each function that is found in a run is the built-in one that draws numbers if it counts, and
remembers nothing under the keys of drawn numbers if it does not. -/
def Reserved (counts : Descriptor Callback → Bool) (xs : List Exchange) : Prop :=
  ∀ h k f, (⟨.find h k, some f⟩ : Exchange) ∈ xs → f.Reserved counts

theorem Reserved.finds {counts : Descriptor Callback → Bool} {xs : List Exchange}
    (reserved : Reserved counts xs) (x : Exchange) (mem : x ∈ xs) : x.1.Finds counts x.2 := by
  obtain ⟨q, r⟩ := x
  cases q with
  | find h k =>
    cases r with
    | none => trivial
    | some f => exact reserved h k f mem
  | _ => trivial

/-- Whatever is drawn between bounds in order lies between them. -/
def DrawsWithin (xs : List Exchange) : Prop :=
  ∀ q ∈ xs.filterMap Exchange.draw?, q.low ≤ q.high → q.Within

/-- What is known of the calls in a run that draw numbers. -/
structure DrawsConsistently (counts : Descriptor Callback → Bool) (xs : List Exchange) : Prop where
  /-- Each call of a function that counts is in the history. -/
  entered : (drawings counts xs).length = xs.countP (Exchange.enters counts)
  /-- Each of these calls evaluates its first arguments, as far as they have values. -/
  reads : ∀ x ∈ drawings counts xs, x.Reads
  /-- Calls that want their numbers remembered share them, and others do not. -/
  consistent : Consistent (drawings counts xs)
  /-- Each number is drawn for one of these calls, or for another function. -/
  drawn : ((drawings counts xs).flatMap Drawing.draws ++ otherDraws counts xs).Perm
    (xs.filterMap Exchange.draw?)
  /-- What these calls return lies between their bounds. -/
  within : DrawsWithin xs → ∀ x ∈ drawings counts xs, ∀ w n, x.wish? = some w →
    x.number? = some n → w.low ≤ n ∧ n ≤ w.high

namespace Interpreter

/-- **Drawn numbers are consistent within a dispatch.** Take any interpreter, any command string
with what it is evaluated for, and any surroundings in which no callback but that of the built-in
function remembers anything under the keys of drawn numbers. -/
theorem draws_consistent (i : Interpreter) (v : Invocation) (counts : Descriptor Callback → Bool)
    {σ : Type} (answer : σ → (q : Question) → q.Answer × σ) (s : σ)
    (reserved : Reserved counts (Program.exchanges (S := Questions) answer s (i.handle v))) :
    DrawsConsistently counts (Program.exchanges (S := Questions) answer s (i.handle v)) := by
  obtain ⟨⟨d, sound⟩, none⟩ := Program.Meets.run (meets_handle i v) answer s reserved.finds
  generalize Program.exchanges (S := Questions) answer s (i.handle v) = xs at sound none
  have consistent := sound.history.consistent
  have drawn : ((drawings counts xs).flatMap Drawing.draws ++ otherDraws counts xs).Perm
      (xs.filterMap Exchange.draw?) := by
    have perm := Ledger.perm_draws counts xs
    rw [Ledger.draws, none, List.flatMap_nil, List.append_nil] at perm
    exact perm
  refine ⟨?_, sound.reads, consistent, drawn, fun within => consistent.within ?_⟩
  · have entered := Ledger.entered_ledger counts xs
    rw [Ledger.entered, none] at entered
    exact entered
  · intro x mem q drew
    refine within q (drawn.subset ?_) (consistent.ordered x mem q drew)
    exact List.mem_append_left _ (List.mem_flatMap_of_mem mem drew)

/-- Surroundings in which the function that draws numbers is found under every name, and chance
answers one number after the other. -/
def rolling (next : Int) : (q : Question) → q.Answer × Int
  | .find .. => (some (.native "$random" (.of BuiltIn.random) .null), next)
  | .effect _ (.draw ..) => (next, next + 1)
  | q => ((World.answer (.empty .null) q).1, next)

/-- In `$random[1;6]$random[$random[1;6];9]$random[1;6;false]` the call inside another one returns
what the first call drew, and the last one draws for itself. -/
theorem draws_consistent_nested :
    let source := "$random[1;6]$random[$random[1;6];9]$random[1;6;false]".toList
    let xs := Program.exchanges (S := Questions) rolling 3 (bare.handle (plain source))
    let counts := fun _ => true
    Reserved counts xs ∧ DrawsConsistently counts xs ∧
      (drawings counts xs).map Drawing.number? = [some 3, some 3, some 4, some 5] := by
  intro source xs counts
  have reserved : Reserved counts xs := by
    intro h k f mem
    obtain ⟨next, found⟩ := Program.exists_answer_of_mem_exchanges mem
    obtain rfl := Option.some.inj found
    exact ⟨_, _, rfl⟩
  refine ⟨reserved, draws_consistent bare (plain source) counts rolling 3 reserved, ?_⟩
  decide +kernel

end Interpreter

end CommandScript
