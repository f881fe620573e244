import CommandScript.Proofs.Dispatch.Mirrors
import CommandScript.Proofs.Interpreter.Classification
import CommandScript.Proofs.Script.Recasing

/-!
# Letter case of names in a dispatch

Functions are looked up by the key of a name, in which letter case does not count. Otherwise the
name of a call is only told to its function, to observers and in diagnostics. So command strings
that differ in the letter case of names come to the same where dispatches succeed, if the functions
do not look at the name or the text of their calls.

## Main definitions

- `CommandScript.Evaluation.MirrorsRendering`, `CommandScript.Evaluation.MirrorsCalling` — command
  strings and calls in another letter case are evaluated alike
- `CommandScript.Program.Suited` — the functions that a run looks up are found, and are incurious

## Main results

- `CommandScript.Evaluation.mirrors_routine` — routines do the same for a call in other letter case
- `CommandScript.Evaluation.mirrors_render` — evaluations mirror one another
- `CommandScript.Interpreter.names_caseless` — letter case of names does not count
-/

namespace CommandScript

open Script

namespace Evaluation

variable {scope : Scope} {c c' : Call}

/-- Command strings that differ at most in the letter case of names are evaluated in ways that
mirror one another. -/
def MirrorsRendering (render render' : List Char → Int → Evaluation Outcome) : Prop :=
  ∀ cs ds line, Recased cs ds → Mirrors Eq (render cs line) (render' ds line)

/-- Two results that are the same, or two failures. -/
inductive SameUnlessFailed {α : Type} : Except Failure α → Except Failure α → Prop where
  | ok (a : α) : SameUnlessFailed (.ok a) (.ok a)
  | error (e e' : Failure) : SameUnlessFailed (.error e) (.error e')

theorem SameUnlessFailed.refl {α : Type} (r : Except Failure α) : SameUnlessFailed r r := by
  cases r with
  | ok a => exact .ok a
  | error e => exact .error e e

section Routines

variable {render render' : List Char → Int → Evaluation Outcome} {memo : Memo}

theorem mirrors_halt (h : Halt) : Mirrors Eq (halt scope h) (halt scope h) :=
  .of_orderly fun _ => orderly_halt h

theorem mirrors_argument (same : MirrorsRendering render render') (calls : c.Recased c')
    (index : Int) :
    Mirrors Eq (argument render scope c memo index) (argument render' scope c' memo index) := by
  have places := calls.argumentAt? index
  unfold argument
  revert places
  generalize c.argumentAt? index = place, c'.argumentAt? index = place'
  intro places
  cases places with
  | none => exact mirrors_pure rfl
  | @some p q both =>
    obtain ⟨source, line⟩ := p
    obtain ⟨source', line'⟩ := q
    obtain ⟨sources, rfl⟩ := both
    cases memo.lookup index.toNat with
    | some s => exact mirrors_pure rfl
    | none =>
      refine mirrors_get.seq fun d => ?_
      dsimp only
      split
      · exact mirrors_pure rfl
      · refine (same _ _ _ sources).seq fun o => ?_
        cases o with
        | ok s => exact mirrors_pure rfl
        | error h => exact (mirrors_halt h).seq fun _ => mirrors_pure rfl

theorem mirrors_view (calls : c.Recased c') :
    Mirrors View.Parallels (view scope c) (view scope c') := by
  refine mirrors_get.seq fun d => mirrors_pure ?_
  exact ⟨calls.line, calls.length_arguments, rfl, rfl, rfl, rfl⟩

theorem mirrors_routine {α : Type} (orderly : OrderlyRendering render)
    (same : MirrorsRendering render render') (calls : c.Recased c') {r r' : Routine Callback α}
    (mirrors : r.Mirrors r') :
    Mirrors (fun x x' => SameUnlessFailed x.1 x'.1) (routine render scope c memo r)
      (routine render' scope c' memo r') := by
  induction mirrors generalizing memo with
  | done a => exact mirrors_pure (.ok a)
  | raise e e' => exact mirrors_pure (.error e e')
  | argument i _ ih => exact (mirrors_argument same calls i).seq fun x => ih x.1
  | look _ ih =>
    exact (mirrors_view calls).bind (fun v => ⟨rfl, rfl, rfl, rfl, rfl, rfl⟩) fun v w both =>
      ih v w both
  | abort reason reason' details details' next next' =>
    refine .of_ends (Ends.bind ?_ fun h => .of_orderly fun _ => orderly_routine orderly (next h))
    exact ends_halt_map
  | emit m topics _ ih => exact mirrors_modify_bind (fun _ => rfl) fun _ => ih
  | «recall» key _ ih => exact mirrors_get.seq fun d => ih _
  | remember key v _ ih => exact mirrors_modify_bind (fun _ => rfl) fun _ => ih
  | change ch _ ih => exact (Mirrors.of_orderly fun _ => orderly_change ch).seq fun e => ih e
  | effect q _ ih => exact (mirrors_ask _).seq fun r => ih r

theorem mirrors_scripted (orderly : OrderlyRendering render)
    (same : MirrorsRendering render render') (calls : c.Recased c') (code : Value)
    (params : List Value) :
    Mirrors SameUnlessFailed (scripted render scope c code params)
      (scripted render' scope c' code params) := by
  refine (mirrors_routine orderly same calls Routine.incurious_allArguments).bind
    (fun x => .refl x.1) fun x x' both => mirrors_get.seq fun d => ?_
  obtain ⟨texts, memo⟩ := x
  obtain ⟨texts', memo'⟩ := x'
  cases d.halted with
  | some h => exact mirrors_pure (.ok _)
  | none =>
    cases both with
    | error e e' => exact mirrors_pure (.error e e')
    | ok texts =>
      refine (Mirrors.of_orderly fun _ => orderly_body code params texts).seq fun filled => ?_
      cases filled with
      | error e => exact mirrors_pure (.error e e)
      | ok source =>
        rw [calls.line]
        refine (same source source c.line (.refl source)).seq fun o => ?_
        cases o with
        | ok s => exact mirrors_pure (.ok _)
        | error h => exact mirrors_pure (.ok _)

theorem mirrors_invoke (orderly : OrderlyRendering render)
    (same : MirrorsRendering render render') (calls : c.Recased c') {f : Descriptor Callback}
    (incurious : f.Incurious) :
    Mirrors SameUnlessFailed (invoke render scope c f) (invoke render' scope c' f) := by
  cases f with
  | native _ callback _ =>
    exact (mirrors_routine orderly same calls incurious).bind (fun x => .refl x.1) fun x x' both =>
      mirrors_pure both
  | scripted _ code params _ => exact mirrors_scripted orderly same calls code params
  | other _ => exact mirrors_pure (.refl _)

theorem ends_fail (e : Failure) : (fail scope c e).Ends :=
  .after fun _ => ends_halt_map

theorem mirrors_finish {reply reply' : Except Failure Reply}
    (both : SameUnlessFailed reply reply') :
    Mirrors Eq (finish scope c reply) (finish scope c' reply') := by
  cases both with
  | error e e' => exact .of_ends (ends_fail e)
  | ok reply =>
    cases reply with
    | halt h => exact (mirrors_halt h).seq fun _ => mirrors_pure rfl
    | value v =>
      refine mirrors_get.seq fun d => ?_
      cases d.halted with
      | some h => exact mirrors_pure rfl
      | none =>
        cases v.printed with
        | ok s => exact mirrors_pure rfl
        | error e => exact .of_ends (ends_fail _)

theorem mirrors_perform (orderly : OrderlyRendering render)
    (same : MirrorsRendering render render') (calls : c.Recased c') {f : Descriptor Callback}
    (incurious : f.Incurious) :
    Mirrors Eq (perform render scope c f) (perform render' scope c' f) :=
  (mirrors_invoke orderly same calls incurious).bind .refl fun _ _ both =>
    (mirrors_observe _ _).seq fun _ => mirrors_finish both

/-- A call is mirrored if what its function does is. -/
theorem mirrors_enter {f : Descriptor Callback}
    (performed : Mirrors Eq (perform render scope c f) (perform render' scope c' f)) :
    Mirrors Eq (enter render scope c f) (enter render' scope c' f) := by
  refine mirrors_modify_bind (fun _ => rfl) fun _ => (mirrors_observe _ _).seq fun _ => ?_
  refine performed.seq fun o => mirrors_modify_bind (fun _ => rfl) fun _ => ?_
  exact (mirrors_observe _ _).seq fun _ => mirrors_pure rfl

theorem lasts_enter (orderly : OrderlyRendering render) (f : Descriptor Callback) :
    (enter render scope c f).Lasts :=
  (mirrors_enter (.of_orderly fun _ => orderly_perform orderly f)).lasts

end Routines

theorem mirrors_unknown : Mirrors Eq (unknown scope c) (unknown scope c) := by
  unfold unknown
  dsimp only
  split
  · exact (mirrors_note ..).seq fun _ => mirrors_pure rfl
  · refine Mirrors.seq ((mirrors_note ..).seq fun _ => ?_) fun _ => mirrors_pure rfl
    exact mirrors_modify fun _ => rfl

theorem ends_refuse : (refuse scope c).Ends :=
  .after fun _ => ends_halt_map

section Sources

variable {call call' : Call → Evaluation Outcome}

/-- Calls that differ at most in the letter case of names are evaluated in ways that mirror one
another. -/
def MirrorsCalling (call call' : Call → Evaluation Outcome) : Prop :=
  ∀ c c' : Call, c.Recased c' → Mirrors Eq (call c) (call' c')

theorem mirrors_segments (same : MirrorsCalling call call') {parts parts' : List Segment}
    (both : List.Forall₂ Segment.Recased parts parts') :
    Mirrors Eq (segments call parts) (segments call' parts') := by
  induction both with
  | nil => exact mirrors_pure rfl
  | cons first _ ih =>
    cases first with
    | literal raw => exact ih.seq fun _ => mirrors_pure rfl
    | call calls =>
      refine (same _ _ calls).seq fun o => ?_
      cases o with
      | error h => exact mirrors_pure rfl
      | ok s => exact ih.seq fun _ => mirrors_pure rfl

theorem mirrors_source (same : MirrorsCalling call call') :
    MirrorsRendering (source call scope) (source call' scope) := by
  intro cs ds line both
  refine mirrors_get.seq fun d => ?_
  cases d.halted with
  | some h => exact mirrors_pure rfl
  | none =>
    refine (mirrors_observe _ _).seq fun _ => Mirrors.seq ?_ fun o =>
      (mirrors_observe _ _).seq fun _ => mirrors_pure rfl
    cases read : Script.segments cs line with
    | error e => exact .of_ends ends_halt_map
    | ok parts =>
      obtain ⟨parts', read', others⟩ := both.exists_segments read
      rw [read']
      exact mirrors_segments same others

end Sources

/-- Where a function is found under the name of a call, the same is found under the name of the
other. -/
theorem mirrors_find_bind {α : Type} {R : α → α → Prop}
    {g g' : Option (Descriptor Callback) → Evaluation α} (calls : c.Recased c')
    (lasts : ∀ f, (g f).Lasts)
    (found : ∀ f, f.Incurious → Mirrors R (g (some f)) (g' (some f))) :
    Mirrors R (find scope c >>= g) (find scope c' >>= g') where
  lasts d ended := ensures_bind.2 (ensures_ask.2 fun f => lasts f d ended)
  mirrors d := by
    have same : find scope c' = find scope c := by rw [find, calls.name.key_eq, find]
    rw [same]
    refine .ask (.find ..) fun f suits => ?_
    obtain ⟨f, rfl, incurious⟩ := suits
    exact (found f incurious).mirrors d

theorem mirrors_call (remaining : Nat) :
    MirrorsCalling (call scope remaining) (call scope remaining) := by
  induction remaining with
  | zero =>
    intro c c' calls
    refine mirrors_find_bind calls (fun f => ?_) fun f _ => .of_ends ends_refuse
    cases f with
    | none => exact mirrors_unknown.lasts
    | some f => exact fun d _ => ends_refuse d
  | succ n ih =>
    -- What a call evaluates has one call less to go, and is mirrored by the hypothesis.
    intro c c' calls
    have orderly : OrderlyRendering (source (call scope n) scope) := orderly_render n
    refine mirrors_find_bind calls (fun f => ?_) fun f incurious => ?_
    · cases f with
      | none => exact mirrors_unknown.lasts
      | some f => exact lasts_enter orderly f
    · exact mirrors_enter (mirrors_perform orderly (mirrors_source ih) calls incurious)

theorem mirrors_render (remaining : Nat) :
    MirrorsRendering (render scope remaining) (render scope remaining) :=
  mirrors_source (mirrors_call remaining)

end Evaluation

/-- What follows is run alike after programs that are. -/
theorem Program.run_after {S : Signature} {σ α β : Type}
    {answer : σ → (q : S.Question) → S.Answer q × σ} {s : σ} {p p' : Program S α}
    (same : Program.run answer s p' = Program.run answer s p) (f : α → Program S β) :
    Program.run answer s (p' >>= f) = Program.run answer s (p >>= f) := by
  rw [Program.run_bind, Program.run_bind, same]

/-- While the program runs, a function is found wherever one is looked up, and it is incurious. -/
def Program.Suited {σ α : Type} (answer : σ → (q : Question) → q.Answer × σ) (s : σ)
    (p : Program Questions α) : Prop :=
  ∀ x ∈ Program.exchanges (S := Questions) answer s p, Question.Suits x.1 x.2

namespace Interpreter

open Evaluation

variable {σ α β : Type} {answer : σ → (q : Question) → q.Answer × σ} {s : σ} {cs ds : List Char}

theorem suited_bind {p : Program Questions α} {f : α → Program Questions β} :
    (p >>= f).Suited answer s ↔ p.Suited answer s ∧
      (f (Program.run (S := Questions) answer s p).1).Suited answer
        (Program.run (S := Questions) answer s p).2 := by
  have comes := Program.exchanges_bind (S := Questions) answer s p f
  unfold Program.Suited
  rw [comes]
  exact List.forall_mem_append

/-- A dispatch that succeeds has not been ended. -/
theorem unended_of_success {scope : Scope} {listeners : List String} {o : Outcome} {d : Dispatch}
    {r : Result} (tells : o.Tells d.halted)
    (gives : (Program.run (S := Questions) answer s (closing scope listeners o d)).1.1 = .ok r)
    (success : r.status = .success) : d.halted = none := by
  have concluded : (conclude scope o).Ensures d _ := settled_conclude tells
  rw [run_closing] at gives
  exact ((Program.Ensures.run concluded answer s).settles gives).success.1 success

theorem run_dispatch_recased (deaf : Deaf answer) (both : Recased cs ds) {scope : Scope}
    {listeners : List String} {r : Result}
    (suited : Program.Suited answer s (dispatch scope listeners cs .start))
    (gives : (Program.run (S := Questions) answer s (dispatch scope listeners cs .start)).1.1 =
      .ok r)
    (success : r.status = .success) :
    Program.run (S := Questions) answer s (dispatch scope listeners ds .start) =
      Program.run (S := Questions) answer s (dispatch scope listeners cs .start) := by
  have opened : Mirrors Eq (opening scope cs) (opening scope ds) :=
    (mirrors_note ..).seq fun _ => mirrors_render _ cs ds 1 both
  have orderly : (opening scope cs).Orderly .start fun o d => o.Tells d.halted :=
    Orderly.seq (orderly_note trivial) fun _ d => orderly_render _ cs 1 d
  rw [dispatch_eq] at suited gives
  rw [dispatch_eq, dispatch_eq, run_bind, run_bind]
  rw [run_bind] at gives
  have tells := (Program.Ensures.run orderly answer s).2.2
  have unended := unended_of_success tells gives success
  obtain ⟨o, same, run⟩ := (opened.mirrors .start).run deaf s (suited_bind.1 suited).1 unended
  rw [run, ← same]

theorem run_run_recased (deaf : Deaf answer) {i : Interpreter} {functions : Handle}
    {v : Invocation} {r : Result} (both : Recased v.source ds)
    (suited : (i.run functions v).Suited answer s)
    (gives : (Program.run (S := Questions) answer s (i.run functions v)).1 = .ok r)
    (success : r.status = .success) :
    Program.run (S := Questions) answer s (i.run functions { v with source := ds }) =
      Program.run (S := Questions) answer s (i.run functions v) := by
  have parted := Program.run_bind (S := Questions) answer s
    ((dispatch (i.scope functions v) i.listeners v.source).run .start) fun x => pure x.1
  have gave := (congrArg Prod.fst parted).symm.trans gives
  exact Program.run_after (run_dispatch_recased deaf both (suited_bind.1 suited).1 gave success) _

theorem run_handle_recased (deaf : Deaf answer) {i : Interpreter} {v : Invocation} {r : Result}
    (both : Recased v.source ds) (suited : (i.handle v).Suited answer s)
    (handled : (Program.run (S := Questions) answer s (i.handle v)).1 = .ok r)
    (success : r.status = .success) :
    Program.run (S := Questions) answer s (i.handle { v with source := ds }) =
      Program.run (S := Questions) answer s (i.handle v) := by
  by_cases alone : v.functions.isEmpty = true
  · have begins (source : List Char) : i.handle { v with source } =
        i.run i.functions { v with source } := if_pos alone
    rw [begins v.source] at suited handled
    rw [begins ds, begins v.source]
    exact run_run_recased deaf both suited handled success
  · have begins (source : List Char) : i.handle { v with source } =
        (Question.ask (.layer i.functions v.functions)) >>= _ := if_neg alone
    rw [begins v.source] at suited handled
    rw [begins ds, begins v.source]
    rw [Program.Suited, Question.exchanges_ask_bind] at suited
    obtain ⟨-, later⟩ := List.forall_mem_cons.1 suited
    rw [Question.run_ask_bind] at handled
    rw [Question.run_ask_bind, Question.run_ask_bind]
    revert handled later
    cases (answer s (.layer i.functions v.functions)).1 with
    | error e => exact fun refused => nomatch refused
    | ok functions => exact fun handled later => run_run_recased deaf both later handled success

/-- **Letter case of names does not count.** Among surroundings that do not listen to what an
observer is told: for two command strings that differ in nothing but the letter case of names of
calls, at any depth, every registry, and functions that do not look at the name or the text of their
call. If the dispatch of one succeeds, and every function that it looks up is found, then the
dispatch of the other gives the same result, with the same output and messages, remembers the same,
and leaves the same surroundings: the registries, the store, and all else. -/
theorem names_caseless (deaf : Deaf answer) (s : σ) :
    (∀ (scope : Scope) (listeners : List String) (cs ds : List Char) (r : Result), Recased cs ds →
      Program.Suited answer s (dispatch scope listeners cs .start) →
      (Program.run (S := Questions) answer s (dispatch scope listeners cs .start)).1.1 = .ok r →
      r.status = .success →
      Program.run (S := Questions) answer s (dispatch scope listeners ds .start) =
        Program.run (S := Questions) answer s (dispatch scope listeners cs .start)) ∧
    ∀ (i : Interpreter) (v : Invocation) (r : Result) (ds : List Char), Recased v.source ds →
      (i.handle v).Suited answer s →
      (Program.run (S := Questions) answer s (i.handle v)).1 = .ok r → r.status = .success →
      Program.run (S := Questions) answer s (i.handle { v with source := ds }) =
        Program.run (S := Questions) answer s (i.handle v) :=
  ⟨fun _ _ _ _ _ both suited gives success =>
      run_dispatch_recased deaf both suited gives success,
    fun _ _ _ _ both suited handled success => run_handle_recased deaf both suited handled success⟩

/-- A world with one function, `$s`, that returns a text. -/
def answering : World :=
  { World.empty .null with
    registries := ⟨[⟨.null, [], [("s", .native "$s" (.of (.done (.value (.text "x")))) .null)]⟩]⟩ }

/-- A call in another letter case, with one in an argument that is not read. -/
theorem names_caseless_answering :
    let i : Interpreter := ⟨.usual, 0, []⟩
    let v : Invocation := ⟨['$', 's', '[', '$', 't', '[', ']', ']'], .null, none, []⟩
    let ds := ['$', 'S', '[', '$', 'T', '[', ']', ']']
    let started := dispatch (i.scope 0 v) [] v.source .start
    Deaf World.answer ∧ Recased v.source ds ∧ Program.Suited World.answer answering started ∧
      Program.Suited World.answer answering (i.handle v) ∧
      answering.run (dispatch (i.scope 0 v) [] ds .start) = answering.run started ∧
      ∃ r, (answering.run (i.handle v)).1 = .ok r ∧ r.status = .success ∧ r.output = some "x" ∧
        answering.run (i.handle { v with source := ds }) = answering.run (i.handle v) := by
  intro i v ds started
  have outer : Caseless ['s'] ['S'] :=
    ⟨⟨'s', [], rfl, by decide, by simp⟩, ⟨'S', [], rfl, by decide, by simp⟩, rfl⟩
  have inner : Caseless ['t'] ['T'] :=
    ⟨⟨'t', [], rfl, by decide, by simp⟩, ⟨'T', [], rfl, by decide, by simp⟩, rfl⟩
  have both : Recased v.source ds := .head outer (.head inner (.cons _ (.cons _ .nil)))
  have deaf : Deaf World.answer := fun _ _ _ => rfl
  have read : Script.segments v.source 1 = .ok [.call ⟨['s'], ['$', 't', '[', ']'], 0, 1⟩] :=
    (Script.segmentsFrom_call rfl rfl).trans (by rw [Script.segmentsFrom_nil]; rfl)
  obtain ⟨r, gives, success, shown⟩ : ∃ r, (answering.run started).1.1 = .ok r ∧
      r.status = .success ∧ r.output = some "x" := by
    unfold started dispatch render Evaluation.source
    rw [read]
    exact ⟨_, rfl, rfl, rfl⟩
  have suited : Program.Suited World.answer answering started := by
    unfold started dispatch render Evaluation.source
    rw [read]
    -- The only function that is looked up is the one of the outer call.
    iterate 2 refine List.forall_mem_cons.2 ⟨trivial, ?_⟩
    refine List.forall_mem_cons.2 ⟨⟨_, rfl, .done _⟩, ?_⟩
    iterate 5 refine List.forall_mem_cons.2 ⟨trivial, ?_⟩
    exact List.forall_mem_nil _
  have handling : Program.Suited World.answer answering (i.handle v) := by
    have ends : Program.Suited World.answer answering (started >>= fun x => pure x.1) :=
      suited_bind.2 ⟨suited, List.forall_mem_nil _⟩
    exact ends
  have handled : (answering.run (i.handle v)).1 = .ok r :=
    (congrArg Prod.fst (Program.run_bind (S := Questions) World.answer answering started
      fun x => pure x.1)).trans gives
  refine ⟨deaf, both, suited, handling, ?_, r, handled, success, shown, ?_⟩
  · exact (names_caseless deaf answering).1 _ [] _ ds r both suited gives success
  · exact (names_caseless deaf answering).2 i v r ds both handling handled success

end Interpreter

end CommandScript
