import CommandScript.Proofs.Dispatch.Acts
import CommandScript.Proofs.Script.CallTree
import CommandScript.World

/-!
# In which order calls are evaluated

Functions that read all their arguments before they do anything else are done with a call after the
calls inside it, and before the calls that come later. If each of them leaves a message with its
call then, the messages list the tree of calls in post-order.

## Main definitions

- `CommandScript.Script.Call.recorded` — the message that a call leaves
- `CommandScript.Routine.Records` — routines that read all arguments in order, and then record the
  call
- `CommandScript.Dispatch.records` — the messages under a topic
- `CommandScript.Evaluation.Recites` — computations that leave messages and go on

## Main results

- `CommandScript.Evaluation.recites_routine` — what a routine records comes after what its arguments
  record
- `CommandScript.Evaluation.recites_call`, `CommandScript.Evaluation.recites_render` — calls and
  command strings record their trees
- `CommandScript.Evaluation.calls_in_post_order` — calls are recorded in post-order
-/

namespace CommandScript

open Script (Call Forest tree)

/-- The message that records a call: its name, its text and its line. -/
def Script.Call.recorded (c : Call) : Value :=
  .tuple [.text c.shownName, .text (String.ofList c.raw), .int c.line]

/-- The messages under a topic, in order. -/
def Dispatch.records (topic : String) (d : Dispatch) : List Value :=
  (d.effects.filter fun e => topic ∈ e.topics).map SideEffect.message

/-- What a routine sees of a call in a dispatch that has not ended. -/
structure View.Of (c : Call) (v : View) : Prop where
  name : v.name = c.shownName
  line : v.line = c.line
  raw : v.raw = c.raw
  arguments : v.arguments = c.arguments
  isAborted : v.isAborted = false

namespace Routine

/-- Called as the given call, the routine returns a value that can be printed, whatever it is told,
does not end the dispatch, and leaves no message under the topic. -/
def Unobtrusive (topic : String) (c : Call) : Routine Callback Reply → Prop
  | .done r => ∃ v s, r = .value v ∧ v.printed = .ok s
  | .raise _ => False
  | .argument _ next => ∀ s, (next s).Unobtrusive topic c
  | .look next => ∀ v, v.Of c → (next v).Unobtrusive topic c
  | .abort .. => False
  | .emit _ topics next => topic ∉ topics ∧ next.Unobtrusive topic c
  | .recall _ next => ∀ v, (next v).Unobtrusive topic c
  | .remember _ _ next => next.Unobtrusive topic c
  | .change _ next => ∀ e, (next e).Unobtrusive topic c
  | .effect _ next => ∀ r, (next r).Unobtrusive topic c

/-- Called as the given call, of which the first arguments have been read, the routine reads the
others in order, then records the call under the topic, and is unobtrusive from then on. -/
def Records (topic : String) (c : Call) : Nat → Routine Callback Reply → Prop
  | n, .argument i next =>
    i = n ∧ n < c.arguments.length ∧ ∀ s, (next (some s)).Records topic c (n + 1)
  | n, .look next => ∀ v, v.Of c → (next v).Records topic c n
  | n, .emit m topics next =>
    n = c.arguments.length ∧ m = c.recorded ∧ topic ∈ topics ∧ next.Unobtrusive topic c
  | _, _ => False

section

variable {C α β γ : Type} {topic : String} {c : Call}

theorem bind_assoc (r : Routine C α) (f : α → Routine C β) (g : β → Routine C γ) :
    r >>= f >>= g = r >>= fun a => f a >>= g := by
  induction r with
  | done a => rfl
  | raise e => rfl
  | argument i next ih => exact congrArg (argument i) (funext ih)
  | look next ih => exact congrArg look (funext ih)
  | abort reason details next ih => exact congrArg (abort reason details) (funext ih)
  | emit m topics next ih => exact congrArg (emit m topics) ih
  | «recall» key next ih => exact congrArg («recall» key) (funext ih)
  | remember key v next ih => exact congrArg (remember key v) ih
  | change ch next ih => exact congrArg (change ch) (funext ih)
  | effect q next ih => exact congrArg (effect q) (funext ih)

theorem records_arguments {n : Nat} {f : List (Option String) → Routine Callback Reply}
    (le : n ≤ c.arguments.length) (later : ∀ texts, (f texts).Records topic c n) :
    (arguments n >>= f).Records topic c 0 := by
  induction n generalizing f with
  | zero => exact later []
  | succ n ih =>
    rw [arguments, bind_assoc]
    exact ih (Nat.le_of_succ_le le) fun texts => ⟨rfl, le, fun s => later _⟩

/-- A routine that begins with the texts of all arguments reads them in order. -/
theorem records_allArguments {f : List (Option String) → Routine Callback Reply}
    (later : ∀ texts, (f texts).Records topic c c.arguments.length) :
    (allArguments >>= f).Records topic c 0 := by
  intro v seen
  show (arguments v.arguments.length >>= f).Records topic c 0
  rw [seen.arguments]
  exact records_arguments (Nat.le_refl _) later

/-- Reads all arguments, and then records the call. -/
def recorder (topic : String) : Routine Callback Reply := do
  let _ ← allArguments
  let v ← view
  .emit (.tuple [.text v.name, .text (String.ofList v.raw), .int v.line]) [topic] nothing

theorem records_recorder (topic : String) (c : Call) : (recorder topic).Records topic c 0 := by
  refine records_allArguments fun texts v seen => ⟨rfl, ?_, List.mem_singleton_self topic, ?_⟩
  · rw [seen.name, seen.raw, seen.line]
    rfl
  · exact ⟨.null, "", rfl, rfl⟩

end

end Routine

/-- The function reads all arguments of its calls in order, then records the call under the topic,
and never ends the dispatch. -/
def Descriptor.Recorder (topic : String) : Descriptor Callback → Prop
  | .native _ callback _ => ∀ c, callback.body.Records topic c 0
  | _ => False

namespace Evaluation

section

variable {σ α β : Type} (answer : σ → (q : Question) → q.Answer × σ) (expected : Exchange → Prop)
  (topic : String)

/-- Wherever a dispatch has not ended, the computation leaves the given messages under the topic and
does not end the dispatch, if only what is expected comes up. -/
def Recites (e : Evaluation α) (ms : List Value) (post : α → Prop) : Prop :=
  ∀ s d, d.halted = none → (∀ x ∈ exchanges answer s e d, expected x) →
    ∃ a d' s', Program.run (S := Questions) answer s (e d) = ((a, d'), s') ∧ d'.halted = none ∧
      d'.records topic = d.records topic ++ ms ∧ post a

/-- The outcome is a text. -/
def Succeeds (o : Outcome) : Prop := ∃ text, o = .ok text

end

section

variable {σ α β : Type} {answer : σ → (q : Question) → q.Answer × σ} {expected : Exchange → Prop}
  {topic : String} {ms ms' : List Value} {P : α → Prop} {Q : β → Prop}

theorem recites_pure {a : α} (h : P a) : Recites answer expected topic (pure a) [] P :=
  fun s d running _ => ⟨a, d, s, rfl, running, (List.append_nil _).symm, h⟩

theorem Recites.imp {P' : α → Prop} {e : Evaluation α}
    (h : Recites answer expected topic e ms P) (weaker : ∀ a, P a → P' a) :
    Recites answer expected topic e ms P' := by
  intro s d running known
  obtain ⟨a, d', s', ran, running', left, here⟩ := h s d running known
  exact ⟨a, d', s', ran, running', left, weaker a here⟩

theorem Recites.bind {e : Evaluation α} {f : α → Evaluation β}
    (first : Recites answer expected topic e ms P)
    (second : ∀ a, P a → Recites answer expected topic (f a) ms' Q) :
    Recites answer expected topic (e >>= f) (ms ++ ms') Q := by
  intro s d running known
  rw [exchanges_bind] at known
  obtain ⟨known, later⟩ := List.forall_mem_append.1 known
  obtain ⟨a, d', s', ran, running', left, here⟩ := first s d running known
  rw [ran] at later
  obtain ⟨b, d'', s'', ran', running'', left', there⟩ := second a here s' d' running' later
  refine ⟨b, d'', s'', ?_, running'', ?_, there⟩
  · rw [run_bind, ran, ran']
  · rw [left', left, List.append_assoc]

/-- Nothing is left before what is left. -/
theorem Recites.seq {e : Evaluation α} {f : α → Evaluation β}
    (first : Recites answer expected topic e [] P)
    (second : ∀ a, P a → Recites answer expected topic (f a) ms Q) :
    Recites answer expected topic (e >>= f) ms Q :=
  first.bind second

/-- Nothing is left after what is left. -/
theorem Recites.map {e : Evaluation α} {f : α → Evaluation β}
    (first : Recites answer expected topic e ms P)
    (second : ∀ a, P a → Recites answer expected topic (f a) [] Q) :
    Recites answer expected topic (e >>= f) ms Q := by
  have both := first.bind second
  rwa [List.append_nil] at both

theorem recites_get_bind {f : Dispatch → Evaluation β}
    (h : ∀ d : Dispatch, d.halted = none → Recites answer expected topic (f d) ms Q) :
    Recites answer expected topic (get >>= f) ms Q :=
  fun s d running known => h d running s d running known

/-- A computation that is another one in dispatches that have not ended leaves what that leaves. -/
theorem Recites.congr {e e' : Evaluation α} (h : Recites answer expected topic e' ms P)
    (same : ∀ d : Dispatch, d.halted = none → e d = e' d) :
    Recites answer expected topic e ms P := by
  intro s d running known
  rw [same d running]
  refine h s d running ?_
  unfold exchanges at known ⊢
  rwa [← same d running]

theorem recites_modify {g : Dispatch → Dispatch} (halted : ∀ d, (g d).halted = d.halted)
    (records : ∀ d, (g d).records topic = d.records topic ++ ms) :
    Recites answer expected topic (modify g) ms fun _ => True :=
  fun s d running _ => ⟨⟨⟩, g d, s, rfl, (halted d).trans running, records d, trivial⟩

theorem recites_ask (q : Question) :
    Recites answer expected topic (ask q) [] fun r => expected ⟨q, r⟩ :=
  fun _ d running known =>
    ⟨_, d, _, rfl, running, (List.append_nil _).symm, known _ List.mem_cons_self⟩

theorem recites_observe (a : Activity) :
    Recites answer expected topic (observe a) [] fun _ => True :=
  recites_get_bind fun _ _ => (recites_ask _).imp fun _ _ => trivial

variable {render : List Char → Int → Evaluation Outcome} {scope : Scope} {c : Call} {memo : Memo}
  {r : Routine Callback Reply} {v : Value}

theorem recites_note {level : Log.Level} {source : Log.Source} {message : String} :
    Recites answer expected topic (note scope level source message) [] fun _ => True :=
  (recites_ask _).imp fun _ _ => trivial

theorem recites_noteAll (notices : List Notice) :
    Recites answer expected topic (noteAll scope notices) [] fun _ => True := by
  induction notices with
  | nil => exact recites_pure trivial
  | cons n ns ih => exact recites_note.seq fun _ _ => ih

theorem recites_change (ch : Change Callback) :
    Recites answer expected topic (change scope ch) [] fun _ => True :=
  (recites_ask _).seq fun _ _ => (recites_noteAll _).seq fun _ _ => recites_pure trivial

theorem recites_view : Recites answer expected topic (view scope c) [] (View.Of c) :=
  recites_get_bind fun d running =>
    recites_pure ⟨rfl, rfl, rfl, rfl, by simp [Dispatch.isHalted, running]⟩

theorem records_append (d : Dispatch) (e : SideEffect) :
    { d with effects := d.effects ++ [e] }.records topic =
      d.records topic ++ if topic ∈ e.topics then [e.message] else [] := by
  unfold Dispatch.records
  rw [List.filter_append, List.map_append, List.filter_singleton]
  by_cases here : topic ∈ e.topics
  · simp [here]
  · simp [here]

theorem recites_emit {topics : List String} (m : Value) (here : topic ∈ topics) :
    Recites answer expected topic (emit m topics) [m] fun _ => True :=
  recites_modify (fun _ => rfl) fun d => by rw [records_append, if_pos here]

theorem recites_emit_elsewhere {topics : List String} (m : Value) (elsewhere : topic ∉ topics) :
    Recites answer expected topic (emit m topics) [] fun _ => True :=
  recites_modify (fun _ => rfl) fun d => by rw [records_append, if_neg elsewhere]

/-- Reading an argument for the first time leaves what its evaluation leaves. -/
theorem recites_argument {i : Int} {cs : List Char} {line : Int}
    (place : c.argumentAt? i = some (cs, line)) (unread : memo.lookup i.toNat = none)
    (rendering : Recites answer expected topic (render cs line) ms Succeeds) :
    Recites answer expected topic (argument render scope c memo i) ms
      fun p => ∃ text, p = (some text, (i.toNat, text) :: memo) := by
  unfold argument
  rw [place, unread]
  refine recites_get_bind fun d running => ?_
  rw [if_neg (by simp [Dispatch.isHalted, running])]
  refine rendering.map fun o succeeds => ?_
  obtain ⟨text, rfl⟩ := succeeds
  exact recites_pure ⟨text, rfl⟩

/-- Each argument of the call has been read. -/
def ReadAll (c : Call) (memo : Memo) : Prop :=
  ∀ i, c.argumentAt? i = none ∨ ∃ text, memo.lookup i.toNat = some text

/-- Reading an argument once more leaves nothing. -/
theorem recites_argument_again (known : ReadAll c memo) (i : Int) :
    Recites answer expected topic (argument render scope c memo i) [] fun p => p.2 = memo :=
  Recites.congr (recites_pure rfl) fun _ _ =>
    argument_of_settled ((known i).imp_right .inl)

/-- What a routine gives is a value that can be printed. -/
def Returns (p : Except Failure Reply × Memo) : Prop :=
  ∃ v s, p.1 = .ok (.value v) ∧ v.printed = .ok s

/-- After all arguments have been read, an unobtrusive routine leaves nothing. -/
theorem recites_unobtrusive (known : ReadAll c memo) (unobtrusive : r.Unobtrusive topic c) :
    Recites answer expected topic (routine render scope c memo r) [] Returns := by
  induction r with
  | done a =>
    obtain ⟨v, s, rfl, printed⟩ := unobtrusive
    exact recites_pure ⟨v, s, rfl, printed⟩
  | raise e => exact unobtrusive.elim
  | argument i next ih =>
    refine (recites_argument_again known i).seq fun p same => ?_
    obtain ⟨s, memo⟩ := p
    subst same
    exact ih s (unobtrusive s)
  | look next ih => exact recites_view.seq fun v seen => ih v (unobtrusive v seen)
  | abort reason details next ih => exact unobtrusive.elim
  | emit m topics next ih =>
    exact (recites_emit_elsewhere m unobtrusive.1).seq fun _ _ => ih unobtrusive.2
  | «recall» key next ih => exact recites_get_bind fun d _ => ih _ (unobtrusive _)
  | remember key v next ih =>
    let keep (d : Dispatch) : Dispatch := { d with cache := d.cache.insert key v }
    exact (recites_modify (g := keep) (fun _ => rfl) fun _ => (List.append_nil _).symm).seq
      fun _ _ => ih unobtrusive
  | change ch next ih => exact (recites_change ch).seq fun e _ => ih e (unobtrusive e)
  | effect q next ih => exact (recites_ask _).seq fun r _ => ih r (unobtrusive r)

/-- The arguments of a call from one on, with the lines on which they start. -/
def placesFrom (c : Call) (n : Nat) : List (List Char × Int) :=
  (c.arguments.zip (Script.argumentLines c.raw c.line)).drop n

theorem length_places :
    (c.arguments.zip (Script.argumentLines c.raw c.line)).length = c.arguments.length := by
  rw [List.length_zip, Script.argumentLines, Script.length_linesFrom]
  exact Nat.min_self _

/-- There is an argument at a position just where there are enough of them. -/
theorem argumentAt?_eq_none_iff {i : Nat} : c.argumentAt? i = none ↔ c.arguments.length ≤ i := by
  rw [Call.argumentAt?, if_neg (by omega), Int.toNat_natCast, List.getElem?_eq_none_iff,
    length_places]

theorem placesFrom_eq_cons {n : Nat} (less : n < c.arguments.length) :
    ∃ cs line, c.argumentAt? n = some (cs, line) ∧
      placesFrom c n = (cs, line) :: placesFrom c (n + 1) := by
  have bound := length_places.symm ▸ less
  refine ⟨_, _, ?_, List.drop_eq_getElem_cons bound⟩
  rw [Call.argumentAt?, if_neg (by omega), Int.toNat_natCast]
  exact List.getElem?_eq_getElem bound

theorem placesFrom_length : placesFrom c c.arguments.length = [] :=
  List.drop_eq_nil_of_le length_places.le

/-- The first arguments of a call have been read, and no others. -/
def ReadUpTo (n : Nat) (memo : Memo) : Prop := ∀ i, (∃ text, memo.lookup i = some text) ↔ i < n

theorem readUpTo_nil : ReadUpTo 0 [] := fun i => by simp

theorem ReadUpTo.lookup_eq_none {n : Nat} (known : ReadUpTo n memo) : memo.lookup n = none := by
  by_contra some
  exact absurd ((known n).1 (Option.ne_none_iff_exists'.1 some)) (Nat.lt_irrefl n)

theorem ReadUpTo.cons {n : Nat} (known : ReadUpTo n memo) (text : String) :
    ReadUpTo (n + 1) ((n, text) :: memo) := by
  intro i
  by_cases same : i = n
  · subst same
    exact ⟨fun _ => Nat.lt_succ_self i, fun _ => ⟨text, List.lookup_cons_self⟩⟩
  · rw [List.lookup_cons, beq_false_of_ne same]
    exact (known i).trans (by omega)

theorem ReadUpTo.readAll (known : ReadUpTo c.arguments.length memo) : ReadAll c memo := by
  intro i
  cases place : c.argumentAt? i with
  | none => exact .inl rfl
  | some p =>
    refine .inr ((known i.toNat).2 ?_)
    unfold Call.argumentAt? at place
    split at place
    · cases place
    · obtain ⟨bound, -⟩ := List.getElem?_eq_some_iff.1 place
      exact length_places ▸ bound

/-- What a routine records comes after what the arguments that it reads record. -/
theorem recites_routine {n : Nat} {mss : List (List Value)} (known : ReadUpTo n memo)
    (records : r.Records topic c n)
    (rendering : List.Forall₂ (fun p ms =>
      Recites answer expected topic (render p.1 p.2) ms Succeeds) (placesFrom c n) mss) :
    Recites answer expected topic (routine render scope c memo r) (mss.flatten ++ [c.recorded])
      Returns := by
  -- With each argument that the routine reads, one more is known and one less is to be read.
  induction r generalizing n memo mss with
  | argument i next ih =>
    obtain ⟨rfl, less, later⟩ := records
    obtain ⟨cs, line, place, split⟩ := placesFrom_eq_cons less
    rw [split] at rendering
    cases rendering with
    | cons first rest =>
      rw [List.flatten_cons, List.append_assoc]
      refine (recites_argument place known.lookup_eq_none first).bind fun p read => ?_
      obtain ⟨text, rfl⟩ := read
      exact ih _ (known.cons text) (later text) rest
  | look next ih => exact recites_view.seq fun v seen => ih v known (records v seen) rendering
  | emit m topics next ih =>
    obtain ⟨rfl, rfl, here, unobtrusive⟩ := records
    rw [placesFrom_length] at rendering
    cases rendering
    exact (recites_emit c.recorded here).map
      fun _ _ => recites_unobtrusive known.readAll unobtrusive
  | done | raise | abort | «recall» | remember | change | effect => exact records.elim

theorem recites_finish {s : String} (printed : v.printed = .ok s) :
    Recites answer expected topic (finish scope c (.ok (.value v))) [] Succeeds := by
  refine recites_get_bind fun d running => ?_
  rw [running, printed]
  exact recites_pure ⟨s, rfl⟩

variable {g : Descriptor Callback} {mss : List (List Value)}

theorem recites_perform (recorder : g.Recorder topic)
    (rendering : List.Forall₂ (fun p ms =>
      Recites answer expected topic (render p.1 p.2) ms Succeeds) (placesFrom c 0) mss) :
    Recites answer expected topic (perform render scope c g) (mss.flatten ++ [c.recorded])
      Succeeds := by
  cases g with
  | native name callback version =>
    have body : Recites answer expected topic (routine render scope c [] callback.body)
        (mss.flatten ++ [c.recorded]) Returns :=
      recites_routine readUpTo_nil (recorder c) rendering
    have invoked : Recites answer expected topic
        (invoke render scope c (.native name callback version)) (mss.flatten ++ [c.recorded])
        fun reply => ∃ v s, reply = .ok (.value v) ∧ v.printed = .ok s :=
      body.map fun p returns => recites_pure returns
    refine invoked.map fun reply returns => (recites_observe _).seq fun _ _ => ?_
    obtain ⟨v, s, rfl, printed⟩ := returns
    exact recites_finish printed
  | scripted name code params version => exact recorder.elim
  | other v => exact recorder.elim

theorem recites_enter (recorder : g.Recorder topic)
    (rendering : List.Forall₂ (fun p ms =>
      Recites answer expected topic (render p.1 p.2) ms Succeeds) (placesFrom c 0) mss) :
    Recites answer expected topic (enter render scope c g) (mss.flatten ++ [c.recorded])
      Succeeds := by
  have deeper (k : Nat → Nat) : Recites answer expected topic
      (modify fun d => { d with depth := k d.depth }) [] fun _ => True :=
    recites_modify (fun _ => rfl) fun _ => (List.append_nil _).symm
  refine (deeper (· + 1)).seq fun _ _ => (recites_observe _).seq fun _ _ => ?_
  refine (recites_perform recorder rendering).map fun o succeeds => ?_
  exact (deeper (· - 1)).seq fun _ _ => (recites_observe _).seq fun _ _ => recites_pure succeeds

/-- Wherever the function of the call is asked for, one that records calls is expected. -/
def Known (scope : Scope) (topic : String) (expected : Exchange → Prop) (c : Call) : Prop :=
  ∀ f, expected (.lookup scope c f) → ∃ g, f = some g ∧ g.Recorder topic

theorem Known.of_unplaced {c c' : Call} (known : Known scope topic expected c)
    (same : c.unplaced = c'.unplaced) : Known scope topic expected c' := by
  have named : c.name = c'.name := (Call.mk.inj same).1
  unfold Known Exchange.lookup Question.lookup at known ⊢
  rwa [← named]

/-- Known calls, with so many inside one another, record their trees. -/
def RecitesCalls (answer : σ → (q : Question) → q.Answer × σ) (expected : Exchange → Prop)
    (topic : String) (scope : Scope) (n : Nat) : Prop :=
  ∀ c inside, Script.Closed c.raw → tree c.raw c.line = .ok inside → inside.height < n →
    (∀ c' ∈ inside.postOrder, Known scope topic expected c') → Known scope topic expected c →
    Recites answer expected topic (call scope n c)
      (inside.postOrder.map Call.recorded ++ [c.recorded]) Succeeds

variable {n : Nat} {f : Forest}

theorem recites_segments {parts : List Script.Segment}
    (calling : RecitesCalls answer expected topic scope n)
    (closed : ∀ c, .call c ∈ parts → Script.Closed c.raw)
    (grown : Script.forest (parts.filterMap Script.Segment.call?) = .ok f) (low : f.height ≤ n)
    (known : ∀ c ∈ f.postOrder, Known scope topic expected c) :
    Recites answer expected topic (segments (call scope n) parts) (f.postOrder.map Call.recorded)
      Succeeds := by
  induction parts generalizing f with
  | nil =>
    cases Script.forest_nil.symm.trans grown
    exact recites_pure ⟨"", rfl⟩
  | cons part parts ih =>
    have closed' := fun c mem => closed c (List.mem_cons_of_mem _ mem)
    cases part with
    | literal raw =>
      refine (ih closed' grown low known).map fun o succeeds => ?_
      obtain ⟨text, rfl⟩ := succeeds
      exact recites_pure ⟨_, rfl⟩
    | call c =>
      obtain ⟨inside, rest, inner, others, rfl⟩ := Script.forest_cons_eq_ok_iff.1 grown
      obtain ⟨low, low'⟩ := Nat.max_le.1 low
      obtain ⟨known, known'⟩ := List.forall_mem_append.1 known
      obtain ⟨here, later⟩ := List.forall_mem_cons.1 known'
      have first := calling c inside (closed c List.mem_cons_self) inner low known here
      rw [Forest.postOrder, List.map_append, List.map_cons, List.append_cons]
      refine first.bind fun o succeeds => ?_
      obtain ⟨text, rfl⟩ := succeeds
      refine (ih closed' others low' later).map fun o succeeds => ?_
      obtain ⟨text', rfl⟩ := succeeds
      exact recites_pure ⟨_, rfl⟩

/-- A command string records its tree. -/
theorem recites_source {cs : List Char} {line : Int}
    (calling : RecitesCalls answer expected topic scope n) (grown : tree cs line = .ok f)
    (low : f.height ≤ n) (known : ∀ c ∈ f.postOrder, Known scope topic expected c) :
    Recites answer expected topic (source (call scope n) scope cs line)
      (f.postOrder.map Call.recorded) Succeeds := by
  obtain ⟨inner, calls, grown⟩ := Script.tree_eq_ok_iff.1 grown
  obtain ⟨parts, read, rfl⟩ := Script.calls_eq_ok_iff.1 calls
  have rules : Script.Reads 0 line (Script.glyphs cs) parts := Script.segmentsFrom_eq_ok_iff.1 read
  have closed (c : Call) (mem : .call c ∈ parts) : Script.Closed c.raw :=
    rules.closed (Script.isReading_glyphs cs) mem
  refine recites_get_bind fun d running => ?_
  rw [running, read]
  refine (recites_observe _).seq fun _ _ => ?_
  refine (recites_segments calling closed grown low known).map fun o succeeds => ?_
  exact (recites_observe _).seq fun _ _ => recites_pure succeeds

/-- The arguments of a call record their trees. -/
theorem recites_arguments {ps : List (List Char × Int)} {fs : List Forest}
    (calling : RecitesCalls answer expected topic scope n)
    (trees : List.Forall₂ (fun p g => tree p.1 p.2 = .ok g) ps fs) (low : ∀ g ∈ fs, g.height ≤ n)
    (known : ∀ g ∈ fs, ∀ c ∈ g.postOrder, Known scope topic expected c) :
    List.Forall₂ (fun p ms =>
        Recites answer expected topic (Evaluation.render scope n p.1 p.2) ms Succeeds)
      ps (fs.map fun g => g.postOrder.map Call.recorded) := by
  induction trees with
  | nil => exact .nil
  | cons grown _ ih =>
    obtain ⟨low, low'⟩ := List.forall_mem_cons.1 low
    obtain ⟨known, known'⟩ := List.forall_mem_cons.1 known
    exact .cons (recites_source calling grown low known) (ih low' known')

/-- A call records what is inside it, and then itself. -/
theorem recites_call (n : Nat) : RecitesCalls answer expected topic scope n := by
  induction n with
  | zero => exact fun _ _ _ _ low => absurd low (Nat.not_lt_zero _)
  | succ n ih =>
    intro c inside closed grown low inner here
    -- What is inside the call is what its arguments grow to, each read by itself.
    obtain ⟨fs, trees, same, lower⟩ := Script.exists_trees
      (fun a mem => Script.isArgument_of_mem closed mem) (Script.joined_arguments c.raw ▸ grown)
    have messages : (fs.map fun g => g.postOrder.map Call.recorded).flatten =
        inside.postOrder.map Call.recorded := by
      have eq := congrArg (List.map Call.recorded) same
      rw [List.map_map, List.map_map] at eq
      exact (List.map_flatMap).symm.trans eq.symm
    have known : ∀ g ∈ fs, ∀ c' ∈ g.postOrder, Known scope topic expected c' := by
      intro g mem c' mem'
      have listed : c'.unplaced ∈ inside.postOrder.map Call.unplaced :=
        same ▸ List.mem_map_of_mem (List.mem_flatMap_of_mem mem mem')
      obtain ⟨c'', mem'', eq⟩ := List.mem_map.1 listed
      exact (inner c'' mem'').of_unplaced eq
    have rendering := recites_arguments ih trees
      (fun g mem => (lower g mem).trans (Nat.le_of_lt_succ low)) known
    have found : Recites answer expected topic (find scope c) [] fun f =>
        ∃ g, f = some g ∧ g.Recorder topic :=
      (recites_ask _).imp here
    refine found.seq fun f recorder => ?_
    obtain ⟨g, rfl, recorder⟩ := recorder
    rw [← messages]
    exact recites_enter recorder rendering

/-- A command string records its tree, where it is not too deep. -/
theorem recites_render {cs : List Char} {line : Int} (grown : tree cs line = .ok f)
    (low : f.height ≤ n) (known : ∀ c ∈ f.postOrder, Known scope topic expected c) :
    Recites answer expected topic (Evaluation.render scope n cs line)
      (f.postOrder.map Call.recorded) Succeeds :=
  recites_source (recites_call n) grown low known

end

/-- **Calls are evaluated in post-order.** A command string that is well formed has a tree: its
calls, those inside each of them, and so on. Where the tree is not too deep, and the functions that
are found for its calls read all arguments in order, then record the call under a topic and never
end the dispatch, the command string is evaluated to a text, and the messages under the topic are
the calls of the tree from left to right, each once and after those inside it. -/
theorem calls_in_post_order {σ : Type} (answer : σ → (q : Question) → q.Answer × σ) (s : σ)
    (scope : Scope) (remaining : Nat) (topic : String) {d : Dispatch} (running : d.halted = none)
    {cs : List Char} {line : Int} {parts : List Script.Segment}
    (read : Script.segments cs line = .ok parts) :
    ∃ f, tree cs line = .ok f ∧
      (f.height ≤ remaining →
        (∀ c ∈ f.postOrder, ∀ found,
          Exchange.lookup scope c found ∈ exchanges answer s (render scope remaining cs line) d →
            ∃ g, found = some g ∧ g.Recorder topic) →
        ∃ text d' s', Program.run (S := Questions) answer s (render scope remaining cs line d) =
            ((.ok text, d'), s') ∧
          d'.halted = none ∧
          d'.records topic = d.records topic ++ f.postOrder.map Call.recorded) := by
  obtain ⟨f, -, grown⟩ := Script.exists_tree read
  refine ⟨f, grown, fun low known => ?_⟩
  let comesUp (x : Exchange) : Prop := x ∈ exchanges answer s (render scope remaining cs line) d
  have recites : Recites answer comesUp topic (render scope remaining cs line)
      (f.postOrder.map Call.recorded) Succeeds := recites_render grown low known
  obtain ⟨o, d', s', ran, running', left, text, rfl⟩ := recites s d running fun _ mem => mem
  exact ⟨text, d', s', ran, running', left⟩

/-- Surroundings in which every function records its calls. -/
def recording (w : World) : (q : Question) → q.Answer × World
  | .find .. => (some (.native "$r" (.of (Routine.recorder "calls")) .null), w)
  | q => World.answer w q

/-- A call, and another one with a call inside it. -/
theorem calls_in_post_order_nested :
    ∃ text d' s', Program.run (S := Questions) recording (.empty .null)
        (render ⟨0, .usual, .null, false, none, none⟩ 2
          ['$', 'a', '[', ']', '$', 'b', '[', '\n', '$', 'c', '[', ']', ']'] 1 .start) =
        ((.ok text, d'), s') ∧
      d'.halted = none ∧
      d'.records "calls" =
        [.tuple [.text "$a", .text "", .int 1], .tuple [.text "$c", .text "", .int 2],
          .tuple [.text "$b", .text "\n$c[]", .int 1]] := by
  have inner : Script.segments ['\n', '$', 'c', '[', ']'] 1 =
      .ok [.literal ['\n'], .call ⟨['c'], [], 1, 2⟩] := by
    rw [Script.segments, show Script.glyphs _ =
      [.plain '\n', .plain '$', .plain 'c', .plain '[', .plain ']'] from rfl,
      Script.segmentsFrom_cons (by simp), Script.segmentsFrom_call rfl rfl, Script.segmentsFrom_nil]
    rfl
  have read : Script.segments
      ['$', 'a', '[', ']', '$', 'b', '[', '\n', '$', 'c', '[', ']', ']'] 1 =
      .ok [.call ⟨['a'], [], 0, 1⟩, .call ⟨['b'], ['\n', '$', 'c', '[', ']'], 4, 1⟩] := by
    have rest : Script.glyphs ['$', 'b', '[', '\n', '$', 'c', '[', ']', ']'] =
        .plain '$' :: [.plain 'b', .plain '[', .plain '\n', .plain '$', .plain 'c', .plain '[',
          .plain ']', .plain ']'] := rfl
    refine (Script.segmentsFrom_call rfl rfl).trans ?_
    rw [rest, Script.segmentsFrom_call rfl rfl, Script.segmentsFrom_nil]
    rfl
  have inside : tree ['\n', '$', 'c', '[', ']'] 1 = .ok (.cons ⟨['c'], [], 1, 2⟩ .nil .nil) :=
    Script.tree_eq_ok_iff.2 ⟨_, Script.calls_eq_ok_iff.2 ⟨_, inner, rfl⟩,
      Script.forest_cons_eq_ok_iff.2 ⟨.nil, .nil, Script.tree_nil, Script.forest_nil, rfl⟩⟩
  have grown : tree ['$', 'a', '[', ']', '$', 'b', '[', '\n', '$', 'c', '[', ']', ']'] 1 =
      .ok (.cons ⟨['a'], [], 0, 1⟩ .nil (.cons ⟨['b'], ['\n', '$', 'c', '[', ']'], 4, 1⟩
        (.cons ⟨['c'], [], 1, 2⟩ .nil .nil) .nil)) :=
    Script.tree_eq_ok_iff.2 ⟨_, Script.calls_eq_ok_iff.2 ⟨_, read, rfl⟩,
      Script.forest_cons_eq_ok_iff.2 ⟨.nil, _, Script.tree_nil,
        Script.forest_cons_eq_ok_iff.2 ⟨_, .nil, inside, Script.forest_nil, rfl⟩, rfl⟩⟩
  obtain ⟨f, grown', recites⟩ := calls_in_post_order recording (.empty .null)
    ⟨0, .usual, .null, false, none, none⟩ 2 "calls" (d := .start) rfl read
  cases grown.symm.trans grown'
  refine recites (by decide) fun c _ found mem => ?_
  obtain ⟨s', eq⟩ := Program.exists_answer_of_mem_exchanges mem
  exact ⟨_, eq, Routine.records_recorder "calls"⟩

end Evaluation

end CommandScript
