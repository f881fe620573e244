import CommandScript.Proofs.Dispatch.Discreet
import CommandScript.Proofs.Dispatch.Frames

/-!
# What a callback does

A callback acts again and again on the dispatch around its call: it reads an argument, ends the
dispatch, leaves a message and so on. Its run is the sequence of these acts. An argument is
evaluated by the first act that reads it, if the dispatch has not ended by then, and by no other.

## Main definitions

- `CommandScript.Act` — something that a callback does in the course of its call
- `CommandScript.Act.Idle` — acts that change nothing and ask nothing
- `CommandScript.Evaluation.acts` — what a routine does, in order
- `CommandScript.Evaluation.Acts` — which acts may follow one another
- `CommandScript.ReadsOnce` — arguments are evaluated by the first act that reads them

## Main results

- `CommandScript.Evaluation.exchanges_routine` — what comes up in a run comes up in the acts
- `CommandScript.Evaluation.Acts.of_settled` — what has been read is read again as it was
- `CommandScript.Evaluation.arguments_read_once` — each argument is evaluated at most once in a call

## Design notes

Looking at the call and recalling what was remembered are no acts: they are part of what the
callback does between two of them.
-/

namespace CommandScript

/-- Something that a callback does in the course of its call, with the dispatch and the surroundings
before and after it. -/
structure Act (σ : Type) where
  /-- Where an argument is read: its position, and the text that is given, if one is. -/
  read : Option (Int × Option String)
  dispatch : Dispatch
  around : σ
  exchanges : List Exchange
  left : Dispatch
  leftAround : σ

/-- The act changes nothing, and nothing comes up in it. -/
structure Act.Idle {σ : Type} (x : Act σ) : Prop where
  exchanges : x.exchanges = []
  left : x.left = x.dispatch
  leftAround : x.leftAround = x.around

/-- Each act starts where the one before it ends. -/
inductive Linked {σ : Type} : σ → Dispatch → List (Act σ) → σ → Dispatch → Prop
  | nil {s d} : Linked s d [] s d
  | cons {x : Act σ} {xs s d} (rest : Linked x.leftAround x.left xs s d) :
      Linked x.around x.dispatch (x :: xs) s d

/-- The act evaluates an argument in a dispatch that has not ended: what comes up is what comes up
in the evaluation, the text that it gives is given, and none where the dispatch ends. -/
def Act.Evaluates {σ : Type} (answer : σ → (q : Question) → q.Answer × σ)
    (render : List Char → Int → Evaluation Outcome) (c : Script.Call) (i : Int) (t : Option String)
    (x : Act σ) : Prop :=
  ∃ cs line o, c.argumentAt? i = some (cs, line) ∧ x.dispatch.halted = none ∧
    Program.run (S := Questions) answer x.around (render cs line x.dispatch) =
      ((o, x.left), x.leftAround) ∧
    x.exchanges = Evaluation.exchanges answer x.around (render cs line) x.dispatch ∧
    t = o.toOption ∧ o.Tells x.left.halted

/-- Whether an observer is told that a command string is evaluated. -/
def Question.isRendering : Question → Bool
  | .observe _ (.rendering ..) => true
  | _ => false

/-- In the acts of a call, arguments are evaluated only by the first act that reads them. -/
structure ReadsOnce {σ : Type} (answer : σ → (q : Question) → q.Answer × σ)
    (render : List Char → Int → Evaluation Outcome) (c : Script.Call) (xs : List (Act σ)) :
    Prop where
  /-- An act that is no read evaluates nothing. -/
  others : ∀ x ∈ xs, x.read = none → ∀ e ∈ x.exchanges, e.1.isRendering = false
  /-- The first read of an argument evaluates it, unless there is no such argument or the dispatch
  has ended. Then no text is given, and the read does nothing. -/
  first : ∀ before y after i t, xs = before ++ y :: after → y.read = some (i, t) →
    (∀ x ∈ before, ∀ u, x.read ≠ some (i, u)) →
    (c.argumentAt? i = none ∨ ∃ h, y.dispatch.halted = some h) ∧ t = none ∧ y.Idle ∨
      y.Evaluates answer render c i t
  /-- Every later read gives what the first one gave, and does nothing. -/
  again : xs.Pairwise fun x y => ∀ i t u, x.read = some (i, t) → y.read = some (i, u) →
    u = t ∧ y.Idle

namespace Evaluation

open Script (Call)

section

variable {σ α β : Type} (answer : σ → (q : Question) → q.Answer × σ)

/-- An act, and what is done after it. -/
def acting (read : β → Option (Int × Option String)) (e : Evaluation β)
    (later : β → σ → Dispatch → List (Act σ)) (s : σ) (d : Dispatch) : List (Act σ) :=
  let ran := Program.run (S := Questions) answer s (e d)
  ⟨read ran.1.1, d, s, exchanges answer s e d, ran.1.2, ran.2⟩ :: later ran.1.1 ran.2 ran.1.2

variable (render : List Char → Int → Evaluation Outcome) (scope : Scope) (c : Call)

/-- What a routine does for a call that has read some arguments, in order. -/
def acts : Routine Callback α → Memo → σ → Dispatch → List (Act σ)
  | .done _, _, _, _ => []
  | .raise _, _, _, _ => []
  | .argument i next, memo, s, d =>
    acting answer (fun r => some (i, r.1)) (argument render scope c memo i)
      (fun r => acts (next r.1) r.2) s d
  | .look next, memo, s, d => acts (next (seen scope c d)) memo s d
  | .abort reason details next, memo, s, d =>
    acting answer (fun _ => none) (abort scope c reason details) (fun h => acts (next h) memo) s d
  | .emit m topics next, memo, s, d =>
    acting answer (fun _ => none) (emit m topics) (fun _ => acts next memo) s d
  | .recall key next, memo, s, d => acts (next (d.cache.get? key)) memo s d
  | .remember key v next, memo, s, d =>
    acting answer (fun _ => none) (modify fun d => { d with cache := d.cache.insert key v })
      (fun _ => acts next memo) s d
  | .change ch next, memo, s, d =>
    acting answer (fun _ => none) (change scope ch) (fun e => acts (next e) memo) s d
  | .effect q next, memo, s, d =>
    acting answer (fun _ => none) (ask (.effect scope.logged q)) (fun r => acts (next r) memo) s d

/-- An act that is no read: no command string is evaluated in it, and a dispatch that has ended
stays as it ended. -/
structure Other (x : Act σ) : Prop where
  read : x.read = none
  rendering : ∀ e ∈ x.exchanges, e.1.isRendering = false
  halted : ∀ h, x.dispatch.halted = some h → x.left.halted = some h

/-- Which acts may follow one another in a call that has read some arguments. -/
inductive Acts : Memo → σ → Dispatch → List (Act σ) → σ → Dispatch → Prop
  | nil {memo s d} : Acts memo s d [] s d
  | read {memo memo' : Memo} {s s' s'' : σ} {d d' d'' : Dispatch} {i : Int} {t : Option String}
      {xs : List (Act σ)}
      (run : Program.run (S := Questions) answer s (argument render scope c memo i d) =
        (((t, memo'), d'), s'))
      (rest : Acts memo' s' d' xs s'' d'') :
      Acts memo s d
        (⟨some (i, t), d, s, exchanges answer s (argument render scope c memo i) d, d', s'⟩ :: xs)
        s'' d''
  | other {memo : Memo} {x : Act σ} {xs : List (Act σ)} {s : σ} {d : Dispatch} (other : Other x)
      (rest : Acts memo x.leftAround x.left xs s d) :
      Acts memo x.around x.dispatch (x :: xs) s d

end

section

variable {σ α β : Type} {answer : σ → (q : Question) → q.Answer × σ}
  {render : List Char → Int → Evaluation Outcome} {scope : Scope} {c : Call} {memo memo' : Memo}
  {s s' : σ} {d d' : Dispatch} {i j : Int} {t u : Option String} {xs before after : List (Act σ)}
  {x y : Act σ} {b : β}

/-- Nothing that comes up in a computation is the evaluation of a command string. -/
def RendersNothing (e : Evaluation α) (d : Dispatch) : Prop :=
  e.Ensures d fun qs _ _ => ∀ q ∈ qs, q.isRendering = false

theorem RendersNothing.isRendering {e : Evaluation α} (h : RendersNothing e d) :
    ∀ x ∈ exchanges answer s e d, x.1.isRendering = false := by
  intro x mem
  have asked : x.1 ∈ (exchanges answer s e d).map (·.1) := List.mem_map_of_mem mem
  rw [map_fst_exchanges] at asked
  exact Program.Ensures.run h answer s x.1 asked

theorem rendersNothing_bind {e : Evaluation α} {f : α → Evaluation β} (first : RendersNothing e d)
    (second : ∀ a d', RendersNothing (f a) d') : RendersNothing (e >>= f) d := by
  refine ensures_bind.2 (Ensures.imp first fun qs a d' here => ?_)
  refine Ensures.imp (second a d') fun rs _ _ there q mem => ?_
  exact (List.mem_append.1 mem).elim (here q) (there q)

theorem rendersNothing_ask {q : Question} (other : q.isRendering = false) :
    RendersNothing (ask q) d :=
  fun _ _ mem => List.mem_singleton.1 mem ▸ other

theorem rendersNothing_note {level : Log.Level} {source : Log.Source} {message : String} :
    RendersNothing (note scope level source message) d :=
  rendersNothing_ask rfl

theorem rendersNothing_halt (h : Halt) : RendersNothing (halt scope h) d := by
  refine ensures_bind.2 (ensures_get.2 ?_)
  split
  · exact ensures_pure.2 (List.forall_mem_nil _)
  · refine ensures_bind.2 (ensures_modify.2 (ensures_bind.2 (ensures_observe.2 ?_)))
    exact ensures_bind.2 (ensures_note.2 (ensures_pure.2 (by simp [Question.isRendering])))

theorem rendersNothing_noteAll (notices : List Notice) :
    RendersNothing (noteAll scope notices) d := by
  induction notices generalizing d with
  | nil => exact ensures_pure.2 (List.forall_mem_nil _)
  | cons n ns ih => exact rendersNothing_bind rendersNothing_note fun _ _ => ih

theorem rendersNothing_change (ch : Change Callback) : RendersNothing (change scope ch) d :=
  rendersNothing_bind (rendersNothing_ask rfl) fun _ _ =>
    rendersNothing_bind (rendersNothing_noteAll _) fun _ _ => ensures_pure.2 (List.forall_mem_nil _)

/-- An orderly computation that evaluates no command string is an act that is no read. -/
theorem other_act {e : Evaluation β} (orderly : e.Orderly d fun _ _ => True)
    (renders : RendersNothing e d)
    (run : Program.run (S := Questions) answer s (e d) = ((b, d'), s')) :
    Other ⟨none, d, s, exchanges answer s e d, d', s'⟩ where
  read := rfl
  rendering := renders.isRendering
  halted h ended := by
    obtain ⟨qs, course, -⟩ := Ensures.of_run orderly run
    exact (course.of_halted ended).1

theorem acts_acting {e : Evaluation β} {f : β → Evaluation α}
    {later : β → σ → Dispatch → List (Act σ)} (orderly : e.Orderly d fun _ _ => True)
    (renders : RendersNothing e d)
    (rest : ∀ b s' d', Acts answer render scope c memo s' d' (later b s' d')
      (Program.run (S := Questions) answer s' (f b d')).2
      (Program.run (S := Questions) answer s' (f b d')).1.2) :
    Acts answer render scope c memo s d (acting answer (fun _ => none) e later s d)
      (Program.run (S := Questions) answer s ((e >>= f) d)).2
      (Program.run (S := Questions) answer s ((e >>= f) d)).1.2 := by
  rw [run_bind]
  exact .other (other_act orderly renders rfl) (rest _ _ _)

/-- What a routine does are acts that may follow one another, up to where its run ends. -/
theorem acts_routine (r : Routine Callback α) :
    Acts answer render scope c memo s d (acts answer render scope c r memo s d)
      (Program.run (S := Questions) answer s (routine render scope c memo r d)).2
      (Program.run (S := Questions) answer s (routine render scope c memo r d)).1.2 := by
  induction r generalizing memo s d with
  | done a => exact .nil
  | raise e => exact .nil
  | argument i next ih =>
    rw [routine, run_bind]
    exact .read rfl (ih _)
  | look next ih => exact ih _
  | abort reason details next ih =>
    refine acts_acting (orderly_abort reason details) ?_ fun h _ _ => ih h
    exact rendersNothing_bind (rendersNothing_halt _) fun _ _ =>
      ensures_pure.2 (List.forall_mem_nil _)
  | emit m topics next ih =>
    exact acts_acting (orderly_modify rfl trivial) (List.forall_mem_nil _) fun _ _ _ => ih
  | «recall» key next ih => exact ih _
  | remember key v next ih =>
    exact acts_acting (orderly_modify rfl trivial) (List.forall_mem_nil _) fun _ _ _ => ih
  | change ch next ih =>
    exact acts_acting (orderly_change ch) (rendersNothing_change ch) fun e _ _ => ih e
  | effect q next ih =>
    refine acts_acting (orderly_ask rfl fun _ => trivial) (rendersNothing_ask rfl) ?_
    exact fun r _ _ => ih r

theorem exchanges_acting {read : β → Option (Int × Option String)} {e : Evaluation β}
    {f : β → Evaluation α} {later : β → σ → Dispatch → List (Act σ)}
    (rest : ∀ b s' d', exchanges answer s' (f b) d' = (later b s' d').flatMap Act.exchanges) :
    exchanges answer s (e >>= f) d =
      (acting answer read e later s d).flatMap Act.exchanges := by
  rw [exchanges_bind, acting, List.flatMap_cons, rest]

/-- What comes up in the run of a routine comes up in its acts. -/
theorem exchanges_routine (r : Routine Callback α) :
    exchanges answer s (routine render scope c memo r) d =
      (acts answer render scope c r memo s d).flatMap Act.exchanges := by
  induction r generalizing memo s d with
  | done a => rfl
  | raise e => rfl
  | argument i next ih => exact exchanges_acting fun r _ _ => ih r.1
  | look next ih => exact ih _
  | abort reason details next ih => exact exchanges_acting fun h _ _ => ih h
  | emit m topics next ih => exact exchanges_acting fun _ _ _ => ih
  | «recall» key next ih => exact ih _
  | remember key v next ih => exact exchanges_acting fun _ _ _ => ih
  | change ch next ih => exact exchanges_acting fun e _ _ => ih e
  | effect q next ih => exact exchanges_acting fun r _ _ => ih r

/-- The text that an argument has been read as, if it has been. -/
def held (c : Call) (memo : Memo) (i : Int) : Option String :=
  (c.argumentAt? i).bind fun _ => memo.lookup i.toNat

/-- No read evaluates the argument any more: there is none, it has been read, or the dispatch has
ended. -/
def Settled (c : Call) (memo : Memo) (d : Dispatch) (i : Int) : Prop :=
  c.argumentAt? i = none ∨ (∃ t, memo.lookup i.toNat = some t) ∨ ∃ h, d.halted = some h

/-- What has been read after an argument was evaluated. -/
def remembered (memo : Memo) (i : Int) : Outcome → Memo
  | .ok t => (i.toNat, t) :: memo
  | .error _ => memo

/-- Reading an argument that is settled gives what it has been read as, and does nothing. -/
theorem argument_of_settled (settled : Settled c memo d i) :
    argument render scope c memo i d =
      (pure (held c memo i, memo) : Evaluation (Option String × Memo)) d := by
  unfold argument held
  cases found : c.argumentAt? i with
  | none => rfl
  | some place =>
    cases known : memo.lookup i.toNat with
    | some t => rfl
    | none =>
      obtain none | ⟨t, some⟩ | ⟨h, ended⟩ := settled
      · cases found.symm.trans none
      · cases known.symm.trans some
      · show (get >>= _ : Evaluation _) d = _
        rw [get_bind, if_pos (by simp [Dispatch.isHalted, ended])]
        rfl

/-- Ending a dispatch that has ended does nothing. -/
theorem halt_of_halted {h first : Halt} (ended : d.halted = some first) :
    halt scope h d = (pure first : Evaluation Halt) d := by
  rw [halt, get_bind, ended]

/-- Reading an argument that is not settled evaluates it, and remembers the text if there is one. -/
theorem run_argument (answer : σ → (q : Question) → q.Answer × σ) (s : σ) (scope : Scope)
    (orderly : OrderlyRendering render) (unsettled : ¬Settled c memo d i) :
    ∃ cs line o d' s', c.argumentAt? i = some (cs, line) ∧ d.halted = none ∧
      Program.run (S := Questions) answer s (render cs line d) = ((o, d'), s') ∧
      o.Tells d'.halted ∧
      Program.run (S := Questions) answer s (argument render scope c memo i d) =
        (((o.toOption, remembered memo i o), d'), s') ∧
      exchanges answer s (argument render scope c memo i) d =
        exchanges answer s (render cs line) d := by
  obtain ⟨within, unread, unended⟩ := by simpa [Settled, not_or] using unsettled
  obtain ⟨⟨cs, line⟩, found⟩ := Option.ne_none_iff_exists'.1 within
  have unknown : memo.lookup i.toNat = none := Option.eq_none_iff_forall_not_mem.2 unread
  have running : d.halted = none := Option.eq_none_iff_forall_not_mem.2 unended
  let keep : Outcome → Evaluation (Option String × Memo)
    | .ok t => pure (some t, (i.toNat, t) :: memo)
    | .error h => halt scope h >>= fun _ => pure (none, memo)
  have begins : argument render scope c memo i d = (render cs line >>= keep) d := by
    unfold argument
    rw [found, unknown]
    exact congrFun (if_neg (by simp [Dispatch.isHalted, running])) d
  obtain ⟨⟨⟨o, d'⟩, s'⟩, ran⟩ : ∃ r, Program.run (S := Questions) answer s (render cs line d) = r :=
    ⟨_, rfl⟩
  obtain ⟨-, -, -, tells⟩ := Ensures.of_run (orderly cs line d) ran
  -- The end that an evaluation gives has been recorded, so that recording it does nothing.
  have kept : keep o d' =
      (pure (o.toOption, remembered memo i o) : Evaluation (Option String × Memo)) d' := by
    cases o with
    | ok t => rfl
    | error h =>
      show (halt scope h >>= _ : Evaluation _) d' = _
      rw [bind_congr_left (halt_of_halted (Outcome.tells_error.1 tells))]
      rfl
  refine ⟨cs, line, o, d', s', found, running, ran, tells, ?_, ?_⟩
  · rw [begins, run_bind, ran, kept]
    rfl
  · show Program.exchanges (S := Questions) answer s (argument render scope c memo i d) = _
    rw [begins]
    show exchanges answer s (render cs line >>= keep) d = _
    rw [exchanges_bind, ran]
    show _ ++ Program.exchanges (S := Questions) answer s' (keep o d') = _
    rw [kept]
    exact List.append_nil _

/-- An argument that has been read is settled, and is known as what was read. -/
theorem settled_of_run (orderly : OrderlyRendering render)
    (run : Program.run (S := Questions) answer s (argument render scope c memo i d) =
      (((t, memo'), d'), s')) : Settled c memo' d' i ∧ held c memo' i = t := by
  by_cases settled : Settled c memo d i
  · rw [argument_of_settled settled] at run
    cases run
    exact ⟨settled, rfl⟩
  · obtain ⟨cs, line, o, d'', s'', found, -, -, tells, ran, -⟩ :=
      run_argument answer s scope orderly settled
    rw [ran] at run
    cases run
    cases o with
    | ok t =>
      have known : (remembered memo i (.ok t)).lookup i.toNat = some t := List.lookup_cons_self
      exact ⟨.inr (.inl ⟨t, known⟩), by rw [held, found]; exact known⟩
    | error h =>
      have unknown : memo.lookup i.toNat = none := by
        by_contra known
        exact settled (.inr (.inl (Option.ne_none_iff_exists'.1 known)))
      refine ⟨.inr (.inr ⟨h, Outcome.tells_error.1 tells⟩), ?_⟩
      rw [held, found]
      exact unknown

/-- Reading one argument leaves what another one is known as. -/
theorem held_of_run (orderly : OrderlyRendering render) (other : i ≠ j)
    (run : Program.run (S := Questions) answer s (argument render scope c memo j d) =
      (((t, memo'), d'), s')) : held c memo' i = held c memo i := by
  by_cases settled : Settled c memo d j
  · rw [argument_of_settled settled] at run
    cases run
    rfl
  · obtain ⟨cs, line, o, d'', s'', found, -, -, -, ran, -⟩ :=
      run_argument answer s scope orderly settled
    rw [ran] at run
    cases run
    cases o with
    | error h => rfl
    | ok t =>
      unfold held
      cases within : c.argumentAt? i with
      | none => rfl
      | some place =>
        have natural {k : Int} {place} (within : c.argumentAt? k = some place) : 0 ≤ k := by
          by_contra negative
          simp [Call.argumentAt?, show k < 0 by omega] at within
        have apart : (i.toNat == j.toNat) = false := by
          have := natural within
          have := natural found
          exact beq_false_of_ne (by omega)
        show (((j.toNat, t) :: memo).lookup i.toNat) = _
        rw [List.lookup_cons, apart]
        rfl

/-- A dispatch that has ended stays as it ended while an argument is read. -/
theorem halted_of_run (orderly : OrderlyRendering render) {h : Halt} (ended : d.halted = some h)
    (run : Program.run (S := Questions) answer s (argument render scope c memo j d) =
      (((t, memo'), d'), s')) : d'.halted = some h := by
  obtain ⟨qs, course, -⟩ := Ensures.of_run (orderly_argument orderly j) run
  exact (course.of_halted ended).1

/-- An argument that is settled stays settled while arguments are read, and is known as before. -/
theorem Settled.of_run (orderly : OrderlyRendering render) (settled : Settled c memo d i)
    (run : Program.run (S := Questions) answer s (argument render scope c memo j d) =
      (((t, memo'), d'), s')) : Settled c memo' d' i ∧ held c memo' i = held c memo i := by
  by_cases same : i = j
  · subst same
    rw [argument_of_settled settled] at run
    cases run
    exact ⟨settled, rfl⟩
  · have kept := held_of_run orderly same run
    refine ⟨?_, kept⟩
    obtain none | ⟨u, known⟩ | ⟨h, ended⟩ := settled
    · exact .inl none
    · cases found : c.argumentAt? i with
      | none => exact .inl found
      | some place =>
        rw [held, held, found] at kept
        exact .inr (.inl ⟨u, kept.trans known⟩)
    · exact .inr (.inr ⟨h, halted_of_run orderly ended run⟩)

namespace Acts

theorem linked {left : Dispatch} {leftAround : σ}
    (run : Acts answer render scope c memo s d xs leftAround left) :
    Linked s d xs leftAround left := by
  induction run with
  | nil => exact .nil
  | read _ _ ih => exact .cons (x := ⟨_, _, _, _, _, _⟩) ih
  | other _ _ ih => exact .cons ih

variable {left : Dispatch} {leftAround : σ}

/-- What is settled is read as what it is known as, and no read of it does anything. -/
theorem of_settled (orderly : OrderlyRendering render)
    (run : Acts answer render scope c memo s d xs leftAround left) (settled : Settled c memo d i) :
    ∀ x ∈ xs, ∀ t, x.read = some (i, t) → t = held c memo i ∧ x.Idle := by
  induction run with
  | nil => exact List.forall_mem_nil _
  | @read memo memo' s s' s'' d d' d'' j u xs run rest ih =>
    obtain ⟨settled', same⟩ := settled.of_run orderly run
    rw [same] at ih
    refine List.forall_mem_cons.2 ⟨fun t eq => ?_, ih settled'⟩
    cases eq
    rw [argument_of_settled settled] at run
    cases run
    refine ⟨rfl, ?_, rfl, rfl⟩
    show Program.exchanges (S := Questions) answer s (argument render scope c memo i d) = []
    rw [argument_of_settled settled]
    rfl
  | @other memo x xs s d other rest ih =>
    refine List.forall_mem_cons.2 ⟨fun t eq => ?_, ih ?_⟩
    · cases other.read.symm.trans eq
    · exact settled.imp_right (Or.imp_right fun ⟨h, ended⟩ => ⟨h, other.halted h ended⟩)

/-- Of two reads of an argument the later one gives the same, and does nothing. -/
theorem reads_again (orderly : OrderlyRendering render)
    (run : Acts answer render scope c memo s d xs leftAround left) :
    xs.Pairwise fun x y => ∀ i t u, x.read = some (i, t) → y.read = some (i, u) →
      u = t ∧ y.Idle := by
  induction run with
  | nil => exact .nil
  | read run rest ih =>
    refine .cons (fun y mem i t u first second => ?_) ih
    cases first
    obtain ⟨settled, rfl⟩ := settled_of_run orderly run
    exact rest.of_settled orderly settled y mem u second
  | other other rest ih =>
    refine .cons (fun y mem i t u first _ => ?_) ih
    cases other.read.symm.trans first

/-- The first read of an argument evaluates it if there is such an argument and the dispatch has not
ended. -/
theorem first_read (orderly : OrderlyRendering render)
    (run : Acts answer render scope c memo s d (before ++ y :: after) leftAround left)
    (unknown : held c memo i = none) (read : y.read = some (i, t))
    (first : ∀ x ∈ before, ∀ u, x.read ≠ some (i, u)) :
    (c.argumentAt? i = none ∨ ∃ h, y.dispatch.halted = some h) ∧ t = none ∧ y.Idle ∨
      y.Evaluates answer render c i t := by
  -- No act before the first read makes the argument known.
  induction before generalizing memo s d with
  | nil =>
    cases run with
    | other other rest => cases other.read.symm.trans read
    | @read _ memo' _ s' _ _ d' _ j u _ run rest =>
      cases read
      by_cases settled : Settled c memo d i
      · left
        obtain ⟨rfl, idle⟩ :=
          of_settled orderly (.read run rest) settled _ List.mem_cons_self t rfl
        refine ⟨?_, unknown, idle⟩
        obtain none | ⟨u, known⟩ | ended := settled
        · exact .inl none
        · cases found : c.argumentAt? i with
          | none => exact .inl rfl
          | some place =>
            rw [held, found] at unknown
            cases known.symm.trans unknown
        · exact .inr ended
      · right
        obtain ⟨cs, line, o, e, r, found, unended, ran, tells, read, same⟩ :=
          run_argument answer s scope orderly settled
        rw [read] at run
        cases run
        exact ⟨cs, line, o, found, unended, ran, same, rfl, tells⟩
  | cons x before ih =>
    have first' := fun x mem => first x (List.mem_cons_of_mem _ mem)
    cases run with
    | read run rest =>
      refine ih rest ?_ first'
      refine (held_of_run orderly ?_ run).trans unknown
      rintro rfl
      exact first _ List.mem_cons_self _ rfl
    | other other rest => exact ih rest unknown first'

theorem renders_nothing (run : Acts answer render scope c memo s d xs leftAround left) :
    ∀ x ∈ xs, x.read = none → ∀ e ∈ x.exchanges, e.1.isRendering = false := by
  induction run with
  | nil => exact List.forall_mem_nil _
  | read run rest ih => exact List.forall_mem_cons.2 ⟨nofun, ih⟩
  | other other rest ih => exact List.forall_mem_cons.2 ⟨fun _ => other.rendering, ih⟩

/-- A call that has not read any argument yet evaluates each one when it first reads it. -/
theorem readsOnce (orderly : OrderlyRendering render)
    (run : Acts answer render scope c [] s d xs leftAround left) :
    ReadsOnce answer render c xs where
  others := run.renders_nothing
  first before y after i t split read first := by
    subst split
    refine run.first_read orderly ?_ read first
    unfold held
    cases c.argumentAt? i <;> rfl
  again := run.reads_again orderly

end Acts

/-- What comes up first in a composition comes up in its first part. -/
theorem exchanges_prefix_bind (e : Evaluation α) (f : α → Evaluation β) :
    exchanges answer s e d <+: exchanges answer s (e >>= f) d :=
  ⟨_, (exchanges_bind answer s e f d).symm⟩

/-- A function with a callback does what the callback does. -/
theorem run_invoke_native {name : String} {callback : Callback} {version : Value} :
    Program.run (S := Questions) answer s
        (invoke render scope c (.native name callback version) d) =
      (((Program.run (S := Questions) answer s
            (routine render scope c [] callback.body d)).1.1.1,
          (Program.run (S := Questions) answer s (routine render scope c [] callback.body d)).1.2),
        (Program.run (S := Questions) answer s (routine render scope c [] callback.body d)).2) :=
  run_bind answer s (routine render scope c [] callback.body) (fun r => pure r.1) d

theorem exchanges_invoke_native {name : String} {callback : Callback} {version : Value} :
    exchanges answer s (invoke render scope c (.native name callback version)) d =
      exchanges answer s (routine render scope c [] callback.body) d :=
  (exchanges_bind answer s (routine render scope c [] callback.body) (fun r => pure r.1) d).trans
    (List.append_nil _)

end

/-- **Each argument is evaluated at most once in a call.** Among any surroundings, and whatever the
callback of a function does: what comes up while the callback runs comes up in its acts, each of
which starts where the one before it ends. An argument is only evaluated by an act that reads it,
and of two acts that read it the later one gives what the first one gave, asks nothing and changes
nothing. A read that evaluates the argument gives its text, or no text where the dispatch ends; and
an argument that is first read after the end has no text and is not evaluated. Where there is no
text, the callback goes on with its default. The same holds of the arguments of a function with a
body, all of which are read before the body is evaluated. -/
theorem arguments_read_once {σ : Type} (answer : σ → (q : Question) → q.Answer × σ) (s : σ)
    (scope : Scope) (remaining : Nat) (c : Call) (d : Dispatch) :
    (∀ name callback version,
      let e := invoke (render scope remaining) scope c (.native name callback version)
      let xs := acts answer (render scope remaining) scope c callback.body [] s d
      exchanges answer s e d = xs.flatMap Act.exchanges ∧
        Linked s d xs (Program.run (S := Questions) answer s (e d)).2
          (Program.run (S := Questions) answer s (e d)).1.2 ∧
        ReadsOnce answer (render scope remaining) c xs) ∧
    ∀ name code params version,
      let e := invoke (render scope remaining) scope c (.scripted name code params version)
      let xs := acts answer (render scope remaining) scope c Routine.allArguments [] s d
      xs.flatMap Act.exchanges <+: exchanges answer s e d ∧
        ReadsOnce answer (render scope remaining) c xs := by
  have orderly : OrderlyRendering (render scope remaining) := orderly_render remaining
  refine ⟨fun name callback version => ⟨?_, ?_, ?_⟩, fun name code params version => ?_⟩
  · rw [exchanges_invoke_native, exchanges_routine]
  · rw [run_invoke_native]
    exact (acts_routine callback.body).linked
  · exact (acts_routine callback.body).readsOnce orderly
  · have run : Acts answer (render scope remaining) scope c [] s d
        (acts answer (render scope remaining) scope c Routine.allArguments [] s d) _ _ :=
      acts_routine Routine.allArguments
    refine ⟨?_, run.readsOnce orderly⟩
    rw [← exchanges_routine]
    exact exchanges_prefix_bind _ _

end Evaluation

end CommandScript
