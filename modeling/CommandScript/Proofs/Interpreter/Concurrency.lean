import CommandScript.Proofs.Interleaving
import CommandScript.Proofs.Interpreter.Malformed
import CommandScript.Proofs.World

/-!
# Dispatches side by side

Any number of command strings are handled by one interpreter, in turns of which each answers one
question of one of them. What comes of a command string is what would come of it alone, as long as
no other one changes an entry of a registry or a part of the store that it reads afterwards, and
its own questions leave nothing to chance, to servers or to the host. The others may end early,
fail, be malformed or be over before it begins.

## Main definitions

- `CommandScript.Question.unplaced` — a question without the reference of a registry
- `CommandScript.Interpreter.crew` — command strings handled side by side
- `CommandScript.World.Undisturbed` — a command string that reads nothing that others change before

## Main results

- `CommandScript.Interpreter.handle_undisturbed` — what comes of a command string beside others

## Design notes

A turn is one question and its answer. Programs that give way to others more seldom, and then do
several turns in a row, are those schedules in which a program is picked several times in a row.
-/

namespace CommandScript

/-- A question without the reference of the registry to which it goes. -/
def Question.unplaced : Question → Question
  | .find _ key => .find 0 key
  | .change _ c => .change 0 c
  | q => q

namespace World

variable {ι α : Type}

/-- No turn of another program changes a part of the world that one of the programs reads in a later
turn. -/
def Undisturbed (j : ι) (turns : List (Turn Questions ι World)) : Prop :=
  turns.Pairwise fun t later => t.who ≠ j → later.who = j →
    ∀ part ∈ later.before.reads later.question, part.Same t.before t.after

/-- What holds between a program beside others and a sibling of it that runs alone: their worlds
agree on all that the program reads in the turns to come. -/
structure Shadows (j : ι) (turns : List (Turn Questions ι World)) (h h' : Handle) (w : World)
    (p : Program Questions α) (u : World) (p' : Program Questions α) : Prop where
  siblings : p.Siblings h h' p'
  pair : Paired h h' w u
  undisturbed : Undisturbed j turns
  own : ∀ t ∈ turns, t.who = j → t.question.isLocal = true
  agree : ∀ t ∈ turns, t.who = j → ∀ part ∈ t.before.reads t.question, part.Agrees h h' w u

variable {j : ι} {turns : List (Turn Questions ι World)} {h h' : Handle} {w u : World}
  {p p' : Program Questions α}

theorem Shadows.alike (shadows : Shadows j turns h h' w p u p') :
    p.Alike Question.unplaced p' := by
  cases shadows.siblings with
  | twins same =>
    cases same with
    | done a => exact .done a
    | find key rest => exact .ask rfl
    | change c rest => exact .ask rfl
    | other unplaced rest => exact .ask rfl
  | layer ds refused layered => exact .ask rfl

/-- A turn of another program does not touch what is read later. -/
theorem Shadows.other {i : ι} {q : Question}
    (shadows : Shadows j (⟨i, q, w, (w.answer q).2⟩ :: turns) h h' w p u p') (other : i ≠ j) :
    Shadows j turns h h' (w.answer q).2 p u p' := by
  obtain ⟨now, later⟩ := List.pairwise_cons.1 shadows.undisturbed
  have kept := kept_answer w q
  have still : Kept u u := ⟨.refl _, .refl _, rfl⟩
  refine ⟨shadows.siblings, shadows.pair.kept kept still, later, fun t mem => ?_,
    fun t mem who part reads => ?_⟩
  · exact shadows.own t (List.mem_cons_of_mem _ mem)
  · have agrees := shadows.agree t (List.mem_cons_of_mem _ mem) who part reads
    exact agrees.same shadows.pair kept (now t mem other who part reads)

/-- A turn of the program itself: its sibling asks the same, gets the same answer, and both go on
as siblings. -/
theorem Shadows.own_turn {q q' : Question} {next : q.Answer → Program Questions α}
    {next' : q'.Answer → Program Questions α}
    (shadows : Shadows j (⟨j, q, w, (w.answer q).2⟩ :: turns) h h' w (.ask q next) u
      (.ask q' next')) :
    ∃ k k', Shadows j turns k k' (w.answer q).2 (next (w.answer q).1) (u.answer q').2
      (next' (u.answer q').1) := by
  obtain ⟨siblings, pair, undisturbed, own, agree⟩ := shadows
  have reads : ∀ part ∈ w.reads q, part.Agrees h h' w u := agree _ List.mem_cons_self rfl
  have kept := kept_answer w q
  have kept' := kept_answer u q'
  -- Whatever becomes of the references, what has to be shown about later turns is the same.
  have rest {k k' : Handle} (again : (next (w.answer q).1).Siblings k k' (next' (u.answer q').1))
      (paired : Paired k k' (w.answer q).2 (u.answer q').2)
      (still : ∀ part : Part, part.Agrees h h' w u →
        part.Agrees k k' (w.answer q).2 (u.answer q').2) :
      Shadows j turns k k' (w.answer q).2 (next (w.answer q).1) (u.answer q').2
        (next' (u.answer q').1) :=
    ⟨again, paired, (List.pairwise_cons.1 undisturbed).2,
      fun t mem => own t (List.mem_cons_of_mem _ mem),
      fun t mem who part reads => still part (agree t (List.mem_cons_of_mem _ mem) who part reads)⟩
  cases siblings with
  | twins same =>
    have paired := pair.kept kept kept'
    cases same with
    | find key goesOn =>
      have answers := answer_find pair reads
      refine ⟨h, h', rest (.twins ?_) paired fun part agrees => ?_⟩
      · rw [← answers]
        exact goesOn _
      · exact agrees
    | change c goesOn =>
      obtain ⟨answers, still⟩ := answer_change pair reads
      refine ⟨h, h', rest (.twins ?_) paired still⟩
      rw [← answers]
      exact goesOn _
    | other unplaced goesOn =>
      obtain ⟨answers, still⟩ := answer_other pair unplaced (own _ List.mem_cons_self rfl) reads
      refine ⟨h, h', rest (.twins ?_) paired still⟩
      rw [← answers]
      exact goesOn _
  | layer ds refused layered =>
    obtain ⟨e, answer, answer', same, same'⟩ | ⟨k, k', answer, answer', paired, still⟩ :=
      answer_layer pair ds
    · refine ⟨h, h, rest (.twins ?_) (pair.kept kept kept') fun part agrees => ?_⟩
      · rw [answer, answer']
        exact refused e
      · rw [same, same']
        exact agrees
    · refine ⟨k, k', rest (.twins ?_) paired still⟩
      rw [answer, answer']
      exact layered k k'

/-- A program that starts as a sibling shadows the other one in all turns to come. -/
theorem shadowing (j : ι) :
    Shadowing (S := Questions) answer j Question.unplaced
      fun turns w (p : Program Questions α) u p' => ∃ h h', Shadows j turns h h' w p u p' where
  alike := fun ⟨_, _, shadows⟩ => shadows.alike
  other := fun ⟨h, h', shadows⟩ other => ⟨h, h', shadows.other other⟩
  own := fun ⟨_, _, shadows⟩ => shadows.own_turn

/-- Programs that only take notes and tell of what happens disturb no other one. -/
theorem undisturbed_of_idle [DecidableEq ι] {c : Crew Questions ι World α} {picks : List ι}
    (idle : ∀ t ∈ c.history answer picks, t.who ≠ j → t.question.isIdle = true) :
    Undisturbed j (c.history answer picks) := by
  have same (part : Part) (w : World) (q : Question) (idle : q.isIdle = true) :
      part.Same w (w.answer q).2 := by
    have unchanged : (w.answer q).2.registries = w.registries ∧ (w.answer q).2.store = w.store := by
      cases q with
      | effect command q => cases q <;> first | exact ⟨rfl, rfl⟩ | cases idle
      | notify l d => exact ⟨rfl, rfl⟩
      | observe d a => exact ⟨rfl, rfl⟩
      | _ => cases idle
    cases part with
    | entry e => exact congrArg (Registries.held? · e.1 e.2) unchanged.1.symm
    | stored p =>
      show p.Agrees _ _
      rw [unchanged.2]
      exact .refl w.store p
  refine List.pairwise_iff_getElem.2 fun m n before after less other own part reads => ?_
  have mem := List.getElem_mem before
  rw [Crew.after_of_mem_history mem]
  exact same part _ _ (idle _ mem other)

end World

namespace Interpreter

open World

variable {ι : Type} [DecidableEq ι]

/-- Command strings that one interpreter handles side by side, in the same world. -/
def crew (i : Interpreter) (vs : ι → Invocation) (w : World) :
    Crew Questions ι World (Except Failure Result) :=
  ⟨fun j => i.handle (vs j), w⟩

/-- **Dispatches side by side do not interfere.** However many command strings an interpreter
handles, and in whatever order their questions are answered: consider one of them whose own
questions leave nothing to chance, servers or the host, and of whose registry entries and parts of
the store no other one changes any before it reads them. It asks what it asks alone, and tells
observers of the same moments of its dispatch: the same end, messages, remembered values and depth.
It is done exactly where it had as many turns as it asks questions alone, and what comes of it is
the same. -/
theorem handle_undisturbed (i : Interpreter) (vs : ι → Invocation) (w : World) (picks : List ι)
    (j : ι) (known : ∀ a ∈ w.registries.chain i.functions, a < w.registries.next)
    (own : ∀ t ∈ (i.crew vs w).history World.answer picks, t.who = j → t.question.isLocal = true)
    (undisturbed : Undisturbed j ((i.crew vs w).history World.answer picks)) :
    (Turn.questionsOf j ((i.crew vs w).history World.answer picks)).map Question.unplaced <+:
        (Program.asked (S := Questions) World.answer w (i.handle (vs j))).map Question.unplaced ∧
      ∀ answered, ((i.crew vs w).run World.answer picks).threads j = .done answered ↔
        (Program.asked (S := Questions) World.answer w (i.handle (vs j))).length ≤ picks.count j ∧
          answered = (w.run (i.handle (vs j))).1 := by
  have here : i.functions < w.registries.next := known _ List.mem_cons_self
  have lower (a : Handle) (mem : a ∈ (w.registries.registry i.functions).below) :
      a < w.registries.next := by
    refine known a ?_
    rw [Registries.chain_eq]
    exact List.mem_cons_of_mem _ mem
  have pair : Paired i.functions i.functions w w :=
    ⟨⟨⟨rfl, rfl⟩, here, here, fun a mem => ⟨lower a mem, lower a mem, Iff.rfl⟩⟩, .refl _, rfl⟩
  have same (part : World.Part) : part.Agrees i.functions i.functions w w := by
    cases part with
    | entry e => exact .refl _ _ e
    | stored p => exact .refl w.store p
  exact (shadowing j).follows picks ⟨_, _, i.siblings_handle (vs j), pair, undisturbed, own,
    fun t _ _ part _ => same part⟩

/-- A call of a function that ends its dispatch, and a malformed command string. -/
def callAndMalformed : Bool → Invocation
  | true => plain ['$', 's', '[', 'a', ']']
  | false => plain ['$', 's', '[']

/-- A call that ends its dispatch, turn by turn beside a malformed command string. -/
theorem handle_undisturbed_stopping :
    (∀ a ∈ stopping.registries.chain bare.functions, a < stopping.registries.next) ∧
    (∀ t ∈ (bare.crew callAndMalformed stopping).history World.answer
        (List.replicate 12 [false, true]).flatten, t.who = true → t.question.isLocal = true) ∧
    Undisturbed true ((bare.crew callAndMalformed stopping).history World.answer
      (List.replicate 12 [false, true]).flatten) ∧
    ((bare.crew callAndMalformed stopping).run World.answer
        (List.replicate 12 [false, true]).flatten).threads true =
      .done (stopping.run (bare.handle (callAndMalformed true))).1 := by
  have read : Script.segments (callAndMalformed true).source 1 = .ok [.call ⟨['s'], ['a'], 0, 1⟩] :=
    (Script.segmentsFrom_call rfl rfl).trans (by rw [Script.segmentsFrom_nil]; rfl)
  have unread : Script.segments (callAndMalformed false).source 1 =
      .error (Script.unterminated ['s'] 0 1) := Script.segmentsFrom_unterminated rfl rfl
  have turns : ((bare.crew callAndMalformed stopping).history World.answer
      (List.replicate 12 [false, true]).flatten).all
        (fun t => if t.who then t.question.isLocal else t.question.isIdle) = true := by
    have crew : bare.crew callAndMalformed stopping = ⟨fun j => match j with
        | true => bare.handle (callAndMalformed true)
        | false => bare.handle (callAndMalformed false), stopping⟩ :=
      congrArg (Crew.mk · stopping) (funext fun j => by cases j <;> rfl)
    rw [crew]
    unfold handle run dispatch Evaluation.render Evaluation.source
    rw [read, unread]
    rfl
  have short : (Program.asked (S := Questions) World.answer stopping
      (bare.handle (callAndMalformed true))).length ≤ 12 := by
    unfold handle run dispatch Evaluation.render Evaluation.source
    rw [read]
    exact Nat.le_of_ble_eq_true rfl
  have known : ∀ a ∈ stopping.registries.chain bare.functions, a < stopping.registries.next := by
    decide
  have own : ∀ t ∈ (bare.crew callAndMalformed stopping).history World.answer
      (List.replicate 12 [false, true]).flatten, t.who = true → t.question.isLocal = true :=
    fun t mem who => by simpa [who] using List.all_eq_true.1 turns t mem
  have undisturbed : Undisturbed true ((bare.crew callAndMalformed stopping).history World.answer
      (List.replicate 12 [false, true]).flatten) :=
    undisturbed_of_idle fun t mem who => by
      simpa [Bool.eq_false_iff.2 who] using List.all_eq_true.1 turns t mem
  refine ⟨known, own, undisturbed, ?_⟩
  have beside := handle_undisturbed bare callAndMalformed stopping _ true known own undisturbed
  exact (beside.2 _).2 ⟨short, rfl⟩

end Interpreter

end CommandScript
