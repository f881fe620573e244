import CommandScript.Proofs.Dispatch.Acts
import CommandScript.Proofs.Dispatch.Unread
import CommandScript.Value.Attribute
import CommandScript.Yaml.Reader

/-!
# What built-in functions do after an end

A built-in function reads its arguments before it does anything of its own. If one of them ends the
dispatch, the function does nothing more, and its call gives the end that the argument gave. A
function that was not given enough arguments ends the dispatch without reading any of them.

## Main definitions

- `CommandScript.Routine.Idles` — routines that do nothing of their own after the end
- `CommandScript.Routine.ReadsFirst` — routines that read their arguments before they do anything
- `CommandScript.Act.Reticent` — acts that leave no trace
- `CommandScript.BuiltIn.expectation` — how many arguments built-in functions expect

## Main results

- `CommandScript.Evaluation.acts_of_ending_read` — after an argument has ended the dispatch, nothing
  is done
- `CommandScript.BuiltIn.heedful` — built-in functions read before they act
- `CommandScript.BuiltIn.enter_withCount`, `CommandScript.BuiltIn.enter_of_ending_read` — calls of
  functions that check their arguments, and of those that read before they act
- `CommandScript.BuiltIn.restrained` — built-in functions do nothing of their own where an argument
  ends the dispatch or arguments are missing

## Design notes

The only question that a built-in function asks after the end is for the name of the first table of
variables, which changes nothing.
-/

namespace CommandScript

namespace Routine

variable {C α β : Type}

/-- The routine only reads, whatever it is told. -/
def Passive : Routine C α → Prop
  | .done _ => True
  | .raise _ => True
  | .argument _ next => ∀ s, (next s).Passive
  | .look next => ∀ v, (next v).Passive
  | .recall _ next => ∀ v, (next v).Passive
  | _ => False

/-- The routine reads no argument, whatever it is told. -/
def ReadsNothing : Routine C α → Prop
  | .done _ => True
  | .raise _ => True
  | .argument _ _ => False
  | .look next => ∀ v, (next v).ReadsNothing
  | .abort _ _ next => ∀ h, (next h).ReadsNothing
  | .emit _ _ next => next.ReadsNothing
  | .recall _ next => ∀ v, (next v).ReadsNothing
  | .remember _ _ next => next.ReadsNothing
  | .change _ next => ∀ e, (next e).ReadsNothing
  | .effect _ next => ∀ r, (next r).ReadsNothing

/-- In a dispatch that has ended, the routine does nothing of its own: at most it asks for the first
table, and ends the dispatch another time. -/
def Idles : Routine C α → Prop
  | .done _ => True
  | .raise _ => True
  | .argument _ next => ∀ s, (next s).Idles
  | .look next => ∀ v, v.isAborted = true → (next v).Idles
  | .abort _ _ next => ∀ h, (next h).Idles
  | .recall _ next => ∀ v, (next v).Idles
  | .effect q next => q = .store .defaultTable ∧ ∀ r, (next r).Idles
  | _ => False

/-- The routine reads its arguments before it does anything of its own, and does nothing of its own
if the dispatch ends while it reads one. -/
def ReadsFirst : Routine C α → Prop
  | .done _ => True
  | .raise _ => True
  | .argument _ next => ∀ s, (next s).ReadsFirst ∧ (next s).Idles
  | .look next => ∀ v, (next v).ReadsFirst
  | .abort _ _ next => ∀ h, (next h).ReadsNothing
  | .emit _ _ next => next.ReadsNothing
  | .recall _ next => ∀ v, (next v).ReadsFirst
  | .remember _ _ next => next.ReadsNothing
  | .change _ next => ∀ e, (next e).ReadsNothing
  | .effect _ next => ∀ r, (next r).ReadsNothing

/-- The routine reads before it acts, and does not act after an end. -/
structure Heedful (r : Routine C α) : Prop where
  readsFirst : r.ReadsFirst
  idles : r.Idles

theorem ReadsNothing.readsFirst {r : Routine C α} (h : r.ReadsNothing) : r.ReadsFirst := by
  induction r with
  | argument i next ih => exact h.elim
  | look next ih => exact fun v => ih v (h v)
  | «recall» key next ih => exact fun v => ih v (h v)
  | done | raise => trivial
  | abort | emit | remember | change | effect => exact h

theorem ReadsNothing.bind {r : Routine C α} {f : α → Routine C β} (first : r.ReadsNothing)
    (second : ∀ a, (f a).ReadsNothing) : (r >>= f).ReadsNothing := by
  induction r with
  | done a => exact second a
  | raise e => trivial
  | argument i next ih => exact first
  | look next ih => exact fun v => ih v (first v)
  | abort reason details next ih => exact fun h => ih h (first h)
  | emit m topics next ih => exact ih first
  | «recall» key next ih => exact fun v => ih v (first v)
  | remember key v next ih => exact ih first
  | change c next ih => exact fun e => ih e (first e)
  | effect q next ih => exact fun r => ih r (first r)

theorem Idles.bind {r : Routine C α} {f : α → Routine C β} (first : r.Idles)
    (second : ∀ a, (f a).Idles) : (r >>= f).Idles := by
  induction r with
  | done a => exact second a
  | raise e => trivial
  | argument i next ih => exact fun s => ih s (first s)
  | look next ih => exact fun v ended => ih v (first v ended)
  | abort reason details next ih => exact fun h => ih h (first h)
  | «recall» key next ih => exact fun v => ih v (first v)
  | effect q next ih => exact ⟨first.1, fun r => ih r (first.2 r)⟩
  | emit | remember | change => exact first

theorem Passive.idles {r : Routine C α} (h : r.Passive) : r.Idles := by
  induction r with
  | argument i next ih => exact fun s => ih s (h s)
  | look next ih => exact fun v _ => ih v (h v)
  | «recall» key next ih => exact fun v => ih v (h v)
  | done | raise => trivial
  | abort | emit | remember | change | effect => exact h.elim

/-- What is only read comes before what is done. -/
theorem Passive.bind {r : Routine C α} {f : α → Routine C β} (first : r.Passive)
    (second : ∀ a, (f a).Heedful) : (r >>= f).Heedful := by
  refine ⟨?_, first.idles.bind fun a => (second a).idles⟩
  induction r with
  | done a => exact (second a).readsFirst
  | raise e => trivial
  | argument i next ih =>
    exact fun s => ⟨ih s (first s), (first s).idles.bind fun a => (second a).idles⟩
  | look next ih => exact fun v => ih v (first v)
  | «recall» key next ih => exact fun v => ih v (first v)
  | abort | emit | remember | change | effect => exact first.elim

theorem Passive.then {r : Routine C α} {f : α → Routine C β} (first : r.Passive)
    (second : ∀ a, (f a).Passive) : (r >>= f).Passive := by
  induction r with
  | done a => exact second a
  | raise e => trivial
  | argument i next ih => exact fun s => ih s (first s)
  | look next ih => exact fun v => ih v (first v)
  | «recall» key next ih => exact fun v => ih v (first v)
  | abort | emit | remember | change | effect => exact first.elim

theorem passive_lift {ε : Type} (wrap : ε → Failure) (e : Except ε α) :
    (lift wrap e : Routine C α).Passive := by
  cases e with
  | error e => trivial
  | ok a => trivial

theorem passive_argumentOr (index : Int) (default : String) :
    (argumentOr index default : Routine C String).Passive := fun _ => trivial

theorem passive_valueOr (index : Int) (default : Value) :
    (valueOr index default : Routine C Value).Passive := by
  refine Passive.then (fun s => ?_) fun _ => trivial
  cases s with
  | none => trivial
  | some s => exact passive_lift _ _

theorem passive_allValues : (allValues : Routine C (List Value)).Passive := by
  intro v
  show (values v.arguments.length : Routine C (List Value)).Passive
  induction v.arguments.length with
  | zero => trivial
  | succ n ih => exact Passive.then ih fun _ => Passive.then (passive_valueOr _ _) fun _ => trivial

theorem readsNothing_lift {ε : Type} (wrap : ε → Failure) (e : Except ε α) :
    (lift wrap e : Routine C α).ReadsNothing := by
  cases e with
  | error e => trivial
  | ok a => trivial

theorem readsNothing_ite {p : Prop} [Decidable p] {r r' : Routine C α} (first : r.ReadsNothing)
    (second : r'.ReadsNothing) : (if p then r else r').ReadsNothing := by
  split
  · exact first
  · exact second

theorem readsNothing_store (q : Store.Query) : (store q : Routine C Value).ReadsNothing :=
  fun _ => readsNothing_lift _ _

theorem readsNothing_ofProgram (p : Program Effects α) :
    (ofProgram p : Routine C α).ReadsNothing := by
  induction p with
  | done a => trivial
  | ask q next ih => exact ih

theorem readsNothing_ending {r : Routine C Halt} (h : r.ReadsNothing) : (ending r).ReadsNothing :=
  h.bind fun _ => trivial

theorem readsNothing_signalError (message : String) :
    (signalError message : Routine C Halt).ReadsNothing := fun _ => trivial

theorem readsNothing_checkKindsFrom (name : String) (position : Nat) (vs : List Value)
    (kinds : List String) :
    (checkKindsFrom name position vs kinds : Routine C Bool).ReadsNothing := by
  induction vs generalizing position kinds with
  | nil => trivial
  | cons v vs ih =>
    cases kinds with
    | nil => trivial
    | cons expected rest =>
      rw [checkKindsFrom]
      refine readsNothing_ite trivial (readsNothing_ite (ih _ _) ?_)
      exact (readsNothing_lift _ _).bind fun _ _ => trivial

end Routine

/-- The act leaves the dispatch as it was, and nothing is asked in it but for the first table. -/
structure Act.Reticent {σ : Type} (scope : Scope) (x : Act σ) : Prop where
  left : x.left = x.dispatch
  exchanges : ∀ e ∈ x.exchanges, e.1 = .effect scope.logged (.store .defaultTable)

/-- Whether a question only tells what happens, to an observer or in a note, where no command string
is evaluated. -/
def Question.onlyTells : Question → Bool
  | .observe _ (.rendering ..) => false
  | .observe .. => true
  | .effect _ (.log _) => true
  | _ => false

namespace Evaluation

open Script (Call)

variable {σ α β : Type} {answer : σ → (q : Question) → q.Answer × σ}
  {render : List Char → Int → Evaluation Outcome} {scope : Scope} {c : Call} {memo : Memo} {s : σ}
  {d : Dispatch} {h : Halt} {i : Int} {t : Option String} {x : Act σ}

theorem acting_of_pure {read : β → Option (Int × Option String)} {e : Evaluation β}
    {later : β → σ → Dispatch → List (Act σ)} {b : β} (same : e d = (pure b : Evaluation β) d) :
    acting answer read e later s d = ⟨read b, d, s, [], d, s⟩ :: later b s d := by
  unfold acting exchanges
  rw [same]
  rfl

/-- Ending a dispatch another time does nothing. -/
theorem abort_of_halted (ended : d.halted = some h) {reason : String} {details : Option String} :
    ∃ h', abort scope c reason details d = (pure h' : Evaluation Halt) d :=
  ⟨_, bind_congr_left (halt_of_halted ended) _⟩

/-- A routine that does nothing of its own after the end leaves a dispatch that has ended as it
is. -/
theorem acts_of_idles {r : Routine Callback α} (idles : r.Idles) (ended : d.halted = some h) :
    (∀ y ∈ acts answer render scope c r memo s d, y.Reticent scope) ∧
      (Program.run (S := Questions) answer s (routine render scope c memo r d)).1.2 = d := by
  have still {β : Type} {e : Evaluation β} {b : β} {f : β → Evaluation (Except Failure α × Memo)}
      {read : β → Option (Int × Option String)} {later : β → σ → Dispatch → List (Act σ)} {s : σ}
      (same : e d = (pure b : Evaluation β) d)
      (rest : (∀ y ∈ later b s d, y.Reticent scope) ∧
        (Program.run (S := Questions) answer s (f b d)).1.2 = d) :
      (∀ y ∈ acting answer read e later s d, y.Reticent scope) ∧
        (Program.run (S := Questions) answer s ((e >>= f) d)).1.2 = d := by
    rw [acting_of_pure same, bind_congr_left same]
    exact ⟨List.forall_mem_cons.2 ⟨⟨rfl, List.forall_mem_nil _⟩, rest.1⟩, rest.2⟩
  induction r generalizing memo s with
  | done a => exact ⟨List.forall_mem_nil _, rfl⟩
  | raise e => exact ⟨List.forall_mem_nil _, rfl⟩
  | argument i next ih =>
    have settled : Settled c memo d i := .inr (.inr ⟨h, ended⟩)
    exact still (argument_of_settled settled) (ih _ (idles _))
  | look next ih =>
    have aborted : (seen scope c d).isAborted = true := by simp [seen, Dispatch.isHalted, ended]
    exact ih _ (idles _ aborted)
  | abort reason details next ih =>
    obtain ⟨h', same⟩ : ∃ h', abort scope c reason details d = (pure h' : Evaluation Halt) d :=
      abort_of_halted ended
    exact still same (ih h' (idles h'))
  | «recall» key next ih => exact ih _ (idles _)
  | effect q next ih =>
    obtain ⟨rfl, later⟩ := idles
    obtain ⟨reticent, left⟩ := ih _ (later _)
    refine ⟨List.forall_mem_cons.2 ⟨⟨rfl, ?_⟩, reticent⟩, left⟩
    exact List.forall_mem_singleton.2 rfl
  | emit | remember | change => exact idles.elim

theorem acts_of_readsNothing {r : Routine Callback α} (reads : r.ReadsNothing) :
    ∀ y ∈ acts answer render scope c r memo s d, y.read = none := by
  induction r generalizing memo s d with
  | done a => exact List.forall_mem_nil _
  | raise e => exact List.forall_mem_nil _
  | argument i next ih => exact reads.elim
  | look next ih => exact ih _ (reads _)
  | abort reason details next ih => exact List.forall_mem_cons.2 ⟨rfl, ih _ (reads _)⟩
  | emit m topics next ih => exact List.forall_mem_cons.2 ⟨rfl, ih reads⟩
  | «recall» key next ih => exact ih _ (reads _)
  | remember key v next ih => exact List.forall_mem_cons.2 ⟨rfl, ih reads⟩
  | change ch next ih => exact List.forall_mem_cons.2 ⟨rfl, ih _ (reads _)⟩
  | effect q next ih => exact List.forall_mem_cons.2 ⟨rfl, ih _ (reads _)⟩

/-- **After an argument has ended the dispatch, nothing is done**: where a routine that reads before
it acts reads an argument that ends the dispatch, all else that it does leaves no trace. -/
theorem acts_of_ending_read {r : Routine Callback α} (reads : r.ReadsFirst)
    (mem : x ∈ acts answer render scope c r memo s d) (read : x.read = some (i, t))
    (ended : x.left.halted = some h) :
    (∀ y ∈ acts answer render scope c r memo s d, y.read = none → y.Reticent scope) ∧
      (Program.run (S := Questions) answer s (routine render scope c memo r d)).1.2 = x.left := by
  have spoken {y : Act σ} {p : Int × Option String} (none : some p = none) : y.Reticent scope :=
    absurd none (Option.some_ne_none p)
  -- Once the routine has done something of its own it reads no more, so that it has not read yet.
  have acting_reads {β : Type} {e : Evaluation β} {later : β → σ → Dispatch → List (Act σ)} {s : σ}
      {d : Dispatch} (mem : x ∈ acting answer (fun _ => none) e later s d)
      (rest : ∀ b s' d', ∀ y ∈ later b s' d', y.read = none) : False := by
    obtain rfl | mem := List.mem_cons.1 mem
    · cases read
    · cases read.symm.trans (rest _ _ _ x mem)
  induction r generalizing memo s d with
  | done a => cases mem
  | raise e => cases mem
  | argument j next ih =>
    have later := reads
      (Program.run (S := Questions) answer s (argument render scope c memo j d)).1.1.1
    rw [routine, run_bind]
    obtain rfl | mem := List.mem_cons.1 mem
    · obtain ⟨reticent, left⟩ := acts_of_idles later.2 ended
      exact ⟨List.forall_mem_cons.2 ⟨spoken, fun y mem _ => reticent y mem⟩, left⟩
    · obtain ⟨reticent, left⟩ := ih _ later.1 mem
      exact ⟨List.forall_mem_cons.2 ⟨spoken, reticent⟩, left⟩
  | look next ih => exact ih _ (reads _) mem
  | «recall» key next ih => exact ih _ (reads _) mem
  | abort reason details next ih =>
    exact (acting_reads mem fun _ _ _ => acts_of_readsNothing (reads _)).elim
  | emit m topics next ih =>
    exact (acting_reads mem fun _ _ _ => acts_of_readsNothing reads).elim
  | remember key v next ih =>
    exact (acting_reads mem fun _ _ _ => acts_of_readsNothing reads).elim
  | change ch next ih =>
    exact (acting_reads mem fun _ _ _ => acts_of_readsNothing (reads _)).elim
  | effect q next ih =>
    exact (acting_reads mem fun _ _ _ => acts_of_readsNothing (reads _)).elim

/-- In a dispatch that has ended, whatever a function gave back, its call gives the end and takes at
most a note. -/
theorem finish_of_halted (ended : d.halted = some h) (reply : Except Failure Reply) :
    (finish scope c reply).Ensures d fun qs o d' => o = .error h ∧ d' = d ∧
      ∀ q ∈ qs, ∃ n, q = .effect scope.logged (.log n) := by
  have again (h' : Halt) : (do return .error (← halt scope h') : Evaluation Outcome) d =
      (pure (.error h) : Evaluation Outcome) d :=
    bind_congr_left (halt_of_halted ended) _
  have failing (e : Failure) : (fail scope c e).Ensures d fun qs o d' => o = .error h ∧ d' = d ∧
      ∀ q ∈ qs, ∃ n, q = .effect scope.logged (.log n) := by
    refine ensures_bind.2 (ensures_note.2 (Ensures.congr (ensures_pure.2 ?_) (again _)))
    exact ⟨rfl, rfl, List.forall_mem_singleton.2 ⟨_, rfl⟩⟩
  match reply with
  | .error e => exact failing e
  | .ok (.halt h') =>
    refine Ensures.congr (ensures_pure.2 ?_) (again h')
    exact ⟨rfl, rfl, List.forall_mem_nil _⟩
  | .ok (.value v) =>
    unfold finish
    refine ensures_bind.2 (ensures_get.2 ?_)
    rw [ended]
    exact ensures_pure.2 ⟨rfl, rfl, List.forall_mem_nil _⟩

/-- Where a function leaves a dispatch that has ended, its call gives the end and leaves the rest of
the dispatch as the function left it. -/
theorem run_enter_of_halted {f : Descriptor Callback} {reply : Except Failure Reply}
    {left : Dispatch} {s' : σ}
    (ran : Program.run (S := Questions) answer
        (answer s (.observe { d with depth := d.depth + 1 } (.entering c f))).2
        (invoke render scope c f { d with depth := d.depth + 1 }) = ((reply, left), s'))
    (ended : left.halted = some h) :
    (Program.run (S := Questions) answer s (enter render scope c f d)).1 =
        (.error h, { left with depth := left.depth - 1 }) ∧
      ∃ notes, exchanges answer s (enter render scope c f) d =
          .told { d with depth := d.depth + 1 } (.entering c f) ::
            exchanges answer
                (answer s (.observe { d with depth := d.depth + 1 } (.entering c f))).2
                (invoke render scope c f) { d with depth := d.depth + 1 } ++
              .told left (.returned c reply) :: notes ++
                [.told { left with depth := left.depth - 1 } (.leaving c (.error h))] ∧
        ∀ e ∈ notes, ∃ n, e.1 = .effect scope.logged (.log n) := by
  let entered : Dispatch := { d with depth := d.depth + 1 }
  let s₁ := (answer s (.observe entered (.entering c f))).2
  let s₂ := (answer s' (.observe left (.returned c reply))).2
  obtain ⟨o_eq, left_eq, noted⟩ := (finish_of_halted ended reply).run answer s₂
  have finished : (Program.run (S := Questions) answer s₂ (finish scope c reply left)).1 =
      (.error h, left) := Prod.ext o_eq left_eq
  have performed : (Program.run (S := Questions) answer s₁ (perform render scope c f entered)).1 =
      (.error h, left) := by
    rw [perform, run_bind, ran]
    exact finished
  have told : exchanges answer s₁ (perform render scope c f) entered =
      exchanges answer s₁ (invoke render scope c f) entered ++
        .told left (.returned c reply) :: exchanges answer s₂ (finish scope c reply) left := by
    rw [perform, exchanges_bind, ran]
    rfl
  let close (o : Outcome) : Evaluation Outcome := do
    modify fun s => { s with depth := s.depth - 1 }
    observe (.leaving c o)
    return o
  constructor
  · show (Program.run (S := Questions) answer s₁
      ((perform render scope c f >>= close) entered)).1 = _
    rw [run_bind, performed]
    rfl
  · refine ⟨exchanges answer s₂ (finish scope c reply) left, ?_, ?_⟩
    · show _ :: exchanges answer s₁ (perform render scope c f >>= close) entered = _
      rw [exchanges_bind, performed, told]
      rfl
    · intro e mem
      rw [← map_fst_exchanges] at noted
      exact noted e.1 (List.mem_map_of_mem mem)

end Evaluation

namespace BuiltIn

open Routine

section Heedful

variable {C : Type} {go : Routine C Reply}

theorem readsNothing_unlessAborted (h : go.ReadsNothing) : (unlessAborted go).ReadsNothing := by
  intro v
  show ReadsNothing (if v.isAborted then nothing else go)
  exact readsNothing_ite trivial h

/-- What is done only in a dispatch that has not ended may be anything after the reads. -/
theorem heedful_unlessAborted (h : go.ReadsFirst) : (unlessAborted go).Heedful := by
  have begins : unlessAborted go = .look fun v => if v.isAborted then nothing else go := rfl
  rw [begins]
  refine ⟨fun v => ?_, fun v aborted => ?_⟩
  · show ReadsFirst (if v.isAborted then nothing else go)
    split
    · trivial
    · exact h
  · show Idles (if v.isAborted then nothing else go)
    rw [if_pos aborted]
    trivial

theorem heedful_withNumbers (vs : List Value) (h : go.ReadsNothing) :
    (withNumbers vs go).Heedful := by
  refine heedful_unlessAborted (ReadsNothing.readsFirst ?_)
  refine ReadsNothing.bind (fun v => readsNothing_checkKindsFrom _ _ _ _) fun b => ?_
  exact readsNothing_ite h trivial

/-- A function that checks how many arguments it was given reads none of them if that fails. -/
theorem heedful_withCount (expected : Int) (exact : Bool) (h : go.Heedful) :
    (withCount expected exact go).Heedful := by
  rw [withCount_eq]
  refine ⟨fun v => ?_, fun v _ => ?_⟩
  · beta_reduce
    split
    · exact fun _ => trivial
    · exact h.readsFirst
  · beta_reduce
    split
    · exact fun _ => trivial
    · exact h.idles

/-- A table is asked for after the argument that would name it has been read. -/
theorem heedful_tableName (index : Int) {f : Value → Routine C Reply}
    (idles : ∀ table, (f table).Idles) (reads : ∀ table, (f table).ReadsNothing) :
    (tableName index >>= f).Heedful := by
  refine Passive.bind (r := argumentOr index "") (f := fun s =>
    (if s = "" then store .defaultTable else pure (.text s)) >>= f) (passive_argumentOr _ _) ?_
  intro s
  split
  · have idle : (store .defaultTable : Routine C Value).Idles :=
      ⟨rfl, fun _ => (passive_lift _ _).idles⟩
    exact ⟨((readsNothing_store _).bind reads).readsFirst, idle.bind idles⟩
  · exact ⟨(reads _).readsFirst, idles _⟩

theorem heedful_random : (random : Routine C Reply).Heedful := by
  refine heedful_withCount _ _ ?_
  refine (passive_valueOr _ _).bind fun low => (passive_valueOr _ _).bind fun high =>
    (passive_valueOr _ _).bind fun again => heedful_withNumbers _ ?_
  refine (readsNothing_lift _ _).bind fun low => (readsNothing_lift _ _).bind fun high => ?_
  -- The texts of the bounds are not looked into.
  generalize Numeral.intText low = lowText, Numeral.intText high = highText,
    drawKey low high = drawn
  have draws (key : String) (again : Bool) : (draw low high key again : Routine C _).ReadsNothing :=
    fun n => readsNothing_ite trivial trivial
  split
  · exact (readsNothing_lift _ _).bind fun _ => (readsNothing_lift _ _).bind fun _ =>
      readsNothing_ending (readsNothing_signalError _)
  · refine (readsNothing_lift _ _).bind fun key => ?_
    split
    · intro v
      cases v with
      | none => exact draws key true
      | some v => trivial
    · exact draws key false

theorem heedful_sum : (sum : Routine C Reply).Heedful :=
  heedful_withCount _ _ (passive_allValues.bind fun _ =>
    heedful_withNumbers _ ((readsNothing_lift _ _).bind fun _ => trivial))

/-- The chosen argument is read last. -/
theorem heedful_choose : (choose : Routine C Reply).Heedful := by
  refine heedful_withCount _ _ ((passive_argumentOr _ _).bind fun s => heedful_unlessAborted ?_)
  refine ((passive_lift _ _).bind fun truth => ?_).readsFirst
  cases truth with
  | none => exact ⟨fun _ => trivial, fun _ => trivial⟩
  | some b => exact (passive_argumentOr _ _).bind fun _ => ⟨trivial, trivial⟩

theorem heedful_error : (error : Routine C Reply).Heedful :=
  (passive_argumentOr _ _).bind fun _ =>
    heedful_unlessAborted (readsNothing_ending (readsNothing_signalError _)).readsFirst

theorem heedful_halt : (halt : Routine C Reply).Heedful := ⟨fun _ => trivial, fun _ => trivial⟩

theorem heedful_sendMessage : (sendMessage : Routine C Reply).Heedful :=
  heedful_withCount _ _ ((passive_argumentOr _ _).bind fun _ => heedful_unlessAborted trivial)

theorem readsNothing_withVariable (table : Value) (name : String) (h : go.ReadsNothing) :
    (withVariable table name go).ReadsNothing :=
  (readsNothing_store _).bind fun _ => readsNothing_ite
    ((readsNothing_store _).bind fun _ => readsNothing_ite h
      (readsNothing_ending fun _ => trivial))
    (readsNothing_ending fun _ => trivial)

/-- A variable is looked for after the table has been named. -/
theorem heedful_variable (index : Int) (name : String) {f : Value → Routine C Reply}
    (reads : ∀ table, (f table).ReadsNothing) :
    (tableName index >>= fun table => unlessAborted (withVariable table name (f table))).Heedful :=
  have rest (table : Value) := readsNothing_withVariable table name (reads table)
  heedful_tableName index (fun table => (heedful_unlessAborted (rest table).readsFirst).idles)
    fun table => readsNothing_unlessAborted (rest table)

theorem heedful_getVariable : (getVariable : Routine C Reply).Heedful :=
  heedful_withCount _ _ ((passive_argumentOr _ _).bind fun name =>
    heedful_variable 1 name fun _ => (readsNothing_store _).bind fun _ => trivial)

theorem heedful_setVariable : (setVariable : Routine C Reply).Heedful :=
  heedful_withCount _ _ ((passive_argumentOr _ _).bind fun name =>
    (passive_argumentOr _ _).bind fun _ =>
      heedful_variable 2 name fun _ => (readsNothing_store _).bind fun _ => trivial)

theorem heedful_isObject : (isObject : Routine C Reply).Heedful :=
  heedful_withCount _ _ ((passive_argumentOr _ _).bind fun _ =>
    heedful_unlessAborted (ReadsNothing.readsFirst ((readsNothing_lift _ _).bind fun _ => trivial)))

theorem heedful_stringAt : (stringAt : Routine C Reply).Heedful := by
  refine heedful_withCount _ _ ((passive_argumentOr _ _).bind fun s =>
    (passive_valueOr _ _).bind fun index => heedful_withNumbers _ ?_)
  refine (readsNothing_lift _ _).bind fun i => ?_
  cases charAt? s.toList i with
  | none => trivial
  | some c => trivial

theorem heedful_endsWith : (endsWith : Routine C Reply).Heedful :=
  heedful_withCount _ _ ((passive_argumentOr _ _).bind fun _ =>
    (passive_argumentOr _ _).bind fun _ => heedful_unlessAborted trivial)

theorem heedful_event [Value.Attributes] : (event : Routine C Reply).Heedful :=
  heedful_withCount _ _ ((passive_argumentOr _ _).bind fun _ =>
    heedful_unlessAborted fun _ =>
      ReadsNothing.readsFirst ((readsNothing_lift _ _).bind fun _ => trivial))

theorem readsNothing_received [Value.Attributes] (failure : String) (path : Option String)
    (r : Except Http.Error Value) : (received failure path r : Routine C Reply).ReadsNothing := by
  cases r with
  | error e =>
    exact readsNothing_ite (readsNothing_ending (readsNothing_signalError _)) trivial
  | ok v =>
    unfold received
    cases path.filter (· ≠ "") with
    | none => trivial
    | some p => exact (readsNothing_lift _ _).bind fun _ => trivial

variable [Yaml.Loader] [Value.Attributes]

theorem heedful_fetch : (fetch : Routine C Reply).Heedful := by
  refine heedful_withCount _ _ ((passive_argumentOr _ _).bind fun url => ?_)
  refine Passive.bind (r := argument? 1) (fun _ => trivial) fun path => heedful_unlessAborted ?_
  exact ((readsNothing_ofProgram _).bind fun r => readsNothing_received _ _ r).readsFirst

theorem heedful_post : (post : Routine C Reply).Heedful := by
  refine heedful_withCount _ _ ((passive_argumentOr _ _).bind fun url =>
    (passive_argumentOr _ _).bind fun body => ?_)
  refine Passive.bind (r := argument? 2) (fun _ => trivial) fun path => heedful_unlessAborted ?_
  refine ((readsNothing_lift _ _).bind fun _ => ?_).readsFirst
  exact (readsNothing_ofProgram _).bind fun r => readsNothing_received _ _ r

/-- **Built-in functions read their arguments before they act**, and do nothing of their own in a
dispatch that has ended. -/
theorem heedful {words : String} {r : Routine Callback Reply} (mem : (words, r) ∈ routines) :
    r.Heedful := by
  have each : ∀ p ∈ routines, p.2.Heedful := by
    simp only [routines, List.forall_mem_cons]
    exact ⟨heedful_endsWith, heedful_error, heedful_event, heedful_fetch, heedful_getVariable,
      heedful_choose, heedful_isObject, heedful_post, heedful_random, heedful_sendMessage,
      heedful_setVariable, heedful_halt, heedful_stringAt, heedful_sum, by simp⟩
  exact each (words, r) mem

end Heedful

/-- How many arguments a built-in function expects at least, or exactly, by the words of its
name. -/
def expectation : String → Option (Int × Bool)
  | "ends_with" | "if" | "post" | "random" | "set_var" => some (2, false)
  | "string_at" => some (2, true)
  | "error" | "stop" => none
  | _ => some (1, false)

/-- Built-in functions first check how many arguments they were given, if they expect any. -/
theorem exists_eq_withCount [Yaml.Loader] [Value.Attributes] {words : String}
    {r : Routine Callback Reply} {expected : Int} {exact : Bool} (mem : (words, r) ∈ routines)
    (expects : expectation words = some (expected, exact)) :
    ∃ go, r = withCount expected exact go := by
  have checked {r go : Routine Callback Reply} {expected : Int} {exact : Bool}
      (eq : r = withCount expected exact go) (q : Int × Bool)
      (expects : some (expected, exact) = some q) : ∃ go, r = withCount q.1 q.2 go := by
    cases expects
    exact ⟨go, eq⟩
  have unchecked {r : Routine Callback Reply} (q : Int × Bool) (expects : none = some q) :
      ∃ go, r = withCount q.1 q.2 go := by
    cases expects
  have each : ∀ p ∈ routines, ∀ q, expectation p.1 = some q → ∃ go, p.2 = withCount q.1 q.2 go := by
    simp only [routines, List.forall_mem_cons]
    exact ⟨checked rfl, unchecked, checked rfl, checked rfl, checked rfl, checked rfl, checked rfl,
      checked rfl, checked rfl, checked rfl, checked rfl, unchecked, checked rfl, checked rfl,
      List.forall_mem_nil _⟩
  exact each (words, r) mem (expected, exact) expects

open Script (Call)
open Evaluation

/-- What is said of a call that has not as many arguments as are expected. -/
def shortageDetails (c : Call) (expected : Int) : String :=
  "Expected " ++ Numeral.intTextUnlimited expected ++ " arguments but got " ++
    toString c.arguments.length

/-- How a function ends the dispatch that was not given as many arguments as it expects. -/
def shortage (c : Call) (expected : Int) : Halt :=
  .aborted "arity"
    (some (Diagnostic.text c.shownName (shortageDetails c expected) (some c.line)))
    (some c.shownName)

/-- A function that was not given enough arguments ends the dispatch and returns nothing. -/
theorem ensures_withCount {render : List Char → Int → Evaluation Outcome} {scope : Scope} {c : Call}
    {d : Dispatch} {expected : Int} {exact : Bool}
    (few : (c.arguments.length : Int) < expected ∨
      exact = true ∧ (c.arguments.length : Int) ≠ expected)
    (unended : d.halted = none) (go : Routine Callback Reply) :
    (routine render scope c [] (withCount expected exact go)).Ensures d fun qs r d' =>
      r = (.ok (.value .null), []) ∧ d' = { d with halted := some (shortage c expected) } ∧
        ∀ q ∈ qs, q.onlyTells := by
  have lacking : ((c.arguments.length : Int) < expected ||
      (exact && (c.arguments.length : Int) ≠ expected)) = true := by
    simpa using few
  have begins : routine render scope c [] (withCount expected exact go) d =
      (abort scope c "arity" (some (shortageDetails c expected)) >>= fun _ =>
        routine render scope c [] nothing) d := by
    rw [withCount_eq]
    exact congrArg (fun r : Routine Callback Reply => routine render scope c [] r d)
      (if_pos lacking)
  refine Ensures.congr ?_ begins
  refine ensures_bind.2 (ensures_bind.2 (ensures_bind.2 (ensures_get.2 ?_)))
  rw [unended]
  refine ensures_bind.2 (ensures_modify.2 (ensures_bind.2 (ensures_observe.2 ?_)))
  exact ensures_bind.2 (ensures_note.2 (ensures_pure.2 (ensures_pure.2 (ensures_pure.2
    ⟨rfl, rfl, by simp [Question.onlyTells]⟩))))

section Enter

variable {σ : Type} (answer : σ → (q : Question) → q.Answer × σ) (s : σ) {scope : Scope}
  {remaining : Nat} {c : Call} {d : Dispatch} {name : String} {version : Value}

/-- A call with too few arguments ends the dispatch, and nothing else comes of it. -/
theorem enter_withCount {expected : Int} {exact : Bool} (go : Routine Callback Reply)
    (few : (c.arguments.length : Int) < expected ∨
      exact = true ∧ (c.arguments.length : Int) ≠ expected)
    (unended : d.halted = none) :
    let f : Descriptor Callback := .native name (.of (withCount expected exact go)) version
    (Program.run (S := Questions) answer s (enter (render scope remaining) scope c f d)).1 =
        (.error (shortage c expected), { d with halted := some (shortage c expected) }) ∧
      ∀ e ∈ exchanges answer s (enter (render scope remaining) scope c f) d, e.1.onlyTells := by
  intro f
  let inside : Dispatch := { d with depth := d.depth + 1 }
  let around := (answer s (.observe inside (.entering c f))).2
  have unended' : inside.halted = none := unended
  have refuses : (routine (render scope remaining) scope c []
      (withCount expected exact go)).Ensures inside _ := ensures_withCount few unended' go
  obtain ⟨given, left, telling⟩ := refuses.run answer around
  have returned := congrArg Prod.fst given
  obtain ⟨s', invoked⟩ : ∃ s', Program.run (S := Questions) answer around
      (invoke (render scope remaining) scope c f inside) =
        ((.ok (.value .null), { inside with halted := some (shortage c expected) }), s') :=
    ⟨_, run_invoke_native.trans (Prod.ext (Prod.ext returned left) rfl)⟩
  obtain ⟨gives, notes, comes, noted⟩ := run_enter_of_halted invoked rfl
  refine ⟨gives, ?_⟩
  have inner : ∀ e ∈ exchanges answer around (invoke (render scope remaining) scope c f) inside,
      e.1.onlyTells := by
    intro e mem
    rw [exchanges_invoke_native] at mem
    rw [← map_fst_exchanges] at telling
    exact telling e.1 (List.mem_map_of_mem mem)
  have noting : ∀ e ∈ notes, e.1.onlyTells := by
    intro e mem
    obtain ⟨n, eq⟩ := noted e mem
    rw [eq]
    rfl
  rw [comes]
  simp only [List.forall_mem_append, List.forall_mem_cons]
  exact ⟨⟨⟨rfl, inner⟩, rfl, noting⟩, rfl, List.forall_mem_nil _⟩

/-- Where an argument that a routine reads before it acts ends the dispatch, the call gives that end
and leaves the dispatch as it is then. -/
theorem enter_of_ending_read {r : Routine Callback Reply} (reads : r.ReadsFirst) {x : Act σ}
    {i : Int} {t : Option String} {h : Halt} :
    let f : Descriptor Callback := .native name (.of r) version
    let inside : Dispatch := { d with depth := d.depth + 1 }
    let around := (answer s (.observe inside (.entering c f))).2
    let xs := acts answer (render scope remaining) scope c r [] around inside
    x ∈ xs → x.read = some (i, t) → x.left.halted = some h →
    (∀ y ∈ xs, y.read = none → y.Reticent scope) ∧
      (Program.run (S := Questions) answer s (enter (render scope remaining) scope c f d)).1 =
        (.error h, { x.left with depth := d.depth }) ∧
      ∃ reply notes, exchanges answer s (enter (render scope remaining) scope c f) d =
          .told inside (.entering c f) :: xs.flatMap Act.exchanges ++
            .told x.left (.returned c reply) :: notes ++
              [.told { x.left with depth := d.depth } (.leaving c (.error h))] ∧
        ∀ e ∈ notes, ∃ n, e.1 = .effect scope.logged (.log n) := by
  intro f inside around xs mem read ended
  obtain ⟨reticent, left⟩ := acts_of_ending_read reads mem read ended
  have orderly : OrderlyRendering (render scope remaining) := orderly_render remaining
  have kept : (routine (render scope remaining) scope c [] r).Orderly inside fun _ _ => True :=
    orderly_routine orderly r
  have depth : x.left.depth = d.depth + 1 := by
    obtain ⟨-, same, -⟩ := Program.Ensures.run kept answer around
    rw [← left]
    exact same
  obtain ⟨reply, s', invoked⟩ : ∃ reply s', Program.run (S := Questions) answer around
      (invoke (render scope remaining) scope c f inside) = ((reply, x.left), s') :=
    ⟨_, _, run_invoke_native.trans (Prod.ext (Prod.ext rfl left) rfl)⟩
  obtain ⟨gives, notes, comes, noted⟩ := run_enter_of_halted invoked ended
  rw [depth, Nat.add_sub_cancel] at gives comes
  rw [exchanges_invoke_native, exchanges_routine] at comes
  exact ⟨reticent, gives, reply, notes, comes, noted⟩

end Enter

/-- **Built-in functions do nothing of their own where an argument ends the dispatch or arguments
are missing.** Among any surroundings, for every call of a built-in function in a dispatch that has
not ended: if the function was not given as many arguments as it expects, the dispatch ends for that
reason and is otherwise left as it was, and no command string is evaluated and nothing is asked of
the world but to take notes. And if an argument that the function reads ends the dispatch, then all
else that the function does leaves no trace: its call gives the end that was recorded for the
argument, and leaves the messages and what is remembered as the argument left them; and nothing
comes up in the call but what comes up in the reads, the question for the first table, and notes. -/
theorem restrained [Yaml.Loader] [Value.Attributes] {σ : Type}
    (answer : σ → (q : Question) → q.Answer × σ) (s : σ) {scope : Scope} {remaining : Nat}
    {c : Call} {d : Dispatch} {words name : String} {r : Routine Callback Reply} {version : Value}
    (builtIn : (words, r) ∈ routines) (unended : d.halted = none) :
    let f : Descriptor Callback := .native name (.of r) version
    let inside : Dispatch := { d with depth := d.depth + 1 }
    let around := (answer s (.observe inside (.entering c f))).2
    let xs := acts answer (render scope remaining) scope c r [] around inside
    let ran :=
      (Program.run (S := Questions) answer s (enter (render scope remaining) scope c f d)).1
    let told := exchanges answer s (enter (render scope remaining) scope c f) d
    (∀ expected exact, expectation words = some (expected, exact) →
      (c.arguments.length : Int) < expected ∨
        exact = true ∧ (c.arguments.length : Int) ≠ expected →
      ran = (.error (shortage c expected), { d with halted := some (shortage c expected) }) ∧
        ∀ e ∈ told, e.1.onlyTells) ∧
    ∀ x ∈ xs, ∀ i t h, x.read = some (i, t) → x.left.halted = some h →
      (∀ y ∈ xs, y.read = none → y.Reticent scope) ∧
      ran = (.error h, { x.left with depth := d.depth }) ∧
      ∃ reply notes, told = .told inside (.entering c f) :: xs.flatMap Act.exchanges ++
          .told x.left (.returned c reply) :: notes ++
            [.told { x.left with depth := d.depth } (.leaving c (.error h))] ∧
        ∀ e ∈ notes, ∃ n, e.1 = .effect scope.logged (.log n) := by
  intro f inside around xs ran told
  refine ⟨fun expected exact expects few => ?_, fun x mem i t h read ended => ?_⟩
  · obtain ⟨go, rfl⟩ := exists_eq_withCount builtIn expects
    exact enter_withCount answer s go few unended
  · exact enter_of_ending_read answer s (heedful builtIn).readsFirst mem read ended

/-- Without an argument `$sum` ends the dispatch, and where an argument of `$sendMessage` ends it in
silence, no message is left. -/
theorem restrained_silent :
    (Program.run (S := Questions) World.answer silent
        (enter (render ⟨0, .usual, .null, false, none, none⟩ 5)
          ⟨0, .usual, .null, false, none, none⟩ ⟨['s', 'u', 'm'], [], 0, 1⟩
          (.native "$sum" (.of sum) .null) .start)).1.1 =
        .error (shortage ⟨['s', 'u', 'm'], [], 0, 1⟩ 1) ∧
    (Program.run (S := Questions) World.answer silent
        (enter (render ⟨0, .usual, .null, false, none, none⟩ 5)
          ⟨0, .usual, .null, false, none, none⟩ ⟨['s', 'e', 'n', 'd'], ['$', 's', '[', ']'], 0, 1⟩
          (.native "$send" (.of sendMessage) .null) .start)).1 =
      (.error (.aborted "stop" none (some "$s")),
        { Dispatch.start with halted := some (.aborted "stop" none (some "$s")) }) := by
  have few := @restrained _ _ World World.answer silent ⟨0, .usual, .null, false, none, none⟩ 5
    ⟨['s', 'u', 'm'], [], 0, 1⟩ .start "sum" "$sum" sum .null (by simp [routines]) rfl
  have ended := @restrained _ _ World World.answer silent ⟨0, .usual, .null, false, none, none⟩ 5
    ⟨['s', 'e', 'n', 'd'], ['$', 's', '[', ']'], 0, 1⟩ .start "send_message" "$send" sendMessage
    .null (by simp [routines]) rfl
  have read : Script.segments ['$', 's', '[', ']'] 1 = .ok [.call ⟨['s'], [], 0, 1⟩] :=
    (Script.segmentsFrom_call rfl rfl).trans (by rw [Script.segmentsFrom_nil]; rfl)
  have ran (s : World) (same : s = silent) :
      (Program.run (S := Questions) World.answer s
        (Evaluation.argument (render ⟨0, .usual, .null, false, none, none⟩ 5)
          ⟨0, .usual, .null, false, none, none⟩ ⟨['s', 'e', 'n', 'd'], ['$', 's', '[', ']'], 0, 1⟩
          [] 0 { Dispatch.start with depth := 1 })).1 =
        ((none, []), ⟨some (.aborted "stop" none (some "$s")), [], [], 1⟩) := by
    subst same
    have first : Call.argumentAt? ⟨['s', 'e', 'n', 'd'], ['$', 's', '[', ']'], 0, 1⟩ 0 =
        some (['$', 's', '[', ']'], 1) := rfl
    unfold Evaluation.argument
    simp only [first, List.lookup_nil, render, source, read]
    rfl
  constructor
  · exact congrArg Prod.fst (few.1 1 false rfl (.inl (by decide))).1
  · obtain ⟨-, gives, -⟩ := ended.2 _ List.mem_cons_self 0 none (.aborted "stop" none (some "$s"))
      (congrArg (fun r => some (0, r.1.1)) (ran _ rfl)) (congrArg (fun r => r.2.halted) (ran _ rfl))
    refine gives.trans ?_
    exact congrArg (fun r => (_, { r.2 with depth := 0 })) (ran _ rfl)

end BuiltIn

end CommandScript
