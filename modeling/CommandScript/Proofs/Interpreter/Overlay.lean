import CommandScript.Proofs.Function.Supplanting
import CommandScript.Proofs.Interpreter.Classification
import CommandScript.Proofs.World

/-!
# Functions of a single dispatch

A command string that brings functions of its own gets a registry for them, laid over that of the
interpreter, and asks and changes no other one. Whatever its functions do to that registry, and
however the dispatch ends, all registries that were there before are as they were, at every moment
and for every dispatch to come; and a function that was brought is found before all others of its
key, until the dispatch itself stores another one in its place or takes it away.

## Main definitions

- `CommandScript.World.after` — the world after some questions
- `CommandScript.World.supplanted` — the keys whose functions questions have replaced or removed
- `CommandScript.Question.IsAt` — whether a question goes to no other registry than a given one
- `CommandScript.Interpreter.Overlaid` — what a dispatch with functions of its own does

## Main results

- `CommandScript.Program.Twins.run_eq` — what is found and done depends on what registries hold
- `CommandScript.Interpreter.handle_overlaid` — functions of a dispatch are there for it alone
-/

namespace CommandScript

/-- Whether a question goes to no other registry than a given one, and creates none. -/
def Question.IsAt (g : Handle) : Question → Prop
  | .find h _ => h = g
  | .change h _ => h = g
  | .layer .. => False
  | _ => True

namespace World

/-- The world after it has answered some questions. -/
def after : World → List Question → World
  | w, [] => w
  | w, q :: qs => (w.answer q).2.after qs

/-- The keys whose functions a question replaces in a registry or takes away from it. -/
def supplantedBy (g : Handle) (w : World) : Question → List String
  | .change h c => if h = g then w.registries.supplanted g c else []
  | _ => []

/-- The keys whose functions some questions replace in a registry or take away from it. -/
def supplanted (g : Handle) : World → List Question → List String
  | _, [] => []
  | w, q :: qs => w.supplantedBy g q ++ supplanted g (w.answer q).2 qs

variable {w u : World} {g a : Handle} {q : Question} {qs : List Question} {key : String}
  {f : Descriptor Callback} {α : Type}

theorem run_snd_eq (w : World) (p : Program Questions α) :
    (w.run p).2 = w.after (Program.asked (S := Questions) answer w p) := by
  induction p generalizing w with
  | done a => rfl
  | ask q next ih => exact ih _ _

theorem extends_after (w : World) (qs : List Question) :
    Registries.Extends w.registries (w.after qs).registries := by
  induction qs generalizing w with
  | nil => exact .refl _
  | cons q qs ih => exact (kept_answer w q).registries.trans (ih _)

/-- A question to a registry changes the functions of no other one. -/
theorem entries_answer (at_g : q.IsAt g) (ne : a ≠ g) :
    (w.answer q).2.registries.entries a = w.registries.entries a := by
  cases q with
  | change h c =>
    obtain rfl := at_g
    have steps := Registries.apply_steps w.registries h c
    show (w.registries.apply h c).registries.entries a = _
    generalize (w.registries.apply h c).registries = rs at steps
    induction steps with
    | refl => rfl
    | tail _ last ih => exact (last.entries_of_ne ne).trans ih
  | layer base ds => cases at_g
  | effect command q => cases q <;> rfl
  | _ => rfl

theorem entries_after (at_g : ∀ q ∈ qs, q.IsAt g) (ne : a ≠ g) :
    (w.after qs).registries.entries a = w.registries.entries a := by
  induction qs generalizing w with
  | nil => rfl
  | cons q qs ih =>
    obtain ⟨first, rest⟩ := List.forall_mem_cons.1 at_g
    exact (ih rest).trans (entries_answer first ne)

/-- A function that is not supplanted is still there. -/
theorem held?_after (at_g : ∀ q ∈ qs, q.IsAt g) (held : w.registries.held? g key = some f)
    (kept : key ∉ w.supplanted g qs) : (w.after qs).registries.held? g key = some f := by
  induction qs generalizing w with
  | nil => exact held
  | cons q qs ih =>
    obtain ⟨first, rest⟩ := List.forall_mem_cons.1 at_g
    rw [supplanted, List.mem_append, not_or] at kept
    obtain ⟨now, later⟩ := kept
    refine ih rest ?_ later
    cases q with
    | change h c =>
      obtain rfl := first
      rw [supplantedBy, if_pos rfl] at now
      exact Registries.held?_apply held now
    | layer base ds => cases first
    | effect command q => cases q <;> exact held
    | _ => exact held

end World

namespace Registries

/-- Registries all of which are as they were: each holds the same and lies over the same. -/
structure Preserved (rs rs' : Registries) : Prop where
  entries : ∀ h < rs.next, rs'.entries h = rs.entries h
  chain : ∀ h < rs.next, rs'.chain h = rs.chain h

theorem Preserved.find?_eq {rs rs' : Registries} {h : Handle} (preserved : rs.Preserved rs')
    (known : ∀ a ∈ rs.chain h, a < rs.next) (key : String) :
    rs'.find? h key = rs.find? h key := by
  have there : h < rs.next := known h (chain_eq rs h ▸ List.mem_cons_self)
  rw [Registries.find?_eq, Registries.find?_eq, preserved.chain h there]
  refine (findSome?_congr fun a mem => ?_).symm
  rw [held?, held?, preserved.entries a (known a (mem_of_consulted mem))]

/-- Registries that are as they were look the same from each of them. -/
theorem Preserved.counterparts {rs rs' : Registries} {h : Handle} (preserved : rs.Preserved rs')
    (grown : Extends rs rs') (known : ∀ a ∈ rs.chain h, a < rs.next) :
    Counterparts h h rs' rs ∧ ∀ e, AgreeAt h h rs' rs e := by
  rw [chain_eq] at known
  obtain ⟨here, lower⟩ := List.forall_mem_cons.1 known
  obtain ⟨still, version, below⟩ := grown h here
  have same (a : Handle) (there : a < rs.next) (key : String) :
      rs'.held? a key = rs.held? a key := by
    rw [held?, held?, preserved.entries a there]
  refine ⟨⟨⟨version, below⟩, still, here, fun a mem => ?_⟩, fun e => ⟨fun _ => ?_, fun mem => ?_⟩⟩
  · exact ⟨(grown a (lower a (below ▸ mem))).1, lower a (below ▸ mem), Iff.rfl⟩
  · exact same h here e.2
  · exact same e.1 (lower e.1 (below ▸ mem)) e.2

end Registries

namespace Program

section RunsAlike

variable {S : Signature} {σ α : Type} {answer : σ → (q : S.Question) → S.Answer q × σ} {s s' : σ}

/-- Two states against which a program runs the same: it asks the same, is told the same, and has
the same result. -/
structure RunsAlike (answer : σ → (q : S.Question) → S.Answer q × σ) (p : Program S α) (s s' : σ) :
    Prop where
  exchanges : p.exchanges answer s = p.exchanges answer s'
  result : (p.run answer s).1 = (p.run answer s').1

theorem RunsAlike.ask {q : S.Question} {next : S.Answer q → Program S α}
    (told : (answer s q).1 = (answer s' q).1)
    (rest : (next (answer s' q).1).RunsAlike answer (answer s q).2 (answer s' q).2) :
    RunsAlike answer (.ask q next) s s' := by
  obtain ⟨exchanged, result⟩ := rest
  constructor
  · show (⟨q, (answer s q).1⟩ :: Program.exchanges answer _ (next (answer s q).1)) = _
    rw [told, exchanged]
    rfl
  · show (run answer _ (next (answer s q).1)).1 = _
    rw [told, result]
    rfl

end RunsAlike

variable {α : Type} {p p' : Program Questions α} {g g' : Handle}

/-- A program that asks as another one does of a registry goes to no other registry. -/
theorem Twins.isAt (twins : p.Twins g g' p') (w : World) :
    ∀ q ∈ asked (S := Questions) World.answer w p, q.IsAt g := by
  induction twins generalizing w with
  | done a => exact List.forall_mem_nil _
  | find key _ ih => exact List.forall_mem_cons.2 ⟨rfl, ih _ _⟩
  | change c _ ih => exact List.forall_mem_cons.2 ⟨rfl, ih _ _⟩
  | @other q unplaced _ _ _ ih =>
    refine List.forall_mem_cons.2 ⟨?_, ih _ _⟩
    cases q with
    | find | change | layer => cases unplaced
    | _ => trivial

/-- A question that goes to no registry is answered whatever there is in registries. -/
theorem answer_among (w : World) (rs : Registries) {q : Question} (unplaced : q.isUnplaced = true) :
    World.answer { w with registries := rs } q =
      ((w.answer q).1, { (w.answer q).2 with registries := rs }) ∧
    (w.answer q).2.registries = w.registries := by
  cases q with
  | find | change | layer => cases unplaced
  | effect command q => cases q <;> exact ⟨rfl, rfl⟩
  | _ => exact ⟨rfl, rfl⟩

open Registries (Counterparts AgreeAt)

/-- **A program that asks one registry runs the same wherever that registry looks the same.** -/
theorem Twins.runsAlike (twins : p.Twins g g' p') {w : World} {rs : Registries}
    (pair : Counterparts g g w.registries rs) (agree : ∀ e, AgreeAt g g w.registries rs e) :
    RunsAlike (S := Questions) World.answer p { w with registries := rs } w := by
  induction twins generalizing w rs with
  | done a => exact ⟨rfl, rfl⟩
  | find key _ ih =>
    refine .ask ?_ (ih _ pair agree)
    exact (Registries.find?_congr pair.toLevel fun e _ => agree e).symm
  | change c _ ih =>
    have changed := Registries.apply_alike pair (c := c) fun e _ => agree e
    have told : (World.answer { w with registries := rs } (.change g c)).1 =
        (w.answer (.change g c)).1 := Prod.ext changed.notices.symm changed.failure.symm
    exact .ask told (ih (w := (w.answer (.change g c)).2) _ changed.pair fun e =>
      changed.agree e (agree e))
  | @other q unplaced _ _ _ ih =>
    obtain ⟨answered, same⟩ := answer_among w rs unplaced
    refine .ask (by rw [answered]) ?_
    rw [answered]
    exact ih _ (same ▸ pair) (same ▸ agree)

end Program

namespace Interpreter

open World

/-- What a dispatch with functions of its own does to registries, and what is found during it. -/
structure Overlaid (i : Interpreter) (v : Invocation) (w : World) : Prop where
  /-- At every moment of the dispatch the registries that were there before it are as they were. -/
  during : ∀ before after,
    Program.asked (S := Questions) answer w (i.handle v) = before ++ after →
      w.registries.Preserved (w.after before).registries
  /-- And so they are in the end, however it ends and even if the functions are refused: the
  interpreter has the functions that it had. -/
  left : w.registries.Preserved (w.run (i.handle v)).2.registries
  entries : (w.run (i.handle v)).2.registries.entries i.functions = w.registries.entries i.functions
  lookup : ∀ name, (w.run (i.handle v)).2.registries.lookup i.functions name =
    w.registries.lookup i.functions name
  /-- What follows without functions of its own is the same as if the registries had not been
  touched: it asks the same, every name stands for the same, and the same comes of it. -/
  later : ∀ next : Invocation, next.functions = [] →
    Program.RunsAlike (S := Questions) answer (i.handle next)
      { (w.run (i.handle v)).2 with registries := w.registries } (w.run (i.handle v)).2
  /-- Where one of the functions is refused, nothing else happens. -/
  refused : ∀ e, (w.registries.layer i.functions v.functions).1 = .error e →
    w.run (i.handle v) = (.error e, w)
  /-- Otherwise the dispatch asks and changes the registry that was made for it and no other one. A
  function that it brings, the last one of its key, is found there as long as the dispatch itself
  has not supplanted it. -/
  found : ∀ g, (w.registries.layer i.functions v.functions).1 = .ok g →
    ∃ qs, Program.asked (S := Questions) answer w (i.handle v) =
        .layer i.functions v.functions :: qs ∧
      (∀ q ∈ qs, q.IsAt g) ∧
      ∀ earlier d later f, v.functions = earlier ++ d :: later → d.toDescriptor = .ok f →
        (∀ d' ∈ later, Registries.draftKey? d' ≠ some f.key) →
        ∀ before after, qs = before ++ after →
          f.key ∉ (w.answer (.layer i.functions v.functions)).2.supplanted g before →
          (w.after (.layer i.functions v.functions :: before)).registries.find? g f.key = some f

variable {i : Interpreter} {v : Invocation} {w : World} {g : Handle}

theorem isAt_of_split {before after : List Question}
    (split : Program.asked (S := Questions) answer w (i.run g v) = before ++ after) :
    ∀ q ∈ before, q.IsAt g := by
  intro q mem
  refine (twins_run i v g g).isAt w q ?_
  rw [split]
  exact List.mem_append_left _ mem

theorem handle_of_brought (brought : v.functions ≠ []) :
    i.handle v = Question.ask (.layer i.functions v.functions) >>= fun r =>
      match r with
      | .error e => pure (.error e)
      | .ok g => i.run g v :=
  if_neg (mt List.isEmpty_iff.1 brought)

theorem handle_of_none (none : v.functions = []) : i.handle v = i.run i.functions v :=
  if_pos (List.isEmpty_iff.2 none)

theorem preserved_layer (rs : Registries) (base : Handle) (ds : List (Draft Callback)) :
    rs.Preserved (rs.layer base ds).2 where
  entries := fun _ there => Registries.entries_after (.layer base ds) there id
  chain := fun _ there => (Registries.extends_layer rs base ds).chain_eq there

/-- A dispatch whose functions are refused asks nothing else and leaves the world as it is. -/
theorem handle_refused (brought : v.functions ≠ []) {e : Failure}
    (refused : (w.registries.layer i.functions v.functions).1 = .error e) :
    Program.asked (S := Questions) answer w (i.handle v) = [.layer i.functions v.functions] ∧
      w.answer (.layer i.functions v.functions) = (.error e, w) ∧
      w.run (i.handle v) = (.error e, w) := by
  have answered : w.answer (.layer i.functions v.functions) = (.error e, w) := by
    obtain ⟨e', -, made⟩ | ⟨-, made⟩ := Registries.layer_cases w.registries i.functions v.functions
    · rw [made] at refused
      obtain rfl := Except.error.inj refused
      rw [answer, made]
    · rw [made] at refused
      cases refused
  refine ⟨?_, answered, ?_⟩
  · rw [handle_of_brought brought, Question.asked_ask_bind, answered]
    rfl
  · rw [handle_of_brought brought, World.run, Question.run_ask_bind, answered]
    rfl

theorem handle_accepted (brought : v.functions ≠ [])
    (made : (w.registries.layer i.functions v.functions).1 = .ok g) :
    Program.asked (S := Questions) answer w (i.handle v) = .layer i.functions v.functions ::
      Program.asked (S := Questions) answer (w.answer (.layer i.functions v.functions)).2
        (i.run g v) := by
  have answered : (w.answer (.layer i.functions v.functions)).1 = .ok g := made
  rw [handle_of_brought brought, Question.asked_ask_bind, answered]
  rfl

/-- At no moment of a dispatch is any registry that was there before it other than it was. -/
theorem preserved_after (brought : v.functions ≠ []) {before after : List Question}
    (split : Program.asked (S := Questions) answer w (i.handle v) = before ++ after) :
    w.registries.Preserved (w.after before).registries where
  chain := fun h there => (extends_after w before).chain_eq there
  entries := by
    intro h there
    cases before with
    | nil => rfl
    | cons q before =>
      -- The first question lays the registry, and all others go to that one.
      have layered := (preserved_layer w.registries i.functions v.functions).entries h there
      cases made : (w.registries.layer i.functions v.functions).1 with
      | error e =>
        obtain ⟨asked, answered, -⟩ := handle_refused brought made
        obtain ⟨rfl, none⟩ := List.cons.inj (asked.symm.trans split)
        obtain ⟨rfl, -⟩ := List.append_eq_nil_iff.1 none.symm
        rw [World.after, answered]
        rfl
      | ok g =>
        obtain ⟨rfl, rest⟩ := List.cons.inj ((handle_accepted brought made).symm.trans split)
        have new : h ≠ g := by
          obtain ⟨e, -, refused⟩ | ⟨-, layered⟩ :=
            Registries.layer_cases w.registries i.functions v.functions
          · rw [refused] at made
            cases made
          · rw [layered] at made
            exact Except.ok.inj made ▸ Nat.ne_of_lt there
        exact (entries_after (isAt_of_split rest) new).trans layered

/-- **Functions of a dispatch are there for it alone.** A command string that brings functions is
handled among them and those of the interpreter. Whatever its callbacks do to the functions that
they see, whether that is refused or not, and however the dispatch ends, every registry that was
there before it is as it was, at every moment and afterwards, so that what follows goes as if
nothing had been done to them. During the dispatch each function that it brings is found, and not
one of the same key below, until the dispatch itself replaces it or takes it away. -/
theorem handle_overlaid (i : Interpreter) (v : Invocation) (w : World) (brought : v.functions ≠ [])
    (known : ∀ a ∈ w.registries.chain i.functions, a < w.registries.next) : i.Overlaid v w := by
  have during (before after : List Question)
      (split : Program.asked (S := Questions) answer w (i.handle v) = before ++ after) :
      w.registries.Preserved (w.after before).registries :=
    preserved_after brought split
  have left : w.registries.Preserved (w.run (i.handle v)).2.registries := by
    rw [run_snd_eq]
    exact during _ [] (List.append_nil _).symm
  have found (key : String) := left.find?_eq known key
  have there : i.functions < w.registries.next :=
    known _ (Registries.chain_eq w.registries i.functions ▸ List.mem_cons_self)
  refine ⟨during, left, left.entries _ there, fun name => ?_, fun next none => ?_,
    fun e refused => (handle_refused brought refused).2.2, fun g made => ?_⟩
  · rw [Registries.lookup, Registries.lookup, funext found]
  · rw [handle_of_none none]
    have grown : Registries.Extends w.registries (w.run (i.handle v)).2.registries := by
      rw [run_snd_eq]
      exact extends_after w _
    obtain ⟨pair, agree⟩ := left.counterparts grown known
    exact (twins_run i next i.functions i.functions).runsAlike pair agree
  · refine ⟨_, handle_accepted brought made, (twins_run i v g g).isAt _, ?_⟩
    intro earlier d later f listed described last before after split kept
    have held : (w.registries.layer i.functions v.functions).2.held? g f.key = some f := by
      rw [listed] at made ⊢
      exact Registries.held?_layer made described last
    have stays := held?_after (w := (w.answer (.layer i.functions v.functions)).2)
      (isAt_of_split split) held kept
    exact Registries.find?_of_held? stays

/-- A call of `$s` with two functions of that key, the second of which counts. -/
def shadowing : Invocation :=
  { plain ['$', 's', '[', ']'] with functions := [Registries.idle "$s", Registries.idle "S"] }

/-- A function of the interpreter that is shadowed, and there again afterwards. -/
theorem handle_overlaid_shadowed :
    shadowing.functions ≠ [] ∧
    (∀ a ∈ stopping.registries.chain bare.functions, a < stopping.registries.next) ∧
    bare.Overlaid shadowing stopping ∧
    (stopping.registries.layer bare.functions shadowing.functions).1 = .ok 1 ∧
    ((stopping.answer (.layer 0 shadowing.functions)).2.registries.find? 1 "s").map
      Descriptor.name = some "S" ∧
    (((stopping.run (bare.handle shadowing)).2.registries.entries 0).get? "s").map
      Descriptor.name = some "$s" := by
  have brought : shadowing.functions ≠ [] := by decide
  have known : ∀ a ∈ stopping.registries.chain bare.functions, a < stopping.registries.next := by
    decide
  have overlaid : bare.Overlaid shadowing stopping :=
    handle_overlaid bare shadowing stopping brought known
  refine ⟨brought, known, overlaid, rfl, rfl, ?_⟩
  have same : (stopping.run (bare.handle shadowing)).2.registries.entries 0 =
    stopping.registries.entries 0 := overlaid.entries
  rw [same]
  rfl

end Interpreter

end CommandScript
