import CommandScript.Proofs.Function.Counterparts
import CommandScript.Proofs.Interpreter.Twins
import CommandScript.Proofs.Store
import CommandScript.World

/-!
# What dispatches share of a world

Dispatches share the entries of registries and the parts of the store of variables; everything else
that they are told comes from the files and from what a world was laid down with. Two worlds in
which dispatches ask counterparts answer the same question alike, if they agree on the parts that
it reads and the answer is not drawn, sent for or left to the host.

## Main definitions

- `CommandScript.World.Part`, `CommandScript.World.reads` — what dispatches share, and which of it a
  question reads
- `CommandScript.World.Paired` — worlds in which two registries are counterparts
- `CommandScript.Question.isLocal` — whether an answer is neither drawn nor comes from outside

## Main results

- `CommandScript.World.kept_answer` — what no question changes
- `CommandScript.World.answer_find`, `answer_change`, `answer_layer`, `answer_other` — questions of
  dispatches that ask counterparts
-/

namespace CommandScript

/-- Whether the answer to a question depends on the registries, the store and the files alone: it
is not drawn, and comes neither from a server nor from the host. -/
def Question.isLocal : Question → Bool
  | .effect _ (.draw ..) => false
  | .effect _ (.send _) => false
  | .effect _ (.host _) => false
  | _ => true

namespace World

/-- What dispatches share of a world: the entries of its registries and the parts of its store. -/
inductive Part where
  | entry (e : Registries.Entry)
  | stored (p : Store.Part)

/-- Whether a part is the same in two worlds. -/
def Part.Same (w w' : World) : Part → Prop
  | .entry e => w.registries.held? e.1 e.2 = w'.registries.held? e.1 e.2
  | .stored p => p.Agrees w.store w'.store

/-- Whether a part is the same in two worlds, in each of which it is seen from a registry of its
own. -/
def Part.Agrees (h h' : Handle) (w w' : World) : Part → Prop
  | .entry e => Registries.AgreeAt h h' w.registries w'.registries e
  | .stored p => p.Agrees w.store w'.store

/-- The parts of a world that a question reads. -/
def reads (w : World) : Question → List Part
  | .find h key => (w.registries.findReads h key).map .entry
  | .change h c => (w.registries.changeReads h c).map .entry
  | .effect _ (.store q) => (w.store.reads q).map .stored
  | _ => []

/-- A world in which every registry is still there, the tables of the store are the same, and so
are the files. -/
structure Kept (w w' : World) : Prop where
  registries : Registries.Extends w.registries w'.registries
  store : Store.SameTables w.store w'.store
  files : w.files = w'.files

/-- Worlds in which two registries are counterparts, with the same tables and files. -/
structure Paired (h h' : Handle) (w w' : World) : Prop where
  registries : Registries.Counterparts h h' w.registries w'.registries
  store : Store.SameTables w.store w'.store
  files : w.files = w'.files

variable {h h' : Handle} {w w' v v' : World} {part : Part}

/-- No question takes a registry away, declares a table or writes a file. -/
theorem kept_answer (w : World) (q : Question) : Kept w (w.answer q).2 := by
  cases q with
  | change h c => exact ⟨Registries.extends_apply w.registries h c, .refl _, rfl⟩
  | layer base ds => exact ⟨Registries.extends_layer w.registries base ds, .refl _, rfl⟩
  | effect command q =>
    cases q with
    | store q => exact ⟨.refl _, Store.sameTables_perform w.store q, rfl⟩
    | _ => exact ⟨.refl _, .refl _, rfl⟩
  | _ => exact ⟨.refl _, .refl _, rfl⟩

theorem Paired.kept (pair : Paired h h' w w') (kept : Kept w v) (kept' : Kept w' v') :
    Paired h h' v v' where
  registries := pair.registries.extend kept.registries kept'.registries
  store := (kept.store.symm.trans pair.store).trans kept'.store
  files := kept.files.symm.trans (pair.files.trans kept'.files)

/-- A part on which two worlds agree still agrees after it has stayed the same in one of them. -/
theorem Part.Agrees.same (agrees : part.Agrees h h' w w') (pair : Paired h h' w w')
    (kept : Kept w v) (same : part.Same w v) : part.Agrees h h' v w' := by
  cases part with
  | entry e =>
    obtain ⟨own, lower⟩ := agrees
    refine ⟨fun here => ?_, fun there => ?_⟩
    · subst here
      exact Eq.trans (Eq.symm same) (own rfl)
    · rw [(kept.registries h pair.registries.here).2.2] at there
      exact Eq.trans (Eq.symm same) (lower there)
  | stored p => exact (Store.Part.Agrees.symm same).trans agrees

theorem answer_find (pair : Paired h h' w w') {key : String}
    (agree : ∀ p ∈ w.reads (.find h key), p.Agrees h h' w w') :
    (w.answer (.find h key)).1 = (w'.answer (.find h' key)).1 :=
  Registries.find?_congr pair.registries.toLevel fun _ mem => agree _ (List.mem_map_of_mem mem)

theorem answer_change (pair : Paired h h' w w') {c : Change Callback}
    (agree : ∀ p ∈ w.reads (.change h c), p.Agrees h h' w w') :
    (w.answer (.change h c)).1 = (w'.answer (.change h' c)).1 ∧
      ∀ p, Part.Agrees h h' w w' p →
        p.Agrees h h' (w.answer (.change h c)).2 (w'.answer (.change h' c)).2 := by
  have changed := Registries.apply_alike pair.registries (c := c) fun e mem =>
    agree (.entry e) (List.mem_map_of_mem mem)
  refine ⟨Prod.ext changed.notices changed.failure, fun p agrees => ?_⟩
  cases p with
  | entry e => exact changed.agree e agrees
  | stored p => exact agrees

/-- A registry is created over the same one in both worlds. -/
theorem answer_layer {base : Handle} (pair : Paired base base w w') (ds : List (Draft Callback)) :
    (∃ e, (w.answer (.layer base ds)).1 = .error e ∧ (w'.answer (.layer base ds)).1 = .error e ∧
      (w.answer (.layer base ds)).2 = w ∧ (w'.answer (.layer base ds)).2 = w') ∨
    ∃ h h', (w.answer (.layer base ds)).1 = .ok h ∧ (w'.answer (.layer base ds)).1 = .ok h' ∧
      Paired h h' (w.answer (.layer base ds)).2 (w'.answer (.layer base ds)).2 ∧
      ∀ p, Part.Agrees base base w w' p →
        p.Agrees h h' (w.answer (.layer base ds)).2 (w'.answer (.layer base ds)).2 := by
  obtain ⟨e, refused, refused'⟩ | ⟨grown, grown', layered, layered', new, agree⟩ :=
    Registries.layer_alike pair.registries ds
  · left
    refine ⟨e, congrArg Prod.fst refused, congrArg Prod.fst refused', ?_, ?_⟩
    · simp only [answer, refused]
    · simp only [answer, refused']
  · right
    refine ⟨_, _, congrArg Prod.fst layered, congrArg Prod.fst layered', ?_, fun p agrees => ?_⟩
    · simp only [answer, layered, layered']
      exact ⟨new, pair.store, pair.files⟩
    · simp only [answer, layered, layered']
      cases p with
      | entry e => exact agree e agrees
      | stored p => exact agrees

theorem answer_other (pair : Paired h h' w w') {q : Question} (unplaced : q.isUnplaced = true)
    (kind : q.isLocal = true) (agree : ∀ p ∈ w.reads q, p.Agrees h h' w w') :
    (w.answer q).1 = (w'.answer q).1 ∧
      ∀ p, Part.Agrees h h' w w' p → p.Agrees h h' (w.answer q).2 (w'.answer q).2 := by
  have unchanged {p : Part} {w₁ w₁' : World} (registries : w₁.registries = w.registries)
      (store : w₁.store = w.store) (registries' : w₁'.registries = w'.registries)
      (store' : w₁'.store = w'.store) (agrees : p.Agrees h h' w w') : p.Agrees h h' w₁ w₁' := by
    cases p with
    | entry e =>
      show Registries.AgreeAt _ _ _ _ _
      rw [registries, registries']
      exact agrees
    | stored p =>
      show p.Agrees _ _
      rw [store, store']
      exact agrees
  cases q with
  | effect command q =>
    cases q with
    | store q =>
      have agree (p : Store.Part) (mem : p ∈ w.store.reads q) : p.Agrees w.store w'.store :=
        agree (.stored p) (List.mem_map_of_mem mem)
      refine ⟨Store.perform_congr pair.store agree, fun p agrees => ?_⟩
      cases p with
      | entry e => exact agrees
      | stored p => exact Store.agrees_perform pair.store agree agrees
    | openFile path =>
      exact ⟨congrArg (Files.opened · path) pair.files, fun p agrees => agrees⟩
    | draw low high => cases kind
    | send r => cases kind
    | host v => cases kind
    | sleep seconds => exact ⟨rfl, fun p => unchanged rfl rfl rfl rfl⟩
    | log note => exact ⟨rfl, fun p => unchanged rfl rfl rfl rfl⟩
    | pause => exact ⟨rfl, fun p => unchanged rfl rfl rfl rfl⟩
  | notify listener diagnostic => exact ⟨rfl, fun p => unchanged rfl rfl rfl rfl⟩
  | observe d a => exact ⟨rfl, fun p => unchanged rfl rfl rfl rfl⟩
  | find g key => cases unplaced
  | change g c => cases unplaced
  | layer base ds => cases unplaced

end World

end CommandScript
