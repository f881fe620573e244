import CommandScript.Dispatch.Basic

/-!
# What every run of a program does

A condition on the questions that come up in a run and on its result, whatever the answers are. The
same for computations of a dispatch, where the dispatch that is left belongs to the result.

## Main definitions

- `CommandScript.Program.Ensures` — what every run of a program does
- `CommandScript.Program.exchanges` — the questions of a run with their answers
- `CommandScript.Evaluation.Ensures` — what every run of a computation does from a dispatch on

## Main results

- `CommandScript.Program.ensures_bind`, `CommandScript.Evaluation.ensures_bind` — a composition
  does what its parts do in turn
- `CommandScript.Program.Ensures.run` — what is ensured holds of a run among any surroundings
-/

namespace CommandScript

namespace Program

variable {S : Signature} {α β : Type}

instance : LawfulMonad (Program S) := LawfulMonad.mk' _ bind_pure pure_bind bind_assoc

/-- Whatever the answers are, the questions that come up and the result meet a condition. -/
def Ensures : Program S α → (List S.Question → α → Prop) → Prop
  | .done a, post => post [] a
  | .ask q next, post => ∀ r, (next r).Ensures fun qs => post (q :: qs)

theorem Ensures.imp {p : Program S α} {post post' : List S.Question → α → Prop}
    (h : p.Ensures post) (weaker : ∀ qs a, post qs a → post' qs a) : p.Ensures post' := by
  induction p generalizing post post' with
  | done a => exact weaker [] a h
  | ask q next ih => exact fun r => ih r (h r) fun qs a => weaker (q :: qs) a

theorem Ensures.of_forall {p : Program S α} {post : List S.Question → α → Prop}
    (h : ∀ qs a, post qs a) : p.Ensures post := by
  induction p generalizing post with
  | done a => exact h [] a
  | ask q next ih => exact fun r => ih r fun qs => h (q :: qs)

theorem Ensures.and {p : Program S α} {post post' : List S.Question → α → Prop}
    (h : p.Ensures post) (h' : p.Ensures post') : p.Ensures fun qs a => post qs a ∧ post' qs a := by
  induction p generalizing post post' with
  | done a => exact ⟨h, h'⟩
  | ask q next ih => exact fun r => ih r (h r) (h' r)

/-- A composition does what its first part does and then what its second part does. -/
theorem ensures_bind {p : Program S α} {f : α → Program S β}
    {post : List S.Question → β → Prop} :
    (p >>= f).Ensures post ↔ p.Ensures fun qs a => (f a).Ensures fun qs' => post (qs ++ qs') := by
  induction p generalizing post with
  | done a => rfl
  | ask q next ih => exact forall_congr' fun r => ih r

/-- What follows a program matters only after results that it may have. -/
theorem Ensures.bind_congr {p : Program S α} {post : α → Prop} {f g : α → Program S β}
    (known : p.Ensures fun _ => post) (same : ∀ a, post a → f a = g a) : p >>= f = p >>= g := by
  induction p with
  | done a => exact same a known
  | ask q next ih => exact congrArg (Program.ask q) (funext fun r => ih r (known r))

/-- The questions that come up when a program is run, in order and with their answers. -/
def exchanges {σ : Type} (answer : σ → (q : S.Question) → S.Answer q × σ) :
    σ → Program S α → List ((q : S.Question) × S.Answer q)
  | _, .done _ => []
  | s, .ask q next =>
    let (r, s) := answer s q
    ⟨q, r⟩ :: exchanges answer s (next r)

section Exchanges

variable {σ : Type} (answer : σ → (q : S.Question) → S.Answer q × σ) (s : σ)

theorem map_fst_exchanges (p : Program S α) :
    (p.exchanges answer s).map (·.1) = p.asked answer s := by
  induction p generalizing s with
  | done a => rfl
  | ask q next ih => exact congrArg (q :: ·) (ih _ _)

/-- The exchanges of a composition are those of its first part, and then those of its second. -/
theorem exchanges_bind (p : Program S α) (f : α → Program S β) :
    exchanges answer s (p >>= f) =
      exchanges answer s p ++ exchanges answer (run answer s p).2 (f (run answer s p).1) := by
  induction p generalizing s with
  | done a => rfl
  | ask q next ih => exact congrArg (⟨q, (answer s q).1⟩ :: ·) (ih _ _)

end Exchanges

/-- An answer in a run is what the state answered at that moment. -/
theorem exists_answer_of_mem_exchanges {p : Program S α} {σ : Type}
    {answer : σ → (q : S.Question) → S.Answer q × σ} {s : σ}
    {x : (q : S.Question) × S.Answer q} (mem : x ∈ p.exchanges answer s) :
    ∃ s', x.2 = (answer s' x.1).1 := by
  induction p generalizing s with
  | done a => cases mem
  | ask q next ih =>
    obtain rfl | later := List.mem_cons.1 mem
    · exact ⟨s, rfl⟩
    · exact ih _ later

/-- What is ensured holds of a run in which a state answers. -/
theorem Ensures.run {p : Program S α} {post : List S.Question → α → Prop} (h : p.Ensures post)
    {σ : Type} (answer : σ → (q : S.Question) → S.Answer q × σ) (s : σ) :
    post (p.asked answer s) (p.run answer s).1 := by
  induction p generalizing s post with
  | done a => exact h
  | ask q next ih => exact ih _ (h _) _

end Program

namespace Evaluation

variable {α β : Type} {d : Dispatch}

/-- Whatever the surroundings of a dispatch answer, the questions that come up, the result and the
dispatch that is left meet a condition. -/
def Ensures (e : Evaluation α) (d : Dispatch) (post : List Question → α → Dispatch → Prop) : Prop :=
  Program.Ensures (S := Questions) (e d) fun qs r => post qs r.1 r.2

theorem Ensures.imp {e : Evaluation α} {post post' : List Question → α → Dispatch → Prop}
    (h : e.Ensures d post) (weaker : ∀ qs a d', post qs a d' → post' qs a d') :
    e.Ensures d post' :=
  Program.Ensures.imp h fun qs r => weaker qs r.1 r.2

theorem Ensures.and {e : Evaluation α} {post post' : List Question → α → Dispatch → Prop}
    (h : e.Ensures d post) (h' : e.Ensures d post') :
    e.Ensures d fun qs a d' => post qs a d' ∧ post' qs a d' :=
  Program.Ensures.and h h'

/-- Computations that are the same in a dispatch do the same from it on. -/
theorem Ensures.congr {e e' : Evaluation α} {post : List Question → α → Dispatch → Prop}
    (h : e'.Ensures d post) (same : e d = e' d) : e.Ensures d post := by
  unfold Ensures
  rw [same]
  exact h

/-- A composition does what its first part does and then what its second part does. -/
theorem ensures_bind {e : Evaluation α} {f : α → Evaluation β}
    {post : List Question → β → Dispatch → Prop} :
    (e >>= f).Ensures d post ↔
      e.Ensures d fun qs a d' => (f a).Ensures d' fun qs' => post (qs ++ qs') :=
  Program.ensures_bind

/-- A composition runs its first part and then, from what this leaves, its second. -/
theorem run_bind {σ : Type} (answer : σ → (q : Question) → q.Answer × σ) (s : σ)
    (e : Evaluation α) (f : α → Evaluation β) (d : Dispatch) :
    Program.run (S := Questions) answer s ((e >>= f) d) =
      Program.run (S := Questions) answer (Program.run (S := Questions) answer s (e d)).2
        (f (Program.run (S := Questions) answer s (e d)).1.1
          (Program.run (S := Questions) answer s (e d)).1.2) :=
  Program.run_bind answer s (e d) fun r => f r.1 r.2

/-- What is ensured holds of the result and of the dispatch that a run leaves. -/
theorem Ensures.of_run {e : Evaluation α} {post : List Question → α → Dispatch → Prop}
    (h : e.Ensures d post) {σ : Type} {answer : σ → (q : Question) → q.Answer × σ} {s s' : σ}
    {a : α} {d' : Dispatch}
    (run : Program.run (S := Questions) answer s (e d) = ((a, d'), s')) : ∃ qs, post qs a d' := by
  have ensured := Program.Ensures.run h answer s
  rw [run] at ensured
  exact ⟨_, ensured⟩

/-- Computations that are the same in a dispatch are the same with the same after them. -/
theorem bind_congr_left {e e' : Evaluation α} (same : e d = e' d) (f : α → Evaluation β) :
    (e >>= f) d = (e' >>= f) d :=
  congrArg (fun p : Program Questions (α × Dispatch) => p >>= fun r => f r.1 r.2) same

theorem get_bind (f : Dispatch → Evaluation β) : (get >>= f) d = f d d := rfl

@[simp] theorem ensures_pure {a : α} {post : List Question → α → Dispatch → Prop} :
    (pure a : Evaluation α).Ensures d post ↔ post [] a d := Iff.rfl

@[simp] theorem ensures_get {post : List Question → Dispatch → Dispatch → Prop} :
    (get : Evaluation Dispatch).Ensures d post ↔ post [] d d := Iff.rfl

@[simp] theorem ensures_modify {f : Dispatch → Dispatch}
    {post : List Question → PUnit → Dispatch → Prop} :
    (modify f : Evaluation PUnit).Ensures d post ↔ post [] ⟨⟩ (f d) := Iff.rfl

@[simp] theorem ensures_ask {q : Question} {post : List Question → q.Answer → Dispatch → Prop} :
    (ask q).Ensures d post ↔ ∀ r, post [q] r d := Iff.rfl

@[simp] theorem ensures_observe {a : Activity} {post : List Question → Unit → Dispatch → Prop} :
    (observe a).Ensures d post ↔ post [.observe d a] () d :=
  ⟨fun h => h (), fun h _ => h⟩

@[simp] theorem ensures_note {scope : Scope} {level : Log.Level} {source : Log.Source}
    {message : String} {post : List Question → Unit → Dispatch → Prop} :
    (note scope level source message).Ensures d post ↔
      post [.effect scope.logged (.log ⟨level, source, message⟩)] () d :=
  ⟨fun h => h (), fun h _ => h⟩

end Evaluation

end CommandScript
