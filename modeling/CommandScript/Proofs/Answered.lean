import CommandScript.Proofs.Dispatch.Frames

/-!
# What every run does with its answers

A condition on the questions of a run together with their answers, and on its result, as long as the
answers are such as are expected. Which replies servers gave is such a condition.

## Main definitions

- `CommandScript.Program.Meets` — what every run of a program does, its answers being as expected
- `CommandScript.Http.replies`, `CommandScript.replies` — the replies of servers in a run
- `CommandScript.Evaluation.Receives` — what a computation makes of the replies that it receives
- `CommandScript.Evaluation.Yields` — computations that give a result and do nothing else

## Main results

- `CommandScript.Program.meets_bind` — a composition does what its parts do in turn
- `CommandScript.Program.Meets.run` — what is met holds of a run among any surroundings
- `CommandScript.Evaluation.Receives.bind` — the replies of a composition are those of its parts
-/

namespace CommandScript

namespace Program

variable {S : Signature} {α β : Type} {admits : (q : S.Question) → S.Answer q → Prop}

/-- Whatever the answers are among those that are admitted, the questions that come up with their
answers, and the result, meet a condition. -/
def Meets (admits : (q : S.Question) → S.Answer q → Prop) :
    Program S α → (List ((q : S.Question) × S.Answer q) → α → Prop) → Prop
  | .done a, post => post [] a
  | .ask q next, post => ∀ r, admits q r → (next r).Meets admits fun xs => post (⟨q, r⟩ :: xs)

theorem Meets.imp {p : Program S α} {post post' : List ((q : S.Question) × S.Answer q) → α → Prop}
    (h : p.Meets admits post) (weaker : ∀ xs a, post xs a → post' xs a) :
    p.Meets admits post' := by
  induction p generalizing post post' with
  | done a => exact weaker [] a h
  | ask q next ih =>
    exact fun r admitted => ih r (h r admitted) fun xs a => weaker (⟨q, r⟩ :: xs) a

theorem Meets.and {p : Program S α} {post post' : List ((q : S.Question) × S.Answer q) → α → Prop}
    (h : p.Meets admits post) (h' : p.Meets admits post') :
    p.Meets admits fun xs a => post xs a ∧ post' xs a := by
  induction p generalizing post post' with
  | done a => exact ⟨h, h'⟩
  | ask q next ih => exact fun r admitted => ih r (h r admitted) (h' r admitted)

/-- A composition does what its first part does and then what its second part does. -/
theorem meets_bind {p : Program S α} {f : α → Program S β}
    {post : List ((q : S.Question) × S.Answer q) → β → Prop} :
    (p >>= f).Meets admits post ↔
      p.Meets admits fun xs a => (f a).Meets admits fun ys => post (xs ++ ys) := by
  induction p generalizing post with
  | done a => rfl
  | ask q next ih => exact forall_congr' fun r => imp_congr_right fun _ => ih r

/-- What is made of the result at the end asks nothing more. -/
theorem Meets.map {p : Program S α} {f : α → β}
    {post : List ((q : S.Question) × S.Answer q) → β → Prop}
    (h : p.Meets admits fun xs a => post xs (f a)) :
    (p >>= fun a => pure (f a)).Meets admits post :=
  meets_bind.2 (h.imp fun xs a holds => (congrArg (post · (f a)) (List.append_nil xs)).mpr holds)

theorem Meets.of_ensures {p : Program S α} {post : List S.Question → α → Prop}
    (h : p.Ensures post) : p.Meets admits fun xs => post (xs.map (·.1)) := by
  induction p generalizing post with
  | done a => exact h
  | ask q next ih => exact fun r _ => ih r (h r)

/-- What is met holds of a run in which a state answers, as far as its answers are admitted. -/
theorem Meets.run {p : Program S α} {post : List ((q : S.Question) × S.Answer q) → α → Prop}
    (h : p.Meets admits post) {σ : Type} (answer : σ → (q : S.Question) → S.Answer q × σ) (s : σ)
    (admitted : ∀ x ∈ p.exchanges answer s, admits x.1 x.2) :
    post (p.exchanges answer s) (p.run answer s).1 := by
  induction p generalizing s post with
  | done a => exact h
  | ask q next ih =>
    obtain ⟨first, rest⟩ := List.forall_mem_cons.1 admitted
    exact ih _ (h _ first) _ rest

end Program

/-! ### Replies of servers -/

/-- The reply of a server to a question to the world. -/
def Http.reply? : (q : Effect) × q.Answer → Option Reply
  | ⟨.send _, r⟩ => some r
  | _ => none

/-- The replies of servers in a run, in order. -/
def Http.replies (xs : List ((q : Effect) × q.Answer)) : List Reply := xs.filterMap reply?

theorem Http.replies_append (xs ys : List ((q : Effect) × q.Answer)) :
    replies (xs ++ ys) = replies xs ++ replies ys := List.filterMap_append

/-- The reply of a server to a question of a dispatch. -/
def Exchange.reply? : Exchange → Option Http.Reply
  | ⟨.effect _ q, r⟩ => Http.reply? ⟨q, r⟩
  | _ => none

/-- The replies of servers in a run of a dispatch, in order. -/
def replies (xs : List Exchange) : List Http.Reply := xs.filterMap Exchange.reply?

theorem replies_append (xs ys : List Exchange) : replies (xs ++ ys) = replies xs ++ replies ys :=
  List.filterMap_append

/-- Whether a question is a request to a server. -/
def Question.isRequest : Question → Bool
  | .effect _ (.send _) => true
  | _ => false

theorem replies_eq_nil {xs : List Exchange} (none : ∀ q ∈ xs.map (·.1), q.isRequest = false) :
    replies xs = [] := by
  refine List.filterMap_eq_nil_iff.2 fun x mem => ?_
  obtain ⟨q, r⟩ := x
  have other : q.isRequest = false := none q (List.mem_map_of_mem mem)
  cases q with
  | effect command q =>
    cases q with
    | send r => cases other
    | _ => rfl
  | _ => rfl

namespace Evaluation

variable {α β : Type} {admits : (q : Question) → q.Answer → Prop} {d : Dispatch} {e : Evaluation α}
  {f : α → Evaluation β}

/-- Whatever the surroundings of a dispatch answer among what is admitted, the replies of servers,
the result and the dispatch that is left meet a condition. -/
def Receives (admits : (q : Question) → q.Answer → Prop) (e : Evaluation α) (d : Dispatch)
    (post : List Http.Reply → α → Dispatch → Prop) : Prop :=
  Program.Meets (S := Questions) admits (e d) fun xs r => post (replies xs) r.1 r.2

theorem Receives.imp {post post' : List Http.Reply → α → Dispatch → Prop}
    (h : e.Receives admits d post) (weaker : ∀ rs a d', post rs a d' → post' rs a d') :
    e.Receives admits d post' :=
  Program.Meets.imp h fun xs r => weaker (replies xs) r.1 r.2

/-- The replies of a composition are those of its first part, and then those of its second. -/
theorem Receives.bind {P : List Http.Reply → α → Dispatch → Prop}
    {post : List Http.Reply → β → Dispatch → Prop} (first : e.Receives admits d P)
    (second : ∀ rs a d', P rs a d' → (f a).Receives admits d' fun rs' => post (rs ++ rs')) :
    (e >>= f).Receives admits d post := by
  refine Program.meets_bind.2 (Program.Meets.imp first fun xs r holds => ?_)
  refine Program.Meets.imp (second _ _ _ holds) fun ys r' holds' => ?_
  exact (congrArg (post · r'.1 r'.2) (replies_append xs ys)).mpr holds'

/-- A part that makes no requests adds no replies. -/
theorem Receives.bind_of_ensures {P : α → Dispatch → Prop}
    {post : List Http.Reply → β → Dispatch → Prop}
    (first : e.Ensures d fun qs a d' => (∀ q ∈ qs, q.isRequest = false) ∧ P a d')
    (second : ∀ a d', P a d' → (f a).Receives admits d' post) :
    (e >>= f).Receives admits d post := by
  have silent : e.Receives admits d fun rs a d' => rs = [] ∧ P a d' :=
    Program.Meets.imp (Program.Meets.of_ensures first) fun xs r holds =>
      ⟨replies_eq_nil holds.1, holds.2⟩
  refine silent.bind fun rs a d' holds => ?_
  obtain ⟨rfl, holds⟩ := holds
  exact second a d' holds

theorem receives_pure {post : List Http.Reply → α → Dispatch → Prop} {a : α} (holds : post [] a d) :
    (pure a : Evaluation α).Receives admits d post := holds

theorem receives_of_ensures {post : List Http.Reply → α → Dispatch → Prop}
    (h : e.Ensures d fun qs a d' => (∀ q ∈ qs, q.isRequest = false) ∧ post [] a d') :
    e.Receives admits d post :=
  Program.Meets.imp (Program.Meets.of_ensures h) fun xs r holds => by
    rw [replies_eq_nil holds.1]
    exact holds.2

theorem receives_ask_bind {q : Question} {f : q.Answer → Evaluation β}
    {post : List Http.Reply → β → Dispatch → Prop} (other : q.isRequest = false)
    (rest : ∀ r, admits q r → (f r).Receives admits d post) :
    (ask q >>= f).Receives admits d post := by
  intro r admitted
  refine Program.Meets.imp (rest r admitted) fun xs a holds => ?_
  have none : replies [⟨q, r⟩] = [] := replies_eq_nil (List.forall_mem_singleton.2 other)
  have same : replies (⟨q, r⟩ :: xs) = replies xs :=
    (replies_append [⟨q, r⟩] xs).trans (by rw [none, List.nil_append])
  exact (congrArg (post · a.1 a.2) same).mpr holds

theorem receives_observe_bind {a : Activity} {f : Unit → Evaluation β}
    {post : List Http.Reply → β → Dispatch → Prop} (rest : (f ()).Receives admits d post) :
    (observe a >>= f).Receives admits d post :=
  receives_ask_bind (q := .observe d a) rfl fun _ _ => rest

theorem receives_get_bind {f : Dispatch → Evaluation β}
    {post : List Http.Reply → β → Dispatch → Prop} (rest : (f d).Receives admits d post) :
    (get >>= f).Receives admits d post := rest

theorem receives_modify_bind {g : Dispatch → Dispatch} {f : PUnit → Evaluation β}
    {post : List Http.Reply → β → Dispatch → Prop}
    (rest : (f ⟨⟩).Receives admits (g d) post) :
    (modify g >>= f).Receives admits d post := rest

/-- Whatever the surroundings of a dispatch answer among what is admitted, a computation makes no
requests, gives a result and leaves the dispatch as it is. -/
def Yields (admits : (q : Question) → q.Answer → Prop) (e : Evaluation α) (d : Dispatch) (a : α) :
    Prop :=
  e.Receives admits d fun rs b d' => rs = [] ∧ b = a ∧ d' = d

/-- What comes after a computation that does nothing else goes on from its result. -/
theorem Yields.bind {a : α} {post : List Http.Reply → β → Dispatch → Prop}
    (first : e.Yields admits d a) (second : (f a).Receives admits d post) :
    (e >>= f).Receives admits d post := by
  refine Receives.bind first fun rs b d' holds => ?_
  obtain ⟨rfl, rfl, rfl⟩ := holds
  exact second

end Evaluation

end CommandScript
