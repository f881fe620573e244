import CommandScript.Proofs.Dispatch.Ledger

/-!
# What computations do to the numbers that a dispatch remembers

A dispatch remembers what the history of its calls says. Computations that ask for no numbers leave
it at that, and so do routines that leave the keys alone under which numbers are remembered.

## Main definitions

- `CommandScript.Routine.Spares` — routines that leave remembered numbers alone
- `CommandScript.Descriptor.Reserved` — a function draws and remembers numbers just if it counts
- `CommandScript.Ledger.Sound` — a dispatch remembers what the history says
- `CommandScript.Evaluation.Keeps` — what a computation does to a dispatch and the ledger
- `CommandScript.Evaluation.Idles` — computations that change neither

## Main results

- `CommandScript.Evaluation.keeps_routine` — routines that leave remembered numbers alone
-/

namespace CommandScript

open BuiltIn

/-! ### Functions that count -/

/-- The routine remembers nothing under the keys of drawn numbers, whatever it is told. -/
def Routine.Spares {C α : Type} : Routine C α → Prop
  | .done _ => True
  | .raise _ => True
  | .argument _ next => ∀ s, (next s).Spares
  | .look next => ∀ v, (next v).Spares
  | .abort _ _ next => ∀ h, (next h).Spares
  | .emit _ _ next => next.Spares
  | .recall _ next => ∀ v, (next v).Spares
  | .remember key _ next => ¬drawPrefix <+: key.toList ∧ next.Spares
  | .change _ next => ∀ e, (next e).Spares
  | .effect _ next => ∀ r, (next r).Spares

namespace Routine

variable {C α β : Type}

theorem Spares.bind {r : Routine C α} {f : α → Routine C β} (first : r.Spares)
    (second : ∀ a, (f a).Spares) : (r >>= f).Spares := by
  induction r with
  | done a => exact second a
  | raise e => trivial
  | argument i next ih => exact fun s => ih s (first s)
  | look next ih => exact fun v => ih v (first v)
  | abort reason details next ih => exact fun h => ih h (first h)
  | emit m topics next ih => exact ih first
  | «recall» key next ih => exact fun v => ih v (first v)
  | remember key v next ih => exact ⟨first.1, ih first.2⟩
  | change ch next ih => exact fun e => ih e (first e)
  | effect q next ih => exact fun r => ih r (first r)

theorem spares_arguments (n : Nat) : (arguments n : Routine C (List (Option String))).Spares := by
  induction n with
  | zero => trivial
  | succ n ih => exact ih.bind fun _ _ => trivial

theorem spares_allArguments : (allArguments : Routine C (List (Option String))).Spares :=
  fun _ => spares_arguments _

end Routine

/-- The function is the built-in one that draws numbers. -/
def Descriptor.Draws (f : Descriptor Callback) : Prop :=
  ∃ name version, f = .native name (.of BuiltIn.random) version

/-- The callback of the function, if it has one, remembers nothing under the keys of drawn
numbers. -/
def Descriptor.Spares : Descriptor Callback → Prop
  | .native _ callback _ => callback.body.Spares
  | _ => True

/-- A function that counts is the built-in one, and any other one leaves the numbers alone that it
remembers. -/
def Descriptor.Reserved (counts : Descriptor Callback → Bool) (f : Descriptor Callback) : Prop :=
  if counts f then f.Draws else f.Spares

/-- The functions that are found are as it should be. -/
def Question.Finds (counts : Descriptor Callback → Bool) : (q : Question) → q.Answer → Prop
  | .find _ _, some f => f.Reserved counts
  | _, _ => True

/-- A dispatch remembers the numbers that the history of its calls says, and these calls evaluated
their arguments. -/
structure Ledger.Sound (d : Dispatch) (L : Ledger) : Prop where
  history : History L.drawings
  reads : ∀ x ∈ L.drawings, x.Reads
  cache : ∀ b key, drawKey b.1 b.2 = .ok key →
    d.cache.get? key = (recalled? L.drawings b).map .int

theorem Ledger.Sound.of_eq {d d' : Dispatch} {L L' : Ledger} (sound : L.Sound d)
    (cache : d'.cache = d.cache) (drawings : L'.drawings = L.drawings) : L'.Sound d' where
  history := drawings ▸ sound.history
  reads := drawings ▸ sound.reads
  cache b key named := by rw [cache, drawings]; exact sound.cache b key named

/-- Keys that do not begin like those of drawn numbers do not matter. -/
theorem Ledger.Sound.remember {d : Dispatch} {L : Ledger} {key : String} (sound : L.Sound d)
    (other : ¬drawPrefix <+: key.toList) (v : Value) :
    L.Sound { d with cache := d.cache.insert key v } where
  history := sound.history
  reads := sound.reads
  cache b key' named := by
    have different : key' ≠ key := by
      rintro rfl
      exact other (drawPrefix_of_drawKey named)
    rw [Table.get?_insert, if_neg different.symm]
    exact sound.cache b key' named

/-- The innermost call that is being executed counts or not, inside given others. -/
def Ledger.AtCall (flag : Bool) (ks : List OpenCall) (L : Ledger) : Prop :=
  ∃ k, L.calls = k :: ks ∧ k.counts = flag

section AtCall

variable {flag : Bool} {ks : List OpenCall} {L L' : Ledger} {t : Evaluated} {q : Draw}

theorem Ledger.AtCall.of_eq (inside : L.AtCall flag ks) (same : L'.calls = L.calls) :
    L'.AtCall flag ks := by rwa [AtCall, same]

theorem Ledger.AtCall.read (inside : L.AtCall flag ks) : (L.read t).AtCall flag ks := by
  obtain ⟨k, open_, counts⟩ := inside
  exact ⟨_, read_of_calls open_, counts⟩

theorem Ledger.AtCall.draw (inside : L.AtCall flag ks) : (L.draw q).AtCall flag ks := by
  obtain ⟨k, open_, counts⟩ := inside
  exact ⟨_, draw_of_calls open_, counts⟩

end AtCall

namespace Evaluation

section Rules

variable {α β : Type} (counts : Descriptor Callback → Bool)

/-- Whatever functions are found among those that are as they should be, and whatever else is
answered, the result, the dispatch and the ledger that are left meet a condition. -/
def Keeps (e : Evaluation α) (d : Dispatch) (L : Ledger) (post : α → Dispatch → Ledger → Prop) :
    Prop :=
  Program.Meets (S := Questions) (Question.Finds counts) (e d) fun xs r =>
    post r.1 r.2 (xs.foldl (Ledger.after counts) L)

/-- The computation changes neither the ledger nor what is remembered. -/
def Idles (e : Evaluation α) (d : Dispatch) : Prop :=
  e.Ensures d fun qs _ d' => (∀ q ∈ qs, q.isUnrecorded = true) ∧ d'.cache = d.cache

variable {counts} {e : Evaluation α} {f : α → Evaluation β} {d : Dispatch} {L : Ledger}
  {post post' : α → Dispatch → Ledger → Prop}

theorem keeps_pure {a : α} (holds : post a d L) : Keeps counts (pure a) d L post := holds

theorem Keeps.imp (h : Keeps counts e d L post)
    (weaker : ∀ a d' L', post a d' L' → post' a d' L') : Keeps counts e d L post' :=
  Program.Meets.imp h fun _ _ => weaker _ _ _

/-- Computations that are the same in a dispatch do the same to it and the ledger. -/
theorem Keeps.congr {e' : Evaluation α} (h : Keeps counts e' d L post) (same : e d = e' d) :
    Keeps counts e d L post := by
  unfold Keeps
  rw [same]
  exact h

/-- A composition does to the ledger what its first part does and then what its second part does. -/
theorem Keeps.bind {post' : β → Dispatch → Ledger → Prop} (first : Keeps counts e d L post)
    (second : ∀ a d' L', post a d' L' → Keeps counts (f a) d' L' post') :
    Keeps counts (e >>= f) d L post' := by
  refine Program.meets_bind.2 (Program.Meets.imp first fun xs r holds => ?_)
  refine Program.Meets.imp (second _ _ _ holds) fun ys r' holds' => ?_
  exact (congrArg (post' r'.1 r'.2) List.foldl_append).mpr holds'

theorem Keeps.and_ensures {P : α → Dispatch → Prop} (h : Keeps counts e d L post)
    (h' : e.Ensures d fun _ => P) : Keeps counts e d L fun a d' L' => post a d' L' ∧ P a d' :=
  Program.Meets.and h (Program.Meets.of_ensures h')

theorem keeps_get_bind {f : Dispatch → Evaluation β} {post : β → Dispatch → Ledger → Prop}
    (rest : Keeps counts (f d) d L post) : Keeps counts (get >>= f) d L post := rest

theorem keeps_modify_bind {g : Dispatch → Dispatch} {f : PUnit → Evaluation β}
    {post : β → Dispatch → Ledger → Prop} (rest : Keeps counts (f ⟨⟩) (g d) L post) :
    Keeps counts (modify g >>= f) d L post := rest

theorem keeps_ask_bind {q : Question} {f : q.Answer → Evaluation β}
    {post : β → Dispatch → Ledger → Prop}
    (rest : ∀ r, q.Finds counts r → Keeps counts (f r) d (L.after counts ⟨q, r⟩) post) :
    Keeps counts (ask q >>= f) d L post := rest

theorem keeps_observe_bind {a : Activity} {f : Unit → Evaluation β}
    {post : β → Dispatch → Ledger → Prop}
    (rest : Keeps counts (f ()) d (L.after counts (.told d a)) post) :
    Keeps counts (observe a >>= f) d L post := fun _ _ => rest

theorem Idles.keeps (idles : Idles e d) :
    Keeps counts e d L fun _ d' L' => d'.cache = d.cache ∧ L' = L :=
  Program.Meets.imp (Program.Meets.of_ensures idles) fun _ _ holds =>
    ⟨holds.2, Ledger.foldl_after_of_isUnrecorded holds.1⟩

theorem Idles.bind (first : Idles e d) (second : ∀ a d', Idles (f a) d') : Idles (e >>= f) d := by
  refine ensures_bind.2 (Ensures.imp first fun qs a d' holds => ?_)
  refine Ensures.imp (second a d') fun rs b d'' holds' => ?_
  exact ⟨List.forall_mem_append.2 ⟨holds.1, holds'.1⟩, holds'.2.trans holds.2⟩

theorem idles_pure {a : α} : Idles (pure a : Evaluation α) d := ⟨List.forall_mem_nil _, rfl⟩

theorem idles_get_bind {f : Dispatch → Evaluation β} (rest : Idles (f d) d) :
    Idles (get >>= f) d := rest

theorem idles_modify {g : Dispatch → Dispatch} (same : (g d).cache = d.cache) :
    Idles (modify g : Evaluation PUnit) d := ⟨List.forall_mem_nil _, same⟩

theorem idles_ask {q : Question} (unrecorded : q.isUnrecorded = true) : Idles (ask q) d :=
  fun _ => ⟨List.forall_mem_singleton.2 unrecorded, rfl⟩

end Rules

/-! ### Computations that leave the ledger as it is -/

section Idle

variable {scope : Scope} {c : Script.Call} {d : Dispatch}

theorem idles_note {level : Log.Level} {source : Log.Source} {message : String} :
    Idles (note scope level source message) d := idles_ask rfl

theorem idles_halt (h : Halt) : Idles (halt scope h) d := by
  refine idles_get_bind ?_
  split
  · exact idles_pure
  · refine Idles.bind (idles_modify rfl) fun _ d => Idles.bind ?_ fun _ _ =>
      idles_note.bind fun _ _ => idles_pure
    exact idles_get_bind (idles_ask rfl)

theorem idles_abort (reason : String) (details : Option String) :
    Idles (abort scope c reason details) d := (idles_halt _).bind fun _ _ => idles_pure

theorem idles_noteAll (notices : List Notice) : Idles (noteAll scope notices) d := by
  induction notices generalizing d with
  | nil => exact idles_pure
  | cons n ns ih => exact idles_note.bind fun _ _ => ih

theorem idles_change (ch : Change Callback) : Idles (change scope ch) d :=
  Idles.bind (idles_ask rfl) fun _ _ => (idles_noteAll _).bind fun _ _ => idles_pure

theorem idles_fail (e : Failure) : Idles (fail scope c e) d :=
  idles_note.bind fun _ _ => (idles_halt _).bind fun _ _ => idles_pure

theorem idles_finish (reply : Except Failure Reply) : Idles (finish scope c reply) d := by
  match reply with
  | .error e => exact idles_fail e
  | .ok (.halt h) => exact (idles_halt h).bind fun _ _ => idles_pure
  | .ok (.value v) =>
    refine idles_get_bind ?_
    split
    · exact idles_pure
    · exact idles_pure
    · exact idles_fail _

theorem idles_refuse : Idles (refuse scope c) d :=
  idles_note.bind fun _ _ => (idles_halt _).bind fun _ _ => idles_pure

theorem idles_unknown : Idles (unknown scope c) d := by
  unfold unknown
  split
  · exact idles_note.bind fun _ _ => idles_pure
  · refine Idles.bind (idles_note.bind fun _ _ => idles_modify rfl) fun _ _ => idles_pure

theorem idles_lift_relay {S : Signature} {α : Type} (p : Program S α)
    {ask : (q : S.Question) → Program Questions (S.Answer q)}
    (hask : ∀ q d, Idles (StateT.lift (ask q)) d) : Idles (StateT.lift (p.relay ask)) d := by
  induction p generalizing d with
  | done a => exact idles_pure
  | ask q next ih =>
    rw [lift_relay_ask]
    exact (hask q d).bind fun r _ => ih r

theorem idles_body (code : Value) (params : List Value) (texts : List (Option String)) :
    Idles (body scope code params texts) d := by
  unfold body
  cases bindings params texts with
  | error e => exact idles_pure
  | ok bound =>
    refine Idles.bind (idles_lift_relay _ fun path d => ?_) fun _ _ => idles_pure
    exact idles_ask (q := .effect scope.logged (.openFile path)) rfl

end Idle

/-! ### Routines that leave remembered numbers alone -/

section Routines

variable {counts : Descriptor Callback → Bool} {render : List Char → Int → Evaluation Outcome}
  {scope : Scope} {c : Script.Call} {memo : Memo} {d : Dispatch} {L : Ledger}
  {ks : List OpenCall} {flag : Bool}

/-- Evaluating a command string for a call enters what came of it into the ledger, unless the
dispatch has ended. -/
def KeepsRendering (counts : Descriptor Callback → Bool)
    (render : List Char → Int → Evaluation Outcome) : Prop :=
  ∀ cs line d L, L.Sound d → Keeps counts (render cs line) d L fun o d' L' =>
    L'.Sound d' ∧ L'.calls = if d.isHalted then L.calls else (L.read ⟨cs, line, o⟩).calls

theorem keeps_argument (hrender : KeepsRendering counts render) (i : Int) (sound : L.Sound d)
    (inside : L.AtCall flag ks) :
    Keeps counts (argument render scope c memo i) d L fun _ d' L' =>
      L'.Sound d' ∧ L'.AtCall flag ks := by
  unfold argument
  split
  · exact keeps_pure ⟨sound, inside⟩
  · exact keeps_pure ⟨sound, inside⟩
  · rename_i source line _ _
    refine keeps_get_bind ?_
    split
    · exact keeps_pure ⟨sound, inside⟩
    · rename_i running
      refine (hrender source line d L sound).bind fun o d' L' kept => ?_
      obtain ⟨sound, open_⟩ := kept
      rw [if_neg running] at open_
      have inside : L'.AtCall flag ks := inside.read.of_eq open_
      cases o with
      | ok s => exact keeps_pure ⟨sound, inside⟩
      | error h =>
        refine (idles_halt h).keeps.bind fun _ d'' L'' same => keeps_pure ?_
        obtain ⟨cache, rfl⟩ := same
        exact ⟨sound.of_eq cache rfl, inside⟩

/-- **Routines that leave remembered numbers alone** leave the dispatch remembering what the history
of calls says. -/
theorem keeps_routine {α : Type} (hrender : KeepsRendering counts render) {r : Routine Callback α}
    (spares : r.Spares) (sound : L.Sound d) (inside : L.AtCall flag ks) :
    Keeps counts (routine render scope c memo r) d L fun _ d' L' =>
      L'.Sound d' ∧ L'.AtCall flag ks := by
  induction r generalizing memo d L with
  | done a => exact keeps_pure ⟨sound, inside⟩
  | raise e => exact keeps_pure ⟨sound, inside⟩
  | argument i next ih =>
    exact (keeps_argument hrender i sound inside).bind fun p d' L' kept =>
      ih p.1 (spares p.1) kept.1 kept.2
  | look next ih => exact keeps_get_bind (ih _ (spares _) sound inside)
  | abort reason details next ih =>
    refine (idles_abort reason details).keeps.bind fun h d' L' same => ?_
    obtain ⟨cache, rfl⟩ := same
    exact ih h (spares h) (sound.of_eq cache rfl) inside
  | emit m topics next ih => exact keeps_modify_bind (ih spares (sound.of_eq rfl rfl) inside)
  | «recall» key next ih => exact keeps_get_bind (ih _ (spares _) sound inside)
  | remember key v next ih =>
    exact keeps_modify_bind (ih spares.2 (sound.remember spares.1 v) inside)
  | change ch next ih =>
    refine (idles_change ch).keeps.bind fun e d' L' same => ?_
    obtain ⟨cache, rfl⟩ := same
    exact ih e (spares e) (sound.of_eq cache rfl) inside
  | effect q next ih =>
    refine keeps_ask_bind fun r _ => ih r (spares r) (sound.of_eq rfl ?_) ?_
    · cases q <;> first | rfl | exact Ledger.drawings_draw
    · cases q <;> first | exact inside | exact inside.draw

end Routines

end Evaluation

end CommandScript
