import CommandScript.Proofs.Answered
import CommandScript.Proofs.BuiltIn.Drawings

/-!
# Ledgers of the numbers drawn in a dispatch

Which texts were evaluated for each call that is being executed, and which numbers were drawn for
it, can be told from the exchanges of a run. When a call of a function that counts returns, it is
entered into the history of such calls.

## Main definitions

- `CommandScript.Ledger` — the calls that are being executed, and those that have returned
- `CommandScript.Ledger.after` — the ledger after an exchange
- `CommandScript.drawings`, `CommandScript.otherDraws` — the calls that drew numbers in a run, and
  what was drawn apart from them

## Main results

- `CommandScript.Ledger.perm_draws` — each number drawn is found in the ledger
- `CommandScript.Ledger.entered_ledger` — so is each call that counts
-/

namespace CommandScript

open BuiltIn

/-- A call that is being executed: whether its function counts, the texts that were evaluated for
it, and the numbers that were drawn for it. -/
structure OpenCall where
  counts : Bool
  texts : List Evaluated
  draws : List Draw

/-- The calls that are being executed, innermost first, those of functions that count that have
returned, and the numbers that were drawn for no such call. -/
structure Ledger where
  calls : List OpenCall
  drawings : List Drawing
  others : List Draw

/-- The number that is drawn in an exchange. -/
def Exchange.draw? : Exchange → Option Draw
  | ⟨.effect _ (.draw low high), n⟩ => some ⟨low, high, n⟩
  | _ => none

/-- Whether a call of a function that counts is entered in an exchange. -/
def Exchange.enters (counts : Descriptor Callback → Bool) : Exchange → Bool
  | ⟨.observe _ (.entering _ f), _⟩ => counts f
  | _ => false

/-- Whether a question leaves every ledger as it is. -/
def Question.isUnrecorded : Question → Bool
  | .observe _ (.entering ..) => false
  | .observe _ (.rendered ..) => false
  | .observe _ (.returned ..) => false
  | .effect _ (.draw ..) => false
  | _ => true

namespace Ledger

/-- A ledger without entries. -/
def empty : Ledger := ⟨[], [], []⟩

/-- A call of a function is entered. -/
def enter (counts : Bool) (L : Ledger) : Ledger := { L with calls := ⟨counts, [], []⟩ :: L.calls }

/-- A text was evaluated for the innermost call. -/
def read (t : Evaluated) (L : Ledger) : Ledger :=
  { L with calls := L.calls.modifyHead fun k => { k with texts := k.texts ++ [t] } }

/-- A number was drawn for the innermost call. -/
def draw (q : Draw) (L : Ledger) : Ledger :=
  match L.calls with
  | [] => { L with others := L.others ++ [q] }
  | k :: ks => { L with calls := { k with draws := k.draws ++ [q] } :: ks }

/-- The innermost call returns. -/
def close (c : Script.Call) (reply : Except Failure Reply) (L : Ledger) : Ledger :=
  match L.calls with
  | [] => L
  | k :: ks =>
    if k.counts then
      { L with calls := ks, drawings := L.drawings ++ [⟨c, k.texts, k.draws, reply⟩] }
    else { L with calls := ks, others := L.others ++ k.draws }

/-- The ledger after an exchange, given which functions count. -/
def after (counts : Descriptor Callback → Bool) (L : Ledger) : Exchange → Ledger
  | ⟨.observe _ (.entering _ f), _⟩ => L.enter (counts f)
  | ⟨.observe _ (.rendered source line o), _⟩ => L.read ⟨source, line, o⟩
  | ⟨.observe _ (.returned c reply), _⟩ => L.close c reply
  | ⟨.effect _ (.draw low high), n⟩ => L.draw ⟨low, high, n⟩
  | _ => L

/-- The numbers that were drawn. -/
def draws (L : Ledger) : List Draw :=
  L.drawings.flatMap Drawing.draws ++ L.calls.flatMap OpenCall.draws ++ L.others

end Ledger

/-- The ledger of a run. -/
def ledger (counts : Descriptor Callback → Bool) (xs : List Exchange) : Ledger :=
  xs.foldl (Ledger.after counts) .empty

/-- The calls of functions that count in a run, in the order in which they returned. -/
def drawings (counts : Descriptor Callback → Bool) (xs : List Exchange) : List Drawing :=
  (ledger counts xs).drawings

/-- The numbers that were drawn in a run, but not for calls of functions that count. -/
def otherDraws (counts : Descriptor Callback → Bool) (xs : List Exchange) : List Draw :=
  (ledger counts xs).others

namespace Ledger

variable {counts : Descriptor Callback → Bool} {L : Ledger} {c : Script.Call} {t : Evaluated}
  {q : Draw} {reply : Except Failure Reply} {ks : List OpenCall} {k : OpenCall}

/-! ### What exchanges do to a ledger -/

theorem after_of_isUnrecorded {x : Exchange} (unrecorded : x.1.isUnrecorded = true) :
    L.after counts x = L := by
  obtain ⟨q, r⟩ := x
  cases q with
  | observe d a => cases a <;> first | rfl | cases unrecorded
  | effect command q => cases q <;> first | rfl | cases unrecorded
  | _ => rfl

theorem foldl_after_of_isUnrecorded {xs : List Exchange}
    (unrecorded : ∀ q ∈ xs.map (·.1), q.isUnrecorded = true) :
    xs.foldl (after counts) L = L := by
  induction xs with
  | nil => rfl
  | cons x xs ih =>
    obtain ⟨first, rest⟩ := List.forall_mem_cons.1 unrecorded
    rw [List.foldl_cons, after_of_isUnrecorded first, ih rest]

theorem drawings_draw : (L.draw q).drawings = L.drawings := by
  unfold draw
  split <;> rfl

theorem read_of_calls (open_ : L.calls = k :: ks) :
    (L.read t).calls = { k with texts := k.texts ++ [t] } :: ks := by
  rw [read, open_]
  rfl

theorem draw_of_calls (open_ : L.calls = k :: ks) :
    (L.draw q).calls = { k with draws := k.draws ++ [q] } :: ks := by
  rw [draw, open_]

theorem close_of_counts (open_ : L.calls = k :: ks) (counts : k.counts = true) :
    L.close c reply =
      { L with calls := ks, drawings := L.drawings ++ [⟨c, k.texts, k.draws, reply⟩] } := by
  rw [close, open_]
  exact if_pos counts

theorem close_of_not_counts (open_ : L.calls = k :: ks) (counts : k.counts = false) :
    L.close c reply = { L with calls := ks, others := L.others ++ k.draws } := by
  rw [close, open_]
  exact if_neg (by rw [counts]; exact Bool.false_ne_true)

/-! ### Each number drawn is found in the ledger -/

theorem draws_enter (flag : Bool) : (L.enter flag).draws = L.draws := rfl

theorem draws_read : (L.read t).draws = L.draws := by
  unfold draws read
  cases L.calls <;> rfl

theorem perm_draws_draw : (L.draw q).draws.Perm (L.draws ++ [q]) := by
  unfold draws draw
  cases L.calls with
  | nil => simp
  | cons k ks =>
    simp only [List.flatMap_cons, List.append_assoc]
    refine List.Perm.append_left _ (List.Perm.append_left _ ?_)
    refine List.perm_append_comm.trans ?_
    simp

theorem perm_draws_close : (L.close c reply).draws.Perm L.draws := by
  unfold close
  split
  · exact List.Perm.refl _
  · rename_i k ks open_
    split
    · simp [draws, open_]
    · simp only [draws, open_, List.flatMap_cons, List.append_assoc]
      refine List.Perm.append_left _ ?_
      rw [← List.append_assoc]
      exact List.perm_append_comm

theorem perm_draws_after (x : Exchange) :
    (L.after counts x).draws.Perm (L.draws ++ x.draw?.toList) := by
  have unchanged (same : L.after counts x = L) (none : x.draw? = none) :
      (L.after counts x).draws.Perm (L.draws ++ x.draw?.toList) := by
    simp [same, none]
  obtain ⟨q, r⟩ := x
  cases q with
  | observe d a =>
    cases a with
    | entering c f => simp [after, Exchange.draw?, draws_enter]
    | rendered source line o => simp [after, Exchange.draw?, draws_read]
    | returned c reply => simpa [after, Exchange.draw?] using perm_draws_close
    | _ => exact unchanged rfl rfl
  | effect command q =>
    cases q with
    | draw low high => exact perm_draws_draw
    | _ => exact unchanged rfl rfl
  | _ => exact unchanged rfl rfl

variable (counts) in
/-- Each number that is drawn in a run is found in its ledger. -/
theorem perm_draws (xs : List Exchange) :
    (ledger counts xs).draws.Perm (xs.filterMap Exchange.draw?) := by
  have from_ (L : Ledger) : (xs.foldl (after counts) L).draws.Perm
      (L.draws ++ xs.filterMap Exchange.draw?) := by
    induction xs generalizing L with
    | nil => simp
    | cons x xs ih =>
      refine (ih _).trans (((perm_draws_after x).append_right _).trans ?_)
      rw [List.append_assoc]
      refine List.Perm.append_left _ ?_
      cases drawn : x.draw? <;> simp [drawn]
  exact from_ .empty

/-! ### Each call that counts is found in the ledger -/

/-- The number of calls of functions that count. -/
def entered (L : Ledger) : Nat := L.drawings.length + L.calls.countP OpenCall.counts

theorem entered_draw : (L.draw q).entered = L.entered := by
  unfold entered draw
  cases L.calls <;> rfl

theorem entered_read : (L.read t).entered = L.entered := by
  unfold entered read
  cases L.calls <;> rfl

theorem entered_close : (L.close c reply).entered = L.entered := by
  unfold close
  split
  · rfl
  · rename_i k ks open_
    split
    · rename_i counts
      simp [entered, open_, counts]
      omega
    · rename_i counts
      simp [entered, open_, counts]

theorem entered_after (x : Exchange) :
    (L.after counts x).entered = L.entered + (if x.enters counts then 1 else 0) := by
  obtain ⟨q, r⟩ := x
  cases q with
  | observe d a =>
    cases a with
    | entering c f =>
      show (L.enter (counts f)).entered = L.entered + if counts f then 1 else 0
      cases counts f <;> simp [entered, enter, Nat.add_assoc]
    | rendered source line o => exact entered_read
    | returned c reply => exact entered_close
    | _ => rfl
  | effect command q =>
    cases q with
    | draw low high => exact entered_draw
    | _ => rfl
  | _ => rfl

variable (counts) in
/-- Each call of a function that counts that is entered in a run is found in its ledger. -/
theorem entered_ledger (xs : List Exchange) :
    (ledger counts xs).entered = xs.countP (Exchange.enters counts) := by
  have from_ (L : Ledger) : (xs.foldl (after counts) L).entered =
      L.entered + xs.countP (Exchange.enters counts) := by
    induction xs generalizing L with
    | nil => rfl
    | cons x xs ih =>
      rw [List.foldl_cons, ih, entered_after, List.countP_cons]
      omega
  exact (from_ .empty).trans (Nat.zero_add _)

end Ledger

end CommandScript
