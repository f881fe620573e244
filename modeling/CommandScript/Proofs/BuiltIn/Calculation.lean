import CommandScript.Proofs.BuiltIn.Exchanges
import CommandScript.Proofs.Dispatch.Numbers
import CommandScript.Proofs.Value.Comparison

/-!
# Functions that calculate

The functions that add up numbers and that pick a character of a text read their arguments as values
and return a value. A call of such a function stands for the printed value, and nothing else comes
of it.

## Main definitions

- `CommandScript.BuiltIn.picked` — the character that is picked, as a value

## Main results

- `CommandScript.Evaluation.yields_call` — a call that returns a value
- `CommandScript.Evaluation.ReceivesCall.allValues` — the values of all arguments
- `CommandScript.BuiltIn.receives_sum` — the sum of whole numbers
- `CommandScript.BuiltIn.receives_stringAt` — a character of a text
-/

namespace CommandScript

open Script (Call scalar)

namespace Evaluation

variable {α : Type} {admits : (q : Question) → q.Answer → Prop} {d : Dispatch} {scope : Scope}
  {remaining : Nat} {c : Call} {ts : List (List Char)} {body : Routine Callback Reply} {v : Value}
  {text : String}

theorem ensures_finish_value (unended : d.halted = none) (printed : v.printed = .ok text) :
    (finish scope c (.ok (.value v))).Ensures d fun qs o d' => qs = [] ∧ o = .ok text ∧ d' = d := by
  refine ensures_bind.2 (ensures_get.2 ?_)
  rw [unended, printed]
  exact ensures_pure.2 ⟨rfl, rfl, rfl⟩

/-- **A call that returns a value** stands for the printed value. -/
theorem yields_call {key : String} (named : FunctionName.key (String.ofList c.name) = key)
    (unended : d.halted = none) (printed : v.printed = .ok text)
    (returns : ReceivesCall (Finds scope.functions key body) scope remaining c ts body
      { d with depth := d.depth + 1 } fun rs a d' =>
        rs = [] ∧ a = .ok (.value v) ∧ d' = { d with depth := d.depth + 1 }) :
    (call scope (remaining + 1) c).Yields (Finds scope.functions key body) d (.ok text) := by
  refine receives_call_of_finish named returns fun rs r d' holds => ?_
  obtain ⟨rfl, rfl, rfl⟩ := holds
  refine Ensures.imp (ensures_finish_value unended printed) fun qs o d' finishes => ?_
  obtain ⟨rfl, rfl, rfl⟩ := finishes
  exact ⟨List.forall_mem_nil _, rfl, rfl, rfl⟩

section Routine

variable {post : List Http.Reply → Except Failure α → Dispatch → Prop} {i : Nat} {t : List Char}
  (stands : Stands admits scope remaining c ts d) (unended : d.halted = none)

include stands unended

theorem ReceivesCall.argumentOr (here : ts[i]? = some t) {default : String}
    {k : String → Routine Callback α}
    (rest : ReceivesCall admits scope remaining c ts (k (String.ofList t)) d post) :
    ReceivesCall admits scope remaining c ts (Routine.argumentOr i default >>= k) d post := by
  refine ReceivesCall.argument? stands unended i ?_
  rw [here]
  exact rest

theorem ReceivesCall.valueOr (here : ts[i]? = some t) (read : scalar (String.ofList t) = .ok v)
    {default : Value} {k : Value → Routine Callback α}
    (rest : ReceivesCall admits scope remaining c ts (k v) d post) :
    ReceivesCall admits scope remaining c ts (Routine.valueOr i default >>= k) d post := by
  refine ReceivesCall.argument? stands unended i ?_
  have known : Routine.valueOf? (some (String.ofList t)) = .done (some v) := by
    rw [Routine.valueOf?, read]
    rfl
  show ReceivesCall admits scope remaining c ts
    ((Routine.valueOf? (ts[i]?.map String.ofList) >>= fun w => pure (w.getD default)) >>= k) d post
  rw [here, Option.map_some, known]
  exact rest

/-- The values of the first arguments are those that their texts read as. -/
theorem ReceivesCall.values {vs : List Value}
    (read : List.Forall₂ (fun t v => scalar (String.ofList t) = .ok v) ts vs) {n : Nat}
    (enough : n ≤ ts.length) {k : List Value → Routine Callback α}
    (rest : ReceivesCall admits scope remaining c ts (k (vs.take n)) d post) :
    ReceivesCall admits scope remaining c ts (Routine.values n >>= k) d post := by
  induction n generalizing k with
  | zero => exact rest
  | succ n ih =>
    have bound : n < vs.length := read.length_eq ▸ enough
    have here : ts[n]? = some ts[n] := List.getElem?_eq_getElem enough
    rw [Routine.values, Routine.bind_assoc]
    refine ih (Nat.le_of_succ_le enough) ?_
    rw [Routine.bind_assoc]
    refine ReceivesCall.valueOr stands unended here (read.get enough bound) ?_
    rw [List.take_succ_eq_append_getElem bound] at rest
    exact rest

theorem ReceivesCall.allValues {vs : List Value}
    (read : List.Forall₂ (fun t v => scalar (String.ofList t) = .ok v) ts vs)
    {k : List Value → Routine Callback α}
    (rest : ReceivesCall admits scope remaining c ts (k vs) d post) :
    ReceivesCall admits scope remaining c ts (Routine.allValues >>= k) d post := by
  refine ReceivesCall.look fun v arguments _ => ?_
  refine ReceivesCall.values stands unended read (n := v.arguments.length) ?_ ?_
  · rw [arguments, stands.length_eq]
  · rw [arguments, stands.length_eq, read.length_eq, List.take_length]
    exact rest

end Routine

end Evaluation

namespace BuiltIn

open Evaluation Numeral

variable {admits : (q : Question) → q.Answer → Prop} {d : Dispatch} {scope : Scope}
  {remaining : Nat} {c : Call} {ts : List (List Char)}
  {post : List Http.Reply → Except Failure Reply → Dispatch → Prop}

theorem receives_withNumbers {vs : List Value} {go : Routine Callback Reply}
    (unended : d.halted = none) (all : ∀ v ∈ vs, v.kind = .number)
    (rest : ReceivesCall admits scope remaining c ts go d post) :
    ReceivesCall admits scope remaining c ts (withNumbers vs go) d post := by
  refine receives_unlessAborted unended (ReceivesCall.look fun v _ _ => ?_)
  show ReceivesCall admits scope remaining c ts
    (Routine.checkKindsFrom v.name 1 vs (vs.map fun _ => Kind.number.name) >>= fun passes =>
      if passes then go else Routine.nothing) d post
  rw [Routine.checkKindsFrom_of_numbers all]
  exact rest

/-! ### Sums -/

theorem total_int (m : Int) (ns : List Int) :
    total (.int m) (ns.map .int) = .ok (.int (m + ns.sum)) := by
  induction ns generalizing m with
  | nil => rw [List.sum_nil, Int.add_zero]; rfl
  | cons n ns ih =>
    rw [List.sum_cons, ← Int.add_assoc]
    exact ih (m + n)

theorem forall₂_scalar_intChars {ns : List Int} (within : ∀ n ∈ ns, exceedsLimit n = false) :
    List.Forall₂ (fun t v => scalar (String.ofList t) = .ok v) (ns.map intChars)
      (ns.map Value.int) := by
  rw [List.forall₂_map_left_iff, List.forall₂_map_right_iff, List.forall₂_same]
  exact fun n mem => Value.scalar_intText (within n mem)

/-- **Adding up** whole numbers gives their sum. -/
theorem receives_sum {ns : List Int} (stands : Stands admits scope remaining c (ns.map intChars) d)
    (unended : d.halted = none) (some : ns ≠ []) (within : ∀ n ∈ ns, exceedsLimit n = false)
    (holds : post [] (.ok (.value (.int ns.sum))) d) :
    ReceivesCall admits scope remaining c (ns.map intChars) sum d post := by
  have enough : (1 : Int) ≤ (ns.map intChars).length := by
    rw [List.length_map]
    exact_mod_cast List.length_pos_iff.2 some
  refine receives_withCount stands enough nofun ?_
  refine ReceivesCall.allValues stands unended (forall₂_scalar_intChars within) ?_
  refine receives_withNumbers unended ?_ ?_
  · intro v mem
    obtain ⟨n, -, rfl⟩ := List.mem_map.1 mem
    rfl
  · show ReceivesCall admits scope remaining c _
      (Routine.lift .conversion (total (.int 0) (ns.map .int)) >>= Routine.returning) d post
    rw [total_int, Int.zero_add]
    exact ReceivesCall.done holds

/-! ### Characters -/

/-- Where the character stands that is picked: places are counted from one, or backwards from the
end. -/
theorem position_int (i : Int) : position (.int i) = .ok (if i < 1 then i else i - 1) := by
  have compared := Value.compareNumbers?_int i 1
  have read : Value.toInt (.int i) = .ok i := rfl
  have before (order : compare i 1 ≠ .lt) : ¬i < 1 := fun less => order (Int.compare_eq_lt.2 less)
  rw [position, read, compared]
  cases order : compare i 1 with
  | lt => rw [if_pos (Int.compare_eq_lt.1 order)]; rfl
  | eq => rw [if_neg (before (by rw [order]; decide))]; rfl
  | gt => rw [if_neg (before (by rw [order]; decide))]; rfl

/-- A character as a value, or null for none. -/
def picked : Option Char → Value
  | some x => .text (String.ofList [x])
  | none => .null

theorem printed_picked (x : Option Char) : (picked x).printed = .ok (String.ofList x.toList) := by
  cases x <;> rfl

/-- **Picking a character** of a text gives the one at the place, or null where there is none. -/
theorem receives_stringAt {t : List Char} {i : Int}
    (stands : Stands admits scope remaining c [t, intChars i] d) (unended : d.halted = none)
    (within : exceedsLimit i = false)
    (holds : post [] (.ok (.value (picked (charAt? t (if i < 1 then i else i - 1))))) d) :
    ReceivesCall admits scope remaining c [t, intChars i] stringAt d post := by
  refine receives_withCount stands (by simp) (fun _ => rfl) ?_
  refine ReceivesCall.argumentOr stands unended (i := 0) rfl ?_
  refine ReceivesCall.valueOr stands unended (i := 1) rfl (Value.scalar_intText within) ?_
  refine receives_withNumbers unended (List.forall_mem_singleton.2 rfl) ?_
  show ReceivesCall admits scope remaining c _
    (Routine.lift .conversion (position (.int i)) >>= fun k =>
      match charAt? (String.ofList t).toList k with
      | some x => Routine.returning (.text (String.ofList [x]))
      | none => Routine.nothing) d post
  rw [position_int, String.toList_ofList]
  show ReceivesCall admits scope remaining c _
    (match charAt? t (if i < 1 then i else i - 1) with
      | some x => Routine.returning (.text (String.ofList [x]))
      | none => Routine.nothing) d post
  generalize charAt? t (if i < 1 then i else i - 1) = found at holds ⊢
  cases found with
  | some x => exact ReceivesCall.done holds
  | none => exact ReceivesCall.done holds

end BuiltIn

end CommandScript
