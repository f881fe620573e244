import CommandScript.Proofs.BuiltIn.Calculation
import CommandScript.Proofs.Interpreter.Exchanges

/-!
# What calculations print

Command strings that add up whole numbers, some of which may be sums themselves, and command strings
that pick a character of a text. In all surroundings in which the built-in function is found under
its name, such a command string succeeds. A sum is printed digit by digit, however the numbers are
ordered and grouped. The character at a place is printed, or nothing where there is none; at place
zero it is the first one.

## Main definitions

- `CommandScript.Interpreter.Prints` — what is printed wherever a function is found
- `CommandScript.Summands` — whole numbers, and sums of them, to be added up
- `CommandScript.Summands.StandsFor` — the number that an argument of a sum stands for
- `CommandScript.picking` — picking a character of a text

## Main results

- `CommandScript.Interpreter.prints_of_yields` — what is printed, from what the call stands for
- `CommandScript.Summands.sum_values` — grouping changes no sum
- `CommandScript.Summands.forall₂_standsFor` — what the arguments of a sum stand for
- `CommandScript.Interpreter.sums_exact` — sums are exact
- `CommandScript.Interpreter.characters_picked` — which character is picked
- `CommandScript.Interpreter.not_nothing_at_zero` — there is a character at place zero
-/

namespace CommandScript

open Script (Call IsIdentifier IsArgument escape joined)
open Evaluation Numeral

namespace Interpreter

variable {i : Interpreter} {key text : String} {body : Routine Callback Reply} {source : List Char}

/-- In all surroundings in which a function is found under a key, a command string without functions
of its own succeeds, and the output is a text. -/
def Prints (i : Interpreter) (key : String) (body : Routine Callback Reply) (source : List Char)
    (text : String) : Prop :=
  ∀ v : Invocation, v.source = source → v.functions = [] →
    ∀ (σ : Type) (answer : σ → (q : Question) → q.Answer × σ) (s : σ),
      i.Offers key body (Program.exchanges (S := Questions) answer s (i.handle v)) →
      ∃ r, (Program.run (S := Questions) answer s (i.handle v)).1 = .ok r ∧
        r.status = .success ∧ r.output = some text

theorem prints_of_yields (evaluated : ∀ scope : Scope, scope.functions = i.functions →
      (render scope i.settings.maxDepth source 1).Yields (Finds i.functions key body) .start
        (.ok text)) : i.Prints key body source text := by
  rintro v rfl alone σ answer s offers
  obtain ⟨o, ended, -, ⟨concluded, -⟩, yielded⟩ :=
    handle_of_receives (Q := fun _ o => o = .ok text) alone
      ((evaluated _ rfl).imp fun _ _ _ holds => holds.2.1) answer s offers.finds
  exact concluded.success text yielded

/-- Surroundings in which the built-in functions are found under their names. -/
def equipped : Unit → (q : Question) → q.Answer × Unit
  | s, .find _ key =>
    ((BuiltIn.all.find? fun p => FunctionName.key p.1 = key).map fun p => .native p.1 p.2 .null, s)
  | s, q => ((World.answer (.empty .null) q).1, s)

theorem offers_equipped {α : Type} {name : String} {p : Program Questions α}
    (found : (BuiltIn.all.find? fun p => FunctionName.key p.1 = key) = some (name, .of body)) :
    i.Offers key body (Program.exchanges (S := Questions) equipped () p) := by
  intro f mem
  obtain ⟨s, told⟩ := Program.exists_answer_of_mem_exchanges mem
  refine ⟨name, .null, told.trans ?_⟩
  show (BuiltIn.all.find? fun p => FunctionName.key p.1 = key).map _ = _
  rw [found]
  rfl

/-- What is printed among the built-in functions. -/
theorem Prints.equipped {name : String} (prints : i.Prints key body source text)
    (found : (BuiltIn.all.find? fun p => FunctionName.key p.1 = key) = some (name, .of body)) :
    ∃ r, (Program.run (S := Questions) equipped () (i.handle (plain source))).1 = .ok r ∧
      r.status = .success ∧ r.output = some text :=
  prints (plain source) rfl rfl Unit Interpreter.equipped () (offers_equipped found)

end Interpreter

/-! ### Sums -/

/-- A whole number is written without escapes. -/
theorem escape_intChars (n : Int) : escape (intChars n) = intChars n :=
  Script.escape_of_isNumeral (Script.isNumeral_intChars n)

theorem natAbs_sum_le (ns : List Int) : ns.sum.natAbs ≤ (ns.map Int.natAbs).sum :=
  List.le_sum_of_subadditive Int.natAbs Int.natAbs_zero.le Int.natAbs_add_le ns

/-- What is added up: whole numbers, and sums of what is added up, one after the other. -/
inductive Summands where
  | nil
  | number (n : Int) (rest : Summands)
  | sum (inside rest : Summands)

namespace Summands

/-- The command string that adds up some arguments. -/
def adding (as : List (List Char)) : List Char :=
  '$' :: ['s', 'u', 'm'] ++ '[' :: joined as ++ [']']

/-- The arguments as they are written: numbers in decimal digits, and sums as calls. -/
def sources : Summands → List (List Char)
  | nil => []
  | number n rest => intChars n :: rest.sources
  | sum inside rest => adding inside.sources :: rest.sources

/-- All the numbers. -/
def leaves : Summands → List Int
  | nil => []
  | number n rest => n :: rest.leaves
  | sum inside rest => inside.leaves ++ rest.leaves

/-- The numbers that the arguments stand for. -/
def values : Summands → List Int
  | nil => []
  | number n rest => n :: rest.values
  | sum inside rest => inside.values.sum :: rest.values

/-- How many sums are inside one another. -/
def depth : Summands → Nat
  | nil => 0
  | number _ rest => rest.depth
  | sum inside rest => max (inside.depth + 1) rest.depth

/-- None of the sums inside is without arguments. -/
def Proper : Summands → Prop
  | nil => True
  | number _ rest => rest.Proper
  | sum inside rest => inside ≠ nil ∧ inside.Proper ∧ rest.Proper

/-- Numbers alone. -/
def flat : List Int → Summands
  | [] => nil
  | n :: ns => number n (flat ns)

/-- The sum of all numbers without their signs. -/
def magnitude (t : Summands) : Nat := (t.leaves.map Int.natAbs).sum

variable {t inside rest : Summands} {n : Int}

theorem sources_flat (ns : List Int) : (flat ns).sources = ns.map intChars := by
  induction ns with
  | nil => rfl
  | cons n ns ih => exact congrArg (intChars n :: ·) ih

theorem leaves_flat (ns : List Int) : (flat ns).leaves = ns := by
  induction ns with
  | nil => rfl
  | cons n ns ih => exact congrArg (n :: ·) ih

theorem depth_flat (ns : List Int) : (flat ns).depth = 0 := by
  induction ns with
  | nil => rfl
  | cons n ns ih => exact ih

theorem proper_flat (ns : List Int) : (flat ns).Proper := by
  induction ns with
  | nil => trivial
  | cons n ns ih => exact ih

theorem magnitude_sum : (sum inside rest).magnitude = inside.magnitude + rest.magnitude := by
  rw [magnitude, leaves, List.map_append, List.sum_append]
  rfl

/-- Grouping changes no sum. -/
theorem sum_values (t : Summands) : t.values.sum = t.leaves.sum := by
  induction t with
  | nil => rfl
  | number n rest ih => rw [values, leaves, List.sum_cons, List.sum_cons, ih]
  | sum inside rest ih ih' => rw [values, leaves, List.sum_cons, List.sum_append, ih, ih']

theorem natAbs_le_of_mem_values (mem : n ∈ t.values) : n.natAbs ≤ t.magnitude := by
  induction t with
  | nil => cases mem
  | number m rest ih =>
    have later : rest.magnitude ≤ (number m rest).magnitude := Nat.le_add_left _ m.natAbs
    obtain rfl | mem := List.mem_cons.1 mem
    · exact Nat.le_add_right _ rest.magnitude
    · exact (ih mem).trans later
  | sum inside rest _ ih =>
    rw [magnitude_sum]
    obtain rfl | mem := List.mem_cons.1 mem
    · rw [sum_values]
      exact (natAbs_sum_le _).trans (Nat.le_add_right _ _)
    · exact (ih mem).trans (Nat.le_add_left _ _)

theorem isIdentifier_sum : IsIdentifier ['s', 'u', 'm'] :=
  Script.isName_iff.1 (show Script.isName ['s', 'u', 'm'] = true by decide)

theorem isArgument_of_mem_sources {a : List Char} (mem : a ∈ t.sources) : IsArgument a := by
  induction t generalizing a with
  | nil => cases mem
  | number n rest ih =>
    obtain rfl | mem := List.mem_cons.1 mem
    · exact escape_intChars n ▸ Script.isArgument_escape (intChars n)
    · exact ih mem
  | sum inside rest ih ih' =>
    obtain rfl | mem := List.mem_cons.1 mem
    · exact Script.isArgument_source (c := ⟨['s', 'u', 'm'], joined inside.sources, 0, 1⟩)
        isIdentifier_sum (Script.closed_joined fun _ => ih)
    · exact ih' mem

theorem sources_ne_nil (some : t ≠ nil) : t.sources ≠ [] := by
  cases t with
  | nil => exact absurd rfl some
  | number n rest => exact List.cons_ne_nil _ _
  | sum inside rest => exact List.cons_ne_nil _ _

theorem sources_ne_singleton (t : Summands) : t.sources ≠ [[]] := by
  cases t with
  | nil => nofun
  | number n rest =>
    intro alone
    have digits := Script.isNumeral_intChars n
    rw [(List.cons.inj alone).1] at digits
    cases digits
  | sum inside rest => exact fun alone => List.cons_ne_nil _ _ (List.cons.inj alone).1

theorem values_ne_nil (some : t ≠ nil) : t.values ≠ [] := by
  cases t with
  | nil => exact absurd rfl some
  | number n rest => exact List.cons_ne_nil _ _
  | sum inside rest => exact List.cons_ne_nil _ _

section Evaluated

variable {scope : Scope} {remaining : Nat} {d : Dispatch}

/-- A text that may be an argument stands for a whole number in decimal digits. -/
def StandsFor (scope : Scope) (remaining : Nat) (d : Dispatch) (cs : List Char) (n : Int) : Prop :=
  ∀ line, (render scope remaining cs line).Yields
    (Finds scope.functions (FunctionName.key "sum") BuiltIn.sum) d (.ok (intTextUnlimited n))

/-- A call that adds up stands for the sum of what its arguments stand for. -/
theorem standsFor_adding (some : t ≠ nil) (small : t.magnitude < Nat.pow 10 digitLimit)
    (unended : d.halted = none)
    (each : List.Forall₂ (StandsFor scope remaining { d with depth := d.depth + 1 })
      t.sources t.values) :
    StandsFor scope (remaining + 1) d (adding t.sources) t.values.sum := by
  intro line
  have argument (a : List Char) (mem : a ∈ t.sources) : IsArgument a :=
    isArgument_of_mem_sources mem
  let c : Call := ⟨['s', 'u', 'm'], joined t.sources, 0, line⟩
  have written : c.arguments = t.sources :=
    Script.arguments_joined argument (sources_ne_nil some) (sources_ne_singleton t)
  have stands : Stands (Finds scope.functions (FunctionName.key "sum") BuiltIn.sum) scope remaining
      c (t.values.map intChars) { d with depth := d.depth + 1 } := by
    refine .of_forall₂ ?_
    rw [written, List.forall₂_map_right_iff]
    exact each
  have within (n : Int) (mem : n ∈ t.values) : exceedsLimit n = false :=
    exceedsLimit_eq_false digitLimit (Nat.le_refl _) ((natAbs_le_of_mem_values mem).trans_lt small)
  have total : exceedsLimit t.values.sum = false := by
    refine exceedsLimit_eq_false digitLimit (Nat.le_refl _) (Nat.lt_of_le_of_lt ?_ small)
    rw [sum_values]
    exact natAbs_sum_le t.leaves
  refine receives_render (Script.segments_single_call isIdentifier_sum argument line) unended ?_
  exact yields_call rfl unended (Value.printed_int total)
    (BuiltIn.receives_sum stands unended (values_ne_nil some) within ⟨rfl, rfl, rfl⟩)

/-- The arguments of a sum stand for their numbers, where calls may be far enough inside one
another. -/
theorem forall₂_standsFor (proper : t.Proper) (small : t.magnitude < Nat.pow 10 digitLimit)
    (deep : t.depth ≤ remaining) (unended : d.halted = none) :
    List.Forall₂ (StandsFor scope remaining d) t.sources t.values := by
  induction t generalizing remaining d with
  | nil => exact .nil
  | number n rest ih =>
    have later : rest.magnitude ≤ (number n rest).magnitude := Nat.le_add_left _ n.natAbs
    refine .cons (fun line => ?_) (ih proper (later.trans_lt small) deep unended)
    have written : (render scope remaining (escape (intChars n)) line).Gives d _ :=
      render_escape (intChars n) line unended
    rw [escape_intChars] at written
    exact written.yields
  | sum inside rest ih ih' =>
    obtain ⟨some, proper, proper'⟩ := proper
    obtain ⟨deep, deep'⟩ := Nat.max_le.1 deep
    rw [magnitude_sum] at small
    have small' : inside.magnitude < Nat.pow 10 digitLimit := (Nat.le_add_right _ _).trans_lt small
    refine .cons ?_ (ih' proper' ((Nat.le_add_left _ _).trans_lt small) deep' unended)
    obtain ⟨more, rfl⟩ := Nat.exists_eq_add_of_le' deep
    exact standsFor_adding some small' unended (ih proper small' (Nat.le_add_left _ more) unended)

end Evaluated

end Summands

namespace Interpreter

open Summands

theorem prints_adding (i : Interpreter) {t : Summands} (some : t ≠ .nil) (proper : t.Proper)
    (small : t.magnitude < Nat.pow 10 digitLimit) (deep : t.depth < i.settings.maxDepth) :
    i.Prints (FunctionName.key "sum") BuiltIn.sum (adding t.sources)
      (intTextUnlimited t.leaves.sum) := by
  refine prints_of_yields fun scope functions => ?_
  rw [← functions, ← sum_values]
  obtain ⟨more, depth⟩ := Nat.exists_eq_add_of_lt deep
  rw [depth]
  exact standsFor_adding some small rfl
    (forall₂_standsFor proper small (Nat.le_add_right t.depth more) rfl) 1

/-- **Sums are exact.** Take whole numbers whose sizes add up to a number within the limit on
digits, and any interpreter. Adding them up prints their sum in decimal digits. So does adding them
up in any other order, with sums of some of them in place of these, and sums of sums, as far as
calls may be inside one another. -/
theorem sums_exact (i : Interpreter) (ns : List Int) (some : ns ≠ [])
    (small : (ns.map Int.natAbs).sum < Nat.pow 10 digitLimit) :
    i.Prints (FunctionName.key "sum") BuiltIn.sum (adding (ns.map intChars))
      (intTextUnlimited ns.sum) ∧
    ∀ t : Summands, t.leaves.Perm ns → t.Proper → t.depth < i.settings.maxDepth →
      i.Prints (FunctionName.key "sum") BuiltIn.sum (adding t.sources)
        (intTextUnlimited ns.sum) := by
  have grouped (t : Summands) (perm : t.leaves.Perm ns) (proper : t.Proper)
      (deep : t.depth < i.settings.maxDepth) :
      i.Prints (FunctionName.key "sum") BuiltIn.sum (adding t.sources)
        (intTextUnlimited ns.sum) := by
    have some : t ≠ .nil := by
      rintro rfl
      exact some perm.nil_eq.symm
    have same : t.magnitude = (ns.map Int.natAbs).sum := (perm.map Int.natAbs).sum_eq
    rw [← perm.sum_eq]
    exact prints_adding i some proper (same.trans_lt small) deep
  refine ⟨?_, grouped⟩
  have perm : (flat ns).leaves.Perm ns := List.Perm.of_eq (leaves_flat ns)
  rw [← sources_flat]
  have deep := (depth_flat ns).trans_lt i.settings.one_le_maxDepth
  exact grouped (flat ns) perm (proper_flat ns) deep

/-- Five, a sum of minus three alone, and ten, two of them grouped and in another order. -/
def grouping : Summands := .sum (.number 5 (.sum (.number (-3) .nil) .nil)) (.number 10 .nil)

/-- `$sum[$sum[5;$sum[-3]];10]` prints the sum of ten, minus three and five. -/
theorem sums_exact_grouped :
    [10, -3, 5] ≠ ([] : List Int) ∧
      (([10, -3, 5] : List Int).map Int.natAbs).sum < Nat.pow 10 digitLimit ∧
      grouping.leaves.Perm [10, -3, 5] ∧ grouping.Proper ∧
      grouping.depth < bare.settings.maxDepth ∧
      adding grouping.sources = "$sum[$sum[5;$sum[-3]];10]".toList ∧
      ∃ r, (Program.run (S := Questions) equipped ()
          (bare.handle (plain (adding grouping.sources)))).1 = .ok r ∧
        r.status = .success ∧ r.output = some "12" := by
  have some : [10, -3, 5] ≠ ([] : List Int) := List.cons_ne_nil _ _
  have small : (([10, -3, 5] : List Int).map Int.natAbs).sum < Nat.pow 10 digitLimit :=
    Nat.lt_of_lt_of_le (show _ < Nat.pow 10 2 by decide) (pow_le_pow (by decide))
  have perm : grouping.leaves.Perm [10, -3, 5] := by decide
  have proper : grouping.Proper := ⟨nofun, ⟨nofun, trivial, trivial⟩, trivial⟩
  have deep : grouping.depth < bare.settings.maxDepth := by decide
  have prints := (sums_exact bare [10, -3, 5] some small).2 grouping perm proper deep
  exact ⟨some, small, perm, proper, deep, by decide, prints.equipped rfl⟩

end Interpreter

/-! ### Characters -/

/-- The command string that picks the character at a place of a text. -/
def picking (t : List Char) (n : Int) : List Char :=
  '$' :: "stringAt".toList ++ '[' :: (escape t ++ ';' :: intChars n) ++ [']']

section Places

variable {t : List Char} {n : Int} {k : Nat} {x : Char}

theorem charAt?_of_forward (here : t[k]? = some x) (place : n = k + 1) :
    BuiltIn.charAt? t (if n < 1 then n else n - 1) = some x := by
  subst place
  rw [if_neg (by omega), BuiltIn.charAt?, if_pos (by omega), Int.add_sub_cancel, Int.toNat_natCast,
    here]

theorem charAt?_of_backward (here : t[k]? = some x) (place : n = k - t.length) :
    BuiltIn.charAt? t (if n < 1 then n else n - 1) = some x := by
  obtain ⟨bound, -⟩ := List.getElem?_eq_some_iff.1 here
  subst place
  rw [if_pos (by omega), BuiltIn.charAt?, if_neg (by omega), if_pos (by omega), Int.sub_add_cancel,
    Int.toNat_natCast, here]

theorem charAt?_of_outside (outside : n < -(t.length : Int) ∨ (t.length : Int) < n) :
    BuiltIn.charAt? t (if n < 1 then n else n - 1) = none := by
  obtain before | after := outside
  · rw [if_pos (by omega), BuiltIn.charAt?, if_neg (by omega), if_neg (by omega)]
  · rw [if_neg (by omega), BuiltIn.charAt?, if_pos (by omega), List.getElem?_eq_none_iff]
    omega

theorem charAt?_zero (t : List Char) : (BuiltIn.charAt? t 0).toList = t.take 1 := by
  cases t <;> rfl

end Places

namespace Interpreter

theorem prints_picking (i : Interpreter) (t : List Char) {n : Int}
    (within : exceedsLimit n = false) :
    i.Prints (FunctionName.key "stringAt") BuiltIn.stringAt (picking t n)
      (String.ofList (BuiltIn.charAt? t (if n < 1 then n else n - 1)).toList) := by
  refine prints_of_yields fun scope functions => ?_
  rw [← functions]
  let texts := [t, intChars n]
  let c : Call := ⟨"stringAt".toList, joined (texts.map escape), 0, 1⟩
  have named : IsIdentifier "stringAt".toList :=
    Script.isName_iff.1 (show Script.isName "stringAt".toList = true by decide)
  have written : joined (texts.map escape) = escape t ++ ';' :: intChars n := by
    rw [List.map_cons, List.map_singleton, Script.joined_cons_cons, Script.joined_singleton,
      escape_intChars]
  have read : Script.segments (picking t n) 1 = .ok [.call c] := by
    rw [picking, ← written]
    exact Script.segments_call_escaped named texts 1
  have cut : c.arguments = texts.map escape :=
    Script.arguments_escaped (List.cons_ne_nil _ _) (by simp [texts])
  obtain ⟨remaining, depth⟩ : ∃ remaining, i.settings.maxDepth = remaining + 1 :=
    Nat.exists_eq_succ_of_ne_zero (Nat.ne_of_gt i.settings.one_le_maxDepth)
  rw [depth]
  refine receives_render read rfl ?_
  exact yields_call rfl rfl (BuiltIn.printed_picked _)
    (BuiltIn.receives_stringAt (.of_escaped cut rfl) rfl within ⟨rfl, rfl, rfl⟩)

theorem prints_picking_zero (i : Interpreter) (t : List Char) :
    i.Prints (FunctionName.key "stringAt") BuiltIn.stringAt (picking t 0)
      (String.ofList (t.take 1)) := by
  rw [← charAt?_zero]
  exact prints_picking i t (exceedsLimit_eq_false 1 (by decide) (by decide))

/-- **Which character is picked.** Take any text and any whole number within the limit on digits.
Places are counted from one, or from the end by negative numbers, and there is nothing before the
first character and after the last one. Place zero is taken for the first place. -/
theorem characters_picked (i : Interpreter) (t : List Char) (n : Int)
    (within : exceedsLimit n = false) :
    (∀ (k : Nat) (x : Char), t[k]? = some x → n = k + 1 ∨ n = k - t.length →
      i.Prints (FunctionName.key "stringAt") BuiltIn.stringAt (picking t n) (String.ofList [x])) ∧
    (n < -(t.length : Int) ∨ (t.length : Int) < n →
      i.Prints (FunctionName.key "stringAt") BuiltIn.stringAt (picking t n) "") ∧
    (n = 0 → i.Prints (FunctionName.key "stringAt") BuiltIn.stringAt (picking t n)
      (String.ofList (t.take 1))) := by
  have prints := prints_picking i t within
  refine ⟨fun k x here place => ?_, fun outside => ?_, ?_⟩
  · have picked : BuiltIn.charAt? t (if n < 1 then n else n - 1) = some x :=
      place.elim (charAt?_of_forward here) (charAt?_of_backward here)
    rw [picked] at prints
    exact prints
  · rw [charAt?_of_outside outside] at prints
    exact prints
  · rintro rfl
    exact prints_picking_zero i t

/-- `$stringAt[hello;-1]` prints the last character. -/
theorem characters_picked_last :
    exceedsLimit (-1) = false ∧ ("hello".toList)[4]? = some 'o' ∧
      picking "hello".toList (-1) = "$stringAt[hello;-1]".toList ∧
      ∃ r, (Program.run (S := Questions) equipped ()
          (bare.handle (plain (picking "hello".toList (-1))))).1 = .ok r ∧
        r.status = .success ∧ r.output = some "o" := by
  have within : exceedsLimit (-1) = false := exceedsLimit_eq_false 1 (by decide) (by decide)
  have here : ("hello".toList)[4]? = some 'o' := rfl
  have prints := (characters_picked bare "hello".toList (-1) within).1 4 'o' here (.inr rfl)
  exact ⟨within, here, by decide, prints.equipped rfl⟩

/-- **There is a character at place zero**: `$stringAt[hello;0]` does not print nothing. -/
theorem not_nothing_at_zero :
    ¬∀ (i : Interpreter) (t : List Char) (n : Int), exceedsLimit n = false →
      ¬(1 ≤ n ∧ n ≤ t.length) → ¬(-(t.length : Int) ≤ n ∧ n ≤ -1) →
      i.Prints (FunctionName.key "stringAt") BuiltIn.stringAt (picking t n) "" := by
  intro always
  have within : exceedsLimit 0 = false := exceedsLimit_eq_false 1 (by decide) (by decide)
  obtain ⟨r, ran, -, output⟩ :=
    (always bare "hello".toList 0 within (by decide) (by decide)).equipped rfl
  obtain ⟨r', ran', -, first⟩ := (prints_picking_zero bare "hello".toList).equipped rfl
  obtain rfl := Except.ok.inj (ran.symm.trans ran')
  exact absurd (output.symm.trans first) (by decide)

end Interpreter

end CommandScript
