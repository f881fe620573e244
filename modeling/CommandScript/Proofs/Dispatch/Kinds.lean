import CommandScript.Dispatch.Reading
import CommandScript.Proofs.Program
import CommandScript.Proofs.Value.Literal

/-!
# The check of kinds

Values are checked one after the other against the unions of kinds that are expected of them, up to
the end of the shorter list. The first offence counts, and it alone: a union with a name of no kind
is a fault of the function that checks, and is raised; a value of another kind ends the dispatch,
with a diagnostic that spells the value out. A value with a whole number past the limit on digits
cannot be spelled out, and then the dispatch does not end and the refusal is raised instead.

## Main definitions

- `CommandScript.Routine.NamedIn` — the names of a union
- `CommandScript.Routine.FirstOffence` — where the first offence is, and which one

## Main results

- `CommandScript.Text.mem_splitAt_iff` — the parts of a text between occurrences of a character
- `CommandScript.Routine.mem_alternatives_iff` — the names of a union as they are read
- `CommandScript.Routine.FirstOffence.checkKindsFrom_eq` — values in front of an offence pass
- `CommandScript.Evaluation.first_offence_counts` — what a check of kinds does
-/

namespace CommandScript

open Script (Call)

namespace Text

variable {separator : Char} {cs p : List Char} {ps : List (List Char)}

theorem splitAt_eq_splitOn (separator : Char) (cs : List Char) :
    splitAt separator cs = cs.splitOn separator := by
  induction cs with
  | nil => rfl
  | cons c cs ih =>
    rw [splitAt, ih, List.splitOn_eq_splitOnP, List.splitOn_eq_splitOnP,
      List.splitOnP_cons_eq_if_modifyHead]
    by_cases here : c = separator
    · rw [if_pos here, if_pos (beq_iff_eq.2 here)]
    · rw [if_neg here, if_neg fun same => here (beq_iff_eq.1 same)]
      obtain ⟨q, qs, parts⟩ := List.exists_cons_of_ne_nil
        (List.splitOnP_ne_nil (· == separator) cs)
      rw [parts]
      rfl

theorem notMem_of_mem_splitAt (part : p ∈ splitAt separator cs) : separator ∉ p := by
  induction cs generalizing p with
  | nil =>
    obtain rfl := List.mem_singleton.1 part
    exact List.not_mem_nil
  | cons c cs ih =>
    by_cases here : c = separator
    · rw [here, splitAt_separator] at part
      obtain rfl | later := List.mem_cons.1 part
      · exact List.not_mem_nil
      · exact ih later
    · obtain ⟨q, qs, parts, parts'⟩ := exists_splitAt_cons here cs
      rw [parts] at ih
      rw [parts'] at part
      obtain rfl | later := List.mem_cons.1 part
      · exact List.not_mem_cons_of_ne_of_not_mem (Ne.symm here) (ih List.mem_cons_self)
      · exact ih (List.mem_cons_of_mem _ later)

/-- The parts of a text between occurrences of a character are those without the character of which
the text is joined. -/
theorem mem_splitAt_iff : p ∈ splitAt separator cs ↔
    ∃ ps, [separator].intercalate ps = cs ∧ (∀ q ∈ ps, separator ∉ q) ∧ p ∈ ps := by
  constructor
  · intro part
    exact ⟨_, intercalate_splitAt separator cs, fun q => notMem_of_mem_splitAt, part⟩
  · rintro ⟨ps, rfl, whole, part⟩
    rwa [splitAt_eq_splitOn, List.splitOn_intercalate separator whole (List.ne_nil_of_mem part)]

end Text

theorem Kind.named?_eq_none_iff {n : String} : named? n = none ↔ ∀ k : Kind, k.name ≠ n := by
  rw [named?, List.find?_eq_none]
  constructor
  · intro none k same
    exact none k (by cases k <;> decide) (beq_iff_eq.2 same)
  · intro unknown k _ same
    exact unknown k (beq_iff_eq.1 same)

namespace Routine

variable {C : Type} {n u name shown : String} {position p : Nat} {v : Value} {vs : List Value}
  {unions : List String}

/-! ### Unions -/

/-- A name of a union stands, with blanks around it or without, between two bars or the ends. -/
def NamedIn (n union : String) : Prop :=
  ∃ ps, ['|'].intercalate ps = union.toList ∧ (∀ p ∈ ps, '|' ∉ p) ∧
    ∃ p ∈ ps, String.ofList (Text.trim p) = n

theorem mem_alternatives_iff : n ∈ alternatives u ↔ NamedIn n u := by
  rw [alternatives, List.mem_map, NamedIn]
  constructor
  · rintro ⟨p, part, rfl⟩
    obtain ⟨ps, joined, whole, mem⟩ := Text.mem_splitAt_iff.1 part
    exact ⟨ps, joined, whole, p, mem, rfl⟩
  · rintro ⟨ps, joined, whole, p, mem, rfl⟩
    exact ⟨p, Text.mem_splitAt_iff.2 ⟨ps, joined, whole, mem⟩, rfl⟩

/-- A name of no kind in a union. -/
def Unknown (n union : String) : Prop := NamedIn n union ∧ ∀ k : Kind, k.name ≠ n

theorem mem_unknownKinds_iff : n ∈ unknownKinds (alternatives u) ↔ Unknown n u := by
  rw [unknownKinds, List.mem_mergeSort, List.mem_eraseDups, List.mem_filter,
    mem_alternatives_iff, Option.isNone_iff_eq_none, Kind.named?_eq_none_iff, Unknown]

theorem unknownKinds_eq_nil_iff : unknownKinds (alternatives u) = [] ↔ ¬∃ n, Unknown n u := by
  simp only [List.eq_nil_iff_forall_not_mem, mem_unknownKinds_iff, not_exists]

/-- A value and the union that is expected of it offend if there is a name of no kind in the union,
or the name of the kind of the value is not in it. -/
def Offends (v : Value) (union : String) : Prop :=
  (∃ n, Unknown n union) ∨ ¬NamedIn v.kind.name union

theorem offends_iff : Offends v u ↔
    unknownKinds (alternatives u) ≠ [] ∨ v.kind.name ∉ alternatives u := by
  rw [Offends, Ne, unknownKinds_eq_nil_iff, not_not, mem_alternatives_iff]

instance : Decidable (Offends v u) := decidable_of_iff' _ offends_iff

/-- The place of the first offence in lists of values and unions, and which one it is. -/
structure FirstOffence (vs : List Value) (unions : List String) (p : Nat) (v : Value)
    (union : String) : Prop where
  here : vs[p]? = some v
  expected : unions[p]? = some union
  offends : Offends v union
  first : ∀ q < p, ∀ w u, vs[q]? = some w → unions[q]? = some u → ¬Offends w u

/-- Where something offends, there is a first offence. -/
theorem exists_firstOffence (here : vs[p]? = some v) (expected : unions[p]? = some u)
    (offends : Offends v u) : ∃ q w x, FirstOffence vs unions q w x := by
  induction p using Nat.strongRecOn generalizing v u with
  | ind p ih =>
    by_cases earlier : ∃ q < p, ∃ w x, vs[q]? = some w ∧ unions[q]? = some x ∧ Offends w x
    · obtain ⟨q, lower, w, x, here, expected, offends⟩ := earlier
      exact ih q lower here expected offends
    · refine ⟨p, v, u, here, expected, offends, fun q lower w x here expected offends => ?_⟩
      exact earlier ⟨q, lower, w, x, here, expected, offends⟩

/-! ### One value after the other -/

/-- The message about a value of a kind that is not expected. -/
def otherKind (position : Nat) (union : String) (k : Kind) (shown : String) : String :=
  "The " ++ ordinal position ++ " argument expects " ++ union ++ ", got " ++ k.name ++ " (" ++
    shown ++ ")"

theorem checkKindsFrom_cons_of_unknown (unknown : Unknown n u) :
    (checkKindsFrom name position (v :: vs) (u :: unions) : Routine C Bool) =
      .raise (.unknownKinds (unknownKinds (alternatives u)) name) := by
  have some : (!(unknownKinds (alternatives u)).isEmpty) = true := by
    rw [Bool.not_eq_true', List.isEmpty_eq_false_iff, Ne, unknownKinds_eq_nil_iff, not_not]
    exact ⟨n, unknown⟩
  rw [checkKindsFrom]
  exact if_pos some

/-- Where all names of a union are known, the kind of the value counts. -/
theorem checkKindsFrom_cons_of_known (known : ¬∃ n, Unknown n u) :
    (checkKindsFrom name position (v :: vs) (u :: unions) : Routine C Bool) =
      if (alternatives u).contains v.kind.name then checkKindsFrom name (position + 1) vs unions
      else do
        let shown ← lift .conversion v.literalText
        let _ ← signal "type" (otherKind position u v.kind shown)
        return false := by
  rw [checkKindsFrom, unknownKinds_eq_nil_iff.2 known]
  exact if_neg Bool.false_ne_true

theorem contains_alternatives_iff :
    (alternatives u).contains n = true ↔ NamedIn n u := by
  rw [List.contains_iff_mem, mem_alternatives_iff]

/-- A value that does not offend passes. -/
theorem checkKindsFrom_cons_of_not_offends (good : ¬Offends v u) :
    (checkKindsFrom name position (v :: vs) (u :: unions) : Routine C Bool) =
      checkKindsFrom name (position + 1) vs unions := by
  obtain ⟨known, named⟩ := not_or.1 good
  rw [checkKindsFrom_cons_of_known known]
  exact if_pos (contains_alternatives_iff.2 (not_not.1 named))

/-- Values of which none offends pass. -/
theorem checkKindsFrom_of_forall
    (good : ∀ (p : Nat) v u, vs[p]? = some v → unions[p]? = some u → ¬Offends v u) :
    (checkKindsFrom name position vs unions : Routine C Bool) = .done true := by
  induction vs generalizing position unions with
  | nil => rfl
  | cons v vs ih =>
    cases unions with
    | nil => rfl
    | cons u unions =>
      rw [checkKindsFrom_cons_of_not_offends (good 0 v u rfl rfl)]
      exact ih fun p w x => good (p + 1) w x

/-- Values in front of the first offence pass. -/
theorem FirstOffence.checkKindsFrom_eq (offence : FirstOffence vs unions p v u) :
    ∃ vs' unions', (checkKindsFrom name position vs unions : Routine C Bool) =
      checkKindsFrom name (position + p) (v :: vs') (u :: unions') := by
  induction p generalizing position vs unions with
  | zero =>
    obtain ⟨vs, rfl⟩ := List.head?_eq_some_iff.1 (List.head?_eq_getElem?.trans offence.here)
    obtain ⟨unions, rfl⟩ := List.head?_eq_some_iff.1
      (List.head?_eq_getElem?.trans offence.expected)
    exact ⟨vs, unions, rfl⟩
  | succ p ih =>
    obtain ⟨here, expected, offends, first⟩ := offence
    cases vs with
    | nil => cases here
    | cons w vs =>
      cases unions with
      | nil => cases expected
      | cons x unions =>
        have passes : ¬Offends w x := first 0 (Nat.succ_pos p) w x rfl rfl
        rw [checkKindsFrom_cons_of_not_offends passes, Nat.add_comm p 1, ← Nat.add_assoc]
        exact ih ⟨here, expected, offends, fun q lower => first (q + 1) (Nat.succ_lt_succ lower)⟩

theorem FirstOffence.checkKindsFrom_of_unknown (offence : FirstOffence vs unions p v u)
    (unknown : ∃ n, Unknown n u) :
    (checkKindsFrom name position vs unions : Routine C Bool) =
      .raise (.unknownKinds (unknownKinds (alternatives u)) name) := by
  obtain ⟨n, unknown⟩ := unknown
  obtain ⟨vs', unions', passes⟩ := offence.checkKindsFrom_eq
  rw [passes, checkKindsFrom_cons_of_unknown unknown]

/-- Where all names of the union are known, a value of another kind is spelled out, and ends the
dispatch. -/
theorem FirstOffence.checkKindsFrom_of_known (offence : FirstOffence vs unions p v u)
    (known : ¬∃ n, Unknown n u) :
    (checkKindsFrom name position vs unions : Routine C Bool) = do
      let shown ← lift .conversion v.literalText
      let _ ← signal "type" (otherKind (position + p) u v.kind shown)
      return false := by
  have other : ¬NamedIn v.kind.name u := offence.offends.resolve_left known
  obtain ⟨vs', unions', passes⟩ := offence.checkKindsFrom_eq
  rw [passes, checkKindsFrom_cons_of_known known]
  exact if_neg (mt contains_alternatives_iff.1 other)

end Routine

namespace Evaluation

open Routine

variable {render : List Char → Int → Evaluation Outcome} {scope : Scope} {c : Call} {memo : Memo}
  {d : Dispatch} {vs : List Value} {unions : List String} {p : Nat} {v : Value} {u : String}

theorem ensures_abort (unended : d.halted = none) (reason details : String) :
    (abort scope c reason (some details)).Ensures d fun _ _ d' =>
      d' = { d with
        halted := some (.aborted reason (some (Diagnostic.text c.shownName details (some c.line)))
          (some c.shownName)) } := by
  refine ensures_bind.2 (ensures_bind.2 (ensures_get.2 ?_))
  rw [unended]
  refine ensures_bind.2 (ensures_modify.2 (ensures_bind.2 (ensures_observe.2 ?_)))
  exact ensures_bind.2 (ensures_note.2 (ensures_pure.2 (ensures_pure.2 rfl)))

/-- The check of a list of values knows the name of its function, and begins at the first one. -/
theorem routine_checkKinds (vs : List Value) (unions : List String) :
    routine render scope c memo (checkKinds vs unions) d =
      routine render scope c memo (checkKindsFrom c.shownName 1 vs unions) d := rfl

/-- **The first offence counts.** Values are checked against unions of kinds in a dispatch that has
not ended, whatever its surroundings answer. Where there is no first offence, the check succeeds and
the dispatch goes on. Where there are unknown names in the union of the first offence, these names
are reported in a failure and the dispatch goes on. Where all its names are known, the value is of
another kind: the check fails, and the dispatch ends with a diagnostic of the ordinal of its place,
the union, the kind of the value and the value spelled out. Only a value with a whole number past
the limit on digits cannot be spelled out: this is reported in a failure, and the dispatch goes
on. -/
theorem first_offence_counts (unended : d.halted = none) (vs : List Value)
    (unions : List String) :
    ((¬∃ p v u, FirstOffence vs unions p v u) →
      (routine render scope c memo (checkKinds vs unions)).Ensures d fun _ r d' =>
        r = (.ok true, memo) ∧ d' = d) ∧
    ∀ p v u, FirstOffence vs unions p v u →
      ((∃ n, Unknown n u) → (routine render scope c memo (checkKinds vs unions)).Ensures d
        fun _ r d' => ∃ names, r = (.error (.unknownKinds names c.shownName), memo) ∧
          (Failure.unknownKinds names c.shownName).kind = "ValueError" ∧
          (∀ n, n ∈ names ↔ Unknown n u) ∧ d' = d) ∧
      ((¬∃ n, Unknown n u) → ¬v.Overlong → ∃ shown, v.literalText = .ok shown ∧
        (routine render scope c memo (checkKinds vs unions)).Ensures d fun _ r d' =>
          r = (.ok false, memo) ∧
            d' = { d with
              halted := some (.aborted "type" (some (Diagnostic.text c.shownName
                (otherKind (p + 1) u v.kind shown) (some c.line))) (some c.shownName)) }) ∧
      ((¬∃ n, Unknown n u) → v.Overlong →
        (routine render scope c memo (checkKinds vs unions)).Ensures d fun _ r d' =>
          r = (.error (.conversion .unwritable), memo) ∧ d' = d) := by
  refine ⟨fun none => ?_, fun p v u offence => ⟨fun unknown => ?_, fun known spelled => ?_,
    fun known overlong => ?_⟩⟩
  · have good (p : Nat) (v : Value) (u : String) (here : vs[p]? = some v)
        (expected : unions[p]? = some u) : ¬Offends v u :=
      fun offends => none (exists_firstOffence here expected offends)
    refine Ensures.congr ?_ (routine_checkKinds vs unions)
    rw [checkKindsFrom_of_forall good]
    exact ensures_pure.2 ⟨rfl, rfl⟩
  · refine Ensures.congr ?_ (routine_checkKinds vs unions)
    rw [offence.checkKindsFrom_of_unknown unknown]
    exact ensures_pure.2 ⟨_, rfl, rfl, fun n => mem_unknownKinds_iff, rfl⟩
  · obtain ⟨shown, literal⟩ := Value.exists_literalText spelled
    refine ⟨shown, literal, Ensures.congr ?_ (routine_checkKinds vs unions)⟩
    rw [offence.checkKindsFrom_of_known known, literal, Nat.add_comm p 1]
    refine ensures_bind.2 (Ensures.imp (ensures_abort unended "type" _) fun _ _ d' ended => ?_)
    exact ensures_pure.2 ⟨rfl, ended⟩
  · refine Ensures.congr ?_ (routine_checkKinds vs unions)
    rw [offence.checkKindsFrom_of_known known, Value.literalText_eq_error_iff.2 overlong]
    exact ensures_pure.2 ⟨rfl, rfl⟩

/-- A call of `$f` without arguments, on its own. -/
def lone : Call := ⟨['f'], [], 0, 1⟩

/-- Of two values the second one is of another kind than expected. -/
theorem first_offence_counts_second :
    Dispatch.start.halted = none ∧
      FirstOffence [.int 1, .text "a"] ["number", "number | boolean"] 1 (.text "a")
        "number | boolean" ∧
      (¬∃ n, Unknown n "number | boolean") ∧ ¬(Value.text "a").Overlong ∧
      (routine (fun _ _ => pure (.ok "")) ⟨0, .usual, .null, false, none, none⟩ lone []
        (checkKinds [.int 1, .text "a"] ["number", "number | boolean"])).Ensures .start
        fun _ r d' => r = (.ok false, []) ∧ d'.halted = some (.aborted "type"
          (some ("Error[$f]: The 2nd argument expects number | boolean, got string ('a')\n" ++
            "\x7b line: 1, command: $f \x7d")) (some "$f")) := by
  have offence : FirstOffence [.int 1, .text "a"] ["number", "number | boolean"] 1 (.text "a")
      "number | boolean" := by
    refine ⟨rfl, rfl, by decide +kernel, fun q lower w u here expected => ?_⟩
    obtain rfl : q = 0 := Nat.lt_one_iff.1 lower
    cases here
    cases expected
    decide +kernel
  have known : ¬∃ n, Unknown n "number | boolean" :=
    unknownKinds_eq_nil_iff.1 (by decide +kernel)
  have spelled : ¬(Value.text "a").Overlong := by
    rw [← Value.literal?_eq_none_iff]
    exact Option.some_ne_none _
  have worded : Diagnostic.text lone.shownName (otherKind (1 + 1) "number | boolean"
      (Value.text "a").kind (Text.quoted "a")) (some lone.line) =
      "Error[$f]: The 2nd argument expects number | boolean, got string ('a')\n" ++
        "\x7b line: 1, command: $f \x7d" := by decide +kernel
  obtain ⟨-, counts⟩ := @first_offence_counts (fun _ _ => pure (.ok ""))
    ⟨0, .usual, .null, false, none, none⟩ lone [] .start rfl
    [.int 1, .text "a"] ["number", "number | boolean"]
  obtain ⟨shown, literal, ends⟩ := (counts _ _ _ offence).2.1 known spelled
  refine ⟨rfl, offence, known, spelled, Ensures.imp ends fun _ r d' ended => ⟨ended.1, ?_⟩⟩
  cases literal
  rw [ended.2, worded]
  rfl

/-- A whole number of one digit more than the limit. -/
def tooLong : Value := .int (Nat.pow 10 Numeral.digitLimit)

theorem overlong_tooLong : tooLong.Overlong := .int (by decide +kernel)

/-- **A number past the limit on digits** where a text is expected does not end the dispatch. -/
theorem not_always_ended :
    ¬∀ (render : List Char → Int → Evaluation Outcome) (scope : Scope) (c : Call) (memo : Memo)
      (d : Dispatch) (vs : List Value) (unions : List String) (p : Nat) (v : Value) (u : String),
      d.halted = none → FirstOffence vs unions p v u → (¬∃ n, Unknown n u) →
        (routine render scope c memo (checkKinds vs unions)).Ensures d fun _ r d' =>
          r.1 = .ok false ∧ d'.halted.isSome = true := by
  intro always
  have offence : FirstOffence [tooLong] ["string"] 0 tooLong "string" :=
    ⟨rfl, rfl, by decide +kernel, fun q lower => absurd lower (Nat.not_lt_zero q)⟩
  have known : ¬∃ n, Unknown n "string" := unknownKinds_eq_nil_iff.1 (by decide +kernel)
  have ends := always (fun _ _ => pure (.ok "")) ⟨0, .usual, .null, false, none, none⟩ lone []
    .start [tooLong] ["string"] 0 tooLong "string" rfl offence known
  rw [Ensures, routine_checkKinds, offence.checkKindsFrom_of_known known,
    Value.literalText_eq_error_iff.2 overlong_tooLong] at ends
  cases ends.1

end Evaluation

end CommandScript
