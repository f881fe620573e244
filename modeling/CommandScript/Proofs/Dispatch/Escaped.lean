import CommandScript.Dispatch.Calls
import CommandScript.Proofs.Program
import CommandScript.Proofs.Script.Joining
import CommandScript.Proofs.Script.Marks

/-!
# Escaped texts

A text with its escapes is data wherever it stands in a command string. Evaluated by itself it gives
the text, and as an argument of a call it is one argument, whose value is the text. Nothing is
looked up or called on its behalf.

## Main definitions

- `CommandScript.Question.IsTelling` — an observer is told that a text is evaluated
- `CommandScript.Evaluation.Gives` — computations that do nothing but give a result
- `CommandScript.Memo.Holds` — an argument that has been read has the text that was written for it

## Main results

- `CommandScript.Script.isArgument_escape` — texts with escapes may be arguments
- `CommandScript.Script.segments_call_escaped` — a call with such arguments is read as one call
- `CommandScript.Evaluation.escaped_inert` — such texts are data
-/

namespace CommandScript

namespace Script

/-- A text with its escapes may be an argument. -/
theorem isArgument_escape (t : List Char) : IsArgument (escape t) := by
  refine ⟨⟨level?_inert (fun _ => inert_of_mem) 0, getLast?_glyphs_escape t⟩, ?_⟩
  exact undivided_of_notMem fun mem => (inert_of_mem mem).ne (by decide) rfl

theorem eq_nil_of_escape {t : List Char} (h : escape t = []) : t = [] := by
  rw [← unescape_escape t, h]
  rfl

/-- A text with its escapes may stand in a command string as a literal text. -/
theorem canonical_escape {t : List Char} (nonempty : t ≠ []) :
    Canonical [.literal (escape t)] where
  literal raw mem := by
    obtain rfl := Segment.literal.inj (List.mem_singleton.1 mem)
    refine ⟨mt eq_nil_of_escape nonempty, not_opens_of_notMem fun bracket => ?_⟩
    exact (inert_of_mem bracket).ne (by decide) rfl
  chain := .singleton _
  call c mem := by cases List.mem_singleton.1 mem

/-- A text with its escapes is read as one literal text, where there is anything to read. -/
theorem segments_escape (t : List Char) (line : Int) :
    segments (escape t) line = .ok (if t = [] then [] else [.literal (escape t)]) := by
  split
  · next empty =>
    rw [empty, escape, List.flatMap_nil, segments, glyphs, segmentsFrom]
  · next nonempty =>
    have read := (canonical_escape nonempty).segments_eq line
    rwa [source_cons, source_nil, List.append_nil] at read

section Arguments

variable {f : List Char} {ts : List (List Char)}

theorem isArgument_of_mem_map_escape (a : List Char) (mem : a ∈ ts.map escape) : IsArgument a := by
  obtain ⟨t, -, rfl⟩ := List.mem_map.1 mem
  exact isArgument_escape t

/-- The arguments that are cut from texts with escapes are these texts. -/
theorem arguments_escaped (some : ts ≠ []) (more : ts ≠ [[]]) :
    arguments (joined (ts.map escape)) = ts.map escape := by
  refine arguments_joined isArgument_of_mem_map_escape (by simpa using some) fun eq => more ?_
  obtain ⟨t, rfl, empty⟩ := List.map_eq_singleton_iff.1 eq
  rw [eq_nil_of_escape empty]

/-- A call whose arguments may be arguments is read as one call. -/
theorem segments_single_call {as : List (List Char)} (named : IsIdentifier f)
    (each : ∀ a ∈ as, IsArgument a) (line : Int) :
    segments ('$' :: f ++ '[' :: joined as ++ [']']) line =
      .ok [.call ⟨f, joined as, 0, line⟩] := by
  have canonical : Canonical [.call ⟨f, joined as, 0, line⟩] := by
    refine ⟨fun raw mem => ?_, .singleton _, fun c mem => ?_⟩
    · cases List.mem_singleton.1 mem
    · obtain rfl := Segment.call.inj (List.mem_singleton.1 mem)
      exact ⟨named, closed_joined each⟩
  have read := canonical.segments_eq line
  rwa [source_cons, source_nil, List.append_nil] at read

/-- A call whose arguments are texts with escapes is read as one call. -/
theorem segments_call_escaped (named : IsIdentifier f) (ts : List (List Char)) (line : Int) :
    segments ('$' :: f ++ '[' :: joined (ts.map escape) ++ [']']) line =
      .ok [.call ⟨f, joined (ts.map escape), 0, line⟩] :=
  segments_single_call named isArgument_of_mem_map_escape line

end Arguments

end Script

/-- An observer is told that a text is evaluated, or that it has been. -/
def Question.IsTelling : Question → Prop
  | .observe _ (.rendering ..) | .observe _ (.rendered ..) => True
  | _ => False

/-- Each text that a call has read is the one that was written for it. -/
def Memo.Holds (memo : Memo) (ts : List (List Char)) : Prop :=
  ∀ i s, memo.lookup i = some s → ts[i]?.map String.ofList = some s

theorem Memo.Holds.cons {memo : Memo} {ts : List (List Char)} (h : memo.Holds ts) {i : Nat}
    {t : List Char} (here : ts[i]? = some t) : Memo.Holds ((i, String.ofList t) :: memo) ts := by
  intro j s found
  by_cases same : j = i
  · subst same
    rw [List.lookup_cons_self] at found
    rw [here, ← found]
    rfl
  · rw [List.lookup_cons, beq_false_of_ne same] at found
    exact h j s found

namespace Evaluation

open Script

/-- Every run of a computation gives a result that meets a condition and leaves the dispatch as it
is, and all that comes up is that an observer is told of texts that are evaluated. -/
def Gives {α : Type} (e : Evaluation α) (d : Dispatch) (post : α → Prop) : Prop :=
  e.Ensures d fun qs a d' => post a ∧ d' = d ∧ ∀ q ∈ qs, q.IsTelling

section Gives

variable {α β : Type} {d : Dispatch} {e : Evaluation α} {f : α → Evaluation β} {P : α → Prop}
  {post : β → Prop}

theorem Gives.bind (first : e.Gives d P) (second : ∀ a, P a → (f a).Gives d post) :
    (e >>= f).Gives d post := by
  refine ensures_bind.2 (Ensures.imp first fun qs a d' r => ?_)
  obtain ⟨meets, rfl, telling⟩ := r
  refine Ensures.imp (second a meets) fun rs b d'' r' => ?_
  obtain ⟨meets', rfl, telling'⟩ := r'
  exact ⟨meets', rfl, List.forall_mem_append.2 ⟨telling, telling'⟩⟩

theorem gives_pure {b : β} (h : post b) : (pure b : Evaluation β).Gives d post :=
  ensures_pure.2 ⟨h, rfl, by simp⟩

theorem gives_get_bind {f : Dispatch → Evaluation β} (h : (f d).Gives d post) :
    (get >>= f).Gives d post := h

theorem gives_rendering {cs : List Char} {line : Int} :
    (observe (.rendering cs line)).Gives d fun _ => True :=
  ensures_observe.2 ⟨trivial, rfl, List.forall_mem_singleton.2 trivial⟩

theorem gives_rendered {cs : List Char} {line : Int} {o : Outcome} :
    (observe (.rendered cs line o)).Gives d fun _ => True :=
  ensures_observe.2 ⟨trivial, rfl, List.forall_mem_singleton.2 trivial⟩

end Gives

variable {scope : Scope} {remaining : Nat} {d : Dispatch}

/-- A text with its escapes gives the text. -/
theorem render_escape (t : List Char) (line : Int) (unended : d.halted = none) :
    (render scope remaining (escape t) line).Gives d (· = .ok (String.ofList t)) := by
  refine gives_get_bind ?_
  rw [unended]
  refine gives_rendering.bind fun _ _ => ?_
  refine Gives.bind (P := (· = .ok (String.ofList t))) ?_ fun o same => ?_
  · rw [segments_escape]
    split
    · next empty =>
      rw [empty]
      exact gives_pure rfl
    · next nonempty =>
      rw [parsed, segments, unescape_escape]
      refine Gives.bind (P := (· = .ok "")) (gives_pure rfl) fun o same => ?_
      rw [same]
      exact gives_pure (by simp [Except.map])
  · exact gives_rendered.bind fun _ _ => gives_pure same

/-- An argument that is a text with its escapes gives the text. -/
theorem argument_escaped {c : Call} {ts : List (List Char)} (written : c.arguments = ts.map escape)
    {i : Nat} {t : List Char} (here : ts[i]? = some t) {memo : Memo} (holds : memo.Holds ts)
    (unended : d.halted = none) :
    (argument (render scope remaining) scope c memo i).Gives d fun r =>
      r.1 = some (String.ofList t) ∧ r.2.Holds ts := by
  obtain ⟨line, found⟩ : ∃ line, c.argumentAt? i = some (escape t, line) := by
    have lines : (argumentLines c.raw c.line).length = c.arguments.length := length_linesFrom _ _
    have bound : i < (argumentLines c.raw c.line).length := by
      rw [lines, written, List.length_map]
      exact (List.getElem?_eq_some_iff.1 here).1
    refine ⟨(argumentLines c.raw c.line)[i], ?_⟩
    rw [Call.argumentAt?, if_neg (by omega), Int.toNat_natCast, List.getElem?_zip_eq_some, written]
    exact ⟨by rw [List.getElem?_map, here]; rfl, List.getElem?_eq_getElem bound⟩
  unfold argument
  rw [found, Int.toNat_natCast]
  cases known : memo.lookup i with
  | some s =>
    have same := holds i s known
    rw [here] at same
    exact gives_pure ⟨same.symm, holds⟩
  | none =>
    refine gives_get_bind ?_
    rw [if_neg (by simp [Dispatch.isHalted, unended])]
    refine (render_escape t line unended).bind fun o same => ?_
    rw [same]
    exact gives_pure ⟨rfl, holds.cons here⟩

/-- Reading an argument gives its text, or nothing past the last one. -/
theorem argument_written {c : Call} {ts : List (List Char)} (written : c.arguments = ts.map escape)
    (i : Nat) {memo : Memo} (holds : memo.Holds ts) (unended : d.halted = none) :
    (argument (render scope remaining) scope c memo i).Gives d fun r =>
      r.1 = ts[i]?.map String.ofList ∧ r.2.Holds ts := by
  cases here : ts[i]? with
  | some t => exact argument_escaped written here holds unended
  | none =>
    have absent : c.argumentAt? i = none := by
      rw [Call.argumentAt?, if_neg (Int.not_lt.2 (Int.natCast_nonneg i)), Int.toNat_natCast,
        List.getElem?_eq_none_iff, List.length_zip, written, List.length_map]
      exact Nat.le_trans (Nat.min_le_left _ _) (List.getElem?_eq_none_iff.1 here)
    unfold argument
    rw [absent]
    exact gives_pure ⟨rfl, holds⟩

/-- **Texts with escapes are data.** They stand for the texts, they give the texts when they are
evaluated, and as arguments of a call they are the arguments that were meant, each of which gives
its text whenever it is read. All that comes up is that an observer is told of texts that are
evaluated: nothing is looked up, called or left for the host. -/
theorem escaped_inert :
    (∀ t, unescape (escape t) = t) ∧
    (∀ scope remaining t line d, d.halted = none →
      (render scope remaining (escape t) line).Gives d (· = .ok (String.ofList t))) ∧
    ∀ f ts line, IsIdentifier f → ts ≠ [] → ts ≠ [[]] →
      ∃ c : Call, c.name = f ∧
        Script.segments ('$' :: f ++ '[' :: joined (ts.map escape) ++ [']']) line =
          .ok [.call c] ∧
        c.arguments = ts.map escape ∧
        ∀ scope remaining (i : Nat) t memo d, ts[i]? = some t → memo.Holds ts → d.halted = none →
          (argument (render scope remaining) scope c memo i).Gives d fun r =>
            r.1 = some (String.ofList t) ∧ r.2.Holds ts := by
  refine ⟨unescape_escape, fun _ _ t line _ => render_escape t line,
    fun f ts line named some more => ?_⟩
  have written : Call.arguments ⟨f, joined (ts.map escape), 0, line⟩ = ts.map escape :=
    arguments_escaped some more
  exact ⟨_, rfl, segments_call_escaped named ts line, written,
    fun _ _ _ _ _ _ here holds unended => argument_escaped written here holds unended⟩

/-- A text that looks like the head of a call, and one that looks like a separator. -/
theorem escaped_inert_head :
    IsIdentifier ['f'] ∧ [['$', 'f', '['], [';']] ≠ [] ∧ [['$', 'f', '['], [';']] ≠ [[]] ∧
      Dispatch.start.halted = none ∧ Memo.Holds [] [['$', 'f', '['], [';']] ∧
      (∀ scope, (render scope 1 ['\\', '$', 'f', '\\', '['] 1).Gives .start (· = .ok "$f[")) ∧
      ∃ c : Call, c.name = ['f'] ∧
        Script.segments ['$', 'f', '[', '\\', '$', 'f', '\\', '[', ';', '\\', ';', ']'] 1 =
          .ok [.call c] ∧
        c.arguments = [['\\', '$', 'f', '\\', '['], ['\\', ';']] ∧
        ∀ scope, (argument (render scope 1) scope c [] 1).Gives .start fun r =>
          r.1 = some ";" ∧ r.2.Holds [['$', 'f', '['], [';']] := by
  have named : IsIdentifier ['f'] := ⟨'f', [], rfl, by decide, by simp⟩
  have holds : Memo.Holds [] [['$', 'f', '['], [';']] := fun i s found => by cases found
  obtain ⟨c, name, read, written, values⟩ :=
    escaped_inert.2.2 ['f'] [['$', 'f', '['], [';']] 1 named (by simp) (by simp)
  refine ⟨named, by simp, by simp, rfl, holds, fun scope => ?_, c, name, read, written,
    fun scope => ?_⟩
  · exact escaped_inert.2.1 scope 1 ['$', 'f', '['] 1 .start rfl
  · exact values scope 1 1 [';'] [] .start rfl holds rfl

end Evaluation

end CommandScript
