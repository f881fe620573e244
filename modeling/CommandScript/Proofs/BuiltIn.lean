import CommandScript.BuiltIn
import CommandScript.Proofs.Dispatch.Discreet

/-!
# What built-in functions read

Every built-in function looks at its call only through the values and the number of its arguments.
The function that ends a dispatch in silence reads no argument at all, and the one that chooses
between its arguments reads its condition and the argument that it chooses, and no others.

## Main definitions

- `CommandScript.Routine.Avoids` — routines that do not read an argument

## Main results

- `CommandScript.BuiltIn.discreet` — built-in functions are discreet
- `CommandScript.BuiltIn.avoids_halt`, `CommandScript.BuiltIn.avoids_chosen` — arguments that
  built-in functions do not read
-/

namespace CommandScript

namespace Routine

variable {C α β : Type} {k : Nat}

section Discreet

theorem discreet_lift {ε : Type} (wrap : ε → Failure) (e : Except ε α) :
    (lift wrap e : Routine C α).Discreet := by
  cases e with
  | error e => trivial
  | ok a => trivial

theorem discreet_ite {p : Prop} [Decidable p] {r r' : Routine C α} (first : r.Discreet)
    (second : r'.Discreet) : (if p then r else r').Discreet := by
  split
  · exact first
  · exact second

theorem discreet_argumentOr (index : Int) (default : String) :
    (argumentOr index default : Routine C String).Discreet := fun _ => trivial

theorem discreet_valueOr (index : Int) (default : Value) :
    (valueOr index default : Routine C Value).Discreet := by
  refine Discreet.bind (fun s => ?_) fun _ => trivial
  cases s with
  | none => trivial
  | some s => exact discreet_lift _ _

theorem discreet_isAborted : (isAborted : Routine C Bool).Discreet :=
  ⟨fun _ _ same => congrArg done same.isAborted, fun _ => trivial⟩

theorem discreet_argumentCount : (argumentCount : Routine C Nat).Discreet :=
  ⟨fun _ _ same => congrArg done same.count, fun _ => trivial⟩

theorem discreet_signalError (message : String) : (signalError message : Routine C Halt).Discreet :=
  fun _ => trivial

theorem discreet_ending {r : Routine C Halt} (h : r.Discreet) : (ending r).Discreet :=
  h.bind fun _ => trivial

theorem discreet_checkCount (expected : Int) (exact : Bool) :
    (checkCount expected exact : Routine C Bool).Discreet := by
  refine discreet_argumentCount.bind fun count => discreet_ite ?_ trivial
  exact fun _ => trivial

theorem discreet_checkKindsFrom (name : String) (position : Nat) (vs : List Value)
    (kinds : List String) : (checkKindsFrom name position vs kinds : Routine C Bool).Discreet := by
  induction vs generalizing position kinds with
  | nil => trivial
  | cons v vs ih =>
    cases kinds with
    | nil => trivial
    | cons expected rest =>
      rw [checkKindsFrom]
      refine discreet_ite trivial (discreet_ite (ih _ _) ?_)
      exact (discreet_lift _ _).bind fun _ _ => trivial

theorem discreet_checkKinds (vs : List Value) (kinds : List String) :
    (checkKinds vs kinds : Routine C Bool).Discreet := by
  refine ⟨fun v w same => ?_, fun v => discreet_checkKindsFrom _ _ _ _⟩
  exact congrArg (checkKindsFrom · 1 vs kinds) same.name

theorem discreet_values (count : Nat) : (values count : Routine C (List Value)).Discreet := by
  induction count with
  | zero => trivial
  | succ n ih => exact ih.bind fun _ => (discreet_valueOr _ _).bind fun _ => trivial

theorem discreet_store (q : Store.Query) : (store q : Routine C Value).Discreet :=
  fun _ => discreet_lift _ _

theorem discreet_ofProgram (p : Program Effects α) : (ofProgram p : Routine C α).Discreet := by
  induction p with
  | done a => trivial
  | ask q next ih => exact ih

end Discreet

/-- The routine does not read an argument, whatever it is told. -/
def Avoids (k : Nat) : Routine C α → Prop
  | .done _ => True
  | .raise _ => True
  | .argument i next => i ≠ k ∧ ∀ s, (next s).Avoids k
  | .look next => ∀ v, (next v).Avoids k
  | .abort _ _ next => ∀ h, (next h).Avoids k
  | .emit _ _ next => next.Avoids k
  | .recall _ next => ∀ v, (next v).Avoids k
  | .remember _ _ next => next.Avoids k
  | .change _ next => ∀ e, (next e).Avoids k
  | .effect _ next => ∀ r, (next r).Avoids k

/-- A routine that does not read an argument does not come to read it. -/
theorem Avoids.seeking_eq {r : Routine C α} (h : r.Avoids k) :
    r.seeking k = r >>= fun _ => done false := by
  induction r with
  | done a => rfl
  | raise e => rfl
  | argument i next ih =>
    rw [seeking, if_neg h.1]
    exact congrArg (argument i) (funext fun s => ih s (h.2 s))
  | look next ih => exact congrArg look (funext fun v => ih v (h v))
  | abort reason details next ih =>
    exact congrArg (abort reason details) (funext fun e => ih e (h e))
  | emit m topics next ih => exact congrArg (emit m topics) (ih h)
  | «recall» key next ih => exact congrArg (Routine.recall key) (funext fun v => ih v (h v))
  | remember key v next ih => exact congrArg (remember key v) (ih h)
  | change c next ih => exact congrArg (change c) (funext fun e => ih e (h e))
  | effect q next ih => exact congrArg (effect q) (funext fun r => ih r (h r))

end Routine

namespace Evaluation

open Script

variable {α : Type} {render : List Char → Int → Evaluation Outcome} {scope : Scope} {c : Call}
  {memo : Memo} {d : Dispatch} {k : Nat}

/-- Nothing that follows a routine changes that it tells what comes at its end. -/
theorem ensures_routine_bind_done (r : Routine Callback α) (b : Bool) :
    (routine render scope c memo (r >>= fun _ => .done b)).Ensures d fun _ x _ =>
      ∀ b', x.1 = .ok b' → b' = b := by
  have anything {β γ : Type} {e : Evaluation β} {f : β → Evaluation γ}
      {post : γ → Dispatch → Prop} {d : Dispatch}
      (later : ∀ x d', (f x).Ensures d' fun _ => post) : (e >>= f).Ensures d fun _ => post :=
    ensures_bind.2 (Program.Ensures.of_forall fun _ r => later r.1 r.2)
  induction r generalizing memo d with
  | done a => exact fun b' eq => (Except.ok.inj eq).symm
  | raise e => exact fun b' eq => by cases eq
  | argument i next ih => exact anything fun x d' => ih x.1
  | look next ih => exact anything fun v d' => ih v
  | abort reason details next ih => exact anything fun h d' => ih h
  | emit m topics next ih => exact anything fun _ d' => ih
  | «recall» key next ih => exact anything fun e d' => ih _
  | remember key v next ih => exact anything fun _ d' => ih
  | change ch next ih => exact anything fun e d' => ih e
  | effect q next ih => exact anything fun r d' => ih r

end Evaluation

namespace BuiltIn

open Routine

variable {C : Type} {go : Routine C Reply}

section Discreet

theorem discreet_withCount (expected : Int) (exact : Bool) (h : go.Discreet) :
    (withCount expected exact go).Discreet :=
  (discreet_checkCount expected exact).bind fun _ => discreet_ite h trivial

theorem discreet_unlessAborted (h : go.Discreet) : (unlessAborted go).Discreet :=
  discreet_isAborted.bind fun _ => discreet_ite trivial h

theorem discreet_withNumbers (vs : List Value) (h : go.Discreet) : (withNumbers vs go).Discreet :=
  discreet_unlessAborted ((discreet_checkKinds vs _).bind fun _ => discreet_ite h trivial)

theorem discreet_random : (random : Routine C Reply).Discreet := by
  refine discreet_withCount _ _ ?_
  refine (discreet_valueOr _ _).bind fun low => (discreet_valueOr _ _).bind fun high =>
    (discreet_valueOr _ _).bind fun again => discreet_withNumbers _ ?_
  refine (discreet_lift _ _).bind fun low => (discreet_lift _ _).bind fun high => ?_
  -- The texts of the bounds are not looked into.
  generalize Numeral.intText low = lowText, Numeral.intText high = highText,
    drawKey low high = drawn
  split
  · exact (discreet_lift _ _).bind fun _ => (discreet_lift _ _).bind fun _ =>
      discreet_ending (discreet_signalError _)
  · refine (discreet_lift _ _).bind fun key => ?_
    have draws (again : Bool) : (draw low high key again : Routine C _).Discreet := by
      intro n
      split
      · trivial
      · trivial
    split
    · intro v
      cases v with
      | none => exact draws true
      | some v => trivial
    · exact draws false

theorem discreet_sum : (sum : Routine C Reply).Discreet := by
  refine discreet_withCount _ _ ?_
  refine (discreet_argumentCount.bind discreet_values).bind fun vs => discreet_withNumbers _ ?_
  exact (discreet_lift _ _).bind fun _ => trivial

theorem discreet_choose : (choose : Routine C Reply).Discreet := by
  refine discreet_withCount _ _ ((discreet_argumentOr _ _).bind fun s => discreet_unlessAborted ?_)
  refine (discreet_lift _ _).bind fun truth => ?_
  cases truth with
  | none => exact discreet_ending (discreet_signalError _)
  | some b => exact (discreet_argumentOr _ _).bind fun _ => trivial

theorem discreet_error : (error : Routine C Reply).Discreet :=
  (discreet_argumentOr _ _).bind fun _ =>
    discreet_unlessAborted (discreet_ending (discreet_signalError _))

theorem discreet_halt : (halt : Routine C Reply).Discreet := fun _ => trivial

theorem discreet_sendMessage : (sendMessage : Routine C Reply).Discreet :=
  discreet_withCount _ _ ((discreet_argumentOr _ _).bind fun _ => discreet_unlessAborted trivial)

theorem discreet_tableName (index : Int) : (tableName index : Routine C Value).Discreet :=
  (discreet_argumentOr _ _).bind fun _ => discreet_ite (discreet_store _) trivial

theorem discreet_withVariable (table : Value) (name : String) (h : go.Discreet) :
    (withVariable table name go).Discreet :=
  (discreet_store _).bind fun _ => discreet_ite
    ((discreet_store _).bind fun _ => discreet_ite h (discreet_ending fun _ => trivial))
    (discreet_ending fun _ => trivial)

theorem discreet_getVariable : (getVariable : Routine C Reply).Discreet := by
  refine discreet_withCount _ _ ((discreet_argumentOr _ _).bind fun name =>
    (discreet_tableName _).bind fun table => discreet_unlessAborted ?_)
  exact discreet_withVariable _ _ ((discreet_store _).bind fun _ => trivial)

theorem discreet_setVariable : (setVariable : Routine C Reply).Discreet := by
  refine discreet_withCount _ _ ((discreet_argumentOr _ _).bind fun name =>
    (discreet_argumentOr _ _).bind fun value =>
      (discreet_tableName _).bind fun table => discreet_unlessAborted ?_)
  exact discreet_withVariable _ _ ((discreet_store _).bind fun _ => trivial)

theorem discreet_isObject : (isObject : Routine C Reply).Discreet :=
  discreet_withCount _ _ ((discreet_argumentOr _ _).bind fun _ =>
    discreet_unlessAborted ((discreet_lift _ _).bind fun _ => trivial))

theorem discreet_stringAt : (stringAt : Routine C Reply).Discreet := by
  refine discreet_withCount _ _ ((discreet_argumentOr _ _).bind fun s =>
    (discreet_valueOr _ _).bind fun index => discreet_withNumbers _ ?_)
  refine (discreet_lift _ _).bind fun i => ?_
  cases charAt? s.toList i with
  | none => trivial
  | some c => trivial

theorem discreet_endsWith : (endsWith : Routine C Reply).Discreet :=
  discreet_withCount _ _ ((discreet_argumentOr _ _).bind fun _ =>
    (discreet_argumentOr _ _).bind fun _ => discreet_unlessAborted trivial)

section Documents

variable [Value.Attributes]

theorem discreet_event : (event : Routine C Reply).Discreet := by
  refine discreet_withCount _ _ ((discreet_argumentOr _ _).bind fun path =>
    discreet_unlessAborted ⟨fun v w same => ?_, fun v => ?_⟩)
  · exact congrArg (follow · path >>= returning) same.event
  · exact (discreet_lift _ _).bind fun _ => trivial

theorem discreet_received (failure : String) (path : Option String) (r : Except Http.Error Value) :
    (received failure path r : Routine C Reply).Discreet := by
  cases r with
  | error e => exact discreet_ite (discreet_ending (discreet_signalError _)) trivial
  | ok v =>
    unfold received
    cases path.filter (· ≠ "") with
    | none => trivial
    | some p => exact (discreet_lift _ _).bind fun _ => trivial

variable [Yaml.Loader]

theorem discreet_fetch : (fetch : Routine C Reply).Discreet := by
  refine discreet_withCount _ _ ((discreet_argumentOr _ _).bind fun url => ?_)
  refine fun path => discreet_unlessAborted ?_
  exact (discreet_ofProgram _).bind fun r => discreet_received _ _ r

theorem discreet_post : (post : Routine C Reply).Discreet := by
  refine discreet_withCount _ _ ((discreet_argumentOr _ _).bind fun url =>
    (discreet_argumentOr _ _).bind fun body => ?_)
  refine fun path => discreet_unlessAborted ((discreet_lift _ _).bind fun _ => ?_)
  exact (discreet_ofProgram _).bind fun r => discreet_received _ _ r

/-- **Built-in functions are discreet**: they look at their call only through the values of the
arguments, through their number, and through what is no part of its text. -/
theorem discreet {name : String} {callback : Callback} (mem : (name, callback) ∈ all) :
    callback.body.Discreet := by
  obtain ⟨⟨words, r⟩, listed, eq⟩ := List.mem_map.1 mem
  obtain ⟨-, rfl⟩ := Prod.mk.inj eq
  have each : ∀ p ∈ routines, p.2.Discreet := by
    simp only [routines, List.forall_mem_cons]
    exact ⟨discreet_endsWith, discreet_error, discreet_event, discreet_fetch, discreet_getVariable,
      discreet_choose, discreet_isObject, discreet_post, discreet_random, discreet_sendMessage,
      discreet_setVariable, discreet_halt, discreet_stringAt, discreet_sum, by simp⟩
  exact each (words, r) listed

end Documents

end Discreet

section Avoids

variable {k : Nat}

/-- A function that checks how many arguments it was given ends the dispatch or goes on. -/
theorem withCount_eq (expected : Int) (exact : Bool) (go : Routine C Reply) :
    withCount expected exact go = .look fun v =>
      if (v.arguments.length : Int) < expected ||
          (exact && (v.arguments.length : Int) ≠ expected) then
        .abort "arity" (some ("Expected " ++ Numeral.intTextUnlimited expected ++
          " arguments but got " ++ toString v.arguments.length)) fun _ => nothing
      else go := by
  refine congrArg Routine.look (funext fun v => ?_)
  by_cases few : ((v.arguments.length : Int) < expected ||
      (exact && (v.arguments.length : Int) ≠ expected)) = true
  · rw [if_pos few]
    show Routine.bind (if _ then _ else _) _ = _
    rw [if_pos few]
    rfl
  · rw [if_neg few]
    show Routine.bind (if _ then _ else _) _ = _
    rw [if_neg few]
    rfl

/-- Ending a dispatch in silence, no argument is read. -/
theorem avoids_halt : (halt : Routine C Reply).Avoids k := fun _ => trivial

/-- What is returned for a condition: the argument that it chooses. -/
def chosen (condition : String) : Routine C Reply :=
  unlessAborted do
    let truth ← lift .conversion
      ((Script.condition condition.toList).mapError
        (Numeral.IntError.conversion (Text.quoted condition)))
    match truth with
    | none => ending (signalError ("Invalid condition " ++ Text.quoted condition))
    | some b => returning (.text (← argumentOr (if b then 1 else 2) ""))

theorem choose_eq :
    (choose : Routine C Reply) = withCount 2 false (argumentOr 0 "" >>= chosen) := rfl

/-- Of the arguments after the condition only the one that it chooses is read. -/
theorem avoids_chosen {condition : String}
    (other : ∀ b, Script.condition condition.toList = .ok (some b) → k ≠ if b then 1 else 2) :
    (chosen condition : Routine C Reply).Avoids k := by
  intro v
  show Avoids k (if v.isAborted then nothing else _)
  split
  · trivial
  · cases known : Script.condition condition.toList with
    | error e => trivial
    | ok truth =>
      cases truth with
      | none => exact fun _ => trivial
      | some b =>
        refine ⟨fun same => ?_, fun _ => trivial⟩
        have here := other b known
        cases b with
        | false =>
          have second : (2 : Int) = k := same
          exact here (show k = 2 by omega)
        | true =>
          have first : (1 : Int) = k := same
          exact here (show k = 1 by omega)

end Avoids

end BuiltIn

end CommandScript
