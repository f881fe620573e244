import CommandScript.Proofs.BuiltIn
import CommandScript.Proofs.Dispatch.Acts
import CommandScript.Proofs.Dispatch.Escaped
import CommandScript.Proofs.Dispatch.Parsing
import CommandScript.Proofs.Dispatch.Returns
import CommandScript.Proofs.Payload
import CommandScript.World
import CommandScript.Yaml.Reader

/-!
# Texts of objects

Where a call that returns a list or a mapping is the argument of the function that asks for the text
of an object, and JSON carries the value, the answer is that it is one. This closes the ways on
which such values travel as text: sent and received, with or without their format, and from one call
to the next.

## Main results

- `CommandScript.BuiltIn.functionReturns_isObject` — what the function says of its argument
- `CommandScript.BuiltIn.documents_restored` — documents come back from their JSON text
-/

namespace CommandScript

open Script (Call)

namespace BuiltIn

open Evaluation

variable {σ : Type} {answer : σ → (q : Question) → q.Answer × σ} {s : σ}
  {render : List Char → Int → Evaluation Outcome} {scope : Scope} {c : Call} {d : Dispatch}
  {name text : String} {version : Value} {cs : List Char} {line : Int} {o : Option Value}

/-- What the function does with the text of its argument. -/
def answered (text : String) : Routine Callback Reply :=
  unlessAborted do Routine.returning (.bool (← object? text).isSome)

theorem routine_answered {memo : Memo} (unended : d.halted = none)
    (object : Payload.readObject text.toList = .ok o) :
    routine render scope c memo (answered text) d =
      (pure (.ok (.value (.bool o.isSome)), memo) :
        Evaluation (Except Failure Reply × Memo)) d := by
  have going : d.isHalted = false := by rw [Dispatch.isHalted, unended]; rfl
  show routine render scope c memo (if d.isHalted then Routine.nothing else
    (Routine.lift .conversion (Payload.readObject text.toList)) >>= fun o =>
      Routine.returning (.bool o.isSome)) d = _
  rw [going, object]
  rfl

/-- **The function says whether its argument is the text of an object.** -/
theorem functionReturns_isObject (argument : c.argumentAt? 0 = some (cs, line))
    (unended : d.halted = none)
    (evaluates : RunsTo answer
      (answer s (.observe { d with depth := d.depth + 1 }
        (.entering c (.native name (.of isObject) version)))).2
      (render cs line) { d with depth := d.depth + 1 } text)
    (object : Payload.readObject text.toList = .ok o) :
    FunctionReturns answer s render scope c (.native name (.of isObject) version) d
      (.bool o.isSome) := by
  let entered : Dispatch := { d with depth := d.depth + 1 }
  have unread : ([] : Memo).lookup (0 : Int).toNat = none := rfl
  obtain ⟨left, s', ran, running⟩ :=
    run_argument_of_runsTo (d := entered) argument unread unended evaluates
  have enough : ¬((c.arguments.length : Int) < 1 || false &&
      decide ((c.arguments.length : Int) ≠ 1)) = true := by
    have given := List.length_pos_of_mem (mem_of_argumentAt? argument)
    rw [Bool.false_and, Bool.or_false, decide_eq_true_eq]
    omega
  have begins : routine render scope c [] isObject entered =
      (Evaluation.argument render scope c [] 0 >>= fun r =>
        routine render scope c r.2 (answered (r.1.getD ""))) entered := by
    rw [isObject, withCount_eq]
    show routine render scope c [] (if _ then _ else _) _ = _
    rw [if_neg enough]
    rfl
  refine ⟨left, s', ?_, running⟩
  rw [run_invoke_native, Callback.body, begins, run_bind, ran]
  dsimp only
  rw [Option.getD_some, routine_answered running object]
  rfl

/-- **Documents come back from their JSON text**, whatever YAML texts are read as. Take null, truth
values, whole numbers within the limit on digits, texts, and lists and mappings of such, whose keys
are texts. Written as JSON, on one line or indented, and read as JSON, each is the same again. A
list or a mapping is also read again where the format is not given, and from the text that stands
for it in a command string; so wherever the function that asks for the text of an object has as its
argument a call that returns one, its own call stands for `true`. -/
theorem documents_restored [Yaml.Loader] (v : Value) (document : v.Document) :
    (∀ pretty, ∃ t, Payload.write v (some "json") pretty = .ok t ∧
      Payload.read (.text t) none (some "json") = .ok v) ∧
    (v.IsCollection →
      (∃ t, Payload.write v (some "json") false = .ok t ∧
        Payload.read (.text t) none none = .ok v) ∧
      (∃ t, v.printed = .ok t ∧ Payload.readObject t.toList = .ok (some v)) ∧
      ∀ (σ : Type) (answer : σ → (q : Question) → q.Answer × σ) (s : σ) (scope : Scope)
        (remaining : Nat) (c : Call) (d : Dispatch) (name : String) (version : Value),
        d.halted = none →
        (answer s (.find scope.functions (FunctionName.key (String.ofList c.name)))).1 =
          some (.native name (.of isObject) version) →
        PassesCall answer
          (answer s (.find scope.functions (FunctionName.key (String.ofList c.name)))).2
          scope remaining c (.native name (.of isObject) version) d v →
        RunsTo answer s (call scope (remaining + 2) c) d "true") := by
  refine ⟨Payload.read_write document, fun collection => ⟨?_, ?_, ?_⟩⟩
  · exact Payload.read_write_collection document collection false
  · exact Payload.readObject_printed document collection
  · rintro σ answer s scope remaining c d name version unended found
      ⟨cs, line, inner, argument, single, returns⟩
    obtain ⟨t, printed, object⟩ := Payload.readObject_printed document collection
    have evaluates :=
      returns.run_render (d := { d with depth := d.depth + 1 }) single unended printed
    have told : FunctionReturns answer _ (Evaluation.render scope (remaining + 1)) scope c
        (.native name (.of isObject) version) d (.bool true) :=
      functionReturns_isObject argument unended evaluates object
    exact CallReturns.run_call ⟨_, found, told⟩ rfl

/-- A list that holds a mapping, and texts that need escapes. -/
def nestedDocument : Value :=
  .list [.null, .int (-120), .ofTable [("a\"b", .bool true), ("ä", .list [])], .text "\\\n\x01"]

theorem nestedDocument_document : nestedDocument.Document := by
  refine .list fun x mem => ?_
  simp only [List.mem_cons, List.not_mem_nil, or_false] at mem
  obtain rfl | rfl | rfl | rfl := mem
  · exact .null
  · exact .int (Numeral.exceedsLimit_eq_false 3 (by decide) (by decide))
  · refine .map (by decide) fun e mem => ?_
    simp only [List.mem_cons, List.not_mem_nil, or_false] at mem
    obtain rfl | rfl := mem
    · exact .bool true
    · exact .list (List.forall_mem_nil _)
  · exact .text _

/-- A world with the function that asks for objects and one that returns a list. -/
def returningNested : World :=
  { World.empty .null with
    registries := ⟨[⟨.null, [], [("isobject", .native "$isObject" (.of isObject) .null),
      ("items", .native "$items" (.of (Routine.returning nestedDocument)) .null)]⟩]⟩ }

/-- The list comes back, and `$isObject[$items[]]` stands for `true`. -/
theorem documents_restored_nested :
    nestedDocument.Document ∧
      (∀ pretty, ∃ t, Payload.write nestedDocument (some "json") pretty = .ok t ∧
        Payload.read (.text t) none (some "json") = .ok nestedDocument) ∧
      nestedDocument.IsCollection ∧
      RunsTo World.answer returningNested
        (call ⟨0, .usual, .null, false, none, none⟩ 2 ⟨"isObject".toList, "$items[]".toList, 0, 1⟩)
        .start "true" := by
  obtain ⟨restored, collected⟩ := documents_restored nestedDocument nestedDocument_document
  obtain ⟨-, -, objects⟩ := collected (.list _)
  refine ⟨nestedDocument_document, restored, .list _, ?_⟩
  refine objects World World.answer returningNested ⟨0, .usual, .null, false, none, none⟩ 0
    ⟨"isObject".toList, "$items[]".toList, 0, 1⟩ .start "$isObject" .null rfl rfl ?_
  refine ⟨"$items[]".toList, 1, ⟨"items".toList, [], 0, 1⟩, by decide, ?_, _, rfl, _, _, rfl, rfl⟩
  have named : Script.IsIdentifier "items".toList := Script.isName_iff.1 (by decide)
  exact Script.segments_call_escaped named [] 1

end BuiltIn

end CommandScript
