import CommandScript.Proofs.BuiltIn.Objects
import CommandScript.Proofs.Payload.Softness
import CommandScript.Yaml.Reader

/-!
# What a text stands for

Received data has a value in every format, and every text is found to encode a list or a mapping or
not to encode one, as far as its form goes. What is left are the faults that are none of form, which
the readers do not pass over.

## Main results

- `CommandScript.BuiltIn.reads_softly` — what is received is read, up to named faults
- `CommandScript.BuiltIn.not_always_read` — a text that is no date is refused
-/

namespace CommandScript

open Script (Call)

namespace BuiltIn

open Evaluation

/-- **What is received is read**, up to named faults, whatever YAML texts are read as. Received data
gives the value of its text in the format that is given or found out, and a text that does not parse
in it stands for itself; it is refused only for bytes in a character set that admits none of them,
for a number with too many digits, or with what the loader of YAML raises where this is anything but
that the text is malformed. A text encodes a list, a mapping or neither unless it has a long run of
digits; and where the argument of the function that asks for the text of an object has no such run,
the call stands for `true` where the text encodes a list or a mapping and for `false` where it does
not. -/
theorem reads_softly [Yaml.Loader] (contentType format : Option String) (r : Payload.Received)
    (text : String) :
    Payload.Answers contentType format r (Payload.read r.value contentType format) ∧
      ((Payload.readObject text.toList = .ok none ∨
          ∃ v, Payload.readObject text.toList = .ok (some v) ∧ v.IsCollection) ∨
        Numeral.HasLongRun text.toList) ∧
      ∀ (σ : Type) (answer : σ → (q : Question) → q.Answer × σ) (s : σ) (scope : Scope)
        (remaining : Nat) (c : Call) (d : Dispatch) (name : String) (version : Value)
        (cs : List Char) (line : Int),
        d.halted = none →
        (answer s (.find scope.functions (FunctionName.key (String.ofList c.name)))).1 =
          some (.native name (.of isObject) version) →
        c.argumentAt? 0 = some (cs, line) →
        RunsTo answer
          (answer (answer s (.find scope.functions (FunctionName.key (String.ofList c.name)))).2
            (.observe { d with depth := d.depth + 1 }
              (.entering c (.native name (.of isObject) version)))).2
          (render scope remaining cs line) { d with depth := d.depth + 1 } text →
        ¬Numeral.HasLongRun text.toList →
        ∃ o, Payload.readObject text.toList = .ok o ∧
          RunsTo answer s (call scope (remaining + 1) c) d
            (if o.isSome then "true" else "false") := by
  refine ⟨Payload.answers_read contentType format r, Payload.readObject_cases text.toList, ?_⟩
  intro σ answer s scope remaining c d name version cs line unended found argument evaluates short
  obtain ⟨o, object⟩ : ∃ o, Payload.readObject text.toList = .ok o := by
    obtain none | ⟨v, some, -⟩ := (Payload.readObject_cases text.toList).resolve_right short
    exacts [⟨_, none⟩, ⟨_, some⟩]
  have returns : CallReturns answer s scope remaining c d (.bool o.isSome) :=
    ⟨_, found, functionReturns_isObject argument unended evaluates object⟩
  refine ⟨o, object, returns.run_call ?_⟩
  cases o <;> rfl

/-- A world with the function that asks for objects. -/
def askingObjects : World :=
  { World.empty .null with
    registries := ⟨[⟨.null, [], [("isobject", .native "$isObject" (.of isObject) .null)]⟩]⟩ }

/-- A date is a text in JSON, and `$isObject[x]` stands for `false`. -/
theorem reads_softly_word :
    Payload.Answers none (some "json") (.text "2024-01-31")
        (Payload.read (.text "2024-01-31") none (some "json")) ∧
      ¬Numeral.HasLongRun ['x'] ∧
      RunsTo World.answer askingObjects
        (call ⟨0, .usual, .null, false, none, none⟩ 1 ⟨"isObject".toList, ['x'], 0, 1⟩)
        .start "false" := by
  obtain ⟨answers, -, calls⟩ := reads_softly none (some "json") (.text "2024-01-31") "x"
  have short : ¬Numeral.HasLongRun ['x'] := by
    rintro ⟨ds, inside, -, length⟩
    have few := inside.length_le
    have limit : 1 ≤ Numeral.digitLimit := by decide
    simp only [List.length_singleton] at few
    omega
  have read : Script.segments ['x'] 1 = .ok [.literal ['x']] := Script.segments_escape ['x'] 1
  refine ⟨answers, short, ?_⟩
  obtain ⟨o, object, runs⟩ := calls World World.answer askingObjects
    ⟨0, .usual, .null, false, none, none⟩ 0 ⟨"isObject".toList, ['x'], 0, 1⟩ .start "$isObject"
    .null ['x'] 1 rfl rfl (by decide)
    (by unfold RunsTo render source; rw [read]; exact ⟨_, _, rfl, rfl⟩) short
  cases object
  exact runs

theorem load_noDate : Yaml.Loader.load "2024-13-45".toList = .error (.calendar .monthRange) := by
  have describes : Yaml.document "2024-13-45".toList =
      .ok (some (.scalar (Yaml.standardTag "timestamp") "2024-13-45".toList)) := rfl
  show Yaml.read _ = _
  rw [Yaml.read_of_document describes, Yaml.valueOf]
  rfl

/-- **A text that is no date** may have the form of one, and has no value as YAML. -/
theorem not_always_read :
    ¬∀ (contentType format : Option String) (r : Payload.Received),
      ∃ v, Payload.read r.value contentType format = .ok v := by
  intro always
  obtain ⟨v, given⟩ := always none (some "yaml") (.text "2024-13-45")
  have chosen : Payload.selected none (some "yaml") "2024-13-45" = some "yaml" := by decide
  have refused : Payload.read (.text "2024-13-45") none (some "yaml") =
      .error (.yaml (.calendar .monthRange)) := by
    show Payload.readText (Payload.selected none (some "yaml") "2024-13-45") "2024-13-45" = _
    rw [chosen, Payload.readText, if_neg (by decide), if_pos rfl, Payload.readYaml, load_noDate]
    rfl
  cases refused.symm.trans given

end BuiltIn

end CommandScript
