import Mathlib.Data.List.TakeWhile
import CommandScript.Proofs.Interpreter.Classification
import CommandScript.Terminal.Recorded

/-!
# What is shown of a diagnostic

A dispatch that ended with a diagnostic says it in its result, in the output or in a record. Showing
the result prints the lines that it has, and how often the diagnostic is among them is decided by
where it stands and by how the dispatch ended. A message without a text, which only a callback can
leave, ends this: neither it nor what would follow it is printed, and that is where the diagnostic
would stand.

## Main definitions

- `CommandScript.Result.Diagnosed` — results of dispatches that may end with a diagnostic
- `CommandScript.Terminal.Question.shows` — a text is printed as a line
- `CommandScript.Terminal.CommandLine.printable` — the lines before the first without a text
- `CommandScript.Terminal.CommandLine.copies` — how many lines are a text
- `CommandScript.Terminal.CommandLine.IsRecord` — a record that a dispatch itself leaves
- `CommandScript.Terminal.CommandLine.front`, `ending` — the parts of what is shown

## Main results

- `CommandScript.Interpreter.exists_conclusion` — the records of a result and where they come from
- `CommandScript.Terminal.CommandLine.asked_showAll`, `run_showAll` — showing lines
- `CommandScript.Terminal.CommandLine.copies_shown` — how often the diagnostic of a result is shown
- `CommandScript.Terminal.CommandLine.diagnostic_shown` — and how often it is printed
-/

namespace CommandScript

/-- A dispatch ended on purpose, or because a command string is malformed. -/
def Result.Diagnosed (r : Result) : Prop :=
  r.status = .aborted ∨ (r.status = .error ∧ r.reason = some Result.malformed)

namespace Interpreter

open Evaluation

variable {scope : Scope} {d : Dispatch} {σ : Type}

/-- A result says a text as the diagnostic of its dispatch, which is the output or stands apart. -/
def Says (scope : Scope) (o : Outcome) (r : Result) : Prop :=
  ∀ text, r.message = some text → o.isDiagnosed = true ∧
    r.output = if scope.settings.textErrors then some text else none

theorem says_aborted (reason : String) (diagnostic function : Option String) :
    (aborted scope reason diagnostic function).Ensures d fun _ r _ =>
      Says scope (.error (.aborted reason diagnostic function)) r := by
  cases diagnostic with
  | none =>
    refine ensures_bind.2 (ensures_pure.2 (ensures_bind.2 (ensures_get.2 (ensures_pure.2 ?_))))
    exact fun _ => nofun
  | some text =>
    refine ensures_bind.2 (Ensures.imp (output_route _ _) fun _ output d' routed => ?_)
    refine ensures_bind.2 (ensures_get.2 (ensures_pure.2 ?_))
    rintro _ ⟨rfl⟩
    exact ⟨rfl, routed⟩

theorem says_malformed (e : Script.ParseError) (function : Option String) (traced : Bool) :
    (malformed scope e).Ensures d fun _ r _ =>
      Says scope (.error (.fault (.parse e) function traced)) r := by
  refine ensures_bind.2 (ensures_note.2 (ensures_bind.2 ?_))
  refine Ensures.imp (output_route _ _) fun _ output d' routed => ?_
  refine ensures_bind.2 (ensures_get.2 (ensures_pure.2 ?_))
  rintro _ ⟨rfl⟩
  exact ⟨rfl, routed⟩

/-- The diagnostic of a dispatch is its output, or it has none. -/
theorem says_conclude (o : Outcome) :
    (conclude scope o).Ensures d fun _ a _ => ∀ r, a = .ok r → r.Diagnosed → Says scope o r := by
  match o with
  | .ok text =>
    refine ensures_bind.2 (ensures_get.2 (ensures_pure.2 ?_))
    rintro _ ⟨⟩ - _ ⟨⟩
  | .error (.aborted reason diagnostic function) =>
    refine ensures_bind.2 (Ensures.imp (says_aborted reason diagnostic function) fun _ r _ said =>
      ensures_pure.2 ?_)
    rintro _ ⟨⟩ -
    exact said
  | .error (.fault e function traced) =>
    cases kind : e.isParse with
    | true =>
      obtain ⟨p, rfl⟩ := Failure.exists_of_isParse kind
      refine ensures_bind.2 (Ensures.imp (says_malformed p function traced) fun _ r _ said =>
        ensures_pure.2 ?_)
      rintro _ ⟨⟩ -
      exact said
    | false =>
      rw [conclude_fault kind]
      unfold failed
      dsimp only
      split
      · exact ensures_pure.2 (by rintro _ ⟨⟩)
      · refine ensures_bind.2 (ensures_get.2 (ensures_pure.2 ?_))
        rintro _ ⟨⟩ (aborted | ⟨-, reason⟩)
        · cases aborted
        · simp [Result.failed, Result.malformed] at reason

/-- A dispatch leaves reports of unknown functions while it is evaluated, and perhaps one record
when it is concluded. -/
theorem exists_conclusion (answer : σ → (q : Question) → q.Answer × σ) (s : σ) (scope : Scope)
    (listeners : List String) (cs : List Char) {r : Result}
    (gives : (Program.run (S := Questions) answer s (dispatch scope listeners cs .start)).1.1 =
      .ok r) :
    ∃ (o : Outcome) (last : List SideEffect) (left : Dispatch),
      left.diagnostics = reported scope
          (unknownCalls (exchanges answer s (dispatch scope listeners cs) .start)) ∧
        r.sideEffects = left.effects ++ last ∧ Closes scope o r last ∧
        (r.Diagnosed → Says scope o r) := by
  obtain ⟨s₁, o, left, s₂, start, evaluated, opening, same, telling⟩ :=
    exists_stages answer s scope listeners cs
  have concluded := same.symm.trans gives
  obtain ⟨finish, closing, comes⟩ := telling r concluded
  have balanced : BalancedRendering scope (render scope scope.settings.maxDepth) :=
    balances_render _
  obtain ⟨unknown, due, -, counted, apart⟩ := balanced [] cs 1 .start σ answer s₁
  rw [evaluated] at apart
  have concludes : (conclude scope o).Ensures left _ :=
    (ensures_conclude o).and (says_conclude o)
  obtain ⟨⟨noted, kept⟩, said⟩ := concludes.run answer s₂
  obtain ⟨last, sent, closes⟩ := kept r concluded
  rw [← map_fst_exchanges] at noted
  have notes : ∀ x ∈ exchanges answer s₂ (conclude scope o) left, x.1.isNote :=
    fun x mem => noted x.1 (List.mem_map_of_mem mem)
  have all : unknownCalls (exchanges answer s (dispatch scope listeners cs) .start) = unknown :=
    comes ▸ unknownCalls_stages opening notes closing ⟨due, counted []⟩
  exact ⟨o, last, left, all.symm ▸ apart, sent, closes, said r concluded⟩

/-- Running a command string among functions is a dispatch. -/
theorem run_run (answer : σ → (q : Question) → q.Answer × σ) (s : σ) (i : Interpreter)
    (functions : Handle) (v : Invocation) :
    let d := dispatch (i.scope functions v) i.listeners v.source .start
    (Program.run (S := Questions) answer s (i.run functions v)).1 =
        (Program.run (S := Questions) answer s d).1.1 ∧
      Program.exchanges (S := Questions) answer s (i.run functions v) =
        Program.exchanges (S := Questions) answer s d := by
  intro d
  have gives := Program.run_bind (S := Questions) answer s d fun x => pure x.1
  have comes := Program.exchanges_bind (S := Questions) answer s d fun x => pure x.1
  exact ⟨congrArg Prod.fst gives, comes.trans (List.append_nil _)⟩

/-- A result is that of a dispatch, before which at most functions are layered. -/
theorem exists_dispatch {answer : σ → (q : Question) → q.Answer × σ} {s : σ} {i : Interpreter}
    {v : Invocation} {r : Result}
    (handled : (Program.run (S := Questions) answer s (i.handle v)).1 = .ok r) :
    ∃ (functions : Handle) (s' : σ) (before : List Exchange), (∀ x ∈ before, x.1.isUncounted) ∧
      Program.exchanges (S := Questions) answer s (i.handle v) = before ++
        exchanges answer s' (dispatch (i.scope functions v) i.listeners v.source) .start ∧
      (Program.run (S := Questions) answer s'
        (dispatch (i.scope functions v) i.listeners v.source .start)).1.1 = .ok r := by
  by_cases alone : v.functions.isEmpty = true
  · have begins : i.handle v = i.run i.functions v := if_pos alone
    rw [begins] at handled ⊢
    obtain ⟨gives, comes⟩ := run_run answer s i i.functions v
    exact ⟨i.functions, s, [], List.forall_mem_nil _, comes, gives.symm.trans handled⟩
  · have begins : i.handle v = Question.ask (.layer i.functions v.functions) >>= _ := if_neg alone
    rw [begins, Question.run_ask_bind] at handled
    rw [begins, Question.exchanges_ask_bind]
    revert handled
    obtain ⟨layered, s'⟩ := answer s (.layer i.functions v.functions)
    intro handled
    cases layered with
    | error e => cases handled
    | ok functions =>
      obtain ⟨gives, comes⟩ := run_run answer s' i functions v
      exact ⟨functions, s', [⟨.layer i.functions v.functions, .ok functions⟩],
        List.forall_mem_singleton.2 rfl, congrArg _ comes, gives.symm.trans handled⟩

end Interpreter

namespace Terminal

/-- Whether a text is printed as a line, in the output or in the output of errors. -/
def Question.shows (text : String) : Question → Bool
  | .print s => s == text ++ "\n"
  | .complain s => s == text ++ "\n"
  | _ => false

namespace CommandLine

/-- The lines before the first that has no text. -/
def printable (ls : List Shown) : List Shown := ls.takeWhile fun l => l.value.plain?.isSome

/-- How many lines are a text. -/
def copies (text : String) (ls : List Shown) : Nat := ls.countP fun l => l.value.plain? == some text

theorem copies_append (text : String) (ls ms : List Shown) :
    copies text (ls ++ ms) = copies text ls + copies text ms := List.countP_append

theorem printable_of_forall {ls : List Shown} (all : ∀ l ∈ ls, l.value.plain?.isSome = true) :
    printable ls = ls := List.takeWhile_eq_self_iff.2 all

theorem isSome_of_mem_printable {l : Shown} {ls : List Shown} (mem : l ∈ printable ls) :
    l.value.plain?.isSome = true :=
  List.mem_takeWhile_imp (p := fun l : Shown => l.value.plain?.isSome) mem

/-- What follows a line without a text is not printed. -/
theorem copies_printable_le (text : String) {ls ms : List Shown}
    (wanting : ∃ l ∈ ls, l.value.plain? = none) :
    copies text (printable (ls ++ ms)) ≤ copies text ls := by
  have short : (ls.takeWhile fun l => l.value.plain?.isSome).length ≠ ls.length := by
    intro whole
    obtain ⟨l, mem, none⟩ := wanting
    have all := List.takeWhile_eq_self_iff.1 ((List.takeWhile_sublist _).eq_of_length whole) l mem
    rw [none] at all
    cases all
  rw [printable, List.takeWhile_append, if_neg short]
  exact (List.takeWhile_sublist _).countP_le

section Showing

variable {σ : Type} (answer : σ → (q : Question) → q.Answer × σ) (s : σ)

theorem showAll_cons_of_none {l : Shown} (none : l.value.plain? = none) (ls : List Shown) :
    showAll (l :: ls) = pure (.error .unwritable) := by
  rw [showAll, Value.plainText, none]

theorem showAll_cons_of_some {l : Shown} {t : String} (some : l.value.plain? = some t)
    (ls : List Shown) : showAll (l :: ls) = (l.question t).ask >>= fun _ => showAll ls := by
  rw [showAll, Value.plainText, some]

/-- Showing lines prints each of them up to the first without a text, and nothing else. -/
theorem asked_showAll (ls : List Shown) :
    Program.asked (S := Questions) answer s (showAll ls) =
      (printable ls).map fun l => l.question l.value.plain := by
  induction ls generalizing s with
  | nil => rfl
  | cons l ls ih =>
    cases text : l.value.plain? with
    | none =>
      rw [showAll_cons_of_none text, printable, List.takeWhile_cons_of_neg (by rw [text]; nofun)]
      rfl
    | some t =>
      have plain : l.value.plain = t := by rw [Value.plain, text]; rfl
      rw [showAll_cons_of_some text, printable, List.takeWhile_cons_of_pos (by rw [text]; rfl),
        List.map_cons, plain]
      exact congrArg (l.question t :: ·) (ih _)

/-- Showing lines breaks off where one of them has no text. -/
theorem run_showAll (ls : List Shown) :
    ((∀ l ∈ ls, l.value.plain?.isSome = true) →
        (Program.run (S := Questions) answer s (showAll ls)).1 = .ok ()) ∧
      ((∃ l ∈ ls, l.value.plain? = none) →
        (Program.run (S := Questions) answer s (showAll ls)).1 = .error .unwritable) := by
  induction ls generalizing s with
  | nil => exact ⟨fun _ => rfl, nofun⟩
  | cons l ls ih =>
    cases text : l.value.plain? with
    | none =>
      rw [showAll_cons_of_none text]
      refine ⟨fun all => ?_, fun _ => rfl⟩
      have first := all l List.mem_cons_self
      rw [text] at first
      cases first
    | some t =>
      rw [showAll_cons_of_some text]
      obtain ⟨all, wanting⟩ := ih (answer s (l.question t)).2
      refine ⟨fun whole => all fun m mem => whole m (List.mem_cons_of_mem l mem), ?_⟩
      rintro ⟨m, mem, none⟩
      obtain rfl | mem := List.mem_cons.1 mem
      · rw [text] at none
        cases none
      · exact wanting ⟨m, mem, none⟩

end Showing

theorem shows_question (text s : String) (l : Shown) :
    (l.question s).shows text = (s == text) := by
  have same : (s ++ "\n" == text ++ "\n") = (s == text) := by
    rw [Bool.eq_iff_iff, beq_iff_eq, beq_iff_eq, String.append_left_inj]
  cases l with
  | out v => exact same
  | err v => exact same

/-- What is printed of lines that is a text. -/
theorem countP_shows (text : String) (ls : List Shown) :
    ((printable ls).map fun l => l.question l.value.plain).countP (Question.shows text) =
      copies text (printable ls) := by
  rw [List.countP_map, copies]
  refine List.countP_congr fun l mem => ?_
  obtain ⟨t, known⟩ := Option.isSome_iff_exists.1 (isSome_of_mem_printable mem)
  rw [Function.comp_apply, shows_question, Value.plain, known, Option.getD_some,
    Option.some_beq_some]

theorem countP_asked_showAll {σ : Type} (answer : σ → (q : Question) → q.Answer × σ) (s : σ)
    (text : String) (ls : List Shown) :
    (Program.asked (S := Questions) answer s (showAll ls)).countP (Question.shows text) =
      copies text (printable ls) :=
  (congrArg (List.countP (Question.shows text)) (asked_showAll answer s ls)).trans
    (countP_shows text ls)

section Result

variable {r : Result} {text : String} {scope : Scope} {o : Outcome} {last : List SideEffect}
  {left : Dispatch} {unknown : List Script.Call}

/-- A record that a dispatch itself leaves: of a call, with a text. -/
structure IsRecord (e : SideEffect) : Prop where
  origin : e.origin.isSome = true
  topics : e.topics = [SideEffect.errorTopic]
  text : e.message.plain?.isSome = true

theorem isRecord_of_mem_reported {e : SideEffect} (mem : e ∈ reported scope unknown) :
    IsRecord e := by
  unfold reported at mem
  split at mem
  · cases mem
  · obtain ⟨c, -, rfl⟩ := List.mem_map.1 mem
    exact ⟨rfl, rfl, rfl⟩

theorem isRecord_of_closes (closes : Interpreter.Closes scope o r last) :
    ∀ e ∈ last, IsRecord e := by
  unfold Interpreter.Closes at closes
  split at closes
  · obtain ⟨function, message, -, rfl⟩ := closes
    exact List.forall_mem_singleton.2 ⟨rfl, rfl, rfl⟩
  · subst closes
    exact List.forall_mem_nil _

/-- What is left for the host by the dispatch itself are the records of unknown functions, and the
one of the end. -/
theorem filter_origin_eq (sent : r.sideEffects = left.effects ++ last)
    (apart : left.diagnostics = reported scope unknown)
    (closes : Interpreter.Closes scope o r last) :
    r.sideEffects.filter (fun e => e.origin.isSome) = reported scope unknown ++ last := by
  have all : last.filter (fun e => e.origin.isSome) = last :=
    List.filter_eq_self.2 fun e mem => (isRecord_of_closes closes e mem).origin
  rw [sent, List.filter_append, all, ← apart]
  rfl

section Records

variable {es records : List SideEffect}
  (kept : es.filter (fun e => e.origin.isSome) = records)
  (isRecord : ∀ e ∈ records, IsRecord e)
  (others : ∀ e ∈ es, e.origin = none → e.message.plain? ≠ some text)

include kept isRecord others

/-- No message is the diagnostic, if none that a callback left says the same. -/
theorem copies_messages :
    copies text ((es.filter isSent).map fun e => Shown.out e.message) = 0 := by
  refine List.countP_eq_zero.2 fun l mem same => ?_
  obtain ⟨e, chosen, rfl⟩ := List.mem_map.1 mem
  obtain ⟨sent, topic⟩ := List.mem_filter.1 chosen
  cases origin : e.origin with
  | none => exact others e sent origin (beq_iff_eq.1 same)
  | some place =>
    have recorded : e ∈ records := kept ▸ List.mem_filter.2 ⟨sent, by rw [origin]; rfl⟩
    have other : [SideEffect.errorTopic] ≠ [BuiltIn.sendTopic] := by decide
    exact other ((isRecord e recorded).topics.symm.trans (of_decide_eq_true topic))

/-- The shown records that say the diagnostic are those that the dispatch itself left. -/
theorem copies_errors : copies text ((es.filter SideEffect.isError).map fun e =>
    Shown.err e.message) = records.countP fun e => e.message.plain? == some text := by
  rw [copies, List.countP_map, List.countP_filter, ← kept, List.countP_filter]
  refine List.countP_congr fun e mem => ?_
  cases origin : e.origin with
  | none =>
    have other := others e mem origin
    simp [Shown.value, other]
  | some place =>
    have recorded : e ∈ records := kept ▸ List.mem_filter.2 ⟨mem, by rw [origin]; rfl⟩
    have isError : e.isError = true := by
      rw [SideEffect.isError, (isRecord e recorded).topics]
      rfl
    simp [Shown.value, isError]

end Records

theorem errorText_eq (nonempty : text ≠ "") (message : r.message = some text)
    (unsuccessful : r.status ≠ .success) : r.errorText = text := by
  have given : (some text).filter (fun t => t ≠ "") = some text := by simp [nonempty]
  rw [Result.errorText, Result.errorTextOf, if_neg (by simpa using unsuccessful), message, given]
  rfl

theorem copies_output (nonempty : text ≠ "") {shows : Bool}
    (output : r.output = if shows then some text else none) :
    copies text ((r.output.filter (· ≠ "")).map fun s => Shown.out (.text s)).toList =
      if shows then 1 else 0 := by
  rw [output]
  cases shows with
  | false => rfl
  | true =>
    have given : (some text).filter (· ≠ "") = some text := by simp [nonempty]
    rw [if_pos rfl, if_pos rfl, given]
    simp [copies, Shown.value]

theorem copies_errorText (nonempty : text ≠ "") (message : r.message = some text)
    (unsuccessful : r.status ≠ .success) {shows : Bool}
    (output : r.output = if shows then some text else none) :
    copies text (if r.status = .error ∧ r.output = none then [.err (.text r.errorText)] else []) =
      if shows then 0 else if r.status = .error then 1 else 0 := by
  rw [output, errorText_eq nonempty message unsuccessful]
  cases shows with
  | true => simp [copies]
  | false =>
    by_cases failed : r.status = .error
    · simp [copies, Shown.value, failed]
    · simp [copies, failed]

/-- The reports of unknown functions that say the diagnostic. -/
theorem countP_reported (text : String) (scope : Scope) (unknown : List Script.Call) :
    ((reported scope unknown).countP fun e => e.message.plain? == some text) =
      if scope.settings.textErrors then 0 else
        unknown.countP fun c => (c.unknownReport scope.command).message.plain? == some text := by
  unfold reported
  split
  · rfl
  · exact List.countP_map

theorem countP_last (message : r.message = some text) (ended : o.isDiagnosed = true)
    (closes : Interpreter.Closes scope o r last) :
    (last.countP fun e => e.message.plain? == some text) =
      if scope.settings.textErrors then 0 else 1 := by
  unfold Interpreter.Closes at closes
  cases routed : scope.settings.textErrors with
  | true =>
    rw [routed, Bool.not_true, Bool.and_false] at closes
    subst closes
    rfl
  | false =>
    rw [routed, Bool.not_false, Bool.and_true, if_pos ended] at closes
    obtain ⟨function, said, same, rfl⟩ := closes
    obtain rfl := Option.some.inj (message.symm.trans same)
    simp

/-- What is shown before the end of a dispatch is: messages, and errors among side effects. -/
def front (r : Result) (es : List SideEffect) : List Shown :=
  (r.sideEffects.filter isSent).map (fun e => .out e.message) ++
    (es.filter SideEffect.isError).map fun e => .err e.message

/-- What is shown of the end of a dispatch: errors, the text of the result and its output. -/
def ending (r : Result) (last : List SideEffect) : List Shown :=
  (last.filter SideEffect.isError).map (fun e => .err e.message) ++
    ((if r.status = .error ∧ r.output = none then [.err (.text r.errorText)] else []) ++
      ((r.output.filter (· ≠ "")).map fun s => Shown.out (.text s)).toList)

theorem shown_eq {es : List SideEffect} (sent : r.sideEffects = es ++ last) :
    shown r = front r es ++ ending r last := by
  have errors : r.errors = es.filter SideEffect.isError ++ last.filter SideEffect.isError := by
    rw [Result.errors, sent, List.filter_append]
  rw [shown, errors]
  simp [front, ending]

theorem copies_front (sent : r.sideEffects = left.effects ++ last)
    (apart : left.diagnostics = reported scope unknown)
    (closes : Interpreter.Closes scope o r last)
    (others : ∀ e ∈ r.sideEffects, e.origin = none → e.message.plain? ≠ some text) :
    copies text (front r left.effects) = if scope.settings.textErrors then 0 else
      unknown.countP fun c => (c.unknownReport scope.command).message.plain? == some text := by
  have reports : ∀ e ∈ reported scope unknown, IsRecord e := fun e => isRecord_of_mem_reported
  have records : ∀ e ∈ reported scope unknown ++ last, IsRecord e :=
    List.forall_mem_append.2 ⟨reports, isRecord_of_closes closes⟩
  have early : ∀ e ∈ left.effects, e.origin = none → e.message.plain? ≠ some text :=
    fun e mem => others e (sent ▸ List.mem_append_left _ mem)
  rw [front, copies_append, copies_messages (filter_origin_eq sent apart closes) records others,
    copies_errors apart reports early, countP_reported, Nat.zero_add]

theorem copies_ending (nonempty : text ≠ "") (closes : Interpreter.Closes scope o r last)
    (message : r.message = some text) (diagnosed : r.Diagnosed)
    (said : Interpreter.Says scope o r) :
    copies text (ending r last) =
      if scope.settings.textErrors then 1 else 1 + if r.status = .error then 1 else 0 := by
  have records := isRecord_of_closes closes
  have own : last.filter (fun e => e.origin.isSome) = last :=
    List.filter_eq_self.2 fun e mem => (records e mem).origin
  have none : ∀ e ∈ last, e.origin = none → e.message.plain? ≠ some text := by
    intro e mem origin
    have placed := (records e mem).origin
    rw [origin] at placed
    cases placed
  obtain ⟨ended, output⟩ := said text message
  have unsuccessful : r.status ≠ .success := by
    obtain aborted | ⟨failed, -⟩ := diagnosed
    · simp [aborted]
    · simp [failed]
  rw [ending, copies_append, copies_append, copies_errors own records none,
    countP_last message ended closes, copies_errorText nonempty message unsuccessful output,
    copies_output nonempty output]
  cases scope.settings.textErrors <;> rfl

/-- What is shown of the end of a dispatch has a text. -/
theorem isSome_of_mem_ending (closes : Interpreter.Closes scope o r last) :
    ∀ l ∈ ending r last, l.value.plain?.isSome = true := by
  refine List.forall_mem_append.2 ⟨fun l mem => ?_, List.forall_mem_append.2 ⟨?_, ?_⟩⟩
  · obtain ⟨e, chosen, rfl⟩ := List.mem_map.1 mem
    exact (isRecord_of_closes closes e (List.mem_filter.1 chosen).1).text
  · split
    · exact List.forall_mem_singleton.2 rfl
    · exact List.forall_mem_nil _
  · intro l mem
    obtain ⟨t, -, rfl⟩ := Option.map_eq_some_iff.1 (Option.mem_toList.1 mem)
    rfl

/-- **How often the diagnostic of a result is shown.** -/
theorem copies_shown (nonempty : text ≠ "") (sent : r.sideEffects = left.effects ++ last)
    (apart : left.diagnostics = reported scope unknown)
    (closes : Interpreter.Closes scope o r last) (message : r.message = some text)
    (diagnosed : r.Diagnosed) (said : Interpreter.Says scope o r)
    (others : ∀ e ∈ r.sideEffects, e.origin = none → e.message.plain? ≠ some text) :
    copies text (shown r) = if scope.settings.textErrors then 1 else
      (unknown.countP fun c => (c.unknownReport scope.command).message.plain? == some text) + 1 +
        if r.status = .error then 1 else 0 := by
  rw [shown_eq sent, copies_append, copies_front sent apart closes others,
    copies_ending nonempty closes message diagnosed said]
  cases scope.settings.textErrors with
  | true => rfl
  | false => exact (Nat.add_assoc _ _ _).symm

/-- **Where a message has no text**, showing the result breaks off before the diagnostic: at most
reports of unknown functions are shown that say the same. -/
theorem copies_printable_shown (sent : r.sideEffects = left.effects ++ last)
    (apart : left.diagnostics = reported scope unknown)
    (closes : Interpreter.Closes scope o r last)
    (others : ∀ e ∈ r.sideEffects, e.origin = none → e.message.plain? ≠ some text)
    (wanting : ∃ l ∈ shown r, l.value.plain? = none) :
    copies text (printable (shown r)) ≤ if scope.settings.textErrors then 0 else
      unknown.countP fun c => (c.unknownReport scope.command).message.plain? == some text := by
  rw [shown_eq sent] at wanting ⊢
  have early : ∃ l ∈ front r left.effects, l.value.plain? = none := by
    obtain ⟨l, mem, none⟩ := wanting
    refine ⟨l, (List.mem_append.1 mem).resolve_right fun late => ?_, none⟩
    have texts := isSome_of_mem_ending closes l late
    rw [none] at texts
    cases texts
  rw [← copies_front sent apart closes others]
  exact copies_printable_le text early

end Result

/-- **How often a diagnostic is printed.** Take any command string, any interpreter and functions,
and any surroundings in which there is a result whose dispatch ended on purpose, or because a
command string is malformed, with a diagnostic that is not empty. Let no message that a callback
left have the same text. Where all that is shown has a text, showing the result prints the
diagnostic once if diagnostics go into the output. If they are kept apart, it prints the diagnostic
once for its record, once for each record of an unknown function that has the same text, and once
more if a command string is malformed. Where a callback left a message without a text that is to be
shown, showing the result breaks off, and the diagnostic is not printed: what is printed of the same
text are records of unknown functions. -/
theorem diagnostic_shown (i : Interpreter) (v : Invocation) (r : Result) (text : String)
    {σ τ : Type} (answer : σ → (q : CommandScript.Question) → q.Answer × σ) (s : σ)
    (answerTerminal : τ → (q : Question) → q.Answer × τ) (t : τ)
    (handled : (Program.run (S := CommandScript.Questions) answer s (i.handle v)).1 = .ok r)
    (diagnosed : r.Diagnosed) (message : r.message = some text) (nonempty : text ≠ "")
    (others : ∀ e ∈ r.sideEffects, e.origin = none → e.message.plain? ≠ some text) :
    let printed := (Program.asked (S := Questions) answerTerminal t (showAll (shown r))).countP
      (Question.shows text)
    let ended := (Program.run (S := Questions) answerTerminal t (showAll (shown r))).1
    let unknown := (unknownCalls (Program.exchanges (S := CommandScript.Questions) answer s
      (i.handle v))).countP fun c => (c.unknownReport v.command).message.plain? == some text
    ((∀ l ∈ shown r, l.value.plain?.isSome = true) → ended = .ok () ∧
      printed = if i.settings.textErrors then 1 else
        unknown + 1 + if r.status = .error then 1 else 0) ∧
    ((∃ l ∈ shown r, l.value.plain? = none) → ended = .error .unwritable ∧
      printed ≤ if i.settings.textErrors then 0 else unknown) := by
  intro printed ended unknown
  obtain ⟨functions, s', before, uncounted, comes, gives⟩ := Interpreter.exists_dispatch handled
  obtain ⟨o, last, left, apart, sent, closes, concluded⟩ := Interpreter.exists_conclusion answer s'
    (i.scope functions v) i.listeners v.source gives
  have said := concluded diagnosed
  have same : unknownCalls (Program.exchanges (S := CommandScript.Questions) answer s
      (i.handle v)) = unknownCalls (Evaluation.exchanges answer s'
        (Interpreter.dispatch (i.scope functions v) i.listeners v.source) .start) := by
    rw [comes, unknownCalls, List.foldl_append, Tally.foldl_of_isUncounted _ uncounted]
    rfl
  have asked : printed = copies text (printable (shown r)) :=
    countP_asked_showAll answerTerminal t text (shown r)
  obtain ⟨whole, broken⟩ := run_showAll answerTerminal t (shown r)
  rw [asked]
  refine ⟨fun all => ⟨whole all, ?_⟩, fun wanting => ⟨broken wanting, ?_⟩⟩
  · rw [printable_of_forall all]
    show _ = if _ then 1 else (unknownCalls _).countP _ + 1 + _
    rw [same]
    exact copies_shown nonempty sent apart closes message diagnosed said others
  · show _ ≤ if _ then 0 else (unknownCalls _).countP _
    rw [same]
    exact copies_printable_shown sent apart closes others wanting

/-- A terminal on which nothing has been shown. -/
def blank : Recorded := ⟨.empty .null, [], false, [], "", "", []⟩

/-- A call that is not closed. -/
def unclosed : Invocation := Interpreter.plain ['$', 's', '[']

theorem segments_unclosed :
    Script.segments unclosed.source 1 = .error (Script.unterminated ['s'] 0 1) :=
  Script.segmentsFrom_unterminated rfl rfl

/-- With diagnostics in the output, that a call is not closed is printed once. -/
theorem diagnostic_shown_unclosed :
    ∃ r text, (Program.run (S := CommandScript.Questions) World.answer (World.empty .null)
        (Interpreter.bare.handle unclosed)).1 = .ok r ∧
      r.Diagnosed ∧ r.message = some text ∧ text ≠ "" ∧
      (∀ e ∈ r.sideEffects, e.origin = none → e.message.plain? ≠ some text) ∧
      (∀ l ∈ shown r, l.value.plain?.isSome = true) ∧
      (Program.asked (S := Questions) Recorded.answer blank (showAll (shown r))).countP
        (Question.shows text) = 1 := by
  obtain ⟨r, text, handled, diagnosed, message, nonempty, sent, lines⟩ : ∃ r text,
      (Program.run (S := CommandScript.Questions) World.answer (World.empty .null)
        (Interpreter.bare.handle unclosed)).1 = .ok r ∧ r.Diagnosed ∧ r.message = some text ∧
          text ≠ "" ∧ r.sideEffects = [] ∧ shown r = [.out (.text text)] := by
    unfold Interpreter.handle Interpreter.run Interpreter.dispatch Evaluation.render
      Evaluation.source
    rw [segments_unclosed]
    exact ⟨_, _, rfl, .inr ⟨rfl, rfl⟩, rfl, by decide +kernel, rfl, rfl⟩
  have others : ∀ e ∈ r.sideEffects, e.origin = none → e.message.plain? ≠ some text := by
    rw [sent]
    exact List.forall_mem_nil _
  have texts : ∀ l ∈ shown r, l.value.plain?.isSome = true := by
    rw [lines]
    exact List.forall_mem_singleton.2 rfl
  have printed := diagnostic_shown Interpreter.bare unclosed r text World.answer (World.empty .null)
    Recorded.answer blank handled diagnosed message nonempty others
  exact ⟨r, text, handled, diagnosed, message, nonempty, others, texts, (printed.1 texts).2⟩

/-- **A malformed command string is shown twice** where diagnostics are kept apart: as a record, and
as the diagnostic of a dispatch without output. -/
theorem not_always_once :
    ¬∀ (i : Interpreter) (v : Invocation) (r : Result) (text : String),
      (Program.run (S := CommandScript.Questions) World.answer (World.empty .null)
        (i.handle v)).1 = .ok r →
      r.Diagnosed → r.message = some text → text ≠ "" →
      (∀ e ∈ r.sideEffects, e.origin = none → e.message.plain? ≠ some text) →
      (Program.asked (S := Questions) Recorded.answer blank (showAll (shown r))).countP
        (Question.shows text) = 1 := by
  intro always
  obtain ⟨r, text, handled, diagnosed, message, nonempty, others, twice⟩ : ∃ r text,
      (Program.run (S := CommandScript.Questions) World.answer (World.empty .null)
        (Interpreter.listened.handle unclosed)).1 = .ok r ∧ r.Diagnosed ∧ r.message = some text ∧
          text ≠ "" ∧ (∀ e ∈ r.sideEffects, e.origin = none → e.message.plain? ≠ some text) ∧
          shown r = [.err (.text text), .err (.text text)] := by
    unfold Interpreter.handle Interpreter.run Interpreter.dispatch Evaluation.render
      Evaluation.source
    rw [segments_unclosed]
    refine ⟨_, _, rfl, .inr ⟨rfl, rfl⟩, rfl, by decide +kernel, ?_, rfl⟩
    exact List.forall_mem_singleton.2 nofun
  have once := always Interpreter.listened unclosed r text handled diagnosed message nonempty others
  rw [countP_asked_showAll, twice, printable_of_forall
    (List.forall_mem_cons.2 ⟨rfl, List.forall_mem_singleton.2 rfl⟩)] at once
  simp [copies, Shown.value] at once

end CommandLine

end Terminal

end CommandScript
