import CommandScript.Proofs.BuiltIn.Exchanges
import CommandScript.Proofs.Value.Plain
import CommandScript.Value.Attribute
import CommandScript.Yaml.Reader

/-!
# Functions that follow paths

The functions that look into the event, or into what a server sent, give back what stands at the end
of a path. Such a call fails for an index that does not read as a number, or for what stands there
if it cannot be printed, and for no other reason. In plain data that is a whole number past the
limit on digits, unless the path comes to an attribute: what the attributes of values are is not
known here, and they need not be data.

## Main definitions

- `CommandScript.Evaluation.Fails` — a call fails for what its function gives back
- `CommandScript.BuiltIn.lookedUp` — what is given back for a value and a path
- `CommandScript.BuiltIn.Obtains` — what is given back for the replies to a request

## Main results

- `CommandScript.BuiltIn.receives_event`, `obtains_fetch`, `obtains_post` — the functions, in any
  call
- `CommandScript.BuiltIn.paths_followed` — which paths lead to a value, and which calls fail
- `CommandScript.BuiltIn.not_always_followed` — an index with two minus signs
-/

namespace CommandScript

open Script (Call)

/-- The text of an argument that has been read, and the empty text for any other. -/
def Memo.text (memo : Memo) (i : Nat) : String := (memo.lookup i).getD ""

namespace Evaluation

variable {α : Type} {admits : (q : Question) → q.Answer → Prop}
  {render : List Char → Int → Evaluation Outcome} {scope : Scope} {c : Call} {memo : Memo}
  {d : Dispatch} {a : Except Failure Reply}

/-- A call fails for what its function gives back: a failure, or a value that cannot be printed. -/
def Fails : Except Failure Reply → Prop
  | .error _ => True
  | .ok (.value v) => ∃ e, v.printed = .error e
  | .ok (.halt _) => False

/-- The dispatch has ended, and not by a failure of the call. -/
def Stopped (a : Except Failure Reply) (d : Dispatch) : Prop := d.halted ≠ none ∧ ¬Fails a

theorem not_fails_null : ¬Fails (.ok (.value .null)) := nofun

theorem not_fails_halt (h : Halt) : ¬Fails (.ok (.halt h)) := not_false

/-- A call that does not fail gives a text, or the end of the dispatch that counts. -/
theorem ensures_finish_of_not_fails (sound : ¬Fails a) :
    (finish scope c a).Ensures d fun _ o _ =>
      ∀ h, o = .error h → d.halted = some h ∨ d.halted = none ∧ a = .ok (.halt h) := by
  match a with
  | .error e => exact absurd trivial sound
  | .ok (.halt h) =>
    refine ensures_bind.2 (Ensures.imp (ensures_halt h) fun qs h' _ ended => ensures_pure.2 ?_)
    rintro _ ⟨rfl⟩
    rw [ended.2]
    cases halted : d.halted with
    | none => exact .inr ⟨rfl, rfl⟩
    | some first => exact .inl rfl
  | .ok (.value v) =>
    refine ensures_bind.2 (ensures_get.2 ?_)
    cases halted : d.halted with
    | some first =>
      refine ensures_pure.2 ?_
      rintro _ ⟨rfl⟩
      exact .inl rfl
    | none =>
      cases printed : v.printed with
      | ok text => exact ensures_pure.2 fun _ => nofun
      | error e => exact absurd ⟨e, printed⟩ sound

theorem receives_any (e : Evaluation α) : e.Receives admits d fun _ _ _ => True :=
  Program.Meets.of_ensures (Program.Ensures.of_forall (S := Questions) fun _ _ => trivial)

/-- Reading an argument for the first time: what is read is kept, and nothing else changes. -/
theorem receives_argument {i : Int} (unread : memo.lookup i.toNat = none) :
    (argument render scope c memo i).Receives admits d fun _ a _ =>
      a.2.lookup i.toNat = a.1 ∧ ∀ j ≠ i.toNat, a.2.lookup j = memo.lookup j := by
  have kept : memo.lookup i.toNat = none ∧ ∀ j ≠ i.toNat, memo.lookup j = memo.lookup j :=
    ⟨unread, fun _ _ => rfl⟩
  unfold argument
  rw [unread]
  cases c.argumentAt? i with
  | none => exact receives_pure kept
  | some written =>
    obtain ⟨source, line⟩ := written
    refine receives_get_bind ?_
    by_cases ended : d.isHalted = true
    · rw [if_pos ended]
      exact receives_pure kept
    · rw [if_neg ended]
      refine (receives_any (render source line)).bind fun rs o d' _ => ?_
      cases o with
      | ok t =>
        refine receives_pure ⟨List.lookup_cons_self, fun j other => ?_⟩
        rw [List.lookup_cons, beq_false_of_ne other]
      | error h =>
        exact (receives_any (halt scope h)).bind fun _ _ _ _ => receives_pure kept

theorem receives_read {i : Int} {next : Option String → Routine Callback α}
    {post : List Http.Reply → Except Failure α × Memo → Dispatch → Prop}
    (unread : memo.lookup i.toNat = none)
    (rest : ∀ rs (memo' : Memo) d', (∀ j ≠ i.toNat, memo'.lookup j = memo.lookup j) →
      (routine render scope c memo' (next (memo'.lookup i.toNat))).Receives admits d'
        fun rs' => post (rs ++ rs')) :
    (routine render scope c memo (.argument i next)).Receives admits d post := by
  refine (receives_argument unread).bind fun rs a d' read => ?_
  rw [← read.1]
  exact rest rs a.2 d' read.2

theorem receives_abort {reason : String} {details : Option String}
    {next : Halt → Routine Callback α}
    {post : List Http.Reply → Except Failure α × Memo → Dispatch → Prop}
    (rest : ∀ h d', d'.halted ≠ none →
      (routine render scope c memo (next h)).Receives admits d' post) :
    (routine render scope c memo (.abort reason details next)).Receives admits d post := by
  have halts : (abort scope c reason details).Ensures d fun qs _ d' =>
      (∀ q ∈ qs, q.isRequest = false) ∧ d'.halted ≠ none := by
    refine ensures_bind.2 (ensures_bind.2 (ensures_get.2 ?_))
    cases halted : d.halted with
    | some first =>
      exact ensures_pure.2 (ensures_pure.2 ⟨List.forall_mem_nil _, by rw [halted]; nofun⟩)
    | none =>
      refine ensures_bind.2 (ensures_modify.2 (ensures_bind.2 (ensures_observe.2 ?_)))
      refine ensures_bind.2 (ensures_note.2 (ensures_pure.2 (ensures_pure.2 ⟨?_, nofun⟩)))
      simp [Question.isRequest]
  exact Receives.bind_of_ensures halts rest

end Evaluation

namespace BuiltIn

open Evaluation Routine

variable {admits : (q : Question) → q.Answer → Prop}
  {render : List Char → Int → Evaluation Outcome} {scope : Scope} {c : Call} {memo : Memo}
  {d : Dispatch} {a : Except Failure Reply} {v : Value} {path url failure : String}

/-- What is given back for a value and a path into it. -/
def lookedUp [Value.Attributes] (v : Value) (path : String) : Except Failure Reply :=
  ((v.follow (Text.trim path.toList)).mapError .conversion).map .value

/-- **A call fails for its path** where that comes to a sequence with an index that does not read as
a number, where it finds what cannot be printed, and only there. -/
theorem fails_lookedUp_iff [Value.Attributes] (v : Value) (path : String) :
    Fails (lookedUp v path) ↔ v.AsksUnreadable (Text.trim path.toList) ∨
      ∃ w, v.follow (Text.trim path.toList) = .ok w ∧ ∃ e, w.printed = .error e := by
  rw [← Value.follow_eq_error_iff, lookedUp]
  cases found : v.follow (Text.trim path.toList) with
  | error e => exact ⟨fun _ => .inl ⟨e, rfl⟩, fun _ => trivial⟩
  | ok w =>
    refine ⟨fun unprinted => .inr ⟨w, rfl, unprinted⟩, ?_⟩
    rintro (⟨e, failed⟩ | ⟨_, same, unprinted⟩)
    · cases failed
    · cases same
      exact unprinted

/-- In plain data, and where the path comes to no attribute, what cannot be printed is a whole
number past the limit on digits. -/
theorem fails_lookedUp_plain [Value.Attributes] (plain : v.Plain)
    (data : ¬v.FindsAttribute (Text.trim path.toList)) :
    Fails (lookedUp v path) ↔ v.AsksUnreadable (Text.trim path.toList) ∨
      ∃ w, v.follow (Text.trim path.toList) = .ok w ∧ w.HasLong := by
  rw [fails_lookedUp_iff]
  refine or_congr_right (exists_congr fun w => and_congr_right fun found => ?_)
  exact (plain.follow data found).unprinted_iff

/-- What is given back for the replies to a request, with a path into what was sent. The failure of
an exchange ends the dispatch. -/
def Obtains [Yaml.Loader] [Value.Attributes] (url path : String) (rs : List Http.Reply)
    (a : Except Failure Reply) (d : Dispatch) : Prop :=
  ∃ before sent x, rs = before ++ sent ∧ Http.Attempted url 2 sent x ∧
    match x with
    | .ok v => a = if path = "" then .ok (.value v) else lookedUp v path
    | .error e => if e.isExchange then Stopped a d else a = .error (.http e)

theorem Obtains.after [Yaml.Loader] [Value.Attributes] {rs : List Http.Reply}
    (obtains : Obtains url path rs a d) (before : List Http.Reply) :
    Obtains url path (before ++ rs) a d := by
  obtain ⟨front, sent, x, rfl, rest⟩ := obtains
  exact ⟨before ++ front, sent, x, (List.append_assoc _ _ _).symm, rest⟩

section Rules

variable {go : Routine Callback Reply} {expected : Int} {exact : Bool}
  {post : List Http.Reply → Except Failure Reply × Memo → Dispatch → Prop}

theorem receives_checked (short : ∀ d', d'.halted ≠ none → post [] (.ok (.value .null), memo) d')
    (rest : (routine render scope c memo go).Receives admits d post) :
    (routine render scope c memo (withCount expected exact go)).Receives admits d post := by
  rw [withCount_eq]
  show (routine render scope c memo (if _ then _ else go)).Receives admits d post
  split
  · exact receives_abort fun h d' halted => receives_pure (short d' halted)
  · exact rest

theorem receives_unended (ended : d.halted ≠ none → post [] (.ok (.value .null), memo) d)
    (rest : d.halted = none → (routine render scope c memo go).Receives admits d post) :
    (routine render scope c memo (unlessAborted go)).Receives admits d post := by
  show (routine render scope c memo (if d.isHalted then nothing else go)).Receives admits d post
  cases halted : d.halted with
  | none =>
    rw [Dispatch.isHalted, halted]
    exact rest halted
  | some h =>
    rw [Dispatch.isHalted, halted]
    exact receives_pure (ended (halted ▸ Option.some_ne_none h))

end Rules

section Documents

variable [Value.Attributes]

theorem routine_follow (v : Value) (path : String) (d : Dispatch) :
    routine render scope c memo (follow v path >>= returning) d =
      (pure (lookedUp v path, memo) : Evaluation (Except Failure Reply × Memo)) d := by
  rw [follow, lookedUp]
  cases v.follow (Text.trim path.toList) with
  | error e => rfl
  | ok w => rfl

theorem event_eq : (event : Routine Callback Reply) =
    withCount 1 false (.argument 0 fun s => unlessAborted (.look fun seen =>
      follow seen.event (s.getD "") >>= returning)) := rfl

/-- **Looking into the event** gives back what stands there, in any call. -/
theorem receives_event :
    (routine render scope c [] event).Receives admits d fun _ a d' =>
      Stopped a.1 d' ∨ a.1 = lookedUp scope.event (a.2.text 0) := by
  rw [event_eq]
  refine receives_checked (fun d' halted => .inl ⟨halted, not_fails_null⟩) ?_
  refine receives_read rfl fun rs memo' d' _ => ?_
  refine receives_unended (fun halted => .inl ⟨halted, not_fails_null⟩) fun _ => ?_
  refine receives_get_bind ?_
  unfold Receives
  rw [routine_follow]
  exact .inr rfl

/-- What is made of what a request gave. -/
theorem receives_delivered {x : Except Http.Error Value} (path : Option String) :
    (routine render scope c memo (received failure path x)).Receives admits d fun rs a d' =>
      rs = [] ∧ a.2 = memo ∧
        match x with
        | .ok v => a.1 = if path.getD "" = "" then .ok (.value v) else lookedUp v (path.getD "")
        | .error e => if e.isExchange then Stopped a.1 d' else a.1 = .error (.http e) := by
  cases x with
  | error e =>
    rw [received]
    by_cases exchange : e.isExchange = true
    · rw [if_pos exchange]
      refine receives_abort fun h d' halted => receives_pure ⟨rfl, rfl, ?_⟩
      exact (if_pos exchange).mpr ⟨halted, not_fails_halt h⟩
    · rw [if_neg exchange]
      exact receives_pure ⟨rfl, rfl, (if_neg exchange).mpr rfl⟩
  | ok v =>
    obtain rfl | ⟨p, rfl⟩ : path = none ∨ ∃ p, path = some p := by
      cases path <;> simp
    · exact receives_pure ⟨rfl, rfl, (if_pos rfl).symm⟩
    · by_cases empty : p = ""
      · subst empty
        exact receives_pure ⟨rfl, rfl, (if_pos rfl).symm⟩
      · have given : (some p).filter (· ≠ "") = some p := by simp [empty]
        rw [received, given]
        show Program.Meets (S := Questions) admits
          (routine render scope c memo (follow v p >>= returning) d) _
        rw [routine_follow]
        exact ⟨rfl, rfl, (if_neg empty).symm⟩

variable [Yaml.Loader]

/-- What is made of a request. -/
theorem obtains_request {p : Program Effects (Except Http.Error Value)}
    (requests : p.Meets (S := Effects) (fun q r => admits (.effect scope.logged q) r)
      fun xs x => Http.Attempted url 2 (Http.replies xs) x)
    (path : Option String) :
    (routine render scope c memo (ofProgram p >>= received failure path)).Receives admits d
      fun rs a d' => a.2 = memo ∧ Obtains url (path.getD "") rs a.1 d' := by
  refine receives_ofProgram_bind requests fun rs x attempted => ?_
  refine (receives_delivered path).imp fun rs' a d' delivered => ?_
  obtain ⟨rfl, same, delivered⟩ := delivered
  exact ⟨same, [], rs, x, by simp, attempted, delivered⟩

/-- **Fetching a document** gives back what stands in it, in any call. -/
theorem obtains_fetch :
    (routine render scope c [] fetch).Receives admits d fun rs a d' =>
      Stopped a.1 d' ∨ Obtains (trimmed (a.2.text 0)) (a.2.text 1) rs a.1 d' := by
  refine receives_checked (fun d' halted => .inl ⟨halted, not_fails_null⟩) ?_
  refine receives_read rfl fun rs memo₁ d₁ others => ?_
  refine receives_read (others 1 (by decide)) fun rs' memo₂ d₂ same => ?_
  refine receives_unended (fun halted => .inl ⟨halted, not_fails_null⟩) fun _ => ?_
  refine (obtains_request (Http.meets_get _) (memo₂.lookup 1)).imp fun rs'' a d' given => ?_
  obtain ⟨left, obtains⟩ := given
  have first : a.2.text 0 = (memo₁.lookup 0).getD "" := by
    rw [left, Memo.text, same 0 (by decide)]
  rw [first, left]
  exact .inr ((obtains.after rs').after rs)

/-- **Sending a document** gives back what stands in the answer, in any call. -/
theorem obtains_post :
    (routine render scope c [] post).Receives admits d fun rs a d' =>
      Stopped a.1 d' ∨
        (∃ e, Payload.readObject (a.2.text 1).toList = .error e ∧ a.1 = .error (.conversion e)) ∨
        Obtains (trimmed (a.2.text 0)) (a.2.text 2) rs a.1 d' := by
  refine receives_checked (fun d' halted => .inl ⟨halted, not_fails_null⟩) ?_
  refine receives_read rfl fun rs memo₁ d₁ others₁ => ?_
  refine receives_read (others₁ 1 (by decide)) fun rs' memo₂ d₂ others₂ => ?_
  have unread : memo₂.lookup 2 = none := (others₂ 2 (by decide)).trans (others₁ 2 (by decide))
  refine receives_read unread fun rs'' memo₃ d₃ others₃ => ?_
  refine receives_unended (fun halted => .inl ⟨halted, not_fails_null⟩) fun _ => ?_
  have first : memo₃.text 0 = (memo₁.lookup 0).getD "" := by
    rw [Memo.text, others₃ 0 (by decide), others₂ 0 (by decide)]
  have second : memo₃.text 1 = (memo₂.lookup 1).getD "" := by
    rw [Memo.text, others₃ 1 (by decide)]
  show (routine render scope c memo₃ (lift .conversion
    (Payload.readObject ((memo₂.lookup 1).getD "").toList) >>= _)).Receives admits d₃ _
  rw [← second]
  cases readable : Payload.readObject (memo₃.text 1).toList with
  | error e => exact .inr (.inl ⟨e, readable, rfl⟩)
  | ok o =>
    let url := (memo₁.lookup 0).getD ""
    let request := Http.post (trimmed url) [(.text "headers", bodyHeaders o.isSome)]
      (.text ((memo₂.lookup 1).getD ""))
    have sends : (routine render scope c memo₃ (ofProgram request >>=
        received ("Failed to post to " ++ url) (memo₃.lookup 2))).Receives admits d₃ _ :=
      obtains_request (Http.meets_post _ _ _) (memo₃.lookup 2)
    show (routine render scope c memo₃ (ofProgram _ >>= _)).Receives admits d₃ _
    refine sends.imp fun rs''' a d' given => ?_
    obtain ⟨left, obtains⟩ := given
    rw [left, first]
    exact .inr (.inr (((obtains.after rs'').after rs').after rs))

/-- **Paths are followed.** Whatever the value and the path, whatever attributes values have and
whatever documents are read as, following the path fails exactly where it comes to a sequence with
an index that does not read as a number: one with several minus signs, with digits that have no
place value, or with more digits than the limit. A path with a step that finds nothing comes to
null. A call that looks up a path fails for such an index, or for what it finds if that cannot be
printed, and for nothing else; in plain data, where the path comes to no attribute, this is a whole
number past the limit on digits. A call that does not fail gives a text or the end of the dispatch.
In any call, the function that looks into the event looks up its first argument there, and those
that fetch or send a document look up their last argument in what they were sent. -/
theorem paths_followed (v : Value) (path : String) :
    ((∃ e, v.follow path.toList = .error e) ↔ v.AsksUnreadable path.toList) ∧
    (∀ e, v.follow path.toList = .error e → e.kind = "ValueError") ∧
    (v.LeadsNowhere path.toList → v.follow path.toList = .ok .null) ∧
    (Fails (lookedUp v path) ↔ v.AsksUnreadable (Text.trim path.toList) ∨
      ∃ w, v.follow (Text.trim path.toList) = .ok w ∧ ∃ e, w.printed = .error e) ∧
    (v.Plain → ¬v.FindsAttribute (Text.trim path.toList) →
      (Fails (lookedUp v path) ↔ v.AsksUnreadable (Text.trim path.toList) ∨
        ∃ w, v.follow (Text.trim path.toList) = .ok w ∧ w.HasLong)) ∧
    ∀ (admits : (q : Question) → q.Answer → Prop) (render : List Char → Int → Evaluation Outcome)
      (scope : Scope) (c : Call) (d : Dispatch),
      (∀ a, ¬Fails a → (finish scope c a).Ensures d fun _ o _ =>
        ∀ h, o = .error h → d.halted = some h ∨ d.halted = none ∧ a = .ok (.halt h)) ∧
      ((routine render scope c [] event).Receives admits d fun _ a d' =>
        Stopped a.1 d' ∨ a.1 = lookedUp scope.event (a.2.text 0)) ∧
      ((routine render scope c [] fetch).Receives admits d fun rs a d' =>
        Stopped a.1 d' ∨ Obtains (trimmed (a.2.text 0)) (a.2.text 1) rs a.1 d') ∧
      (routine render scope c [] post).Receives admits d fun rs a d' =>
        Stopped a.1 d' ∨
          (∃ e, Payload.readObject (a.2.text 1).toList = .error e ∧
            a.1 = .error (.conversion e)) ∨
          Obtains (trimmed (a.2.text 0)) (a.2.text 2) rs a.1 d' :=
  ⟨Value.follow_eq_error_iff, fun _ => Value.kind_of_follow, Value.follow_of_leadsNowhere,
    fails_lookedUp_iff v path, fails_lookedUp_plain,
    fun _ _ _ _ _ => ⟨fun _ sound => ensures_finish_of_not_fails sound,
      receives_event, obtains_fetch, obtains_post⟩⟩

end Documents

/-- Two numbers in a list. -/
def twoNumbers : Value := .list [.int 10, .int 20]

theorem plain_twoNumbers : twoNumbers.Plain :=
  .list (List.forall_mem_cons.2 ⟨.int 10, List.forall_mem_singleton.2 (.int 20)⟩)

/-- There is no sixth item of two, and a call that looks for it does not fail. -/
theorem paths_followed_outside :
    twoNumbers.Plain ∧ ¬twoNumbers.FindsAttribute ['5'] ∧ twoNumbers.LeadsNowhere ['5'] ∧
      twoNumbers.follow ['5'] = .ok .null ∧ ¬Fails (lookedUp twoNumbers "5") := by
  have data : ¬twoNumbers.FindsAttribute ['5'] := by
    rintro ⟨before, key, after, u, cut, led, -, -, other, -⟩
    obtain ⟨rfl, rfl, rfl⟩ : before = [] ∧ key = ['5'] ∧ after = [] := by
      cases before with
      | nil => exact ⟨rfl, (List.cons.inj cut).1.symm, (List.cons.inj cut).2.symm⟩
      | cons b before => exact absurd (List.cons.inj cut).2.symm (by simp)
    cases led
    obtain none | word := other
    · cases none
    · exact absurd word (by decide)
  have nowhere : twoNumbers.LeadsNowhere ['5'] :=
    ⟨[], ['5'], [], twoNumbers, rfl, rfl, .index rfl rfl rfl (.inr (by decide))⟩
  obtain ⟨fails, -, null, -, calls, -⟩ := paths_followed twoNumbers "5"
  have found : twoNumbers.follow ['5'] = .ok .null := null nowhere
  refine ⟨plain_twoNumbers, data, nowhere, found, fun failed => ?_⟩
  obtain asks | ⟨w, other, long⟩ := (calls plain_twoNumbers data).1 failed
  · obtain ⟨e, refused⟩ := fails.2 asks
    cases found.symm.trans refused
  · cases found.symm.trans other
    cases long

/-- **An index with two minus signs** is taken for an index, and does not read as a number. -/
theorem not_always_followed :
    ¬∀ v : Value, v.Plain → ∀ path : List Char, ∃ w, v.follow path = .ok w := by
  intro always
  obtain ⟨w, followed⟩ := always twoNumbers plain_twoNumbers ['-', '-', '1']
  have refused : twoNumbers.follow ['-', '-', '1'] = .error (.noInteger 10 "'--1'") := by
    have unread : Numeral.readInt ['-', '-', '1'] = .error .malformed :=
      Numeral.readInt_two_signs (List.forall_mem_singleton.2 (by decide))
    have stepped : twoNumbers.step ['-', '-', '1'] = .error (.noInteger 10 "'--1'") := by
      rw [Value.step_index rfl (by decide), Numeral.toInt, unread]
      rfl
    show twoNumbers.followSteps [['-', '-', '1']] = _
    rw [Value.followSteps, stepped]
  cases refused.symm.trans followed

end BuiltIn

end CommandScript
