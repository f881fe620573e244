import CommandScript.Dispatch.Calls
import CommandScript.Proofs.Program
import CommandScript.Proofs.Script.Nesting

/-!
# Malformed command strings

A command string that is well formed never turns out to be malformed while it is evaluated: all that
is read later are arguments of its calls, which are well formed too. Bodies of functions and what
callbacks make up by themselves are the only other sources of such a failure.

## Main definitions

- `CommandScript.Halt.isMalformed` — the end of a dispatch because of a malformed command string
- `CommandScript.Question.isInnocent` — what comes up where no function has a body and no callback
  makes up such an end
- `CommandScript.Evaluation.Guarded` — what innocent runs of a computation do

## Main results

- `CommandScript.Evaluation.guarded_render` — a well-formed command string does not turn out to be
  malformed
-/

namespace CommandScript

open Script (WellFormed)

/-- Whether a dispatch ended because of a malformed command string. -/
def Halt.isMalformed : Halt → Bool
  | .fault (.parse _) _ _ => true
  | _ => false

/-- A dispatch that did not end because of a malformed command string. -/
def Dispatch.Sound (d : Dispatch) : Prop := ∀ h, d.halted = some h → h.isMalformed = false

/-- An outcome that is not the end because of a malformed command string. -/
def Outcome.Sound (o : Outcome) : Prop := ∀ h, o = .error h → h.isMalformed = false

/-- Whether an observer is told neither of a function with a body nor of a callback that raises or
returns the end because of a malformed command string. -/
def Activity.isInnocent : Activity → Bool
  | .entering _ (.scripted ..) => false
  | .returned _ (.error (.parse _)) => false
  | .returned _ (.ok (.halt h)) => !h.isMalformed
  | _ => true

/-- Whether a question tells neither of a function with a body nor of a callback that raises or
returns the end because of a malformed command string. -/
def Question.isInnocent : Question → Bool
  | .observe _ a => a.isInnocent
  | _ => true

theorem Outcome.sound_ok {s : String} : Outcome.Sound (.ok s) := fun _ eq => by cases eq

theorem Outcome.sound_error {h : Halt} (sound : h.isMalformed = false) : Outcome.Sound (.error h) :=
  fun _ eq => Except.error.inj eq ▸ sound

namespace Evaluation

/-- Every run of a computation from a dispatch on in which only innocent questions come up meets a
condition. -/
def Guarded {α : Type} (e : Evaluation α) (d : Dispatch) (post : α → Dispatch → Prop) : Prop :=
  e.Ensures d fun qs a d' => (∀ q ∈ qs, q.isInnocent) → post a d'

variable {α β : Type} {scope : Scope} {c : Script.Call} {d : Dispatch}

theorem Guarded.bind {e : Evaluation α} {f : α → Evaluation β} {P : α → Dispatch → Prop}
    {post : β → Dispatch → Prop} (first : e.Guarded d P)
    (second : ∀ a d', P a d' → (f a).Guarded d' post) : (e >>= f).Guarded d post := by
  refine ensures_bind.2 (Ensures.imp first fun qs a d' met => ?_)
  by_cases innocent : ∀ q ∈ qs, q.isInnocent
  · refine Ensures.imp (second a d' (met innocent)) fun rs b d'' met' all => met' fun q mem => ?_
    exact all q (List.mem_append_right qs mem)
  · refine Program.Ensures.of_forall fun rs r all => absurd (fun q mem => ?_) innocent
    exact all q (List.mem_append_left rs mem)

/-- One computation after another one of which only needs to be known that it is sound. -/
theorem Guarded.seq {e : Evaluation α} {f : α → Evaluation β} {post : β → Dispatch → Prop}
    (first : e.Guarded d fun _ d' => d'.Sound) (second : ∀ a d', d'.Sound → (f a).Guarded d' post) :
    (e >>= f).Guarded d post :=
  first.bind second

theorem guarded_pure {a : α} {post : α → Dispatch → Prop} (h : post a d) :
    (pure a : Evaluation α).Guarded d post := fun _ => h

theorem guarded_get_bind {f : Dispatch → Evaluation β} {post : β → Dispatch → Prop}
    (h : (f d).Guarded d post) : (get >>= f).Guarded d post :=
  Guarded.bind (P := fun a d' => a = d ∧ d' = d) (fun _ => ⟨rfl, rfl⟩)
    fun _ _ eq => eq.1 ▸ eq.2 ▸ h

theorem guarded_modify {g : Dispatch → Dispatch} {post : Unit → Dispatch → Prop}
    (h : post () (g d)) : (modify g : Evaluation Unit).Guarded d post := fun _ => h

theorem guarded_ask {q : Question} {post : q.Answer → Dispatch → Prop} (h : ∀ r, post r d) :
    (ask q).Guarded d post := fun r _ => h r

theorem guarded_observe {a : Activity} {post : Unit → Dispatch → Prop}
    (h : a.isInnocent → post () d) : (observe a).Guarded d post :=
  ensures_observe.2 fun innocent => h (innocent _ (List.mem_singleton_self _))

theorem guarded_note {level : Log.Level} {source : Log.Source} {message : String}
    {post : Unit → Dispatch → Prop} (h : post () d) :
    (note scope level source message).Guarded d post := ensures_note.2 fun _ => h

theorem guarded_halt {h : Halt} (sound : d.Sound) (other : h.isMalformed = false) :
    (halt scope h).Guarded d fun first d' => d'.Sound ∧ first.isMalformed = false := by
  refine guarded_get_bind ?_
  cases ended : d.halted with
  | some first => exact guarded_pure ⟨sound, sound first ended⟩
  | none =>
    have sound' : Dispatch.Sound { d with halted := some h } :=
      fun h' eq => Option.some.inj eq ▸ other
    refine Guarded.seq (guarded_modify sound') fun _ d sound => ?_
    refine Guarded.seq (guarded_observe fun _ => sound) ?_
    intro _ d sound
    exact Guarded.seq (guarded_note sound)
      fun _ _ sound => guarded_pure ⟨sound, other⟩

/-- The end of a dispatch is what a call or a command string gives. -/
theorem guarded_error_halt {h : Halt} (sound : d.Sound) (other : h.isMalformed = false) :
    Guarded (do return .error (← halt scope h)) d fun (o : Outcome) d' => d'.Sound ∧ o.Sound :=
  (guarded_halt sound other).bind fun _ _ r => guarded_pure ⟨r.1, Outcome.sound_error r.2⟩

section Routines

variable {render : List Char → Int → Evaluation Outcome} {memo : Memo}

/-- Well-formed command strings do not turn out to be malformed. -/
def GuardedRendering (render : List Char → Int → Evaluation Outcome) : Prop :=
  ∀ cs line d, WellFormed cs → d.Sound →
    (render cs line).Guarded d fun o d' => d'.Sound ∧ o.Sound

/-- An argument that is read is an argument of the call. -/
theorem mem_of_argumentAt? {index line : Int} {cs : List Char}
    (h : c.argumentAt? index = some (cs, line)) : cs ∈ c.arguments := by
  unfold Script.Call.argumentAt? at h
  split at h
  · cases h
  · exact (List.of_mem_zip (List.mem_of_getElem? h)).1

theorem guarded_argument (hrender : GuardedRendering render)
    (args : ∀ a ∈ c.arguments, WellFormed a) (index : Int) (sound : d.Sound) :
    (argument render scope c memo index).Guarded d fun _ d' => d'.Sound := by
  unfold argument
  split
  · exact guarded_pure sound
  · exact guarded_pure sound
  · next found _ =>
    refine guarded_get_bind ?_
    split
    · exact guarded_pure sound
    · have wellFormed := args _ (mem_of_argumentAt? found)
      refine (hrender _ _ d wellFormed sound).bind fun o d' r => ?_
      cases o with
      | ok s => exact guarded_pure r.1
      | error h => exact (guarded_halt r.1 (r.2 h rfl)).bind fun _ _ r => guarded_pure r.1

theorem guarded_noteAll (notices : List Notice) (sound : d.Sound) :
    (noteAll scope notices).Guarded d fun _ d' => d'.Sound := by
  induction notices generalizing d with
  | nil => exact guarded_pure sound
  | cons n ns ih =>
    exact Guarded.seq (guarded_note sound) fun _ _ sound => ih sound

/-- Whatever a routine does by itself, the dispatch stays sound while it runs. -/
theorem guarded_routine {γ : Type} (hrender : GuardedRendering render)
    (args : ∀ a ∈ c.arguments, WellFormed a) (r : Routine Callback γ) (sound : d.Sound) :
    (routine render scope c memo r).Guarded d fun _ d' => d'.Sound := by
  induction r generalizing memo d with
  | done a => exact guarded_pure sound
  | raise e => exact guarded_pure sound
  | argument i next ih =>
    exact (guarded_argument hrender args i sound).bind fun _ _ sound => ih _ sound
  | look next ih => exact guarded_get_bind (ih _ sound)
  | abort reason details next ih =>
    refine Guarded.seq ?_ fun h _ sound => ih h sound
    exact (guarded_halt sound rfl).bind fun _ _ r => guarded_pure r.1
  | emit m topics next ih =>
    exact Guarded.seq (guarded_modify sound) fun _ _ sound => ih sound
  | «recall» key next ih => exact guarded_get_bind (ih _ sound)
  | remember key v next ih =>
    exact Guarded.seq (guarded_modify sound) fun _ _ sound => ih sound
  | change ch next ih =>
    refine Guarded.seq ?_ fun failure _ sound => ih failure sound
    refine Guarded.seq (guarded_ask fun _ => sound) fun _ _ sound => ?_
    exact (guarded_noteAll _ sound).bind fun _ _ sound => guarded_pure sound
  | effect q next ih =>
    exact Guarded.seq (guarded_ask fun _ => sound)
      fun _ _ sound => ih _ sound

/-- A function without a body leaves the dispatch sound. -/
theorem guarded_invoke (hrender : GuardedRendering render)
    (args : ∀ a ∈ c.arguments, WellFormed a) {f : Descriptor Callback}
    (entering : (Activity.entering c f).isInnocent) (sound : d.Sound) :
    (invoke render scope c f).Guarded d fun _ d' => d'.Sound := by
  cases f with
  | native _ callback _ =>
    exact (guarded_routine hrender args callback.body sound).bind fun _ _ sound =>
      guarded_pure sound
  | scripted => cases entering
  | other _ => exact guarded_pure sound

theorem guarded_fail {e : Failure} (sound : d.Sound)
    (other : (Halt.fault e (some c.shownName) true).isMalformed = false) :
    (fail scope c e).Guarded d fun o d' => d'.Sound ∧ o.Sound :=
  Guarded.seq (guarded_note sound) fun _ _ sound =>
    guarded_error_halt sound other

/-- What a callback gives back is innocent, so what its call gives is. -/
theorem guarded_finish {reply : Except Failure Reply}
    (returned : (Activity.returned c reply).isInnocent) (sound : d.Sound) :
    (finish scope c reply).Guarded d fun o d' => d'.Sound ∧ o.Sound := by
  match reply with
  | .error e =>
    refine guarded_fail sound ?_
    cases e with
    | parse e => cases returned
    | _ => rfl
  | .ok (.halt h) => exact guarded_error_halt sound (Bool.not_eq_true' _ ▸ returned)
  | .ok (.value v) =>
    refine guarded_get_bind ?_
    split
    · next h ended => exact guarded_pure ⟨sound, Outcome.sound_error (sound h ended)⟩
    · exact guarded_pure ⟨sound, Outcome.sound_ok⟩
    · exact guarded_fail sound rfl

theorem guarded_enter (hrender : GuardedRendering render)
    (args : ∀ a ∈ c.arguments, WellFormed a) (f : Descriptor Callback) (sound : d.Sound) :
    (enter render scope c f).Guarded d fun o d' => d'.Sound ∧ o.Sound := by
  refine Guarded.seq (guarded_modify sound) fun _ d sound => ?_
  refine Guarded.bind (P := fun _ d' => d'.Sound ∧ (Activity.entering c f).isInnocent)
    (guarded_observe fun entering => ⟨sound, entering⟩) fun _ d r => ?_
  have performed : (perform render scope c f).Guarded d fun o d' => d'.Sound ∧ o.Sound := by
    refine (guarded_invoke hrender args r.2 r.1).bind fun reply d sound => ?_
    refine Guarded.bind (P := fun _ d' => d'.Sound ∧ (Activity.returned c reply).isInnocent)
      (guarded_observe fun returned => ⟨sound, returned⟩) fun _ d r => ?_
    exact guarded_finish r.2 r.1
  refine performed.bind fun o d r => ?_
  refine Guarded.seq (guarded_modify r.1) fun _ d sound => ?_
  exact Guarded.seq (guarded_observe fun _ => sound)
    fun _ _ sound => guarded_pure ⟨sound, r.2⟩

end Routines

theorem guarded_unknown (sound : d.Sound) :
    (unknown scope c).Guarded d fun o d' => d'.Sound ∧ o.Sound := by
  unfold unknown
  split
  · exact Guarded.seq (guarded_note sound)
      fun _ _ sound => guarded_pure ⟨sound, Outcome.sound_ok⟩
  · refine Guarded.seq ?_
      fun _ _ sound => guarded_pure ⟨sound, Outcome.sound_ok⟩
    exact Guarded.seq (guarded_note sound)
      fun _ _ sound => guarded_modify sound

theorem guarded_refuse (sound : d.Sound) :
    (refuse scope c).Guarded d fun o d' => d'.Sound ∧ o.Sound :=
  Guarded.seq (guarded_note sound) fun _ _ sound =>
    guarded_error_halt sound rfl

/-- Calls whose arguments are well formed do not turn out to be malformed. -/
def GuardedCalling (call : Script.Call → Evaluation Outcome) : Prop :=
  ∀ c d, (∀ a ∈ c.arguments, WellFormed a) → d.Sound →
    (call c).Guarded d fun o d' => d'.Sound ∧ o.Sound

section Calls

variable {call : Script.Call → Evaluation Outcome}

theorem guarded_segments (hcall : GuardedCalling call) (parts : List Script.Segment)
    (args : ∀ c, .call c ∈ parts → ∀ a ∈ c.arguments, WellFormed a) (sound : d.Sound) :
    (segments call parts).Guarded d fun o d' => d'.Sound ∧ o.Sound := by
  have longer {d : Dispatch} {o : Outcome} (f : String → String) (r : d.Sound ∧ o.Sound) :
      Guarded (pure (o.map f)) d fun (o : Outcome) d' => d'.Sound ∧ o.Sound := by
    refine guarded_pure ⟨r.1, ?_⟩
    cases o with
    | ok s => exact Outcome.sound_ok
    | error h => exact Outcome.sound_error (r.2 h rfl)
  induction parts generalizing d with
  | nil => exact guarded_pure ⟨sound, Outcome.sound_ok⟩
  | cons part rest ih =>
    have others : ∀ c, .call c ∈ rest → ∀ a ∈ c.arguments, WellFormed a :=
      fun c mem => args c (List.mem_cons_of_mem _ mem)
    cases part with
    | literal raw => exact (ih others sound).bind fun _ _ r => longer _ r
    | call c =>
      refine (hcall c d (args c List.mem_cons_self) sound).bind fun o d' r => ?_
      cases o with
      | error h => exact guarded_pure r
      | ok s => exact (ih others r.1).bind fun _ _ r => longer _ r

/-- What a well-formed command string is read as has calls whose arguments are well formed. -/
theorem guarded_source (hcall : GuardedCalling call) : GuardedRendering (source call scope) := by
  intro cs line d wellFormed sound
  obtain ⟨parts, segmented⟩ := wellFormed.segments line
  have args : ∀ c, .call c ∈ parts → ∀ a ∈ c.arguments, WellFormed a :=
    fun c mem a arg => wellFormed.within (.argument .self segmented mem arg)
  refine guarded_get_bind ?_
  split
  · next h ended => exact guarded_pure ⟨sound, Outcome.sound_error (sound h ended)⟩
  · refine Guarded.seq (guarded_observe fun _ => sound) ?_
    intro _ d sound
    rw [segmented]
    refine (guarded_segments hcall parts args sound).bind fun o d r => ?_
    exact Guarded.seq (guarded_observe fun _ => r.1)
      fun _ _ sound => guarded_pure ⟨sound, r.2⟩

end Calls

theorem guarded_call (remaining : Nat) : GuardedCalling (call scope remaining) := by
  induction remaining with
  | zero =>
    intro c d args sound
    refine Guarded.seq (guarded_ask (q := .find ..) fun _ => sound) ?_
    intro f d sound
    cases f with
    | none => exact guarded_unknown sound
    | some f => exact guarded_refuse sound
  | succ n ih =>
    intro c d args sound
    refine Guarded.seq (guarded_ask (q := .find ..) fun _ => sound) ?_
    intro f d sound
    cases f with
    | none => exact guarded_unknown sound
    | some f => exact guarded_enter (guarded_source ih) args f sound

/-- A well-formed command string does not turn out to be malformed, however deep calls may be inside
one another. -/
theorem guarded_render (remaining : Nat) : GuardedRendering (render scope remaining) :=
  guarded_source (guarded_call remaining)

end Evaluation

end CommandScript
