import CommandScript.Proofs.BuiltIn
import CommandScript.Proofs.Dispatch.Acts
import CommandScript.Proofs.Dispatch.Keeping
import CommandScript.Proofs.Dispatch.Numbers
import CommandScript.Proofs.Dispatch.Order

/-!
# What drawing a number does

The built-in function that draws numbers evaluates up to three arguments, and more of them can come
to be drawn and remembered meanwhile. When it decides, it follows all calls that have returned by
then.

## Main definitions

- `CommandScript.BuiltIn.drawBetween`, `CommandScript.BuiltIn.drawFrom` — what is done once the
  arguments have values, and once the bounds are known
- `CommandScript.Routine.Barren` — routines that come to nothing
- `CommandScript.Evaluation.Closes` — a call can be entered into the history

## Main results

- `CommandScript.Evaluation.keeps_random` — a call that asks for a number follows those before it
-/

namespace CommandScript

open BuiltIn

namespace BuiltIn

open Routine

/-- What is done once the bounds are known. -/
def drawFrom (low high : Int) (remembered : Bool) : Routine Callback Reply := do
  if high < low then
    let lowText ← lift .conversion (Numeral.intText low)
    let highText ← lift .conversion (Numeral.intText high)
    ending (signalError ("Minimum " ++ lowText ++ " is greater than maximum " ++ highText))
  else
    let key ← lift .conversion (drawKey low high)
    if remembered then
      match ← .recall key .done with
      | some v => returning v
      | none => draw low high key true
    else draw low high key false

/-- What is done once the arguments have values. -/
def drawBetween (low high : Value) (remembered : Bool) : Routine Callback Reply :=
  withNumbers [low, high] do
    let low ← wholeNumber low
    let high ← wholeNumber high
    drawFrom low high remembered

theorem random_eq : random = withCount 2 false (valueOr 0 .null >>= fun low =>
    valueOr 1 .null >>= fun high => valueOr 2 (.bool true) >>= fun flag =>
      drawBetween low high flag.isTruthy) := rfl

end BuiltIn

namespace Routine

variable {C α : Type} {name : String} {position : Nat} {vs : List Value}

/-- The routine reads, draws and remembers nothing, and returns no whole number, whatever it is
told. -/
def Barren : Routine C Reply → Prop
  | .done r => ∀ n, r ≠ .value (.int n)
  | .raise _ => True
  | .look next => ∀ v, (next v).Barren
  | .abort _ _ next => ∀ h, (next h).Barren
  | _ => False

theorem barren_nothing : (nothing : Routine C Reply).Barren := fun _ => nofun

theorem barren_signalError (message : String) :
    (ending (signalError message) : Routine C Reply).Barren := fun _ _ => nofun

theorem barren_lift_bind {ε : Type} {wrap : ε → Failure} {e : Except ε α}
    {k : α → Routine C Reply} (rest : ∀ a, e = .ok a → (k a).Barren) :
    (lift wrap e >>= k).Barren := by
  cases e with
  | error e => trivial
  | ok a => exact rest a rfl

/-- Where something is no number, the check comes to nothing. -/
theorem barren_checkKindsFrom {go : Routine C Reply} (other : ∃ v ∈ vs, v.kind ≠ .number) :
    (checkKindsFrom name position vs (vs.map fun _ => Kind.number.name) >>= fun passes =>
      if passes then go else nothing).Barren := by
  induction vs generalizing position with
  | nil =>
    obtain ⟨v, mem, -⟩ := other
    cases mem
  | cons v vs ih =>
    show ((checkKindsFrom name position (v :: vs)
      ("number" :: vs.map fun _ => Kind.number.name) : Routine C Bool) >>= _).Barren
    rw [checkKindsFrom, alternatives_number, unknownKinds_number]
    rw [if_neg (by decide)]
    by_cases number : v.kind = .number
    · have later : ∃ v ∈ vs, v.kind ≠ .number := by
        obtain ⟨w, mem, other⟩ := other
        obtain rfl | mem := List.mem_cons.1 mem
        · exact absurd number other
        · exact ⟨w, mem, other⟩
      rw [if_pos (contains_number_iff.2 number)]
      exact ih later
    · rw [if_neg fun allowed => number (contains_number_iff.1 allowed)]
      cases v.literalText with
      | error e => trivial
      | ok shown => exact fun _ => barren_nothing

end Routine

namespace BuiltIn

open Routine

variable {v w : Value} {low high : Int} {flag : Bool} {text : String}

theorem bound?_eq_some_iff : bound? v = some low ↔ v.kind = .number ∧ v.toInt = .ok low := by
  unfold bound?
  cases v.toInt <;> simp [Except.toOption]

/-- What is done in a dispatch that has not ended, once the arguments have values. -/
theorem drawBetween_eq (v w : Value) (flag : Bool) : drawBetween v w flag =
    .look fun seen => if seen.isAborted then nothing else
      .look fun seen => checkKindsFrom seen.name 1 [v, w] ([v, w].map fun _ => Kind.number.name)
        >>= fun passes => if passes then
          wholeNumber v >>= fun low => wholeNumber w >>= fun high => drawFrom low high flag
        else nothing := rfl

/-- Arguments that stand for no bounds come to nothing. -/
theorem barren_wholeNumbers (unbounded : bound? v = none ∨ bound? w = none)
    (all : ∀ u ∈ [v, w], u.kind = .number) : (wholeNumber v >>= fun low => wholeNumber w >>=
      fun high => drawFrom low high flag : Routine Callback Reply).Barren := by
  refine barren_lift_bind fun low first => barren_lift_bind fun high second => ?_
  have bounded := bound?_eq_some_iff.2 ⟨all v (by simp), first⟩
  have bounded' := bound?_eq_some_iff.2 ⟨all w (by simp), second⟩
  rw [bounded, bounded'] at unbounded
  simp at unbounded

/-- Bounds that are not in order come to nothing. -/
theorem barren_drawFrom (disorder : high < low) : (drawFrom low high flag).Barren := by
  rw [drawFrom, if_pos disorder]
  generalize Numeral.intText low = lowText
  generalize Numeral.intText high = highText
  exact barren_lift_bind fun _ _ => barren_lift_bind fun _ _ => barren_signalError _

/-- Bounds in order are drawn between, under their key. -/
theorem drawFrom_of_le (le : low ≤ high) {key : String} (named : drawKey low high = .ok key) :
    drawFrom low high flag =
      if flag then .recall key fun known =>
        match known with
        | some v => returning v
        | none => .effect (.draw low high) fun n => .remember key (.int n) (returning (.int n))
      else .effect (.draw low high) fun n => returning (.int n) := by
  rw [drawFrom, if_neg (Int.not_lt.2 le), named]
  cases flag with
  | true => exact congrArg (Routine.recall key) (funext fun known => by cases known <;> rfl)
  | false => rfl

end BuiltIn

namespace Evaluation

open Routine

variable {counts : Descriptor Callback → Bool} {render : List Char → Int → Evaluation Outcome}
  {scope : Scope} {c : Script.Call} {memo : Memo} {d : Dispatch} {L : Ledger}
  {ks : List OpenCall} {ts : List Evaluated} {qs : List Draw} {reply : Except Failure Reply}
  {r : Routine Callback Reply}

/-- Once the call has returned, it can be entered into the history. -/
def Closes (c : Script.Call) (ks : List OpenCall) (reply : Except Failure Reply) (d : Dispatch)
    (L : Ledger) : Prop :=
  (L.close c reply).Sound d ∧ (L.close c reply).calls = ks

/-- A call that follows those before it can be entered into the history, where what is remembered is
right afterwards. -/
theorem closes_of_follows (sound : L.Sound d) {L' : Ledger} {d' : Dispatch}
    (calls : L'.calls = ⟨true, ts, qs⟩ :: ks) (same : L'.drawings = L.drawings)
    (reads : (⟨c, ts, qs, reply⟩ : Drawing).Reads)
    (next : (⟨c, ts, qs, reply⟩ : Drawing).Follows L.drawings)
    (cache : ∀ b key, drawKey b.1 b.2 = .ok key → d'.cache.get? key =
      (recalled? (L.drawings ++ [⟨c, ts, qs, reply⟩]) b).map .int) : Closes c ks reply d' L' := by
  rw [Closes, Ledger.close_of_counts calls rfl, same]
  refine ⟨⟨sound.history.snoc next, ?_, cache⟩, rfl⟩
  exact List.forall_mem_append.2 ⟨sound.reads, List.forall_mem_singleton.2 reads⟩

/-! ### Calls that do not pass the checks -/

/-- What comes to nothing leaves the dispatch and the ledger. -/
theorem keeps_barren (barren : r.Barren) :
    Keeps counts (routine render scope c memo r) d L fun a d' L' =>
      d'.cache = d.cache ∧ L' = L ∧ ∀ n, a.1 ≠ .ok (.value (.int n)) := by
  induction r generalizing memo d with
  | done a => exact keeps_pure ⟨rfl, rfl, fun n same => barren n (Except.ok.inj same)⟩
  | raise e => exact keeps_pure ⟨rfl, rfl, fun _ => nofun⟩
  | look next ih => exact keeps_get_bind (ih _ (barren _))
  | abort reason details next ih =>
    refine (idles_abort reason details).keeps.bind fun h d' L' same => ?_
    obtain ⟨cache, rfl⟩ := same
    exact (ih h (barren h)).imp fun a d'' L'' kept => ⟨kept.1.trans cache, kept.2⟩
  | argument | emit | «recall» | remember | change | effect => exact barren.elim

/-- A call that asks for nothing can be entered into the history. -/
theorem closes_refused (sound : L.Sound d) (calls : L.calls = ⟨true, ts, []⟩ :: ks)
    (reads : (⟨c, ts, [], reply⟩ : Drawing).Reads)
    (unfit : Wish.of? (ts.map Evaluated.value?) = none)
    (numberless : ∀ n, reply ≠ .ok (.value (.int n))) {d' : Dispatch}
    (cache : d'.cache = d.cache) : Closes c ks reply d' L := by
  have none : (⟨c, ts, [], reply⟩ : Drawing).number? = none := by
    unfold Drawing.number?
    split
    · rename_i n same
      exact absurd same (numberless n)
    · rfl
  refine closes_of_follows sound calls rfl reads (.refused unfit rfl none) fun b key named => ?_
  have unbounded : (⟨c, ts, [], reply⟩ : Drawing).bounds? true = Option.none :=
    Drawing.bounds?_of_refused unfit
  rw [recalled?_append_of_ne (by rw [unbounded]; nofun), cache]
  exact sound.cache b key named

theorem keeps_refused (barren : r.Barren) (sound : L.Sound d)
    (calls : L.calls = ⟨true, ts, []⟩ :: ks)
    (reads : ∀ reply, (⟨c, ts, [], reply⟩ : Drawing).Reads)
    (unfit : Wish.of? (ts.map Evaluated.value?) = none) :
    Keeps counts (routine render scope c memo r) d L fun a => Closes c ks a.1 := by
  refine (keeps_barren barren).imp fun a d' L' kept => ?_
  obtain ⟨cache, rfl, numberless⟩ := kept
  exact closes_refused sound calls (reads _) unfit numberless cache

/-! ### Arguments -/

/-- What is done with the text of an argument, or without one. -/
def withValue (default : Value) (k : Value → Routine Callback Reply) (text : Option String) :
    Routine Callback Reply :=
  (valueOf? text >>= fun v => .done (v.getD default)) >>= k

theorem routine_valueOr {i : Int} {default : Value} {k : Value → Routine Callback Reply} :
    routine render scope c memo (valueOr i default >>= k) =
      argument render scope c memo i >>= fun p =>
        routine render scope c p.2 (withValue default k p.1) := rfl

theorem withValue_of_read {default v : Value} {k : Value → Routine Callback Reply} {text : String}
    (read : Script.scalar text = .ok v) : withValue default k (some text) = k v := by
  rw [withValue, valueOf?, read]
  rfl

theorem barren_withValue {default : Value} {k : Value → Routine Callback Reply} {text : String}
    {e : Numeral.IntError} (unread : Script.scalar text = .error e) :
    (withValue default k (some text)).Barren := by
  rw [withValue, valueOf?, unread]
  trivial

theorem held_of_none {i : Int} (absent : c.argumentAt? i = none) : held c memo i = none := by
  rw [held, absent]
  rfl

/-- An argument that is not there, or not any more, counts as the other value. -/
theorem routine_valueOr_of_settled {i : Int} {default : Value} {k : Value → Routine Callback Reply}
    (settled : Settled c memo d i) (unread : held c memo i = none) :
    routine render scope c memo (valueOr i default >>= k) d =
      routine render scope c memo (k default) d := by
  rw [routine_valueOr, bind_congr_left (argument_of_settled settled), unread]
  rfl

/-- The routine does nothing in a dispatch that has ended. -/
def Ceases (render : List Char → Int → Evaluation Outcome) (scope : Scope) (c : Script.Call)
    (memo : Memo) (r : Routine Callback Reply) : Prop :=
  ∀ d : Dispatch, d.isHalted = true → routine render scope c memo r d =
    (pure (.ok (.value .null), memo) : Evaluation (Except Failure Reply × Memo)) d

theorem ceases_drawBetween {v w : Value} {flag : Bool} :
    Ceases render scope c memo (drawBetween v w flag) := by
  intro d ended
  rw [drawBetween_eq]
  show routine render scope c memo (if d.isHalted then _ else _) d = _
  rw [if_pos ended]
  rfl

theorem ceases_valueOr {i : Int} {default : Value} {k : Value → Routine Callback Reply}
    (unread : memo.lookup i.toNat = none) (later : Ceases render scope c memo (k default)) :
    Ceases render scope c memo (valueOr i default >>= k) := by
  intro d ended
  have without : held c memo i = none := by
    rw [held, unread]
    cases c.argumentAt? i <;> rfl
  have settled : Settled c memo d i :=
    .inr (.inr (Option.isSome_iff_exists.1 ended))
  rw [routine_valueOr_of_settled settled without]
  exact later d ended

/-- Evaluating an argument that has not been read enters what came of it into the ledger. -/
theorem keeps_argument_anew (hrender : KeepsRendering counts render)
    (orderly : OrderlyRendering render) {i : Nat} {source : List Char} {line : Int}
    (given : c.argumentAt? i = some (source, line)) (unread : memo.lookup i = none)
    (running : d.halted = none) (sound : L.Sound d) (calls : L.calls = ⟨true, ts, []⟩ :: ks) :
    Keeps counts (argument render scope c memo i) d L fun p d' L' => L'.Sound d' ∧ ∃ o,
      L'.calls = ⟨true, ts ++ [⟨source, line, o⟩], []⟩ :: ks ∧
        match o with
        | .ok text => p = (some text, (i, text) :: memo) ∧ d'.halted = none
        | .error _ => p = (none, memo) ∧ d'.isHalted = true := by
  have awake : ¬d.isHalted = true := by simp [Dispatch.isHalted, running]
  have tells : (render source line).Ensures d fun _ o d' => o.Tells d'.halted :=
    Ensures.imp (orderly source line d) fun _ _ _ r => r.2.2
  unfold argument
  rw [given, Int.toNat_natCast, unread]
  refine keeps_get_bind ?_
  rw [if_neg awake]
  refine ((hrender source line d L sound).and_ensures tells).bind fun o d' L' kept => ?_
  obtain ⟨⟨sound, open_⟩, tells⟩ := kept
  rw [if_neg awake, Ledger.read_of_calls calls] at open_
  cases o with
  | ok text => exact keeps_pure ⟨sound, .ok text, open_, rfl, Outcome.tells_ok.1 tells⟩
  | error h =>
    have ends : (halt scope h).Ensures d' fun _ first d'' => d''.halted = some first :=
      Ensures.imp (orderly_halt h) fun _ _ _ r => r.2.2
    refine ((idles_halt h).keeps.and_ensures ends).bind fun first d'' L'' kept => ?_
    obtain ⟨⟨cache, rfl⟩, ended⟩ := kept
    refine keeps_pure ⟨sound.of_eq cache rfl, .error h, open_, rfl, ?_⟩
    rw [Dispatch.isHalted, ended]
    rfl

/-- **Evaluating an argument** of a call that asks for a number: where it has a value, the call goes
on with it, and else it comes to nothing. -/
theorem keeps_valueOr (hrender : KeepsRendering counts render) (orderly : OrderlyRendering render)
    {i : Nat} {source : List Char} {line : Int} {default : Value}
    {k : Value → Routine Callback Reply} (given : c.argumentAt? i = some (source, line))
    (unread : memo.lookup i = none) (running : d.halted = none) (sound : L.Sound d)
    (calls : L.calls = ⟨true, ts, []⟩ :: ks) (placed : Placed c ts) (next : ts.length = i)
    (few : i ≤ 2) (ceases : Ceases render scope c memo (k default))
    (rest : ∀ text v d' L', Script.scalar text = .ok v → d'.halted = none → L'.Sound d' →
      L'.calls = ⟨true, ts ++ [⟨source, line, .ok text⟩], []⟩ :: ks →
      Placed c (ts ++ [⟨source, line, .ok text⟩]) →
      Keeps counts (routine render scope c ((i, text) :: memo) (k v)) d' L'
        fun a => Closes c ks a.1) :
    Keeps counts (routine render scope c memo (valueOr i default >>= k)) d L
      fun a => Closes c ks a.1 := by
  have placed (o : Outcome) : Placed c (ts ++ [⟨source, line, o⟩]) :=
    placed.snoc (by rw [next]; exact given)
  have unfit {t : Evaluated} (none : t.value? = .none) :
      Wish.of? ((ts ++ [t]).map Evaluated.value?) = .none := by
    rw [List.map_append, List.map_singleton, none]
    exact Wish.of?_append_none (by rw [List.length_map, next]; exact few)
  rw [routine_valueOr]
  refine (keeps_argument_anew hrender orderly given unread running sound calls).bind
    fun p d' L' kept => ?_
  obtain ⟨sound, o, calls, here⟩ := kept
  cases o with
  | error h =>
    obtain ⟨rfl, ended⟩ := here
    refine Keeps.congr (keeps_pure ?_) (ceases d' ended)
    exact closes_refused sound calls (Drawing.reads_of_valueless (placed _) rfl) (unfit rfl)
      (fun _ same => by cases same) rfl
  | ok text =>
    obtain ⟨rfl, running⟩ := here
    cases read : Script.scalar text with
    | ok v =>
      rw [withValue_of_read read]
      exact rest text v d' L' read running sound calls (placed _)
    | error e =>
      have none : Evaluated.value? ⟨source, line, .ok text⟩ = .none := by
        rw [Evaluated.value?_ok, read]
        rfl
      exact keeps_refused (barren_withValue read) sound calls
        (fun _ => Drawing.reads_of_valueless (placed _) none) (unfit none)

/-! ### Calls that pass the checks -/

/-- **Drawing a number between bounds** follows the calls that have returned. -/
theorem keeps_drawFrom {low high : Int} {flag : Bool} (sound : L.Sound d)
    (calls : L.calls = ⟨true, ts, []⟩ :: ks)
    (reads : ∀ qs reply, (⟨c, ts, qs, reply⟩ : Drawing).Reads)
    (wish : Wish.of? (ts.map Evaluated.value?) = some ⟨low, high, flag⟩)
    (first : Numeral.exceedsLimit low = false) (second : Numeral.exceedsLimit high = false) :
    Keeps counts (routine render scope c memo (drawFrom low high flag)) d L
      fun a => Closes c ks a.1 := by
  obtain ⟨key, named⟩ : ∃ key, drawKey low high = .ok key := ⟨_, drawKey_of_within first second⟩
  have asked (qs : List Draw) (reply : Except Failure Reply) :
      (⟨c, ts, qs, reply⟩ : Drawing).wish? = some ⟨low, high, flag⟩ := wish
  rw [drawFrom_of_le (Wish.ordered wish) named]
  cases flag with
  | false =>
    refine keeps_ask_bind fun n _ => keeps_pure ?_
    have once : (L.draw ⟨low, high, n⟩).calls = ⟨true, ts, [⟨low, high, n⟩]⟩ :: ks :=
      Ledger.draw_of_calls calls
    refine closes_of_follows sound once Ledger.drawings_draw (reads _ _)
      (.drawn (asked _ _) nofun rfl rfl) fun b key named => ?_
    have unbounded : (⟨c, ts, [⟨low, high, n⟩], .ok (.value (.int n))⟩ : Drawing).bounds? true =
        none := (Drawing.bounds?_of_wish? (asked _ _)).trans (if_neg nofun)
    rw [recalled?_append_of_ne (by rw [unbounded]; nofun)]
    exact sound.cache b key named
  | true =>
    have bounded (qs : List Draw) (reply : Except Failure Reply) :
        (⟨c, ts, qs, reply⟩ : Drawing).bounds? true = some (low, high) :=
      (Drawing.bounds?_of_wish? (asked _ _)).trans (if_pos rfl)
    refine keeps_get_bind ?_
    rw [sound.cache (low, high) key named]
    cases known : recalled? L.drawings (low, high) with
    | some n =>
      refine keeps_pure (closes_of_follows sound calls rfl (reads _ _)
        (.again (bounded _ _) known rfl rfl) fun b key named => ?_)
      rw [recalled?_append_of_known (bounded _ _) known]
      exact sound.cache b key named
    | none =>
      refine keeps_ask_bind fun n _ => keeps_modify_bind (keeps_pure ?_)
      have once : (L.draw ⟨low, high, n⟩).calls = ⟨true, ts, [⟨low, high, n⟩]⟩ :: ks :=
        Ledger.draw_of_calls calls
      refine closes_of_follows sound once Ledger.drawings_draw (reads _ _)
        (.drawn (asked _ _) (fun _ => known) rfl rfl) fun b key' named' => ?_
      -- The keys of other bounds are different ones.
      rw [Table.get?_insert]
      by_cases same : (low, high) = b
      · subst same
        cases named.symm.trans named'
        rw [if_pos rfl, recalled?_append_of_eq_none known (bounded _ _)]
        rfl
      · have different : key ≠ key' := by
          rintro rfl
          exact same (drawKey_injective named named')
        rw [if_neg different, recalled?_append_of_ne fun here => same
          (Option.some.inj ((bounded _ _).symm.trans here))]
        exact sound.cache b key' named'

/-- Once its arguments have values, a call comes to nothing or draws a number. -/
theorem keeps_drawBetween {v w : Value} {flag : Bool} {rest : List (Option Value)}
    {text text' : String} (running : d.halted = none) (sound : L.Sound d)
    (calls : L.calls = ⟨true, ts, []⟩ :: ks)
    (reads : ∀ qs reply, (⟨c, ts, qs, reply⟩ : Drawing).Reads)
    (values : ts.map Evaluated.value? = some v :: some w :: rest)
    (flagged : flag? rest = some flag) (read : Script.scalar text = .ok v)
    (read' : Script.scalar text' = .ok w) :
    Keeps counts (routine render scope c memo (drawBetween v w flag)) d L
      fun a => Closes c ks a.1 := by
  have wish : Wish.of? (some v :: some w :: rest) = _ := Wish.of?_cons flagged
  rw [← values] at wish
  rw [drawBetween_eq]
  refine keeps_get_bind ?_
  show Keeps counts (routine render scope c memo (if d.isHalted then _ else _)) d L _
  rw [if_neg (by simp [Dispatch.isHalted, running])]
  refine keeps_get_bind ?_
  by_cases all : ∀ u ∈ [v, w], u.kind = .number
  · show Keeps counts (routine render scope c memo (checkKindsFrom c.shownName 1 [v, w]
      ([v, w].map fun _ => Kind.number.name) >>= _)) d L _
    rw [checkKindsFrom_of_numbers all]
    cases first : bound? v with
    | none =>
      rw [first] at wish
      exact keeps_refused (barren_wholeNumbers (.inl first) all) sound calls (reads []) wish
    | some low =>
      cases second : bound? w with
      | none =>
        rw [first, second] at wish
        exact keeps_refused (barren_wholeNumbers (.inr second) all) sound calls (reads []) wish
      | some high =>
        rw [first, second] at wish
        have goes : (wholeNumber v >>= fun low => wholeNumber w >>= fun high =>
            drawFrom low high flag) = drawFrom low high flag := by
          rw [wholeNumber, wholeNumber, (bound?_eq_some_iff.1 first).2,
            (bound?_eq_some_iff.1 second).2]
          rfl
        show Keeps counts (routine render scope c memo (wholeNumber v >>= fun low =>
          wholeNumber w >>= fun high => drawFrom low high flag)) d L _
        rw [goes]
        by_cases le : low ≤ high
        · exact keeps_drawFrom sound calls reads (wish.trans (if_pos le))
            (within_of_bound? read first) (within_of_bound? read' second)
        · exact keeps_refused (barren_drawFrom (Int.not_le.1 le)) sound calls (reads [])
            (wish.trans (if_neg le))
  · have other : ∃ u ∈ [v, w], u.kind ≠ .number := by
      simpa only [not_forall, exists_prop] using all
    refine keeps_refused (barren_checkKindsFrom other) sound calls (reads []) (wish.trans ?_)
    by_cases number : v.kind = .number
    · have unbounded : bound? w = none := if_neg fun number' => all (by simp [number, number'])
      rw [unbounded]
      cases bound? v <;> rfl
    · have unbounded : bound? v = none := if_neg number
      rw [unbounded]
      rfl

/-! ### Calls that ask for a number -/

/-- **A call that asks for a number** follows those that have returned by the time it does. -/
theorem keeps_random (hrender : KeepsRendering counts render) (orderly : OrderlyRendering render)
    (running : d.halted = none) (sound : L.Sound d) (calls : L.calls = ⟨true, [], []⟩ :: ks) :
    Keeps counts (routine render scope c [] random) d L fun a => Closes c ks a.1 := by
  have given {i : Nat} (less : i < c.arguments.length) :
      ∃ source line, c.argumentAt? i = some (source, line) := by
    cases there : c.argumentAt? i with
    | none => exact absurd (argumentAt?_eq_none_iff.1 there) (Nat.not_le.2 less)
    | some place => exact ⟨place.1, place.2, rfl⟩
  have value {source : List Char} {line : Int} {text : String} {v : Value}
      (read : Script.scalar text = .ok v) : Evaluated.value? ⟨source, line, .ok text⟩ = some v := by
    rw [Evaluated.value?_ok, read]
    rfl
  rw [random_eq, withCount_eq]
  refine keeps_get_bind ?_
  show Keeps counts (routine render scope c [] (if ((c.arguments.length : Int) < 2 || _) then _
    else _)) d L _
  by_cases few : c.arguments.length < 2
  · rw [if_pos (by simpa using few)]
    refine keeps_refused (fun _ => barren_nothing) sound calls (fun reply => ⟨?_, ?_⟩) rfl
    · exact fun _ _ => nofun
    · exact fun enough => absurd few (Nat.not_lt.2 enough)
  · rw [if_neg (by simpa using few)]
    obtain ⟨source, line, first⟩ := given (i := 0) (by omega)
    obtain ⟨source', line', second⟩ := given (i := 1) (by omega)
    refine keeps_valueOr hrender orderly first rfl running sound calls (fun _ _ => nofun) rfl
      (by decide) (ceases_valueOr rfl (ceases_valueOr rfl ceases_drawBetween)) ?_
    intro text v d L read running sound calls placed
    refine keeps_valueOr hrender orderly second rfl running sound calls placed rfl (by decide)
      (ceases_valueOr rfl ceases_drawBetween) ?_
    intro text' w d L read' running sound calls placed
    cases third : c.argumentAt? (2 : Nat) with
    | none =>
      have two : 2 = min 3 c.arguments.length := by
        have := argumentAt?_eq_none_iff.1 third
        omega
      have values : ([⟨source, line, .ok text⟩, ⟨source', line', .ok text'⟩] : List Evaluated).map
          Evaluated.value? = [some v, some w] := by simp [value read, value read']
      exact Keeps.congr (keeps_drawBetween running sound calls
        (fun _ _ => ⟨placed, fun _ _ => two⟩) values rfl read read')
        (routine_valueOr_of_settled (.inl third) (held_of_none third))
    | some place =>
      have three : 3 = min 3 c.arguments.length := by
        have : ¬c.arguments.length ≤ 2 := fun short => by
          cases (argumentAt?_eq_none_iff.2 short).symm.trans third
        omega
      refine keeps_valueOr hrender orderly third rfl running sound calls placed rfl (by decide)
        ceases_drawBetween ?_
      intro text'' flag d L read'' running sound calls placed
      have values : ([⟨source, line, .ok text⟩, ⟨source', line', .ok text'⟩,
          ⟨place.1, place.2, .ok text''⟩] : List Evaluated).map Evaluated.value? =
          [some v, some w, some flag] := by simp [value read, value read', value read'']
      exact keeps_drawBetween running sound calls (fun _ _ => ⟨placed, fun _ _ => three⟩) values rfl
        read read'

end Evaluation

end CommandScript
