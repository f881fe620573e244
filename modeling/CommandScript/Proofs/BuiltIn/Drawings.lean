import Mathlib.Data.List.Basic
import Mathlib.Data.List.Dedup
import Mathlib.Data.List.Perm.Basic
import CommandScript.BuiltIn
import CommandScript.Dispatch.Reading
import CommandScript.Proofs.Printed

/-!
# Histories of numbers drawn

The calls of a dispatch that ask for a number between two bounds, in the order in which they return,
with the texts of their arguments and the numbers that were drawn for them. Each call follows those
before it: it returns what the first call with its bounds drew, if both want numbers remembered, and
else draws one of its own. What can be said of a whole history is derived from that.

A number that is drawn is remembered under a key that is made of both bounds. All bounds that an
argument stands for have a key, and no two pairs of bounds have the same.

## Main definitions

- `CommandScript.BuiltIn.drawPrefix` — what the keys begin with
- `CommandScript.BuiltIn.bound?` — the whole number for which a bound stands
- `CommandScript.BuiltIn.Drawing` — a call that asks for a number
- `CommandScript.BuiltIn.Drawing.wish?` — what a call asks for, if its arguments pass all checks
- `CommandScript.BuiltIn.Drawing.Follows` — what a call does after others
- `CommandScript.BuiltIn.History` — calls each of which follows those before it
- `CommandScript.BuiltIn.Consistent` — what holds of all the calls together

## Main results

- `CommandScript.BuiltIn.drawKey_injective` — different bounds have different keys
- `CommandScript.BuiltIn.within_of_bound?` — bounds are within the limit on digits
- `CommandScript.BuiltIn.History.consistent` — histories are consistent
-/

namespace CommandScript.BuiltIn

/-! ### Keys -/

section Keys

variable {n : Int}

/-- What the keys begin with under which drawn numbers are remembered. -/
def drawPrefix : List Char := "random:".toList

theorem intText_of_within (within : Numeral.exceedsLimit n = false) :
    Numeral.intText n = .ok (Numeral.intTextUnlimited n) := by
  have text : Numeral.intText? n = some (Numeral.intTextUnlimited n) := by
    rw [Numeral.intText?, within, if_neg Bool.false_ne_true]
  unfold Numeral.intText
  rw [text]

theorem intText_of_exceeds (beyond : Numeral.exceedsLimit n = true) :
    Numeral.intText n = .error .unwritable := by
  have none : Numeral.intText? n = none := by rw [Numeral.intText?, beyond, if_pos rfl]
  unfold Numeral.intText
  rw [none]

theorem drawKey_of_within {low high : Int} (first : Numeral.exceedsLimit low = false)
    (second : Numeral.exceedsLimit high = false) : drawKey low high =
      .ok ("random:" ++ Numeral.intTextUnlimited low ++ "_" ++ Numeral.intTextUnlimited high) := by
  rw [drawKey, intText_of_within first, intText_of_within second]
  rfl

/-- Bounds that have a key are within the limit on digits. -/
theorem within_of_drawKey {low high : Int} {key : String} (named : drawKey low high = .ok key) :
    Numeral.exceedsLimit low = false ∧ Numeral.exceedsLimit high = false ∧
      key.toList = drawPrefix ++ (Numeral.intChars low ++ '_' :: Numeral.intChars high) := by
  cases first : Numeral.exceedsLimit low with
  | true =>
    rw [drawKey, intText_of_exceeds first] at named
    cases named
  | false =>
    cases second : Numeral.exceedsLimit high with
    | true =>
      rw [drawKey, intText_of_within first, intText_of_exceeds second] at named
      cases named
    | false =>
      obtain rfl := Except.ok.inj ((drawKey_of_within first second).symm.trans named)
      refine ⟨rfl, rfl, ?_⟩
      show _ = "random:".toList ++ _
      simp only [Numeral.intTextUnlimited, String.toList_append, String.toList_ofList,
        List.append_assoc]
      rfl

theorem drawPrefix_of_drawKey {low high : Int} {key : String} (named : drawKey low high = .ok key) :
    drawPrefix <+: key.toList := by
  obtain ⟨-, -, written⟩ := within_of_drawKey named
  rw [written]
  exact List.prefix_append _ _

theorem underscore_notMem_intChars (n : Int) : '_' ∉ Numeral.intChars n := by
  have digits : '_' ∉ Nat.toDigits 10 n.natAbs := Nat.underscore_not_in_toDigits
  rw [Numeral.intChars]
  split
  · exact fun mem => (List.mem_cons.1 mem).elim (by decide) digits
  · exact digits

theorem intChars_injective {m n : Int} (first : Numeral.exceedsLimit m = false)
    (second : Numeral.exceedsLimit n = false) (same : Numeral.intChars m = Numeral.intChars n) :
    m = n := by
  have read := Numeral.readInt_intChars first
  rw [same, Numeral.readInt_intChars second] at read
  exact (Except.ok.inj read).symm

/-- Different bounds have different keys: an underscore stands between the two numbers, and in
neither of them. -/
theorem drawKey_injective {key : String} {b b' : Int × Int} (named : drawKey b.1 b.2 = .ok key)
    (named' : drawKey b'.1 b'.2 = .ok key) : b = b' := by
  obtain ⟨low, high, written⟩ := within_of_drawKey named
  obtain ⟨low', high', written'⟩ := within_of_drawKey named'
  have joined := List.append_cancel_left (written.symm.trans written')
  obtain ⟨first, -, second⟩ := (List.append_cons_inj_of_notMem
    (underscore_notMem_intChars _) (underscore_notMem_intChars _)).1 joined
  exact Prod.ext (intChars_injective low low' first) (intChars_injective high high' second)

/-- The whole number for which a bound stands. -/
def bound? (v : Value) : Option Int := if v.kind = .number then v.toInt.toOption else none

/-- Texts that stand for numbers are written as such. -/
theorem number_of_scalar {text : String} {v : Value} (read : Script.scalar text = .ok v)
    (number : v.kind = .number) : Script.number text.toList = .ok v := by
  -- Any other text stands for a truth value, for null or for itself.
  have other {w : Value} (same : .ok w = (.ok v : Except Numeral.IntError Value))
      (kind : w.kind ≠ .number) : Script.number text.toList = .ok v := by
    cases same
    exact absurd number kind
  unfold Script.scalar at read
  split at read
  · exact other read (by decide)
  · split at read
    · exact other read (by decide)
    · split at read
      · exact other read (by decide)
      · split at read
        · exact read
        · exact other read Kind.noConfusion

/-- A bound that an argument stands for is within the limit on digits. -/
theorem within_of_bound? {text : String} {v : Value} (read : Script.scalar text = .ok v)
    (bound : bound? v = some n) : Numeral.exceedsLimit n = false := by
  unfold bound? at bound
  split at bound
  · rename_i number
    have written := number_of_scalar read number
    unfold Script.number at written
    split at written
    · -- A double is cut off to a whole number.
      obtain rfl := Except.ok.inj written
      cases doubled : (Numeral.readFloat? text.toList).getD .nan with
      | finite negative rank =>
        rw [doubled] at bound
        cases bound
        exact Binary64.exceedsLimit_truncated negative rank
      | infinite negative => rw [doubled] at bound; cases bound
      | nan => rw [doubled] at bound; cases bound
    · cases whole : Numeral.readInt text.toList with
      | error e => rw [whole] at written; cases written
      | ok k =>
        rw [whole] at written
        obtain rfl := Except.ok.inj written
        cases bound
        exact Numeral.exceedsLimit_of_readInt whole
  · cases bound

end Keys

/-! ### Histories -/

/-- A text that was evaluated for a call, and what came of it. -/
structure Evaluated where
  source : List Char
  line : Int
  outcome : Outcome

/-- The value for which the text is taken, if there is one. -/
def Evaluated.value? (t : Evaluated) : Option Value :=
  match t.outcome with
  | .ok s => (Script.scalar s).toOption
  | .error _ => none

theorem Evaluated.value?_ok {source : List Char} {line : Int} {text : String} :
    value? ⟨source, line, .ok text⟩ = (Script.scalar text).toOption := rfl

/-- Texts are the first arguments of a call, in order. -/
def Placed (c : Script.Call) (ts : List Evaluated) : Prop :=
  ∀ (j : Nat) t, ts[j]? = some t → c.argumentAt? j = some (t.source, t.line)

/-- A number that was drawn between bounds. -/
structure Draw where
  low : Int
  high : Int
  number : Int

/-- The bounds between which a number was drawn. -/
def Draw.bounds (q : Draw) : Int × Int := (q.low, q.high)

/-- The number lies between the bounds. -/
def Draw.Within (q : Draw) : Prop := q.low ≤ q.number ∧ q.number ≤ q.high

/-- What a call asks for: a number between bounds, which is to be remembered or not. -/
structure Wish where
  low : Int
  high : Int
  remembered : Bool

/-- The bounds that are asked for. -/
def Wish.bounds (w : Wish) : Int × Int := (w.low, w.high)

/-- Whether a number is to be remembered, as a further argument says if there is one. -/
def flag? : List (Option Value) → Option Bool
  | [] => some true
  | v :: _ => v.map Value.isTruthy

/-- What is asked for with the values of arguments, where each of them has one: the first two are
numbers in order, and the third one says whether the number is to be remembered. -/
def Wish.of? : List (Option Value) → Option Wish
  | some v :: some w :: rest => do
    let low ← bound? v
    let high ← bound? w
    let remembered ← flag? rest
    if low ≤ high then some ⟨low, high, remembered⟩ else none
  | _ => none

/-- A call that asks for a number: its arguments as far as they were evaluated, the numbers that
were drawn for it, and what it returned. -/
structure Drawing where
  call : Script.Call
  texts : List Evaluated
  draws : List Draw
  reply : Except Failure Reply

namespace Drawing

/-- What a call asks for, if its arguments pass all checks. -/
def wish? (x : Drawing) : Option Wish := Wish.of? (x.texts.map Evaluated.value?)

/-- The number that a call returns. -/
def number? (x : Drawing) : Option Int :=
  match x.reply with
  | .ok (.value (.int n)) => some n
  | _ => none

/-- The bounds of a call that passes all checks, and whose number is to be remembered or is not. -/
def bounds? (remembered : Bool) (x : Drawing) : Option (Int × Int) :=
  (x.wish?.filter fun w => w.remembered == remembered).map Wish.bounds

/-- The texts that were evaluated are all of the first three arguments where there are enough of
them, unless the evaluation of one failed or gave no value. -/
structure Reads (x : Drawing) : Prop where
  placed : Placed x.call x.texts
  complete : 2 ≤ x.call.arguments.length → (∀ t ∈ x.texts, t.value?.isSome = true) →
    x.texts.length = min 3 x.call.arguments.length

end Drawing

/-- The bounds of the calls that pass all checks, and whose numbers are to be remembered or are
not. -/
def bounds (remembered : Bool) (xs : List Drawing) : List (Int × Int) :=
  xs.filterMap (Drawing.bounds? remembered)

/-- The number that is remembered for bounds: the one that the first call returned. -/
def recalled? (xs : List Drawing) (b : Int × Int) : Option Int :=
  xs.findSome? fun x => if x.bounds? true = some b then x.number? else none

/-- What a call does after others. -/
inductive Drawing.Follows (before : List Drawing) (x : Drawing) : Prop
  /-- A call that does not pass the checks draws nothing and returns no number. -/
  | refused (unfit : x.wish? = none) (undrawn : x.draws = []) (numberless : x.number? = none)
  /-- A number that is remembered is returned again. -/
  | again {b : Int × Int} {n : Int} (bounded : x.bounds? true = some b)
    (known : recalled? before b = some n) (undrawn : x.draws = []) (number : x.number? = some n)
  /-- Otherwise a number is drawn and returned. -/
  | drawn {w : Wish} {n : Int} (wish : x.wish? = some w)
    (new : w.remembered = true → recalled? before w.bounds = none)
    (once : x.draws = [⟨w.low, w.high, n⟩]) (number : x.number? = some n)

/-- Calls each of which follows those before it. -/
inductive History : List Drawing → Prop
  | nil : History []
  | snoc {before : List Drawing} {x : Drawing} (earlier : History before)
    (next : x.Follows before) : History (before ++ [x])

/-- What holds of all the calls of a dispatch that ask for a number. -/
structure Consistent (xs : List Drawing) : Prop where
  /-- Just the calls that pass all checks return a number. -/
  successful : ∀ x ∈ xs, x.number?.isSome = x.wish?.isSome
  /-- Calls with the same bounds return the same number, if it is to be remembered. -/
  same : ∀ x ∈ xs, ∀ y ∈ xs, ∀ b, x.bounds? true = some b → y.bounds? true = some b →
    x.number? = y.number?
  /-- The number of a call that wants it remembered was drawn for such a call with the same bounds,
  which is this one or one before it. -/
  own : ∀ before x after, xs = before ++ x :: after → ∀ b, x.bounds? true = some b →
    ∃ y ∈ before ++ [x], ∃ n, y.bounds? true = some b ∧ y.draws = [⟨b.1, b.2, n⟩] ∧
      x.number? = some n
  /-- A call that does not want its number remembered draws one of its own. -/
  fresh : ∀ x ∈ xs, ∀ b, x.bounds? false = some b →
    ∃ n, x.draws = [⟨b.1, b.2, n⟩] ∧ x.number? = some n
  /-- Numbers are drawn once for each two bounds of calls that want their numbers remembered, and
  once for each call that does not. -/
  counted : ((xs.flatMap Drawing.draws).map Draw.bounds).Perm
    ((bounds true xs).dedup ++ bounds false xs)
  /-- The bounds of each number that is drawn are in order. -/
  ordered : ∀ x ∈ xs, ∀ q ∈ x.draws, q.low ≤ q.high
  /-- If each number is drawn from between its bounds, each call returns one between its own. -/
  within : (∀ x ∈ xs, ∀ q ∈ x.draws, q.Within) →
    ∀ x ∈ xs, ∀ w n, x.wish? = some w → x.number? = some n → w.low ≤ n ∧ n ≤ w.high

variable {xs before after : List Drawing} {x y : Drawing} {w : Wish} {b : Int × Int} {n : Int}
  {r : Bool}

/-! ### What a call asks for -/

theorem Wish.ordered {vs : List (Option Value)} (asked : of? vs = some w) : w.low ≤ w.high := by
  unfold of? at asked
  split at asked
  · simp only [Option.bind_eq_bind, Option.bind_eq_some_iff] at asked
    obtain ⟨low, -, high, -, remembered, -, given⟩ := asked
    obtain ⟨le, same⟩ := Option.ite_none_right_eq_some.1 given
    cases same
    exact le
  · cases asked

/-- What is asked for with two values and a flag. -/
theorem Wish.of?_cons {v v' : Value} {rest : List (Option Value)} {flag : Bool}
    (flagged : flag? rest = some flag) : of? (some v :: some v' :: rest) =
      (bound? v).bind fun low => (bound? v').bind fun high =>
        if low ≤ high then some ⟨low, high, flag⟩ else none := by
  rw [of?, flagged]
  rfl

theorem Drawing.bounds?_eq_some_iff :
    x.bounds? r = some b ↔ ∃ w, x.wish? = some w ∧ w.remembered = r ∧ w.bounds = b := by
  simp [bounds?, Option.filter_eq_some_iff, and_assoc]

theorem Drawing.bounds?_of_wish? (wish : x.wish? = some w) :
    x.bounds? r = if w.remembered = r then some w.bounds else none := by
  rw [bounds?, wish, Option.filter_some]
  by_cases same : w.remembered = r
  · simp [same]
  · simp [same]

theorem Drawing.bounds?_of_refused (unfit : x.wish? = none) : x.bounds? r = none := by
  rw [bounds?, unfit]
  rfl

section Arguments

variable {c : Script.Call} {ts : List Evaluated} {t : Evaluated} {qs : List Draw}
  {reply : Except Failure Reply}

theorem Placed.snoc (placed : Placed c ts)
    (here : c.argumentAt? ts.length = some (t.source, t.line)) : Placed c (ts ++ [t]) := by
  intro j t' found
  obtain before | last := Nat.lt_or_ge j ts.length
  · rw [List.getElem?_append_left before] at found
    exact placed j t' found
  · rw [List.getElem?_append_right last] at found
    obtain ⟨rfl, rfl⟩ : j = ts.length ∧ t = t' := by
      obtain ⟨less, same⟩ := List.getElem?_eq_some_iff.1 found
      rw [List.length_singleton] at less
      have j_eq : j = ts.length := by omega
      subst j_eq
      simpa using same
    exact here

/-- Where one of the first three arguments has no value, nothing is asked for. -/
theorem Wish.of?_append_none {vs : List (Option Value)} (few : vs.length ≤ 2) :
    of? (vs ++ [none]) = none := by
  match vs, few with
  | [], _ => rfl
  | [v], _ => cases v <;> rfl
  | [v, w], _ =>
    cases v with
    | none => rfl
    | some v =>
      cases w with
      | none => rfl
      | some w => simp [of?, flag?]

theorem Drawing.reads_of_valueless (placed : Placed c (ts ++ [t])) (none : t.value? = none) :
    (⟨c, ts ++ [t], qs, reply⟩ : Drawing).Reads where
  placed := placed
  complete _ all := by
    have some := all t (List.mem_append_right _ (List.mem_singleton_self t))
    rw [none] at some
    cases some

end Arguments

/-! ### What is remembered -/

theorem recalled?_append :
    recalled? (xs ++ [x]) b =
      (recalled? xs b).or (if x.bounds? true = some b then x.number? else none) := by
  simp [recalled?, List.findSome?_append]

/-- What was remembered stays remembered. -/
theorem recalled?_append_of_eq_some (known : recalled? xs b = some n) :
    recalled? (xs ++ [x]) b = some n := by rw [recalled?_append, known, Option.some_or]

theorem recalled?_append_of_ne (other : x.bounds? true ≠ some b) :
    recalled? (xs ++ [x]) b = recalled? xs b := by
  rw [recalled?_append, if_neg other, Option.or_none]

/-- A call that returns what is remembered changes nothing of it. -/
theorem recalled?_append_of_known {b' : Int × Int} (bounded : x.bounds? true = some b)
    (known : recalled? xs b = some n) : recalled? (xs ++ [x]) b' = recalled? xs b' := by
  by_cases same : b = b'
  · subst same
    rw [recalled?_append_of_eq_some known, known]
  · exact recalled?_append_of_ne fun here => same (Option.some.inj (bounded.symm.trans here))

theorem recalled?_append_of_eq_none (unknown : recalled? xs b = none)
    (bounded : x.bounds? true = some b) : recalled? (xs ++ [x]) b = x.number? := by
  rw [recalled?_append, unknown, if_pos bounded, Option.none_or]

/-- A call that wants its number remembered returns what is remembered from then on. -/
theorem Drawing.Follows.recalled? (next : x.Follows xs) (bounded : x.bounds? true = some b) :
    ∃ n, x.number? = some n ∧ BuiltIn.recalled? (xs ++ [x]) b = some n := by
  cases next with
  | refused unfit undrawn numberless => cases (bounds?_of_refused unfit).symm.trans bounded
  | again bounded' known undrawn number =>
    cases bounded'.symm.trans bounded
    exact ⟨_, number, recalled?_append_of_eq_some known⟩
  | drawn wish new once number =>
    obtain ⟨w, wish', remembered, rfl⟩ := bounds?_eq_some_iff.1 bounded
    cases wish'.symm.trans wish
    exact ⟨_, number, (recalled?_append_of_eq_none (new remembered) bounded).trans number⟩

namespace History

/-- A history is one up to each of its calls, which follows those before it. -/
theorem of_append (history : History (before ++ x :: after)) :
    History before ∧ x.Follows before := by
  generalize all : before ++ x :: after = xs at history
  induction history generalizing after with
  | nil => cases List.append_ne_nil_of_right_ne_nil before (List.cons_ne_nil x after) all
  | @snoc earlier last history next ih =>
    obtain rfl | ⟨after, y, rfl⟩ := List.eq_nil_or_concat after
    · obtain ⟨rfl, last⟩ := List.append_inj' all rfl
      cases last
      exact ⟨history, next⟩
    · rw [List.concat_eq_append, ← List.cons_append, ← List.append_assoc] at all
      exact ih (List.append_inj' all rfl).1

theorem recalled?_of_mem (history : History xs) (mem : x ∈ xs) (bounded : x.bounds? true = some b) :
    ∃ n, x.number? = some n ∧ recalled? xs b = some n := by
  induction history with
  | nil => cases mem
  | snoc history next ih =>
    obtain here | last := List.mem_append.1 mem
    · obtain ⟨n, number, known⟩ := ih here
      exact ⟨n, number, recalled?_append_of_eq_some known⟩
    · cases List.mem_singleton.1 last
      exact next.recalled? bounded

/-- What is remembered for bounds was drawn for a call with these bounds. -/
theorem exists_draw (history : History xs) (known : recalled? xs b = some n) :
    ∃ y ∈ xs, y.bounds? true = some b ∧ y.draws = [⟨b.1, b.2, n⟩] := by
  induction history with
  | nil => cases known
  | @snoc before x history next ih =>
    cases earlier : recalled? before b with
    | some m =>
      cases (recalled?_append_of_eq_some earlier).symm.trans known
      obtain ⟨y, mem, rest⟩ := ih earlier
      exact ⟨y, List.mem_append_left _ mem, rest⟩
    | none =>
      have bounded : x.bounds? true = some b := by
        by_contra other
        rw [recalled?_append_of_ne other, earlier] at known
        cases known
      refine ⟨x, List.mem_append_right _ (List.mem_singleton_self x), bounded, ?_⟩
      cases next with
      | refused unfit => cases (Drawing.bounds?_of_refused unfit).symm.trans bounded
      | again bounded' known' =>
        cases bounded'.symm.trans bounded
        cases known'.symm.trans earlier
      | drawn wish new once number =>
        obtain ⟨w, wish', -, rfl⟩ := Drawing.bounds?_eq_some_iff.1 bounded
        cases wish'.symm.trans wish
        rw [recalled?_append_of_eq_none earlier bounded, number] at known
        cases known
        exact once

/-- Nothing is remembered just for bounds that no call had. -/
theorem recalled?_eq_none_iff (history : History xs) :
    recalled? xs b = none ↔ b ∉ bounds true xs := by
  constructor
  · intro unknown mem
    obtain ⟨x, mem, bounded⟩ := List.mem_filterMap.1 mem
    obtain ⟨n, -, known⟩ := history.recalled?_of_mem mem bounded
    cases known.symm.trans unknown
  · intro absent
    cases known : recalled? xs b with
    | none => rfl
    | some n =>
      obtain ⟨y, mem, bounded, -⟩ := history.exists_draw known
      exact absurd (List.mem_filterMap.2 ⟨y, mem, bounded⟩) absent

/-! ### Histories are consistent -/

theorem bounds_append : bounds r (xs ++ [x]) = bounds r xs ++ (x.bounds? r).toList := by
  rw [bounds, List.filterMap_append]
  cases bounded : x.bounds? r <;> simp [bounds, bounded]

theorem perm_dedup_append_of_mem {l : List (Int × Int)} (mem : b ∈ l) :
    (l ++ [b]).dedup.Perm l.dedup := by
  have perm := (List.perm_append_singleton b l).dedup
  rwa [List.dedup_cons_of_mem mem] at perm

theorem perm_dedup_append_of_notMem {l : List (Int × Int)} (notMem : b ∉ l) :
    (l ++ [b]).dedup.Perm (l.dedup ++ [b]) := by
  have perm := (List.perm_append_singleton b l).dedup
  rw [List.dedup_cons_of_notMem notMem] at perm
  exact perm.trans (List.perm_append_singleton b l.dedup).symm

/-- Numbers are drawn once for each two bounds, and once for each call that does not want its number
remembered. -/
theorem counted (history : History xs) :
    ((xs.flatMap Drawing.draws).map Draw.bounds).Perm
      ((bounds true xs).dedup ++ bounds false xs) := by
  -- With each call, a number is drawn just where the bounds are new or nothing is remembered.
  induction history with
  | nil => exact List.Perm.refl _
  | @snoc before x history next ih =>
    rw [List.flatMap_append, List.map_append, List.flatMap_singleton, bounds_append, bounds_append]
    cases next with
    | refused unfit undrawn numberless =>
      rw [undrawn, Drawing.bounds?_of_refused unfit, Drawing.bounds?_of_refused unfit]
      simpa using ih
    | @again b n bounded known undrawn number =>
      obtain ⟨w, wish, remembered, -⟩ := Drawing.bounds?_eq_some_iff.1 bounded
      have mem : b ∈ bounds true before := by
        by_contra absent
        cases (history.recalled?_eq_none_iff.2 absent).symm.trans known
      have other : x.bounds? false = none := by
        rw [Drawing.bounds?_of_wish? wish, if_neg (by simp [remembered])]
      rw [undrawn, bounded, other]
      simpa using ih.trans ((perm_dedup_append_of_mem mem).symm.append_right _)
    | @drawn w n wish new once number =>
      rw [once, Drawing.bounds?_of_wish? wish, Drawing.bounds?_of_wish? wish]
      cases remembered : w.remembered with
      | true =>
        have notMem := history.recalled?_eq_none_iff.1 (new remembered)
        have first := (perm_dedup_append_of_notMem notMem).symm.append_right (bounds false before)
        have last : (((bounds true before).dedup ++ bounds false before) ++ [w.bounds]).Perm
            (((bounds true before).dedup ++ [w.bounds]) ++ bounds false before) := by
          rw [List.append_assoc, List.append_assoc]
          exact List.perm_append_comm.append_left _
        simpa [Draw.bounds, Wish.bounds] using
          (ih.append_right [w.bounds]).trans (last.trans first)
      | false => simpa [Draw.bounds, Wish.bounds] using ih.append_right [w.bounds]

theorem follows_of_mem (history : History xs) (mem : x ∈ xs) : ∃ before, x.Follows before := by
  obtain ⟨before, after, rfl⟩ := List.append_of_mem mem
  exact ⟨before, history.of_append.2⟩

theorem successful (history : History xs) (mem : x ∈ xs) : x.number?.isSome = x.wish?.isSome := by
  obtain ⟨before, follows⟩ := history.follows_of_mem mem
  cases follows with
  | refused unfit undrawn numberless => rw [unfit, numberless]; rfl
  | again bounded known undrawn number =>
    obtain ⟨w, wish, -⟩ := Drawing.bounds?_eq_some_iff.1 bounded
    rw [wish, number]; rfl
  | drawn wish new once number => rw [wish, number]; rfl

theorem own (history : History (before ++ x :: after)) (bounded : x.bounds? true = some b) :
    ∃ y ∈ before ++ [x], ∃ n, y.bounds? true = some b ∧ y.draws = [⟨b.1, b.2, n⟩] ∧
      x.number? = some n := by
  obtain ⟨earlier, next⟩ := history.of_append
  obtain ⟨n, number, known⟩ := next.recalled? bounded
  obtain ⟨y, mem, bounded, drawn⟩ := (earlier.snoc next).exists_draw known
  exact ⟨y, mem, n, bounded, drawn, number⟩

theorem fresh (history : History xs) (mem : x ∈ xs) (bounded : x.bounds? false = some b) :
    ∃ n, x.draws = [⟨b.1, b.2, n⟩] ∧ x.number? = some n := by
  obtain ⟨w, wish, forgotten, rfl⟩ := Drawing.bounds?_eq_some_iff.1 bounded
  obtain ⟨before, follows⟩ := history.follows_of_mem mem
  cases follows with
  | refused unfit => cases unfit.symm.trans wish
  | again bounded' =>
    obtain ⟨w', wish', remembered, -⟩ := Drawing.bounds?_eq_some_iff.1 bounded'
    cases wish'.symm.trans wish
    cases remembered.symm.trans forgotten
  | drawn wish' new once number =>
    cases wish'.symm.trans wish
    exact ⟨_, once, number⟩

theorem ordered (history : History xs) (mem : x ∈ xs) {q : Draw} (drawn : q ∈ x.draws) :
    q.low ≤ q.high := by
  obtain ⟨before, follows⟩ := history.follows_of_mem mem
  cases follows with
  | refused _ undrawn => rw [undrawn] at drawn; cases drawn
  | again _ _ undrawn => rw [undrawn] at drawn; cases drawn
  | drawn wish new once number =>
    rw [once] at drawn
    cases List.mem_singleton.1 drawn
    exact Wish.ordered wish

/-- The number that a call returns was drawn, for itself or for another call, between the bounds
that it asked for. -/
theorem exists_draw_of_number? (history : History xs) (mem : x ∈ xs) (wish : x.wish? = some w)
    (number : x.number? = some n) : ∃ y ∈ xs, ⟨w.low, w.high, n⟩ ∈ y.draws := by
  cases flag : w.remembered with
  | true =>
    have bounded : x.bounds? true = some w.bounds :=
      Drawing.bounds?_eq_some_iff.2 ⟨w, wish, flag, rfl⟩
    obtain ⟨m, number', known⟩ := history.recalled?_of_mem mem bounded
    cases number'.symm.trans number
    obtain ⟨y, mem, -, drawn⟩ := history.exists_draw known
    exact ⟨y, mem, drawn ▸ List.mem_singleton_self _⟩
  | false =>
    obtain ⟨m, drawn, number'⟩ :=
      history.fresh mem (Drawing.bounds?_eq_some_iff.2 ⟨w, wish, flag, rfl⟩)
    cases number'.symm.trans number
    exact ⟨x, mem, drawn ▸ List.mem_singleton_self _⟩

/-- **Histories are consistent.** -/
theorem consistent (history : History xs) : Consistent xs where
  successful _ mem := history.successful mem
  same x mem y mem' b bounded bounded' := by
    obtain ⟨n, number, known⟩ := history.recalled?_of_mem mem bounded
    obtain ⟨m, number', known'⟩ := history.recalled?_of_mem mem' bounded'
    rw [number, number', ← known, ← known']
  own before x after split b bounded := own (split ▸ history) bounded
  fresh _ mem _ bounded := history.fresh mem bounded
  counted := history.counted
  ordered _ mem _ drawn := history.ordered mem drawn
  within inside x mem w n wish number := by
    obtain ⟨y, mem', drawn⟩ := history.exists_draw_of_number? mem wish number
    exact inside y mem' _ drawn

end History

end CommandScript.BuiltIn
