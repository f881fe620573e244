import Mathlib.Data.List.TakeWhile
import CommandScript.Proofs.Number.Digits
import CommandScript.Proofs.Store
import CommandScript.Value.Attribute

/-!
# Where paths lead

A path leads to a value, and to null once a step finds nothing. The one way to fail is a step into a
sequence that is written as an index and does not read as a number: with several minus signs, with
digits that have no place value, or with too many digits. This holds whatever attributes values
have. Where a path goes on after a point, the
rest of it is followed from where the part before the point leads.

## Main definitions

- `CommandScript.Numeral.Readable` — an index that reads as a number
- `CommandScript.Value.AsksUnreadable` — a path that comes to a sequence with any other index
- `CommandScript.Value.Lacks`, `LeadsNowhere` — a step, and a path, that finds nothing

## Main results

- `CommandScript.Numeral.readInt_iff_readable` — which indices read as numbers
- `CommandScript.Value.follow_eq_error_iff` — which paths fail
- `CommandScript.Value.follow_of_leadsNowhere` — which paths come to null
- `CommandScript.Value.paths_composed` — a path after another, and the indices of an item
-/

namespace CommandScript

namespace Text

variable {c : Char}

/-- A blank is no digit. -/
theorem isDigitLike_of_isBlank (blank : isBlank c = true) : isDigitLike c = false := by
  have all : ∀ r ∈ blankRanges, ∀ n ∈ List.range' r.1 (r.2 + 1 - r.1),
      isDigitLike (Char.ofNat n) = false := by
    decide +kernel
  obtain ⟨r, mem, low, high⟩ := inRanges_eq_true_iff.1 blank
  have inside : c.toNat ∈ List.range' r.1 (r.2 + 1 - r.1) := List.mem_range'_1.2 (by omega)
  rw [← Char.ofNat_toNat c]
  exact all r mem c.toNat inside

theorem isBlank_of_isDigitLike (digit : isDigitLike c = true) : isBlank c = false := by
  cases blank : isBlank c with
  | false => rfl
  | true => exact digit.symm.trans (isDigitLike_of_isBlank blank)

theorem ne_of_isDigitLike {d : Char} (digit : isDigitLike c = true)
    (other : isDigitLike d = false) : c ≠ d := by
  rintro rfl
  cases digit.symm.trans other

end Text

namespace Numeral

open Text

variable {key sign ds : List Char}

/-- An index that reads as a number: decimal digits, not too many of them, after one minus sign or
none. -/
def Readable (key : List Char) : Prop :=
  ∃ sign ds, (sign = [] ∨ sign = ['-']) ∧ key = sign ++ ds ∧ ds ≠ [] ∧
    (∀ c ∈ ds, isDecimal c = true) ∧ ds.length ≤ digitLimit

theorem isDigitLike_of_isDecimal {c : Char} (decimal : isDecimal c = true) :
    isDigitLike c = true := by
  rw [isDigitLike, decimal, Bool.true_or]

theorem splitSign_digits (digits : ∀ c ∈ ds, isDigitLike c = true) :
    splitSign ds = (false, ds) := by
  unfold splitSign
  split
  · exact absurd (digits '-' List.mem_cons_self) (by decide)
  · exact absurd (digits '+' List.mem_cons_self) (by decide)
  · rfl

/-- Reading digits after one minus sign or none. -/
theorem readInt_signed (one : sign = [] ∨ sign = ['-']) (digits : ∀ c ∈ ds, isDigitLike c = true) :
    readInt (sign ++ ds) =
      if digitLimit < (ds.takeWhile isDecimal).length then
        .error (.tooManyDigits (ds.takeWhile isDecimal).length)
      else if ds.takeWhile isDecimal = [] ∨ (ds.takeWhile isDecimal).length < ds.length then
        .error .malformed
      else .ok (signed (sign = ['-']) (digitsValue 0 (ds.takeWhile isDecimal))) := by
  have solid : ∀ c ∈ sign ++ ds, isBlank c = false := by
    refine List.forall_mem_append.2 ⟨?_, fun c mem => isBlank_of_isDigitLike (digits c mem)⟩
    obtain rfl | rfl := one
    · exact List.forall_mem_nil _
    · exact List.forall_mem_singleton.2 (by decide)
  have split : splitSign (sign ++ ds) = (decide (sign = ['-']), ds) := by
    obtain rfl | rfl := one
    · exact splitSign_digits digits
    · rfl
  have run : (ds.takeWhile fun c => isDecimal c || decide (c = '_')) = ds.takeWhile isDecimal := by
    have same : ∀ c ∈ ds, (isDecimal c || decide (c = '_')) = isDecimal c := fun c mem => by
      rw [decide_eq_false (ne_of_isDigitLike (digits c mem) (by decide)), Bool.or_false]
    clear split solid
    induction ds with
    | nil => rfl
    | cons c cs ih =>
      obtain ⟨first, rest⟩ := List.forall_mem_cons.1 same
      rw [List.takeWhile_cons, List.takeWhile_cons, first,
        ih (fun d mem => digits d (List.mem_cons_of_mem c mem)) rest]
  have free : '_' ∉ ds.takeWhile isDecimal := fun mem =>
    ne_of_isDigitLike (digits '_' (List.takeWhile_subset _ mem)) (by decide) rfl
  rw [readInt, withoutMargin_of_forall solid, split]
  dsimp only
  rw [run, withoutUnderscores?_of_notMem free]

/-- A second minus sign is not read. -/
theorem readInt_two_signs {cs : List Char} (solid : ∀ c ∈ cs, isBlank c = false) :
    readInt ('-' :: '-' :: cs) = .error .malformed := by
  have all : ∀ c ∈ '-' :: '-' :: cs, isBlank c = false :=
    List.forall_mem_cons.2 ⟨by decide, List.forall_mem_cons.2 ⟨by decide, solid⟩⟩
  have run : ('-' :: cs).takeWhile (fun c => isDecimal c || decide (c = '_')) = [] :=
    List.takeWhile_cons_of_neg (by decide)
  rw [readInt, withoutMargin_of_forall all, splitSign]
  dsimp only
  rw [run]
  rfl

/-- An index has digits after its minus signs. -/
theorem exists_digits_of_isIndex (index : Value.isIndex key = true) :
    ∃ signs ds, key = signs ++ ds ∧ (∀ c ∈ signs, c = '-') ∧ ds ≠ [] ∧
      ∀ c ∈ ds, isDigitLike c = true := by
  unfold Value.isIndex at index
  obtain ⟨some, digits⟩ := Bool.and_eq_true_iff.1 index
  refine ⟨key.takeWhile (· = '-'), key.dropWhile (· = '-'), List.takeWhile_append_dropWhile.symm,
    fun c mem => ?_, ?_, List.all_eq_true.1 digits⟩
  · simpa using List.mem_takeWhile_imp mem
  · simpa using some

/-- **Which indices read as numbers**: those of decimal digits within the limit after one minus sign
or none. -/
theorem readInt_iff_readable (index : Value.isIndex key = true) :
    (∃ n, readInt key = .ok n) ↔ Readable key := by
  constructor
  · rintro ⟨n, reads⟩
    obtain ⟨signs, ds, rfl, minus, some, digits⟩ := exists_digits_of_isIndex index
    have read (one : signs = [] ∨ signs = ['-']) : Readable (signs ++ ds) := by
      rw [readInt_signed one digits] at reads
      split at reads
      · cases reads
      · rename_i few
        split at reads
        · cases reads
        · rename_i whole
          have all : ds.takeWhile isDecimal = ds :=
            (List.takeWhile_prefix isDecimal).eq_of_length_le (by omega)
          rw [all] at few
          exact ⟨signs, ds, one, rfl, some, List.takeWhile_eq_self_iff.1 all, Nat.not_lt.1 few⟩
    match signs, minus with
    | [], _ => exact read (.inl rfl)
    | [c], minus => exact read (.inr (by rw [minus c List.mem_cons_self]))
    | c :: d :: signs, minus =>
      obtain ⟨first, minus⟩ := List.forall_mem_cons.1 minus
      obtain ⟨second, dashes⟩ := List.forall_mem_cons.1 minus
      subst first second
      have solid : ∀ c ∈ signs ++ ds, isBlank c = false := by
        refine List.forall_mem_append.2 ⟨fun c mem => ?_, fun c mem => ?_⟩
        · rw [dashes c mem]
          decide
        · exact isBlank_of_isDigitLike (digits c mem)
      cases (readInt_two_signs solid).symm.trans reads
  · rintro ⟨sign, ds, one, rfl, some, decimal, few⟩
    have digits (c : Char) (mem : c ∈ ds) : isDigitLike c = true :=
      isDigitLike_of_isDecimal (decimal c mem)
    rw [readInt_signed one digits, takeWhile_of_forall decimal, if_neg (Nat.not_lt.2 few), if_neg]
    · exact ⟨_, rfl⟩
    · simpa using some

theorem kind_conversion (literal : String) (e : IntError) :
    (e.conversion literal).kind = "ValueError" := by
  cases e <;> rfl

/-- A whole number as it is written is an index. -/
theorem isIndex_intChars (k : Int) : Value.isIndex (intChars k) = true := by
  have digits : ∀ c ∈ Nat.toDigits 10 k.natAbs, isDigitLike c = true := fun c mem =>
    isDigitLike_of_isDecimal (isDecimal_of_isDigit (isDigit_of_mem_toDigits mem))
  have solid : (Nat.toDigits 10 k.natAbs).dropWhile (· = '-') = Nat.toDigits 10 k.natAbs :=
    dropWhile_of_forall fun c mem => decide_eq_false (ne_of_isDigitLike (digits c mem) (by decide))
  have bare : (intChars k).dropWhile (· = '-') = Nat.toDigits 10 k.natAbs := by
    rw [intChars]
    split
    · exact solid
    · exact solid
  rw [Value.isIndex, bare, Bool.and_eq_true, List.all_eq_true]
  exact ⟨by simp [Nat.toDigits_ne_nil], digits⟩

end Numeral

namespace Value

variable {v w u : Value} {key : List Char} {keys : List (List Char)} {path : List Char}
  {xs : List Value} {i : Nat} {n : Int}

/-! ### Steps -/

/-- A step into a sequence that is written as an index and does not read as a number. -/
def Unreadable (v : Value) (key : List Char) : Prop :=
  v.sequence?.isSome ∧ isIndex key = true ∧ ¬Numeral.Readable key

theorem entries?_of_sequence? {xs : List Value} (sequence : v.sequence? = some xs) :
    v.entries? = none := by
  cases v <;> first | rfl | cases sequence

theorem item_of_outside {xs : List Value} {n : Int}
    (outside : n < -(xs.length : Int) ∨ xs.length ≤ n) : item xs n = .null := by
  unfold item
  dsimp only
  by_cases negative : n < 0
  · rw [if_pos negative, if_pos (by omega)]
  · rw [if_neg negative, if_neg negative, List.getElem?_eq_none (by omega)]
    rfl

theorem item_of_inside (inside : i < xs.length) : item xs i = xs[i] := by
  have low : ¬(i : Int) < 0 := Int.not_lt.2 (Int.natCast_nonneg i)
  rw [item, if_neg low, if_neg low, Int.toNat_natCast, List.getElem?_eq_getElem inside,
    Option.getD_some]

/-- The item at a place has a second index, which counts from the end. -/
theorem item_from_end (inside : i < xs.length) : item xs (i - xs.length) = xs[i] := by
  have below : (i : Int) - xs.length < 0 := by omega
  have low : ¬(i : Int) < 0 := Int.not_lt.2 (Int.natCast_nonneg i)
  rw [← item_of_inside inside, item, item, if_pos below, Int.sub_add_cancel, if_neg low, if_neg low,
    if_neg low]

theorem steps_append (before after : List Char) :
    steps (before ++ '.' :: after) = steps before ++ steps after :=
  Text.splitAt_append '.' before after

/-- An index holds no point, and so it is the only step of its path. -/
theorem steps_of_isIndex (index : isIndex key = true) : steps key = [key] := by
  obtain ⟨signs, ds, rfl, minus, -, digits⟩ := Numeral.exists_digits_of_isIndex index
  refine Text.splitAt_of_notMem fun mem => ?_
  obtain sign | digit := List.mem_append.1 mem
  · exact absurd (minus '.' sign) (by decide)
  · exact absurd (digits '.' digit) (by decide)

section Following

variable [Attributes]

/-- A step that finds nothing: a key that is missing, an index that is out of range, an attribute
that does not exist, or anything in null. -/
inductive Lacks : Value → List Char → Prop
  | null (key : List Char) : Lacks .null key
  | key {v : Value} {es : List (Value × Value)} {key : List Char} (mapping : v.entries? = some es)
    (missing : lookupText? es (String.ofList key) = none) : Lacks v key
  | index {v : Value} {xs : List Value} {key : List Char} {n : Int}
    (sequence : v.sequence? = some xs) (index : isIndex key = true)
    (reads : Numeral.readInt key = .ok n) (outside : n < -(xs.length : Int) ∨ xs.length ≤ n) :
    Lacks v key
  | property {v : Value} {key : List Char} (noMapping : v.entries? = none)
    (noIndex : v.sequence? = none ∨ isIndex key = false)
    (missing : Attributes.attribute? v (String.ofList key) = none) : Lacks v key

theorem step_entries {es : List (Value × Value)} (mapping : v.entries? = some es) :
    v.step key = .ok ((lookupText? es (String.ofList key)).getD .null) := by
  rw [step, mapping]

theorem step_index {xs : List Value} (sequence : v.sequence? = some xs)
    (index : isIndex key = true) :
    v.step key = (Numeral.toInt key (Text.quoted (String.ofList key))).map (item xs) := by
  rw [step, entries?_of_sequence? sequence, sequence]
  exact if_pos index

theorem step_property (noMapping : v.entries? = none)
    (noIndex : v.sequence? = none ∨ isIndex key = false) :
    v.step key = .ok (v.property (String.ofList key)) := by
  rw [step, noMapping]
  cases sequence : v.sequence? with
  | none => rfl
  | some xs =>
    obtain none | word := noIndex
    · cases sequence.symm.trans none
    · exact if_neg (by rw [word]; exact Bool.false_ne_true)

/-- **Which steps fail**: those into a sequence that are written as an index and do not read as a
number. -/
theorem step_eq_error_iff : (∃ e, v.step key = .error e) ↔ v.Unreadable key := by
  cases mapping : v.entries? with
  | some es =>
    rw [step_entries mapping]
    refine ⟨nofun, fun ⟨sequence, _⟩ => ?_⟩
    obtain ⟨xs, sequence⟩ := Option.isSome_iff_exists.1 sequence
    cases mapping.symm.trans (entries?_of_sequence? sequence)
  | none =>
    by_cases index : v.sequence? = none ∨ isIndex key = false
    · rw [step_property mapping index]
      refine ⟨nofun, fun ⟨sequence, digits, _⟩ => ?_⟩
      obtain none | word := index
      · rw [none] at sequence
        cases sequence
      · cases word.symm.trans digits
    · obtain ⟨some, digits⟩ := not_or.1 index
      obtain ⟨xs, sequence⟩ := Option.ne_none_iff_exists'.1 some
      have digits : isIndex key = true := by simpa using digits
      rw [step_index sequence digits, Unreadable, sequence, ← Numeral.readInt_iff_readable digits,
        Numeral.toInt]
      cases Numeral.readInt key with
      | ok n => exact ⟨nofun, fun h => absurd ⟨n, rfl⟩ h.2.2⟩
      | error e => exact ⟨fun _ => ⟨rfl, digits, nofun⟩, fun _ => ⟨_, rfl⟩⟩

theorem kind_of_step {e : ConversionError} (failed : v.step key = .error e) :
    e.kind = "ValueError" := by
  obtain ⟨some, digits, -⟩ := step_eq_error_iff.1 ⟨e, failed⟩
  obtain ⟨xs, sequence⟩ := Option.isSome_iff_exists.1 some
  rw [step_index sequence digits, Numeral.toInt] at failed
  cases read : Numeral.readInt key with
  | ok n =>
    rw [read] at failed
    cases failed
  | error fault =>
    rw [read] at failed
    cases failed
    exact Numeral.kind_conversion _ fault

theorem property_of_missing {name : String} (missing : Attributes.attribute? v name = none) :
    v.property name = .null := by
  cases v with
  | null => rfl
  | _ => exact congrArg (Option.getD · .null) missing

theorem step_of_lacks (lacks : v.Lacks key) : v.step key = .ok .null := by
  cases lacks with
  | null key => exact step_null key
  | key mapping missing =>
    rw [step_entries mapping, missing]
    rfl
  | index sequence digits reads outside =>
    rw [step_index sequence digits, Numeral.toInt, reads]
    exact congrArg Except.ok (item_of_outside outside)
  | property noMapping noIndex missing =>
    rw [step_property noMapping noIndex, property_of_missing missing]

/-! ### Paths -/

theorem followSteps_null (keys : List (List Char)) : followSteps .null keys = .ok .null := by
  induction keys with
  | nil => rfl
  | cons key keys ih =>
    rw [followSteps, step_null]
    exact ih

theorem followSteps_append (before after : List (List Char)) :
    v.followSteps (before ++ after) = v.followSteps before >>= fun u => u.followSteps after := by
  induction before generalizing v with
  | nil => rfl
  | cons key keys ih =>
    rw [List.cons_append, followSteps, followSteps]
    cases v.step key with
    | error e => rfl
    | ok w => exact ih

/-- Some steps fail where one of them, from where the ones before it lead, does. -/
theorem followSteps_eq_error_iff {e : ConversionError} : v.followSteps keys = .error e ↔
    ∃ before key after u, keys = before ++ key :: after ∧ v.followSteps before = .ok u ∧
      u.step key = .error e := by
  constructor
  · intro failed
    induction keys generalizing v with
    | nil => cases failed
    | cons key keys ih =>
      rw [followSteps] at failed
      cases stepped : v.step key with
      | error e' =>
        rw [stepped] at failed
        cases failed
        exact ⟨[], key, keys, v, rfl, rfl, stepped⟩
      | ok w =>
        rw [stepped] at failed
        obtain ⟨before, bad, after, u, rfl, led, fails⟩ := ih failed
        refine ⟨key :: before, bad, after, u, rfl, ?_, fails⟩
        rw [followSteps, stepped]
        exact led
  · rintro ⟨before, key, after, u, rfl, led, fails⟩
    rw [followSteps_append, led]
    show u.followSteps (key :: after) = .error e
    rw [followSteps, fails]

/-- A path that comes to a sequence with an index that does not read as a number. -/
def AsksUnreadable (v : Value) (path : List Char) : Prop :=
  ∃ before key after u, steps path = before ++ key :: after ∧ v.followSteps before = .ok u ∧
    u.Unreadable key

/-- A path with a step that finds nothing where the steps before it lead. -/
def LeadsNowhere (v : Value) (path : List Char) : Prop :=
  ∃ before key after u, steps path = before ++ key :: after ∧ v.followSteps before = .ok u ∧
    u.Lacks key

/-- **Which paths fail**: those that come to a sequence with an index that does not read as a
number. -/
theorem follow_eq_error_iff : (∃ e, v.follow path = .error e) ↔ v.AsksUnreadable path := by
  constructor
  · rintro ⟨e, failed⟩
    obtain ⟨before, key, after, u, cut, led, fails⟩ := followSteps_eq_error_iff.1 failed
    exact ⟨before, key, after, u, cut, led, step_eq_error_iff.1 ⟨e, fails⟩⟩
  · rintro ⟨before, key, after, u, cut, led, unreadable⟩
    obtain ⟨e, fails⟩ := step_eq_error_iff.2 unreadable
    exact ⟨e, followSteps_eq_error_iff.2 ⟨before, key, after, u, cut, led, fails⟩⟩

theorem kind_of_follow {e : ConversionError} (failed : v.follow path = .error e) :
    e.kind = "ValueError" := by
  obtain ⟨_, _, _, _, -, -, fails⟩ := followSteps_eq_error_iff.1 failed
  exact kind_of_step fails

/-- **A path that finds nothing** comes to null. -/
theorem follow_of_leadsNowhere (nowhere : v.LeadsNowhere path) : v.follow path = .ok .null := by
  obtain ⟨before, key, after, u, cut, led, lacks⟩ := nowhere
  rw [follow, cut, followSteps_append, led]
  show u.followSteps (key :: after) = .ok .null
  rw [followSteps, step_of_lacks lacks]
  exact followSteps_null after

/-! ### Paths one after the other -/

theorem follow_intChars (sequence : v.sequence? = some xs)
    (within : Numeral.exceedsLimit n = false) :
    v.follow (Numeral.intChars n) = .ok (item xs n) := by
  have index := Numeral.isIndex_intChars n
  have stepped : v.step (Numeral.intChars n) = .ok (item xs n) := by
    rw [step_index sequence index, Numeral.toInt, Numeral.readInt_intChars within]
    rfl
  rw [follow, steps_of_isIndex index, followSteps, stepped]
  rfl

/-- **Paths compose.** Whatever the value, two paths with a point between them are followed one
after the other: the second from where the first leads, to the same value or the same failure. In a
list or a tuple whose length has no more digits than are read, an item is reached from the start by
its place and from the end by its place less the length, and any number outside of these leads to
null unless it has more digits than are read. -/
theorem paths_composed (v : Value) (before after : List Char) :
    v.follow (before ++ '.' :: after) = (v.follow before >>= fun u => u.follow after) ∧
    ∀ xs, v.sequence? = some xs →
      (∀ (i : Nat) (inside : i < xs.length), xs.length < Nat.pow 10 Numeral.digitLimit →
        v.follow (Numeral.intChars i) = .ok xs[i] ∧
        v.follow (Numeral.intChars (i - xs.length)) = .ok xs[i]) ∧
      ∀ n : Int, n < -(xs.length : Int) ∨ xs.length ≤ n → Numeral.exceedsLimit n = false →
        v.follow (Numeral.intChars n) = .ok .null := by
  refine ⟨?_, fun xs sequence => ⟨fun i inside short => ⟨?_, ?_⟩, fun n outside within => ?_⟩⟩
  · rw [follow, steps_append, followSteps_append]
    rfl
  · have within : Numeral.exceedsLimit i = false :=
      Numeral.exceedsLimit_eq_false Numeral.digitLimit (Nat.le_refl _) (by omega)
    rw [follow_intChars sequence within, item_of_inside inside]
  · have within : Numeral.exceedsLimit ((i : Int) - xs.length) = false :=
      Numeral.exceedsLimit_eq_false Numeral.digitLimit (Nat.le_refl _) (by omega)
    rw [follow_intChars sequence within, item_from_end inside]
  · rw [follow_intChars sequence within, item_of_outside outside]

end Following

/-- Three texts. -/
def threeTexts : List Value := [.text "x", .text "y", .text "z"]

/-- The last of three texts under a key is reached from both ends, and there is no fourth one. -/
theorem paths_composed_last :
    (Value.list threeTexts).sequence? = some threeTexts ∧ 2 < threeTexts.length ∧
      threeTexts.length < Nat.pow 10 Numeral.digitLimit ∧ Numeral.exceedsLimit 3 = false ∧
      (∀ key ∈ [['2'], ['-', '1']],
        follow (.map [(.text "a", .list threeTexts)]) ('a' :: '.' :: key) = .ok (.text "z")) ∧
      follow (.map [(.text "a", .list threeTexts)]) ['a', '.', '3'] = .ok .null := by
  let held : Value := .map [(.text "a", .list threeTexts)]
  have short : threeTexts.length < Nat.pow 10 Numeral.digitLimit := by decide +kernel
  have within : Numeral.exceedsLimit 3 = false := by decide +kernel
  obtain ⟨-, items⟩ := paths_composed (.list threeTexts) [] []
  obtain ⟨inside, outside⟩ := items threeTexts rfl
  obtain ⟨fromStart, fromEnd⟩ := inside 2 (by decide) short
  have none := outside 3 (.inr (by decide)) within
  have written : Numeral.intChars (2 : Nat) = ['2'] ∧ Numeral.intChars 3 = ['3'] ∧
      Numeral.intChars ((2 : Nat) - threeTexts.length) = ['-', '1'] := by decide +kernel
  rw [written.1] at fromStart
  rw [written.2.1] at none
  rw [written.2.2] at fromEnd
  have found : held.follow ['a'] = .ok (.list threeTexts) := by
    have stepped : held.step ['a'] = .ok (.list threeTexts) := by
      refine (step_entries rfl).trans ?_
      simp [lookupText?, lookup?, sameKey_text]
    show held.followSteps [['a']] = _
    rw [followSteps, stepped]
    rfl
  have under (path : List Char) :
      held.follow (['a'] ++ '.' :: path) = (Value.list threeTexts).follow path := by
    rw [(paths_composed held ['a'] path).1, found]
    rfl
  refine ⟨rfl, by decide, short, within, fun key mem => ?_, (under _).trans none⟩
  obtain rfl | rfl : key = ['2'] ∨ key = ['-', '1'] := by simpa using mem
  · exact (under _).trans fromStart
  · exact (under _).trans fromEnd

end Value

end CommandScript
