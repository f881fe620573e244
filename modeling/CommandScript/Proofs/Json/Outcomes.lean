import Mathlib.Data.List.TakeWhile
import CommandScript.Proofs.Payload

/-!
# What reading JSON comes to

Reading a JSON text gives a value, or finds the text malformed, or meets a whole number that is too
long. The last happens only where so many digits stand in a row in the text itself. What begins with
a bracket and is read is a list or a mapping.

## Main definitions

- `CommandScript.Numeral.HasLongRun` — a text has more digits in a row than a whole number may have
- `CommandScript.Json.IsInside` — a state of the reader in which the text has begun with a bracket

## Main results

- `CommandScript.Json.hasLongRun_of_read` — only a long run of digits stops the reader but for form
- `CommandScript.Json.isCollection_of_read` — a text in brackets is a list or a mapping
-/

namespace CommandScript

namespace Numeral

open Text

variable {cs ds : List Char} {n : Nat}

/-- A text has more digits in a row than a whole number may have. -/
def HasLongRun (cs : List Char) : Prop :=
  ∃ ds, ds <:+: cs ∧ (∀ d ∈ ds, d.isDigit = true) ∧ digitLimit < ds.length

theorem HasLongRun.mono (long : HasLongRun ds) (within : ds <:+: cs) : HasLongRun cs := by
  obtain ⟨run, inside, digits, length⟩ := long
  exact ⟨run, inside.trans within, digits, length⟩

theorem isPrefix_dropEndWhile (p : Char → Bool) (cs : List Char) : dropEndWhile p cs <+: cs := by
  rw [dropEndWhile, ← List.reverse_suffix, List.reverse_reverse]
  exact List.dropWhile_suffix p

theorem withoutMargin_sublist (cs : List Char) : (withoutMargin cs).Sublist cs :=
  (isPrefix_dropEndWhile _ _).sublist.trans (List.dropWhile_sublist _)

theorem splitSign_sublist (cs : List Char) : (splitSign cs).2.Sublist cs := by
  unfold splitSign
  split
  · exact List.sublist_cons_self _ _
  · exact List.sublist_cons_self _ _
  · exact List.Sublist.refl _

theorem withoutUnderscores?_eq_some (found : withoutUnderscores? cs = some ds) :
    ds = cs.filter (· ≠ '_') := by
  unfold withoutUnderscores? at found
  split at found
  · exact (Option.some.inj found).symm
  · cases found

/-- A whole number is too long only where the text has more decimal digits than the limit. -/
theorem lt_of_readInt (long : readInt cs = .error (.tooManyDigits n)) :
    digitLimit < n ∧ n ≤ (cs.filter isDecimal).length := by
  unfold readInt at long
  dsimp only at long
  split at long
  · cases long
  · rename_i ds found
    split at long
    · rename_i more
      obtain rfl : ds.length = n := by injection long with same; injection same
      refine ⟨more, List.Sublist.length_le ?_⟩
      have decimal : ds.filter isDecimal = ds := by
        refine List.filter_eq_self.2 fun d mem => ?_
        rw [withoutUnderscores?_eq_some found, List.mem_filter] at mem
        have taken := List.mem_takeWhile_imp mem.1
        simpa [of_decide_eq_true mem.2] using taken
      have inside : ds.Sublist cs := by
        rw [withoutUnderscores?_eq_some found]
        exact List.filter_sublist.trans ((List.takeWhile_sublist _).trans
          ((splitSign_sublist _).trans (withoutMargin_sublist _)))
      exact decimal ▸ inside.filter isDecimal
    · split at long <;> cases long

end Numeral

namespace Json

open Text

variable {c : Char} {cs ds b rest numeral : List Char} {t : Token} {ts : List Token} {v : Value}
  {stack stack' : List Frame} {awaiting awaiting' : Awaiting} {n : Nat}

/-! ### Whole numbers in a text -/

theorem suffix_of_body? (read : body? cs = some (b, rest)) : rest <:+ cs := by
  fun_induction body? cs generalizing b rest with
  | case1 => cases read
  | case2 cs =>
    cases read
    exact List.suffix_cons _ _
  | case3 => cases read
  | case4 cs _ d n escape ih =>
    obtain ⟨⟨b', r⟩, read', same⟩ := Option.map_eq_some_iff.1 read
    cases same
    exact (ih read').trans ((List.drop_suffix _ _).trans (List.suffix_cons _ _))
  | case5 => cases read
  | case6 c cs _ _ _ ih =>
    obtain ⟨⟨b', r⟩, read', same⟩ := Option.map_eq_some_iff.1 read
    cases same
    exact (ih read').trans (List.suffix_cons _ _)

theorem suffix_of_word? (read : word? cs = some (t, rest)) : rest <:+ cs := by
  obtain ⟨⟨w, t'⟩, -, found⟩ := List.exists_of_findSome?_eq_some read
  dsimp only at found
  split at found
  · cases found
    exact List.drop_suffix _ _
  · cases found

theorem not_int_of_word? (read : word? cs = some (.int numeral, rest)) : False := by
  obtain ⟨⟨w, t⟩, mem, found⟩ := List.exists_of_findSome?_eq_some read
  dsimp only at found
  split at found
  · obtain rfl : t = .int numeral := congrArg Prod.fst (Option.some.inj found)
    simp [words] at mem
  · cases found

theorem digits_of_whole? (read : whole? cs = some (ds, rest)) :
    ds ++ rest = cs ∧ ∀ d ∈ ds, d.isDigit = true := by
  unfold whole? at read
  split at read
  · cases read
    exact ⟨rfl, List.forall_mem_singleton.2 rfl⟩
  · split at read
    · cases read
      exact ⟨List.takeWhile_append_dropWhile, fun d mem => List.mem_takeWhile_imp mem⟩
    · cases read
  · cases read

theorem suffix_fraction (cs : List Char) : (fraction cs).2 <:+ cs := by
  unfold fraction
  split
  · dsimp only
    split
    · exact List.suffix_rfl
    · exact (List.dropWhile_suffix _).trans (List.suffix_cons _ _)
  · exact List.suffix_rfl

theorem suffix_exponent (cs : List Char) : (exponent cs).2 <:+ cs := by
  unfold exponent
  split
  · dsimp only
    split
    · exact (List.dropWhile_suffix _).trans
        ((List.drop_suffix _ _).trans (List.suffix_cons _ _))
    · exact List.suffix_rfl
  · exact List.suffix_rfl

/-- A numeral is a sign and digits that stand in a row in a text. -/
def StandsIn (numeral cs : List Char) : Prop :=
  ∃ sign ds, numeral = sign ++ ds ∧ (sign = [] ∨ sign = ['-']) ∧ ds <:+: cs ∧
    ∀ d ∈ ds, d.isDigit = true

theorem StandsIn.mono (stands : StandsIn numeral ds) (within : ds <:+ cs) :
    StandsIn numeral cs := by
  obtain ⟨sign, run, same, signed, inside, digits⟩ := stands
  exact ⟨sign, run, same, signed, inside.trans within.isInfix, digits⟩

/-- A numeral in a text is too long only where the text has a long run of digits. -/
theorem StandsIn.hasLongRun (stands : StandsIn numeral cs)
    (long : Numeral.readInt numeral = .error (.tooManyDigits n)) : Numeral.HasLongRun cs := by
  obtain ⟨sign, ds, rfl, signed, inside, digits⟩ := stands
  obtain ⟨more, few⟩ := Numeral.lt_of_readInt long
  have unsigned : sign.filter isDecimal = [] := by
    obtain rfl | rfl := signed <;> rfl
  rw [List.filter_append, unsigned, List.nil_append] at few
  exact ⟨ds, inside, digits, Nat.lt_of_lt_of_le more
    (few.trans (List.length_filter_le isDecimal ds))⟩

/-- What a number leaves is the end of its text, and a whole number is its sign and the digits in
front. -/
theorem number?_eq_some {sign : List Char} (signed : sign = [] ∨ sign = ['-'])
    (read : number? sign cs = some (t, rest)) :
    rest <:+ cs ∧ ∀ numeral, t = .int numeral → StandsIn numeral cs := by
  obtain ⟨⟨ds, r⟩, whole, same⟩ := Option.map_eq_some_iff.1 read
  obtain ⟨rfl, digits⟩ := digits_of_whole? whole
  dsimp only at same
  have left : (exponent (fraction r).2).2 <:+ ds ++ r :=
    (suffix_exponent _).trans ((suffix_fraction _).trans (List.suffix_append _ _))
  split at same
  · rename_i bare
    cases same
    rw [Bool.and_eq_true, List.isEmpty_iff, List.isEmpty_iff] at bare
    refine ⟨left, fun numeral here =>
      ⟨sign, ds, ?_, signed, (List.prefix_append _ _).isInfix, digits⟩⟩
    rw [← Token.int.inj here, bare.1, bare.2, List.append_nil, List.append_nil]
  · cases same
    exact ⟨left, fun numeral here => by cases here⟩

theorem scalar?_eq_some (read : scalar? c cs = some (t, rest)) :
    rest <:+ c :: cs ∧ ∀ numeral, t = .int numeral → StandsIn numeral (c :: cs) := by
  unfold scalar? at read
  split at read
  · obtain ⟨⟨b, r⟩, body, same⟩ := Option.map_eq_some_iff.1 read
    cases same
    exact ⟨(suffix_of_body? body).trans (List.suffix_cons _ _), fun numeral here => by cases here⟩
  · split at read
    · rename_i p word
      obtain rfl := Option.some.inj read
      exact ⟨suffix_of_word? word, fun numeral here => (not_int_of_word? (here ▸ word)).elim⟩
    · split at read
      · obtain ⟨left, digits⟩ := number?_eq_some (.inr rfl) read
        exact ⟨left.trans (List.suffix_cons _ _),
          fun numeral here => (digits numeral here).mono (List.suffix_cons _ _)⟩
      · exact number?_eq_some (.inl rfl) read

theorem not_int_of_punctuation? (found : punctuation? c = some (.int numeral)) : False := by
  have mem := mem_of_punctuation? found
  simp only [List.mem_cons, List.not_mem_nil, or_false] at mem
  obtain rfl | rfl | rfl | rfl | rfl | rfl := mem <;> cases found

/-- A whole number among the tokens stands in the text. -/
theorem standsIn_of_mem_tokens (mem : .int numeral ∈ tokens cs) : StandsIn numeral cs := by
  fun_induction tokens cs with
  | case1 => cases mem
  | case2 c cs space ih => exact (ih mem).mono (List.suffix_cons _ _)
  | case3 c cs _ t found ih =>
    obtain rfl | mem := List.mem_cons.1 mem
    · exact (not_int_of_punctuation? found).elim
    · exact (ih mem).mono (List.suffix_cons _ _)
  | case4 c cs _ _ t rest read ih =>
    obtain ⟨left, stands⟩ := scalar?_eq_some read
    obtain here | mem := List.mem_cons.1 mem
    · exact stands numeral here.symm
    · exact (ih mem).mono left
  | case5 => simp at mem

/-! ### Faults other than of form -/

theorem atom?_eq_error (long : atom? t = some (.error (.tooManyDigits n))) :
    ∃ numeral, t = .int numeral ∧ Numeral.readInt numeral = .error (.tooManyDigits n) := by
  cases t with
  | int numeral =>
    refine ⟨numeral, rfl, ?_⟩
    rw [atom?] at long
    split at long
    · cases long
    · rename_i m read
      cases long
      exact read
    · cases long
  | _ => cases long

theorem beginValue_eq_error (long : beginValue t stack = .error (.tooManyDigits n)) :
    ∃ numeral, t = .int numeral ∧ Numeral.readInt numeral = .error (.tooManyDigits n) := by
  unfold beginValue at long
  split at long
  · cases long
  · cases long
  · split at long
    · cases long
    · rename_i atom
      cases long
      exact atom?_eq_error atom
    · cases long

theorem advance_eq_error (long : advance stack awaiting t = .error (.tooManyDigits n)) :
    ∃ numeral, t = .int numeral ∧ Numeral.readInt numeral = .error (.tooManyDigits n) := by
  unfold advance at long
  split at long
  · exact beginValue_eq_error long
  · cases long
  · exact beginValue_eq_error long
  all_goals cases long

theorem resume_eq_error (long : resume stack awaiting ts = .error (.tooManyDigits n)) :
    ∃ numeral, .int numeral ∈ ts ∧ Numeral.readInt numeral = .error (.tooManyDigits n) := by
  induction ts generalizing stack awaiting with
  | nil => cases awaiting <;> cases long
  | cons t ts ih =>
    rw [resume] at long
    split at long
    · obtain ⟨numeral, mem, read⟩ := ih long
      exact ⟨numeral, List.mem_cons_of_mem t mem, read⟩
    · rename_i e stopped
      cases long
      obtain ⟨numeral, rfl, read⟩ := advance_eq_error stopped
      exact ⟨numeral, List.mem_cons_self, read⟩

/-- **Only a long run of digits stops the reader** at a text that may have the form of JSON. -/
theorem hasLongRun_of_read (long : read cs = .error (.tooManyDigits n)) :
    Numeral.HasLongRun cs := by
  obtain ⟨numeral, mem, read⟩ := resume_eq_error long
  exact (standsIn_of_mem_tokens mem).hasLongRun read

/-! ### Texts in brackets -/

/-- The state of the reader is inside of a bracket, or it has read what the bracket began. -/
def IsInside (stack : List Frame) : Awaiting → Prop
  | .keyOrEnd _ => True
  | .key _ => True
  | .ending v => v.IsCollection
  | _ => stack ≠ []

theorem isInside_deliver_cons {f : Frame} :
    IsInside (deliver v (f :: stack)).1 (deliver v (f :: stack)).2 := by
  cases f <;> exact List.cons_ne_nil _ _

theorem isInside_deliver (collection : v.IsCollection) :
    IsInside (deliver v stack).1 (deliver v stack).2 := by
  cases stack with
  | nil => exact collection
  | cons f stack => exact isInside_deliver_cons

theorem isInside_beginValue (opened : stack ≠ [])
    (begun : beginValue t stack = .ok (stack', awaiting')) : IsInside stack' awaiting' := by
  obtain ⟨f, stack, rfl⟩ := List.exists_cons_of_ne_nil opened
  unfold beginValue at begun
  split at begun
  · cases begun
    exact List.cons_ne_nil _ _
  · cases begun
    trivial
  · split at begun
    · rename_i v atom
      obtain ⟨rfl, rfl⟩ := Prod.mk.inj (Except.ok.inj begun)
      exact isInside_deliver_cons
    · cases begun
    · cases begun

theorem isInside_advance (inside : IsInside stack awaiting)
    (moved : advance stack awaiting t = .ok (stack', awaiting')) : IsInside stack' awaiting' := by
  unfold advance at moved
  split at moved
  · exact isInside_beginValue inside moved
  · obtain ⟨rfl, rfl⟩ := Prod.mk.inj (Except.ok.inj moved)
    exact isInside_deliver (.list _)
  · exact isInside_beginValue inside moved
  · obtain ⟨rfl, rfl⟩ := Prod.mk.inj (Except.ok.inj moved)
    exact isInside_deliver (.map _)
  · cases moved
    exact List.cons_ne_nil _ _
  · cases moved
    exact List.cons_ne_nil _ _
  · cases moved
    exact inside
  · cases moved
    exact List.cons_ne_nil _ _
  · obtain ⟨rfl, rfl⟩ := Prod.mk.inj (Except.ok.inj moved)
    exact isInside_deliver (.list _)
  · cases moved
    trivial
  · obtain ⟨rfl, rfl⟩ := Prod.mk.inj (Except.ok.inj moved)
    exact isInside_deliver (.map _)
  · cases moved

theorem isCollection_of_resume (inside : IsInside stack awaiting)
    (read : resume stack awaiting ts = .ok v) : v.IsCollection := by
  induction ts generalizing stack awaiting with
  | nil =>
    cases awaiting with
    | ending w =>
      obtain rfl : w = v := Except.ok.inj read
      exact inside
    | _ => cases read
  | cons t ts ih =>
    rw [resume] at read
    split at read
    · rename_i moved
      exact ih (isInside_advance inside moved) read
    · cases read

/-- **A text that begins with a bracket and is read is a list or a mapping.** -/
theorem isCollection_of_read (opens : Payload.opensCollection cs = true)
    (read : read cs = .ok v) : v.IsCollection := by
  cases cs with
  | nil => cases opens
  | cons c cs =>
    simp only [Payload.opensCollection, List.head?_cons, Option.some.injEq, Bool.or_eq_true,
      decide_eq_true_eq] at opens
    obtain rfl | rfl := opens
    · rw [Json.read, tokens_of_punctuation? (t := .openMap) rfl rfl] at read
      have inside : IsInside [] (.keyOrEnd []) := trivial
      exact isCollection_of_resume inside read
    · rw [Json.read, tokens_of_punctuation? (t := .openList) rfl rfl] at read
      have inside : IsInside [.items []] .itemOrEnd := List.cons_ne_nil _ _
      exact isCollection_of_resume inside read

end Json

end CommandScript
