import CommandScript.Proofs.Script.Scalar
import CommandScript.Proofs.Value.Comparison
import CommandScript.Proofs.Value.Path
import CommandScript.Script.Condition

/-!
# Conditions

The text at one side of an operator is read as a value. It is a whole number where it is decimal
digits after a minus sign or none, with blanks around, whatever zeros there are in front. Two texts
with an operator between them are compared as what they are read as, if no character of an operator
is in them. The six comparisons of two texts agree with one another, and on whole numbers with the
order of these. Equality tells values of different kinds apart, except that truth values are equal
to the numbers that they count as.

## Main definitions

- `CommandScript.Script.Denotes` — a text is a whole number, as it may be written
- `CommandScript.Script.FewDigits` — a text is no whole number with too many digits
- `CommandScript.Script.Unmarked` — texts that may stand beside an operator
- `CommandScript.Script.compared` — what comes of a comparison of two texts
- `CommandScript.Script.Coherent` — how the comparisons of two texts agree

## Main results

- `CommandScript.Text.trim_between`, `exists_trim` — what stands between blanks
- `CommandScript.Script.isNumeral_digits`, `exists_digits_of_isNumeral` — numbers without a point
- `CommandScript.Script.exists_operand` — what an operand is read as
- `CommandScript.Script.comparison?_eq` — which comparison is found, and where
- `CommandScript.Script.comparisons_coherent` — comparisons agree
- `CommandScript.Script.equality_across_kinds` — equality between values of different kinds
-/

namespace CommandScript

namespace Text

variable {before mid after : List Char}

/-- What stands between blanks, and has none in it, is left when they are cut off. -/
theorem trim_between (first : ∀ c ∈ before, isBlank c = true) (last : ∀ c ∈ after, isBlank c = true)
    (solid : ∀ c ∈ mid, isBlank c = false) : trim (before ++ mid ++ after) = mid := by
  have solid' (c : Char) (mem : c ∈ mid.reverse) : isBlank c = false :=
    solid c (List.mem_reverse.1 mem)
  have last' (c : Char) (mem : c ∈ after.reverse) : isBlank c = true :=
    last c (List.mem_reverse.1 mem)
  rw [trim, trimLeft, trimRight, dropEndWhile, List.append_assoc,
    List.dropWhile_append_of_pos first]
  cases mid with
  | nil =>
    have nothing : after.dropWhile isBlank = [] := List.dropWhile_eq_nil_iff.2 last
    rw [List.nil_append, nothing]
    rfl
  | cons c cs =>
    have kept : ¬isBlank c = true := by
      rw [solid c List.mem_cons_self]
      exact Bool.false_ne_true
    rw [List.cons_append, List.dropWhile_cons_of_neg kept, ← List.cons_append, List.reverse_append,
      List.dropWhile_append_of_pos last', dropWhile_of_forall solid', List.reverse_reverse]

theorem exists_trim (cs : List Char) : ∃ before after, cs = before ++ trim cs ++ after ∧
    (∀ c ∈ before, isBlank c = true) ∧ ∀ c ∈ after, isBlank c = true := by
  refine ⟨cs.takeWhile isBlank, ((trimLeft cs).reverse.takeWhile isBlank).reverse, ?_,
    fun c mem => List.mem_takeWhile_imp mem,
    fun c mem => List.mem_takeWhile_imp (List.mem_reverse.1 mem)⟩
  have right : trim cs ++ ((trimLeft cs).reverse.takeWhile isBlank).reverse = trimLeft cs := by
    rw [trim, trimRight, dropEndWhile, ← List.reverse_append, List.takeWhile_append_dropWhile,
      List.reverse_reverse]
  rw [List.append_assoc, right]
  exact List.takeWhile_append_dropWhile.symm

end Text

namespace Script

open Text Numeral

/-! ### Operands -/

section Operands

variable {x : Char} {cs sign ds : List Char} {n : Int} {v : Value}

/-- A text is a whole number: decimal digits, in front of them a minus sign or none, and blanks
around. -/
inductive Denotes : List Char → Int → Prop
  | intro {before sign ds after : List Char} (first : ∀ c ∈ before, isBlank c = true)
    (last : ∀ c ∈ after, isBlank c = true) (one : sign = [] ∨ sign = ['-']) (some : ds ≠ [])
    (digits : ∀ c ∈ ds, isDecimal c = true) :
    Denotes (before ++ (sign ++ ds) ++ after) (signed (sign = ['-']) (digitsValue 0 ds))

/-- Where a text is a whole number, it has no more digits than the limit. -/
def FewDigits (cs : List Char) : Prop :=
  ∀ sign ds, trim cs = sign ++ ds → (sign = [] ∨ sign = ['-']) → (∀ c ∈ ds, isDecimal c = true) →
    ds.length ≤ digitLimit

theorem fewDigits_of_length_le (short : (trim cs).length ≤ digitLimit) : FewDigits cs := by
  intro sign ds same _ _
  rw [same, List.length_append] at short
  omega

theorem exists_dropMinus (cs : List Char) :
    ∃ sign, (sign = [] ∨ sign = ['-']) ∧ cs = sign ++ dropMinus cs := by
  unfold dropMinus
  split
  · exact ⟨['-'], .inr rfl, rfl⟩
  · exact ⟨[], .inl rfl, rfl⟩

theorem dropMinus_signed_digits (one : sign = [] ∨ sign = ['-'])
    (digits : ∀ c ∈ ds, isDecimal c = true) : dropMinus (sign ++ ds) = ds := by
  obtain rfl | rfl := one
  · rw [List.nil_append, dropMinus]
    rintro cs rfl
    exact absurd (digits '-' List.mem_cons_self) (by decide)
  · rfl

/-- Digits with a minus sign or none are a number without a point. -/
theorem isNumeral_digits (one : sign = [] ∨ sign = ['-']) (some : ds ≠ [])
    (digits : ∀ c ∈ ds, isDecimal c = true) :
    isNumeral (sign ++ ds) = true ∧ '.' ∉ sign ++ ds := by
  constructor
  · rw [isNumeral, dropMinus_signed_digits one digits, takeWhile_of_forall digits,
      List.dropWhile_eq_nil_iff.2 digits]
    simpa using some
  · rw [List.mem_append, not_or]
    refine ⟨?_, fun mem => absurd (digits '.' mem) (by decide)⟩
    obtain rfl | rfl := one <;> decide

/-- A number without a point is digits with a minus sign or none. -/
theorem exists_digits_of_isNumeral (numeral : isNumeral cs = true) (whole : '.' ∉ cs) :
    ∃ sign ds, cs = sign ++ ds ∧ (sign = [] ∨ sign = ['-']) ∧ ds ≠ [] ∧
      ∀ c ∈ ds, isDecimal c = true := by
  obtain ⟨sign, one, split⟩ := exists_dropMinus cs
  have none : '.' ∉ dropMinus cs := fun mem => whole (by
    rw [split]
    exact List.mem_append_right sign mem)
  refine ⟨sign, dropMinus cs, split, one, ?_⟩
  have all := List.takeWhile_append_dropWhile (p := isDecimal) (l := dropMinus cs)
  rw [isNumeral] at numeral
  generalize dropMinus cs = body at *
  split at numeral
  · rename_i ended
    rw [ended, List.append_nil] at all
    refine ⟨by simpa [all] using numeral, fun c mem => ?_⟩
    exact List.mem_takeWhile_imp (all.symm ▸ mem)
  · rename_i pointed
    rw [pointed] at all
    exact absurd (all ▸ List.mem_append_right _ List.mem_cons_self) none
  · cases numeral

theorem number_digits (one : sign = [] ∨ sign = ['-']) (some : ds ≠ [])
    (digits : ∀ c ∈ ds, isDecimal c = true) (few : ds.length ≤ digitLimit) :
    number (sign ++ ds) = .ok (.int (signed (sign = ['-']) (digitsValue 0 ds))) := by
  have point : ¬(sign ++ ds).contains '.' = true := by
    rw [List.contains_iff_mem]
    exact (isNumeral_digits one some digits).2
  rw [number, if_neg point, readInt_signed one fun c mem => isDigitLike_of_isDecimal (digits c mem),
    takeWhile_of_forall digits, if_neg (Nat.not_lt.2 few), if_neg (by simpa using some)]
  rfl

/-- Whatever is no number is read as a value that is none. -/
theorem exists_scalar_of_not_isNumeral (other : isNumeral cs = false) :
    ∃ v : Value, scalar (String.ofList cs) = .ok v ∧ v.IsScalar ∧ v.kind ≠ .number := by
  rw [scalar]
  split
  · exact ⟨_, rfl, .bool true, show Kind.boolean ≠ .number by decide⟩
  · split
    · exact ⟨_, rfl, .bool false, show Kind.boolean ≠ .number by decide⟩
    · split
      · exact ⟨_, rfl, .null, show Kind.undefined ≠ .number by decide⟩
      · rw [String.toList_ofList, other, if_neg Bool.false_ne_true]
        exact ⟨_, rfl, .text _, show Kind.string ≠ .number by decide⟩

theorem operand_of_denotes (few : FewDigits cs) (denotes : Denotes cs n) :
    operand cs = .ok (.int n) := by
  obtain @⟨before, sign, ds, after, first, last, one, some, digits⟩ := denotes
  have solid (c : Char) (mem : c ∈ sign ++ ds) : isBlank c = false := by
    obtain mem | mem := List.mem_append.1 mem
    · obtain rfl | rfl := one
      · cases mem
      · rw [List.mem_singleton.1 mem]
        decide
    · exact isBlank_of_isDigitLike (isDigitLike_of_isDecimal (digits c mem))
  have inside : trim (before ++ (sign ++ ds) ++ after) = sign ++ ds := trim_between first last solid
  rw [operand, inside, scalar_of_isNumeral (isNumeral_digits one some digits).1]
  exact number_digits one some digits (few sign ds inside one digits)

/-- **What an operand is read as**, unless it has too many digits: a number where it is written as
one, and a whole number where there is no point in that. -/
theorem exists_operand (few : FewDigits cs) :
    ∃ v : Value, operand cs = .ok v ∧ v.IsScalar ∧
      (v.kind = .number ↔ isNumeral (trim cs) = true) ∧ ∀ n, v = .int n ↔ Denotes cs n := by
  -- A text that is a whole number is read as that, whatever else is known of it.
  have whole {v : Value} (read : operand cs = .ok v) (n : Int) (denotes : Denotes cs n) :
      v = .int n := Except.ok.inj (read.symm.trans (operand_of_denotes few denotes))
  cases numeral : isNumeral (trim cs) with
  | false =>
    obtain ⟨v, read, scalar, other⟩ := exists_scalar_of_not_isNumeral numeral
    refine ⟨v, read, scalar, iff_of_false other Bool.false_ne_true, fun n => ⟨?_, whole read n⟩⟩
    rintro rfl
    exact absurd rfl other
  | true =>
    have read : operand cs = number (trim cs) := scalar_of_isNumeral numeral
    by_cases point : '.' ∈ trim cs
    · rw [number, if_pos (List.contains_iff_mem.2 point)] at read
      refine ⟨_, read, .float _, iff_of_true rfl rfl, fun n => ⟨fun same => ?_, whole read n⟩⟩
      cases same
    · obtain ⟨sign, ds, same, one, some, digits⟩ := exists_digits_of_isNumeral numeral point
      rw [same, number_digits one some digits (few sign ds same one digits)] at read
      refine ⟨_, read, .int _, iff_of_true rfl rfl, fun n => ⟨?_, whole read n⟩⟩
      rintro ⟨rfl⟩
      obtain ⟨before, after, spelled, first, last⟩ := exists_trim cs
      rw [spelled, same]
      exact .intro first last one some digits

end Operands

/-! ### Comparisons of values -/

namespace Comparison

variable {c : Comparison} {v w : Value}

/-- The comparisons by order. -/
def orders : List Comparison := [.atLeast, .atMost, .greater, .less]

/-- The comparison by order that says the same with its sides exchanged. -/
def flip : Comparison → Comparison
  | .atLeast => .atMost
  | .atMost => .atLeast
  | .greater => .less
  | .less => .greater
  | c => c

/-- What a comparison says of two whole numbers. -/
def between (c : Comparison) (m n : Int) : Bool :=
  match c with
  | .equal => m = n
  | .notEqual => m ≠ n
  | .atLeast => n ≤ m
  | .atMost => m ≤ n
  | .greater => n < m
  | .less => m < n

theorem holds?_of_mem_orders (order : c ∈ orders) (v w : Value) :
    c.holds? v w = if v.kind = .number ∧ w.kind = .number
      then some (c.holdsOf (v.compareNumbers? w)) else none := by
  cases c with
  | equal | notEqual => exact absurd order (by decide)
  | _ => rfl

theorem holdsOf_flip (c : Comparison) (o : Option Ordering) :
    c.flip.holdsOf (o.map Ordering.swap) = c.holdsOf o := by
  cases o with
  | none => cases c <;> rfl
  | some o => cases c <;> cases o <;> rfl

theorem flip_mem_orders (order : c ∈ orders) : c.flip ∈ orders := by
  have all : ∀ c ∈ orders, c.flip ∈ orders := by decide
  exact all c order

/-- Exchanging the sides turns a comparison by order into the opposite one. -/
theorem holds?_flip (order : c ∈ orders) (v w : Value) : c.flip.holds? w v = c.holds? v w := by
  rw [holds?_of_mem_orders order, holds?_of_mem_orders (flip_mem_orders order),
    ← Value.map_swap_compareNumbers? v w, holdsOf_flip]
  exact if_congr and_comm rfl rfl

theorem holdsOf_compare (c : Comparison) (m n : Int) :
    c.holdsOf (some (compare m n)) = c.between m n := by
  rw [Bool.eq_iff_iff]
  cases c <;> simp [holdsOf, between, Int.compare_eq_lt, Int.compare_eq_gt] <;>
    omega

/-- Comparisons of whole numbers say what they say of the numbers. -/
theorem holds?_int (c : Comparison) (m n : Int) :
    c.holds? (.int m) (.int n) = some (c.between m n) := by
  have same : (Value.int m).equal (.int n) = decide (m = n) := by
    rw [Bool.eq_iff_iff, Value.equal_iff_compareNumbers? (.int m) (.int n) rfl,
      Value.compareNumbers?_int, Option.some_inj, Int.compare_eq_eq, decide_eq_true_iff]
  cases c with
  | equal => exact congrArg some same
  | notEqual =>
    rw [holds?, same, between, decide_not]
  | _ =>
    rw [holds?_of_mem_orders (by decide), if_pos ⟨rfl, rfl⟩, Value.compareNumbers?_int,
      holdsOf_compare]

theorem between_atLeast (m n : Int) : atLeast.between m n = !less.between m n := by
  simp only [between, ← decide_not, Int.not_lt]

theorem between_atMost (m n : Int) : atMost.between m n = !greater.between m n := by
  simp only [between, ← decide_not, Int.not_lt]

/-- One whole number is less than another, equal to it or greater than it, and only one of these. -/
theorem existsUnique_between (m n : Int) :
    ∃! c, c ∈ [Comparison.less, .equal, .greater] ∧ c.between m n = true := by
  obtain less | rfl | greater := Int.lt_trichotomy m n
  · exact ⟨.less, ⟨by decide, decide_eq_true less⟩, by grind [between]⟩
  · exact ⟨.equal, ⟨by decide, decide_eq_true rfl⟩, by grind [between]⟩
  · exact ⟨.greater, ⟨by decide, decide_eq_true greater⟩, by grind [between]⟩

end Comparison

variable {x : Char} {p l r cs before after : List Char}

/-! ### Cutting -/

/-- A text is cut at a pattern where the first character of the pattern is first found. -/
theorem cut?_append (absent : x ∉ l) (p r : List Char) :
    cut? (x :: p) (l ++ x :: p ++ r) = some (l, r) := by
  induction l with
  | nil =>
    have here : (x :: p).isPrefixOf (x :: (p ++ r)) = true :=
      List.isPrefixOf_iff_prefix.2 ⟨r, rfl⟩
    rw [List.nil_append, List.cons_append, cut?, if_pos here]
    simp
  | cons c l ih =>
    obtain ⟨other, absent⟩ := not_or.1 (mt List.mem_cons.2 absent)
    have elsewhere : ¬(x :: p).isPrefixOf (c :: (l ++ x :: p ++ r)) = true := by
      rw [List.isPrefixOf_iff_prefix, List.cons_prefix_cons]
      exact fun same => other same.1
    rw [List.cons_append, List.cons_append, cut?, if_neg elsewhere, ih absent]
    rfl

/-- The two parts of a text that is cut, with the pattern between them, are the text. -/
theorem eq_append_of_cut? (cut : cut? p cs = some (before, after)) : cs = before ++ p ++ after := by
  induction cs generalizing before with
  | nil => cases cut
  | cons c cs ih =>
    rw [cut?] at cut
    split at cut
    · rename_i here
      obtain ⟨rest, same⟩ := List.isPrefixOf_iff_prefix.1 here
      obtain ⟨rfl, rfl⟩ := Prod.mk.inj (Option.some.inj cut)
      rw [← same, List.drop_left, List.nil_append]
    · obtain ⟨⟨before', after'⟩, found, same⟩ := Option.map_eq_some_iff.1 cut
      obtain ⟨rfl, rfl⟩ := Prod.mk.inj same
      rw [ih found]
      rfl

/-- A text is not cut at a pattern that has more of some character. -/
theorem cut?_eq_none_of_count_lt (fewer : cs.count x < p.count x) : cut? p cs = none := by
  cases cut : cut? p cs with
  | none => rfl
  | some parts =>
    rw [eq_append_of_cut? cut, List.count_append, List.count_append] at fewer
    omega

/-! ### Operators -/

/-- The characters of operators. -/
def marks : List Char := ['=', '!', '<', '>']

/-- A text that may stand beside an operator: none of the characters of operators is in it. -/
def Unmarked (cs : List Char) : Prop := ∀ x ∈ marks, x ∉ cs

instance : DecidablePred Unmarked := fun cs => List.decidableBAll (· ∉ cs) marks

/-- Of the operators that are tried before another one, each has more of some character. -/
theorem exists_all_eq (c : Comparison) : ∃ before after, Comparison.all = before ++ c :: after ∧
    ∀ c' ∈ before, marks.any fun x => c.operator.count x < c'.operator.count x := by
  cases c with
  | equal => exact ⟨[], _, rfl, by decide⟩
  | notEqual => exact ⟨[.equal], _, rfl, by decide⟩
  | atLeast => exact ⟨[.equal, .notEqual], _, rfl, by decide⟩
  | atMost => exact ⟨[.equal, .notEqual, .atLeast], _, rfl, by decide⟩
  | greater => exact ⟨[.equal, .notEqual, .atLeast, .atMost], _, rfl, by decide⟩
  | less => exact ⟨[.equal, .notEqual, .atLeast, .atMost, .greater], _, rfl, by decide⟩

theorem exists_operator_eq (c : Comparison) : ∃ x p, c.operator = x :: p ∧ x ∈ marks := by
  cases c <;> exact ⟨_, _, rfl, by decide⟩

theorem comparison?_eq (c : Comparison) (left : Unmarked l) (right : Unmarked r) :
    comparison? (l ++ c.operator ++ r) = some (c, l, r) := by
  have count (x : Char) (mark : x ∈ marks) :
      (l ++ c.operator ++ r).count x = c.operator.count x := by
    rw [List.count_append, List.count_append, List.count_eq_zero_of_not_mem (left x mark),
      List.count_eq_zero_of_not_mem (right x mark), Nat.zero_add, Nat.add_zero]
  obtain ⟨before, after, all, longer⟩ := exists_all_eq c
  have earlier : before.findSome? (fun c' => (cut? c'.operator (l ++ c.operator ++ r)).map
      fun p => (c', p)) = none := by
    refine List.findSome?_eq_none_iff.2 fun c' mem => ?_
    obtain ⟨x, mark, fewer⟩ := List.any_eq_true.1 (longer c' mem)
    rw [cut?_eq_none_of_count_lt ((count x mark).trans_lt (of_decide_eq_true fewer))]
    rfl
  obtain ⟨x, p, written, mark⟩ := exists_operator_eq c
  have here : cut? c.operator (l ++ c.operator ++ r) = some (l, r) := by
    rw [written]
    exact cut?_append (left x mark) p r
  rw [comparison?, all, List.findSome?_append, earlier, Option.none_or, List.findSome?_cons, here]
  rfl

/-- What comes of a comparison of two texts. -/
def compared (c : Comparison) (l r : List Char) : Except Numeral.IntError (Option Bool) :=
  condition (l ++ c.operator ++ r)

theorem compared_eq (c : Comparison) (left : Unmarked l) (right : Unmarked r) {v w : Value}
    (first : operand l = .ok v) (second : operand r = .ok w) :
    compared c l r = .ok (c.holds? v w) := by
  rw [compared, condition, comparison?_eq c left right]
  simp only [first, second]
  rfl

/-- A text that reads as a number. -/
def ReadsNumber (cs : List Char) : Prop := ∃ v : Value, operand cs = .ok v ∧ v.kind = .number

/-- What the comparisons of two texts are that read as whole numbers. -/
structure Ordered (l r : List Char) (m n : Int) : Prop where
  valued (c : Comparison) : compared c l r = .ok (some (c.between m n))
  exclusive : ∃! c, c ∈ [Comparison.less, .equal, .greater] ∧ compared c l r = .ok (some true)
  atLeast : compared .atLeast l r = (compared .less l r).map (Option.map (!·))
  atMost : compared .atMost l r = (compared .greater l r).map (Option.map (!·))

theorem Ordered.of_valued {m n : Int}
    (valued : ∀ c, compared c l r = .ok (some (c.between m n))) : Ordered l r m n where
  valued := valued
  exclusive := by
    simp only [valued, Except.ok.injEq, Option.some.injEq]
    exact Comparison.existsUnique_between m n
  atLeast := by
    rw [valued, valued, Comparison.between_atLeast]
    rfl
  atMost := by
    rw [valued, valued, Comparison.between_atMost]
    rfl

/-- How the comparisons of two texts agree. -/
structure Coherent (l r : List Char) : Prop where
  opposite : ∃ b, compared .equal l r = .ok (some b) ∧ compared .notEqual l r = .ok (some (!b))
  ordered : ReadsNumber l → ReadsNumber r →
    ∀ c ∈ Comparison.orders, ∃ b, compared c l r = .ok (some b)
  unordered : ¬(ReadsNumber l ∧ ReadsNumber r) → ∀ c ∈ Comparison.orders, compared c l r = .ok none
  exchanged : ∀ c ∈ Comparison.orders, compared c.flip r l = compared c l r
  whole (m n : Int) : operand l = .ok (.int m) → operand r = .ok (.int n) → Ordered l r m n
  /-- Whole numbers are written as decimal digits, whatever zeros, signs and blanks there are. -/
  left (m : Int) : operand l = .ok (.int m) ↔ Denotes l m
  right (n : Int) : operand r = .ok (.int n) ↔ Denotes r n

/-- **The comparisons agree with one another** on all texts that may stand beside an operator, and
with the order of whole numbers where these are compared. -/
theorem comparisons_coherent (left : Unmarked l) (right : Unmarked r) (few : FewDigits l)
    (few' : FewDigits r) : Coherent l r := by
  obtain ⟨v, first, -, -, whole⟩ := exists_operand few
  obtain ⟨w, second, -, -, whole'⟩ := exists_operand few'
  have outcome (c : Comparison) : compared c l r = .ok (c.holds? v w) :=
    compared_eq c left right first second
  have number : ReadsNumber l ↔ v.kind = .number := by simp [ReadsNumber, first]
  have number' : ReadsNumber r ↔ w.kind = .number := by simp [ReadsNumber, second]
  have same {v' w' : Value} (read : operand l = .ok v') (read' : operand r = .ok w') :
      v = v' ∧ w = w' :=
    ⟨Except.ok.inj (first.symm.trans read), Except.ok.inj (second.symm.trans read')⟩
  constructor
  case opposite => exact ⟨v.equal w, outcome .equal, outcome .notEqual⟩
  case ordered =>
    intro numeric numeric' c order
    rw [outcome, Comparison.holds?_of_mem_orders order,
      if_pos ⟨number.1 numeric, number'.1 numeric'⟩]
    exact ⟨_, rfl⟩
  case unordered =>
    intro other c order
    rw [number, number'] at other
    rw [outcome, Comparison.holds?_of_mem_orders order, if_neg other]
  case exchanged =>
    intro c order
    rw [outcome, compared_eq c.flip right left second first, Comparison.holds?_flip order]
  case whole =>
    intro m n read read'
    obtain ⟨rfl, rfl⟩ := same read read'
    exact .of_valued fun c => (outcome c).trans (congrArg _ (Comparison.holds?_int c m n))
  case left => simpa [first] using whole
  case right => simpa [second] using whole'

/-- Zeros and blanks in front make no difference. -/
theorem comparisons_coherent_padded : Unmarked " 007".toList ∧ Unmarked "-3 ".toList ∧
    FewDigits " 007".toList ∧ FewDigits "-3 ".toList ∧ Coherent " 007".toList "-3 ".toList := by
  have left : Unmarked " 007".toList := by decide
  have right : Unmarked "-3 ".toList := by decide
  have few : FewDigits " 007".toList := fewDigits_of_length_le (by decide)
  have few' : FewDigits "-3 ".toList := fewDigits_of_length_le (by decide)
  exact ⟨left, right, few, few', comparisons_coherent left right few few'⟩

/-- **Two texts of different kinds are equal** where one of them reads as a truth value and the
other one as the number that this counts as, and only there. -/
theorem equality_across_kinds (left : Unmarked l) (right : Unmarked r) (few : FewDigits l)
    (few' : FewDigits r) : ∃ v w : Value, operand l = .ok v ∧ operand r = .ok w ∧
      (compared .equal l r = .ok (some true) ∧ v.kind ≠ w.kind ↔
        v.CountsAs w ∨ w.CountsAs v) := by
  obtain ⟨v, first, scalar, -, -⟩ := exists_operand few
  obtain ⟨w, second, scalar', -, -⟩ := exists_operand few'
  refine ⟨v, w, first, second, ?_⟩
  rw [compared_eq .equal left right first second, Comparison.holds?, Except.ok.injEq,
    Option.some.injEq]
  exact Value.equal_across_kinds_iff scalar scalar'

/-- A truth value beside a number. -/
theorem equality_across_kinds_true_one : Unmarked "true".toList ∧ Unmarked "1".toList ∧
    FewDigits "true".toList ∧ FewDigits "1".toList ∧
    ∃ v w : Value, operand "true".toList = .ok v ∧ operand "1".toList = .ok w ∧
      (compared .equal "true".toList "1".toList = .ok (some true) ∧ v.kind ≠ w.kind ↔
        v.CountsAs w ∨ w.CountsAs v) := by
  have left : Unmarked "true".toList := by decide
  have right : Unmarked "1".toList := by decide
  have few : FewDigits "true".toList := fewDigits_of_length_le (by decide)
  have few' : FewDigits "1".toList := fewDigits_of_length_le (by decide)
  exact ⟨left, right, few, few', equality_across_kinds left right few few'⟩

/-- Equality does not keep to one kind. -/
theorem not_equality_within_kinds : ¬∀ l r : List Char, Unmarked l → Unmarked r → FewDigits l →
    FewDigits r → ∀ v w : Value, operand l = .ok v → operand r = .ok w →
      compared .equal l r = .ok (some true) → v.kind = w.kind := by
  intro always
  have left : Unmarked "true".toList := by decide
  have right : Unmarked "1".toList := by decide
  have equal : compared .equal "true".toList "1".toList = .ok (some true) := by
    rw [compared_eq .equal left right (v := .bool true) (w := .int 1) rfl rfl]
    decide +kernel
  have same := always _ _ left right (fewDigits_of_length_le (by decide))
    (fewDigits_of_length_le (by decide)) (.bool true) (.int 1) rfl rfl equal
  cases same

end Script

end CommandScript
