import Mathlib.Data.List.Nodup
import Mathlib.Data.List.Pairwise
import Mathlib.Data.List.Perm.Subperm
import CommandScript.Proofs.Dispatch.Returns
import CommandScript.Proofs.Payload
import CommandScript.Proofs.Printed
import CommandScript.Proofs.Value.Comparison
import CommandScript.Proofs.Value.Literal
import CommandScript.World

/-!
# Printed sets

The items of a set come in no order of their own, and a set is printed as the list of its items in
the order of their plain texts. Items with one plain text stay in the order in which they come. Two
different ones are a text and the value that it spells, as the number one and its digit; a set that
holds both is printed in two ways, and every other one in one way.

## Main definitions

- `CommandScript.Value.inPlainOrder` — the order in which the items of a set are printed
- `CommandScript.Value.IsSimple`, `IsSimpleSet` — null, truth values, whole numbers and texts, and
  sets of them
- `CommandScript.Value.HoldsNamesake` — a text is among the items, and so is the value that it
  spells
- `CommandScript.Value.ofPlain` — a simple value, read again from its plain text

## Main results

- `CommandScript.Value.printed_set` — a set is printed as a sorted list
- `CommandScript.Value.IsSimpleSet.printed_perm_iff` — which sets are printed in one way
- `CommandScript.Value.IsSimpleSet.printed_eq_iff` — which equal sets are printed alike
- `CommandScript.Value.sets_printed_alike` — both, and the text that a call stands for
- `CommandScript.Value.not_always_alike` — the number one and its digit
-/

namespace CommandScript

open Evaluation

namespace Value

variable {x y : Value} {xs ys : List Value}

/-! ### The order of plain texts -/

/-- Only a value with an overlong number in it has no plain text. -/
theorem plain?_eq_none_iff : x.plain? = none ↔ x.Overlong := by
  rw [← literal?_eq_none_iff]
  cases x <;> simp [plain?, literal?]

theorem plain?_of_spelled (spelled : ¬x.Overlong) : x.plain? = some x.plain := by
  rw [← plain?_eq_none_iff] at spelled
  obtain ⟨text, plain⟩ := Option.ne_none_iff_exists'.1 spelled
  rw [Value.plain, plain, Option.getD_some]

/-- Whether a value comes before another one or beside it, in the order of their plain texts. -/
def inPlainOrder (x y : Value) : Bool := !(y.plain < x.plain)

theorem inPlainOrder_iff : x.inPlainOrder y = true ↔ x.plain ≤ y.plain := by
  rw [inPlainOrder, Bool.not_eq_true', decide_eq_false_iff_not, String.not_lt]

theorem inPlainOrder_trans (x y z : Value) (first : x.inPlainOrder y = true)
    (second : y.inPlainOrder z = true) : x.inPlainOrder z = true :=
  inPlainOrder_iff.2 (String.le_trans (inPlainOrder_iff.1 first) (inPlainOrder_iff.1 second))

theorem inPlainOrder_total (x y : Value) : (x.inPlainOrder y || y.inPlainOrder x) = true := by
  rw [Bool.or_eq_true, inPlainOrder_iff, inPlainOrder_iff]
  exact String.le_total _ _

theorem withPlain_of_forall (spelled : ∀ x ∈ xs, ¬x.Overlong) :
    withPlain xs = .ok (xs.map fun x => (x.plain, x)) := by
  induction xs with
  | nil => rfl
  | cons x xs ih =>
    obtain ⟨first, rest⟩ := List.forall_mem_cons.1 spelled
    rw [withPlain, plainText, plain?_of_spelled first, ih rest]
    rfl

theorem withPlain_of_overlong (mem : x ∈ xs) (overlong : x.Overlong) :
    withPlain xs = .error .unwritable := by
  induction xs with
  | nil => cases mem
  | cons y ys ih =>
    rw [withPlain, plainText]
    cases plain : y.plain? with
    | none => rfl
    | some text =>
      obtain rfl | mem := List.mem_cons.1 mem
      · cases plain.symm.trans (plain?_eq_none_iff.2 overlong)
      · rw [ih mem]
        rfl

/-- **A set is printed** as the list of its items in the order of their plain texts. -/
theorem printed_set (spelled : ∀ x ∈ xs, ¬x.Overlong) :
    printed (.set xs) = printed (.list (xs.mergeSort inPlainOrder)) := by
  have pairs : (xs.mergeSort inPlainOrder).map (fun x => (x.plain, x)) =
      (xs.map fun x => (x.plain, x)).mergeSort fun p q => !(q.1 < p.1) :=
    List.map_mergeSort fun _ _ _ _ => rfl
  have sorted : sortedByPlain xs = .ok (xs.mergeSort inPlainOrder) := by
    rw [sortedByPlain, withPlain_of_forall spelled, Except.map, ← pairs, List.map_map]
    exact congrArg Except.ok (List.map_id _)
  conv_lhs => rw [printed, sorted]
  rfl

/-- A set with an overlong number in it is not printed, wherever the number stands. -/
theorem printed_set_of_overlong (mem : x ∈ xs) (overlong : x.Overlong) :
    printed (.set xs) = .error (.conversion .unwritable) := by
  rw [printed, sortedByPlain, withPlain_of_overlong mem overlong]
  rfl

/-- Items that are told apart by their plain texts have one order. -/
theorem mergeSort_eq_of_perm (apart : ∀ x ∈ xs, ∀ y ∈ xs, x.plain = y.plain → x = y)
    (perm : ys.Perm xs) : ys.mergeSort inPlainOrder = xs.mergeSort inPlainOrder := by
  have same := (List.mergeSort_perm ys inPlainOrder).trans
    (perm.trans (List.mergeSort_perm xs inPlainOrder).symm)
  refine List.Perm.eq_of_pairwise (fun x y mem mem' before after => ?_)
    (List.pairwise_mergeSort inPlainOrder_trans inPlainOrder_total ys)
    (List.pairwise_mergeSort inPlainOrder_trans inPlainOrder_total xs) same
  refine apart x (perm.mem_iff.1 (List.mem_mergeSort.1 mem)) y (List.mem_mergeSort.1 mem') ?_
  exact String.le_antisymm (inPlainOrder_iff.1 before) (inPlainOrder_iff.1 after)

/-- In a list without repetitions two items come in one order only. -/
theorem not_sublist_exchanged (nodup : xs.Nodup) (other : x ≠ y) (before : [x, y].Sublist xs) :
    ¬[y, x].Sublist xs := by
  induction xs with
  | nil => cases before
  | cons z zs ih =>
    obtain ⟨fresh, nodup⟩ := List.nodup_cons.1 nodup
    intro after
    cases before with
    | cons _ before =>
      cases after with
      | cons _ after => exact ih nodup before after
      | cons_cons _ after => exact fresh (before.subset (by simp))
    | cons_cons _ before =>
      cases after with
      | cons _ after => exact fresh (after.subset (by simp))
      | cons_cons _ after => exact other rfl

/-- Of items with one plain text the one that comes first stays the first. -/
theorem mergeSort_exchanged_ne (nodup : (x :: y :: xs).Nodup) (tied : x.plain = y.plain) :
    (x :: y :: xs).mergeSort inPlainOrder ≠ (y :: x :: xs).mergeSort inPlainOrder := by
  intro same
  have other : x ≠ y := by simp_all
  -- The sort is stable: a pair that stands in order is a sublist of what comes out.
  have first : [x, y].Sublist ((x :: y :: xs).mergeSort inPlainOrder) :=
    List.pair_sublist_mergeSort inPlainOrder_trans inPlainOrder_total
      (inPlainOrder_iff.2 (tied ▸ String.le_refl _)) (by simp)
  have second : [y, x].Sublist ((y :: x :: xs).mergeSort inPlainOrder) :=
    List.pair_sublist_mergeSort inPlainOrder_trans inPlainOrder_total
      (inPlainOrder_iff.2 (tied ▸ String.le_refl _)) (by simp)
  exact not_sublist_exchanged (List.nodup_mergeSort.2 nodup) other first (same ▸ second)

/-! ### Sets of simple values -/

/-- Null, truth values, whole numbers and texts. -/
inductive IsSimple : Value → Prop
  | null : IsSimple .null
  | bool (b : Bool) : IsSimple (.bool b)
  | int (n : Int) : IsSimple (.int n)
  | text (s : String) : IsSimple (.text s)

/-- A simple value that is spelled out can be stored as a document. -/
theorem IsSimple.document (simple : x.IsSimple) (spelled : ¬x.Overlong) : x.Document := by
  cases simple with
  | null => exact .null
  | bool b => exact .bool b
  | int n =>
    rw [overlong_int_iff, Bool.not_eq_true] at spelled
    exact .int spelled
  | text s => exact .text s

theorem IsSimple.isScalar (simple : x.IsSimple) : x.IsScalar := by
  cases simple with
  | null => exact .null
  | bool b => exact .bool b
  | int n => exact .int n
  | text s => exact .text s

theorem IsSimple.equal_self (simple : x.IsSimple) : x.equal x = true := by
  cases simple with
  | null => simp [equal, equalAtoms]
  | bool b => exact (equal_bool_iff (.bool b) b).2 ((bool_equal_iff (.int _) rfl b).2 (equal_int _))
  | int n => exact equal_int n
  | text s => exact (sameKey_text s s).trans (beq_self_eq_true s)

/-- Simple values of one kind are equal only if they are the same. -/
theorem IsSimple.eq_of_equal (simple : x.IsSimple) (simple' : y.IsSimple) (same : x.equal y = true)
    (kind : x.kind = y.kind) : x = y := by
  cases simple with
  | null =>
    cases simple' with
    | null => rfl
    | _ => cases kind
  | bool b =>
    cases simple' with
    | bool c =>
      rw [equal_iff_compareNumbers? (.bool b) (.bool c) rfl] at same
      have compared : compare (if b then 1 else 0 : Int) (if c then 1 else 0) = .eq :=
        (Binary64.compare_placeOfInt _ _).symm.trans (Option.some.inj same)
      have same : b = c := by
        revert compared
        cases b <;> cases c <;> decide
      rw [same]
    | _ => cases kind
  | int m =>
    cases simple' with
    | int n =>
      rw [equal_iff_compareNumbers? (.int m) (.int n) rfl, compareNumbers?_int] at same
      rw [Std.LawfulEqOrd.eq_of_compare (Option.some.inj same)]
    | _ => cases kind
  | text s =>
    cases simple' with
    | text t =>
      have same : (s == t) = true := (sameKey_text s t).symm.trans same
      rw [eq_of_beq same]
    | _ => cases kind

theorem IsSimple.equal_symm (simple : x.IsSimple) (simple' : y.IsSimple) (same : x.equal y = true) :
    y.equal x = true := by
  by_cases kind : x.kind = y.kind
  · rw [simple.eq_of_equal simple' same kind]
    exact simple'.equal_self
  · obtain ⟨numeric, numeric'⟩ := isNumeric_of_equal simple.isScalar simple'.isScalar same kind
    rw [equal_iff_compareNumbers? simple'.isScalar simple.isScalar numeric]
    rw [equal_iff_compareNumbers? simple.isScalar simple'.isScalar numeric'] at same
    exact compareNumbers?_eq_comm.1 same

/-! ### Namesakes -/

theorem plain?_int {n : Int} (within : Numeral.exceedsLimit n = false) :
    (Value.int n).plain? = some (Numeral.intTextUnlimited n) := by
  show Numeral.intText? n = _
  rw [Numeral.intText?, within]
  rfl

/-- A whole number is read again from its plain text. -/
theorem readInt_plain {n : Int} (spelled : ¬(Value.int n).Overlong) :
    Numeral.readInt (Value.int n).plain.toList = .ok n := by
  rw [overlong_int_iff, Bool.not_eq_true] at spelled
  rw [plain, plain?_int spelled, Option.getD_some, Numeral.intTextUnlimited, String.toList_ofList,
    Numeral.readInt_intChars spelled]

/-- The simple value, other than a text, with a given plain text. -/
def ofPlain (s : String) : Value :=
  if s = "None" then .null
  else if s = "True" then .bool true
  else if s = "False" then .bool false
  else
    match Numeral.readInt s.toList with
    | .ok n => .int n
    | .error _ => .null

/-- The plain text of a simple value other than a text tells which value it is. -/
theorem IsSimple.ofPlain_plain (simple : x.IsSimple) (spelled : ¬x.Overlong)
    (noText : x.kind ≠ .string) : ofPlain x.plain = x := by
  cases simple with
  | null => rfl
  | bool b => cases b <;> rfl
  | int n =>
    have read := readInt_plain spelled
    -- The three words are not read as numbers.
    have other {s : String} (unread : Numeral.readInt s.toList = .error .malformed) :
        (Value.int n).plain ≠ s := by
      rintro rfl
      cases unread.symm.trans read
    rw [ofPlain, if_neg (other (by decide +kernel)), if_neg (other (by decide +kernel)),
      if_neg (other (by decide +kernel)), read]
  | text s => exact absurd rfl noText

/-- A text is among the items, and so is another item that has it as its plain text. -/
def HoldsNamesake (xs : List Value) : Prop :=
  ∃ s, .text s ∈ xs ∧ ∃ x ∈ xs, x.kind ≠ .string ∧ x.plain? = some s

theorem IsSimple.eq_text (simple : x.IsSimple) (kind : x.kind = .string) : x = .text x.plain := by
  cases simple with
  | text s => rfl
  | _ => cases kind

/-- Simple items without namesakes are told apart by their plain texts. -/
theorem eq_of_plain (simple : ∀ x ∈ xs, x.IsSimple) (spelled : ∀ x ∈ xs, ¬x.Overlong)
    (unique : ¬HoldsNamesake xs) (mem : x ∈ xs) (mem' : y ∈ xs) (same : x.plain = y.plain) :
    x = y := by
  have namesake {x y : Value} (mem : x ∈ xs) (mem' : y ∈ xs) (same : x.plain = y.plain)
      (text : x.kind = .string) : y.kind = .string := by
    by_contra noText
    refine unique ⟨x.plain, ?_, y, mem', noText, ?_⟩
    · rw [← (simple x mem).eq_text text]
      exact mem
    · rw [plain?_of_spelled (spelled y mem'), same]
  by_cases text : x.kind = .string
  · rw [(simple x mem).eq_text text, (simple y mem').eq_text (namesake mem mem' same text), same]
  · have noText : y.kind ≠ .string := mt (namesake mem' mem same.symm) text
    rw [← (simple x mem).ofPlain_plain (spelled x mem) text,
      ← (simple y mem').ofPlain_plain (spelled y mem') noText, same]

/-! ### Printing in another order -/

/-- Lists of documents that are printed alike are the same, for they are read again from their
text. -/
theorem eq_of_printed_list (documents : ∀ x ∈ xs, x.Document) (documents' : ∀ y ∈ ys, y.Document)
    (same : printed (.list xs) = printed (.list ys)) : xs = ys := by
  obtain ⟨s, written, reads⟩ := Payload.readObject_printed (.list documents) (.list xs)
  obtain ⟨t, written', reads'⟩ := Payload.readObject_printed (.list documents') (.list ys)
  obtain rfl : s = t := Except.ok.inj (written.symm.trans (same.trans written'))
  exact Value.list.inj (Option.some.inj (Except.ok.inj (reads.symm.trans reads')))

/-- The items of a set of simple values, of which no two are equal. -/
structure IsSimpleSet (xs : List Value) : Prop where
  simple : ∀ x ∈ xs, x.IsSimple
  distinct : xs.Pairwise fun x y => x.equal y = false

theorem IsSimpleSet.nodup (set : IsSimpleSet xs) : xs.Nodup := by
  refine set.distinct.imp_of_mem fun {x y} mem _ differ same => ?_
  rw [← same, (set.simple x mem).equal_self] at differ
  cases differ

theorem IsSimpleSet.eq_of_mem (set : IsSimpleSet xs) (mem : x ∈ xs) (mem' : y ∈ xs)
    (same : x.equal y = true) : x = y := by
  by_contra other
  -- The items are known to differ from the ones after them; equality is symmetric among them.
  have apart : xs.Pairwise fun x y => x.equal y = false ∧ y.equal x = false := by
    refine set.distinct.imp_of_mem fun {x y} mem mem' differ => ⟨differ, ?_⟩
    refine Bool.eq_false_iff.2 fun same => ?_
    cases differ.symm.trans ((set.simple y mem').equal_symm (set.simple x mem) same)
  have symm : Std.Symm fun x y : Value => x.equal y = false ∧ y.equal x = false :=
    ⟨fun _ _ differ => ⟨differ.2, differ.1⟩⟩
  cases same.symm.trans (apart.forall mem mem' other).1

theorem IsSimpleSet.documents (set : IsSimpleSet xs) (spelled : ∀ x ∈ xs, ¬x.Overlong)
    (perm : ys.Perm xs) : ∀ y ∈ ys.mergeSort inPlainOrder, y.Document := by
  intro y mem
  have mem : y ∈ xs := perm.mem_iff.1 (List.mem_mergeSort.1 mem)
  exact (set.simple y mem).document (spelled y mem)

/-- The order of items that are spelled out does not show in the printed set, if none of them has a
namesake. -/
theorem IsSimpleSet.printed_of_perm (set : IsSimpleSet xs) (spelled : ∀ x ∈ xs, ¬x.Overlong)
    (unique : ¬HoldsNamesake xs) (perm : ys.Perm xs) : printed (.set ys) = printed (.set xs) := by
  have spelled' (y : Value) (mem : y ∈ ys) : ¬y.Overlong := spelled y (perm.mem_iff.1 mem)
  rw [printed_set spelled', printed_set spelled]
  rw [mergeSort_eq_of_perm (fun _ mem _ => eq_of_plain set.simple spelled unique mem) perm]

/-- A text and its namesake are printed in the order in which they come. -/
theorem IsSimpleSet.printed_exchanged_ne (set : IsSimpleSet xs)
    (spelled : ∀ x ∈ xs, ¬x.Overlong) (namesake : HoldsNamesake xs) :
    ∃ ys zs, ys.Perm xs ∧ zs.Perm xs ∧ printed (.set ys) ≠ printed (.set zs) := by
  obtain ⟨s, text, x, mem, noText, plain⟩ := namesake
  have other : .text s ≠ x := fun same => noText (same ▸ rfl)
  have pair : [.text s, x].Nodup := by simpa using other
  have both : [.text s, x] ⊆ xs := List.cons_subset.2 ⟨text, by simpa using mem⟩
  obtain ⟨_, order, sublist⟩ := List.subperm_of_subset pair both
  obtain ⟨rest, perm⟩ := sublist.exists_perm_append
  -- The two orders differ in nothing but in which of the two items stands in front.
  have first : (.text s :: x :: rest).Perm xs := (perm.trans (order.append_right rest)).symm
  have second : (x :: .text s :: rest).Perm xs := (List.Perm.swap _ _ rest).trans first
  have tied : (Value.text s).plain = x.plain := by
    rw [Value.plain, Value.plain, plain]
    rfl
  refine ⟨_, _, first, second, fun same => ?_⟩
  have spell {ys : List Value} (perm : ys.Perm xs) (y : Value) (mem : y ∈ ys) : ¬y.Overlong :=
    spelled y (perm.mem_iff.1 mem)
  rw [printed_set (spell first), printed_set (spell second)] at same
  exact mergeSort_exchanged_ne (first.nodup_iff.2 set.nodup) tied
    (eq_of_printed_list (set.documents spelled first) (set.documents spelled second) same)

/-- **Which sets are printed in one way**, in whatever order their items come. -/
theorem IsSimpleSet.printed_perm_iff (set : IsSimpleSet xs) :
    (∀ ys, ys.Perm xs → printed (.set ys) = printed (.set xs)) ↔
      (∃ x ∈ xs, x.Overlong) ∨ ¬HoldsNamesake xs := by
  constructor
  · intro alike
    by_contra fails
    obtain ⟨spelled, namesake⟩ := not_or.1 fails
    have spelled (x : Value) (mem : x ∈ xs) : ¬x.Overlong := fun long => spelled ⟨x, mem, long⟩
    obtain ⟨ys, zs, first, second, differ⟩ :=
      set.printed_exchanged_ne spelled (not_not.1 namesake)
    exact differ ((alike ys first).trans (alike zs second).symm)
  · intro settled ys perm
    by_cases spelled : ∀ x ∈ xs, ¬x.Overlong
    · refine set.printed_of_perm spelled (settled.resolve_left ?_) perm
      rintro ⟨x, mem, long⟩
      exact spelled x mem long
    · push Not at spelled
      obtain ⟨x, mem, long⟩ := spelled
      rw [printed_set_of_overlong mem long, printed_set_of_overlong (perm.mem_iff.2 mem) long]

theorem IsSimpleSet.exists_printed (set : IsSimpleSet xs) (spelled : ∀ x ∈ xs, ¬x.Overlong) :
    ∃ text, printed (.set xs) = .ok text := by
  obtain ⟨text, written, -⟩ :=
    Payload.readObject_printed (.list (set.documents spelled (.refl xs))) (.list _)
  exact ⟨text, (printed_set spelled).trans written⟩

theorem mem_of_containedItems (contained : containedItems xs ys = true) (mem : x ∈ xs) :
    ∃ y ∈ ys, x.equal y = true := by
  induction xs with
  | nil => cases mem
  | cons z zs ih =>
    rw [containedItems, Bool.and_eq_true, List.any_eq_true] at contained
    obtain rfl | mem := List.mem_cons.1 mem
    · exact contained.1
    · exact ih contained.2 mem

/-- Equal sets with equal items of one kind hold the same items. -/
theorem IsSimpleSet.perm_of_equal (set : IsSimpleSet xs) (set' : IsSimpleSet ys)
    (same : (Value.set xs).equal (.set ys) = true)
    (kinds : ∀ x ∈ xs, ∀ y ∈ ys, x.equal y = true → x.kind = y.kind) : ys.Perm xs := by
  rw [equal, Bool.and_eq_true, beq_iff_eq] at same
  obtain ⟨length, contained⟩ := same
  have subset : xs ⊆ ys := fun x mem => by
    obtain ⟨y, mem', same⟩ := mem_of_containedItems contained mem
    rw [(set.simple x mem).eq_of_equal (set'.simple y mem') same (kinds x mem y mem' same)]
    exact mem'
  have within : xs.Subperm ys := List.subperm_of_subset set.nodup subset
  exact (within.perm_of_length_le (Nat.le_of_eq length.symm)).symm

/-- Equal sets are printed alike where equal items are of one kind, and only there. -/
theorem IsSimpleSet.printed_eq_iff (set : IsSimpleSet xs) (set' : IsSimpleSet ys)
    (same : (Value.set xs).equal (.set ys) = true) (spelled : ∀ x ∈ xs, ¬x.Overlong)
    (unique : ¬HoldsNamesake xs) :
    printed (.set ys) = printed (.set xs) ↔
      ∀ x ∈ xs, ∀ y ∈ ys, x.equal y = true → x.kind = y.kind := by
  refine ⟨fun alike x mem y mem' equals => ?_, fun kinds => ?_⟩
  · obtain ⟨text, written⟩ := set.exists_printed spelled
    have spelled' (y : Value) (mem : y ∈ ys) (long : y.Overlong) : False := by
      rw [printed_set_of_overlong mem long, written] at alike
      cases alike
    rw [printed_set spelled', printed_set spelled] at alike
    have sorted := eq_of_printed_list (set'.documents spelled' (.refl ys))
      (set.documents spelled (.refl xs)) alike
    have there : x ∈ ys := by
      rw [← List.mem_mergeSort, sorted, List.mem_mergeSort]
      exact mem
    rw [set'.eq_of_mem there mem' equals]
  · exact set.printed_of_perm spelled unique (set.perm_of_equal set' same kinds)

/-- **Sets are printed alike**, unless a text stands beside the value that it spells. A set of null,
truth values, whole numbers and texts is printed if none of its numbers is overlong. In every order
of its items it is printed in the same way, or fails in the same way, except where it holds a text
together with another item whose plain text this is: the two then come in the printed list as they
come in the set. Of equal sets, those are printed alike whose equal items are of one kind, while
`True`, which is equal to `1`, is printed in its own form. Wherever a call returns a set, it stands
for the printed text. -/
theorem sets_printed_alike (xs : List Value) (set : IsSimpleSet xs) :
    ((∃ text, printed (.set xs) = .ok text) ↔ ∀ x ∈ xs, ¬x.Overlong) ∧
    ((∀ ys, ys.Perm xs → printed (.set ys) = printed (.set xs)) ↔
      (∃ x ∈ xs, x.Overlong) ∨ ¬HoldsNamesake xs) ∧
    (∀ ys, IsSimpleSet ys → (Value.set xs).equal (.set ys) = true → (∀ x ∈ xs, ¬x.Overlong) →
      ¬HoldsNamesake xs →
      (printed (.set ys) = printed (.set xs) ↔
        ∀ x ∈ xs, ∀ y ∈ ys, x.equal y = true → x.kind = y.kind)) ∧
    ∀ (text : String) (σ : Type) (answer : σ → (q : Question) → q.Answer × σ) (s : σ)
      (scope : Scope) (remaining : Nat) (c : Script.Call) (d : Dispatch),
      printed (.set xs) = .ok text → CallReturns answer s scope remaining c d (.set xs) →
      RunsTo answer s (call scope (remaining + 1) c) d text := by
  refine ⟨⟨?_, set.exists_printed⟩, set.printed_perm_iff, ?_, ?_⟩
  · rintro ⟨text, written⟩ x mem long
    rw [printed_set_of_overlong mem long] at written
    cases written
  · exact fun ys set' same spelled unique => set.printed_eq_iff set' same spelled unique
  · exact fun text σ answer s scope remaining c d written returns => returns.run_call written

/-- Texts, and a number between them. -/
def mixedItems : List Value := [.text "0", .int 1, .text "1x"]

/-- The same texts, and a truth value that is equal to the number. -/
def mixedItemsTrue : List Value := [.bool true, .text "1x", .text "0"]

/-- A world with a function that returns the set of the mixed items. -/
def returningMixed : World :=
  { World.empty .null with
    registries := ⟨[⟨.null, [],
      [("mixed", .native "$mixed" (.of (Routine.returning (.set mixedItems))) .null)]⟩]⟩ }

theorem isSimpleSet_mixedItems : IsSimpleSet mixedItems where
  simple := by
    simp only [mixedItems, List.forall_mem_cons, List.not_mem_nil, false_implies, implies_true,
      and_true]
    exact ⟨.text "0", .int 1, .text "1x"⟩
  distinct := by simp [mixedItems, equal, equalAtoms, text?]

theorem isSimpleSet_mixedItemsTrue : IsSimpleSet mixedItemsTrue where
  simple := by
    simp only [mixedItemsTrue, List.forall_mem_cons, List.not_mem_nil, false_implies,
      implies_true, and_true]
    exact ⟨.bool true, .text "1x", .text "0"⟩
  distinct := by simp [mixedItemsTrue, equal, equalAtoms, text?]

theorem plain?_one : (Value.int 1).plain? = some "1" :=
  plain?_int (Numeral.exceedsLimit_eq_false 1 (by decide) (by decide))

theorem spelled_of_plain? {s : String} (plain : x.plain? = some s) : ¬x.Overlong := by
  rw [← plain?_eq_none_iff, plain]
  exact Option.some_ne_none s

theorem not_holdsNamesake_mixedItems : ¬HoldsNamesake mixedItems := by
  rintro ⟨s, text, x, mem, noText, plain⟩
  simp only [mixedItems, List.mem_cons, List.not_mem_nil, or_false] at text mem
  obtain rfl | rfl | rfl := mem
  · exact noText rfl
  · rw [plain?_one] at plain
    cases plain
    simp at text
  · exact noText rfl

/-- The mixed items are printed in one way, and `$mixed[]` stands for their text. With `True` in
place of the number the set is an equal one, and is printed in another way. -/
theorem sets_printed_alike_mixed :
    IsSimpleSet mixedItems ∧ (∀ x ∈ mixedItems, ¬x.Overlong) ∧ ¬HoldsNamesake mixedItems ∧
      (∀ ys, ys.Perm mixedItems → printed (.set ys) = printed (.set mixedItems)) ∧
      IsSimpleSet mixedItemsTrue ∧ (Value.set mixedItems).equal (.set mixedItemsTrue) = true ∧
      printed (.set mixedItemsTrue) ≠ printed (.set mixedItems) ∧
      ∃ text, printed (.set mixedItems) = .ok text ∧
        RunsTo World.answer returningMixed
          (call ⟨0, .usual, .null, false, none, none⟩ 1 ⟨"mixed".toList, [], 0, 1⟩)
          .start text := by
  have spelled : ∀ x ∈ mixedItems, ¬x.Overlong := by
    simp only [mixedItems, List.forall_mem_cons, List.not_mem_nil, false_implies, implies_true,
      and_true]
    exact ⟨spelled_of_plain? rfl, spelled_of_plain? plain?_one, spelled_of_plain? rfl⟩
  have unique := not_holdsNamesake_mixedItems
  obtain ⟨written, order, exchanged, called⟩ := sets_printed_alike mixedItems isSimpleSet_mixedItems
  have same : (Value.set mixedItems).equal (.set mixedItemsTrue) = true := by decide +kernel
  have one : (Value.int 1).equal (.bool true) = true := by decide +kernel
  refine ⟨isSimpleSet_mixedItems, spelled, unique, order.2 (.inr unique),
    isSimpleSet_mixedItemsTrue, same, fun alike => ?_, ?_⟩
  · have kinds := (exchanged _ isSimpleSet_mixedItemsTrue same spelled unique).1 alike
    have kind := kinds (.int 1) (by simp [mixedItems]) (.bool true) (by simp [mixedItemsTrue]) one
    cases kind
  · obtain ⟨text, written⟩ := written.2 spelled
    exact ⟨text, written, called text World World.answer returningMixed
      ⟨0, .usual, .null, false, none, none⟩ 0 ⟨"mixed".toList, [], 0, 1⟩ .start written
      ⟨_, rfl, _, _, rfl, rfl⟩⟩

/-- The number one, and its digit as a text. -/
def digitTwice : List Value := [.int 1, .text "1"]

/-- **A number and its text** are printed in the order in which they come. -/
theorem not_always_alike :
    ¬∀ xs, IsSimpleSet xs → ∀ ys, ys.Perm xs → printed (.set ys) = printed (.set xs) := by
  intro always
  have set : IsSimpleSet digitTwice :=
    ⟨List.forall_mem_cons.2 ⟨.int 1, List.forall_mem_singleton.2 (.text "1")⟩,
      by simp [digitTwice, equal, equalAtoms, text?]⟩
  have spelled : ∀ x ∈ digitTwice, ¬x.Overlong :=
    List.forall_mem_cons.2 ⟨spelled_of_plain? plain?_one,
      List.forall_mem_singleton.2 (spelled_of_plain? rfl)⟩
  obtain ⟨x, mem, long⟩ | unique := set.printed_perm_iff.1 (always _ set)
  · exact spelled x mem long
  · have noText : (Value.int 1).kind ≠ .string := by decide
    exact unique ⟨"1", by simp [digitTwice], .int 1, by simp [digitTwice], noText, plain?_one⟩

end Value

end CommandScript
