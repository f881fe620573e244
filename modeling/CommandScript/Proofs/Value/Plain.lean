import CommandScript.Proofs.Payload
import CommandScript.Proofs.Value.Path

/-!
# Plain data

Null, truth values, numbers and texts, and sequences and mappings of such. What a path finds in
plain data is plain again, unless it comes to an attribute, of which nothing is known; and plain
data can be printed if no whole number in it is past the limit on digits, and only then.

## Main definitions

- `CommandScript.Value.Plain` — plain data
- `CommandScript.Value.FindsAttribute` — a path that comes to an attribute
- `CommandScript.Value.HasLong` — a whole number past the limit is somewhere in a value

## Main results

- `CommandScript.Value.Plain.follow` — what a path finds in plain data
- `CommandScript.Value.Plain.unprinted_iff` — which plain data cannot be printed
-/

namespace CommandScript

namespace Value

variable {v w : Value} {t : Table Value} {key : List Char} {path : List Char}

/-- Null, truth values, numbers and texts, and lists, tuples and mappings with text keys of such. -/
inductive Plain : Value → Prop
  | null : Plain .null
  | bool (b : Bool) : Plain (.bool b)
  | int (n : Int) : Plain (.int n)
  | float (x : Binary64) : Plain (.float x)
  | text (s : String) : Plain (.text s)
  | list {xs : List Value} (items : ∀ x ∈ xs, Plain x) : Plain (.list xs)
  | tuple {xs : List Value} (items : ∀ x ∈ xs, Plain x) : Plain (.tuple xs)
  | map {t : Table Value} (distinct : t.keys.Nodup) (entries : ∀ e ∈ t, Plain e.2) :
    Plain (.ofTable t)

/-! ### Paths in plain data -/

theorem plain_item {xs : List Value} (items : ∀ x ∈ xs, x.Plain) (n : Int) :
    (item xs n).Plain := by
  have read (i : Nat) : ((xs[i]?).getD .null).Plain := by
    cases found : xs[i]? with
    | none => exact .null
    | some x => exact items x (List.mem_of_getElem? found)
  unfold item
  generalize (if n < 0 then n + xs.length else n) = i
  dsimp only
  split
  · exact .null
  · exact read i.toNat

section Following

variable [Attributes]

/-- A step to an attribute that a value has. In null none is looked for. -/
def HasAttribute (v : Value) (key : List Char) : Prop :=
  v ≠ .null ∧ v.entries? = none ∧ (v.sequence? = none ∨ isIndex key = false) ∧
    (Attributes.attribute? v (String.ofList key)).isSome

/-- A path that comes to an attribute. -/
def FindsAttribute (v : Value) (path : List Char) : Prop :=
  ∃ before key after u, steps path = before ++ key :: after ∧ v.followSteps before = .ok u ∧
    u.HasAttribute key

/-- A step from plain data to anything but an attribute leads to plain data. -/
theorem Plain.step (plain : v.Plain) (data : ¬v.HasAttribute key) (stepped : v.step key = .ok w) :
    w.Plain := by
  have found {xs : List Value} (items : ∀ x ∈ xs, x.Plain) (sequence : v.sequence? = some xs)
      (index : isIndex key = true) : w.Plain := by
    rw [step_index sequence index] at stepped
    cases read : Numeral.toInt key (Text.quoted (String.ofList key)) with
    | error e =>
      rw [read] at stepped
      cases stepped
    | ok n =>
      rw [read] at stepped
      cases stepped
      exact plain_item items n
  have named (noMapping : v.entries? = none) (noIndex : v.sequence? = none ∨ isIndex key = false) :
      w.Plain := by
    have nothing : v.step key = .ok .null := by
      by_cases null : v = .null
      · rw [null, step_null]
      · refine step_of_lacks (.property noMapping noIndex (Option.not_isSome_iff_eq_none.1 ?_))
        exact fun there => data ⟨null, noMapping, noIndex, there⟩
    rw [nothing] at stepped
    cases stepped
    exact .null
  cases plain with
  | @map t distinct entries =>
    rw [ofTable, step_entries rfl] at stepped
    cases stepped
    show ((lookupText? (textEntries t) (String.ofList key)).getD .null).Plain
    cases there : lookupText? (textEntries t) (String.ofList key) with
    | none => exact .null
    | some w =>
      obtain ⟨e, found, rfl⟩ := Option.map_eq_some_iff.1 there
      obtain ⟨f, mem, rfl⟩ := List.mem_map.1 (List.mem_of_find?_eq_some found)
      exact entries f mem
  | list items =>
    cases index : isIndex key with
    | true => exact found items rfl index
    | false => exact named rfl (.inr index)
  | tuple items =>
    cases index : isIndex key with
    | true => exact found items rfl index
    | false => exact named rfl (.inr index)
  | _ => exact named rfl (.inl rfl)

theorem Plain.followSteps {keys : List (List Char)} (plain : v.Plain)
    (data : ∀ before key after u, keys = before ++ key :: after → v.followSteps before = .ok u →
      ¬u.HasAttribute key)
    (found : v.followSteps keys = .ok w) : w.Plain := by
  induction keys generalizing v with
  | nil =>
    cases found
    exact plain
  | cons key keys ih =>
    rw [Value.followSteps] at found
    cases stepped : v.step key with
    | error e =>
      rw [stepped] at found
      cases found
    | ok u =>
      rw [stepped] at found
      refine ih (plain.step (data [] key keys v rfl rfl) stepped) ?_ found
      intro before bad after x cut led
      refine data (key :: before) bad after x (congrArg (key :: ·) cut) ?_
      rw [Value.followSteps, stepped]
      exact led

/-- **What a path finds in plain data**, if it comes to no attribute, is plain. -/
theorem Plain.follow (plain : v.Plain) (data : ¬v.FindsAttribute path)
    (found : v.follow path = .ok w) : w.Plain :=
  plain.followSteps (fun before key after u cut led has =>
    data ⟨before, key, after, u, cut, led, has⟩) found

end Following

/-! ### Plain data printed -/

/-- A whole number past the limit on digits is the value, or is somewhere in it. -/
inductive HasLong : Value → Prop
  | int {n : Int} (beyond : Numeral.exceedsLimit n = true) : HasLong (.int n)
  | list {xs : List Value} {x : Value} (mem : x ∈ xs) (long : HasLong x) : HasLong (.list xs)
  | tuple {xs : List Value} {x : Value} (mem : x ∈ xs) (long : HasLong x) : HasLong (.tuple xs)
  | map {es : List (Value × Value)} {e : Value × Value} (mem : e ∈ es) (long : HasLong e.2) :
    HasLong (.map es)

theorem hasLong_int_iff {n : Int} : (Value.int n).HasLong ↔ Numeral.exceedsLimit n = true := by
  constructor
  · rintro (beyond | _)
    exact beyond
  · exact .int

theorem hasLong_list_iff {xs : List Value} : (Value.list xs).HasLong ↔ ∃ x ∈ xs, x.HasLong := by
  constructor
  · rintro (_ | ⟨mem, long⟩)
    exact ⟨_, mem, long⟩
  · rintro ⟨x, mem, long⟩
    exact .list mem long

theorem hasLong_tuple_iff {xs : List Value} : (Value.tuple xs).HasLong ↔ ∃ x ∈ xs, x.HasLong := by
  constructor
  · rintro (_ | _ | ⟨mem, long⟩)
    exact ⟨_, mem, long⟩
  · rintro ⟨x, mem, long⟩
    exact .tuple mem long

theorem hasLong_ofTable_iff : (Value.ofTable t).HasLong ↔ ∃ e ∈ t, e.2.HasLong := by
  show (Value.map (textEntries t)).HasLong ↔ _
  constructor
  · rintro (_ | _ | _ | ⟨mem, long⟩)
    obtain ⟨e, there, rfl⟩ := List.mem_map.1 mem
    exact ⟨e, there, long⟩
  · rintro ⟨e, mem, long⟩
    exact .map (List.mem_map_of_mem mem) long

/-- A value is simplified to one that is written as it is. -/
def Simplifies (v : Value) : Prop :=
  ∃ w, v.simplified = .ok w ∧ ∀ l, Json.write l w = Json.write l v

theorem exists_simplifiedItems {xs : List Value} (items : ∀ x ∈ xs, x.Simplifies) :
    ∃ ys, simplifiedItems xs = .ok ys ∧ ∀ l, Json.writeItems l ys = Json.writeItems l xs := by
  induction xs with
  | nil => exact ⟨[], rfl, fun _ => rfl⟩
  | cons x xs ih =>
    obtain ⟨⟨y, simple, same⟩, rest⟩ := List.forall_mem_cons.1 items
    obtain ⟨ys, others, alike⟩ := ih rest
    refine ⟨y :: ys, ?_, fun l => ?_⟩
    · rw [simplifiedItems, simple, others]
      rfl
    · rw [Json.writeItems, Json.writeItems, same, alike]

theorem exists_simplifiedEntries {s : Table Value} (distinct : (Table.keys (s ++ t)).Nodup)
    (entries : ∀ e ∈ t, e.2.Simplifies) :
    ∃ u, simplifiedEntries (textEntries s) (textEntries t) = .ok (textEntries (s ++ u)) ∧
      ∀ l, Json.writeEntries l (textEntries u) = Json.writeEntries l (textEntries t) := by
  induction t generalizing s with
  | nil => exact ⟨[], by rw [List.append_nil]; rfl, fun _ => rfl⟩
  | cons e rest ih =>
    obtain ⟨k, v⟩ := e
    obtain ⟨⟨w, simple, same⟩, others⟩ := List.forall_mem_cons.1 entries
    have plain : (Value.text k).plainText = .ok k := rfl
    have new := new_of_nodup distinct
    have distinct : (Table.keys ((s ++ [(k, w)]) ++ rest)).Nodup := by
      simpa [Table.keys] using distinct
    obtain ⟨u, simplified, alike⟩ := ih distinct others
    refine ⟨(k, w) :: u, ?_, fun l => ?_⟩
    · show simplifiedEntries (textEntries s) ((.text k, v) :: textEntries rest) = _
      rw [simplifiedEntries, plain]
      dsimp only
      rw [simple]
      dsimp only
      rw [insertEntry_textEntries new, simplified, List.append_assoc]
      rfl
    · show Json.writeEntries l ((.text k, w) :: textEntries u) =
        Json.writeEntries l ((.text k, v) :: textEntries rest)
      rw [Json.writeEntries, Json.writeEntries, same, alike]

/-- Tuples in plain data become lists, which are written alike. -/
theorem Plain.simplifies (plain : v.Plain) : v.Simplifies := by
  induction plain with
  | null => exact ⟨_, rfl, fun _ => rfl⟩
  | bool => exact ⟨_, rfl, fun _ => rfl⟩
  | int => exact ⟨_, rfl, fun _ => rfl⟩
  | float => exact ⟨_, rfl, fun _ => rfl⟩
  | text => exact ⟨_, rfl, fun _ => rfl⟩
  | list _ ih =>
    obtain ⟨ys, simple, alike⟩ := exists_simplifiedItems ih
    refine ⟨.list ys, by rw [Value.simplified, simple]; rfl, fun l => ?_⟩
    rw [Json.write, Json.write, alike]
  | tuple _ ih =>
    obtain ⟨ys, simple, alike⟩ := exists_simplifiedItems ih
    refine ⟨.list ys, by rw [Value.simplified, simple]; rfl, fun l => ?_⟩
    rw [Json.write, Json.write, alike]
  | @map t distinct _ ih =>
    obtain ⟨u, simple, alike⟩ := exists_simplifiedEntries (s := []) distinct ih
    refine ⟨.map (textEntries u), ?_, fun l => ?_⟩
    · show (simplifiedEntries (textEntries []) (textEntries t)).map Value.map = _
      rw [simple]
      rfl
    · show Json.write l (.map (textEntries u)) = Json.write l (.map (textEntries t))
      rw [Json.write, Json.write, alike]

theorem map_eq_error_iff {ε α β : Type} {x : Except ε α} {f : α → β} :
    (∃ e, x.map f = .error e) ↔ ∃ e, x = .error e := by
  cases x <;> simp [Except.map]

theorem writeItems_eq_error_iff {l : Json.Layout} {xs : List Value} :
    (∃ e, Json.writeItems l xs = .error e) ↔ ∃ x ∈ xs, ∃ e, Json.write l x = .error e := by
  induction xs with
  | nil => simp [Json.writeItems]
  | cons x xs ih =>
    rw [Json.writeItems, List.exists_mem_cons_iff, ← ih]
    cases Json.write l x with
    | error e => exact ⟨fun _ => .inl ⟨e, rfl⟩, fun _ => ⟨e, rfl⟩⟩
    | ok cs => simpa using map_eq_error_iff

theorem writeEntries_eq_error_iff {l : Json.Layout} :
    (∃ e, Json.writeEntries l (textEntries t) = .error e) ↔
      ∃ f ∈ t, ∃ e, Json.write l f.2 = .error e := by
  induction t with
  | nil => simp [textEntries, Json.writeEntries]
  | cons f rest ih =>
    show (∃ e, Json.writeEntries l ((.text f.1, f.2) :: textEntries rest) = .error e) ↔ _
    rw [Json.writeEntries, List.exists_mem_cons_iff, ← ih]
    cases Json.write l f.2 with
    | error e => exact ⟨fun _ => .inl ⟨e, rfl⟩, fun _ => ⟨e, rfl⟩⟩
    | ok cs => simpa using map_eq_error_iff

/-- Which plain data has no text in JSON. -/
theorem Plain.unwritten_iff (plain : v.Plain) (l : Json.Layout) :
    (∃ e, Json.write l v = .error e) ↔ v.HasLong := by
  induction plain generalizing l with
  | null | bool | float | text =>
    refine iff_of_false ?_ ?_
    · rintro ⟨e, failed⟩
      cases failed
    · intro long
      cases long
  | int n =>
    rw [Json.write, Json.writeInt, hasLong_int_iff]
    cases Numeral.exceedsLimit n <;> simp
  | list _ ih =>
    rw [Json.write, map_eq_error_iff, writeItems_eq_error_iff, hasLong_list_iff]
    exact exists_congr fun x => and_congr_right fun mem => ih x mem _
  | tuple _ ih =>
    rw [Json.write, map_eq_error_iff, writeItems_eq_error_iff, hasLong_tuple_iff]
    exact exists_congr fun x => and_congr_right fun mem => ih x mem _
  | @map t _ _ ih =>
    rw [hasLong_ofTable_iff]
    show (∃ e, Json.write l (.map (textEntries t)) = .error e) ↔ _
    rw [Json.write, map_eq_error_iff, writeEntries_eq_error_iff]
    exact exists_congr fun e => and_congr_right fun mem => ih e mem _

/-- **Which plain data cannot be printed**: that with a whole number past the limit on digits. -/
theorem Plain.unprinted_iff (plain : v.Plain) : (∃ e, v.printed = .error e) ↔ v.HasLong := by
  have json : (∃ e, v.printedJson = .error e) ↔ v.HasLong := by
    obtain ⟨w, simple, same⟩ := plain.simplifies
    have known : Text.lowered ((some "json").getD "") = "json" := by decide
    rw [← plain.unwritten_iff .compact, ← same, printedJson, Payload.write, simple]
    simp only [known, if_true]
    rw [Payload.writeJson, if_neg Bool.false_ne_true]
    cases Json.write .compact w <;> simp
  cases plain with
  | null | bool | float | text =>
    refine iff_of_false ?_ ?_
    · rintro ⟨e, failed⟩
      cases failed
    · intro long
      cases long
  | int n =>
    have text : (Value.int n).plain? =
        if Numeral.exceedsLimit n then none else some (Numeral.intTextUnlimited n) := rfl
    show (∃ e, (Value.int n).plainText.mapError Payload.WriteError.conversion = .error e) ↔ _
    rw [plainText, text, hasLong_int_iff]
    cases Numeral.exceedsLimit n <;> simp [Except.mapError]
  | list => exact json
  | tuple => exact json
  | map => exact json

end Value

end CommandScript
