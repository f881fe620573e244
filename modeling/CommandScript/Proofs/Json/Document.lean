import CommandScript.Proofs.Json.Reader
import CommandScript.Proofs.Store

/-!
# Documents

The values that JSON carries without loss, and that they come back from their text. A document is
written as it is, since its keys are texts and no two of them are the same.

## Main definitions

- `CommandScript.Value.Document` — null, truth values, whole numbers, texts, lists and mappings
- `CommandScript.Value.textEntries` — a table as the entries of a mapping
- `CommandScript.Json.Carries` — in a layout a value has a text, which is read as the value

## Main results

- `CommandScript.Value.Document.simplified` — a document is simple already
- `CommandScript.Json.reads_list`, `reads_map` — collections, from the texts of what is in them
- `CommandScript.Json.carries_of_document` — each layout carries each document
-/

namespace CommandScript

namespace Value

variable {t : Table Value} {v : Value}

/-- A value that JSON carries without loss. Whole numbers are within the limit on digits, and the
keys of a mapping are texts. -/
inductive Document : Value → Prop
  | null : Document .null
  | bool (b : Bool) : Document (.bool b)
  | int {n : Int} (within : Numeral.exceedsLimit n = false) : Document (.int n)
  | text (s : String) : Document (.text s)
  | list {xs : List Value} (items : ∀ x ∈ xs, Document x) : Document (.list xs)
  | map {t : Table Value} (distinct : t.keys.Nodup) (entries : ∀ e ∈ t, Document e.2) :
    Document (.ofTable t)

/-! ### Tables as entries -/

/-- A table as the entries of a mapping. -/
def textEntries (t : Table Value) : List (Value × Value) := t.map fun e => (.text e.1, e.2)

theorem insertEntry_textEntries {key : String} (new : key ∉ t.keys) (w : Value) :
    insertEntry (textEntries t) (.text key) w = textEntries (t ++ [(key, w)]) := by
  induction t with
  | nil => rfl
  | cons e rest ih =>
    obtain ⟨k, x⟩ := e
    obtain ⟨other, new⟩ := not_or.1 (mt List.mem_cons.2 new)
    have differs : ¬(Value.text k).sameKey (.text key) = true := by
      rw [sameKey_iff rfl]
      exact fun same => other (Option.some.inj same).symm
    show insertEntry ((.text k, x) :: textEntries rest) _ _ =
      (.text k, x) :: textEntries (rest ++ [(key, w)])
    rw [insertEntry, if_neg differs, ih new]

/-- Keys that are all different are new one after the other. -/
theorem new_of_nodup {s : Table Value} {e : String × Value}
    (distinct : (Table.keys (s ++ e :: t)).Nodup) : e.1 ∉ s.keys := by
  rw [Table.keys, List.map_append, List.nodup_append] at distinct
  exact fun mem => distinct.2.2 e.1 mem e.1 List.mem_cons_self rfl

theorem insertEntries_textEntries {s : Table Value} (distinct : (Table.keys (s ++ t)).Nodup) :
    (textEntries t).foldl (fun es e => insertEntry es e.1 e.2) (textEntries s) =
      textEntries (s ++ t) := by
  induction t generalizing s with
  | nil => rw [List.append_nil]; rfl
  | cons e rest ih =>
    have new := new_of_nodup distinct
    rw [List.append_cons] at distinct ⊢
    rw [← ih distinct, ← insertEntry_textEntries new]
    rfl

/-- Entries with different keys are a table already. -/
theorem ofEntries_textEntries (distinct : t.keys.Nodup) :
    ofEntries (textEntries t) = textEntries t :=
  insertEntries_textEntries (s := []) distinct

/-! ### Simplification -/

theorem simplifiedItems_of_forall {xs : List Value} (items : ∀ x ∈ xs, x.simplified = .ok x) :
    simplifiedItems xs = .ok xs := by
  induction xs with
  | nil => rfl
  | cons x xs ih =>
    rw [simplifiedItems, items x List.mem_cons_self,
      ih fun y mem => items y (List.mem_cons_of_mem x mem)]
    rfl

theorem simplifiedEntries_of_forall {s : Table Value} (distinct : (Table.keys (s ++ t)).Nodup)
    (entries : ∀ e ∈ t, e.2.simplified = .ok e.2) :
    simplifiedEntries (textEntries s) (textEntries t) = .ok (textEntries (s ++ t)) := by
  induction t generalizing s with
  | nil => rw [List.append_nil]; rfl
  | cons e rest ih =>
    have plain : (Value.text e.1).plainText = .ok e.1 := rfl
    have new := new_of_nodup distinct
    rw [List.append_cons] at distinct ⊢
    show simplifiedEntries (textEntries s) ((.text e.1, e.2) :: textEntries rest) = _
    rw [simplifiedEntries, plain]
    dsimp only
    rw [entries e List.mem_cons_self]
    dsimp only
    rw [insertEntry_textEntries new]
    exact ih distinct fun f mem => entries f (List.mem_cons_of_mem e mem)

/-- **A document is simple already.** -/
theorem Document.simplified (document : Document v) : v.simplified = .ok v := by
  induction document with
  | null => rfl
  | bool => rfl
  | int => rfl
  | text => rfl
  | @list xs _ ih =>
    rw [Value.simplified, simplifiedItems_of_forall ih]
    rfl
  | @map t distinct _ ih =>
    show (simplifiedEntries (textEntries []) (textEntries t)).map Value.map = _
    rw [simplifiedEntries_of_forall (s := []) distinct ih]
    rfl

end Value

namespace Json

variable {t : Table Value} {v : Value}

/-! ### Items and entries -/

/-- In a layout a value has a text, which is read as the value. -/
def Carries (l : Layout) (v : Value) : Prop := ∃ cs, write l v = .ok cs ∧ Reads cs v

theorem writeItems_of_forall {l : Layout} {xs : List Value} (items : ∀ x ∈ xs, Carries l x) :
    ∃ css, writeItems l xs = .ok css ∧ List.Forall₂ Reads css xs := by
  induction xs with
  | nil => exact ⟨[], rfl, .nil⟩
  | cons x xs ih =>
    obtain ⟨cs, written, reads⟩ := items x List.mem_cons_self
    obtain ⟨css, rest, each⟩ := ih fun y mem => items y (List.mem_cons_of_mem x mem)
    refine ⟨cs :: css, ?_, .cons reads each⟩
    rw [writeItems, written, rest]
    rfl

/-- The text of an entry: its key, and a text that is read as its value. -/
def ReadsEntry (l : Layout) (cs : List Char) (e : String × Value) : Prop :=
  ∃ body, cs = quoted e.1.toList ++ l.afterKey ++ body ∧ Reads body e.2

theorem writeEntries_of_forall {l : Layout} (entries : ∀ e ∈ t, Carries l e.2) :
    ∃ css, writeEntries l (Value.textEntries t) = .ok css ∧ List.Forall₂ (ReadsEntry l) css t := by
  induction t with
  | nil => exact ⟨[], rfl, .nil⟩
  | cons e rest ih =>
    obtain ⟨cs, written, reads⟩ := entries e List.mem_cons_self
    obtain ⟨css, others, each⟩ := ih fun f mem => entries f (List.mem_cons_of_mem e mem)
    refine ⟨_ :: css, ?_, .cons ⟨cs, rfl, reads⟩ each⟩
    show writeEntries l ((.text e.1, e.2) :: Value.textEntries rest) = _
    rw [writeEntries, written, others]
    rfl

theorem reads_list {l : Layout} {css : List (List Char)} {xs : List Value}
    (each : List.Forall₂ Reads css xs) : Reads (l.enclose '[' ']' css) (.list xs) := by
  intro stack
  have whole (s : ReaderState)
      (open' : advance s.1 s.2 .openList = .ok (.items [] :: stack, .itemOrEnd)) :
      Leads s (l.enclose '[' ']' css) (deliver (.list xs.reverse.reverse) stack) :=
    leads_enclose (.items [] :: stack, .itemOrEnd) (fun done => (.items done :: stack, .value))
      (fun done => (.items done :: stack, .separator))
      (fun done => deliver (.list done.reverse) stack)
      l rfl open' rfl rfl (fun _ => rfl) (fun _ => rfl)
      (each.imp fun cs x reads => ⟨(reads _).2, fun _ => (reads _).1⟩)
  rw [List.reverse_reverse] at whole
  exact ⟨whole _ rfl, whole _ rfl⟩

theorem ReadsEntry.leads {l : Layout} {cs : List Char} {e : String × Value} {stack : List Frame}
    {awaiting : Awaiting} {done : List (Value × Value)} (reads : ReadsEntry l cs e)
    (key : advance stack awaiting (.text e.1.toList) = .ok (.entries done e.1 :: stack, .colon)) :
    Leads (stack, awaiting) cs (.entries ((.text e.1, e.2) :: done) e.1 :: stack, .separator) := by
  obtain ⟨body, rfl, reads⟩ := reads
  have keyed : Leads (stack, awaiting) (quoted e.1.toList) (.entries done e.1 :: stack, .colon) :=
    .token (fun _ _ => tokens_quoted) key
  have value := (reads (.entries done e.1 :: stack)).1
  rw [List.append_assoc]
  cases l with
  | compact => exact keyed.append rfl (.punctuation rfl rfl value)
  | indented =>
    have blank : ∀ c ∈ [' '], isSpace c = true := List.forall_mem_singleton.2 rfl
    exact keyed.append rfl (.punctuation rfl rfl (.spaces blank value))

/-- A mapping is read from the texts of its entries. -/
theorem reads_map {l : Layout} {css : List (List Char)} (distinct : t.keys.Nodup)
    (each : List.Forall₂ (ReadsEntry l.inner) css t) :
    Reads (l.enclose '\x7b' '\x7d' css) (.ofTable t) := by
  intro stack
  -- The first key may come where the mapping may end, the others only after a comma.
  have key (awaiting : Awaiting) (e : String × Value) (done : List (Value × Value))
      (admits : awaiting = .keyOrEnd done ∨ awaiting = .key done) :
      advance stack awaiting (.text e.1.toList) = .ok (.entries done e.1 :: stack, .colon) := by
    obtain rfl | rfl := admits <;> exact congrArg (fun k => Except.ok (.entries done k :: stack, _))
      String.ofList_toList
  have gathered : closedMap (Value.textEntries t.reverse) = .ofTable t := by
    rw [closedMap, Value.textEntries, List.map_reverse, List.reverse_reverse]
    exact congrArg Value.map (Value.ofEntries_textEntries distinct)
  have whole (s : ReaderState) (open' : advance s.1 s.2 .openMap = .ok (stack, .keyOrEnd [])) :
      Leads s (l.enclose '\x7b' '\x7d' css)
        (deliver (closedMap (Value.textEntries t.reverse)) stack) :=
    leads_enclose (stack, .keyOrEnd []) (fun done => (stack, .key (Value.textEntries done)))
      (fun done =>
        (.entries (Value.textEntries done) ((done.head?.map (·.1)).getD "") :: stack, .separator))
      (fun done => deliver (closedMap (Value.textEntries done)) stack)
      l rfl open' rfl rfl (fun _ => rfl) (fun _ => rfl)
      (each.imp fun cs e reads =>
        ⟨reads.leads (key _ e [] (.inl rfl)), fun done => reads.leads (key _ e _ (.inr rfl))⟩)
  rw [gathered] at whole
  exact ⟨whole _ rfl, whole _ rfl⟩

/-- **In each layout a document has a text, which is read as the document.** -/
theorem carries_of_document (document : v.Document) (l : Layout) : Carries l v := by
  induction document generalizing l with
  | null => exact ⟨_, rfl, reads_of_atom? (fun _ _ => tokens_null) rfl⟩
  | bool b => exact ⟨_, rfl, reads_of_atom? (fun _ _ => tokens_bool b) rfl⟩
  | @int n within =>
    refine ⟨Numeral.intChars n, ?_, reads_of_atom? (fun _ ends => tokens_intChars n ends) ?_⟩
    · rw [write, writeInt, within]
      rfl
    · rw [atom?, Numeral.readInt_intChars within]
  | text s =>
    refine ⟨_, rfl, reads_of_atom? (fun _ _ => tokens_quoted) ?_⟩
    rw [atom?, String.ofList_toList]
  | list _ ih =>
    obtain ⟨css, written, each⟩ := writeItems_of_forall fun x mem => ih x mem l.inner
    refine ⟨l.enclose '[' ']' css, ?_, reads_list each⟩
    rw [write, written]
    rfl
  | @map t distinct _ ih =>
    obtain ⟨css, written, each⟩ := writeEntries_of_forall fun e mem => ih e mem l.inner
    refine ⟨l.enclose '\x7b' '\x7d' css, ?_, reads_map distinct each⟩
    show (writeEntries l.inner (Value.textEntries t)).map _ = _
    rw [written]
    rfl

end Json

end CommandScript
