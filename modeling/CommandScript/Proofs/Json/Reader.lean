import Mathlib.Data.List.Forall2
import CommandScript.Json.Reader
import CommandScript.Proofs.Json.Token

/-!
# Reading written text

What reading a piece of written text does to the state of the reader. A scalar delivers its value.
A collection is opened, each of its items adds to what is done, and the closing bracket delivers
what has been gathered.

## Main definitions

- `CommandScript.Json.Leads` — reading a text leads from one state of the reader to another
- `CommandScript.Json.Reads` — a text is read as a value wherever a value may stand

## Main results

- `CommandScript.Json.leads_enclose` — a collection, from what its items do
- `CommandScript.Json.Reads.read` — a text that is read as a value denotes it
-/

namespace CommandScript.Json

variable {c : Char} {cs ds : List Char} {t : Token} {v : Value} {stack : List Frame}

/-- A state of the reader. -/
abbrev ReaderState := List Frame × Awaiting

variable {s s' s'' : ReaderState}

/-- Reading a text leads from one state to another, whatever follows that does not continue a
number. -/
def Leads (s : ReaderState) (cs : List Char) (s' : ReaderState) : Prop :=
  ∀ rest, Ends rest →
    resume s.1 s.2 (tokens (cs ++ rest)) = resume s'.1 s'.2 (tokens rest)

/-- A text is read as a value wherever a value may stand. -/
def Reads (cs : List Char) (v : Value) : Prop :=
  ∀ stack,
    Leads (stack, .value) cs (deliver v stack) ∧ Leads (stack, .itemOrEnd) cs (deliver v stack)

/-! ### Texts after which a number is over -/

theorem Ends.append (ends : Ends cs) (ends' : Ends ds) : Ends (cs ++ ds) := by
  cases cs with
  | nil => exact ends'
  | cons c cs => exact ends

theorem ends_of_isSpace (spaces : ∀ c ∈ cs, isSpace c = true) : Ends cs := by
  cases cs with
  | nil => rfl
  | cons c cs =>
    have space := spaces c List.mem_cons_self
    simp only [isSpace, Bool.or_eq_true, decide_eq_true_eq] at space
    obtain ((rfl | rfl) | rfl) | rfl := space <;> rfl

theorem mem_of_punctuation? (found : punctuation? c = some t) :
    c ∈ ['[', ']', '\x7b', '\x7d', ',', ':'] := by
  by_contra other
  simp only [List.mem_cons, List.not_mem_nil, or_false, not_or] at other
  simp [punctuation?, other] at found

theorem ends_of_punctuation? (found : punctuation? c = some t) : Ends (c :: cs) := by
  have all : (['[', ']', '\x7b', '\x7d', ',', ':'].all fun d => !continuesNumber d) = true := by
    decide
  exact (Bool.not_eq_true' _).mp (List.all_eq_true.1 all c (mem_of_punctuation? found))

theorem isSpace_of_punctuation? (found : punctuation? c = some t) : isSpace c = false := by
  have all : (['[', ']', '\x7b', '\x7d', ',', ':'].all fun d => !isSpace d) = true := by decide
  exact (Bool.not_eq_true' _).mp (List.all_eq_true.1 all c (mem_of_punctuation? found))

/-! ### Steps of the reader -/

namespace Leads

theorem append (first : Leads s cs s') (ends : Ends ds) (second : Leads s' ds s'') :
    Leads s (cs ++ ds) s'' := by
  intro rest after
  rw [List.append_assoc, first _ (ends.append after), second rest after]

theorem spaces (blank : ∀ c ∈ cs, isSpace c = true) (next : Leads s ds s') :
    Leads s (cs ++ ds) s' := by
  intro rest after
  rw [List.append_assoc, tokens_of_isSpace blank, next rest after]

theorem punctuation (found : punctuation? c = some t) (step : advance s.1 s.2 t = .ok s')
    (next : Leads s' ds s'') : Leads s (c :: ds) s'' := by
  intro rest after
  rw [List.cons_append, tokens_of_punctuation? (isSpace_of_punctuation? found) found, resume, step]
  exact next rest after

theorem refl (s : ReaderState) : Leads s [] s := fun _ _ => rfl

theorem token (alone : ∀ rest, Ends rest → tokens (cs ++ rest) = t :: tokens rest)
    (step : advance s.1 s.2 t = .ok s') : Leads s cs s' := by
  intro rest after
  rw [alone rest after, resume, step]

end Leads

theorem advance_of_atom? (atom : atom? t = some (.ok v)) :
    advance stack .value t = .ok (deliver v stack) ∧
      advance stack .itemOrEnd t = .ok (deliver v stack) := by
  cases t with
  | openList => cases atom
  | closeList => cases atom
  | openMap => cases atom
  | closeMap => cases atom
  | comma => cases atom
  | colon => cases atom
  | bad => cases atom
  | null | bool | text | int | float => simp only [advance, beginValue, atom, and_self]

theorem reads_of_atom? (alone : ∀ rest, Ends rest → tokens (cs ++ rest) = t :: tokens rest)
    (atom : atom? t = some (.ok v)) : Reads cs v :=
  fun _ => ⟨.token alone (advance_of_atom? atom).1, .token alone (advance_of_atom? atom).2⟩

/-- **A text that is read as a value denotes it.** -/
theorem Reads.read (reads : Reads cs v) : Json.read cs = .ok v := by
  have whole := (reads []).1 [] rfl
  rw [List.append_nil] at whole
  rw [Json.read, readTokens, whole, tokens]
  rfl

/-! ### Collections -/

theorem intercalate_cons (sep x : List Char) (xs : List (List Char)) :
    sep.intercalate (x :: xs) = x ++ xs.flatMap (sep ++ ·) := by
  induction xs generalizing x with
  | nil => simp [List.intercalate]
  | cons y ys ih =>
    rw [List.flatMap_cons, List.append_assoc, ← ih y]
    simp [List.intercalate, List.intersperse]

theorem isSpace_of_mem_lineBreak (l : Layout) : ∀ c ∈ l.lineBreak, isSpace c = true := by
  cases l with
  | compact => exact fun _ mem => nomatch mem
  | indented n =>
    intro c mem
    obtain rfl | mem := List.mem_cons.1 mem
    · rfl
    · rw [List.eq_of_mem_replicate mem]
      rfl

section Enclose

-- A collection is opened in one state and closed in another. In between the items are gathered
-- backwards: `before` is the state in which the next one may come, `after` the state behind one.
variable {α : Type} {opening closing : Char} {bracket bracket' : Token} (opened : ReaderState)
  (before after finish : List α → ReaderState) {items : List (List Char)} {xs : List α}
  {space space' : List Char}

theorem ends_items (blank' : ∀ c ∈ space', isSpace c = true)
    (closes : punctuation? closing = some bracket') :
    Ends (items.flatMap (',' :: space ++ ·) ++ (space' ++ [closing])) := by
  cases items with
  | nil => exact (ends_of_isSpace blank').append (ends_of_punctuation? closes)
  | cons => rfl

/-- The items after those that are done already, and the end of the collection. -/
theorem leads_items (done : List α) (blank : ∀ c ∈ space, isSpace c = true)
    (blank' : ∀ c ∈ space', isSpace c = true) (closes : punctuation? closing = some bracket')
    (close : ∀ done, advance (after done).1 (after done).2 bracket' = .ok (finish done))
    (comma : ∀ done, advance (after done).1 (after done).2 .comma = .ok (before done))
    (each :
      List.Forall₂ (fun cs x => ∀ done, Leads (before done) cs (after (x :: done))) items xs) :
    Leads (after done) (items.flatMap (',' :: space ++ ·) ++ (space' ++ [closing]))
      (finish (xs.reverse ++ done)) := by
  induction each generalizing done with
  | nil =>
    rw [List.flatMap_nil, List.nil_append]
    exact .spaces blank' (.punctuation closes (close done) (.refl _))
  | @cons cs x items xs item each ih =>
    have next := (item done).append (ends_items blank' closes) (ih (x :: done))
    rw [List.flatMap_cons, List.append_assoc, List.append_assoc, List.reverse_cons,
      List.append_assoc]
    exact .punctuation rfl (comma done) (.spaces blank next)

/-- **A collection is read as what its items gather.** -/
theorem leads_enclose (l : Layout) (opens : punctuation? opening = some bracket)
    (open' : advance s.1 s.2 bracket = .ok opened) (closes : punctuation? closing = some bracket')
    (empty : advance opened.1 opened.2 bracket' = .ok (finish []))
    (close : ∀ done, advance (after done).1 (after done).2 bracket' = .ok (finish done))
    (comma : ∀ done, advance (after done).1 (after done).2 .comma = .ok (before done))
    (each : List.Forall₂
      (fun cs x => Leads opened cs (after [x]) ∧ ∀ done, Leads (before done) cs (after (x :: done)))
      items xs) :
    Leads s (l.enclose opening closing items) (finish xs.reverse) := by
  cases each with
  | nil => exact .punctuation opens open' (.punctuation closes empty (.refl _))
  | @cons cs x items xs item each =>
    have blank := isSpace_of_mem_lineBreak l.inner
    have blank' := isSpace_of_mem_lineBreak l
    have rest := leads_items before after finish [x] blank blank' closes close comma
      (each.imp fun _ _ item => item.2)
    have inside := Leads.spaces blank (item.1.append (ends_items blank' closes) rest)
    have laidOut : l.enclose opening closing (cs :: items) = opening :: (l.inner.lineBreak ++
        (cs ++ (items.flatMap (',' :: l.inner.lineBreak ++ ·) ++ (l.lineBreak ++ [closing])))) := by
      rw [Layout.enclose, intercalate_cons]
      · simp only [List.cons_append, List.append_assoc]
      · exact fun same => nomatch same
    rw [laidOut, List.reverse_cons]
    exact .punctuation opens open' inside

end Enclose

end CommandScript.Json
