import CommandScript.Proofs.Template.Placeholders

/-!
# Tags of bodies

How a body with placeholders is written: each name stands between double braces. Where its texts
have no opening brace and its names have no character that means something else in a tag, the body
is read as its own parts.

## Main definitions

- `CommandScript.Template.Pattern.source` — a body as written
- `CommandScript.Template.Pattern.Simple` — bodies in which nothing but the placeholders can be a
  tag

## Main results

- `CommandScript.Template.firstTag?_append` — the first tag after a text
- `CommandScript.Template.parse_source` — a body is read as its own parts
-/

namespace CommandScript.Template

open Text

/-- Whether a character has no meaning of its own in the name of a tag. -/
def isTagChar (c : Char) : Bool :=
  !isBlank c && c ≠ '\x7d' && c ≠ '\x7b' && c ≠ '=' && (kindOf? c).isNone

/-- A name that may stand in a tag: it is not empty, and its characters have no meaning of their
own. -/
def IsTagName (name : List Char) : Prop := name ≠ [] ∧ ∀ c ∈ name, isTagChar c = true

namespace Pattern

/-- The body as written. -/
def source : Pattern → List Char
  | .last text => text
  | .place text name rest =>
    text ++ (['\x7b', '\x7b'] ++ (name ++ (['\x7d', '\x7d'] ++ rest.source)))

/-- The texts have no opening brace, and the names are names of tags. -/
def Simple : Pattern → Prop
  | .last text => '\x7b' ∉ text
  | .place text name rest => '\x7b' ∉ text ∧ IsTagName name ∧ rest.Simple

/-- The number of placeholders. -/
def count : Pattern → Nat
  | .last _ => 0
  | .place _ _ rest => rest.count + 1

end Pattern

section Names

variable {c : Char} {name rest : List Char}

theorem not_isBlank_of_isTagChar (h : isTagChar c = true) : isBlank c = false := by
  simp only [isTagChar, Bool.and_eq_true, Bool.not_eq_true'] at h
  exact h.1.1.1.1

theorem trimLeft_cons (h : isBlank c = false) (cs : List Char) : trimLeft (c :: cs) = c :: cs := by
  rw [trimLeft, List.dropWhile_cons_of_neg (by simp [h])]

theorem ends?_cons (h : isTagChar c = true) (cs : List Char) : ends? usual [] (c :: cs) = none := by
  have brace : c ≠ '\x7d' := by
    rintro rfl
    exact absurd h (by decide)
  show after? usual.closing (trimLeft (c :: cs)) = none
  rw [trimLeft_cons (not_isBlank_of_isTagChar h)]
  simp [after?, usual, brace.symm]

theorem ends?_closing (rest : List Char) :
    ends? usual [] (['\x7d', '\x7d'] ++ rest) = some rest := by
  show after? usual.closing (trimLeft ('\x7d' :: '\x7d' :: rest)) = some rest
  rw [trimLeft_cons (by decide)]
  simp [after?, usual]

/-- The name of a tag reaches to the end of the tag. -/
theorem shortest?_name (named : IsTagName name) (rest : List Char) :
    shortest? false (ends? usual []) (name ++ (['\x7d', '\x7d'] ++ rest)) = some (name, rest) := by
  obtain ⟨full, all⟩ := named
  induction name with
  | nil => exact absurd rfl full
  | cons c name ih =>
    have shorter : ∀ d ∈ name, isTagChar d = true := fun d mem => all d (List.mem_cons_of_mem c mem)
    rw [List.cons_append, shortest?]
    cases name with
    | nil =>
      rw [List.nil_append, ends?_closing]
      rfl
    | cons d name =>
      rw [ih (by simp) shorter, List.cons_append, ends?_cons (shorter d List.mem_cons_self)]
      rfl

/-- Between the delimiters stands the name of a value. -/
theorem inside?_name (named : IsTagName name) (rest : List Char) :
    inside? usual (name ++ (['\x7d', '\x7d'] ++ rest)) = some ⟨.value, name, rest⟩ := by
  have whole := shortest?_name named rest
  obtain ⟨full, all⟩ := named
  cases name with
  | nil => exact absurd rfl full
  | cons c name =>
    have first : isTagChar c = true := all c List.mem_cons_self
    have solid : isBlank c = false := not_isBlank_of_isTagChar first
    have marks : marked? usual (c :: (name ++ (['\x7d', '\x7d'] ++ rest))) = none := by
      simp only [isTagChar, Bool.and_eq_true, decide_eq_true_eq, Option.isNone_iff_eq_none] at first
      rw [marked?, if_neg first.1.2, if_neg first.1.1.2, first.2]
      rfl
    have named : name? false (ends? usual []) (c :: (name ++ (['\x7d', '\x7d'] ++ rest))) =
        some (c :: name, rest) := by
      rw [name?, List.takeWhile_cons_of_neg (by simp [solid]), trimLeft_cons solid]
      exact whole
    rw [inside?, List.cons_append, trimLeft_cons solid, marks, named]
    rfl

end Names

section Texts

variable {c : Char} {blanks text cs : List Char}

/-- Blanks within a line. -/
def Indents (cs : List Char) : Prop := ∀ c ∈ cs, c = ' ' ∨ c = '\t'

/-- Blanks within a line at the front of a text come before those that follow. -/
theorem indentation_append (indents : Indents blanks) (cs : List Char) :
    indentation (blanks ++ cs) = blanks ++ indentation cs := by
  have all : ∀ b ∈ blanks, (decide (b = ' ') || decide (b = '\t')) = true := by
    intro b mem
    simpa using indents b mem
  exact List.takeWhile_append_of_pos all

/-- Blanks within a line are all that stands before something else. -/
theorem indentation_solid (indents : Indents blanks) (solid : c ≠ ' ' ∧ c ≠ '\t')
    (cs : List Char) : indentation (blanks ++ c :: cs) = blanks := by
  have ends : indentation (c :: cs) = [] := List.takeWhile_cons_of_neg (by simp [solid])
  rw [indentation_append indents, ends, List.append_nil]

/-- A text is blanks within a line, or something else follows such blanks. -/
theorem indents_or (text : List Char) :
    Indents text ∨
      ∃ blanks c cs, text = blanks ++ c :: cs ∧ Indents blanks ∧ c ≠ ' ' ∧ c ≠ '\t' := by
  induction text with
  | nil => exact .inl (by simp [Indents])
  | cons d text ih =>
    by_cases blank : d = ' ' ∨ d = '\t'
    · obtain all | ⟨blanks, c, cs, rfl, all, solid⟩ := ih
      · exact .inl (List.forall_mem_cons.2 ⟨blank, all⟩)
      · exact .inr ⟨d :: blanks, c, cs, rfl, List.forall_mem_cons.2 ⟨blank, all⟩, solid⟩
    · exact .inr ⟨[], d, text, rfl, by simp [Indents], not_or.1 blank⟩

/-- After blanks stands the tag that stands there without them. -/
theorem tagAt?_append (indents : Indents blanks) (solid : c ≠ ' ' ∧ c ≠ '\t') (cs : List Char) :
    tagAt? usual (blanks ++ c :: cs) = (after? usual.opening (c :: cs)).bind (inside? usual) := by
  rw [tagAt?, indentation_solid indents solid, List.drop_left]

/-- No tag stands where something else than an opening brace follows blanks. -/
theorem tagAt?_eq_none (indents : Indents blanks) (solid : c ≠ ' ' ∧ c ≠ '\t') (brace : c ≠ '\x7b')
    (cs : List Char) : tagAt? usual (blanks ++ c :: cs) = none := by
  rw [tagAt?_append indents solid]
  simp [after?, usual, brace.symm]

/-- There is no tag in a text without opening braces. -/
theorem firstTag?_eq_none (plain : '\x7b' ∉ text) : firstTag? usual text = none := by
  -- A tag is looked for after blanks, so what stands here depends on what follows them.
  induction text with
  | nil => rfl
  | cons d text ih =>
    have rest : firstTag? usual text = none := ih fun mem => plain (List.mem_cons_of_mem d mem)
    have here : tagAt? usual (d :: text) = none := by
      obtain all | ⟨blanks, c, cs, eq, all, solid⟩ := indents_or (d :: text)
      · have whole : indentation (d :: text ++ []) = d :: text ++ [] := indentation_append all []
        rw [List.append_nil] at whole
        rw [tagAt?, whole, List.drop_length]
        rfl
      · have brace : c ≠ '\x7b' := by
          rintro rfl
          exact plain (by rw [eq]; simp)
        rw [eq]
        exact tagAt?_eq_none all solid brace cs
    rw [firstTag?, here, rest]
    rfl

/-- The first tag after a text without opening braces: the text up to blanks at its end comes before
it. -/
theorem firstTag?_append {tag : Tag} (plain : '\x7b' ∉ text)
    (inside : inside? usual cs = some tag) :
    ∃ before blanks, text = before ++ blanks ∧ Indents blanks ∧
      firstTag? usual (text ++ '\x7b' :: '\x7b' :: cs) =
        some (before, blanks ++ '\x7b' :: '\x7b' :: cs, tag) := by
  have opened (text : List Char) (all : Indents text) :
      tagAt? usual (text ++ '\x7b' :: '\x7b' :: cs) = some tag := by
    rw [tagAt?_append all (by decide), ← inside]
    rfl
  induction text with
  | nil =>
    have none : Indents [] := by simp [Indents]
    have here : tagAt? usual ('\x7b' :: '\x7b' :: cs) = some tag := opened [] none
    refine ⟨[], [], rfl, none, ?_⟩
    rw [List.nil_append, firstTag?, here]
  | cons d text ih =>
    obtain ⟨before, blanks, rfl, indents, rest⟩ := ih fun mem => plain (List.mem_cons_of_mem d mem)
    obtain all | ⟨blanks', c, cs', eq, all, solid⟩ := indents_or (d :: (before ++ blanks))
    · refine ⟨[], d :: (before ++ blanks), rfl, all, ?_⟩
      rw [List.cons_append, firstTag?, ← List.cons_append, opened _ all]
    · have brace : c ≠ '\x7b' := by
        rintro rfl
        exact plain (by rw [eq]; simp)
      have here : tagAt? usual (d :: (before ++ blanks ++ '\x7b' :: '\x7b' :: cs)) = none := by
        rw [← List.cons_append, eq, List.append_assoc]
        exact tagAt?_eq_none all solid brace _
      refine ⟨d :: before, blanks, rfl, indents, ?_⟩
      rw [List.cons_append, firstTag?, here, rest]
      rfl

end Texts

section Bodies

variable {pattern : Pattern}

theorem reverse_consText (text : List Char) (nodes : List Node) :
    (consText text nodes).reverse = nodes.reverse ++ Pattern.textNodes text := by
  cases text with
  | nil => exact (List.append_nil _).symm
  | cons c text => exact List.reverse_cons

/-- A simple body is read as its own parts, after whatever was read before it. -/
theorem parseFrom_source (simple : pattern.Simple) (size k : Nat) (previous : Option Char)
    (nodes : List Node) :
    parseFrom size (pattern.count + k + 1) usual previous [] nodes pattern.source =
      .ok (nodes.reverse ++ pattern.nodes) := by
  induction pattern generalizing previous nodes with
  | last text =>
    rw [parseFrom, Pattern.source, firstTag?_eq_none simple]
    exact congrArg Except.ok (reverse_consText text nodes)
  | place text name rest ih =>
    obtain ⟨plain, named, further⟩ := simple
    have inside := inside?_name named rest.source
    obtain ⟨before, blanks, rfl, indents, first⟩ := firstTag?_append plain inside
    have shown : indentation (blanks ++ '\x7b' :: '\x7b' ::
        (name ++ (['\x7d', '\x7d'] ++ rest.source))) = blanks :=
      indentation_solid indents (by decide) _
    have fuel : (Pattern.place (before ++ blanks) name rest).count + k + 1 =
        (rest.count + k + 1) + 1 := by
      simp only [Pattern.count]
      omega
    have read : firstTag? usual (Pattern.place (before ++ blanks) name rest).source = _ := first
    rw [fuel, parseFrom, read]
    -- The tag of a value never takes its line with it, so the blanks before it belong to the text.
    simp only [ne_eq, not_true_eq_false, decide_false, Bool.and_false, Bool.false_eq_true, if_false]
    rw [shown, ih further, List.reverse_cons, reverse_consText, List.append_assoc,
      List.append_assoc]
    rfl

/-- **A simple body is read as its own parts.** -/
theorem parse_source (simple : pattern.Simple) : parse pattern.source = .ok pattern.nodes := by
  have short : pattern.count ≤ pattern.source.length := by
    clear simple
    induction pattern with
    | last text => exact Nat.zero_le _
    | place text name rest ih =>
      simp only [Pattern.count, Pattern.source, List.length_append, List.length_cons]
      omega
  obtain ⟨k, eq⟩ := Nat.exists_eq_add_of_le short
  rw [parse, eq]
  exact parseFrom_source simple _ k none []

end Bodies

end CommandScript.Template
