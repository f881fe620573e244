import CommandScript.Dispatch.Calls
import CommandScript.Proofs.Program

/-!
# Bodies with placeholders

A body in which the only tags stand for values: a text, and then a placeholder and the rest of the
body. What is put in for a placeholder is the text of the argument that was given last for the
parameter of that name, with its escapes, and nothing where there is none. A name with a dot in it
is a path into a value, and texts have nothing inside them.

## Main definitions

- `CommandScript.Template.Pattern` — a body with placeholders
- `CommandScript.Template.Pattern.filled` — the body with texts put in
- `CommandScript.Template.insertion` — the text that a placeholder stands for

## Main results

- `CommandScript.Evaluation.body_eq` — a function puts the texts of its arguments in
-/

namespace CommandScript

namespace Template

/-- A body with placeholders: its last text, or a text before a placeholder with a name and what
follows that. -/
inductive Pattern where
  | last (text : List Char)
  | place (text name : List Char) (rest : Pattern)

namespace Pattern

/-- The names of the placeholders. -/
def names : Pattern → List (List Char)
  | .last _ => []
  | .place _ name rest => name :: rest.names

/-- The parts of a template that stand for a text. -/
def textNodes (text : List Char) : List Node := if text.isEmpty then [] else [.text text]

/-- The parts of the template that the body is. -/
def nodes : Pattern → List Node
  | .last text => textNodes text
  | .place text name rest => textNodes text ++ .value name :: rest.nodes

/-- The body with texts put in, in which escapes keep them from being read as anything else. -/
def filled (value : List Char → List Char) : Pattern → List Char
  | .last text => text
  | .place text name rest => text ++ (Script.escape (value name) ++ rest.filled value)

end Pattern

/-- The text of the argument that is given last for a parameter. A parameter without an argument
has none, and an argument that was not evaluated is empty. -/
def given? (key : String) : List String → List (Option String) → Option String
  | p :: ps, s :: ss => (given? key ps ss).or (if p = key then some (s.getD "") else none)
  | _, _ => none

/-- The text that a placeholder stands for, given the parameters and the texts of the arguments. -/
def insertion (params : List String) (texts : List (Option String)) (name : List Char) :
    List Char :=
  if '.' ∈ name then [] else ((given? (String.ofList name) params texts).getD "").toList

section Rendering

variable {inclusion : Inclusion} {stack : List Value} {value : List Char → List Char}

theorem renderNodes_text (text : List Char) (rest : List Node) :
    renderNodes inclusion stack (Pattern.textNodes text ++ rest) = do
      return text ++ (← renderNodes inclusion stack rest) := by
  cases text with
  | nil =>
    show renderNodes inclusion stack rest = _
    simp
  | cons c text =>
    show renderNodes inclusion stack (.text (c :: text) :: rest) = _
    rw [renderNodes, renderNode, pure_bind]

/-- A body with placeholders is filled in without questions. -/
theorem renderNodes_pattern {body : Pattern}
    (h : ∀ name ∈ body.names,
      resolve stack name = .text (String.ofList (Script.escape (value name)))) :
    renderNodes inclusion stack body.nodes = pure (body.filled value) := by
  induction body with
  | last text =>
    have eq : renderNodes inclusion stack (Pattern.textNodes text ++ []) = _ :=
      renderNodes_text text []
    rw [List.append_nil] at eq
    rw [Pattern.nodes, eq, renderNodes, pure_bind, List.append_nil]
    rfl
  | place text name rest ih =>
    have shows : shown (resolve stack name) = .ok (Script.escape (value name)) := by
      rw [h name List.mem_cons_self]
      exact congrArg Except.ok String.toList_ofList
    rw [Pattern.nodes, renderNodes_text, renderNodes, renderNode, shows,
      ih fun other mem => h other (List.mem_cons_of_mem _ mem)]
    rfl

end Rendering

section Resolving

/-- A table of texts as the entries of a mapping. -/
def entries (t : Table String) : List (Value × Value) := t.map fun e => (.text e.1, .text e.2)

theorem insertEntry_entries (t : Table String) (key text : String) :
    Value.insertEntry (entries t) (.text key) (.text text) = entries (t.insert key text) := by
  induction t with
  | nil => rfl
  | cons e rest ih =>
    obtain ⟨k, s⟩ := e
    show Value.insertEntry ((.text k, .text s) :: entries rest) _ _ = _
    rw [Value.insertEntry, Value.sameKey_text, Table.insert]
    by_cases h : k = key
    · simp [h, entries]
    · simp only [beq_iff_eq, h, if_false, ih]
      rfl

theorem lookupText?_entries (t : Table String) (key : String) :
    Value.lookupText? (entries t) key = (t.get? key).map .text := by
  induction t with
  | nil => rfl
  | cons e rest ih =>
    obtain ⟨k, s⟩ := e
    rw [Table.get?]
    unfold Value.lookupText? Value.lookup? entries at ih ⊢
    rw [List.map_cons, List.find?_cons, Value.sameKey_text]
    by_cases h : k = key
    · simp [h]
    · have ne : (k == key) = false := by simpa using h
      rw [ne, if_neg h]
      exact ih

/-- The arguments of parameters, with their escapes. -/
def bound : List String → List (Option String) → List (String × String)
  | p :: ps, s :: ss => (p, String.ofList (Script.escape (s.getD "").toList)) :: bound ps ss
  | _, _ => []

theorem bindings_eq (params : List String) (texts : List (Option String)) :
    Evaluation.bindings (params.map .text) texts = .ok (entries (bound params texts)) := by
  induction params generalizing texts with
  | nil => cases texts <;> rfl
  | cons p ps ih =>
    cases texts with
    | nil => rfl
    | cons s ss =>
      rw [List.map_cons, Evaluation.bindings, ih]
      rfl

theorem ofEntries_entries (l : List (String × String)) :
    Value.ofEntries (entries l) = entries (Table.ofList l) := by
  have fold (t : Table String) :
      (entries l).foldl (fun t e => Value.insertEntry t e.1 e.2) (entries t) =
        entries (Table.insertAll t l) := by
    induction l generalizing t with
    | nil => rfl
    | cons e l ih =>
      show (entries l).foldl _ (Value.insertEntry (entries t) (.text e.1) (.text e.2)) = _
      rw [insertEntry_entries, ih]
      rfl
  exact fold []

/-- What is bound to a name is the argument that was given last. -/
theorem get?_bound (params : List String) (texts : List (Option String)) (key : String) :
    Table.get? (Table.ofList (bound params texts)) key =
      (given? key params texts).map fun s => String.ofList (Script.escape s.toList) := by
  have insertAll (t : Table String) : Table.get? (Table.insertAll t (bound params texts)) key =
      ((given? key params texts).map fun s => String.ofList (Script.escape s.toList)).or
        (Table.get? t key) := by
    induction params generalizing texts t with
    | nil => cases texts <;> rfl
    | cons p ps ih =>
      cases texts with
      | nil => rfl
      | cons s ss =>
        rw [given?]
        show Table.get? (Table.insertAll (t.insert p _) (bound ps ss)) key = _
        rw [ih, Table.get?_insert]
        by_cases h : p = key
        · cases given? key ps ss <;> simp [h]
        · cases given? key ps ss <;> simp [h]
  rw [Table.ofList, insertAll, Table.get?, Option.or_none]

theorem splitAt_of_mem {name : List Char} (h : '.' ∈ name) :
    ∃ head part parts, Text.splitAt '.' name = head :: part :: parts := by
  obtain ⟨before, after, rfl⟩ := List.append_of_mem h
  obtain ⟨head, heads, first⟩ := List.exists_cons_of_ne_nil (Text.splitAt_ne_nil '.' before)
  obtain ⟨part, parts, second⟩ := List.exists_cons_of_ne_nil (Text.splitAt_ne_nil '.' after)
  rw [Text.splitAt_append, first, second]
  cases heads with
  | nil => exact ⟨head, part, parts, rfl⟩
  | cons next heads => exact ⟨head, next, heads ++ part :: parts, rfl⟩

/-- What a name stands for where texts are bound to names. -/
theorem resolve_bound (params : List String) (texts : List (Option String)) {name : List Char}
    (h : name ≠ ['.']) :
    resolve [.map (Value.ofEntries (entries (bound params texts)))] name =
      .text (String.ofList (Script.escape (insertion params texts name))) := by
  rw [ofEntries_entries]
  have found (key : List Char) :
      [Value.map (entries (Table.ofList (bound params texts)))].findSome? (member? · key) =
        (given? (String.ofList key) params texts).map fun s =>
          .text (String.ofList (Script.escape s.toList)) := by
    have inner : member? (.map (entries (Table.ofList (bound params texts)))) key =
        Value.lookupText? (entries (Table.ofList (bound params texts))) (String.ofList key) := rfl
    rw [List.findSome?_cons, inner, lookupText?_entries, get?_bound, Option.map_map]
    cases given? (String.ofList key) params texts <;> rfl
  -- Texts have nothing inside them, so a path that leads on leads to nothing.
  have nothing (parts : List (List Char)) :
      parts.foldl (fun v part => v.bind fun w => member? w part) none = none := by
    induction parts with
    | nil => rfl
    | cons part parts ih => exact ih
  rw [resolve, if_neg h, insertion]
  by_cases dot : '.' ∈ name
  · obtain ⟨head, part, parts, split⟩ := splitAt_of_mem dot
    rw [split, if_pos dot]
    simp only [found, List.foldl_cons]
    cases given? (String.ofList head) params texts with
    | none =>
      show ((parts.foldl _ none).getD _) = _
      rw [nothing]
      rfl
    | some s =>
      show ((parts.foldl _ none).getD _) = _
      rw [nothing]
      rfl
  · rw [Text.splitAt_of_notMem dot, if_neg dot]
    simp only [found, List.foldl_nil]
    cases given? (String.ofList name) params texts <;> rfl

end Resolving

end Template

namespace Evaluation

open Template

/-- A function is what its body gives with the texts of its arguments put in. -/
theorem body_of_render (scope : Scope) {code : Value} {params : List Value}
    {texts : List (Option String)} {bound : List (Value × Value)} {cs : List Char}
    (binds : bindings params texts = .ok bound)
    (rendered : Template.render code (Value.ofEntries bound) = pure cs) :
    body scope code params texts = pure (.ok cs) := by
  rw [body, binds]
  show (StateT.lift ((Template.render code (Value.ofEntries bound)).run.relay _) >>= _ :
    Evaluation _) = _
  rw [rendered]
  rfl

/-- **A function with placeholders puts the texts of its arguments in**, with their escapes, and
asks for nothing. -/
theorem body_eq (scope : Scope) {code : String} (params : List String)
    (texts : List (Option String)) {pattern : Pattern}
    (only : parse code.toList = .ok pattern.nodes) (named : ['.'] ∉ pattern.names) :
    body scope (.text code) (params.map .text) texts =
      pure (.ok (pattern.filled (insertion params texts))) := by
  refine body_of_render scope (bindings_eq params texts) ?_
  have nodes : renderNodes (included depthLimit)
      [.map (Value.ofEntries (entries (bound params texts)))] pattern.nodes = _ :=
    renderNodes_pattern fun name mem =>
      resolve_bound params texts (ne_of_mem_of_not_mem mem named)
  show (do renderNodes _ _ (← parse code.toList) : Rendering (List Char)) = _
  rw [only]
  exact nodes

end Evaluation

end CommandScript
