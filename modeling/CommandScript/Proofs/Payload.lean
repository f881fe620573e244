import CommandScript.Printed
import CommandScript.Proofs.Json.Document

/-!
# Documents as payloads

A document that is sent or shown as JSON is received as the same document. Where it is a list or a
mapping, its text begins and ends with a bracket; so the format need not be given, and the text is
that of an object.

## Main definitions

- `CommandScript.Value.IsCollection` — lists and mappings

## Main results

- `CommandScript.Payload.read_write` — what is written as JSON is read as JSON
- `CommandScript.Payload.read_write_collection` — and without the format, if it is a collection
- `CommandScript.Payload.readObject_printed` — a printed collection is the text of an object
-/

namespace CommandScript

/-- Lists and mappings. -/
inductive Value.IsCollection : Value → Prop
  | list (xs : List Value) : IsCollection (.list xs)
  | map (es : List (Value × Value)) : IsCollection (.map es)

namespace Text

/-- A text that begins and ends with characters other than blanks has no blanks around it. -/
theorem trim_enclosed {opening closing : Char} {cs : List Char} (first : isBlank opening = false)
    (last : isBlank closing = false) :
    trim (opening :: cs ++ [closing]) = opening :: cs ++ [closing] := by
  rw [trim, List.cons_append, trimLeft, List.dropWhile_cons_of_neg (by simp [first]),
    ← List.cons_append, trimRight, dropEndWhile, List.reverse_append, List.reverse_singleton,
    List.singleton_append, List.dropWhile_cons_of_neg (by simp [last]), List.reverse_cons,
    List.reverse_reverse]

end Text

namespace Json

variable {v : Value} {l : Layout} {cs : List Char}

/-- The brackets of a list or of a mapping. -/
def IsBrackets (opening closing : Char) : Prop :=
  opening = '[' ∧ closing = ']' ∨ opening = '\x7b' ∧ closing = '\x7d'

theorem exists_enclose (l : Layout) (opening closing : Char) (items : List (List Char)) :
    ∃ inside, l.enclose opening closing items = opening :: inside ++ [closing] := by
  cases items with
  | nil => exact ⟨[], rfl⟩
  | cons => exact ⟨_, rfl⟩

theorem exists_brackets (collection : v.IsCollection) (written : write l v = .ok cs) :
    ∃ opening inside closing, IsBrackets opening closing ∧ cs = opening :: inside ++ [closing] := by
  cases collection with
  | list xs =>
    rw [write] at written
    cases items : writeItems l.inner xs with
    | error e => rw [items] at written; cases written
    | ok css =>
      rw [items] at written
      cases written
      obtain ⟨inside, same⟩ := exists_enclose l '[' ']' css
      exact ⟨'[', inside, ']', .inl ⟨rfl, rfl⟩, same⟩
  | map es =>
    rw [write] at written
    cases entries : writeEntries l.inner es with
    | error e => rw [entries] at written; cases written
    | ok css =>
      rw [entries] at written
      cases written
      obtain ⟨inside, same⟩ := exists_enclose l '\x7b' '\x7d' css
      exact ⟨'\x7b', inside, '\x7d', .inr ⟨rfl, rfl⟩, same⟩

end Json

namespace Payload

open Json Text

variable {v : Value}

theorem write_of_document (document : v.Document) (pretty : Bool) :
    ∃ cs, write v (some "json") pretty = .ok (String.ofList cs) ∧ Json.read cs = .ok v ∧
      (v.IsCollection → trim cs = cs ∧ opensCollection cs = true) := by
  obtain ⟨cs, written, reads⟩ :=
    carries_of_document document (if pretty then .indented 0 else .compact)
  refine ⟨cs, ?_, reads.read, fun collection => ?_⟩
  · have known : lowered ((some "json").getD "") = "json" := by decide
    rw [write, document.simplified]
    simp only [known, if_true]
    rw [writeJson, written]
  · obtain ⟨opening, inside, closing, ⟨rfl, rfl⟩ | ⟨rfl, rfl⟩, rfl⟩ :=
      exists_brackets collection written
    · exact ⟨trim_enclosed (by decide) (by decide), rfl⟩
    · exact ⟨trim_enclosed (by decide) (by decide), rfl⟩

/-- The format of a text that begins with a bracket is found out. -/
theorem format?_of_opensCollection {cs : List Char} (opens : opensCollection cs = true) :
    format? none (some (String.ofList cs)) = some "json" := by
  have first : trimLeft cs = cs := by
    cases cs with
    | nil => rfl
    | cons c cs =>
      simp only [opensCollection, List.head?_cons, Bool.or_eq_true, decide_eq_true_eq,
        Option.some.injEq] at opens
      obtain rfl | rfl := opens <;> rfl
  have found : (some (String.ofList cs)).any (fun h => opensCollection (trimLeft h.toList)) =
      true := by
    rw [Option.any_some, String.toList_ofList, first, opens]
  rw [format?, found]
  rfl

section Reading

variable [Yaml.Loader]

theorem readText_json {cs : List Char} (reads : Json.read cs = .ok v) :
    readText (some "json") (String.ofList cs) = .ok v := by
  rw [readText, if_pos rfl, String.toList_ofList, reads]

/-- **A document that is written as JSON is read as JSON.** -/
theorem read_write (document : v.Document) (pretty : Bool) :
    ∃ s, write v (some "json") pretty = .ok s ∧ read (.text s) none (some "json") = .ok v := by
  obtain ⟨cs, written, reads, -⟩ := write_of_document document pretty
  exact ⟨_, written, readText_json reads⟩

/-- **A collection that is written as JSON is read where no format is given.** -/
theorem read_write_collection (document : v.Document) (collection : v.IsCollection)
    (pretty : Bool) :
    ∃ s, write v (some "json") pretty = .ok s ∧ read (.text s) none none = .ok v := by
  obtain ⟨cs, written, reads, whole⟩ := write_of_document document pretty
  refine ⟨_, written, ?_⟩
  show readText ((Option.filter _ none).or (format? none (some (String.ofList cs)))) _ = _
  rw [format?_of_opensCollection (whole collection).2]
  exact readText_json reads

end Reading

/-- **A printed collection is the text of an object**, which is the collection. -/
theorem readObject_printed (document : v.Document) (collection : v.IsCollection) :
    ∃ s, v.printed = .ok s ∧ readObject s.toList = .ok (some v) := by
  obtain ⟨cs, written, reads, whole⟩ := write_of_document document false
  obtain ⟨bare, opens⟩ := whole collection
  refine ⟨String.ofList cs, ?_, ?_⟩
  · cases collection with
    | list => exact written
    | map => exact written
  · rw [String.toList_ofList, readObject, bare, if_pos opens, reads]

end Payload

end CommandScript
