import CommandScript.Proofs.Json.Outcomes
import CommandScript.Proofs.Payload

/-!
# Reading what is received

What is received is read as a value, whatever it is: a text that the format does not parse stands
for itself. It is refused only for reasons that are no faults of form. The bytes may be in one of
the few character sets that refuse bytes, a number may be too long, or what reads YAML may raise
something else than that the text is malformed. Which texts these are is up to the loader, and
nothing is assumed of it.

## Main definitions

- `CommandScript.Payload.Received` — bytes or a text
- `CommandScript.Payload.Undecodable` — why bytes give no text
- `CommandScript.Payload.ReadAs` — the value of a text in a format
- `CommandScript.Payload.Stray` — why a text has no value in a format
- `CommandScript.Payload.Answers` — what comes of reading received data

## Main results

- `CommandScript.Payload.undecodable_of_decoded` — bytes that give no text
- `CommandScript.Payload.readAs_or_stray` — a text in a format
- `CommandScript.Payload.answers_read` — received data
- `CommandScript.Payload.readObject_cases` — the list or mapping that a text encodes
-/

namespace CommandScript

namespace Text.Charset

variable {name : List Char} {charset : Charset}

/-- Whether a character set refuses all bytes. -/
def refuses : Charset → Bool
  | .refusing _ => true
  | _ => false

/-- Whether a character set is that of names in other scripts, which begins in ASCII. -/
def isPunycode : Charset → Bool
  | .punycode => true
  | _ => false

/-- The name of a character set as it is looked up. -/
def keyOf (name : List Char) : String := String.ofList (normalName false [] name)

theorem exists_named (found : named? name = some charset) :
    ∃ n ∈ all, n.charset = charset ∧ (n.aliases = [] → n.name = keyOf name) := by
  obtain ⟨n, first, rfl⟩ := Option.map_eq_some_iff.1 found
  refine ⟨n, List.mem_of_find?_eq_some first, rfl, fun none => ?_⟩
  have matched := List.find?_some first
  rw [none] at matched
  simpa [keyOf] using matched

theorem key_of_refuses (found : named? name = some charset) (strict : charset.refuses = true) :
    keyOf name = "idna" ∨ keyOf name = "undefined" := by
  have names : ∀ n ∈ all, n.charset.refuses = true →
      n.aliases = [] ∧ (n.name = "idna" ∨ n.name = "undefined") := by decide +kernel
  obtain ⟨n, mem, rfl, key⟩ := exists_named found
  obtain ⟨none, either⟩ := names n mem strict
  exact key none ▸ either

theorem key_of_isPunycode (found : named? name = some charset)
    (ascii : charset.isPunycode = true) : keyOf name = "punycode" := by
  have names : ∀ n ∈ all, n.charset.isPunycode = true → n.aliases = [] ∧ n.name = "punycode" := by
    decide +kernel
  obtain ⟨n, mem, rfl, key⟩ := exists_named found
  obtain ⟨none, same⟩ := names n mem ascii
  exact key none ▸ same

theorem Punycode.byte_of_decode {bs : List UInt8} {e : Punycode.Error}
    (refused : Punycode.decode bs = .error e) : e.byte ∈ bs ∧ 0x80 ≤ e.byte := by
  unfold Punycode.decode at refused
  dsimp only at refused
  split at refused
  · rename_i i found
    cases refused
    obtain ⟨within, past, -⟩ := List.findIdx?_eq_some_iff_getElem.1 found
    rw [List.getD_eq_getElem?_getD, List.getElem?_eq_getElem within, Option.getD_some]
    have mem := List.mem_reverse.1 (List.getElem_mem within)
    exact ⟨List.mem_reverse.1 ((List.takeWhile_sublist _).mem mem), of_decide_eq_true past⟩
  · cases refused

end Text.Charset

namespace Payload

open Text

variable {contentType format : Option String} {s : String} {cs : List Char} {bs : List UInt8}

/-! ### Bytes -/

/-- Why bytes give no text, where they are said to be in the character set of a name: the name has a
null character, or its character set refuses all bytes, or it admits none past ASCII. -/
inductive Undecodable (name : List Char) (bs : List UInt8) : Charset.Refusal → Prop
  | nullInName (null : '\x00' ∈ name) : Undecodable name bs .nullInName
  | unusable (reason : String)
    (strict : Charset.keyOf name = "idna" ∨ Charset.keyOf name = "undefined") (some : bs ≠ []) :
    Undecodable name bs (.unusable (String.ofList name) reason)
  | notAscii {b : UInt8} (i : Nat) (ascii : Charset.keyOf name = "punycode") (mem : b ∈ bs)
    (past : 0x80 ≤ b) : Undecodable name bs (.notAscii b i)

/-- **Bytes give no text** only in the character sets that refuse bytes. -/
theorem undecodable_of_decoded {e : Charset.Refusal} (refused : decoded contentType bs = .error e) :
    Undecodable ((charsetName? contentType).getD []) bs e := by
  unfold decoded at refused
  generalize (charsetName? contentType).getD [] = name at refused ⊢
  dsimp only at refused
  split at refused
  · rename_i null
    cases refused
    exact .nullInName (List.contains_iff_mem.1 null)
  · split at refused
    · rename_i charset found
      cases charset with
      | refusing reason =>
        rw [Charset.decode] at refused
        split at refused
        · cases refused
        · rename_i some
          cases refused
          exact .unusable reason (Charset.key_of_refuses found rfl) (mt List.isEmpty_iff.2 some)
      | punycode =>
        rw [Charset.decode] at refused
        cases read : Charset.Punycode.decode bs with
        | ok cs => rw [read] at refused; cases refused
        | error e =>
          rw [read] at refused
          cases refused
          obtain ⟨mem, past⟩ := Charset.Punycode.byte_of_decode read
          exact .notAscii e.position (Charset.key_of_isPunycode found rfl) mem past
      | utf16 order => cases order <;> cases refused
      | utf32 order => cases order <;> cases refused
      | utf8Marked =>
        unfold Charset.decode at refused
        dsimp only at refused
        split at refused <;> cases refused
      | _ => cases refused
    · cases refused

/-! ### Texts -/

section Texts

variable [Yaml.Loader]

/-- The value that a text is read as in a format. What is no JSON is read as YAML, and what is
neither, or has no known format, stands for itself. -/
inductive ReadAs (s : String) : Option String → Value → Prop
  | json {v : Value} (reads : Json.read s.toList = .ok v) : ReadAs s (some "json") v
  | jsonAsYaml {v : Value} (unread : Json.read s.toList = .error .malformed)
    (reads : Yaml.Loader.load s.toList = .ok v) : ReadAs s (some "json") v
  | jsonAsText (unread : Json.read s.toList = .error .malformed)
    (unread' : Yaml.Loader.load s.toList = .error .malformed) : ReadAs s (some "json") (.text s)
  | yaml {v : Value} (reads : Yaml.Loader.load s.toList = .ok v) : ReadAs s (some "yaml") v
  | yamlAsText (unread : Yaml.Loader.load s.toList = .error .malformed) :
    ReadAs s (some "yaml") (.text s)
  | plain {format : Option String} (other : format ≠ some "json") (other' : format ≠ some "yaml") :
    ReadAs s format (.text s)

/-- Why a text is refused in a format: a number in JSON is too long, or the loader of YAML raises
something else than that the text is malformed. -/
inductive Stray (s : String) : Option String → ReadError → Prop
  | jsonNumber (count : Nat) (long : Numeral.HasLongRun s.toList) :
    Stray s (some "json") (.conversion (.tooManyDigits count))
  | yaml {format : Option String} {e : Yaml.ReadError}
    (known : format = some "json" ∧ Json.read s.toList = .error .malformed ∨ format = some "yaml")
    (raised : Yaml.Loader.load s.toList = .error e) (proper : e ≠ .malformed) :
    Stray s format (.yaml e)

theorem readYaml_cases (s : String) :
    (∃ v, Yaml.Loader.load s.toList = .ok v ∧ readYaml s = .ok v) ∨
      (Yaml.Loader.load s.toList = .error .malformed ∧ readYaml s = .ok (.text s)) ∨
      ∃ e, Yaml.Loader.load s.toList = .error e ∧ e ≠ .malformed ∧
        readYaml s = .error (.yaml e) := by
  unfold readYaml
  cases Yaml.Loader.load s.toList with
  | ok v => exact .inl ⟨v, rfl, rfl⟩
  | error e =>
    cases e with
    | malformed => exact .inr (.inl ⟨rfl, rfl⟩)
    | _ => exact .inr (.inr ⟨_, rfl, by simp, rfl⟩)

/-- **A text is read in a format**, or refused though it may have its form. -/
theorem readAs_or_stray (format : Option String) (s : String) :
    (∃ v, readText format s = .ok v ∧ ReadAs s format v) ∨
      ∃ e, readText format s = .error e ∧ Stray s format e := by
  unfold readText
  split
  · rename_i json
    subst json
    split
    · rename_i v reads
      exact .inl ⟨v, rfl, .json reads⟩
    · rename_i n long
      exact .inr ⟨_, rfl, .jsonNumber n (Json.hasLongRun_of_read long)⟩
    · rename_i unread
      obtain ⟨v, reads, given⟩ | ⟨unread', given⟩ | ⟨e, raised, proper, refused⟩ := readYaml_cases s
      · exact .inl ⟨v, given, .jsonAsYaml unread reads⟩
      · exact .inl ⟨_, given, .jsonAsText unread unread'⟩
      · exact .inr ⟨_, refused, .yaml (.inl ⟨rfl, unread⟩) raised proper⟩
  · rename_i other
    split
    · rename_i yaml
      subst yaml
      obtain ⟨v, reads, given⟩ | ⟨unread, given⟩ | ⟨e, raised, proper, refused⟩ := readYaml_cases s
      · exact .inl ⟨v, given, .yaml reads⟩
      · exact .inl ⟨_, given, .yamlAsText unread⟩
      · exact .inr ⟨_, refused, .yaml (.inr rfl) raised proper⟩
    · rename_i other'
      exact .inl ⟨_, rfl, .plain other other'⟩

end Texts

/-! ### Received data -/

/-- What is received: bytes, which may be a buffer, or a text. -/
inductive Received where
  | bytes (bs : List UInt8)
  | buffer (bs : List UInt8)
  | text (s : String)

namespace Received

/-- What is received as a value. -/
def value : Received → Value
  | bytes bs => .bytes bs
  | buffer bs => .buffer bs
  | text s => .text s

/-- The bytes, where there are such. -/
def bytes? : Received → Option (List UInt8)
  | bytes bs => some bs
  | buffer bs => some bs
  | text _ => none

end Received

theorem textOf_cases (r : Received) (contentType : Option String) :
    (∃ s, textOf contentType r.value = .ok s) ∨
      ∃ bs e, r.bytes? = some bs ∧ textOf contentType r.value = .error (.charset e) ∧
        Undecodable ((charsetName? contentType).getD []) bs e := by
  have decodes (bs : List UInt8) :
      (∃ s, ((decoded contentType bs).map String.ofList).mapError ReadError.charset = .ok s) ∨
        ∃ e, ((decoded contentType bs).map String.ofList).mapError ReadError.charset =
          .error (.charset e) ∧ Undecodable ((charsetName? contentType).getD []) bs e := by
    cases read : decoded contentType bs with
    | ok cs => exact .inl ⟨_, rfl⟩
    | error e => exact .inr ⟨e, rfl, undecodable_of_decoded read⟩
  cases r with
  | bytes bs => exact (decodes bs).imp id fun ⟨e, refused⟩ => ⟨bs, e, rfl, refused⟩
  | buffer bs => exact (decodes bs).imp id fun ⟨e, refused⟩ => ⟨bs, e, rfl, refused⟩
  | text s => exact .inl ⟨s, rfl⟩

/-- What comes of reading received data: the value of its text in the format that is given or found
out, or one of the faults that are none of form. -/
inductive Answers [Yaml.Loader] (contentType format : Option String) (r : Received) :
    Except ReadError Value → Prop
  | value {s : String} {v : Value} (text : textOf contentType r.value = .ok s)
    (reads : ReadAs s (selected contentType format s) v) : Answers contentType format r (.ok v)
  | stray {s : String} {e : ReadError} (text : textOf contentType r.value = .ok s)
    (fault : Stray s (selected contentType format s) e) : Answers contentType format r (.error e)
  | undecodable {bs : List UInt8} {e : Charset.Refusal} (bytes : r.bytes? = some bs)
    (fault : Undecodable ((charsetName? contentType).getD []) bs e) :
    Answers contentType format r (.error (.charset e))

/-- **Received data is read**, or refused for more than its form. -/
theorem answers_read [Yaml.Loader] (contentType format : Option String) (r : Received) :
    Answers contentType format r (read r.value contentType format) := by
  unfold read
  obtain ⟨s, text⟩ | ⟨bs, e, bytes, refused, fault⟩ := textOf_cases r contentType
  · rw [text]
    show Answers contentType format r (readText (selected contentType format s) s)
    obtain ⟨v, given, reads⟩ | ⟨e, refused, fault⟩ :=
      readAs_or_stray (selected contentType format s) s
    · rw [given]
      exact .value text reads
    · rw [refused]
      exact .stray text fault
  · rw [refused]
    exact .undecodable bytes fault

/-! ### Objects -/

theorem isInfix_trim (cs : List Char) : trim cs <:+: cs :=
  (Numeral.isPrefix_dropEndWhile _ _).isInfix.trans (List.dropWhile_suffix _).isInfix

/-- **The list or mapping that a text encodes** is found, or that there is none, unless the text has
a long run of digits. -/
theorem readObject_cases (cs : List Char) :
    (readObject cs = .ok none ∨ ∃ v, readObject cs = .ok (some v) ∧ v.IsCollection) ∨
      Numeral.HasLongRun cs := by
  unfold readObject
  dsimp only
  split
  · rename_i opens
    split
    · rename_i v read
      exact .inl (.inr ⟨v, rfl, Json.isCollection_of_read opens read⟩)
    · rename_i n long
      exact .inr ((Json.hasLongRun_of_read long).mono (isInfix_trim cs))
    · exact .inl (.inl rfl)
  · exact .inl (.inl rfl)

end Payload

end CommandScript
