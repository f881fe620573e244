import CommandScript.Proofs.Settings.Priority

/-!
# Files that hold no settings

What comes of a request for a file whose text is no YAML, names values that there are not, or has
another shape than settings have. A document that is no mapping is refused, and so is a part for
these settings that is none. Both only as far as they count as given: a document or a part that is
false, zero or empty is passed over like one that is missing.

## Main definitions

- `CommandScript.Settings.Misshapen` — a document with something in it that should be a mapping

## Main results

- `CommandScript.Settings.load_eq` — the settings for a file whose options are in order
- `CommandScript.Settings.Request.answer_of_file` — what comes of the content of a file
- `CommandScript.Settings.Request.files_judged` — what comes of every file
- `CommandScript.Settings.Request.not_always_refused` — an empty list counts as no document
-/

namespace CommandScript

namespace Settings

variable {path : String} {bytes : List UInt8} {cs : List Char} {document part : Value}
  {es : List (Value × Value)} {arguments : List (String × Value)}
  {environment : List (String × String)}

/-- A document that is no mapping, or one with a part for these settings that is none. -/
inductive Misshapen : Value → Value → Prop
  | whole {document : Value} (other : document.entries? = none) : Misshapen document document
  | part {es : List (Value × Value)} {part : Value}
    (found : Value.lookupText? es "tgscript" = some part) (other : part.entries? = none) :
    Misshapen (.map es) part

/-- The refusal of something that should be a mapping: of a document by its path, and of a part by
its type. -/
def refusal (path : String) (document part : Value) : LoadError :=
  if document.entries? = none then .noMapping path else .noEntries part.fullTypeName

theorem documentPart_of_not_isTruthy (empty : document.isTruthy = false) :
    documentPart path document = .ok (.map []) := by
  show (if !document.isTruthy then _ else _) = _
  rw [empty]
  rfl

theorem documentPart_of_entries?_eq_none (given : document.isTruthy = true)
    (other : document.entries? = none) : documentPart path document = .error (.noMapping path) := by
  show (if !document.isTruthy then _ else _) = _
  rw [given]
  cases document <;> first | rfl | cases other

theorem documentPart_part (found : Value.lookupText? es "tgscript" = some part) :
    documentPart path (.map es) = .ok part := by
  rw [documentPart_map, found]
  rfl

/-- What counts as not given is passed over. -/
theorem Misshapen.documentData_of_not_isTruthy (misshapen : Misshapen document part)
    (empty : part.isTruthy = false) : documentData path document = .ok [] := by
  cases misshapen with
  | whole =>
    exact Settings.documentData_of_not_isTruthy (documentPart_of_not_isTruthy empty) rfl
  | part found => exact Settings.documentData_of_not_isTruthy (documentPart_part found) empty

/-- What is given is refused. -/
theorem Misshapen.documentData_of_isTruthy (misshapen : Misshapen document part)
    (given : part.isTruthy = true) :
    documentData path document = .error (refusal path document part) := by
  cases misshapen with
  | whole other =>
    rw [documentData, documentPart_of_entries?_eq_none given other, refusal, if_pos other]
    rfl
  | @part es part found other =>
    have mapping : (Value.map es).entries? ≠ none := Option.some_ne_none es
    rw [documentData_of_part (documentPart_part found), given, other, refusal, if_neg mapping]
    rfl

theorem gather_eq (options : checkOptions arguments = .ok ()) :
    gather arguments environment = ofSources ⟨arguments, environment, []⟩ := by
  rw [gather, options]
  rfl

section File

variable [Yaml.Loader]

/-- The settings for a file, where its path is given once and the options are in order. -/
theorem load_eq (once : arguments.lookup "path" = none)
    (options : checkOptions arguments = .ok ()) :
    load path (.ok bytes) arguments environment =
      fileData path bytes >>= fun data => ofSources ⟨arguments, environment, data⟩ := by
  have single : ¬(arguments.lookup "path").isSome = true := by simp [once]
  rw [load.eq_def, if_neg single, options]
  rfl

theorem fileData_of_undecodable {e : Text.Utf8.DecodeError} (text : fileText bytes = .error e) :
    fileData path bytes = .error (.undecodable e) := by
  rw [fileData, text]
  rfl

theorem fileData_of_read_eq_error {e : Yaml.ReadError} (text : fileText bytes = .ok cs)
    (failed : Yaml.Loader.load cs = .error e) :
    fileData path bytes = .error (if e = .malformed then .malformed path else .value e) := by
  simp only [fileData, text, Except.mapError, bind, Except.bind, failed]
  split
  · contradiction
  · rename_i same
    cases same
    rfl
  · rename_i other same
    cases same
    rw [if_neg fun malformed => other (by rw [malformed])]
    rfl

end File

namespace Request

/-- The request for the settings of a file. -/
abbrev ofFile (path : String) (arguments : List (String × Value))
    (environment : List (String × String)) (files : Files) : Request :=
  ⟨some path, arguments, environment, files⟩

section Judging

variable [Yaml.Loader] {files : Files}

/-- What comes of the content of a file, whatever was asked for before. -/
theorem answer_of_file (past : List Request) (opened : files.opened path = .ok bytes)
    (once : arguments.lookup "path" = none) (options : checkOptions arguments = .ok ()) :
    answerAfter past (ofFile path arguments environment files) =
      fileData path bytes >>= fun data => ofSources ⟨arguments, environment, data⟩ := by
  rw [answerAfter_eq]
  show load path (files.opened path) arguments environment = _
  rw [opened]
  exact load_eq once options

/-- **Files that hold no settings are refused, as far as there is something in them.** Take any
loader of YAML and a file with any content, whatever was asked for before, where the path is given
once and the options are in order. Bytes that are no text, and a text that is no YAML, are refused.
Any other failure of the loader is the answer as it is, of whatever kind. A document that is no
mapping is refused as a wrong value if it counts as given, and so, but as something without entries,
is a part for these settings that is no mapping. Where these do not count as given, the settings are
those without any document. -/
theorem files_judged (past : List Request) (path : String) (files : Files) (bytes : List UInt8)
    (arguments : List (String × Value)) (environment : List (String × String))
    (opened : files.opened path = .ok bytes) (once : arguments.lookup "path" = none)
    (options : checkOptions arguments = .ok ()) :
    let answer := answerAfter past (ofFile path arguments environment files)
    (∀ e, fileText bytes = .error e → answer = .error (.undecodable e)) ∧
      ∀ cs, fileText bytes = .ok cs →
        (Yaml.Loader.load cs = .error .malformed → answer = .error (.malformed path)) ∧
        (∀ e, Yaml.Loader.load cs = .error e → e ≠ .malformed → answer = .error (.value e)) ∧
        ∀ document part, Yaml.Loader.load cs = .ok document → Misshapen document part →
          if part.isTruthy then
            ∃ e, answer = .error e ∧
              e.kind = if document.entries? = none then "ValueError" else "AttributeError"
          else answer = gather arguments environment := by
  intro answer
  have found : answer =
      fileData path bytes >>= fun data => ofSources ⟨arguments, environment, data⟩ :=
    answer_of_file past opened once options
  have refused {e : LoadError} (fails : fileData path bytes = .error e) : answer = .error e := by
    rw [found, fails]
    rfl
  refine ⟨fun e text => refused (fileData_of_undecodable text), fun cs text => ⟨?_, ?_, ?_⟩⟩
  · exact fun failed => refused (fileData_of_read_eq_error text failed)
  · intro e failed formed
    refine refused ?_
    rw [fileData_of_read_eq_error text failed, if_neg formed]
  · intro document part reads misshapen
    have data : fileData path bytes = documentData path document := fileData_eq text reads
    split
    · rename_i given
      refine ⟨refusal path document part, refused ?_, ?_⟩
      · rw [data, misshapen.documentData_of_isTruthy given]
      · unfold refusal
        split <;> rfl
    · rename_i empty
      rw [found, data, misshapen.documentData_of_not_isTruthy (Bool.not_eq_true _ ▸ empty),
        gather_eq options]
      rfl

end Judging

section Witness

open Yaml

theorem read_oneItem : Yaml.read "[1]\n".toList = .ok (.list [.int 1]) := by
  have describes : document "[1]\n".toList =
      .ok (some (.sequence (standardTag "seq") [.scalar (standardTag "int") ['1']])) := rfl
  rw [read_of_document describes, valueOf, if_pos rfl, itemValues, valueOf, itemValues]
  rfl

theorem read_emptyList : Yaml.read "[]\n".toList = .ok (.list []) := by
  have describes : document "[]\n".toList = .ok (some (.sequence (standardTag "seq") [])) := rfl
  rw [read_of_document describes, valueOf, if_pos rfl, itemValues]
  rfl

end Witness

/-- A list with an item is refused as a wrong value. -/
theorem files_judged_list :
    let files : Files := [("bot.yaml", Text.Utf8.encode "[1]\n".toList)]
    files.opened "bot.yaml" = .ok (Text.Utf8.encode "[1]\n".toList) ∧
      checkOptions [] = .ok () ∧
      ∃ e, answerAfter [] (ofFile "bot.yaml" [] [] files) = .error e ∧ e.kind = "ValueError" := by
  intro files
  have text : fileText (Text.Utf8.encode "[1]\n".toList) = .ok "[1]\n".toList := fileText_encode rfl
  obtain ⟨-, judged⟩ := files_judged [] "bot.yaml" files _ [] [] rfl rfl rfl
  obtain ⟨-, -, shaped⟩ := judged _ text
  exact ⟨rfl, rfl, shaped _ _ read_oneItem (.whole rfl)⟩

/-- **A document that is no mapping is not always refused**: an empty list counts as no document. -/
theorem not_always_refused :
    ¬∀ (path : String) (files : Files) (bytes : List UInt8) (cs : List Char)
      (document part : Value), files.opened path = .ok bytes → fileText bytes = .ok cs →
      Yaml.Loader.load cs = .ok document → Misshapen document part → part ≠ .null →
      ∃ e, answerAfter [] (ofFile path [] [] files) = .error e ∧
        e.kind ∈ ["ValueError", "ValidationError"] := by
  intro always
  let files : Files := [("bot.yaml", Text.Utf8.encode "[]\n".toList)]
  have text : fileText (Text.Utf8.encode "[]\n".toList) = .ok "[]\n".toList := fileText_encode rfl
  obtain ⟨e, refused, -⟩ := always "bot.yaml" files _ _ _ _ rfl text read_emptyList (.whole rfl)
    fun same => by cases same
  have passed : answerAfter [] (ofFile "bot.yaml" [] [] files) = .ok usual := by
    rw [answer_of_file [] rfl rfl rfl, fileData_eq text read_emptyList,
      (Misshapen.whole rfl).documentData_of_not_isTruthy rfl]
    rfl
  cases passed.symm.trans refused

end Request

end Settings

end CommandScript
