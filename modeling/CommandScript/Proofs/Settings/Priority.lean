import Mathlib.Data.List.Basic
import Mathlib.Data.Subtype
import CommandScript.Proofs.Settings.Sources
import CommandScript.Settings.Building
import CommandScript.Yaml.Reader

/-!
# The priority of the sources of settings

Every setting is read from the value of the highest source that gives one, and from no other. Names
that mean nothing are refused. What was asked for before does not matter: a path is pending only
while the settings of its file are built, so that each request is answered from its own sources.

## Main definitions

- `CommandScript.Settings.Request.answer` — the settings of a request by itself
- `CommandScript.Settings.Follows` — settings that are read from what is given
- `CommandScript.Settings.Accepts` — names and options that are not refused
- `CommandScript.Settings.Refuses` — the faults of a value
- `CommandScript.Settings.Prioritized` — what sources come to

## Main results

- `CommandScript.Settings.run_finally` — a path is taken back however an action ends
- `CommandScript.Settings.Request.run_session` — requests do not bear on one another
- `CommandScript.Settings.read_eq_ok_iff` — when sources give settings
- `CommandScript.Settings.mem_of_read_eq_error` — the faults are those of what is given
- `CommandScript.Settings.prioritized_load` — a file's settings follow the priority
-/

namespace CommandScript.Settings

/-! ### What is pending -/

/-- Whatever comes of an action, nothing is pending at its end when that is seen to. -/
theorem run_finally {α : Type} {action : Building α} {r : Except LoadError α}
    {pending after : Pending}
    (acts : action.run pending = (r, after)) :
    (try action finally set (none : Pending) : Building α).run pending = (r, none) := by
  replace acts : action pending = (r, after) := acts
  show (tryFinally action (set (none : Pending)) : Building α) pending = _
  simp only [tryFinally, tryFinally', Functor.map, ExceptT.map, ExceptT.mk, bind, StateT.bind,
    pure, acts]
  cases r <;> rfl

section Pending

variable [Yaml.Loader] {files : Files} {path : String} {pending : Pending}
  {arguments : List (String × Value)} {environment : List (String × String)}

theorem run_construct : (construct files arguments environment).run pending =
    (settingsFor files pending arguments environment, pending) := by
  let settings := settingsFor files pending arguments environment
  show (liftExcept settings : Building Settings) pending = (settings, pending)
  cases settings <;> rfl

theorem settingsFor_some {bytes : List UInt8} (opened : files.opened path = .ok bytes) :
    settingsFor files (some path) arguments environment = (do
      (checkOptions arguments).mapError .option
      ofSources ⟨arguments, environment, ← fileData path bytes⟩) := by
  rw [settingsFor, pendingData, opened]
  rfl

/-- The settings for a file are those of its content, and nothing is pending after them. -/
theorem run_loadFile : (loadFile files path arguments environment).run none =
    (load path (files.opened path) arguments environment, none) := by
  by_cases twice : (arguments.lookup "path").isSome
  · simp only [loadFile, load, if_pos twice]
    rfl
  · simp only [loadFile, load, if_neg twice]
    cases opened : files.opened path with
    | error e => cases e <;> rfl
    | ok bytes =>
      show (try construct files arguments environment
        finally set (none : Pending) : Building Settings).run (some path) = _
      rw [run_finally run_construct, settingsFor_some opened]

namespace Request

/-- The settings of a request by itself. -/
def answer (r : Request) : Except LoadError Settings :=
  match r.path? with
  | none => gather r.arguments r.environment
  | some path => load path (r.files.opened path) r.arguments r.environment

theorem run_build (r : Request) : r.build.run none = (r.answer, none) := by
  obtain ⟨none | path, arguments, environment, files⟩ := r
  · exact run_construct
  · exact run_loadFile

/-- Nothing that is pending is left by requests, and each is answered as if it were alone. -/
theorem run_session (requests : List Request) :
    (session requests).run none = (requests.map answer, none) := by
  induction requests with
  | nil => rfl
  | cons r rs ih =>
    have asked : (session (r :: rs)).run none =
        (let (a, pending) := r.build.run none
         let (as, pending) := (session rs).run pending
         (a :: as, pending)) := by
      simp only [session, List.mapM_cons]
      rfl
    rw [asked, run_build]
    show (let (as, pending) := (session rs).run none; (r.answer :: as, pending)) = _
    rw [ih]
    rfl

end Request

end Pending

open Text

variable {ε α : Type} {arguments : List (String × Value)} {environment : List (String × String)}
  {document : Value} {given : List (Value × Value)} {named : List (String × Value)}
  {name path : String} {s : Sources} {x : Settings} {fault : Fault} {faults : List Fault}

/-! ### Reading what the sources give -/

/-- The value of a setting: what is read from the value that is given, or else what is usual. -/
def IsValue (reader : Value → Except ε α) (usual : α) (given : Option Value) (x : α) : Prop :=
  match given with
  | none => usual = x
  | some v => reader v = .ok x

/-- A value is refused for a setting with a fault. -/
inductive Refuses : String → Value → Fault → Prop
  | truth {name : String} {v : Value} {k : FaultKind}
      (mem : name ∈ ["text_errors", "debug", "log_json"]) (refused : readTruth v = .error k) :
      Refuses name v ⟨[name], k⟩
  | depth {v : Value} {k : FaultKind} (refused : readDepth v = .error k) :
      Refuses "max_depth" v ⟨["max_depth"], k⟩
  | names {v : Value} {fault : Fault} {faults : List Fault}
      (refused : readNames "disabled_functions" v = .error faults) (mem : fault ∈ faults) :
      Refuses "disabled_functions" v fault

theorem isValue_iff {reader : Value → Except ε α} {usual x : α} {given : Option Value} :
    (match given with
      | none => .ok usual
      | some v => reader v) = Except.ok x ↔ IsValue reader usual given x := by
  cases given <;> simp [IsValue]

theorem IsValue.iff_eq {reader : Value → Except ε α} {usual x y : α} {given : Option Value}
    (value : IsValue reader usual given x) : IsValue reader usual given y ↔ x = y := by
  rw [← isValue_iff] at value ⊢
  rw [value, Except.ok.injEq]

theorem field_eq_ok_iff {reader : Value → Except FaultKind α} {usual x : α} :
    field s name usual reader = .ok x ↔ IsValue reader usual (s.value? name) x := by
  unfold field IsValue
  cases s.value? name with
  | none => simp
  | some v =>
    show (reader v).mapError _ = .ok x ↔ reader v = .ok x
    cases reader v <;> simp [Except.mapError]

theorem mem_faultsOf_field {reader : Value → Except FaultKind α} {usual : α}
    (mem : fault ∈ faultsOf (field s name usual reader)) :
    ∃ v k, s.value? name = some v ∧ reader v = .error k ∧ fault = ⟨[name], k⟩ := by
  rw [field] at mem
  split at mem
  · cases mem
  · rename_i v given
    cases refused : reader v with
    | ok x =>
      rw [refused] at mem
      cases mem
    | error k =>
      rw [refused] at mem
      exact ⟨v, k, given, refused, List.mem_singleton.1 mem⟩

theorem read_eq_ok_iff : read s = .ok x ↔
    IsValue readTruth usual.textErrors (s.value? "text_errors") x.textErrors ∧
    IsValue readDepth ⟨usual.maxDepth, usual.one_le_maxDepth⟩ (s.value? "max_depth")
      ⟨x.maxDepth, x.one_le_maxDepth⟩ ∧
    IsValue (readNames "disabled_functions") usual.disabledFunctions
      (s.value? "disabled_functions") x.disabledFunctions ∧
    IsValue readTruth usual.debug (s.value? "debug") x.debug ∧
    IsValue readTruth usual.logJson (s.value? "log_json") x.logJson ∧
    s.unknownNames = [] := by
  simp only [← field_eq_ok_iff]
  unfold read
  dsimp only
  split
  · rename_i t d f b j isT isD isF isB isJ known
    rw [isT, isD, isB, isJ, (isValue_iff.1 isF).iff_eq, List.map_eq_nil_iff.1 known]
    obtain ⟨xt, xd, le, xf, xb, xj⟩ := x
    simp [Subtype.ext_iff]
  · rename_i unsettled
    constructor
    · nofun
    · rintro ⟨isT, isD, isF, isB, isJ, known⟩
      exact (unsettled _ _ _ _ _ isT isD (isValue_iff.2 isF) isB isJ
        (List.map_eq_nil_iff.2 known)).elim

theorem mem_of_read_eq_error (refused : read s = .error faults) (mem : fault ∈ faults) :
    (∃ n ∈ s.unknownNames, fault = ⟨[n], .unknownField⟩) ∨
      ∃ name v, s.value? name = some v ∧ Refuses name v fault := by
  unfold read at refused
  dsimp only at refused
  split at refused
  · cases refused
  · cases refused
    simp only [List.mem_append, or_assoc] at mem
    obtain here | here | here | here | here | here := mem
    · obtain ⟨v, k, given, refused, rfl⟩ := mem_faultsOf_field here
      exact .inr ⟨_, v, given, .truth (by decide) refused⟩
    · obtain ⟨v, k, given, refused, rfl⟩ := mem_faultsOf_field here
      exact .inr ⟨_, v, given, .depth refused⟩
    · split at here
      · cases here
      · rename_i v given
        cases refused : readNames "disabled_functions" v with
        | ok names =>
          rw [refused] at here
          cases here
        | error faults =>
          rw [refused] at here
          exact .inr ⟨_, v, given, .names refused here⟩
    · obtain ⟨v, k, given, refused, rfl⟩ := mem_faultsOf_field here
      exact .inr ⟨_, v, given, .truth (by decide) refused⟩
    · obtain ⟨v, k, given, refused, rfl⟩ := mem_faultsOf_field here
      exact .inr ⟨_, v, given, .truth (by decide) refused⟩
    · obtain ⟨n, mem, rfl⟩ := List.mem_map.1 here
      exact .inl ⟨n, mem, rfl⟩

/-! ### Names and options -/

theorem mem_unknownNames {n : String} : n ∈ s.unknownNames ↔
    n ∈ s.document.map (·.1) ∧ n ∉ fieldNames ∨
      n ∈ s.arguments.map (·.1) ∧ lowered n ∉ fieldNames ∧ n ∉ optionNames := by
  simp [Sources.unknownNames]

/-- A name that means nothing: of an argument, or of a key of a document. -/
def IsUnknown (arguments : List (String × Value)) (given : List (Value × Value)) (n : String) :
    Prop :=
  (∃ a ∈ arguments, a.1 = n ∧ lowered n ∉ fieldNames ∧ n ∉ optionNames) ∨
    ∃ e ∈ given, documentName e.1 = .ok n ∧ n ∉ fieldNames

theorem isUnknown_iff (names : Named given named) {n : String} :
    IsUnknown arguments given n ↔
      n ∈ (⟨arguments, environment, Table.ofList named⟩ : Sources).unknownNames := by
  have keys : (∃ e ∈ given, documentName e.1 = .ok n) ↔ n ∈ named.map (·.1) := by
    induction names with
    | nil => simp
    | cons entry _ ih =>
      rw [List.exists_mem_cons_iff, List.map_cons, List.mem_cons, ih, entry.1, Except.ok.injEq,
        eq_comm]
  rw [mem_unknownNames, Table.mem_map_fst_ofList, ← keys, IsUnknown]
  simp only [List.mem_map]
  grind

/-- What is not refused among arguments and the entries of a document: names that mean something,
and options that are of use. -/
structure Accepts (arguments : List (String × Value)) (given : List (Value × Value)) : Prop where
  names : ∀ a ∈ arguments, lowered a.1 ∈ fieldNames ∨ a.1 ∈ optionNames
  keys : ∀ e ∈ given, ∃ n ∈ fieldNames, documentName e.1 = .ok n
  start : ∀ v, Search.option? arguments "_env_prefix" = some v → v.text?.isSome
  file : ∀ v, Search.option? arguments "_env_file" = some v → hasItems v = true

theorem hasItems_of_isSome_text? {v : Value} (isText : v.text?.isSome) : hasItems v = true := by
  cases v with
  | text => rfl
  | derivedText => rfl
  | _ => cases isText

theorem checkStart_eq_ok_iff : checkStart arguments name = .ok () ↔
    ∀ v, Search.option? arguments "_env_prefix" = some v → v.text?.isSome := by
  unfold checkStart
  split
  · rename_i none
    simp [none]
  · rename_i v some
    simp [some, Option.isSome_iff_ne_none]

theorem checkOptions_eq_ok_iff : checkOptions arguments = .ok () ↔
    (∀ v, Search.option? arguments "_env_prefix" = some v → hasItems v = true) ∧
      ∀ v, Search.option? arguments "_env_file" = some v → hasItems v = true := by
  have fits {o : Option Value} : (o.filter fun v => !hasItems v) = none ↔
      ∀ v, o = some v → hasItems v = true := by
    cases o <;> simp [Option.filter]
  rw [← fits, ← fits]
  unfold checkOptions
  dsimp only
  split
  · rename_i first
    simp [first]
  · rename_i second
    simp [second]
  · rename_i first second
    simp [first, second]

/-! ### Settings that follow the priority -/

/-- A setting with the value that the highest source gives. -/
def Obtains (arguments : List (String × Value)) (environment : List (String × String))
    (given : List (Value × Value)) (name : String) (reader : Value → Except ε α) (usual x : α) :
    Prop :=
  ∃ answer, Gives arguments environment given name answer ∧ IsValue reader usual answer x

/-- Settings each of which has the value that the highest source gives. -/
structure Follows (arguments : List (String × Value)) (environment : List (String × String))
    (given : List (Value × Value)) (x : Settings) : Prop where
  textErrors : Obtains arguments environment given "text_errors" readTruth usual.textErrors
    x.textErrors
  maxDepth : Obtains arguments environment given "max_depth" readDepth
    ⟨usual.maxDepth, usual.one_le_maxDepth⟩ ⟨x.maxDepth, x.one_le_maxDepth⟩
  disabledFunctions : Obtains arguments environment given "disabled_functions"
    (readNames "disabled_functions") usual.disabledFunctions x.disabledFunctions
  debug : Obtains arguments environment given "debug" readTruth usual.debug x.debug
  logJson : Obtains arguments environment given "log_json" readTruth usual.logJson x.logJson

/-- What comes of sources: the settings that follow the priority, where names and options are
accepted, and otherwise no settings. Faults of values are only those of values that are given. -/
structure Prioritized (arguments : List (String × Value)) (environment : List (String × String))
    (given : List (Value × Value)) (answer : Except LoadError Settings) : Prop where
  settings : ∀ x, answer = .ok x ↔
    Accepts arguments given ∧ Follows arguments environment given x
  faults : ∀ faults, answer = .error (.invalid faults) → ∀ fault ∈ faults,
    (∃ n, IsUnknown arguments given n ∧ fault = ⟨[n], .unknownField⟩) ∨
      ∃ name v, Gives arguments environment given name (some v) ∧ Refuses name v fault

/-- A setting's value, found through the names that the keys of a document spell. -/
theorem obtains_iff (names : Named given named) {reader : Value → Except ε α} {usual x : α} :
    Obtains arguments environment given name reader usual x ↔ IsValue reader usual
      ((⟨arguments, environment, Table.ofList named⟩ : Sources).value? name) x := by
  simp [Obtains, gives_iff names]

theorem follows_and_known_iff (names : Named given named) :
    read ⟨arguments, environment, Table.ofList named⟩ = .ok x ↔
      Follows arguments environment given x ∧ ∀ n, ¬IsUnknown arguments given n := by
  have known : (∀ n, ¬IsUnknown arguments given n) ↔
      (⟨arguments, environment, Table.ofList named⟩ : Sources).unknownNames = [] := by
    rw [List.eq_nil_iff_forall_not_mem]
    exact forall_congr' fun n => not_congr (isUnknown_iff names)
  rw [known, read_eq_ok_iff]
  simp only [← obtains_iff names]
  constructor
  · rintro ⟨isT, isD, isF, isB, isJ, none⟩
    exact ⟨⟨isT, isD, isF, isB, isJ⟩, none⟩
  · rintro ⟨⟨isT, isD, isF, isB, isJ⟩, none⟩
    exact ⟨isT, isD, isF, isB, isJ, none⟩

theorem accepts_iff (names : Named given named) : Accepts arguments given ↔
    checkOptions arguments = .ok () ∧ checkStart arguments name = .ok () ∧
      ∀ n, ¬IsUnknown arguments given n := by
  have spells : ∀ e ∈ given, ∃ n, documentName e.1 = .ok n := by
    intro e mem
    induction names with
    | nil => cases mem
    | cons entry _ ih =>
      obtain rfl | mem := List.mem_cons.1 mem
      · exact ⟨_, entry.1⟩
      · exact ih mem
  rw [checkOptions_eq_ok_iff, checkStart_eq_ok_iff]
  constructor
  · intro accepts
    refine ⟨⟨fun v some => hasItems_of_isSome_text? (accepts.start v some), accepts.file⟩,
      accepts.start, ?_⟩
    rintro n (⟨a, mem, rfl, noField, noOption⟩ | ⟨e, mem, spells, noField⟩)
    · exact (accepts.names a mem).elim noField noOption
    · obtain ⟨n', isField, spells'⟩ := accepts.keys e mem
      rw [spells] at spells'
      cases spells'
      exact noField isField
  · rintro ⟨⟨-, file⟩, start, known⟩
    refine ⟨fun a mem => ?_, fun e mem => ?_, start, file⟩
    · by_contra unknown
      rw [not_or] at unknown
      exact known a.1 (.inl ⟨a, mem, rfl, unknown⟩)
    · obtain ⟨n, spells⟩ := spells e mem
      refine ⟨n, ?_, spells⟩
      by_contra noField
      exact known n (.inr ⟨e, mem, spells, noField⟩)

/-- What comes of sources whose options are looked at first. -/
def checked (s : Sources) : Except LoadError Settings := do
  (checkOptions s.arguments).mapError .option
  ofSources s

theorem checked_eq_ok_iff : checked s = .ok x ↔
    checkOptions s.arguments = .ok () ∧ checkStart s.arguments "text_errors" = .ok () ∧
      read s = .ok x := by
  rw [checked, ofSources]
  cases checkOptions s.arguments with
  | error e => exact ⟨nofun, fun fine => nomatch fine.1⟩
  | ok _ =>
    cases checkStart s.arguments "text_errors" with
    | error e => exact ⟨nofun, fun fine => nomatch fine.2.1⟩
    | ok _ =>
      show (read s).mapError LoadError.invalid = .ok x ↔ _
      cases read s <;> simp [Except.mapError]

theorem read_of_checked_eq_invalid (refused : checked s = .error (.invalid faults)) :
    read s = .error faults := by
  rw [checked, ofSources] at refused
  cases options : checkOptions s.arguments with
  | error e =>
    rw [options] at refused
    cases refused
  | ok _ =>
    cases start : checkStart s.arguments "text_errors" with
    | error e =>
      rw [options, start] at refused
      cases refused
    | ok _ =>
      rw [options, start] at refused
      change (read s).mapError LoadError.invalid = _ at refused
      cases reads : read s <;> rw [reads] at refused <;> cases refused
      rfl

theorem prioritized_checked (names : Named given named) :
    Prioritized arguments environment given
      (checked ⟨arguments, environment, Table.ofList named⟩) := by
  refine ⟨fun x => ?_, fun faults refused fault mem => ?_⟩
  · rw [checked_eq_ok_iff, follows_and_known_iff names, accepts_iff names]
    exact ⟨fun ⟨options, start, follows, known⟩ => ⟨⟨options, start, known⟩, follows⟩,
      fun ⟨⟨options, start, known⟩, follows⟩ => ⟨options, start, follows, known⟩⟩
  · obtain ⟨n, unknown, rfl⟩ | ⟨name, v, gives, refuses⟩ :=
      mem_of_read_eq_error (read_of_checked_eq_invalid refused) mem
    · exact .inl ⟨n, (isUnknown_iff names).2 unknown, rfl⟩
    · exact .inr ⟨name, v, (gives_iff names).2 gives, refuses⟩

theorem prioritized_gather : Prioritized arguments environment [] (gather arguments environment) :=
  prioritized_checked .nil

theorem not_accepts_of_path (twice : (arguments.lookup "path").isSome) :
    ¬Accepts arguments given := by
  intro accepts
  obtain ⟨a, mem, same⟩ := List.mem_map.1 ((Table.isSome_lookup arguments "path").1 twice)
  have name := accepts.names a mem
  rw [same] at name
  exact absurd name (by decide)

theorem documentName_ne_invalid {key : Value} :
    documentName key ≠ .error (.invalid faults) := by
  rw [documentName]
  cases key.plainText with
  | error e => nofun
  | ok s => nofun

/-- A document with a key that has no name is refused, and not for a value. -/
theorem documentData_eq_error (describes : Describes document given) {e : LoadError}
    (refused : documentData path document = .error e) :
    (∀ {arguments}, ¬Accepts arguments given) ∧ ∀ faults, e ≠ .invalid faults := by
  rw [documentData_eq describes] at refused
  cases named : given.mapM fun (e : Value × Value) => do return (← documentName e.1, e.2) with
  | ok named' =>
    rw [named] at refused
    cases refused
  | error e' =>
    rw [named] at refused
    cases refused
    obtain ⟨entry, mem, failed⟩ := exists_of_mapM_eq_error named
    cases spells : documentName entry.1 with
    | ok n =>
      rw [spells] at failed
      cases failed
    | error e =>
      rw [spells] at failed
      cases failed
      refine ⟨fun accepts => ?_, ?_⟩
      · obtain ⟨n, -, spells'⟩ := accepts.keys entry mem
        rw [spells] at spells'
        cases spells'
      · rintro faults rfl
        exact absurd spells documentName_ne_invalid

theorem fileText_encode {cs : List Char} (ascii : cs.all (·.toNat < 0x80) = true) :
    fileText (Utf8.encode cs) = .ok (withPlainLineEnds cs) := by
  rw [fileText, Utf8.decode_encode ascii]
  rfl

section File

variable [Yaml.Loader]

theorem fileData_eq {bytes : List UInt8} {cs : List Char} (text : fileText bytes = .ok cs)
    (reads : Yaml.Loader.load cs = .ok document) :
    fileData path bytes = documentData path document := by
  simp only [fileData, text, Except.mapError, bind, Except.bind, reads]

theorem prioritized_load {bytes : List UInt8} {cs : List Char} (text : fileText bytes = .ok cs)
    (reads : Yaml.Loader.load cs = .ok document) (describes : Describes document given) :
    Prioritized arguments environment given (load path (.ok bytes) arguments environment) := by
  by_cases twice : (arguments.lookup "path").isSome
  · rw [load.eq_def, if_pos twice]
    exact ⟨fun x => ⟨nofun, fun fine => (not_accepts_of_path twice fine.1).elim⟩, nofun⟩
  · rw [load.eq_def, if_neg twice]
    dsimp only
    rw [fileData_eq text reads]
    cases gives : documentData path document with
    | ok data =>
      obtain ⟨named, names, rfl⟩ := (documentData_eq_ok_iff describes).1 gives
      exact prioritized_checked names
    | error e =>
      obtain ⟨unaccepted, noValue⟩ := documentData_eq_error describes gives
      have refuses (x : Settings) : ¬(Accepts arguments given ∧
          Follows arguments environment given x) := fun fine => unaccepted fine.1
      cases checkOptions arguments with
      | error _ => exact ⟨fun x => ⟨nofun, fun fine => (refuses x fine).elim⟩, nofun⟩
      | ok _ =>
        refine ⟨fun x => ⟨nofun, fun fine => (refuses x fine).elim⟩, ?_⟩
        rintro faults ⟨⟩
        exact (noValue faults rfl).elim

end File

/-- How settings are looked for in the environment where no option says otherwise. -/
def Search.standard : Search where
  start := environmentStart
  exactCase := false
  skipsEmpty := false
  nullWord? := none
  separator? := none

theorem Search.ofArguments_eq_standard (plain : ∀ a ∈ arguments, a.1 ∉ optionNames) :
    Search.ofArguments arguments = .standard := by
  have unset (option : String) (mem : option ∈ optionNames) :
      Search.option? arguments option = none := by
    have missing : arguments.lookup option = none := by
      rw [List.lookup_eq_none_iff]
      intro a there
      exact bne_iff_ne.2 fun same => plain a there (same ▸ mem)
    rw [Search.option?, missing]
  simp only [ofArguments, isOn, unset "_env_prefix" (by decide),
    unset "_case_sensitive" (by decide), unset "_env_ignore_empty" (by decide),
    unset "_env_parse_none_str" (by decide), unset "_env_nested_delimiter" (by decide)]
  rfl

namespace Request

section Session

variable [Yaml.Loader]

/-- What comes of a request after others. -/
def answerAfter (past : List Request) (r : Request) : Except LoadError Settings :=
  (r.build.run ((session past).run none).2).1

theorem answerAfter_eq (past : List Request) (r : Request) : answerAfter past r = r.answer := by
  rw [answerAfter, run_session, run_build]

/-- **Settings follow the priority of their sources, whatever was asked for before.** -/
theorem follows_priority (past : List Request) (arguments : List (String × Value))
    (environment : List (String × String)) (files : Files) :
    ((session past).run none).2 = none ∧
      (∀ path bytes cs document given, files.opened path = .ok bytes → fileText bytes = .ok cs →
        Yaml.Loader.load cs = .ok document → Describes document given →
        Prioritized arguments environment given
          (answerAfter past ⟨some path, arguments, environment, files⟩)) ∧
      answerAfter past ⟨none, arguments, environment, files⟩ = gather arguments environment ∧
      Prioritized arguments environment [] (gather arguments environment) ∧
      ((∀ a ∈ arguments, a.1 ∉ optionNames) → Search.ofArguments arguments = .standard) := by
  refine ⟨by rw [run_session], ?_, answerAfter_eq past _, prioritized_gather,
    Search.ofArguments_eq_standard⟩
  intro path bytes cs document given opened text reads describes
  rw [answerAfter_eq]
  show Prioritized _ _ _ (load path (files.opened path) arguments environment)
  rw [opened]
  exact prioritized_load text reads describes

end Session

section Witness

open Yaml

/-- A part with the same setting in two spellings. -/
def twoDepths : Node :=
  .mapping (standardTag "map")
    [(.scalar (standardTag "str") "max-depth".toList, .scalar (standardTag "int") "20".toList),
      (.scalar (standardTag "str") "max_depth".toList, .scalar (standardTag "str") "many".toList)]

theorem valueOf_twoDepths : valueOf twoDepths =
    .ok (.map [(.text "max-depth", .int 20), (.text "max_depth", .text "many")]) := by
  rw [twoDepths, valueOf, if_pos rfl]
  simp only [entryValues, keyValue, valueOf, Node.tag]
  show Except.ok (Value.map (Value.ofEntries
    [(.text "max-depth", .int 20), (.text "max_depth", .text "many")])) = _
  simp [Value.ofEntries, Value.insertEntry, Value.sameKey_text]

set_option maxRecDepth 8000 in
theorem read_twoDepths : Yaml.read "tgscript:\n  max-depth: 20\n  max_depth: many\n".toList =
    .ok (.map [(.text "tgscript",
      .map [(.text "max-depth", .int 20), (.text "max_depth", .text "many")])]) := by
  have describes : document "tgscript:\n  max-depth: 20\n  max_depth: many\n".toList =
      .ok (some (.mapping (standardTag "map")
        [(.scalar (standardTag "str") "tgscript".toList, twoDepths)])) := rfl
  rw [read_of_document describes, valueOf, if_pos rfl]
  simp only [entryValues, keyValue, valueOf_twoDepths, Node.tag]
  rfl

set_option maxRecDepth 4000 in
theorem fileText_twoDepths :
    fileText (Text.Utf8.encode "tgscript:\n  max-depth: 20\n  max_depth: many\n".toList) =
      .ok "tgscript:\n  max-depth: 20\n  max_depth: many\n".toList :=
  fileText_encode rfl

end Witness

/-- A value that the environment overrides is not looked at, and no trace of failures is left. -/
theorem follows_priority_overridden :
    let files : Files := [("bot.yaml",
      Text.Utf8.encode "tgscript:\n  max-depth: 20\n  max_depth: many\n".toList)]
    let past : List Request := [⟨some "bot.yaml", [("max_depth", .int 0)], [], files⟩,
      ⟨some "none.yaml", [], [], files⟩]
    let answer := answerAfter past
      ⟨some "bot.yaml", [("debug", .bool true)], [("TGSCRIPT_MAX_DEPTH", "7")], files⟩
    Prioritized [("debug", .bool true)] [("TGSCRIPT_MAX_DEPTH", "7")]
        [(.text "max-depth", .int 20), (.text "max_depth", .text "many")] answer ∧
      answer = .ok ⟨true, 7, by decide, [], true, false⟩ ∧
      answerAfter past ⟨none, [], [], files⟩ = .ok usual := by
  intro files past answer
  have kept := follows_priority past [("debug", .bool true)] [("TGSCRIPT_MAX_DEPTH", "7")] files
  have found (part : Value) :
      Value.lookupText? [(.text "tgscript", part)] "tgscript" = some part := by
    simp [Value.lookupText?, Value.lookup?, Value.sameKey_text]
  have describes : Describes (.map [(.text "tgscript",
      .map [(.text "max-depth", .int 20), (.text "max_depth", .text "many")])]) _ :=
    .part (found _) rfl
  refine ⟨kept.2.1 "bot.yaml" _ _ _ _ rfl fileText_twoDepths read_twoDepths describes, ?_, ?_⟩
  · refine (answerAfter_eq _ _).trans ?_
    show (do
      (checkOptions [("debug", .bool true)]).mapError LoadError.option
      ofSources ⟨[("debug", .bool true)], [("TGSCRIPT_MAX_DEPTH", "7")],
        ← fileData "bot.yaml" _⟩) = _
    rw [fileData_eq fileText_twoDepths read_twoDepths, documentData_eq describes]
    rfl
  · rw [answerAfter_eq]
    rfl

end Request

end CommandScript.Settings
