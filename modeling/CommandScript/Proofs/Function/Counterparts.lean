import CommandScript.Function.Registry

/-!
# Registries that are alike

Looking up a key and making a change depend on few entries of the registries: those that are
consulted one after the other. Two registries, each among registries of its own, are counterparts if
they are for the same version and lie over the same registries. If they agree on the entries that
are consulted, the same is found in both; and the same change, which reads nothing but such entries,
tells the same about both, fails alike, and leaves them in agreement on what they agreed on before.

## Main definitions

- `CommandScript.Registries.consulted` — the registries in which a key is looked up
- `CommandScript.Registries.changeReads` — the entries that a change reads
- `CommandScript.Registries.Extends` — registries that are still there, over the same ones
- `CommandScript.Registries.Counterparts` — registries that are alike
- `CommandScript.Registries.AgreeAt` — when counterparts agree on an entry

## Main results

- `CommandScript.Registries.find?_congr` — what is found depends only on what is consulted
- `CommandScript.Registries.apply_alike` — the same change to two counterparts
- `CommandScript.Registries.layer_alike` — new registries over the same one are counterparts

## Design notes

Registries are referred to by the order of their creation, so that two registries which take the
same part have different references where other registries were created in between. This is why the
reference of a counterpart may be another one.
-/

namespace CommandScript

namespace Registries

/-- An entry of a registry: the registry and the key. -/
abbrev Entry := Handle × String

/-- What a registry holds itself under a key. -/
def held? (rs : Registries) (h : Handle) (key : String) : Option (Descriptor Callback) :=
  (rs.entries h).get? key

/-- Those of some registries, the nearest first, in which a key is looked up: up to the first one
that holds it. -/
def consulted (rs : Registries) (key : String) : List Handle → List Handle
  | [] => []
  | a :: as => a :: if (rs.held? a key).isSome then [] else rs.consulted key as

/-- The entries that are read when a key is looked up. -/
def findReads (rs : Registries) (h : Handle) (key : String) : List Entry :=
  (rs.consulted key (rs.chain h)).map (·, key)

/-- The entries that are read when a function is registered under a key that cannot be seen yet. -/
def addReads (h : Handle) (rs : Registries) (d : Draft Callback) : List Entry :=
  match rs.accept h d with
  | .error _ => []
  | .ok (key, _) => rs.findReads h key

/-- The entries that are read when a function is registered in any case: none. -/
def ensureReads (_ : Handle) (_ : Registries) (_ : Draft Callback) : List Entry := []

/-- The entries that are read when a function is replaced. -/
def editReads (h : Handle) (_ : Registries) (d : Draft Callback) : List Entry :=
  match d.toDescriptor with
  | .error _ => []
  | .ok d => [(h, d.key)]

/-- The entries that are read when a function is taken away. -/
def removeReads (h : Handle) (_ : Registries) (name : Value) : List Entry :=
  match FunctionName.keyOf name with
  | .error _ => []
  | .ok key => [(h, key)]

/-- The entries that are read when changes are made one by one. -/
def stepReads {α : Type} (step : Registries → α → Except Failure (Registries × List Notice))
    (reads : Registries → α → List Entry) : Registries → List α → List Entry
  | _, [] => []
  | rs, a :: as =>
    reads rs a ++
      match step rs a with
      | .error _ => []
      | .ok (rs, _) => stepReads step reads rs as

/-- The entries that a change reads. -/
def changeReads (rs : Registries) (h : Handle) : Change Callback → List Entry
  | .add ds => stepReads (add h) (addReads h) rs ds
  | .ensure ds => stepReads (ensure h) (ensureReads h) rs ds
  | .edit ds => stepReads (edit h) (editReads h) rs ds
  | .remove ns => stepReads (remove h) (removeReads h) rs ns

variable {rs rs' : Registries} {h h' a : Handle} {key : String} {e : Entry}
  {f : Table (Descriptor Callback) → Table (Descriptor Callback)}

/-! ### Single registries -/

theorem entries_eq (rs : Registries) (h : Handle) : rs.entries h = (rs.registry h).entries := by
  unfold entries registry
  cases rs.all[h]? with
  | none => rfl
  | some r => rfl

theorem chain_eq (rs : Registries) (h : Handle) : rs.chain h = h :: (rs.registry h).below := by
  unfold chain registry
  cases rs.all[h]? with
  | none => rfl
  | some r => rfl

/-- A key is found where the first of the registries that hold it has it. -/
theorem find?_eq (rs : Registries) (h : Handle) (key : String) :
    rs.find? h key = (rs.chain h).findSome? (rs.held? · key) := by
  unfold find? owner?
  induction rs.chain h with
  | nil => rfl
  | cons a as ih =>
    rw [List.find?_cons, List.findSome?_cons, held?]
    cases held : (rs.entries a).get? key with
    | none => simpa [Table.contains, held] using ih
    | some d => simp [Table.contains, held]

theorem isSome_owner? (rs : Registries) (h : Handle) (key : String) :
    (rs.owner? h key).isSome = (rs.find? h key).isSome := by
  unfold find?
  cases owner : rs.owner? h key with
  | none => rfl
  | some a =>
    have held := List.find?_some owner
    simpa [Table.contains] using held.symm

theorem registry_modify (rs : Registries) (h : Handle) (f) (a : Handle) :
    (rs.modify h f).registry a =
      if a = h ∧ h < rs.next then { rs.registry h with entries := f (rs.registry h).entries }
      else rs.registry a := by
  unfold modify registry next
  rw [List.getElem?_modify]
  by_cases here : a = h
  · subst here
    by_cases there : a < rs.all.length
    · simp [there]
    · simp [there]
  · simp [here, Ne.symm here]

theorem next_modify (rs : Registries) (h : Handle) (f) : (rs.modify h f).next = rs.next :=
  List.length_modify ..

theorem registry_push_next (rs : Registries) (r : Registry) : (rs.push r).registry rs.next = r := by
  unfold push registry next
  rw [List.getElem?_concat_length]
  rfl

theorem registry_push_of_lt (old : a < rs.next) (r : Registry) :
    (rs.push r).registry a = rs.registry a := by
  unfold push registry
  rw [List.getElem?_append_left old]

theorem next_push (rs : Registries) (r : Registry) : (rs.push r).next = rs.next + 1 :=
  List.length_append

/-! ### Registries that are still there -/

/-- Every registry is still there, for the same version and over the same registries. -/
def Extends (rs rs' : Registries) : Prop :=
  ∀ a < rs.next, a < rs'.next ∧ (rs'.registry a).version = (rs.registry a).version ∧
    (rs'.registry a).below = (rs.registry a).below

theorem Extends.refl (rs : Registries) : Extends rs rs := fun _ old => ⟨old, rfl, rfl⟩

theorem Extends.trans {rs'' : Registries} (first : Extends rs rs') (second : Extends rs' rs'') :
    Extends rs rs'' := by
  intro a old
  obtain ⟨still, version, below⟩ := first a old
  obtain ⟨still', version', below'⟩ := second a still
  exact ⟨still', version'.trans version, below'.trans below⟩

theorem extends_modify (rs : Registries) (h : Handle) (f) : Extends rs (rs.modify h f) := by
  intro a old
  rw [next_modify, registry_modify]
  refine ⟨old, ?_⟩
  split
  · next here => exact here.1 ▸ ⟨rfl, rfl⟩
  · exact ⟨rfl, rfl⟩

theorem extends_push (rs : Registries) (r : Registry) : Extends rs (rs.push r) := by
  intro a old
  rw [next_push, registry_push_of_lt old]
  exact ⟨Nat.lt_succ_of_lt old, rfl, rfl⟩

/-! ### Counterparts -/

/-- Two registries, each among registries of its own, for the same version and over the same
registries. -/
structure Level (h h' : Handle) (rs rs' : Registries) : Prop where
  version : (rs.registry h).version = (rs'.registry h').version
  below : (rs.registry h).below = (rs'.registry h').below

/-- Two registries that take the same part, each among registries of its own. -/
structure Counterparts (h h' : Handle) (rs rs' : Registries) : Prop extends Level h h' rs rs' where
  here : h < rs.next
  there : h' < rs'.next
  /-- The registries below are there on both sides, and none of them is one of the two, unless the
  two have the same reference. -/
  known : ∀ a ∈ (rs.registry h).below, a < rs.next ∧ a < rs'.next ∧ (a = h ↔ a = h')

/-- Whether two registries, each among registries of its own, agree on an entry of their own or of
a registry below. -/
def AgreeAt (h h' : Handle) (rs rs' : Registries) (e : Entry) : Prop :=
  (e.1 = h → rs.held? h e.2 = rs'.held? h' e.2) ∧
    (e.1 ∈ (rs.registry h).below → rs.held? e.1 e.2 = rs'.held? e.1 e.2)

theorem AgreeAt.refl (h : Handle) (rs : Registries) (e : Entry) : AgreeAt h h rs rs e :=
  ⟨fun _ => rfl, fun _ => rfl⟩

theorem Counterparts.extend {rs₁ rs₁' : Registries} (pair : Counterparts h h' rs rs')
    (grown : Extends rs rs₁) (grown' : Extends rs' rs₁') : Counterparts h h' rs₁ rs₁' := by
  obtain ⟨here, version, below⟩ := grown h pair.here
  obtain ⟨there, version', below'⟩ := grown' h' pair.there
  refine ⟨⟨?_, ?_⟩, here, there, fun a lower => ?_⟩
  · rw [version, version', pair.version]
  · rw [below, below', pair.below]
  · obtain ⟨known, known', apart⟩ := pair.known a (below ▸ lower)
    exact ⟨(grown a known).1, (grown' a known').1, apart⟩

theorem findSome?_congr {as : List Handle}
    (agree : ∀ a ∈ rs.consulted key as, rs.held? a key = rs'.held? a key) :
    as.findSome? (rs.held? · key) = as.findSome? (rs'.held? · key) := by
  induction as with
  | nil => rfl
  | cons a as ih =>
    have first : rs.held? a key = rs'.held? a key := agree a List.mem_cons_self
    rw [List.findSome?_cons, List.findSome?_cons, ← first]
    cases held : rs.held? a key with
    | some d => rfl
    | none =>
      refine ih fun b later => agree b ?_
      rw [consulted, held]
      exact List.mem_cons_of_mem a later

theorem mem_of_consulted {as : List Handle} (mem : a ∈ rs.consulted key as) : a ∈ as := by
  induction as with
  | nil => cases mem
  | cons b as ih =>
    rw [consulted] at mem
    obtain rfl | later := List.mem_cons.1 mem
    · exact List.mem_cons_self
    · split at later
      · cases later
      · exact List.mem_cons_of_mem b (ih later)

/-- **What is found under a key depends only on the entries that are consulted.** -/
theorem find?_congr (level : Level h h' rs rs')
    (agree : ∀ e ∈ rs.findReads h key, AgreeAt h h' rs rs' e) :
    rs.find? h key = rs'.find? h' key := by
  have agree (b : Handle) (mem : b ∈ rs.consulted key (rs.chain h)) :
      AgreeAt h h' rs rs' (b, key) := agree _ (List.mem_map_of_mem mem)
  rw [find?_eq, find?_eq, chain_eq, chain_eq, ← level.below]
  rw [chain_eq, consulted] at agree
  have own : rs.held? h key = rs'.held? h' key := (agree h List.mem_cons_self).1 rfl
  -- The two registries themselves come first; what is below them is the same list for both.
  rw [List.findSome?_cons, List.findSome?_cons, ← own]
  cases held : rs.held? h key with
  | some d => rfl
  | none =>
    refine findSome?_congr fun b later => (agree b ?_).2 (mem_of_consulted later)
    rw [held]
    exact List.mem_cons_of_mem h later

/-- A change of a table that is made key by key. -/
def Keywise (f : Table (Descriptor Callback) → Table (Descriptor Callback)) : Prop :=
  ∀ t t' key, t.get? key = t'.get? key → (f t).get? key = (f t').get? key

theorem keywise_insert (key : String) (d : Descriptor Callback) : Keywise (·.insert key d) := by
  intro t t' other before
  show Table.get? (Table.insert _ _ _) _ = Table.get? (Table.insert _ _ _) _
  rw [Table.get?_insert, Table.get?_insert, before]

theorem keywise_erase (key : String) : Keywise (·.erase key) := by
  intro t t' other before
  show Table.get? (Table.erase _ _) _ = Table.get? (Table.erase _ _) _
  rw [Table.get?_erase, Table.get?_erase, before]

theorem held?_modify (rs : Registries) (h : Handle) (f) (a : Handle) (key : String) :
    (rs.modify h f).held? a key =
      if a = h ∧ h < rs.next then Table.get? (f (rs.entries h)) key else rs.held? a key := by
  rw [held?, entries_eq, registry_modify, held?, entries_eq, entries_eq]
  split
  · rfl
  · rfl

/-- Counterparts to which the same is done, key by key, still agree on what they agreed on. -/
theorem AgreeAt.modify (agree : AgreeAt h h' rs rs' e) (pair : Counterparts h h' rs rs')
    (keywise : Keywise f) : AgreeAt h h' (rs.modify h f) (rs'.modify h' f) e := by
  obtain ⟨a, key⟩ := e
  have own (here : a = h) : (rs.modify h f).held? h key = (rs'.modify h' f).held? h' key := by
    rw [held?_modify, if_pos ⟨rfl, pair.here⟩, held?_modify, if_pos ⟨rfl, pair.there⟩]
    exact keywise _ _ key (agree.1 here)
  refine ⟨own, fun lower => ?_⟩
  rw [(extends_modify rs h f h pair.here).2.2] at lower
  obtain ⟨-, -, apart⟩ := pair.known a lower
  show (rs.modify h f).held? a key = (rs'.modify h' f).held? a key
  -- A registry may lie below itself, but then the two have the same reference.
  by_cases here : a = h
  · have there : a = h' := apart.1 here
    exact (congrArg (held? _ · key) here).trans
      ((own here).trans (congrArg (held? _ · key) there.symm))
  · have there : a ≠ h' := mt apart.2 here
    rw [held?_modify, held?_modify, if_neg (not_and_of_not_left _ here),
      if_neg (not_and_of_not_left _ there)]
    exact agree.2 lower

/-! ### Changes -/

/-- Two steps of a change that go alike: both are refused for the same cause, or the same is told
about both and the same is done, key by key, to both registries. -/
inductive StepAlike (h h' : Handle) (rs rs' : Registries) :
    Except Failure (Registries × List Notice) → Except Failure (Registries × List Notice) → Prop
  where
  | refused (e : Failure) : StepAlike h h' rs rs' (.error e) (.error e)
  | made {f : Table (Descriptor Callback) → Table (Descriptor Callback)} (keywise : Keywise f)
      (notices : List Notice) :
      StepAlike h h' rs rs' (.ok (rs.modify h f, notices)) (.ok (rs'.modify h' f, notices))

variable {α : Type} {step : Handle → Registries → α → Except Failure (Registries × List Notice)}
  {reads : Handle → Registries → α → List Entry}

/-- A step of a change goes alike for registries that agree on the entries that it reads. -/
def Stepwise (step : Handle → Registries → α → Except Failure (Registries × List Notice))
    (reads : Handle → Registries → α → List Entry) : Prop :=
  ∀ h h' rs rs' a, Level h h' rs rs' → (∀ e ∈ reads h rs a, AgreeAt h h' rs rs' e) →
    StepAlike h h' rs rs' (step h rs a) (step h' rs' a)

theorem accept_congr (level : Level h h' rs rs') (d : Draft Callback) :
    rs.accept h d = rs'.accept h' d := by
  have same (d : Descriptor Callback) : (rs.registry h).accept d = (rs'.registry h').accept d := by
    unfold Registry.accept
    rw [level.version]
  unfold accept
  simp only [same]

theorem stepwise_add : Stepwise add addReads := by
  intro h h' rs rs' d level agree
  unfold add
  rw [← accept_congr level d]
  rw [addReads] at agree
  cases accepted : rs.accept h d with
  | error e => exact .refused e
  | ok entry =>
    obtain ⟨key, d⟩ := entry
    rw [accepted] at agree
    have found : (rs.owner? h key).isSome = (rs'.owner? h' key).isSome := by
      rw [isSome_owner?, isSome_owner?, find?_congr level agree]
    cases owner : rs.owner? h key with
    | some a =>
      rw [owner] at found
      obtain ⟨a', owner'⟩ := Option.isSome_iff_exists.1 found.symm
      simp only [bind, Except.bind, owner, owner']
      exact .refused _
    | none =>
      rw [owner] at found
      have owner' : rs'.owner? h' key = none := by simpa using found.symm
      simp only [bind, Except.bind, owner, owner']
      exact .made (keywise_insert key d) _

theorem stepwise_ensure : Stepwise ensure ensureReads := by
  intro h h' rs rs' d level _
  unfold ensure
  rw [← accept_congr level d]
  cases rs.accept h d with
  | error e => exact .refused e
  | ok entry => exact .made (keywise_insert entry.1 entry.2) _

theorem contains_congr (agree : AgreeAt h h' rs rs' (h, key)) :
    (rs.entries h).contains key = (rs'.entries h').contains key :=
  congrArg Option.isSome (agree.1 rfl)

theorem stepwise_edit : Stepwise edit editReads := by
  intro h h' rs rs' d level agree
  unfold edit
  rw [editReads] at agree
  cases accepted : d.toDescriptor with
  | error e => exact .refused _
  | ok d =>
    rw [accepted] at agree
    simp only [← contains_congr (agree _ List.mem_cons_self)]
    split
    · exact .made (keywise_insert d.key d) _
    · exact .refused _

theorem stepwise_remove : Stepwise remove removeReads := by
  intro h h' rs rs' name level agree
  unfold remove
  rw [removeReads] at agree
  cases accepted : FunctionName.keyOf name with
  | error e => exact .refused e
  | ok key =>
    rw [accepted] at agree
    simp only [bind, Except.bind, ← contains_congr (agree _ List.mem_cons_self)]
    split
    · exact .made (keywise_erase key) _
    · exact .refused _

/-- A step that goes alike for counterparts does nothing but give a registry other functions. -/
theorem Stepwise.extends_step (stepwise : Stepwise step reads) {x : α} {notices : List Notice}
    (made : step h rs x = .ok (rs', notices)) : Extends rs rs' := by
  have alike := stepwise h h rs rs x ⟨rfl, rfl⟩ fun e _ => .refl h rs e
  rw [made] at alike
  cases alike with
  | made keywise => exact extends_modify rs h _

theorem Stepwise.extends_steps (stepwise : Stepwise step reads) (xs : List α) :
    Extends rs (steps (step h) rs xs).registries := by
  induction xs generalizing rs with
  | nil => exact .refl rs
  | cons x xs ih =>
    rw [steps]
    cases made : step h rs x with
    | error e => exact .refl rs
    | ok r => exact (stepwise.extends_step made).trans ih

/-- The same change to two registries: the same is told, it stops for the same cause, and the two
are still counterparts and agree on what they agreed on. -/
structure ChangedAlike (h h' : Handle) (rs rs' : Registries) (c c' : Changed) : Prop where
  notices : c.notices = c'.notices
  failure : c.failure = c'.failure
  pair : Counterparts h h' c.registries c'.registries
  agree : ∀ e, AgreeAt h h' rs rs' e → AgreeAt h h' c.registries c'.registries e

/-- Changes that are made one by one go alike for counterparts that agree on what is read. -/
theorem Stepwise.steps (stepwise : Stepwise step reads) {xs : List α}
    (pair : Counterparts h h' rs rs')
    (agree : ∀ e ∈ stepReads (step h) (reads h) rs xs, AgreeAt h h' rs rs' e) :
    ChangedAlike h h' rs rs' (steps (step h) rs xs) (steps (step h') rs' xs) := by
  induction xs generalizing rs rs' with
  | nil => exact ⟨rfl, rfl, pair, fun _ same => same⟩
  | cons x xs ih =>
    rw [stepReads] at agree
    have now := stepwise h h' rs rs' x pair.toLevel fun e mem =>
      agree e (List.mem_append_left _ mem)
    rw [Registries.steps, Registries.steps]
    generalize made : step h rs x = r, step h' rs' x = r' at now agree
    cases now with
    | refused e => exact ⟨rfl, rfl, pair, fun _ same => same⟩
    | made keywise notices =>
      obtain ⟨told, failed, later, kept⟩ :=
        ih (pair.extend (extends_modify rs h _) (extends_modify rs' h' _)) fun e mem =>
          (agree e (List.mem_append_right _ mem)).modify pair keywise
      refine ⟨congrArg (notices ++ ·) told, failed, later, fun e same => ?_⟩
      exact kept e (same.modify pair keywise)

/-- **The same change to two counterparts** that agree on the entries that it reads. -/
theorem apply_alike (pair : Counterparts h h' rs rs') {c : Change Callback}
    (agree : ∀ e ∈ rs.changeReads h c, AgreeAt h h' rs rs' e) :
    ChangedAlike h h' rs rs' (rs.apply h c) (rs'.apply h' c) := by
  have nothing (e : Failure) : ChangedAlike h h' rs rs' ⟨rs, [], some e⟩ ⟨rs', [], some e⟩ :=
    ⟨rfl, rfl, pair, fun _ same => same⟩
  cases c with
  | add ds => exact stepwise_add.steps pair agree
  | ensure ds => exact stepwise_ensure.steps pair agree
  | edit ds =>
    cases ds with
    | nil => exact nothing _
    | cons d ds => exact stepwise_edit.steps pair agree
  | remove ns =>
    cases ns with
    | nil => exact nothing _
    | cons n ns => exact stepwise_remove.steps pair agree

/-- Registering functions in any case reads nothing. -/
theorem changeReads_ensure (rs : Registries) (h : Handle) (ds : List (Draft Callback)) :
    rs.changeReads h (.ensure ds) = [] := by
  show stepReads (ensure h) (ensureReads h) rs ds = []
  induction ds generalizing rs with
  | nil => rfl
  | cons d ds ih =>
    rw [stepReads]
    cases ensure h rs d with
    | error e => rfl
    | ok r => exact ih r.1

/-- A change leaves every registry where it is. -/
theorem extends_apply (rs : Registries) (h : Handle) (c : Change Callback) :
    Extends rs (rs.apply h c).registries := by
  cases c with
  | add ds => exact stepwise_add.extends_steps ds
  | ensure ds => exact stepwise_ensure.extends_steps ds
  | edit ds =>
    cases ds with
    | nil => exact .refl rs
    | cons d ds => exact stepwise_edit.extends_steps (d :: ds)
  | remove ns =>
    cases ns with
    | nil => exact .refl rs
    | cons n ns => exact stepwise_remove.extends_steps (n :: ns)

/-- A new registry leaves every registry where it is. -/
theorem extends_layer (rs : Registries) (base : Handle) (ds : List (Draft Callback)) :
    Extends rs (rs.layer base ds).2 := by
  unfold layer
  dsimp only
  split
  · exact (extends_push rs _).trans (extends_apply _ _ _)
  · exact .refl rs

section Layers

variable {base : Handle}

/-- All that can be seen from a counterpart of a registry with the same reference is there. -/
theorem Counterparts.seen (pair : Counterparts base base rs rs') (mem : a ∈ rs.chain base) :
    a < rs.next ∧ a < rs'.next := by
  rw [chain_eq] at mem
  obtain rfl | lower := List.mem_cons.1 mem
  · exact ⟨pair.here, pair.there⟩
  · exact ⟨(pair.known a lower).1, (pair.known a lower).2.1⟩

theorem AgreeAt.seen (agree : AgreeAt base base rs rs' (a, key)) (mem : a ∈ rs.chain base) :
    rs.held? a key = rs'.held? a key := by
  rw [chain_eq] at mem
  obtain rfl | lower := List.mem_cons.1 mem
  · exact agree.1 rfl
  · exact agree.2 lower

/-- New registries over the same one are counterparts before anything is registered in them. -/
theorem Counterparts.layered (pair : Counterparts base base rs rs') :
    Counterparts rs.next rs'.next (rs.push (rs.child base (rs.registry base).version))
      (rs'.push (rs'.child base (rs'.registry base).version)) where
  version := by
    rw [registry_push_next, registry_push_next]
    exact pair.version
  below := by
    rw [registry_push_next, registry_push_next]
    show rs.chain base = rs'.chain base
    rw [chain_eq, chain_eq, pair.below]
  here := Nat.lt_of_lt_of_eq (Nat.lt_succ_self _) (next_push ..).symm
  there := Nat.lt_of_lt_of_eq (Nat.lt_succ_self _) (next_push ..).symm
  known := fun a mem => by
    rw [registry_push_next] at mem
    obtain ⟨here, there⟩ := pair.seen mem
    rw [next_push, next_push]
    -- What is below was there before, and so is neither of the new ones.
    exact ⟨Nat.lt_succ_of_lt here, Nat.lt_succ_of_lt there,
      iff_of_false (Nat.ne_of_lt here) (Nat.ne_of_lt there)⟩

/-- New registries over the same one hold nothing at first, and agree on what is below. -/
theorem AgreeAt.layered (agree : AgreeAt base base rs rs' e)
    (pair : Counterparts base base rs rs') :
    AgreeAt rs.next rs'.next (rs.push (rs.child base (rs.registry base).version))
      (rs'.push (rs'.child base (rs'.registry base).version)) e := by
  obtain ⟨a, key⟩ := e
  refine ⟨fun _ => ?_, fun mem => ?_⟩
  · rw [held?, entries_eq, registry_push_next, held?, entries_eq, registry_push_next]
    rfl
  · rw [registry_push_next] at mem
    obtain ⟨here, there⟩ := pair.seen mem
    have same : rs.held? a key = rs'.held? a key := agree.seen mem
    show (Registries.push _ _).held? a key = (Registries.push _ _).held? a key
    rw [held?, entries_eq, held?, entries_eq] at same ⊢
    rwa [registry_push_of_lt here, registry_push_of_lt there]

/-- **New registries over the same one are counterparts.** If what they are to hold is refused, it
is refused in both cases for the same cause and there is no new registry; otherwise they agree on
all that the registries below agree on. -/
theorem layer_alike (pair : Counterparts base base rs rs')
    (ds : List (Draft Callback)) :
    (∃ e, rs.layer base ds = (.error e, rs) ∧ rs'.layer base ds = (.error e, rs')) ∨
      ∃ grown grown', rs.layer base ds = (.ok rs.next, grown) ∧
        rs'.layer base ds = (.ok rs'.next, grown') ∧
        Counterparts rs.next rs'.next grown grown' ∧
        ∀ e, AgreeAt base base rs rs' e → AgreeAt rs.next rs'.next grown grown' e := by
  have changed := apply_alike (c := .ensure ds) pair.layered fun e mem => by
    rw [changeReads_ensure] at mem
    cases mem
  unfold layer
  dsimp only
  rw [changed.failure]
  split
  · exact .inr ⟨_, _, rfl, rfl, changed.pair, fun e same => changed.agree e (same.layered pair)⟩
  · next e _ => exact .inl ⟨e, rfl, rfl⟩

end Layers

end Registries

end CommandScript
