import CommandScript.Proofs.Function.Supplanting

/-!
# Changes one after the other

A change of several items acts as the changes of the single ones, one after the other, up to the
first that is refused. If one can tell from the registries at the start and from the items in front
whether the step of an item is refused and what it leaves, then the same can be told of the whole
change: it stops at the first bad item, and what it leaves is what the items in front leave.

## Main definitions

- `CommandScript.Registries.inTurn` — changes one after the other
- `CommandScript.Registries.StopsAt` — where they are refused
- `CommandScript.Registries.Sound` — items of which none is bad
- `CommandScript.Registries.StopsAtFirst` — the law of a change of several items
- `CommandScript.Registries.Judged` — what is asked of the single steps

## Main results

- `CommandScript.Registries.steps_append` — steps go on where the steps before them ended
- `CommandScript.Registries.Judged.stopsAtFirst` — the law, from what the single steps do
-/

namespace CommandScript

namespace Registries

variable {α : Type} {rs : Registries} {h : Handle} {make : List α → Change Callback}
  {step : Registries → α → Except Failure (Registries × List Notice)}
  {Bad : List α → α → Prop} {before as items : List α} {x : α}

/-! ### One after the other -/

/-- Makes changes to a registry one after the other, up to the first that is refused. -/
def inTurn (rs : Registries) (h : Handle) : List (Change Callback) → Changed
  | [] => ⟨rs, [], none⟩
  | c :: cs =>
    let now := rs.apply h c
    match now.failure with
    | some _ => now
    | none =>
      let later := now.registries.inTurn h cs
      { later with notices := now.notices ++ later.notices }

/-- Whether a change of several items, made one after the other, is refused at an item: those in
front are not refused, and it is. -/
def StopsAt (rs : Registries) (h : Handle) (make : List α → Change Callback) (before : List α)
    (x : α) : Prop :=
  (rs.inTurn h (before.map fun b => make [b])).failure = none ∧
    ((rs.inTurn h (before.map fun b => make [b])).registries.apply h (make [x])).failure.isSome

/-- Items of which none is bad, as told by those in front of it. -/
def Sound (Bad : List α → α → Prop) (as : List α) : Prop :=
  ∀ before x after, as = before ++ x :: after → ¬Bad before x

theorem sound_nil : Sound Bad [] := by
  intro before x after split
  cases before <;> cases split

theorem sound_append_singleton :
    Sound Bad (as ++ [x]) ↔ Sound Bad as ∧ ¬Bad as x := by
  constructor
  · intro sound
    refine ⟨fun before y after split => sound before y (after ++ [x]) ?_, sound as x [] rfl⟩
    rw [split, List.append_assoc, List.cons_append]
  · rintro ⟨sound, good⟩ before y after split
    obtain rfl | ⟨rest, z, rfl⟩ := after.eq_nil_or_concat
    · obtain ⟨rfl, last⟩ := List.append_inj' split rfl
      cases last
      exact good
    · rw [List.concat_eq_append, ← List.cons_append, ← List.append_assoc] at split
      obtain ⟨rfl, -⟩ := List.append_inj' split rfl
      exact sound before y rest rfl

/-- Among items that are not sound there is a first bad one. -/
theorem exists_first_bad (unsound : ¬Sound Bad as) :
    ∃ before x after, as = before ++ x :: after ∧ Sound Bad before ∧ Bad before x := by
  induction as using List.reverseRecOn with
  | nil => exact absurd sound_nil unsound
  | append_singleton as x ih =>
    by_cases sound : Sound Bad as
    · refine ⟨as, x, [], rfl, sound, by_contra fun good => unsound ?_⟩
      exact sound_append_singleton.2 ⟨sound, good⟩
    · obtain ⟨before, y, after, rfl, first⟩ := ih sound
      exact ⟨before, y, after ++ [x], by rw [List.append_assoc, List.cons_append], first⟩

/-- The law of a change of several items: it acts as the changes of the single ones, one after the
other; it stops at the first bad item; and then the registry holds what it held, changed by the
items in front, and otherwise by all items. -/
structure StopsAtFirst (rs : Registries) (h : Handle) (make : List α → Change Callback)
    (Bad : List α → α → Prop)
    (done : List α → Table (Descriptor Callback) → Table (Descriptor Callback))
    (as : List α) : Prop where
  in_turn : rs.apply h (make as) = rs.inTurn h (as.map fun x => make [x])
  stops_iff : ∀ before x after, as = before ++ x :: after →
    (rs.StopsAt h make before x ↔ Sound Bad before ∧ Bad before x)
  refused_iff : (rs.apply h (make as)).failure.isSome ↔
    ∃ before x after, as = before ++ x :: after ∧ rs.StopsAt h make before x
  stopped : ∀ before x after, as = before ++ x :: after → rs.StopsAt h make before x →
    (rs.apply h (make as)).registries = rs.modify h (done before) ∧
      (rs.apply h (make as)).failure.isSome ∧
      (rs.apply h (make as)).failure = ((rs.modify h (done before)).apply h (make [x])).failure
  finished : Sound Bad as → (rs.apply h (make as)).failure = none ∧
    (rs.apply h (make as)).registries = rs.modify h (done as)

/-! ### From single steps -/

/-- What the single steps of a change do, as told by the registries at its start and by the items in
front. -/
structure Judged (step : Registries → α → Except Failure (Registries × List Notice))
    (rs : Registries) (items : List α) (Bad : List α → α → Prop) (done : List α → Registries) :
    Prop where
  start : done [] = rs
  refused : ∀ before, ∀ x ∈ items, Sound Bad before → Bad before x →
    ∃ e, step (done before) x = .error e
  made : ∀ before, ∀ x ∈ items, Sound Bad before → ¬Bad before x →
    ∃ notices, step (done before) x = .ok (done (before ++ [x]), notices)

variable {done : List α → Registries}

theorem steps_append (rs : Registries) (as bs : List α) :
    steps step rs (as ++ bs) =
      match (steps step rs as).failure with
      | some _ => steps step rs as
      | none =>
        let later := steps step (steps step rs as).registries bs
        { later with notices := (steps step rs as).notices ++ later.notices } := by
  induction as generalizing rs with
  | nil => rfl
  | cons x as ih =>
    rw [List.cons_append, steps, steps]
    cases made : step rs x with
    | error e => rfl
    | ok r =>
      dsimp only
      rw [ih]
      cases refused : (steps step r.1 as).failure with
      | some e =>
        dsimp only
        rw [refused]
      | none => simp only [List.append_assoc]

theorem Judged.steps_of_sound (judged : Judged step rs items Bad done) (mem : ∀ x ∈ as, x ∈ items)
    (sound : Sound Bad as) :
    (steps step rs as).failure = none ∧ (steps step rs as).registries = done as := by
  induction as using List.reverseRecOn with
  | nil => exact ⟨rfl, judged.start.symm⟩
  | append_singleton as x ih =>
    obtain ⟨sound, good⟩ := sound_append_singleton.1 sound
    obtain ⟨unrefused, left⟩ := ih (fun y there => mem y (List.mem_append_left _ there)) sound
    obtain ⟨notices, made⟩ :=
      judged.made as x (mem x (List.mem_append_right _ List.mem_cons_self)) sound good
    rw [steps_append, unrefused, left, steps, made]
    exact ⟨rfl, rfl⟩

theorem Judged.steps_of_bad (judged : Judged step rs items Bad done)
    (mem : ∀ y ∈ before ++ x :: as, y ∈ items) (sound : Sound Bad before) (bad : Bad before x) :
    (steps step rs (before ++ x :: as)).registries = done before ∧
      (steps step rs (before ++ x :: as)).failure = (steps step (done before) [x]).failure ∧
      (steps step (done before) [x]).failure.isSome := by
  obtain ⟨unrefused, left⟩ :=
    judged.steps_of_sound (fun y there => mem y (List.mem_append_left _ there)) sound
  obtain ⟨e, refused⟩ :=
    judged.refused before x (mem x (List.mem_append_right _ List.mem_cons_self)) sound bad
  rw [steps_append, unrefused, left, steps, steps, refused]
  exact ⟨rfl, rfl, rfl⟩

/-- Steps none of which is refused are made for sound items. -/
theorem Judged.sound_of_unrefused (judged : Judged step rs items Bad done)
    (mem : ∀ x ∈ as, x ∈ items) (unrefused : (steps step rs as).failure = none) :
    Sound Bad as := by
  induction as using List.reverseRecOn with
  | nil => exact sound_nil
  | append_singleton as x ih =>
    have earlier : (steps step rs as).failure = none := by
      cases refused : (steps step rs as).failure with
      | none => rfl
      | some e =>
        rw [steps_append, refused] at unrefused
        exact refused.symm.trans unrefused
    have sound := ih (fun y there => mem y (List.mem_append_left _ there)) earlier
    refine sound_append_singleton.2 ⟨sound, fun bad => ?_⟩
    obtain ⟨-, same, refused⟩ := judged.steps_of_bad mem sound bad
    rw [← same, unrefused] at refused
    cases refused

theorem inTurn_eq_steps (single : ∀ rs x, rs.apply h (make [x]) = steps step rs [x])
    (rs : Registries) (as : List α) :
    rs.inTurn h (as.map fun x => make [x]) = steps step rs as := by
  induction as generalizing rs with
  | nil => rfl
  | cons x as ih =>
    rw [List.map_cons, inTurn, single, steps, steps]
    cases step rs x with
    | error e => rfl
    | ok r =>
      dsimp only [steps]
      rw [ih, List.append_nil]

/-- A change is refused at an item exactly if that is the first bad one. -/
theorem Judged.stopsAt_iff (judged : Judged step rs items Bad done)
    (single : ∀ rs x, rs.apply h (make [x]) = steps step rs [x])
    (mem : ∀ y ∈ before ++ x :: as, y ∈ items) :
    rs.StopsAt h make before x ↔ Sound Bad before ∧ Bad before x := by
  have front (y : α) (there : y ∈ before) : y ∈ items := mem y (List.mem_append_left _ there)
  have here : x ∈ items := mem x (List.mem_append_right _ List.mem_cons_self)
  rw [StopsAt, inTurn_eq_steps single, single]
  constructor
  · rintro ⟨unrefused, refused⟩
    have sound := judged.sound_of_unrefused front unrefused
    refine ⟨sound, by_contra fun good => ?_⟩
    obtain ⟨notices, made⟩ := judged.made before x here sound good
    rw [(judged.steps_of_sound front sound).2, steps, made] at refused
    cases refused
  · rintro ⟨sound, bad⟩
    obtain ⟨unrefused, left⟩ := judged.steps_of_sound front sound
    obtain ⟨e, refused⟩ := judged.refused before x here sound bad
    rw [left, steps, refused]
    exact ⟨unrefused, rfl⟩

/-- **A change of several items stops at the first bad one**, if the single steps are judged. -/
theorem Judged.stopsAtFirst
    {change : List α → Table (Descriptor Callback) → Table (Descriptor Callback)}
    (judged : Judged step rs as Bad fun before => rs.modify h (change before))
    (single : ∀ rs x, rs.apply h (make [x]) = steps step rs [x])
    (whole : rs.apply h (make as) = steps step rs as) :
    StopsAtFirst rs h make Bad change as := by
  have stops_iff (before : List α) (x : α) (after : List α) (split : as = before ++ x :: after) :
      rs.StopsAt h make before x ↔ Sound Bad before ∧ Bad before x :=
    judged.stopsAt_iff single fun y there => split ▸ there
  have stopped (before : List α) (x : α) (after : List α) (split : as = before ++ x :: after)
      (stops : rs.StopsAt h make before x) :
      (rs.apply h (make as)).registries = rs.modify h (change before) ∧
        (rs.apply h (make as)).failure.isSome ∧
        (rs.apply h (make as)).failure =
          ((rs.modify h (change before)).apply h (make [x])).failure := by
    obtain ⟨sound, bad⟩ := (stops_iff before x after split).1 stops
    subst split
    obtain ⟨left, same, refused⟩ := judged.steps_of_bad (fun y there => there) sound bad
    rw [whole, single, same]
    exact ⟨left, refused, rfl⟩
  have finished (sound : Sound Bad as) : (rs.apply h (make as)).failure = none ∧
      (rs.apply h (make as)).registries = rs.modify h (change as) := by
    rw [whole]
    exact judged.steps_of_sound (fun x there => there) sound
  have refused_iff : (rs.apply h (make as)).failure.isSome ↔
      ∃ before x after, as = before ++ x :: after ∧ rs.StopsAt h make before x := by
    constructor
    · intro refused
      have unsound : ¬Sound Bad as := fun sound => by
        rw [(finished sound).1] at refused
        cases refused
      obtain ⟨before, x, after, split, first⟩ := exists_first_bad unsound
      exact ⟨before, x, after, split, (stops_iff before x after split).2 first⟩
    · rintro ⟨before, x, after, split, stops⟩
      exact (stopped before x after split stops).2.1
  exact ⟨whole.trans (inTurn_eq_steps single rs as).symm, stops_iff, refused_iff, stopped, finished⟩

/-- What a change leaves is always what some sound items leave. -/
theorem StopsAtFirst.exists_sound
    {change : List α → Table (Descriptor Callback) → Table (Descriptor Callback)}
    (law : StopsAtFirst rs h make Bad change as) :
    ∃ front, Sound Bad front ∧ (rs.apply h (make as)).registries = rs.modify h (change front) := by
  by_cases sound : Sound Bad as
  · exact ⟨as, sound, (law.finished sound).2⟩
  · obtain ⟨before, x, after, split, first⟩ := exists_first_bad sound
    have stops := (law.stops_iff before x after split).2 first
    exact ⟨before, first.1, (law.stopped before x after split stops).1⟩

/-! ### Tables of a registry -/

theorem modify_congr {g g' : Table (Descriptor Callback) → Table (Descriptor Callback)}
    (same : g (rs.entries h) = g' (rs.entries h)) : rs.modify h g = rs.modify h g' := by
  refine congrArg Registries.mk (List.ext_getElem? fun i => ?_)
  rw [List.getElem?_modify, List.getElem?_modify]
  split
  · next here =>
    subst here
    unfold entries at same
    cases there : rs.all[h]? with
    | none => rfl
    | some r =>
      rw [there] at same
      have own : g r.entries = g' r.entries := same
      show some { r with entries := g r.entries } = some { r with entries := g' r.entries }
      rw [own]
  · rfl

theorem modify_eq_self {g : Table (Descriptor Callback) → Table (Descriptor Callback)}
    (same : g (rs.entries h) = rs.entries h) : rs.modify h g = rs := by
  have unchanged : rs.modify h id = rs := congrArg Registries.mk (List.modify_id ..)
  exact (modify_congr same).trans unchanged

theorem modify_modify (rs : Registries) (h : Handle) (g g') :
    (rs.modify h g).modify h g' = rs.modify h fun t => g' (g t) :=
  congrArg Registries.mk (List.modify_modify_eq ..)

end Registries

end CommandScript
