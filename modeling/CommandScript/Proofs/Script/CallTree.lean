import CommandScript.Proofs.Script.Joining

/-!
# Trees of calls

The calls of a command string, with the calls inside each of them, and the calls inside those. The
calls inside a call are read from its text as a whole. They are those of its arguments, each read by
itself, one argument after the other: no call reaches over a separator at which the text is cut.

## Main definitions

- `CommandScript.Script.Forest` — calls with the calls inside them
- `CommandScript.Script.Forest.postOrder` — the calls, each after those inside it
- `CommandScript.Script.forest`, `CommandScript.Script.tree` — what calls and command strings grow
  to
- `CommandScript.Script.Call.unplaced` — a call wherever it stands in its line
- `CommandScript.Script.Inside` — the calls of a command string at any depth

## Main results

- `CommandScript.Script.exists_tree` — a command string in which every call is closed has a tree
- `CommandScript.Script.forest_unplaced` — what calls grow to does not depend on where they stand
- `CommandScript.Script.tree_separated` — the tree of two texts with a separator between them
- `CommandScript.Script.exists_trees` — the tree of arguments that are joined is made of theirs
- `CommandScript.Script.nested_eq_flatten` — both ways to find the calls inside a call agree
-/

namespace CommandScript.Script

/-- Calls one after the other, each with the calls inside it. -/
inductive Forest where
  | nil
  | cons (c : Call) (inside rest : Forest)

namespace Forest

/-- The calls from left to right, each after those inside it. -/
def postOrder : Forest → List Call
  | .nil => []
  | .cons c inside rest => inside.postOrder ++ c :: rest.postOrder

/-- How many calls there are inside one another. -/
def height : Forest → Nat
  | .nil => 0
  | .cons _ inside rest => max (inside.height + 1) rest.height

/-- The calls of one forest, and then those of another. -/
def append : Forest → Forest → Forest
  | .nil, g => g
  | .cons c inside rest, g => .cons c inside (rest.append g)

@[simp] theorem postOrder_append (f g : Forest) :
    (f.append g).postOrder = f.postOrder ++ g.postOrder := by
  induction f with
  | nil => rfl
  | cons c inside rest _ ih => rw [append, postOrder, ih, postOrder, List.append_assoc]; rfl

@[simp] theorem height_append (f g : Forest) :
    (f.append g).height = max f.height g.height := by
  induction f with
  | nil => exact (Nat.zero_max _).symm
  | cons c inside rest _ ih => rw [append, height, ih, height, Nat.max_assoc]

end Forest

/-- How much text there is in calls. -/
def weight : List Call → Nat
  | [] => 0
  | c :: cs => c.raw.length + 1 + weight cs

section Weight

variable {line : Int} {parts : List Segment} {cs : List Char} {inner : List Call}

theorem weight_le_source (parts : List Segment) :
    weight (parts.filterMap Segment.call?) ≤ (source parts).length := by
  induction parts with
  | nil => exact Nat.le_refl 0
  | cons part parts ih =>
    rw [source_cons, List.length_append]
    cases part with
    | literal raw => exact Nat.le_add_left_of_le ih
    | call c =>
      have one : c.raw.length + 1 ≤ c.source.length := by
        simp only [Call.source, List.length_append, List.length_cons]
        omega
      exact Nat.add_le_add one ih

theorem calls_eq_ok_iff :
    calls cs line = .ok inner ↔
      ∃ parts, segments cs line = .ok parts ∧ parts.filterMap Segment.call? = inner := by
  unfold calls
  constructor
  · exact exists_of_map_eq_ok
  · rintro ⟨parts, read, rfl⟩
    rw [read]
    rfl

/-- There is less text in the calls inside a text than in the text. -/
theorem weight_le_of_calls (read : calls cs line = .ok inner) : weight inner ≤ cs.length := by
  obtain ⟨parts, segmented, rfl⟩ := calls_eq_ok_iff.1 read
  exact source_of_segments segmented ▸ weight_le_source parts

theorem mem_filterMap_call?_iff {c : Call} :
    c ∈ parts.filterMap Segment.call? ↔ .call c ∈ parts := by
  rw [List.mem_filterMap]
  constructor
  · rintro ⟨part, mem, eq⟩
    cases part with
    | literal raw => cases eq
    | call d =>
      obtain rfl := Option.some.inj eq
      exact mem
  · exact fun mem => ⟨_, mem, rfl⟩

/-- The texts between the brackets of calls that are read are closed. -/
theorem balanced_of_segments (read : segments cs line = .ok parts) :
    ∀ c ∈ parts.filterMap Segment.call?, Balanced (glyphs c.raw) := by
  intro c mem
  exact balanced_raw read (mem_filterMap_call?_iff.1 mem)

end Weight

/-- The forest that calls grow to when those inside each of them are read, and those inside
these. -/
def forest : List Call → Except ParseError Forest
  | [] => .ok .nil
  | c :: cs =>
    match _inside : c.nested with
    | .error e => .error e
    | .ok inner => (forest inner).bind fun f => (forest cs).map (.cons c f)
termination_by cs => weight cs
decreasing_by
  · have := weight_le_of_calls _inside
    rw [weight]
    omega
  · rw [weight]
    omega

/-- The forest of the calls of a command string. -/
def tree (cs : List Char) (line : Int) : Except ParseError Forest := (calls cs line).bind forest

section Growth

variable {line : Int} {cs : List Char} {c : Call} {xs ys inner : List Call} {f g : Forest}

@[simp] theorem forest_nil : forest [] = .ok .nil := by rw [forest]

/-- The first call grows to what its text grows to, and the others grow after it. -/
theorem forest_cons (c : Call) (cs : List Call) :
    forest (c :: cs) =
      (tree c.raw c.line).bind fun inside => (forest cs).map (.cons c inside) := by
  rw [forest, tree]
  change _ = (c.nested.bind forest).bind _
  split
  · next failed => rw [failed]; rfl
  · next read => rw [read]; rfl

theorem forest_cons_eq_ok_iff :
    forest (c :: xs) = .ok f ↔ ∃ inside rest, tree c.raw c.line = .ok inside ∧
      forest xs = .ok rest ∧ f = .cons c inside rest := by
  rw [forest_cons]
  cases tree c.raw c.line with
  | error e => simp [Except.bind]
  | ok inside =>
    cases forest xs with
    | error e => simp [Except.bind, Except.map]
    | ok rest => simp [Except.bind, Except.map, eq_comm]

theorem tree_eq_ok_iff :
    tree cs line = .ok f ↔ ∃ inner, calls cs line = .ok inner ∧ forest inner = .ok f := by
  unfold tree
  cases calls cs line with
  | error e => simp [Except.bind]
  | ok inner => simp [Except.bind]

@[simp] theorem tree_nil : tree [] line = .ok .nil :=
  tree_eq_ok_iff.2 ⟨[], calls_eq_ok_iff.2 ⟨[], segmentsFrom_nil, rfl⟩, forest_nil⟩

/-- Calls one after the other grow side by side. -/
theorem forest_append (first : forest xs = .ok f) (second : forest ys = .ok g) :
    forest (xs ++ ys) = .ok (f.append g) := by
  induction xs generalizing f with
  | nil =>
    rw [forest_nil] at first
    cases first
    exact second
  | cons c xs ih =>
    obtain ⟨inside, rest, grown, others, rfl⟩ := forest_cons_eq_ok_iff.1 first
    exact forest_cons_eq_ok_iff.2 ⟨inside, _, grown, ih others, rfl⟩

/-- Calls grow where the texts between their brackets are closed. -/
theorem exists_forest (closed : ∀ c ∈ xs, Balanced (glyphs c.raw)) :
    ∃ f, forest xs = .ok f := by
  -- What is inside a call has less text than the call, and is closed in turn.
  induction size : weight xs using Nat.strong_induction_on generalizing xs with
  | _ n ih =>
    cases xs with
    | nil => exact ⟨.nil, forest_nil⟩
    | cons c xs =>
      obtain ⟨first, others⟩ := List.forall_mem_cons.1 closed
      obtain ⟨parts, read⟩ := segmentsFrom_of_level? first 0 c.line
      have inside : calls c.raw c.line = .ok (parts.filterMap Segment.call?) :=
        calls_eq_ok_iff.2 ⟨parts, read, rfl⟩
      have less := weight_le_of_calls inside
      have split : weight (c :: xs) = c.raw.length + 1 + weight xs := rfl
      obtain ⟨f, grown⟩ := ih _ (by omega) (balanced_of_segments read) rfl
      obtain ⟨g, rest⟩ := ih _ (by omega) others rfl
      exact ⟨_, forest_cons_eq_ok_iff.2 ⟨f, g, tree_eq_ok_iff.2 ⟨_, inside, grown⟩, rest, rfl⟩⟩

/-- A command string in which every call is closed has a tree. -/
theorem exists_tree {parts : List Segment} (read : segments cs line = .ok parts) :
    ∃ f, forest (parts.filterMap Segment.call?) = .ok f ∧ tree cs line = .ok f := by
  obtain ⟨f, grown⟩ := exists_forest (balanced_of_segments read)
  exact ⟨f, grown, tree_eq_ok_iff.2 ⟨_, calls_eq_ok_iff.2 ⟨parts, read, rfl⟩, grown⟩⟩

end Growth

/-- The call, wherever it stands in its command string. -/
def Call.unplaced (c : Call) : Call := { c with offset := 0 }

/-- The forest, wherever its calls stand in their command strings. -/
def Forest.unplaced : Forest → Forest
  | .nil => .nil
  | .cons c inside rest => .cons c.unplaced inside.unplaced rest.unplaced

section Unplaced

variable {xs ys : List Call} {f g : Forest}

@[simp] theorem unplaced_moved (k : Nat) (c : Call) : (c.moved k 0).unplaced = c.unplaced := by
  rw [Call.unplaced, Call.moved, Int.add_zero]
  rfl

@[simp] theorem postOrder_unplaced (f : Forest) :
    f.unplaced.postOrder = f.postOrder.map Call.unplaced := by
  induction f with
  | nil => rfl
  | cons c inside rest ih ih' =>
    rw [Forest.unplaced, Forest.postOrder, ih, ih', Forest.postOrder, List.map_append,
      List.map_cons]

@[simp] theorem height_unplaced (f : Forest) : f.unplaced.height = f.height := by
  induction f with
  | nil => rfl
  | cons c inside rest ih ih' => rw [Forest.unplaced, Forest.height, ih, ih', Forest.height]

/-- What calls grow to does not depend on where they stand. -/
theorem forest_unplaced (same : xs.map Call.unplaced = ys.map Call.unplaced)
    (grown : forest xs = .ok f) (grown' : forest ys = .ok g) : f.unplaced = g.unplaced := by
  induction xs generalizing ys f g with
  | nil =>
    obtain rfl := List.map_eq_nil_iff.1 same.symm
    rw [grown] at grown'
    cases grown'
    rfl
  | cons c xs ih =>
    obtain ⟨d, ys', rfl, eq, same⟩ := List.map_eq_cons_iff.1 same.symm
    obtain ⟨inside, rest, tree, others, rfl⟩ := forest_cons_eq_ok_iff.1 grown
    obtain ⟨inside', rest', tree', others', rfl⟩ := forest_cons_eq_ok_iff.1 grown'
    obtain ⟨-, text, -, line⟩ := Call.mk.inj eq
    rw [text, line, tree] at tree'
    cases tree'
    rw [Forest.unplaced, Forest.unplaced, eq, ih same.symm others others']

end Unplaced

section Separated

variable {offset offset' : Nat} {line line' : Int} {g : Glyph} {gs hs : List Glyph}
  {ps qs : List Segment} {a b : List Char} {xs ys : List Call}

@[simp] theorem filterMap_call?_consGlyph :
    (consGlyph g ps).filterMap Segment.call? = ps.filterMap Segment.call? := by
  match ps with
  | [] => rfl
  | .literal raw :: rest => rfl
  | .call c :: rest => rfl

/-- The head of a call has no separator in it. -/
theorem separator_notMem_head {name : List Char} (identifier : IsIdentifier name) :
    .plain ';' ∉ name.map Glyph.plain ++ [.plain '['] := by
  intro mem
  obtain inName | bracket := List.mem_append.1 mem
  · obtain ⟨c, mem, eq⟩ := List.mem_map.1 inName
    obtain rfl := Glyph.plain.inj eq
    obtain ⟨d, rest, rfl, letter, others⟩ := identifier
    obtain rfl | later := List.mem_cons.1 mem
    · exact absurd letter (by decide)
    · exact absurd (others _ later) (by decide)
  · exact absurd (List.mem_singleton.1 bracket) (by decide)

/-- Where no call begins, none begins if a separator and something else come later. -/
theorem head?_separator (literal : head? gs = none) : head? (gs ++ .plain ';' :: hs) = none := by
  -- The head of a call would end before the separator, and so begin a call without it.
  by_contra found
  obtain ⟨⟨name, after⟩, found⟩ := Option.ne_none_iff_exists'.1 found
  obtain ⟨identifier, eq⟩ := head?_eq_some_iff.1 found
  rw [List.append_cons (name.map Glyph.plain)] at eq
  have shorter (rest : List Glyph) : gs ≠ name.map .plain ++ [.plain '['] ++ rest := by
    rintro rfl
    rw [head?_eq_some_iff.2 ⟨identifier, List.append_assoc ..⟩] at literal
    cases literal
  obtain ⟨front, head, separated⟩ | ⟨rest, longer, -⟩ := List.append_eq_append_iff.1 eq
  · cases front with
    | nil => exact shorter [] (by rw [List.append_nil, head, List.append_nil])
    | cons g front =>
      obtain ⟨rfl, -⟩ := List.cons.inj separated
      exact separator_notMem_head identifier (head ▸ List.mem_append_right gs List.mem_cons_self)
  · exact shorter rest longer

/-- Glyphs with a separator between them are read one after the other. -/
theorem Reads.separated (first : Reads offset line gs ps)
    (offsets : offset' = offset + (spell gs).length + 1)
    (lines : line' = line + lineEnds (spell gs)) (second : Reads offset' line' hs qs) :
    ∃ parts, Reads offset line (gs ++ .plain ';' :: hs) parts ∧
      parts.filterMap Segment.call? =
        ps.filterMap Segment.call? ++ qs.filterMap Segment.call? := by
  induction first with
  | @nil offset line =>
    have next : Reads (offset + (Glyph.plain ';').width)
        (line + lineEnds (Glyph.plain ';').chars) hs qs := by
      subst offsets lines
      exact second
    exact ⟨_, .glyph (by simp) next, by simp⟩
  | @call offset line gs after body rest name ps head closed others ih =>
    have spelled := spell_call offset line head closed
    obtain ⟨identifier, rfl⟩ := head?_eq_some_iff.1 head
    obtain ⟨parts, read, calls⟩ := ih
      (by rw [offsets, spelled, List.length_append]; omega)
      (by rw [lines, spelled, lineEnds_append, Int.natCast_add, Int.add_assoc])
    have head' : head? (name.map .plain ++ .plain '[' :: after ++ .plain ';' :: hs) =
        some (name, after ++ .plain ';' :: hs) :=
      head?_eq_some_iff.2 ⟨identifier, List.append_assoc ..⟩
    refine ⟨_, .call head' (enclosed?_append _ closed) read, ?_⟩
    exact congrArg (_ :: ·) calls
  | @glyph offset line g gs ps literal others ih =>
    obtain ⟨parts, read, calls⟩ := ih
      (by rw [offsets, spell_cons, List.length_append, Glyph.width_eq]; omega)
      (by rw [lines, spell_cons, lineEnds_append, Int.natCast_add, Int.add_assoc])
    refine ⟨_, .glyph (fun dollar => head?_separator (literal dollar)) read, ?_⟩
    rw [filterMap_call?_consGlyph, filterMap_call?_consGlyph, calls]

/-- Segments that stand further on have the same calls, further on. -/
theorem filterMap_call?_moved (k : Nat) :
    (qs.map (Segment.moved k 0)).filterMap Segment.call? =
      (qs.filterMap Segment.call?).map (Call.moved k 0) := by
  induction qs with
  | nil => rfl
  | cons part qs ih =>
    cases part with
    | literal raw => exact ih
    | call c => exact congrArg (_ :: ·) ih

/-- The calls of two texts with a separator between them are those of the first, and then those of
the second from the line that is reached there. -/
theorem calls_separated (last : (glyphs a).getLast? ≠ some (.plain '\\'))
    (first : calls a line = .ok xs) (second : calls b (line + lineEnds a) = .ok ys) :
    ∃ zs, calls (a ++ ';' :: b) line = .ok zs ∧
      zs.map Call.unplaced = (xs ++ ys).map Call.unplaced := by
  obtain ⟨ps, read, rfl⟩ := calls_eq_ok_iff.1 first
  obtain ⟨qs, read', rfl⟩ := calls_eq_ok_iff.1 second
  have moved := segmentsFrom_moved (a.length + 1) 0 (glyphs b) 0 (line + lineEnds a)
  rw [show segmentsFrom 0 (line + lineEnds a) (glyphs b) = .ok qs from read'] at moved
  obtain ⟨parts, joined, eq⟩ := (segmentsFrom_eq_ok_iff.1 read).separated
    (by rw [spell_glyphs, Nat.zero_add, Nat.zero_add])
    (by rw [spell_glyphs, Int.add_zero]) (segmentsFrom_eq_ok_iff.1 moved)
  rw [← glyphs_append_separator last] at joined
  refine ⟨_, calls_eq_ok_iff.2 ⟨parts, segmentsFrom_eq_ok_iff.2 joined, rfl⟩, ?_⟩
  rw [eq, List.map_append, List.map_append, filterMap_call?_moved, List.map_map]
  exact congrArg (_ ++ ·) (List.map_congr_left fun c _ => unplaced_moved _ c)

/-- The tree of two closed texts with a separator between them is made of theirs. -/
theorem tree_separated {f : Forest} (closed : Closed a) (closed' : Closed b)
    (grown : tree (a ++ ';' :: b) line = .ok f) :
    ∃ g h, tree a line = .ok g ∧ tree b (line + lineEnds a) = .ok h ∧
      f.unplaced = (g.append h).unplaced := by
  obtain ⟨ps, read⟩ := segmentsFrom_of_level? closed.1 0 line
  obtain ⟨qs, read'⟩ := segmentsFrom_of_level? closed'.1 0 (line + lineEnds a)
  obtain ⟨g, first, tree⟩ := exists_tree read
  obtain ⟨h, second, tree'⟩ := exists_tree read'
  obtain ⟨zs, calls, same⟩ := calls_separated closed.2 (calls_eq_ok_iff.2 ⟨ps, read, rfl⟩)
    (calls_eq_ok_iff.2 ⟨qs, read', rfl⟩)
  obtain ⟨_, calls', grown⟩ := tree_eq_ok_iff.1 grown
  rw [calls] at calls'
  cases calls'
  exact ⟨g, h, tree, tree', forest_unplaced same grown (forest_append first second)⟩

end Separated

section Joined

variable {line : Int} {as : List (List Char)} {f : Forest}

/-- The tree of texts that are joined is made of theirs, if they may be arguments. -/
theorem exists_trees (each : ∀ a ∈ as, IsArgument a) (grown : tree (joined as) line = .ok f) :
    ∃ fs, List.Forall₂ (fun p g => tree p.1 p.2 = .ok g) (as.zip (linesFrom line as)) fs ∧
      f.postOrder.map Call.unplaced = (fs.flatMap Forest.postOrder).map Call.unplaced ∧
      ∀ g ∈ fs, g.height ≤ f.height := by
  induction as generalizing line f with
  | nil =>
    rw [joined_nil, tree_nil] at grown
    cases grown
    exact ⟨[], .nil, rfl, List.forall_mem_nil _⟩
  | cons a as ih =>
    obtain ⟨⟨closed, -⟩, others⟩ := List.forall_mem_cons.1 each
    cases as with
    | nil =>
      rw [joined_singleton] at grown
      exact ⟨[f], .cons grown .nil, by rw [List.flatMap_singleton], by simp⟩
    | cons b as =>
      rw [joined_cons_cons] at grown
      obtain ⟨g, h, first, rest, same⟩ := tree_separated closed (closed_joined others) grown
      have order := congrArg Forest.postOrder same
      have height := congrArg Forest.height same
      rw [postOrder_unplaced, postOrder_unplaced, Forest.postOrder_append] at order
      rw [height_unplaced, height_unplaced, Forest.height_append] at height
      obtain ⟨fs, trees, order', low⟩ := ih others rest
      refine ⟨g :: fs, .cons first trees, ?_, List.forall_mem_cons.2 ⟨by omega, ?_⟩⟩
      · rw [order, List.flatMap_cons, List.map_append, List.map_append, order']
      · exact fun g' mem => (low g' mem).trans (by omega)

end Joined

/-! ### Calls inside calls -/

/-- The calls of a command string at any depth: its own, those directly inside a call, and those of
an argument that is read by itself from its line on. -/
inductive Inside (cs : List Char) (line : Int) : Call → Prop
  | own {xs : List Call} {c : Call} (read : calls cs line = .ok xs) (mem : c ∈ xs) :
      Inside cs line c
  | nested {xs : List Call} {c d : Call} (outer : Inside cs line c) (read : c.nested = .ok xs)
      (mem : d ∈ xs) : Inside cs line d
  | argument {xs : List Call} {c d : Call} {a : List Char} {m : Int} (outer : Inside cs line c)
      (argument : (a, m) ∈ c.arguments.zip (argumentLines c.raw c.line))
      (read : calls a m = .ok xs) (mem : d ∈ xs) : Inside cs line d

section

variable {cs : List Char} {line : Int} {xs : List Call} {as : List (List Char)} {c : Call}

/-- The text between the brackets of a call that is found is closed. -/
theorem closed_of_mem_calls (read : calls cs line = .ok xs) (mem : c ∈ xs) : Closed c.raw := by
  obtain ⟨parts, segmented, rfl⟩ := calls_eq_ok_iff.1 read
  exact (segmentsFrom_eq_ok_iff.1 segmented).closed (isReading_glyphs cs)
    (mem_filterMap_call?_iff.1 mem)

theorem Inside.closed (h : Inside cs line c) : Closed c.raw := by
  cases h with
  | own read mem => exact closed_of_mem_calls read mem
  | nested _ read mem => exact closed_of_mem_calls read mem
  | argument _ _ read mem => exact closed_of_mem_calls read mem

theorem exists_calls_of_closed (closed : Closed cs) (line : Int) :
    ∃ xs, calls cs line = .ok xs := by
  obtain ⟨parts, read⟩ := segmentsFrom_of_level? closed.1 0 line
  exact ⟨_, calls_eq_ok_iff.2 ⟨parts, read, rfl⟩⟩

/-- The calls of texts that are joined are those of the texts, one text after the other, if these
may be arguments. -/
theorem exists_calls (each : ∀ a ∈ as, IsArgument a) (line : Int) :
    ∃ xs yss, calls (joined as) line = .ok xs ∧
      List.Forall₂ (fun p ys => calls p.1 p.2 = .ok ys) (as.zip (linesFrom line as)) yss ∧
      xs.map Call.unplaced = yss.flatten.map Call.unplaced := by
  induction as generalizing line with
  | nil => exact ⟨[], [], calls_eq_ok_iff.2 ⟨[], by simp [segments, glyphs], rfl⟩, .nil, rfl⟩
  | cons a as ih =>
    obtain ⟨⟨closed, -⟩, others⟩ := List.forall_mem_cons.1 each
    obtain ⟨ys, first⟩ := exists_calls_of_closed closed line
    cases as with
    | nil => exact ⟨ys, [ys], by rwa [joined_singleton], .cons first .nil, by simp⟩
    | cons b as =>
      obtain ⟨zs, yss, rest, found, same⟩ := ih others (line + lineEnds a)
      obtain ⟨xs, whole, eq⟩ := calls_separated closed.2 first rest
      refine ⟨xs, ys :: yss, by rwa [joined_cons_cons], .cons first found, ?_⟩
      rw [eq, List.flatten_cons, List.map_append, List.map_append, same]

end

/-- **Both ways to find the calls inside a call agree.** For a call of a command string at any
depth: the text between its brackets can be read, and so can each of its arguments from its line
on; and the calls that are found in the text are those found in the arguments, one argument after
the other, with the same names, texts and lines. -/
theorem nested_eq_flatten {cs : List Char} {line : Int} {c : Call} (h : Inside cs line c) :
    ∃ xs yss, c.nested = .ok xs ∧
      List.Forall₂ (fun p ys => calls p.1 p.2 = .ok ys)
        (c.arguments.zip (argumentLines c.raw c.line)) yss ∧
      xs.map Call.unplaced = yss.flatten.map Call.unplaced := by
  have arguments : ∀ a ∈ c.arguments, IsArgument a := fun _ => isArgument_of_mem h.closed
  obtain ⟨xs, yss, whole, each, same⟩ := exists_calls arguments c.line
  rw [Call.arguments, joined_arguments] at whole
  exact ⟨xs, yss, whole, each, same⟩

/-- A call inside another one, with a call in each of its arguments, the second on the next line. -/
theorem nested_eq_flatten_lines :
    let raw := ['$', 'g', '[', ']', ';', '\n', '$', 'h', '[', ']']
    let c : Call := ⟨['f'], raw, 0, 7⟩
    Inside ('$' :: 'e' :: '[' :: (c.source ++ [']'])) 7 c ∧
      ∃ xs yss, c.nested = .ok xs ∧
        List.Forall₂ (fun p ys => calls p.1 p.2 = .ok ys)
          (c.arguments.zip (argumentLines c.raw c.line)) yss ∧
        xs.map Call.unplaced = yss.flatten.map Call.unplaced := by
  intro raw c
  have own : calls ('$' :: 'e' :: '[' :: (c.source ++ [']'])) 7 = .ok [⟨['e'], c.source, 0, 7⟩] :=
    calls_eq_ok_iff.2 ⟨_, (segmentsFrom_call rfl rfl).trans (by rw [segmentsFrom_nil]; rfl), rfl⟩
  have inner : calls c.source 7 = .ok [c] :=
    calls_eq_ok_iff.2 ⟨_, (segmentsFrom_call rfl rfl).trans (by rw [segmentsFrom_nil]; rfl), rfl⟩
  have inside : Inside ('$' :: 'e' :: '[' :: (c.source ++ [']'])) 7 c :=
    .nested (.own own (.head _)) inner (.head _)
  exact ⟨inside, nested_eq_flatten inside⟩

end CommandScript.Script
