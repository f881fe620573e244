import CommandScript.Proofs.Dispatch.Frames
import CommandScript.Proofs.Script.Arguments

/-!
# The lines of a dispatch

Calls and arguments carry the line on which they start in the whole command string, however many
calls are around them. The body of a function is a command string of its own; what is evaluated in
it counts from the line of its call.

## Main definitions

- `CommandScript.Stacked` — what may be evaluated inside what
- `CommandScript.ByArguments` — frames that are inside one another by arguments alone
- `CommandScript.Reached` — what stands before a frame in the whole command string
- `CommandScript.KeepsLines` — what lines mean for a run

## Main results

- `CommandScript.Steps.stacked` — the frames of a run are inside one another as they may be
- `CommandScript.Reached.place` — a frame stands where it is reached, and its line says so
- `CommandScript.Evaluation.lines_absolute` — the lines of a run among any surroundings
-/

namespace CommandScript

/-- The frame as written. -/
def Frame.source : Frame → List Char
  | .text cs _ => cs
  | .call c _ => c.source

/-- The line of a frame. -/
def Frame.line : Frame → Int
  | .text _ line => line
  | .call c _ => c.line

section

variable (source : List Char) (first : Int)

/-- Frames that may be inside one another: command strings where they may be evaluated, and calls in
the command string that they belong to. -/
inductive Stacked : List Frame → Prop
  | nil : Stacked []
  | text {cs : List Char} {line : Int} {fs : List Frame} (begins : Begins source first fs cs line)
      (rest : Stacked fs) : Stacked (.text cs line :: fs)
  | call {c : Script.Call} {f : Descriptor Callback} {cs : List Char} {line : Int} {fs : List Frame}
      (here : c.In cs line) (rest : Stacked (.text cs line :: fs)) :
      Stacked (.call c f :: .text cs line :: fs)

/-- What stands before the innermost frame in the whole command string, where each frame is reached
through the calls and arguments around it. -/
inductive Reached : List Frame → List Char → Prop
  | whole : Reached [.text source first] []
  | call {c : Script.Call} {f : Descriptor Callback} {cs ahead : List Char} {line : Int}
      {fs : List Frame} (here : c.In cs line) (around : Reached (.text cs line :: fs) ahead) :
      Reached (.call c f :: .text cs line :: fs) (ahead ++ cs.take c.offset)
  | argument {c : Script.Call} {f : Descriptor Callback} {cs ahead : List Char} {line i : Int}
      {fs : List Frame} (read : c.argumentAt? i = some (cs, line))
      (around : Reached (.call c f :: fs) ahead) :
      Reached (.text cs line :: .call c f :: fs) (ahead ++ c.opening i.toNat)

end

/-- Every command string directly inside a call is one of its arguments. -/
def ByArguments : List Frame → Prop
  | [] => True
  | .call .. :: fs => ByArguments fs
  | [.text ..] => True
  | .text cs line :: .call c f :: fs =>
    (∃ i, c.argumentAt? i = some (cs, line)) ∧ ByArguments (.call c f :: fs)
  | .text .. :: .text cs line :: fs => ByArguments (.text cs line :: fs)

section

variable {scope : Scope} {source ahead cs : List Char} {first line : Int} {p p' : Place}
  {x : Exchange} {es : List Exchange} {fs : List Frame} {frame : Frame} {c : Script.Call}

/-- A place at which a run may be. A function that is due was found for a call in the innermost
command string. -/
def Place.Valid (source : List Char) (first : Int) (p : Place) : Prop :=
  Stacked source first p.frames ∧
    ∀ c f, p.stage = .found c f → ∃ cs line fs, p.frames = .text cs line :: fs ∧ c.In cs line

theorem Step.valid (step : Step scope source first p x p') (valid : p.Valid source first) :
    p'.Valid source first := by
  obtain ⟨stacked, due⟩ := valid
  cases step with
  | change | effect | unknown | returned | refusing | refused | halting => exact ⟨stacked, nofun⟩
  | rendering begins => exact ⟨.text begins stacked, nofun⟩
  | rendered =>
    cases stacked with
    | text _ rest => exact ⟨rest, nofun⟩
  | found here =>
    refine ⟨stacked, fun c' f' eq => ?_⟩
    obtain ⟨rfl, rfl⟩ := Stage.found.inj eq
    exact ⟨_, _, _, rfl, here⟩
  | entering =>
    obtain ⟨cs, line, fs, rfl, here⟩ := due _ _ rfl
    exact ⟨.call here stacked, nofun⟩
  | leaving =>
    cases stacked with
    | call _ rest => exact ⟨rest, nofun⟩

theorem Steps.valid (run : Steps scope source first p es p') (valid : p.Valid source first) :
    p'.Valid source first := by
  induction run with
  | nil => exact valid
  | cons step _ ih => exact ih (step.valid valid)

/-- The frames of a run are inside one another as they may be. -/
theorem Steps.stacked (run : Steps scope source first ⟨[], .free⟩ es p) :
    Stacked source first p.frames :=
  (run.valid ⟨.nil, nofun⟩).1

/-- Where no function with a body is around, every command string directly inside a call is one of
its arguments. -/
theorem Stacked.byArguments (stacked : Stacked source first fs)
    (native : ∀ c name code params version,
      .call c (.scripted name code params version) ∉ fs.tail) : ByArguments fs := by
  induction stacked with
  | nil => trivial
  | @text cs line fs begins rest ih =>
    have within := ih fun c name code params version mem =>
      native c name code params version (List.mem_of_mem_tail mem)
    cases begins with
    | whole => trivial
    | argument read => exact ⟨⟨_, read⟩, within⟩
    | body => exact absurd (.head _) (native _ _ _ _ _)
  | call _ _ ih =>
    exact ih fun c name code params version mem => native c name code params version (.tail _ mem)

/-- Frames that are inside one another by arguments are reached in the whole command string. -/
theorem Stacked.exists_reached (stacked : Stacked source first (frame :: fs))
    (arguments : ByArguments (frame :: fs)) :
    ∃ ahead, Reached source first (frame :: fs) ahead := by
  generalize eq : frame :: fs = all at *
  induction stacked generalizing frame fs with
  | nil => cases eq
  | @text cs line fs begins rest ih =>
    cases begins with
    | whole => exact ⟨[], .whole⟩
    | argument | body =>
      obtain ⟨⟨i, read⟩, within⟩ := arguments
      obtain ⟨ahead, around⟩ := ih rfl within
      exact ⟨_, .argument read around⟩
  | call here _ ih =>
    obtain ⟨ahead, around⟩ := ih rfl arguments
    exact ⟨_, .call here around⟩

/-- A call in a command string stands where its offset and its line say. -/
theorem Script.Call.In.place (here : c.In cs line) :
    cs.take c.offset ++ c.source <+: cs ∧ c.line = line + lineEnds (cs.take c.offset) ∧
      Script.IsIdentifier c.name := by
  obtain ⟨parts, segmented, mem⟩ := here
  have read : Reads 0 line (glyphs cs) parts := segmentsFrom_eq_ok_iff.1 segmented
  have named := read.isIdentifier mem
  obtain ⟨before, after, rfl⟩ := List.append_of_mem mem
  obtain ⟨-, front, onLine⟩ := read.place
  have spelled : Script.source before ++ (c.source ++ Script.source after) = cs := by
    rw [← spell_glyphs cs, ← read.source_eq, source_append, source_cons, Segment.source]
  refine ⟨⟨Script.source after, ?_⟩, onLine, named⟩
  rw [front, List.append_assoc, spelled]

theorem Reached.isIdentifier {f : Descriptor Callback}
    (h : Reached source first (.call c f :: fs) ahead) : Script.IsIdentifier c.name := by
  cases h with
  | call here _ => exact here.place.2.2

/-- A frame that is reached stands there in the whole command string, and its line is the line that
is reached there. -/
theorem Reached.place (h : Reached source first (frame :: fs) ahead) :
    ahead ++ frame.source <+: source ∧ frame.line = first + Script.lineEnds ahead := by
  -- What is inside a frame stands in it, and so further on in the whole.
  have inside {before text part : List Char} (cut : before ++ text <+: source)
      (inner : part <+: text) : before ++ part <+: source :=
    ((List.prefix_append_right_inj _).2 inner).trans cut
  generalize eq : frame :: fs = all at h
  induction h generalizing frame fs with
  | whole =>
    obtain ⟨rfl, rfl⟩ := List.cons.inj eq
    exact ⟨List.prefix_refl _, (Int.add_zero _).symm⟩
  | call here _ ih =>
    obtain ⟨rfl, rfl⟩ := List.cons.inj eq
    obtain ⟨cut, line⟩ := ih rfl
    obtain ⟨inner, onLine, -⟩ := here.place
    rw [List.append_assoc, Script.lineEnds_append, Int.natCast_add, ← Int.add_assoc]
    exact ⟨inside cut inner, onLine.trans (congrArg (· + _) line)⟩
  | argument read around ih =>
    obtain ⟨rfl, rfl⟩ := List.cons.inj eq
    obtain ⟨cut, line⟩ := ih rfl
    obtain ⟨inner, onLine⟩ := Script.Call.argument_place around.isIdentifier read
    rw [List.append_assoc, Script.lineEnds_append, Int.natCast_add, ← Int.add_assoc]
    exact ⟨inside cut inner, onLine.trans (congrArg (· + _) line)⟩

end

/-- A frame stands where something is ahead of it, and its lines say so. -/
structure Frame.Placed (source : List Char) (first : Int) (ahead : List Char) (frame : Frame) :
    Prop where
  /-- The frame stands in the whole command string. -/
  stands : ahead ++ frame.source <+: source
  /-- Its line is the first line and the line ends before it. -/
  line_eq : frame.line = first + Script.lineEnds ahead
  /-- This is the line that the function of a call sees. -/
  view : ∀ c f scope d, frame = .call c f →
    ∃ v, Evaluation.view scope c d = pure (v, d) ∧ v.line = first + Script.lineEnds ahead
  /-- The arguments of a call stand where they are written, and have the line that is reached there,
  whether they are read or not. -/
  argument : ∀ c f i a line, frame = .call c f → c.argumentAt? i = some (a, line) →
    ahead ++ c.opening i.toNat ++ a <+: source ∧
      line = first + Script.lineEnds (ahead ++ c.opening i.toNat)

/-- What lines mean for a run with the given exchanges, in which a command string is evaluated from
a line on. -/
structure KeepsLines (source : List Char) (first : Int) (es : List Exchange) : Prop where
  /-- Where no function with a body is around, everything is evaluated by arguments. -/
  byArguments : ∀ before after, es = before ++ after →
    (∀ c name code params version,
      .call c (.scripted name code params version) ∉ (frames before).tail) →
    ByArguments (frames before)
  /-- What is evaluated by arguments, at any moment, is reached in the whole command string. -/
  reached : ∀ before after frame fs, es = before ++ after → frames before = frame :: fs →
    ByArguments (frame :: fs) → ∃ ahead, Reached source first (frame :: fs) ahead
  /-- Wherever it is reached, it stands there, and its lines say so. -/
  placed : ∀ frame fs ahead, Reached source first (frame :: fs) ahead →
    frame.Placed source first ahead

section

variable {source ahead : List Char} {first : Int} {fs : List Frame} {frame : Frame}

/-- A frame that is reached is placed. -/
theorem Reached.placed (h : Reached source first (frame :: fs) ahead) :
    frame.Placed source first ahead where
  stands := h.place.1
  line_eq := h.place.2
  view := by
    rintro c f scope d rfl
    exact ⟨_, rfl, h.place.2⟩
  argument := by
    rintro c f i a line rfl read
    exact (Reached.argument (f := f) read h).place

end

namespace Evaluation

/-- **Lines are absolute at every depth.** Among any surroundings, and so with any functions and
callbacks: while a command string is evaluated from a line on, each call and each argument that is
reached through any number of calls, by arguments alone, has the line that is reached in the whole
command string where it stands. -/
theorem lines_absolute {σ : Type} (answer : σ → (q : Question) → q.Answer × σ) (s : σ)
    (scope : Scope) (source : List Char) (first : Int) (d : Dispatch) :
    KeepsLines source first
      (exchanges answer s (render scope scope.settings.maxDepth source first) d) := by
  have run : Steps scope source first ⟨[], .free⟩
      (exchanges answer s (render scope scope.settings.maxDepth source first) d) ⟨[], .free⟩ :=
    advances_render (Nat.zero_add _) .whole σ answer s
  have stacked {before after : List Exchange}
      (split : exchanges answer s (render scope scope.settings.maxDepth source first) d =
        before ++ after) : Stacked source first (frames before) := by
    rw [split] at run
    obtain ⟨p, front, -⟩ := run.of_append
    exact front.frames_eq ▸ front.stacked
  refine ⟨fun before after split native => ?_, fun before after frame fs split eq arguments => ?_,
    fun frame fs ahead reached => reached.placed⟩
  · exact (stacked split).byArguments native
  · exact (eq ▸ stacked split).exists_reached arguments

end Evaluation

end CommandScript
